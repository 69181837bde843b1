import Eros.CbSafety

/-!
# Waking a hart from `wfi`

A pending interrupt wakes the hart.  With interrupts enabled the core enters
`handler_safe_fsm` and comes back by `mret`, otherwise it goes on.  What entry
and return do to the trap registers belongs to the core and is a parameter with
the one fact the return relies on: entry saves the resume address in `mepc`.
-/

set_option autoImplicit false

namespace Eros

open Rv32
open ByteMemory (Mem Write InRegion Apart)

structure TrapUnit where
  enabled : (Csr → Word) → Bool
  enter : (Csr → Word) → Word → Csr → Word
  leave : (Csr → Word) → Csr → Word
  enter_mepc : ∀ csrs pc, enter csrs pc .mepc = pc

/-- The trap registers after the hart was woken at `pc`. -/
def TrapUnit.afterWake (unit : TrapUnit) (csrs : Csr → Word) (pc : Word) : Csr → Word :=
  if unit.enabled csrs then unit.leave (unit.enter csrs pc) else csrs

/-! ## `cve2_cs_registers` -/

def setField (mask value old : Word) : Word := (old &&& ~~~mask) ||| (value &&& mask)

def mstatusMie : Word := 0x8
def mstatusMpie : Word := 0x80
def mstatusMpp : Word := 0x1800
def mstatusMprv : Word := 0x20000

/-- `csr_save_cause_i` and `csr_restore_mret_i` in machine mode. -/
def cve2TrapUnit : TrapUnit where
  enabled csrs := csrs .mstatus &&& mstatusMie ≠ 0
  enter csrs pc
    | .mstatus =>
      let mpie := if csrs .mstatus &&& mstatusMie ≠ 0 then mstatusMpie else 0
      setField mstatusMie 0 (setField mstatusMpie mpie (setField mstatusMpp mstatusMpp (csrs .mstatus)))
    | .mepc => pc
    | .mtval => 0
    | other => csrs other
  leave csrs
    | .mstatus =>
      let mie := if csrs .mstatus &&& mstatusMpie ≠ 0 then mstatusMie else 0
      let mprv := if csrs .mstatus &&& mstatusMpp = mstatusMpp then csrs .mstatus else 0
      setField mstatusMie mie (setField mstatusMprv mprv
        (setField mstatusMpie mstatusMpie (setField mstatusMpp 0 (csrs .mstatus))))
    | other => csrs other
  enter_mepc _ _ := rfl

/-! ## The handler -/

section Handler
variable {pc : Word} {context : Context} {view : HartView}

/-- The frame of two scratch registers below `sp`. -/
structure ScratchFrame (sp : Word) : Prop where
  upper : InMemory (sp - 16 + 12)
  lower : InMemory (sp - 16 + 8)

def scratchWrites (regs : RegFile) : List Write :=
  [(regs.read .sp - 16 + 12, regs.read .t5), (regs.read .sp - 16 + 8, regs.read .t6)]

/-- The context below a frame of 16 bytes. -/
def framedContext (context : Context) : Context :=
  { context with regs := context.regs.write .sp (context.regs.read .sp - 16) }

theorem framed_sp : (framedContext context).regs.read .sp = context.regs.read .sp - 16 :=
  RegFile.read_write_same _ _ (by simp)

theorem performs_pushScratch :
    Performs hartBus pc [.addi .sp .sp (-16), .sw .t5 12 .sp, .sw .t6 8 .sp] context view
      (scratchWrites context.regs) (framedContext context) := by
  have others : ∀ entry ∈ [((Reg.t5, 12) : Reg × Word), (.t6, 8)], entry.1 ≠ .sp := by decide
  exact performs_push others

theorem scratch_apart (sp : Word) : Apart (sp - 16 + 12) (sp - 16 + 8) := by
  rw [ByteMemory.apart_add_iff]
  decide

theorem scratch_upper_held {regs : RegFile} (frame : ScratchFrame (regs.read .sp))
    (later : List Write)
    (away : ∀ write ∈ later, InMemory write.1 → Apart write.1 (regs.read .sp - 16 + 12)) :
    hartBus.load (hartBus.storeAll view (scratchWrites regs ++ later)) (regs.read .sp - 16 + 12) =
      regs.read .t5 := by
  have kept := hartBus_load_storeAll_apart
    (hartBus.store view (regs.read .sp - 16 + 12) (regs.read .t5))
    ((regs.read .sp - 16 + 8, regs.read .t6) :: later) frame.upper (by
      intro write member memory
      rcases List.mem_cons.mp member with rfl | inLater
      · exact (scratch_apart (regs.read .sp)).symm
      · exact away write inLater memory)
  exact kept.trans (hartBus_load_store_same view _ frame.upper)

theorem scratch_lower_held {regs : RegFile} (frame : ScratchFrame (regs.read .sp))
    (later : List Write)
    (away : ∀ write ∈ later, InMemory write.1 → Apart write.1 (regs.read .sp - 16 + 8)) :
    hartBus.load (hartBus.storeAll view (scratchWrites regs ++ later)) (regs.read .sp - 16 + 8) =
      regs.read .t6 := by
  rw [Bus.storeAll_append, hartBus_load_storeAll_apart _ later frame.lower away]
  exact hartBus_load_store_same _ _ frame.lower

/-- The two stores of the handler to the interrupt acknowledge. -/
def ackWrites : List Write :=
  [(privAddr CpuPrivateReg.hartIntcAckOffset, 1), (privAddr CpuPrivateReg.hartIntcAckOffset, 0)]

theorem ackWrites_private : ∀ write ∈ ackWrites, ¬InMemory write.1 := by
  intro write member
  simp only [ackWrites, List.mem_cons, List.not_mem_nil, or_false] at member
  rcases member with rfl | rfl
  · exact privAddr_not_memory _
  · exact privAddr_not_memory _

theorem handlerSafeFsm_performs (frame : ScratchFrame (context.regs.read .sp)) :
    Performs hartBus pc handlerSafeFsm context view (scratchWrites context.regs ++ ackWrites)
      context := by
  let framed := framedContext context
  let aimed : Context := { context with regs := framed.regs.write .t5 privateRegBase }
  let ready : Context := { context with regs := aimed.regs.write .t6 1 }
  let five : Context := { context with regs := ready.regs.write .t5 (context.regs.read .t5) }
  let six : Context := { context with regs := five.regs.write .t6 (context.regs.read .t6) }
  have upper := @scratch_upper_held view context.regs frame ackWrites
    fun write member memory => absurd memory (ackWrites_private write member)
  have lower := @scratch_lower_held view context.regs frame ackWrites
    fun write member memory => absurd memory (ackWrites_private write member)
  have acks : ∀ pc view, Performs hartBus pc
      [.li .t5 privateRegBase, .li .t6 1,
        .sw .t6 (privImm CpuPrivateReg.hartIntcAckOffset) .t5,
        .sw .zero (privImm CpuPrivateReg.hartIntcAckOffset) .t5] framed view ackWrites ready := by
    intro pc view
    refine Performs.cons (performs_li .t5 privateRegBase) (Performs.cons (performs_li .t6 1)
      (Performs.cons (performs_privStore CpuPrivateReg.hartIntcAckOffset .t6 .t5 rfl) ?_))
    have store : Performs hartBus (pc + 4 + 4 + 4)
        [.sw .zero (privImm CpuPrivateReg.hartIntcAckOffset) .t5] ready
        (hartBus.storeAll view [(privAddr CpuPrivateReg.hartIntcAckOffset, 1)]) _ ready :=
      performs_privStore CpuPrivateReg.hartIntcAckOffset .zero .t5 rfl
    rw [ready.regs.read_zero] at store
    exact store
  have stack : ready.regs.read .sp = context.regs.read .sp - 16 := framed_sp
  have fiveStack : five.regs.read .sp = context.regs.read .sp - 16 := framed_sp
  have back : { context with regs := six.regs.write .sp (six.regs.read .sp + 16) } = context := by
    have same : six.regs.write .sp (six.regs.read .sp + 16) = context.regs := by
      apply RegFile.ext
      funext reg
      have popped : context.regs.read .sp - 16 + 16 = context.regs.read .sp := by bv_omega
      cases reg <;> first | rfl | exact popped
    rw [same]
  have reload : ∀ pc, Performs hartBus pc [.lw .t5 12 .sp, .lw .t6 8 .sp, .addi .sp .sp 16] ready
      (hartBus.storeAll view (scratchWrites context.regs ++ ackWrites)) [] context := by
    intro pc
    have pop : Performs hartBus (pc + 4 + 4) [.addi .sp .sp 16] six
        (hartBus.storeAll view (scratchWrites context.regs ++ ackWrites)) [] _ :=
      performs_addi .sp .sp 16
    rw [back] at pop
    have fetchFive : Performs hartBus pc [.lw .t5 12 .sp] ready
        (hartBus.storeAll view (scratchWrites context.regs ++ ackWrites)) [] five :=
      performs_load (congrArg (· + 12) stack) upper
    have fetchSix : Performs hartBus (pc + 4) [.lw .t6 8 .sp] five
        (hartBus.storeAll view (scratchWrites context.regs ++ ackWrites)) [] six :=
      performs_load (congrArg (· + 8) fiveStack) lower
    have restored := Performs.cons fetchFive (Performs.cons fetchSix pop)
    exact restored
  have whole := ((@performs_pushScratch pc context view).append (acks _ _)).append (reload _)
  rw [List.append_nil] at whole
  exact whole

end Handler

/-! ## Waking -/

/-- A pending interrupt wakes the hart behind its `wfi`. -/
inductive Wakes (unit : TrapUnit) (code : Code) (handler : Word) :
    State HartView → State HartView → Prop
  | goesOn {state : State HartView} (masked : unit.enabled state.hart.csrs = false) :
      Wakes unit code handler state state
  | served {state done : State HartView} {stores : List Write}
      (taken : unit.enabled state.hart.csrs = true)
      (ran : Executes hartBus code
        ⟨{ state.hart with
            pc := handler
            csrs := unit.enter state.hart.csrs state.hart.pc }, state.dev⟩ stores done)
      (ended : done.hart.pc = after handler handlerSafeFsm) :
      Wakes unit code handler state
        ⟨{ done.hart with
            pc := done.hart.csrs .mepc
            csrs := unit.leave done.hart.csrs }, done.dev⟩

def wakeWrites (unit : TrapUnit) (context : Context) : List Write :=
  if unit.enabled context.csrs then scratchWrites context.regs ++ ackWrites else []

theorem wakes_back {unit : TrapUnit} {code : Code} {handler pc : Word} {context : Context}
    {view : HartView} (placed : CodeAt code handler handlerSafeFsm)
    (frame : ScratchFrame (context.regs.read .sp)) :
    Wakes unit code handler ⟨context.at pc, view⟩
      ⟨{ context with csrs := unit.afterWake context.csrs pc }.at pc,
        hartBus.storeAll view (wakeWrites unit context)⟩ := by
  unfold TrapUnit.afterWake wakeWrites
  cases taken : unit.enabled context.csrs with
  | false =>
    exact .goesOn taken
  | true =>
    let trapped : Context := { context with csrs := unit.enter context.csrs pc }
    have ran := (@handlerSafeFsm_performs handler trapped view frame) code placed
    have woken := @Wakes.served unit code handler ⟨context.at pc, view⟩ _ _ taken ran rfl
    have back : trapped.csrs .mepc = pc := unit.enter_mepc context.csrs pc
    have landed : { trapped.at (after handler handlerSafeFsm) with
        pc := trapped.csrs .mepc
        csrs := unit.leave trapped.csrs } =
        { context with csrs := unit.leave (unit.enter context.csrs pc) }.at pc := by
      rw [back]
      rfl
    have same := landed ▸ woken
    exact same

end Eros
