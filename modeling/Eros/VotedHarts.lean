import Eros.Platform
import Eros.TmrVoter

/-!
# Three harts in step under the voter

The instruction level of the triple mode.  The harts fetch at the voted address
and execute the same instruction.  The private crossbar of each hart takes the
accesses in its private window to its own registers, before the voter; the voter
sees what is left, one request goes to the system, and its answer returns to
every hart that waits for one.

`Together` is `Performs` for such a trio: two harts stand at one context and the
odd one at another, and a block takes the pair of contexts to a new pair.
-/

set_option autoImplicit false

namespace Eros

open ByteMemory (Write)
open Rv32 (Access Instr Code Context Reg RegFile Csr CodeAt after)

/-! ## One access -/

/-- The system side of a private crossbar. -/
def systemReq : Access → ObiReq
  | .idle => .zero
  | .load addr => if InPrivate addr then .zero else ⟨true, false, 0b1111, addr, 0⟩
  | .store addr value => if InPrivate addr then .zero else ⟨true, true, 0b1111, addr, value⟩

def fetchReq (pc : Word) : ObiReq := ⟨true, false, 0b1111, pc, 0⟩

namespace System

/-- The system's answer to the voted request. -/
def answer (system : System) (request : ObiReq) : Word :=
  if request.req && !request.we then systemBus.load system request.addr else 0

def accept (system : System) (request : ObiReq) : System :=
  if request.req && request.we then systemBus.store system request.addr request.wdata else system

end System

/-- What a hart's crossbar hands back when the system answers `answer`. -/
def CpuPrivateReg.answer (priv : CpuPrivateReg) (answer : Word) : Access → Word
  | .load addr => if InPrivate addr then priv.rdata (addr.truncate 4) else answer
  | _ => 0

theorem CpuPrivateReg.answer_shared (priv : CpuPrivateReg) (answer : Word) {addr : Word}
    (shared : ¬InPrivate addr) : priv.answer answer (.load addr) = answer :=
  if_neg shared

def CpuPrivateReg.accept (priv : CpuPrivateReg) : Access → CpuPrivateReg
  | .store addr value => if InPrivate addr then priv.softwareWrite (addr.truncate 4) value else priv
  | _ => priv

/-! ## The trio -/

structure VotedHarts where
  hart : Hart → Rv32.Hart
  priv : Hart → CpuPrivateReg
  system : System

namespace VotedHarts
variable (state : VotedHarts)

def access (instr : Instr) (hart : Hart) : Access := Rv32.access (state.hart hart) instr

def votedData (instr : Instr) : ObiReq := votedReq fun hart => systemReq (state.access instr hart)

def votedFetch : ObiReq := votedReq fun hart => fetchReq (state.hart hart).pc

def step (instr : Instr) : VotedHarts where
  hart hart :=
    Rv32.retire (state.hart hart)
      ((state.priv hart).answer (state.system.answer (state.votedData instr))
        (state.access instr hart)) instr
  priv hart := (state.priv hart).accept (state.access instr hart)
  system := state.system.accept (state.votedData instr)

def run (code : Code) : Nat → VotedHarts → Option VotedHarts
  | 0, state => some state
  | count + 1, state =>
      match code state.votedFetch.addr with
      | none => none
      | some instr => run code count (state.step instr)

theorem run_add (code : Code) (first second : Nat) (state : VotedHarts) :
    run code (first + second) state = (run code first state).bind (run code second) := by
  induction first generalizing state with
  | zero => simp [run]
  | succ first ih =>
    rw [Nat.succ_add]
    simp only [run]
    cases code state.votedFetch.addr with
    | none => rfl
    | some instr => exact ih _

end VotedHarts

/-! ## Two harts at one context, the odd one at another -/

/-- The hart holds the registers and trap registers of `context`. -/
structure StandsAt (pc : Word) (context : Context) (hart : Rv32.Hart) : Prop where
  pc : hart.pc = pc
  regs : hart.regs = context.regs
  csrs : hart.csrs = context.csrs

namespace StandsAt
variable {pc : Word} {context : Context} {hart : Rv32.Hart}

theorem access_eq (stands : StandsAt pc context hart) (instr : Instr) :
    Rv32.access hart instr = Rv32.access (context.at pc) instr := by
  cases instr <;> simp [Rv32.access, Context.at, stands.regs]

theorem retire (stands : StandsAt pc context hart) (loaded : Word) {instr : Instr}
    (straight : instr.straight = true) :
    StandsAt (pc + 4) (Rv32.retire (context.at pc) loaded instr).toContext
      (Rv32.retire hart loaded instr) := by
  refine ⟨?_, ?_, ?_⟩
  · rw [Rv32.retire_pc_of_straight hart loaded straight, stands.pc]
  · cases instr <;> simp [Rv32.retire, Context.at, stands.pc, stands.regs, stands.csrs]
  · cases instr <;> simp [Rv32.retire, Context.at, stands.regs, stands.csrs]

end StandsAt

/-- Two harts at `context`, the odd one at a context in `strays`. -/
structure InStep (odd : Hart) (pc : Word) (context : Context) (strays : Context → Prop)
    (system : System) (state : VotedHarts) : Prop where
  pair : ∀ hart, hart ≠ odd → StandsAt pc context (state.hart hart)
  odd : ∃ stray, strays stray ∧ StandsAt pc stray (state.hart odd)
  system : state.system = system

/-- What the odd hart may load when the system answers `answer`. -/
def StrayAnswer (answer : Word) : Access → Word → Prop
  | .load addr, value =>
      if InPrivate addr then ∃ priv : CpuPrivateReg, value = priv.rdata (addr.truncate 4)
      else value = answer
  | _, _ => True

/-- The two halves of `hartBus`: the crossbar and the system behind it. -/
theorem hartBus_response (view : HartView) (access : Access) :
    hartBus.response view access =
      view.priv.answer (view.toSystem.answer (systemReq access)) access := by
  cases access with
  | idle => rfl
  | load addr =>
    change (if InPrivate addr then _ else _) = if InPrivate addr then _ else _
    split_ifs with window
    · rfl
    · rw [systemReq, if_neg window]
      rfl
  | store addr value => rfl

theorem hartBus_effect (view : HartView) (access : Access) :
    hartBus.effect view access =
      { toSystem := view.toSystem.accept (systemReq access), priv := view.priv.accept access } := by
  cases access with
  | idle => rfl
  | load addr =>
    have quiet : (systemReq (.load addr)).we = false := by
      simp only [systemReq]
      split_ifs <;> rfl
    unfold System.accept
    rw [quiet, Bool.and_false]
    rfl
  | store addr value =>
    change (if InPrivate addr then _ else _) = _
    unfold CpuPrivateReg.accept
    by_cases window : InPrivate addr
    · simp only [systemReq, if_pos window]
      rfl
    · simp only [systemReq, if_neg window]
      rfl

section Steps
variable {odd : Hart} {pc : Word} {context : Context} {strays : Context → Prop} {view : HartView}
variable {state : VotedHarts}

theorem InStep.votedFetch_addr (inStep : InStep odd pc context strays view.toSystem state) :
    state.votedFetch.addr = pc := by
  have voted : state.votedFetch = fetchReq pc := by
    apply votedReq_of_agreement _ _ odd
    intro hart other
    rw [(inStep.pair hart other).pc]
  rw [voted]
  rfl

theorem InStep.votedData_eq (inStep : InStep odd pc context strays view.toSystem state)
    (instr : Instr) :
    state.votedData instr = systemReq (Rv32.access (context.at pc) instr) := by
  apply votedReq_of_agreement _ _ odd
  intro hart other
  exact congrArg systemReq ((inStep.pair hart other).access_eq instr)

theorem InStep.pair_answer (inStep : InStep odd pc context strays view.toSystem state)
    {instr : Instr}
    (shared : ∀ addr, Rv32.access (context.at pc) instr = .load addr → ¬InPrivate addr)
    (priv : CpuPrivateReg) :
    priv.answer (state.system.answer (state.votedData instr))
        (Rv32.access (context.at pc) instr) =
      hartBus.response view (Rv32.access (context.at pc) instr) := by
  rw [hartBus_response, inStep.votedData_eq instr, inStep.system]
  cases accessed : Rv32.access (context.at pc) instr with
  | idle => rfl
  | load addr =>
    rw [CpuPrivateReg.answer_shared _ _ (shared addr accessed),
      CpuPrivateReg.answer_shared _ _ (shared addr accessed)]
  | store addr value => rfl

theorem InStep.stray_answer (inStep : InStep odd pc context strays view.toSystem state)
    {instr : Instr}
    (shared : ∀ addr, Rv32.access (context.at pc) instr = .load addr → ¬InPrivate addr)
    (stray : Context) (priv : CpuPrivateReg) :
    StrayAnswer (hartBus.response view (Rv32.access (context.at pc) instr))
      (Rv32.access (stray.at pc) instr)
      (priv.answer (state.system.answer (state.votedData instr))
        (Rv32.access (stray.at pc) instr)) := by
  rw [← inStep.pair_answer shared priv]
  cases strayed : Rv32.access (stray.at pc) instr with
  | idle => exact trivial
  | store addr value => exact trivial
  | load addr =>
    by_cases window : InPrivate addr
    · simp only [StrayAnswer, CpuPrivateReg.answer, if_pos window]
      exact ⟨priv, rfl⟩
    · -- an instruction that loads on one hart loads on every hart
      obtain ⟨pairAddr, loads⟩ : ∃ pairAddr,
          Rv32.access (context.at pc) instr = .load pairAddr := by
        cases instr <;> simp_all [Rv32.access]
      simp only [StrayAnswer, if_neg window]
      rw [CpuPrivateReg.answer_shared _ _ window, loads,
        CpuPrivateReg.answer_shared _ _ (shared pairAddr loads)]

/-- One instruction.  The pair does what one hart does on its bus; the odd hart
executes the same instruction with whatever it loads. -/
theorem InStep.step (inStep : InStep odd pc context strays view.toSystem state) {instr : Instr}
    (straight : instr.straight = true)
    (shared : ∀ addr, Rv32.access (context.at pc) instr = .load addr → ¬InPrivate addr) :
    InStep odd (pc + 4)
      (Rv32.retire (context.at pc)
        (hartBus.response view (Rv32.access (context.at pc) instr)) instr).toContext
      (fun next => ∃ stray loaded, strays stray ∧
        StrayAnswer (hartBus.response view (Rv32.access (context.at pc) instr))
          (Rv32.access (stray.at pc) instr) loaded ∧
        next = (Rv32.retire (stray.at pc) loaded instr).toContext)
      (hartBus.effect view (Rv32.access (context.at pc) instr)).toSystem (state.step instr) where
  pair := by
    intro hart other
    have stands := inStep.pair hart other
    have loaded := inStep.pair_answer shared (state.priv hart)
    have next := stands.retire (hartBus.response view (Rv32.access (context.at pc) instr)) straight
    rw [← loaded] at next ⊢
    rw [← stands.access_eq instr] at next ⊢
    exact next
  odd := by
    obtain ⟨stray, allowed, stands⟩ := inStep.odd
    have answered := inStep.stray_answer shared stray (state.priv odd)
    rw [← stands.access_eq instr] at answered
    refine ⟨_, ⟨stray, _, allowed, ?_, rfl⟩, stands.retire _ straight⟩
    rw [← stands.access_eq instr]
    exact answered
  system := by
    rw [hartBus_effect]
    change state.system.accept (state.votedData instr) = _
    rw [inStep.votedData_eq instr, inStep.system]

end Steps

/-! ## Blocks -/

/-- The trio executes `block`: the pair goes from `context` to `final` and makes
the stores, the odd hart goes from a context in `before` to one in `later`. -/
def Together (odd : Hart) (pc : Word) (block : List Instr) (context : Context)
    (before : Context → Prop) (view : HartView) (stores : List Write) (final : Context)
    (later : Context → Prop) : Prop :=
  ∀ code, CodeAt code pc block → ∀ state, InStep odd pc context before view.toSystem state →
    ∃ last, VotedHarts.run code block.length state = some last ∧
      InStep odd (after pc block) final later (hartBus.storeAll view stores).toSystem last

section Blocks
variable {odd : Hart} {pc : Word} {context middle final : Context} {view : HartView}
variable {before between later : Context → Prop}

theorem Together.nil : Together odd pc [] context before view [] context before := by
  intro code _ state inStep
  refine ⟨state, rfl, ?_⟩
  rw [Rv32.after_nil]
  exact inStep

theorem Together.append {first second : List Instr} {firstStores secondStores : List Write}
    (left : Together odd pc first context before view firstStores middle between)
    (right : Together odd (after pc first) second middle between
      (hartBus.storeAll view firstStores) secondStores final later) :
    Together odd pc (first ++ second) context before view (firstStores ++ secondStores)
      final later := by
  intro code placed state inStep
  obtain ⟨placedFirst, placedSecond⟩ := Rv32.codeAt_append.mp placed
  obtain ⟨reached, leftRun, leftStep⟩ := left code placedFirst state inStep
  obtain ⟨last, rightRun, rightStep⟩ := right code placedSecond reached leftStep
  refine ⟨last, ?_, ?_⟩
  · rw [List.length_append, VotedHarts.run_add, leftRun]
    exact rightRun
  · rw [Rv32.after_append, Rv32.Bus.storeAll_append]
    exact rightStep

theorem Together.cons {instr : Instr} {rest : List Instr} {firstStores secondStores : List Write}
    (left : Together odd pc [instr] context before view firstStores middle between)
    (right : Together odd (pc + 4) rest middle between (hartBus.storeAll view firstStores)
      secondStores final later) :
    Together odd pc (instr :: rest) context before view (firstStores ++ secondStores)
      final later := by
  have one : after pc [instr] = pc + 4 := by rw [Rv32.after_cons, Rv32.after_nil]
  rw [← one] at right
  exact left.append right

theorem Together.consQuiet {instr : Instr} {rest : List Instr} {stores : List Write}
    (left : Together odd pc [instr] context before view [] middle between)
    (right : Together odd (pc + 4) rest middle between view stores final later) :
    Together odd pc (instr :: rest) context before view stores final later :=
  left.cons right

theorem Together.appendQuiet {first second : List Instr} {stores : List Write}
    (left : Together odd pc first context before view stores middle between)
    (right : Together odd (after pc first) second middle between (hartBus.storeAll view stores) []
      final later) :
    Together odd pc (first ++ second) context before view stores final later := by
  have both := left.append right
  rw [List.append_nil] at both
  exact both

theorem Together.weaken {block : List Instr} {stores : List Write} {weaker : Context → Prop}
    (together : Together odd pc block context before view stores final later)
    (implied : ∀ stray, later stray → weaker stray) :
    Together odd pc block context before view stores final weaker := by
  intro code placed state inStep
  obtain ⟨last, reached, next⟩ := together code placed state inStep
  obtain ⟨stray, allowed, stands⟩ := next.odd
  exact ⟨last, reached, next.pair, ⟨stray, implied stray allowed, stands⟩, next.system⟩

/-! ### Single instructions -/

theorem together_straight {instr : Instr} (straight : instr.straight = true)
    (shared : ∀ addr, Rv32.access (context.at pc) instr = .load addr → ¬InPrivate addr)
    (goes : ∀ stray loaded, before stray →
      StrayAnswer (hartBus.response view (Rv32.access (context.at pc) instr))
        (Rv32.access (stray.at pc) instr) loaded →
      later (Rv32.retire (stray.at pc) loaded instr).toContext) :
    Together odd pc [instr] context before view (Rv32.writesOf (context.at pc) instr)
      (Rv32.retire (context.at pc)
        (hartBus.response view (Rv32.access (context.at pc) instr)) instr).toContext later := by
  intro code placed state inStep
  have next := inStep.step straight shared
  refine ⟨state.step instr, ?_, ?_⟩
  · simp only [List.length_singleton, VotedHarts.run, inStep.votedFetch_addr, placed.1]
  · rw [Rv32.after_cons, Rv32.after_nil, ← Rv32.effect_eq_storeAll]
    obtain ⟨_, ⟨stray, loaded, allowed, answered, rfl⟩, stands⟩ := next.odd
    exact ⟨next.pair, ⟨_, goes stray loaded allowed answered, stands⟩, next.system⟩

theorem together_addi (rd rs : Reg) (imm : Word)
    (goes : ∀ stray, before stray →
      later { stray with regs := stray.regs.write rd (stray.regs.read rs + imm) }) :
    Together odd pc [.addi rd rs imm] context before view []
      { context with regs := context.regs.write rd (context.regs.read rs + imm) } later :=
  together_straight rfl (fun _ => Access.noConfusion) fun stray _ allowed _ => goes stray allowed

theorem together_li (rd : Reg) (imm : Word)
    (goes : ∀ stray, before stray → later { stray with regs := stray.regs.write rd imm }) :
    Together odd pc [.li rd imm] context before view []
      { context with regs := context.regs.write rd imm } later :=
  together_straight rfl (fun _ => Access.noConfusion) fun stray _ allowed _ => goes stray allowed

theorem together_csrr (rd : Reg) (csr : Csr)
    (goes : ∀ stray, before stray →
      later { stray with regs := stray.regs.write rd (stray.csrs csr) }) :
    Together odd pc [.csrr rd csr] context before view []
      { context with regs := context.regs.write rd (context.csrs csr) } later :=
  together_straight rfl (fun _ => Access.noConfusion) fun stray _ allowed _ => goes stray allowed

theorem together_csrw (csr : Csr) (rs : Reg)
    (goes : ∀ stray, before stray →
      later { stray with csrs := Function.update stray.csrs csr (stray.regs.read rs) }) :
    Together odd pc [.csrw csr rs] context before view []
      { context with csrs := Function.update context.csrs csr (context.regs.read rs) } later :=
  together_straight rfl (fun _ => Access.noConfusion) fun stray _ allowed _ => goes stray allowed

theorem together_sw {rs base : Reg} {offset addr value : Word}
    (points : context.regs.read base + offset = addr) (holds : context.regs.read rs = value) :
    Together odd pc [.sw rs offset base] context before view [(addr, value)] context before := by
  subst points holds
  exact together_straight rfl (fun _ => Access.noConfusion) fun _ _ allowed _ => allowed

theorem together_lw {rd base : Reg} {offset addr value : Word}
    (points : context.regs.read base + offset = addr) (holds : hartBus.load view addr = value)
    (shared : ¬InPrivate addr)
    (goes : ∀ stray loaded, before stray →
      StrayAnswer value (.load (stray.regs.read base + offset)) loaded →
      later { stray with regs := stray.regs.write rd loaded }) :
    Together odd pc [.lw rd offset base] context before view []
      { context with regs := context.regs.write rd value } later := by
  subst points holds
  apply together_straight rfl _ goes
  intro addr loads
  exact Access.load.inj loads ▸ shared

/-! ### Tables of registers -/

theorem together_saveRegs (base : Reg) (table : List (Reg × Word)) (pc : Word)
    (view : HartView) :
    Together odd pc (Rv32.saveRegs base table) context before view
      (table.map fun entry => (context.regs.read base + entry.2, context.regs.read entry.1))
      context before := by
  induction table generalizing pc view with
  | nil => exact Together.nil
  | cons entry rest ih => exact Together.cons (together_sw rfl rfl) (ih _ _)

theorem together_saveCsrs {scratch base : Reg} (other : base ≠ scratch)
    (writable : scratch ≠ .zero)
    (kept : ∀ stray value, before stray →
      before { stray with regs := stray.regs.write scratch value })
    (table : List (Csr × Word)) (pc : Word) (view : HartView) (context : Context) :
    ∃ value, Together odd pc (Rv32.saveCsrs scratch base table) context before view
      (table.map fun entry => (context.regs.read base + entry.2, context.csrs entry.1))
      { context with regs := context.regs.write scratch value } before := by
  induction table generalizing pc view context with
  | nil =>
    refine ⟨context.regs.read scratch, ?_⟩
    rw [RegFile.write_read_self]
    exact Together.nil
  | cons entry rest ih =>
    have baseKept : (context.regs.write scratch (context.csrs entry.1)).read base =
        context.regs.read base := RegFile.read_write_ne _ _ other
    obtain ⟨value, others⟩ := ih (pc + 4 + 4)
      (hartBus.storeAll view [(context.regs.read base + entry.2, context.csrs entry.1)])
      { context with regs := context.regs.write scratch (context.csrs entry.1) }
    rw [RegFile.write_write] at others
    simp only [baseKept] at others
    refine ⟨value, ?_⟩
    have read := @together_csrr odd pc context view before before scratch entry.1
      fun stray allowed => kept stray _ allowed
    apply Together.cons read
    apply Together.cons (together_sw _ _) others
    · exact congrArg (· + entry.2) baseKept
    · exact RegFile.read_write_same _ _ writable

/-- The pair reads back the trap registers it holds.  `stage` says what the odd
hart has become after the trap registers listed so far. -/
theorem together_restoreCsrs {scratch base : Reg} (other : base ≠ scratch)
    (writable : scratch ≠ .zero) {csrs : Csr → Word} (stage : List Csr → Context → Prop)
    (table : List (Csr × Word)) (keys : List Csr) (pc : Word) (context : Context)
    (same : context.csrs = csrs)
    (holds : ∀ entry ∈ table, hartBus.load view (context.regs.read base + entry.2) = csrs entry.1)
    (shared : ∀ entry ∈ table, ¬InPrivate (context.regs.read base + entry.2))
    (goes : ∀ keys, ∀ entry ∈ table, ∀ stray loaded, stage keys stray →
      StrayAnswer (csrs entry.1) (.load (stray.regs.read base + entry.2)) loaded →
      stage (keys ++ [entry.1])
        { stray with
          regs := stray.regs.write scratch loaded
          csrs := Function.update stray.csrs entry.1 loaded }) :
    ∃ value, Together odd pc (Rv32.restoreCsrs scratch base table) context (stage keys) view []
      { context with regs := context.regs.write scratch value }
      (stage (keys ++ table.map Prod.fst)) := by
  induction table generalizing keys pc context with
  | nil =>
    refine ⟨context.regs.read scratch, ?_⟩
    rw [RegFile.write_read_self, List.map_nil, List.append_nil]
    exact Together.nil
  | cons entry rest ih =>
    have baseKept : (context.regs.write scratch (csrs entry.1)).read base =
        context.regs.read base := RegFile.read_write_ne _ _ other
    obtain ⟨value, others⟩ := ih (keys ++ [entry.1]) (pc + 4 + 4)
      { context with regs := context.regs.write scratch (csrs entry.1) } same
      (by
        intro later member
        rw [baseKept]
        exact holds later (List.mem_cons_of_mem _ member))
      (by
        intro later member
        rw [baseKept]
        exact shared later (List.mem_cons_of_mem _ member))
      fun keys later member => goes keys later (List.mem_cons_of_mem _ member)
    rw [RegFile.write_write, List.append_assoc, List.singleton_append] at others
    refine ⟨value, ?_⟩
    let Loaded (stray : Context) : Prop := ∃ earlier loaded, stage keys earlier ∧
      StrayAnswer (csrs entry.1) (.load (earlier.regs.read base + entry.2)) loaded ∧
      stray = { earlier with regs := earlier.regs.write scratch loaded }
    have load : Together odd pc [.lw scratch entry.2 base] context (stage keys) view []
        { context with regs := context.regs.write scratch (csrs entry.1) } Loaded := by
      apply together_lw rfl (holds entry List.mem_cons_self) (shared entry List.mem_cons_self)
      intro stray loaded allowed answered
      exact ⟨stray, loaded, allowed, answered, rfl⟩
    have write : Together odd (pc + 4) [.csrw entry.1 scratch]
        { context with regs := context.regs.write scratch (csrs entry.1) } Loaded view []
        { context with regs := context.regs.write scratch (csrs entry.1) }
        (stage (keys ++ [entry.1])) := by
      have step := @together_csrw odd (pc + 4)
        { context with regs := context.regs.write scratch (csrs entry.1) } view Loaded
        (stage (keys ++ [entry.1])) entry.1 scratch
        (by
          rintro _ ⟨earlier, loaded, allowed, answered, rfl⟩
          rw [RegFile.read_write_same _ _ writable]
          exact goes keys entry List.mem_cons_self earlier loaded allowed answered)
      have kept : Function.update context.csrs entry.1
          ((context.regs.write scratch (csrs entry.1)).read scratch) = context.csrs := by
        rw [RegFile.read_write_same _ _ writable, same, Function.update_eq_self]
      simp only [kept] at step
      exact step
    exact Together.cons load (Together.cons write others)

/-- The pair reads back the registers of `source`.  The base may be among them
when its word holds its own value. -/
theorem together_restoreRegs {base : Reg} {source : RegFile} (stage : List Reg → Context → Prop)
    (table : List (Reg × Word)) (keys : List Reg) (pc : Word) (context : Context)
    (same : context.regs.read base = source.read base)
    (holds : ∀ entry ∈ table,
      hartBus.load view (source.read base + entry.2) = source.read entry.1)
    (shared : ∀ entry ∈ table, ¬InPrivate (source.read base + entry.2))
    (goes : ∀ keys, ∀ entry ∈ table, ∀ stray loaded, stage keys stray →
      StrayAnswer (source.read entry.1) (.load (stray.regs.read base + entry.2)) loaded →
      stage (keys ++ [entry.1]) { stray with regs := stray.regs.write entry.1 loaded }) :
    Together odd pc (Rv32.restoreRegs base table) context (stage keys) view []
      { context with regs := context.regs.overlay (table.map Prod.fst) source }
      (stage (keys ++ table.map Prod.fst)) := by
  induction table generalizing keys pc context with
  | nil =>
    rw [List.map_nil, RegFile.overlay_nil, List.append_nil]
    exact Together.nil
  | cons entry rest ih =>
    have load : Together odd pc [.lw entry.1 entry.2 base] context (stage keys)
        view [] { context with regs := context.regs.write entry.1 (source.read entry.1) }
        (stage (keys ++ [entry.1])) :=
      together_lw (congrArg (· + entry.2) same) (holds entry List.mem_cons_self)
        (shared entry List.mem_cons_self) (goes keys entry List.mem_cons_self)
    have baseKept : (context.regs.write entry.1 (source.read entry.1)).read base =
        source.read base := by
      rw [RegFile.read_write]
      split_ifs with written
      · rw [written.1]
      · exact same
    have others := ih (keys ++ [entry.1]) (pc + 4)
      { context with regs := context.regs.write entry.1 (source.read entry.1) } baseKept
      (fun later member => holds later (List.mem_cons_of_mem _ member))
      (fun later member => shared later (List.mem_cons_of_mem _ member))
      fun keys later member => goes keys later (List.mem_cons_of_mem _ member)
    rw [RegFile.overlay_cons, List.append_assoc, List.singleton_append] at others
    exact Together.cons load others

end Blocks

end Eros
