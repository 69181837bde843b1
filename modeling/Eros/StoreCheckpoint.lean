import Eros.Checkpoint

/-!
# What `Store_Checkpoint` stores

The routine pushes the five scratch registers, copies the stack into the area and
then writes the cells in a fixed order, reloading a scratch register from its
frame before it is saved.  It returns with every register as at the call, and its
stores are the frame and then the cells of the call's image, in order.
-/

set_option autoImplicit false

namespace Eros

open Rv32
open ByteMemory (Mem Write InRegion Apart)

/-- The registers `Store_Checkpoint` pushes, with their frame offsets. -/
def checkpointFrame : List (Reg × Word) := [(.t2, 24), (.t3, 20), (.t4, 16), (.t5, 12), (.t6, 8)]

def frameWrites (regs : RegFile) : List Write :=
  checkpointFrame.map fun entry => (regs.read .sp - 28 + entry.2, regs.read entry.1)

/-- The image of a call: its context, its stack from the stack pointer up, and
the address at which it resumes. -/
def callImage (call : Context) (ram : Mem) (exit : Word) : Image
  | .csr name => call.csrs name
  | .reg name => call.regs.read name
  | .resume => exit
  | .stack index => ByteMemory.load ram (call.regs.read .sp + BitVec.ofNat 32 (4 * index))

def stackCells (words : Nat) : List Cell := (List.range words).map Cell.stack

def middleTable : List (Reg × Word) :=
  [(.s0, 48), (.s1, 52), (.a0, 56), (.a1, 60), (.a2, 64), (.a3, 68), (.a4, 72), (.a5, 76),
    (.a6, 80), (.a7, 84), (.s2, 88), (.s3, 92), (.s4, 96), (.s5, 100), (.s6, 104), (.s7, 108),
    (.s8, 112), (.s9, 116), (.s10, 120), (.s11, 124)]

def headCells : List Cell := trapCells ++ [.reg .ra, .reg .sp]

def regsCells : List Cell :=
  [.reg .gp, .reg .tp, .reg .t0, .reg .t1] ++ [.reg .t2] ++
    (middleTable.map fun entry => .reg entry.1) ++ [.reg .t3] ++ [.reg .t4]

def tailCells : List Cell := [.resume] ++ [.reg .t5] ++ [.reg .t6]

/-- The cells after the stack, in the order in which they are written. -/
def contextCells : List Cell := headCells ++ regsCells ++ tailCells

def checkpointOrder (words : Nat) : List Cell := stackCells words ++ contextCells

/-! ## The frame -/

/-- The frame of a call still holds what was pushed. -/
def FrameHeld (view : HartView) (regs : RegFile) : Prop :=
  ∀ entry ∈ checkpointFrame,
    hartBus.load view (regs.read .sp - 28 + entry.2) = regs.read entry.1

theorem frame_word (regs : RegFile) (top : Word) {entry : Reg × Word} (member : entry ∈ checkpointFrame) :
    regs.read .sp - 28 + entry.2 = regs.read .sp - 28 + BitVec.ofNat 32 entry.2.toNat ∧
      entry.2.toNat + 4 ≤ top.toNat - (regs.read .sp).toNat + 32 := by
  have small : ∀ entry ∈ checkpointFrame, entry.2.toNat ≤ 24 := by decide
  have bound := small entry member
  exact ⟨by rw [BitVec.ofNat_toNat, BitVec.setWidth_eq], by omega⟩

section Frame
variable {area top : Word} {regs : RegFile} (site : SaveSite area (regs.read .sp) top)
include site

theorem frameWrites_memory : ∀ write ∈ frameWrites regs, InMemory write.1 := by
  intro write member
  obtain ⟨entry, inFrame, rfl⟩ := List.mem_map.mp member
  obtain ⟨here, room⟩ := frame_word regs top inFrame
  exact site.stack_memory here room

theorem frameHeld_pushed (view : HartView) :
    FrameHeld (hartBus.storeAll view (frameWrites regs)) regs := by
  intro entry member
  apply hartBus_load_saved view (by decide) _ member
  intro other inFrame
  obtain ⟨here, room⟩ := frame_word regs top inFrame
  exact site.stack_memory here room

theorem load_pushed_stack (view : HartView) {index : Nat}
    (inside : index < stackWords (regs.read .sp) top) :
    hartBus.load (hartBus.storeAll view (frameWrites regs))
        (regs.read .sp + BitVec.ofNat 32 (4 * index)) =
      ByteMemory.load view.ram (regs.read .sp + BitVec.ofNat 32 (4 * index)) := by
  obtain ⟨here, room⟩ := site.stack_word inside
  rw [hartBus_storeAll_memory view _ (frameWrites_memory site),
    hartBus_load_memory _ (site.stack_memory here room)]
  apply ByteMemory.load_storeAll_apart
  intro write member
  obtain ⟨entry, inFrame, rfl⟩ := List.mem_map.mp member
  have small : ∀ entry ∈ checkpointFrame, entry.2.toNat ≤ 24 := by decide
  have bound := small entry inFrame
  have total := site.stack_small
  rw [here, ByteMemory.apart_add_iff]
  unfold Apart
  bv_omega

theorem FrameHeld.cells {view : HartView} (held : FrameHeld view regs) (image : Image)
    {cells : List Cell}
    (fits : ∀ cell ∈ cells, cell.position < 37 + stackWords (regs.read .sp) top) :
    FrameHeld (hartBus.storeAll view (cellWrites area image cells)) regs := by
  intro entry member
  obtain ⟨here, room⟩ := frame_word regs top member
  have memory : ∀ write ∈ cellWrites area image cells, InMemory write.1 := by
    intro write written
    obtain ⟨cell, inCells, rfl⟩ := List.mem_map.mp written
    exact site.cell_memory (fits cell inCells)
  rw [hartBus_storeAll_memory view _ memory, hartBus_load_memory _ (site.stack_memory here room)]
  have kept := held entry member
  rw [hartBus_load_memory _ (site.stack_memory here room)] at kept
  rw [← kept]
  apply ByteMemory.load_storeAll_apart
  intro write written
  obtain ⟨cell, inCells, rfl⟩ := List.mem_map.mp written
  exact site.cell_apart_stack (fits cell inCells) here room

end Frame

/-! ## The phases -/

/-- The registers the routine works with. -/
def checkpointScratch : List Reg := [.sp, .t2, .t3, .t4, .t5, .t6]

/-- A context inside the routine: the area in `t5`, the scratch registers free,
everything else as at the call. -/
structure InCheckpoint (call : Context) (area sp : Word) (context : Context) : Prop where
  base : context.regs.read .t5 = area
  stack : context.regs.read .sp = sp
  others : RegFile.SameExcept checkpointScratch context.regs call.regs
  csrs : context.csrs = call.csrs
  dpc : context.dpc = call.dpc

section Phases
variable {call context : Context} {area sp pc : Word} {view : HartView} {image : Image}

theorem InCheckpoint.scratch (inside : InCheckpoint call area sp context) {rd : Reg}
    (free : rd ∈ [Reg.t2, .t3, .t4, .t6]) (value : Word) :
    InCheckpoint call area sp { context with regs := context.regs.write rd value } where
  base := by
    rw [RegFile.read_write_ne]
    · exact inside.base
    · rintro rfl
      exact absurd free (by decide)
  stack := by
    rw [RegFile.read_write_ne]
    · exact inside.stack
    · rintro rfl
      exact absurd free (by decide)
  others := by
    apply inside.others.write
    revert free
    cases rd <;> decide
  csrs := inside.csrs
  dpc := inside.dpc

theorem InCheckpoint.move (inside : InCheckpoint call area sp context) (other : Word) :
    InCheckpoint call area other { context with regs := context.regs.write .sp other } where
  base := inside.base
  stack := by simp
  others := inside.others.write (by decide) other
  csrs := inside.csrs
  dpc := inside.dpc

/-- A block that writes `cells` from any context inside the routine, wherever it
is placed, while the frame holds. -/
def Segment (call : Context) (area : Word) (image : Image) (block : List Instr)
    (cells : List Cell) : Prop :=
  ∀ pc context view, InCheckpoint call area (call.regs.read .sp - 28) context →
    FrameHeld view call.regs →
    ∃ next, InCheckpoint call area (call.regs.read .sp - 28) next ∧
      Performs hartBus pc block context view (cellWrites area image cells) next

theorem Segment.append {top : Word} (site : SaveSite area (call.regs.read .sp) top)
    {first second : List Instr} {firstCells secondCells : List Cell}
    (left : Segment call area image first firstCells)
    (right : Segment call area image second secondCells)
    (fixed : ∀ cell ∈ firstCells, cell.position < 37) :
    Segment call area image (first ++ second) (firstCells ++ secondCells) := by
  intro pc context view inside held
  obtain ⟨middle, middleInside, leftRun⟩ := left pc context view inside held
  have stillHeld : FrameHeld (hartBus.storeAll view (cellWrites area image firstCells)) call.regs :=
    held.cells site image fun cell member => Nat.lt_add_right _ (fixed cell member)
  obtain ⟨next, nextInside, rightRun⟩ := right (after pc first) middle _ middleInside stillHeld
  exact ⟨next, nextInside, performs_appendCells leftRun rightRun⟩

/-- Reloading a pushed register into a scratch register and saving it from there. -/
theorem segment_relay (pushed : ∀ name, image (.reg name) = call.regs.read name)
    {scratch reg : Reg} {frameOffset cellOffset : Word} (free : scratch ∈ [Reg.t2, .t3, .t4, .t6])
    (entry : (reg, frameOffset) ∈ checkpointFrame) (slot : cellOffset = (Cell.reg reg).offset) :
    Segment call area image [.lw scratch frameOffset .sp, .sw scratch cellOffset .t5]
      [.reg reg] := by
  intro pc context view inside held
  have writable : scratch ≠ .zero := by
    rintro rfl
    exact absurd free (by decide)
  let next : Context := { context with regs := context.regs.write scratch (call.regs.read reg) }
  have nextInside : InCheckpoint call area (call.regs.read .sp - 28) next :=
    inside.scratch free _
  have load : Performs hartBus pc [.lw scratch frameOffset .sp] context view [] next :=
    performs_load (congrArg (· + frameOffset) inside.stack) (held _ entry)
  have save : Performs hartBus (pc + 4) [.sw scratch cellOffset .t5] next view
      (cellWrites area image [.reg reg]) next := by
    refine performs_store ?_ ?_
    · rw [nextInside.base, slot]
      rfl
    · rw [pushed]
      exact RegFile.read_write_same _ _ writable
  exact ⟨next, nextInside, Performs.cons load save⟩

theorem segment_saveRegs (pushed : ∀ name, image (.reg name) = call.regs.read name)
    (table : List (Reg × Word)) (slots : ∀ entry ∈ table, entry.2 = (Cell.reg entry.1).offset)
    (others : ∀ entry ∈ table, entry.1 ∉ checkpointScratch) :
    Segment call area image (saveRegs .t5 table) (table.map fun entry => .reg entry.1) := by
  intro pc context view inside _
  refine ⟨context, inside, performs_saveCells table slots inside.base ?_⟩
  intro entry member
  rw [inside.others entry.1 (others entry member), pushed]

theorem storeCheckpointHead_performs (inside : InCheckpoint call area (call.regs.read .sp) context)
    (pushed : ∀ name, image (.reg name) = call.regs.read name)
    (trap : ∀ name, image (.csr name) = call.csrs name) :
    ∃ next, InCheckpoint call area (call.regs.read .sp - 28) next ∧
      Performs hartBus pc storeCheckpointHead context view
        (cellWrites area image headCells) next := by
  obtain ⟨value, trapSaved⟩ := @performs_saveTrapCells pc area context view image .t6 .t5
    (by decide) (by decide) inside.base (by intro csr; rw [inside.csrs, trap])
  have free := inside.scratch (by decide : Reg.t6 ∈ _) value
  have saved : Performs hartBus (after pc (saveCsrs .t6 .t5 csrArea))
      (saveRegs .t5 [(.ra, 20), (.sp, 24)]) { context with regs := context.regs.write .t6 value }
      (hartBus.storeAll view (cellWrites area image trapCells))
      (cellWrites area image [.reg .ra, .reg .sp])
      { context with regs := context.regs.write .t6 value } := by
    refine performs_saveCells [(.ra, 20), (.sp, 24)] (by decide) free.base ?_
    intro entry member
    simp only [List.mem_cons, List.not_mem_nil, or_false] at member
    rcases member with rfl | rfl
    · rw [pushed]
      exact free.others .ra (by decide)
    · rw [pushed]
      exact free.stack
  let below : Context := { context with
    regs := (context.regs.write .t6 value).write .sp (call.regs.read .sp - 28) }
  have move : ∀ pc view, Performs hartBus pc [.addi .sp .sp (-28)]
      { context with regs := context.regs.write .t6 value } view [] below := by
    intro pc view
    have step : Performs hartBus pc [.addi .sp .sp (-28)]
        { context with regs := context.regs.write .t6 value } view [] _ := performs_addi .sp .sp (-28)
    rw [free.stack, show call.regs.read .sp + -28 = call.regs.read .sp - 28 by bv_omega] at step
    exact step
  refine ⟨below, free.move _, ?_⟩
  have moved := (trapSaved.append saved).append (move _ _)
  rw [List.append_nil, ← cellWrites_append] at moved
  exact moved

theorem segment_regs {top : Word} (site : SaveSite area (call.regs.read .sp) top)
    (pushed : ∀ name, image (.reg name) = call.regs.read name) :
    Segment call area image storeCheckpointRegs regsCells := by
  have first : Segment call area image
      (saveRegs .t5 [(.gp, 28), (.tp, 32), (.t0, 36), (.t1, 40)])
      [.reg .gp, .reg .tp, .reg .t0, .reg .t1] := segment_saveRegs pushed _ (by decide) (by decide)
  have two : Segment call area image [.lw .t2 24 .sp, .sw .t2 44 .t5] [.reg .t2] :=
    segment_relay pushed (by decide) (by decide) rfl
  have middle : Segment call area image (saveRegs .t5 middleTable)
      (middleTable.map fun entry => .reg entry.1) :=
    segment_saveRegs pushed middleTable (by decide) (by decide)
  have three : Segment call area image [.lw .t3 20 .sp, .sw .t3 128 .t5] [.reg .t3] :=
    segment_relay pushed (by decide) (by decide) rfl
  have four : Segment call area image [.lw .t4 16 .sp, .sw .t4 132 .t5] [.reg .t4] :=
    segment_relay pushed (by decide) (by decide) rfl
  exact (((first.append site two (by decide)).append site middle (by decide)).append site three
    (by decide)).append site four (by decide)

theorem storeCheckpointTail_performs {top : Word} (site : SaveSite area (call.regs.read .sp) top)
    (inside : InCheckpoint call area (call.regs.read .sp - 28) context)
    (held : FrameHeld view call.regs) (pushed : ∀ name, image (.reg name) = call.regs.read name)
    (exit : image .resume = pc + 52) :
    ∃ next, InCheckpoint call area (call.regs.read .sp - 28) next ∧
      Performs hartBus pc storeCheckpointTail context view
        (cellWrites area image tailCells) next := by
  let here : Context := { context with regs := context.regs.write .t6 pc }
  let aimed : Context := { here with regs := here.regs.write .t6 (pc + 52) }
  have aimedInside : InCheckpoint call area (call.regs.read .sp - 28) aimed :=
    (inside.scratch (by decide : Reg.t6 ∈ _) pc).scratch (by decide : Reg.t6 ∈ _) (pc + 52)
  have locate : Performs hartBus pc [.auipc .t6 0] context view [] here := by
    have step : Performs hartBus pc [.auipc .t6 0] context view [] _ := performs_auipc .t6 0
    rw [show pc + (0 : Word) <<< 12 = pc by bv_omega] at step
    exact step
  have aim : Performs hartBus (pc + 4) [.addi .t6 .t6 52] here view [] aimed := by
    have step : Performs hartBus (pc + 4) [.addi .t6 .t6 52] here view [] _ :=
      performs_addi .t6 .t6 52
    rw [show here.regs.read .t6 = pc by simp [here]] at step
    exact step
  have save : Performs hartBus (pc + 4 + 4) [.sw .t6 144 .t5] aimed view
      (cellWrites area image [.resume]) aimed := by
    refine performs_store ?_ ?_
    · rw [aimedInside.base]
      rfl
    · rw [exit]
      simp [aimed]
  have resume := Performs.cons locate (Performs.cons aim save)
  have five : Segment call area image [.lw .t6 12 .sp, .sw .t6 136 .t5] [.reg .t5] :=
    segment_relay pushed (by decide) (by decide) rfl
  have six : Segment call area image [.lw .t6 8 .sp, .sw .t6 140 .t5] [.reg .t6] :=
    segment_relay pushed (by decide) (by decide) rfl
  have stillHeld : FrameHeld (hartBus.storeAll view (cellWrites area image [.resume])) call.regs :=
    held.cells site image fun cell member => Nat.lt_add_right _ (by revert cell; decide)
  obtain ⟨next, nextInside, saved⟩ := (five.append site six (by decide))
    (after pc [.auipc .t6 0, .addi .t6 .t6 52, .sw .t6 144 .t5]) aimed _ aimedInside stillHeld
  exact ⟨next, nextInside, performs_appendCells resume saved⟩

theorem storeCheckpointPop_performs
    (inside : InCheckpoint call area (call.regs.read .sp - 28) context)
    (held : FrameHeld view call.regs) :
    Performs hartBus pc storeCheckpointPop context view [] call := by
  let reloaded : Context :=
    { context with regs := context.regs.overlay (checkpointFrame.map Prod.fst) call.regs }
  have reload : Performs hartBus pc (restoreRegs .sp checkpointFrame) context view [] reloaded := by
    refine performs_restoreRegs .sp checkpointFrame call.regs pc context ?_ ?_
    · rw [inside.stack]
      exact held
    · intro pushed
      exact absurd pushed (by decide)
  have stack : reloaded.regs.read .sp = call.regs.read .sp - 28 := inside.stack
  have back : reloaded.regs.write .sp (reloaded.regs.read .sp + 28) = call.regs := by
    apply RegFile.ext
    funext reg
    rw [RegFile.read_write]
    split_ifs with pointer
    · rw [pointer.1, stack]
      bv_omega
    · rw [RegFile.read_overlay]
      split_ifs with pushed
      · rfl
      · apply inside.others
        revert pointer pushed
        cases reg <;> decide
  have pop : ∀ pc view, Performs hartBus pc [.addi .sp .sp 28] reloaded view [] call := by
    intro pc view
    have step : Performs hartBus pc [.addi .sp .sp 28] reloaded view [] _ := performs_addi .sp .sp 28
    rw [back] at step
    refine step.congr ?_
    change Context.mk call.regs context.csrs context.dpc = call
    rw [inside.csrs, inside.dpc]
  exact reload.append (pop _ _)

/-- The context below the pushed frame. -/
def pushedContext (call : Context) : Context :=
  { call with regs := call.regs.write .sp (call.regs.read .sp - 28) }

theorem storeCheckpointPush_performs :
    Performs hartBus pc storeCheckpointPush call view (frameWrites call.regs)
      (pushedContext call) := by
  have others : ∀ entry ∈ checkpointFrame, entry.1 ≠ .sp := by decide
  exact performs_push others

/-- With the area and the initial stack address loaded and `sp` back at the call's. -/
theorem storeCheckpointSetup_performs :
    ∃ ready, InCheckpoint call view.ctrl.safeCopyAddress (call.regs.read .sp) ready ∧
      ready.regs.read .t2 = call.regs.read .sp ∧
      ready.regs.read .t4 = view.ctrl.initialStackAddr ∧
      Performs hartBus pc storeCheckpointSetup (pushedContext call) view [] ready := by
  let based := (pushedContext call).regs.write .t5 safeWrapperCtrlBase
  let limited := based.write .t4 view.ctrl.initialStackAddr
  let aimed := limited.write .t5 view.ctrl.safeCopyAddress
  let raised := aimed.write .sp (call.regs.read .sp)
  let ready : Context := { call with regs := raised.write .t2 (call.regs.read .sp) }
  have stack : aimed.read .sp + 28 = call.regs.read .sp := by
    change call.regs.read .sp - 28 + 28 = _
    bv_omega
  have raise : Performs hartBus (pc + 4 + 4 + 4) [.addi .sp .sp 28] { call with regs := aimed } view []
      { call with regs := raised } := by
    have step : Performs hartBus (pc + 4 + 4 + 4) [.addi .sp .sp 28] { call with regs := aimed }
        view [] _ := performs_addi .sp .sp 28
    rw [stack] at step
    exact step
  refine ⟨ready, ⟨?_, ?_, ?_, rfl, rfl⟩, rfl, rfl, ?_⟩
  · rfl
  · rfl
  · intro reg outside
    revert outside
    cases reg <;> first | exact fun _ => rfl | exact fun outside => absurd (by decide) outside
  · exact Performs.cons (performs_li .t5 safeWrapperCtrlBase)
      (Performs.cons (performs_ctrlLoad CtrlOffset.initialStackAddr .t4 .t5 rfl)
        (Performs.cons (performs_ctrlLoad CtrlOffset.safeCopyAddress .t5 .t5 rfl)
          (Performs.cons raise (Performs.cons (performs_mv .t2 .sp) performs_fence))))

end Phases

/-! ## The routine -/

theorem storeStack_names : CopyRegs .t6 .t2 .t3 .t2 .t4 .t3 .t2 := by
  constructor <;> simp

section Routine
variable {code : Code} {base : Word} {call : Context} {view : HartView}

theorem storeCheckpoint_labels (placed : CodeAt code base storeCheckpoint) :
    CodeAt code base (storeCheckpointPush ++ storeCheckpointSetup) ∧
      code (base + 48) = some (.beq .t2 .t4 32) ∧ code (base + 52) = some (.addi .t3 .t5 148) ∧
      CodeAt code (base + 56) (copyLoop .t6 .t2 .t3 .t2 .t4 .t3 .t2 16) ∧
      CodeAt code (base + 80) (storeCheckpointHead ++ storeCheckpointRegs ++ storeCheckpointTail ++
        storeCheckpointPop) := by
  have parts : storeCheckpoint = storeCheckpointPush ++ storeCheckpointSetup ++
      storeCheckpointStack ++ (storeCheckpointHead ++ storeCheckpointRegs ++ storeCheckpointTail ++
        storeCheckpointPop) := by
    simp only [storeCheckpoint, List.append_assoc]
  rw [parts] at placed
  obtain ⟨frontStack, save⟩ := codeAt_append.mp placed
  obtain ⟨front, stack⟩ := codeAt_append.mp frontStack
  unfold storeCheckpointStack at stack
  obtain ⟨test, loop⟩ := codeAt_append.mp stack
  refine ⟨front, test.1, ?_, ?_, save⟩
  · rw [show base + 52 = base + 48 + 4 by bv_omega]
    exact test.2.1
  · rw [show base + 56 = base + 48 + 8 by bv_omega]
    exact loop

/-- The stack words are copied into the stack cells, from the memory as it was at
the call. -/
theorem storeStack_writes {area top : Word} (site : SaveSite area (call.regs.read .sp) top)
    (used : call.regs.read .sp ≠ top) (exit : Word) :
    copyWrites hartBus (hartBus.storeAll view (frameWrites call.regs)) (call.regs.read .sp)
        (area + 148) ((top - call.regs.read .sp).toNat / 4 + 1) =
      cellWrites area (callImage call view.ram exit)
        (stackCells (stackWords (call.regs.read .sp) top)) := by
  have words : stackWords (call.regs.read .sp) top = (top - call.regs.read .sp).toNat / 4 + 1 :=
    if_neg used
  have fits : ∀ index, index < stackWords (call.regs.read .sp) top →
      (Cell.stack index).position < 37 + stackWords (call.regs.read .sp) top :=
    fun index inside => Nat.add_lt_add_left inside 37
  rw [← words, copyWrites_eq]
  · unfold cellWrites stackCells
    rw [List.map_map]
    apply List.map_congr_left
    intro index member
    rw [stackCell_addr, load_pushed_stack site view (List.mem_range.mp member)]
    rfl
  · intro dev value read written readInside writtenInside
    obtain ⟨here, room⟩ := site.stack_word readInside
    have memory := site.cell_memory (fits written writtenInside)
    rw [stackCell_addr, hartBus_store_memory dev value memory,
      hartBus_load_memory _ (site.stack_memory here room),
      hartBus_load_memory _ (site.stack_memory here room)]
    exact ByteMemory.load_store_apart dev.ram value
      (site.cell_apart_stack (fits written writtenInside) here room)

theorem storeCheckpointStack_executes (placed : CodeAt code base storeCheckpoint)
    {area top : Word} (site : SaveSite area (call.regs.read .sp) top) (exit : Word)
    {ready : Context} (inside : InCheckpoint call area (call.regs.read .sp) ready)
    (source : ready.regs.read .t2 = call.regs.read .sp) (limit : ready.regs.read .t4 = top) :
    let pushed := hartBus.storeAll view (frameWrites call.regs)
    let stores := cellWrites area (callImage call view.ram exit)
      (stackCells (stackWords (call.regs.read .sp) top))
    ∃ copied, InCheckpoint call area (call.regs.read .sp) copied ∧
      Executes hartBus code ⟨ready.at (base + 48), pushed⟩ stores
        ⟨copied.at (base + 80), hartBus.storeAll pushed stores⟩ := by
  intro pushed stores
  obtain ⟨_, testPlaced, aimPlaced, loopPlaced, _⟩ := storeCheckpoint_labels placed
  have test := @executes_beq HartView hartBus code (base + 48) ready pushed .t2 .t4 32 testPlaced
  rw [source, limit] at test
  by_cases empty : call.regs.read .sp = top
  · rw [if_pos empty, show base + 48 + 32 = base + 80 by bv_omega] at test
    have none : stores = [] := by
      change cellWrites _ _ (stackCells (stackWords _ _)) = []
      rw [show stackWords (call.regs.read .sp) top = 0 from if_pos empty]
      rfl
    rw [none]
    exact ⟨ready, inside, test⟩
  · rw [if_neg empty, show base + 48 + 4 = base + 52 by bv_omega] at test
    let aimed : Context := { ready with regs := ready.regs.write .t3 (area + 148) }
    have aimedInside : InCheckpoint call area (call.regs.read .sp) aimed :=
      inside.scratch (by decide : Reg.t3 ∈ _) (area + 148)
    have aim : Performs hartBus (base + 52) [.addi .t3 .t5 148] ready pushed [] aimed := by
      have step : Performs hartBus (base + 52) [.addi .t3 .t5 148] ready pushed [] _ :=
        performs_addi .t3 .t5 148
      rw [inside.base] at step
      exact step
    have aimedAt := aim code ⟨aimPlaced, trivial⟩
    rw [show after (base + 52) [.addi .t3 .t5 148] = base + 56 by
      rw [after_cons, after_nil]; bv_omega] at aimedAt
    obtain ⟨copied, kept, copy⟩ := @copyLoop_executes HartView hartBus code .t6 .t2 .t3 .t2 .t4 .t3
      .t2 16 storeStack_names (base + 56) loopPlaced
      ((top - call.regs.read .sp).toNat / 4) (by bv_omega) aimed pushed (by
        change ready.regs.read .t4 = ready.regs.read .t2 + _
        rw [limit, source]
        exact site.top_eq)
    have from_ : aimed.regs.read .t2 = call.regs.read .sp := source
    have target : aimed.regs.read .t3 = area + 148 := by simp [aimed]
    rw [from_, target, storeStack_writes site empty exit,
      show base + 56 + 8 + 16 = base + 80 by bv_omega] at copy
    refine ⟨{ aimed with regs := copied }, ⟨?_, ?_, ?_, aimedInside.csrs, aimedInside.dpc⟩, ?_⟩
    · rw [kept .t5 (by decide) (by decide) (by decide)]
      exact aimedInside.base
    · rw [kept .sp (by decide) (by decide) (by decide)]
      exact aimedInside.stack
    · intro reg outside
      have others : reg ≠ .t6 ∧ reg ≠ .t2 ∧ reg ≠ .t3 := by
        refine ⟨?_, ?_, ?_⟩ <;> (rintro rfl; exact outside (by decide))
      rw [kept reg others.1 others.2.1 others.2.2]
      exact aimedInside.others reg outside
    · exact (test.trans aimedAt).trans copy

theorem storeCheckpointContext_executes (placed : CodeAt code base storeCheckpoint)
    {area top : Word} (site : SaveSite area (call.regs.read .sp) top) {context : Context}
    (inside : InCheckpoint call area (call.regs.read .sp) context)
    (held : FrameHeld view call.regs) (image : Image)
    (pushed : ∀ name, image (.reg name) = call.regs.read name)
    (trap : ∀ name, image (.csr name) = call.csrs name) (exit : image .resume = base + 304) :
    Executes hartBus code ⟨context.at (base + 80), view⟩ (cellWrites area image contextCells)
      ⟨call.at (base + 304), hartBus.storeAll view (cellWrites area image contextCells)⟩ := by
  obtain ⟨_, _, _, _, savePlaced⟩ := storeCheckpoint_labels placed
  have fixedHeld : ∀ cells : List Cell, (∀ cell ∈ cells, cell.position < 37) →
      FrameHeld (hartBus.storeAll view (cellWrites area image cells)) call.regs := by
    intro cells fixed
    exact held.cells site image fun cell member => Nat.lt_add_right _ (fixed cell member)
  obtain ⟨headed, headedInside, head⟩ := @storeCheckpointHead_performs call context area (base + 80)
    view image inside pushed trap
  obtain ⟨saved, savedInside, regs⟩ := segment_regs site pushed
    (after (base + 80) storeCheckpointHead) headed _ headedInside (fixedHeld headCells (by decide))
  have upToRegs := performs_appendCells head regs
  have resume : image .resume =
      after (base + 80) (storeCheckpointHead ++ storeCheckpointRegs) + 52 := by
    rw [exit]
    change base + 304 = base + 80 + 172 + 52
    bv_omega
  obtain ⟨done, doneInside, tail⟩ := storeCheckpointTail_performs site savedInside
    (fixedHeld (headCells ++ regsCells) (by decide)) pushed resume
  have upToTail := performs_appendCells upToRegs tail
  have popped := upToTail.append
    (storeCheckpointPop_performs doneInside (fixedHeld contextCells (by decide)))
  have ran := popped code savePlaced
  have past : after (base + 80) (storeCheckpointHead ++ storeCheckpointRegs ++ storeCheckpointTail ++
      storeCheckpointPop) = base + 304 := by
    change base + 80 + 224 = base + 304
    bv_omega
  rw [past, List.append_nil] at ran
  exact ran

/-- Every store of the routine: the frame, then the cells of the call's image. -/
def checkpointWrites (call : Context) (view : HartView) (exit : Word) : List Write :=
  frameWrites call.regs ++
    cellWrites view.ctrl.safeCopyAddress (callImage call view.ram exit)
      (checkpointOrder (stackWords (call.regs.read .sp) view.ctrl.initialStackAddr))

theorem checkpointOrder_fits {words : Nat} {cell : Cell} (member : cell ∈ checkpointOrder words) :
    cell.position < 37 + words := by
  rcases List.mem_append.mp member with stack | fixed
  · obtain ⟨index, inside, rfl⟩ := List.mem_map.mp stack
    exact Nat.add_lt_add_left (List.mem_range.mp inside) 37
  · have bound : ∀ cell ∈ contextCells, cell.position < 37 := by decide
    exact Nat.lt_add_right _ (bound cell fixed)

theorem checkpointWrites_memory
    (site : SaveSite view.ctrl.safeCopyAddress (call.regs.read .sp) view.ctrl.initialStackAddr)
    (exit : Word) : ∀ write ∈ checkpointWrites call view exit, InMemory write.1 := by
  intro write member
  rcases List.mem_append.mp member with frame | area
  · exact frameWrites_memory site write frame
  · obtain ⟨cell, inOrder, rfl⟩ := List.mem_map.mp area
    exact site.cell_memory (checkpointOrder_fits inOrder)

/-- The routine returns with every register as at the call; its stores are the
frame and then the cells of the call's image. -/
theorem storeCheckpoint_executes (placed : CodeAt code base storeCheckpoint)
    (site : SaveSite view.ctrl.safeCopyAddress (call.regs.read .sp) view.ctrl.initialStackAddr) :
    let stores := checkpointWrites call view (base + 304)
    Executes hartBus code ⟨call.at base, view⟩ stores
      ⟨call.at (base + 304), { view with ram := ByteMemory.storeAll view.ram stores }⟩ := by
  intro stores
  let image := callImage call view.ram (base + 304)
  let pushed := hartBus.storeAll view (frameWrites call.regs)
  have pushedCtrl : pushed.ctrl = view.ctrl := by
    change (hartBus.storeAll view (frameWrites call.regs)).ctrl = _
    rw [hartBus_storeAll_memory view _ (frameWrites_memory site)]
  obtain ⟨frontPlaced, _⟩ := storeCheckpoint_labels placed
  obtain ⟨ready, inside, source, limit, setup⟩ := @storeCheckpointSetup_performs call
    (after base storeCheckpointPush) pushed
  rw [pushedCtrl] at inside limit
  have front := (storeCheckpointPush_performs.append setup) code frontPlaced
  have held : FrameHeld pushed call.regs := frameHeld_pushed site view
  obtain ⟨copied, copiedInside, copy⟩ := @storeCheckpointStack_executes code base call view placed
    _ _ site (base + 304) ready inside source limit
  have copiedHeld := held.cells site image fun cell member =>
    checkpointOrder_fits (List.mem_append_left contextCells member)
  have saved := storeCheckpointContext_executes placed site copiedInside copiedHeld image
    (fun _ => rfl) (fun _ => rfl) rfl
  have whole := (front.trans copy).trans saved
  have order : frameWrites call.regs ++ [] ++ cellWrites view.ctrl.safeCopyAddress image
      (stackCells (stackWords (call.regs.read .sp) view.ctrl.initialStackAddr)) ++
        cellWrites view.ctrl.safeCopyAddress image contextCells = stores := by
    rw [List.append_nil, List.append_assoc, ← cellWrites_append]
    rfl
  rw [order] at whole
  have final := whole.dev_eq
  rw [hartBus_storeAll_memory view stores (checkpointWrites_memory site (base + 304))] at final
  rw [← final]
  exact whole

end Routine

end Eros
