import Eros.HaltBoot
import Eros.Wake

/-!
# What `Safe_Activate` saves and where it ends

With the configuration register 0 the routine requests the mode, saves the
caller's context into the area with `sp` below its frame and the area's address
for `t5`, and sleeps behind the `auipc` whose address it saved.  From there the
master, and every hart that resumed from the area, ends alike.
-/

set_option autoImplicit false

namespace Eros

open Rv32
open ByteMemory (Mem Write InRegion Apart Disjoint)

/-! ## The site -/

theorem frame_upper (sp : Word) : sp - 16 + 12 = sp - 32 + BitVec.ofNat 32 28 := by bv_omega

theorem frame_lower (sp : Word) : sp - 16 + 8 = sp - 32 + BitVec.ofNat 32 24 := by bv_omega

/-- The save area and the frames of the routine and of the handler are memory. -/
structure SwitchMemory (area sp : Word) : Prop where
  areaMemory : AreaInMemory area
  stackMemory : ∀ byte, InRegion (sp - 32) 32 byte → InMemory byte

namespace SwitchMemory
variable {area sp : Word} (memory : SwitchMemory area sp)
include memory

theorem stack_memory {addr : Word} {offset : Nat} (here : addr = sp - 32 + BitVec.ofNat 32 offset)
    (room : offset + 4 ≤ 32) : InMemory addr := by
  apply memory.stackMemory
  apply ByteMemory.region_of_word here room (by decide)
  unfold InRegion
  rw [BitVec.sub_self]
  decide

theorem frame : ScratchFrame sp where
  upper := memory.stack_memory (frame_upper sp) (by decide)
  lower := memory.stack_memory (frame_lower sp) (by decide)

end SwitchMemory

/-- The save area and the frames of the routine and of the handler. -/
structure SwitchSite (area sp : Word) : Prop where
  apart : Disjoint area 148 (sp - 32) 32
  areaMemory : AreaInMemory area
  stackMemory : ∀ byte, InRegion (sp - 32) 32 byte → InMemory byte

namespace SwitchSite
variable {area sp : Word} (site : SwitchSite area sp)
include site

theorem memory : SwitchMemory area sp := ⟨site.areaMemory, site.stackMemory⟩

theorem frame : ScratchFrame sp := site.memory.frame

theorem cell_apart {cell : Cell} (fixed : cell.position < 37) {addr : Word} {offset : Nat}
    (here : addr = sp - 32 + BitVec.ofNat 32 offset) (room : offset + 4 ≤ 32) :
    Apart (cell.addr area) addr := by
  apply ByteMemory.apart_of_disjoint site.apart
  · intro byte inside
    exact ByteMemory.region_of_word rfl (by omega) (by decide) inside
  · intro byte inside
    exact ByteMemory.region_of_word here room (by decide) inside

theorem handlerFrame : ScratchFrame (sp - 16) where
  upper := site.memory.stack_memory
    (by bv_omega : sp - 16 - 16 + 12 = sp - 32 + BitVec.ofNat 32 12) (by decide)
  lower := site.memory.stack_memory
    (by bv_omega : sp - 16 - 16 + 8 = sp - 32 + BitVec.ofNat 32 8) (by decide)

end SwitchSite

/-! ## The stores of a switch -/

/-- A store to the area or the frames, or to one of the three registers that a
switch writes. -/
inductive SwitchStore (area sp : Word) : Write → Prop
  | cell {cell : Cell} {value : Word} (fixed : cell.position < 37) :
      SwitchStore area sp (cell.addr area, value)
  | frame {addr value : Word} {offset : Nat} (here : addr = sp - 32 + BitVec.ofNat 32 offset)
      (room : offset + 4 ≤ 32) : SwitchStore area sp (addr, value)
  | configuration {value : Word} :
      SwitchStore area sp (ctrlAddr CtrlOffset.safeConfiguration, value)
  | master {value : Word} : SwitchStore area sp (ctrlAddr CtrlOffset.initialSyncMaster, value)
  | ack {value : Word} :
      SwitchStore area sp (privAddr CpuPrivateReg.hartIntcAckOffset, value)

namespace SwitchStore
variable {area sp : Word} {writes : List Write}

theorem cells (image : Image) {cells : List Cell} (fixed : ∀ cell ∈ cells, cell.position < 37) :
    ∀ write ∈ cellWrites area image cells, SwitchStore area sp write := by
  intro write member
  obtain ⟨cell, inCells, rfl⟩ := List.mem_map.mp member
  exact .cell (fixed cell inCells)

theorem scratch {regs : RegFile} (here : regs.read .sp = sp ∨ regs.read .sp = sp - 16) :
    ∀ write ∈ scratchWrites regs, SwitchStore area sp write := by
  intro write member
  simp only [scratchWrites, List.mem_cons, List.not_mem_nil, or_false] at member
  rcases here with top | below
  · rw [top] at member
    rcases member with rfl | rfl
    · exact .frame (frame_upper sp) (by decide)
    · exact .frame (frame_lower sp) (by decide)
  · rw [below] at member
    rcases member with rfl | rfl
    · exact .frame (by bv_omega : sp - 16 - 16 + 12 = sp - 32 + BitVec.ofNat 32 12) (by decide)
    · exact .frame (by bv_omega : sp - 16 - 16 + 8 = sp - 32 + BitVec.ofNat 32 8) (by decide)

theorem keeps_safeCopyAddress (memory : SwitchMemory area sp) (view : HartView)
    (stores : ∀ write ∈ writes, SwitchStore area sp write) :
    (hartBus.storeAll view writes).ctrl.safeCopyAddress = view.ctrl.safeCopyAddress := by
  apply hartBus_storeAll_safeCopyAddress
  intro write member
  cases stores write member with
  | cell fixed => exact fun safe => absurd safe (memory.areaMemory.cell fixed).2
  | frame here room => exact fun safe => absurd safe (memory.stack_memory here room).2
  | configuration =>
    exact fun _ => (by decide : (ctrlAddr CtrlOffset.safeConfiguration).truncate 6 ≠ _)
  | master => exact fun _ => (by decide : (ctrlAddr CtrlOffset.initialSyncMaster).truncate 6 ≠ _)
  | ack => exact fun _ => (by decide : (privAddr CpuPrivateReg.hartIntcAckOffset).truncate 6 ≠ _)

theorem keeps_outside (view : HartView) (stores : ∀ write ∈ writes, SwitchStore area sp write)
    {byte : Word} (outArea : ¬InRegion area 148 byte) (outFrames : ¬InRegion (sp - 32) 32 byte) :
    (hartBus.storeAll view writes).ram byte = view.ram byte := by
  rw [hartBus_storeAll_ram]
  apply ByteMemory.storeAll_outside
  intro write member inside
  obtain ⟨made, kept⟩ := List.mem_filter.mp member
  have memory : InMemory write.1 := of_decide_eq_true kept
  cases stores write made with
  | cell fixed => exact outArea (ByteMemory.region_of_word rfl (by omega) (by decide) inside)
  | frame here room => exact outFrames (ByteMemory.region_of_word here room (by decide) inside)
  | configuration =>
    exact absurd memory (ctrlAddr_not_memory _)
  | master => exact absurd memory (ctrlAddr_not_memory _)
  | ack => exact absurd memory (privAddr_not_memory _)

end SwitchStore

/-! ## The saved image -/

def switchTable : List (Reg × Word) :=
  [(.ra, 20), (.sp, 24), (.gp, 28), (.tp, 32), (.t0, 36), (.t1, 40), (.t2, 44), (.s0, 48),
    (.s1, 52), (.a0, 56), (.a1, 60), (.a2, 64), (.a3, 68), (.a4, 72), (.a5, 76), (.a6, 80),
    (.a7, 84), (.s2, 88), (.s3, 92), (.s4, 96), (.s5, 100), (.s6, 104), (.s7, 108), (.s8, 112),
    (.s9, 116), (.s10, 120), (.s11, 124), (.t3, 128), (.t4, 132)]

/-- The image `Safe_Activate` leaves: `sp` below the frame, the area for `t5`. -/
def switchImage (call : Context) (area resume : Word) : Image
  | .csr name => call.csrs name
  | .reg name =>
    if name = .sp then call.regs.read .sp - 16
    else if name = .t5 then area
    else call.regs.read name
  | .resume => resume
  | .stack _ => 0

def switchCells : List Cell := trapCells ++ switchTable.map fun entry => .reg entry.1

/-- A context inside the routine: below its frame, the area in `t5`. -/
structure InSwitch (call : Context) (area : Word) (context : Context) : Prop where
  base : context.regs.read .t5 = area
  stack : context.regs.read .sp = call.regs.read .sp - 16
  others : RegFile.SameExcept [.sp, .t5, .t6] context.regs call.regs
  csrs : context.csrs = call.csrs

def asleepRegs (call : Context) (area resume : Word) : RegFile :=
  ((call.regs.write .sp (call.regs.read .sp - 16)).write .t5 area).write .t6 resume

theorem InSwitch.scratch {call context : Context} {area : Word} (inside : InSwitch call area context)
    (value : Word) : InSwitch call area { context with regs := context.regs.write .t6 value } where
  base := inside.base
  stack := inside.stack
  others := inside.others.write (by decide) value
  csrs := inside.csrs

theorem InSwitch.asleep {call context : Context} {area resume : Word}
    (inside : InSwitch call area context) (saved : context.regs.read .t6 = resume) :
    context.regs = asleepRegs call area resume := by
  apply RegFile.ext
  funext reg
  by_cases working : reg ∈ [Reg.sp, .t5, .t6]
  · simp only [List.mem_cons, List.not_mem_nil, or_false] at working
    rcases working with rfl | rfl | rfl
    · exact inside.stack
    · exact inside.base
    · exact saved
  · rw [inside.others reg working]
    revert working
    cases reg <;> first | exact fun _ => rfl | exact fun other => absurd (by decide) other

/-! ## The phases -/

section Phases
variable {call context : Context} {area pc : Word} {view : HartView} {image : Image}

theorem safeActivateSave_performs (inside : InSwitch call area context) (resume : Word) :
    ∃ next, InSwitch call area next ∧
      Performs hartBus pc safeActivateSave context view
        (cellWrites area (switchImage call area resume) switchCells) next := by
  obtain ⟨value, trapSaved⟩ := @performs_saveTrapCells pc area context view
    (switchImage call area resume) .t6 .t5 (by decide) (by decide) inside.base
    (by intro csr; rw [inside.csrs]; rfl)
  have free := inside.scratch value
  have saved : Performs hartBus (after pc (saveCsrs .t6 .t5 csrArea)) (saveRegs .t5 switchTable)
      { context with regs := context.regs.write .t6 value }
      (hartBus.storeAll view (cellWrites area (switchImage call area resume) trapCells))
      (cellWrites area (switchImage call area resume) (switchTable.map fun entry => .reg entry.1))
      { context with regs := context.regs.write .t6 value } := by
    refine performs_saveCells switchTable (by decide) free.base ?_
    intro entry member
    by_cases pointer : entry.1 = .sp
    · rw [pointer]
      exact free.stack
    · have other : entry.1 ∉ [Reg.sp, .t5, .t6] ∧ entry.1 ≠ .t5 := by
        revert pointer
        revert entry
        decide
      rw [free.others entry.1 other.1]
      change _ = if entry.1 = .sp then _ else if entry.1 = .t5 then _ else _
      rw [if_neg pointer, if_neg other.2]
  exact ⟨_, free, performs_appendCells trapSaved saved⟩

/-- `t5` over its frame word, then the cells of `t5` and `t6`; the frame gives `six`
for `t6`. -/
def scratchStores (call : Context) (area six : Word) : List Write :=
  [(call.regs.read .sp - 16 + 12, area), ((Cell.reg .t5).addr area, area),
    ((Cell.reg .t6).addr area, six)]

/-- `t5` over its frame word, then the cells of `t5` and `t6`. -/
def scratchSave (call : Context) (area resume : Word) : List Write :=
  (call.regs.read .sp - 16 + 12, area) ::
    cellWrites area (switchImage call area resume) [.reg .t5, .reg .t6]

theorem safeActivateScratch_performs (inside : InSwitch call area context) {six : Word}
    (held : hartBus.load (hartBus.storeAll view
      [(call.regs.read .sp - 16 + 12, area), ((Cell.reg .t5).addr area, area)])
      (call.regs.read .sp - 16 + 8) = six) :
    ∃ next, InSwitch call area next ∧
      Performs hartBus pc safeActivateScratch context view (scratchStores call area six) next := by
  let sp := call.regs.read .sp
  let fetched := hartBus.load (hartBus.storeAll view [(sp - 16 + 12, area)])
    (context.regs.read .sp + 12)
  let refetched : Context := { context with regs := context.regs.write .t6 fetched }
  let reloaded : Context := { context with regs := refetched.regs.write .t6 six }
  have refetchedInside : InSwitch call area refetched := inside.scratch _
  have reloadedInside : InSwitch call area reloaded := refetchedInside.scratch _
  have overwrite : Performs hartBus pc [.sw .t5 12 .sp] context view [(sp - 16 + 12, area)] context :=
    performs_store (congrArg (· + 12) inside.stack) inside.base
  have refetch : Performs hartBus (pc + 4) [.lw .t6 12 .sp] context
      (hartBus.storeAll view [(sp - 16 + 12, area)]) [] refetched := performs_lw .t6 12 .sp
  have saveFive : Performs hartBus (pc + 4 + 4) [.sw .t5 136 .t5] refetched
      (hartBus.storeAll view [(sp - 16 + 12, area)]) [((Cell.reg .t5).addr area, area)] refetched :=
    performs_store (congrArg (· + 136) refetchedInside.base) refetchedInside.base
  have reload : Performs hartBus (pc + 4 + 4 + 4) [.lw .t6 8 .sp] refetched
      (hartBus.storeAll view [(sp - 16 + 12, area), ((Cell.reg .t5).addr area, area)]) [] reloaded :=
    performs_load (congrArg (· + 8) refetchedInside.stack) held
  have saveSix : Performs hartBus (pc + 4 + 4 + 4 + 4) [.sw .t6 140 .t5] reloaded
      (hartBus.storeAll view [(sp - 16 + 12, area), ((Cell.reg .t5).addr area, area)])
      [((Cell.reg .t6).addr area, six)] reloaded :=
    performs_store (congrArg (· + 140) reloadedInside.base) (RegFile.read_write_same _ _ (by simp))
  have saved := Performs.cons saveFive (Performs.cons reload saveSix)
  exact ⟨reloaded, reloadedInside, Performs.cons overwrite (Performs.cons refetch saved)⟩

theorem InSwitch.point {five : RegFile} (inside : InSwitch call area context)
    (same : RegFile.SameExcept [.t5, .t6] five context.regs) (points : five.read .t5 = area) :
    InSwitch call area { context with regs := five } where
  base := points
  stack := (same .sp (by decide)).trans inside.stack
  others := by
    intro reg outside
    have free : reg ∉ [Reg.t5, .t6] := fun listed => outside (List.mem_cons_of_mem _ listed)
    exact (same reg free).trans (inside.others reg outside)
  csrs := inside.csrs

theorem safeActivateSync_performs (inside : InSwitch call area context)
    (points : view.ctrl.safeCopyAddress = area) :
    ∃ next, InSwitch call area next ∧
      Performs hartBus pc safeActivateSync context view
        [(ctrlAddr CtrlOffset.initialSyncMaster, 1)] next := by
  let one := (context.regs.write .t5 safeWrapperCtrlBase).write .t6 1
  let based := one.write .t5 safeWrapperCtrlBase
  let stored := hartBus.storeAll view [(ctrlAddr CtrlOffset.initialSyncMaster, 1)]
  have storedArea : stored.ctrl.safeCopyAddress = area := by
    change (hartBus.store view (ctrlAddr CtrlOffset.initialSyncMaster) 1).ctrl.safeCopyAddress = area
    rw [hartBus_store_ctrl]
    exact (SafeWrapperCtrl.softwareWrite_safeCopyAddress _ (by decide) 1).trans points
  have load : ∀ pc, Performs hartBus pc [.lw .t5 (ctrlImm CtrlOffset.safeCopyAddress) .t5]
      { context with regs := based } stored [] { context with regs := based.write .t5 area } := by
    intro pc
    have step : Performs hartBus pc [.lw .t5 (ctrlImm CtrlOffset.safeCopyAddress) .t5]
        { context with regs := based } stored [] _ :=
      performs_ctrlLoad CtrlOffset.safeCopyAddress .t5 .t5 rfl
    rw [SafeWrapperCtrl.rdata_safeCopyAddress, storedArea] at step
    exact step
  have same : RegFile.SameExcept [.t5, .t6] (based.write .t5 area) context.regs := by
    have start : RegFile.SameExcept [.t5, .t6] context.regs context.regs := fun _ _ => rfl
    exact (((start.write (by decide) _).write (by decide) _).write (by decide) _).write (by decide) _
  refine ⟨_, inside.point same rfl, ?_⟩
  exact Performs.cons (performs_li .t5 safeWrapperCtrlBase) (Performs.cons (performs_li .t6 1)
    (Performs.cons (performs_ctrlStore CtrlOffset.initialSyncMaster .t6 .t5 rfl)
      (Performs.cons (performs_li .t5 safeWrapperCtrlBase) (load _))))

theorem safeActivateSleep_performs (inside : InSwitch call area context)
    (resume : image .resume = pc) :
    ∃ next, next.regs = asleepRegs call area pc ∧ next.csrs = call.csrs ∧
      Performs hartBus pc safeActivateSleep context view (cellWrites area image [.resume]) next := by
  let next : Context := { context with regs := context.regs.write .t6 pc }
  have nextInside : InSwitch call area next := inside.scratch pc
  have locate : Performs hartBus pc [.auipc .t6 0] context view [] next := by
    have step : Performs hartBus pc [.auipc .t6 0] context view [] _ := performs_auipc .t6 0
    rw [show pc + (0 : Word) <<< 12 = pc by bv_omega] at step
    exact step
  have save : Performs hartBus (pc + 4) [.sw .t6 144 .t5] next view
      (cellWrites area image [.resume]) next := by
    refine performs_store (congrArg (· + 144) nextInside.base) ?_
    rw [resume]
    exact RegFile.read_write_same _ _ (by simp)
  refine ⟨next, nextInside.asleep (RegFile.read_write_same _ _ (by simp)), inside.csrs, ?_⟩
  exact Performs.cons locate (Performs.cons save (Performs.cons performs_fence
    (Performs.cons performs_nop (Performs.cons performs_nop (Performs.cons performs_nop
      (Performs.cons performs_nop performs_wfi))))))

end Phases

/-! ## The run to the `wfi` -/

section Run
variable {code : Code} {base area : Word} {call : Context} {view : HartView}

theorem safeActivate_labels (placed : CodeAt code base safeActivate) :
    CodeAt code base (safeActivatePush ++
        [.li .t5 safeWrapperCtrlBase, .lw .t6 (ctrlImm CtrlOffset.safeConfiguration) .t5]) ∧
      code (base + 20) = some (.bnez .t6 272) ∧
      CodeAt code (base + 24) [.sw .a0 (ctrlImm CtrlOffset.safeConfiguration) .t5,
        .li .t5 safeWrapperCtrlBase, .lw .t5 (ctrlImm CtrlOffset.safeCopyAddress) .t5] ∧
      CodeAt code (base + 36) (safeActivateSave ++ safeActivateScratch ++ safeActivateSync) ∧
      CodeAt code (base + 232) safeActivateSleep ∧
      CodeAt code (base + 264) (safeActivateRelease ++ safeActivateExit) := by
  have parts : safeActivate = (safeActivatePush ++
      [.li .t5 safeWrapperCtrlBase, .lw .t6 (ctrlImm CtrlOffset.safeConfiguration) .t5]) ++
      [.bnez .t6 272] ++
      [.sw .a0 (ctrlImm CtrlOffset.safeConfiguration) .t5, .li .t5 safeWrapperCtrlBase,
        .lw .t5 (ctrlImm CtrlOffset.safeCopyAddress) .t5] ++
      (safeActivateSave ++ safeActivateScratch ++ safeActivateSync) ++ safeActivateSleep ++
      (safeActivateRelease ++ safeActivateExit) := by
    simp only [safeActivate, safeActivateConfigure, List.append_assoc]
    rfl
  rw [parts] at placed
  obtain ⟨toSleep, leave⟩ := codeAt_append.mp placed
  obtain ⟨toSave, sleep⟩ := codeAt_append.mp toSleep
  obtain ⟨toRequest, save⟩ := codeAt_append.mp toSave
  obtain ⟨toTest, request⟩ := codeAt_append.mp toRequest
  obtain ⟨front, test⟩ := codeAt_append.mp toTest
  exact ⟨front, test.1, request, save, sleep, leave⟩

/-- The stores up to the `wfi`, with `six` saved for `t6`. -/
def activateStores (call : Context) (area resume six : Word) : List Write :=
  scratchWrites call.regs ++
    [(ctrlAddr CtrlOffset.safeConfiguration, call.regs.read .a0)] ++
    (cellWrites area (switchImage call area resume) switchCells ++ scratchStores call area six ++
      [(ctrlAddr CtrlOffset.initialSyncMaster, 1)]) ++
    cellWrites area (switchImage call area resume) [.resume]

/-- The stores up to the `wfi`. -/
def activateWrites (call : Context) (area resume : Word) : List Write :=
  scratchWrites call.regs ++
    [(ctrlAddr CtrlOffset.safeConfiguration, call.regs.read .a0)] ++
    (cellWrites area (switchImage call area resume) switchCells ++ scratchSave call area resume ++
      [(ctrlAddr CtrlOffset.initialSyncMaster, 1)]) ++
    cellWrites area (switchImage call area resume) [.resume]

theorem activateStores_own (resume : Word) :
    activateStores call area resume (call.regs.read .t6) = activateWrites call area resume := rfl

theorem safeActivate_front (placed : CodeAt code base safeActivate)
    (frame : ScratchFrame (call.regs.read .sp)) (fresh : view.ctrl.safeConfiguration = 0)
    (points : view.ctrl.safeCopyAddress = area) :
    let stores := scratchWrites call.regs ++
      [(ctrlAddr CtrlOffset.safeConfiguration, call.regs.read .a0)]
    ∃ ready, InSwitch call area ready ∧
      Executes hartBus code ⟨call.at base, view⟩ stores
        ⟨ready.at (base + 36), hartBus.storeAll view stores⟩ := by
  intro stores
  let framed := framedContext call
  let based : Context := { call with regs := framed.regs.write .t5 safeWrapperCtrlBase }
  let checked : Context := { call with regs := based.regs.write .t6 0 }
  let pushed := hartBus.storeAll view (scratchWrites call.regs)
  have memory : ∀ write ∈ scratchWrites call.regs, InMemory write.1 := by
    intro write member
    simp only [scratchWrites, List.mem_cons, List.not_mem_nil, or_false] at member
    rcases member with rfl | rfl
    · exact frame.upper
    · exact frame.lower
  have pushedCtrl : pushed.ctrl = view.ctrl := by
    change (hartBus.storeAll view (scratchWrites call.regs)).ctrl = _
    rw [hartBus_storeAll_memory view _ memory]
  obtain ⟨frontPlaced, testPlaced, requestPlaced, _⟩ := safeActivate_labels placed
  have check : ∀ pc, Performs hartBus pc
      [.li .t5 safeWrapperCtrlBase, .lw .t6 (ctrlImm CtrlOffset.safeConfiguration) .t5] framed pushed
      [] checked := by
    intro pc
    have load : Performs hartBus (pc + 4) [.lw .t6 (ctrlImm CtrlOffset.safeConfiguration) .t5] based
        pushed [] _ := performs_ctrlLoad CtrlOffset.safeConfiguration .t6 .t5 rfl
    rw [SafeWrapperCtrl.rdata_safeConfiguration, pushedCtrl, fresh] at load
    exact Performs.cons (performs_li .t5 safeWrapperCtrlBase) load
  have front := (performs_pushScratch.append (check _)) code frontPlaced
  have test := @executes_bnez HartView hartBus code (base + 20) checked pushed .t6 272 testPlaced
  have clear : checked.regs.read .t6 = 0 := by simp [checked]
  rw [if_neg (not_not.mpr clear), show base + 20 + 4 = base + 24 by bv_omega] at test
  let again := checked.regs.write .t5 safeWrapperCtrlBase
  let requested := hartBus.storeAll pushed
    [(ctrlAddr CtrlOffset.safeConfiguration, call.regs.read .a0)]
  have requestedArea : requested.ctrl.safeCopyAddress = area := by
    change (hartBus.store pushed (ctrlAddr CtrlOffset.safeConfiguration) _).ctrl.safeCopyAddress = area
    rw [hartBus_store_ctrl, SafeWrapperCtrl.softwareWrite_safeCopyAddress _ (by decide), pushedCtrl]
    exact points
  have load : ∀ pc, Performs hartBus pc [.lw .t5 (ctrlImm CtrlOffset.safeCopyAddress) .t5]
      { call with regs := again } requested [] { call with regs := again.write .t5 area } := by
    intro pc
    have step : Performs hartBus pc [.lw .t5 (ctrlImm CtrlOffset.safeCopyAddress) .t5]
        { call with regs := again } requested [] _ :=
      performs_ctrlLoad CtrlOffset.safeCopyAddress .t5 .t5 rfl
    rw [SafeWrapperCtrl.rdata_safeCopyAddress, requestedArea] at step
    exact step
  have ask : Performs hartBus (base + 24) [.sw .a0 (ctrlImm CtrlOffset.safeConfiguration) .t5,
      .li .t5 safeWrapperCtrlBase, .lw .t5 (ctrlImm CtrlOffset.safeCopyAddress) .t5] checked pushed
      [(ctrlAddr CtrlOffset.safeConfiguration, call.regs.read .a0)]
      { call with regs := again.write .t5 area } :=
    Performs.cons (performs_ctrlStore CtrlOffset.safeConfiguration .a0 .t5 rfl)
      (Performs.cons (performs_li .t5 safeWrapperCtrlBase) (load _))
  have asked := ask code requestPlaced
  have past : after (base + 24) [Instr.sw .a0 (ctrlImm CtrlOffset.safeConfiguration) .t5,
      .li .t5 safeWrapperCtrlBase, .lw .t5 (ctrlImm CtrlOffset.safeCopyAddress) .t5] = base + 36 := by
    change base + 24 + 12 = base + 36
    bv_omega
  rw [past] at asked
  have start : RegFile.SameExcept [.sp, .t5, .t6] call.regs call.regs := fun _ _ => rfl
  refine ⟨{ call with regs := again.write .t5 area }, ⟨rfl, framed_sp, ?_, rfl⟩, ?_⟩
  · exact ((((start.write (by decide) _).write (by decide) _).write (by decide) _).write
      (by decide) _).write (by decide) _
  · have whole := (front.trans test).trans asked
    simp only [List.append_nil] at whole
    exact whole

theorem activateStores_stores (resume six : Word) : ∀ write ∈ activateStores call area resume six,
    SwitchStore area (call.regs.read .sp) write := by
  intro write member
  simp only [activateStores, scratchStores, List.mem_append, List.mem_cons, List.not_mem_nil,
    or_false] at member
  rcases member with ((push | rfl) | ((cells | rfl | rfl | rfl) | rfl)) | last
  · exact SwitchStore.scratch (.inl rfl) write push
  · exact .configuration
  · exact SwitchStore.cells _ (by decide) write cells
  · exact .frame (frame_upper _) (by decide)
  · exact .cell (by decide)
  · exact .cell (by decide)
  · exact .master
  · exact SwitchStore.cells _ (by decide) write last

theorem activateWrites_stores (resume : Word) : ∀ write ∈ activateWrites call area resume,
    SwitchStore area (call.regs.read .sp) write :=
  activateStores_stores resume (call.regs.read .t6)

/-- The master reaches the end of its `wfi`, also when its frame is in the area.
`six` is what the frame holds for `t6` after the stores before its cell. -/
theorem safeActivate_reaches (placed : CodeAt code base safeActivate)
    (memory : SwitchMemory area (call.regs.read .sp)) (fresh : view.ctrl.safeConfiguration = 0)
    (points : view.ctrl.safeCopyAddress = area) {six : Word}
    (held : hartBus.load (hartBus.storeAll view ((scratchWrites call.regs ++
        [(ctrlAddr CtrlOffset.safeConfiguration, call.regs.read .a0)]) ++
        (cellWrites area (switchImage call area (base + 232)) switchCells ++
          [(call.regs.read .sp - 16 + 12, area), ((Cell.reg .t5).addr area, area)])))
      (call.regs.read .sp - 16 + 8) = six) :
    ∃ asleep : Context, asleep.regs = asleepRegs call area (base + 232) ∧
      asleep.csrs = call.csrs ∧
      Executes hartBus code ⟨call.at base, view⟩ (activateStores call area (base + 232) six)
        ⟨asleep.at (base + 264),
          hartBus.storeAll view (activateStores call area (base + 232) six)⟩ := by
  obtain ⟨_, _, _, savePlaced, sleepPlaced, _⟩ := safeActivate_labels placed
  obtain ⟨ready, readyInside, front⟩ := safeActivate_front placed memory.frame fresh points
  let cells := cellWrites area (switchImage call area (base + 232)) switchCells
  let requested := hartBus.storeAll view (scratchWrites call.regs ++
    [(ctrlAddr CtrlOffset.safeConfiguration, call.regs.read .a0)])
  have stores := @activateStores_stores area call (base + 232) six
  obtain ⟨saved, savedInside, save⟩ := @safeActivateSave_performs call ready area (base + 36)
    requested readyInside (base + 232)
  rw [Bus.storeAll_append, Bus.storeAll_append] at held
  obtain ⟨kept, keptInside, scratch⟩ := @safeActivateScratch_performs call saved area
    (after (base + 36) safeActivateSave) (hartBus.storeAll requested cells) savedInside six held
  let scratched := hartBus.storeAll requested (cells ++ scratchStores call area six)
  have pointed : scratched.ctrl.safeCopyAddress = area := by
    change (hartBus.storeAll (hartBus.storeAll view _) _).ctrl.safeCopyAddress = area
    rw [← Bus.storeAll_append]
    refine (SwitchStore.keeps_safeCopyAddress memory view ?_).trans points
    intro write member
    apply stores
    unfold activateStores
    rcases List.mem_append.mp member with first | second
    · exact List.mem_append_left _ (List.mem_append_left _ first)
    · exact List.mem_append_left _ (List.mem_append_right _ (List.mem_append_left _ second))
  obtain ⟨synced, syncedInside, sync⟩ := @safeActivateSync_performs call kept area
    (after (base + 36) (safeActivateSave ++ safeActivateScratch)) scratched keptInside pointed
  have saves := ((save.append scratch).append sync) code savePlaced
  have past : after (base + 36) (safeActivateSave ++ safeActivateScratch ++ safeActivateSync) =
      base + 232 := by
    change base + 36 + 196 = base + 232
    bv_omega
  rw [past] at saves
  obtain ⟨asleep, regs, csrs, sleep⟩ := @safeActivateSleep_performs call synced area (base + 232)
    _ (switchImage call area (base + 232)) syncedInside rfl
  have sleeps := sleep code sleepPlaced
  refine ⟨asleep, regs, csrs, ?_⟩
  have whole := (front.trans saves).trans sleeps
  rw [← Bus.storeAll_append, ← Bus.storeAll_append] at whole
  have reached : after (base + 232) safeActivateSleep = base + 264 := by
    change base + 232 + 32 = base + 264
    bv_omega
  rw [reached] at whole
  exact whole

/-- With its frame apart from the area the master saves its own context. -/
theorem safeActivate_sleeps (placed : CodeAt code base safeActivate)
    (site : SwitchSite area (call.regs.read .sp)) (fresh : view.ctrl.safeConfiguration = 0)
    (points : view.ctrl.safeCopyAddress = area) :
    ∃ asleep : Context, asleep.regs = asleepRegs call area (base + 232) ∧
      asleep.csrs = call.csrs ∧
      Executes hartBus code ⟨call.at base, view⟩ (activateWrites call area (base + 232))
        ⟨asleep.at (base + 264),
          hartBus.storeAll view (activateWrites call area (base + 232))⟩ := by
  rw [← activateStores_own]
  apply safeActivate_reaches placed site.memory fresh points
  rw [List.append_assoc]
  apply scratch_lower_held site.frame
  intro write member memory
  simp only [List.mem_append, List.mem_cons, List.not_mem_nil, or_false] at member
  rcases member with rfl | inCells | rfl | rfl
  · exact absurd memory (ctrlAddr_not_memory _)
  · obtain ⟨cell, inSwitch, rfl⟩ := List.mem_map.mp inCells
    have fixed : ∀ cell ∈ switchCells, cell.position < 37 := by decide
    exact site.cell_apart (fixed cell inSwitch) (frame_lower _) (by decide)
  · exact scratch_apart _
  · have fixed : (Cell.reg .t5).position < 37 := by decide
    exact site.cell_apart fixed (frame_lower _) (by decide)

theorem switchCells_complete {cell : Cell} (saved : cell ≠ .reg .zero)
    (fixed : cell.position < 37) :
    cell ∈ switchCells ∨ cell ∈ [Cell.reg .t5, .reg .t6] ∨ cell ∈ [Cell.resume] := by
  cases cell with
  | csr name => cases name <;> exact .inl (by decide)
  | reg name =>
    cases name
    · exact absurd rfl saved
    all_goals decide
  | resume => exact .inr (.inr List.mem_cons_self)
  | stack index =>
    simp only [Cell.position] at fixed
    omega

theorem areaImage_asleep (site : SwitchSite area (call.regs.read .sp)) (resume : Word) {cell : Cell}
    (saved : cell ≠ .reg .zero) (fixed : cell.position < 37) :
    areaImage (hartBus.storeAll view (activateWrites call area resume)).ram area cell =
      switchImage call area resume cell := by
  have memory := site.areaMemory.cell fixed
  have cells : ∀ cells : List Cell, (∀ other ∈ cells, other ≠ .reg .zero ∧ other.position < 37) →
      ∀ write ∈ cellWrites area (switchImage call area resume) cells,
        write = (cell.addr area, switchImage call area resume cell) ∨
          Apart write.1 (cell.addr area) := by
    intro cells kept write member
    obtain ⟨other, inCells, rfl⟩ := List.mem_map.mp member
    obtain ⟨otherSaved, otherFixed⟩ := kept other inCells
    by_cases same : other = cell
    · left
      rw [same]
    · right
      apply Cell.apart_of_position area _ (by omega) (by omega)
      exact fun position => same (Cell.position_injective otherSaved saved position)
  have held := hartBus_load_storeAll_written view (activateWrites call area resume)
    (switchImage call area resume cell) memory (by
      intro write member inMemory
      simp only [activateWrites, scratchSave, List.mem_append, List.mem_cons, List.not_mem_nil,
        or_false] at member
      rcases member with ((push | rfl) | ((first | rfl | second) | rfl)) | last
      · simp only [scratchWrites, List.mem_cons, List.not_mem_nil, or_false] at push
        rcases push with rfl | rfl
        · exact .inr (site.cell_apart fixed (frame_upper _) (by decide)).symm
        · exact .inr (site.cell_apart fixed (frame_lower _) (by decide)).symm
      · exact absurd inMemory (ctrlAddr_not_memory _)
      · exact cells _ (by decide) write first
      · exact .inr (site.cell_apart fixed (frame_upper _) (by decide)).symm
      · exact cells _ (by decide) write second
      · exact absurd inMemory (ctrlAddr_not_memory _)
      · exact cells _ (by decide) write last) (by
      unfold activateWrites scratchSave
      rcases switchCells_complete saved fixed with first | second | last
      · exact List.mem_append_left _ (List.mem_append_right _
          (List.mem_append_left _ (List.mem_append_left _ (List.mem_map_of_mem first))))
      · exact List.mem_append_left _ (List.mem_append_right _ (List.mem_append_left _
          (List.mem_append_right _ (List.mem_cons_of_mem _ (List.mem_map_of_mem second)))))
      · exact List.mem_append_right _ (List.mem_map_of_mem last))
  rw [hartBus_load_memory _ memory] at held
  exact held

theorem resume_asleep (site : SwitchSite area (call.regs.read .sp)) (resume : Word) :
    ByteMemory.load (hartBus.storeAll view (activateWrites call area resume)).ram (area + 144) =
      resume := by
  have cell : area + 144 = Cell.resume.addr area := rfl
  rw [cell]
  exact areaImage_asleep site resume nofun (by decide)

theorem cellWrites_apart (site : SwitchSite area (call.regs.read .sp)) (image : Image)
    {cells : List Cell} (fixed : ∀ cell ∈ cells, cell.position < 37) {addr : Word} {offset : Nat}
    (here : addr = call.regs.read .sp - 32 + BitVec.ofNat 32 offset) (room : offset + 4 ≤ 32) :
    ∀ write ∈ cellWrites area image cells, Apart write.1 addr := by
  intro write member
  obtain ⟨cell, inCells, rfl⟩ := List.mem_map.mp member
  exact site.cell_apart (fixed cell inCells) here room

theorem frame_asleep (site : SwitchSite area (call.regs.read .sp)) (resume : Word) :
    hartBus.load (hartBus.storeAll view (activateWrites call area resume))
        (call.regs.read .sp - 16 + 12) = area ∧
      hartBus.load (hartBus.storeAll view (activateWrites call area resume))
        (call.regs.read .sp - 16 + 8) = call.regs.read .t6 := by
  let image := switchImage call area resume
  constructor
  · -- the last store to the upper word is the one after the registers
    let early := scratchWrites call.regs ++
      [(ctrlAddr CtrlOffset.safeConfiguration, call.regs.read .a0)] ++
      cellWrites area image switchCells
    let late := (call.regs.read .sp - 16 + 12, area) :: (cellWrites area image [.reg .t5, .reg .t6] ++
      [(ctrlAddr CtrlOffset.initialSyncMaster, 1)] ++ cellWrites area image [.resume])
    have split : activateWrites call area resume = early ++ late := by
      simp only [activateWrites, scratchSave, early, late, image, List.append_assoc,
        List.cons_append]
    rw [split, Bus.storeAll_append]
    apply hartBus_load_storeAll_written _ late area site.frame.upper
    · intro write member memory
      simp only [late, List.mem_append, List.mem_cons, List.not_mem_nil, or_false] at member
      rcases member with rfl | (cells | rfl) | last
      · exact .inl rfl
      · exact .inr (cellWrites_apart site image (by decide) (frame_upper _) (by decide) write cells)
      · exact absurd memory (ctrlAddr_not_memory _)
      · exact .inr (cellWrites_apart site image (by decide) (frame_upper _) (by decide) write last)
    · exact List.mem_cons_self
  · apply hartBus_load_storeAll_written _ _ _ site.frame.lower
    · intro write member memory
      simp only [activateWrites, scratchSave, List.mem_append, List.mem_cons, List.not_mem_nil,
        or_false] at member
      rcases member with ((push | rfl) | ((first | rfl | second) | rfl)) | last
      · simp only [scratchWrites, List.mem_cons, List.not_mem_nil, or_false] at push
        rcases push with rfl | rfl
        · exact .inr (scratch_apart _)
        · exact .inl rfl
      · exact absurd memory (ctrlAddr_not_memory _)
      · exact .inr (cellWrites_apart site image (by decide) (frame_lower _) (by decide) write first)
      · exact .inr (scratch_apart _)
      · exact .inr (cellWrites_apart site image (by decide) (frame_lower _) (by decide) write second)
      · exact absurd memory (ctrlAddr_not_memory _)
      · exact .inr (cellWrites_apart site image (by decide) (frame_lower _) (by decide) write last)
    · simp [activateWrites, scratchWrites]

/-! ## After the `wfi` -/

def releaseWrites : List Write :=
  [(ctrlAddr CtrlOffset.initialSyncMaster, 0), (privAddr CpuPrivateReg.hartIntcAckOffset, 0)]

theorem releaseWrites_stores {sp : Word} : ∀ write ∈ releaseWrites, SwitchStore area sp write := by
  intro write member
  simp only [releaseWrites, List.mem_cons, List.not_mem_nil, or_false] at member
  rcases member with rfl | rfl
  · exact .master
  · exact .ack

theorem releaseWrites_registers : ∀ write ∈ releaseWrites, ¬InMemory write.1 := by
  intro write member
  simp only [releaseWrites, List.mem_cons, List.not_mem_nil, or_false] at member
  rcases member with rfl | rfl
  · exact ctrlAddr_not_memory _
  · exact privAddr_not_memory _

theorem performs_zeroStore {pc : Word} {context : Context} {view : HartView} {offset addr : Word}
    {base : Reg} (points : context.regs.read base + offset = addr) :
    Performs hartBus pc [.sw .zero offset base] context view [(addr, 0)] context :=
  performs_store points context.regs.read_zero

theorem safeActivate_ends (placed : CodeAt code base safeActivate)
    (site : SwitchSite area (call.regs.read .sp)) {context : Context} {resume : Word}
    (regs : context.regs = asleepRegs call area resume)
    (upper : hartBus.load view (call.regs.read .sp - 16 + 12) = area)
    (lower : hartBus.load view (call.regs.read .sp - 16 + 8) = call.regs.read .t6) :
    ∃ final : Context, final.regs = call.regs.write .t5 area ∧ final.csrs = context.csrs ∧
      Executes hartBus code ⟨context.at (base + 264), view⟩ releaseWrites
        ⟨final.at (base + 304), hartBus.storeAll view releaseWrites⟩ := by
  obtain ⟨_, _, _, _, _, leavePlaced⟩ := safeActivate_labels placed
  let released := (context.regs.write .t5 safeWrapperCtrlBase).write .t5 privateRegBase
  let six := released.write .t6 (call.regs.read .t6)
  let five := six.write .t5 area
  let final : Context := { context with regs := five.write .sp (five.read .sp + 16) }
  have stack : context.regs.read .sp = call.regs.read .sp - 16 := by
    rw [regs]
    rfl
  have kept : ∀ addr, InMemory addr →
      hartBus.load (hartBus.storeAll view releaseWrites) addr = hartBus.load view addr := by
    intro addr memory
    apply hartBus_load_storeAll_apart view releaseWrites memory
    exact fun write member inMemory => absurd inMemory (releaseWrites_registers write member)
  have release : ∀ pc, Performs hartBus pc safeActivateRelease context view releaseWrites
      { context with regs := released } := by
    intro pc
    exact Performs.cons performs_nop (Performs.cons performs_nop (Performs.cons performs_nop
      (Performs.cons (performs_li .t5 safeWrapperCtrlBase) (Performs.cons (performs_zeroStore rfl)
        (Performs.cons (performs_li .t5 privateRegBase) (performs_zeroStore rfl))))))
  have reload : ∀ pc, Performs hartBus pc [.lw .t6 8 .sp] { context with regs := released }
      (hartBus.storeAll view releaseWrites) [] { context with regs := six } := by
    intro pc
    exact performs_load (congrArg (· + 8) stack) ((kept _ site.frame.lower).trans lower)
  have sixStack : six.read .sp = call.regs.read .sp - 16 := stack
  have leave : ∀ pc, Performs hartBus pc safeActivateExit { context with regs := released }
      (hartBus.storeAll view releaseWrites) [] final := by
    intro pc
    have fetch : Performs hartBus (pc + 4) [.lw .t5 12 .sp] { context with regs := six }
        (hartBus.storeAll view releaseWrites) [] { context with regs := five } :=
      performs_load (congrArg (· + 12) sixStack) ((kept _ site.frame.upper).trans upper)
    exact Performs.cons (reload pc) (Performs.cons fetch (performs_addi .sp .sp 16))
  have whole := ((release _).append (leave _)) code leavePlaced
  have past : after (base + 264) (safeActivateRelease ++ safeActivateExit) = base + 304 := by
    change base + 264 + 40 = base + 304
    bv_omega
  rw [past, List.append_nil] at whole
  refine ⟨final, ?_, rfl, whole⟩
  apply RegFile.ext
  funext reg
  have popped : five.read .sp + 16 = call.regs.read .sp := by
    rw [show five.read .sp = call.regs.read .sp - 16 from stack]
    bv_omega
  change (five.write .sp (five.read .sp + 16)).read reg = _
  rw [popped]
  have asleep : context.regs.read reg = (asleepRegs call area resume).read reg := by rw [regs]
  cases reg <;> first | exact asleep | rfl

end Run

end Eros
