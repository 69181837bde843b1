import Eros.HaltBoot
import Eros.StoreCheckpoint

/-!
# Checkpoint and recovery

The order in which `Store_Checkpoint` writes the cells determines the image in
the area after any number of its stores: the cells already written are those of
the call, the others are as before.  `halt_boot` restores that image.
-/

set_option autoImplicit false

namespace Eros

open Rv32
open ByteMemory (Mem Write InRegion Apart)

/-! ## The order of the cells -/

theorem mem_stackCells {words index : Nat} : Cell.stack index ∈ stackCells words ↔ index < words := by
  unfold stackCells
  simp

theorem mem_checkpointOrder {words : Nat} {cell : Cell} (saved : cell ≠ .reg .zero)
    (fits : cell.position < 37 + words) : cell ∈ checkpointOrder words := by
  unfold checkpointOrder
  rw [List.mem_append]
  cases cell with
  | csr name => exact .inr (by cases name <;> decide)
  | reg name =>
    right
    cases name
    · exact absurd rfl saved
    all_goals decide
  | resume => exact .inr (by decide)
  | stack index =>
    left
    rw [mem_stackCells]
    simp only [Cell.position] at fits
    omega

theorem checkpointOrder_separate {words : Nat} (small : 37 + words < 2 ^ 30) :
    Separate (checkpointOrder words) where
  nodup := by
    have stack : (stackCells words).Nodup := by
      apply List.nodup_range.map
      intro left right same
      exact Cell.stack.inj same
    refine stack.append (by decide) ?_
    intro cell inStack inContext
    obtain ⟨index, _, rfl⟩ := List.mem_map.mp inStack
    have fixed : ∀ cell ∈ contextCells, cell.position < 37 := by decide
    have bound := fixed _ inContext
    simp only [Cell.position] at bound
    omega
  saved := by
    intro cell member
    rcases List.mem_append.mp member with inStack | inContext
    · obtain ⟨index, _, rfl⟩ := List.mem_map.mp inStack
      intro same
      cases same
    · have context : ∀ cell ∈ contextCells, cell ≠ .reg .zero := by decide
      exact context cell inContext
  fits := by
    intro cell member
    have bound := checkpointOrder_fits member
    omega

/-! ## The image after some of the stores -/

section Cut
variable {call : Context} {view : HartView} {exit : Word}

theorem checkpointWrites_take (done : Nat) :
    (checkpointWrites call view exit).take done =
      (frameWrites call.regs).take done ++
        cellWrites view.ctrl.safeCopyAddress (callImage call view.ram exit)
          ((checkpointOrder (stackWords (call.regs.read .sp) view.ctrl.initialStackAddr)).take
            (done - 5)) := by
  unfold checkpointWrites
  rw [List.take_append]
  unfold cellWrites
  rw [List.map_take]
  rfl

/-- After some of the stores the area mixes the call's image with what it held. -/
theorem areaImage_cut
    (site : SaveSite view.ctrl.safeCopyAddress (call.regs.read .sp) view.ctrl.initialStackAddr)
    (done : Nat) {cell : Cell} (saved : cell ≠ .reg .zero) (small : cell.position < 2 ^ 30)
    (apart : ∀ entry ∈ checkpointFrame,
      Apart (call.regs.read .sp - 28 + entry.2) (cell.addr view.ctrl.safeCopyAddress)) :
    areaImage (ByteMemory.storeAll view.ram ((checkpointWrites call view exit).take done))
        view.ctrl.safeCopyAddress cell =
      Image.torn ((checkpointOrder
          (stackWords (call.regs.read .sp) view.ctrl.initialStackAddr)).take (done - 5))
        (callImage call view.ram exit) (areaImage view.ram view.ctrl.safeCopyAddress) cell := by
  have bound := site.area_small
  have whole : Separate
      (checkpointOrder (stackWords (call.regs.read .sp) view.ctrl.initialStackAddr)) :=
    checkpointOrder_separate (by omega)
  have separate := whole.sublist (List.take_sublist (done - 5) _)
  rw [checkpointWrites_take, ByteMemory.storeAll_append,
    areaImage_cellWrites separate _ _ _ saved small]
  have frameKept : areaImage (ByteMemory.storeAll view.ram ((frameWrites call.regs).take done))
      view.ctrl.safeCopyAddress cell = areaImage view.ram view.ctrl.safeCopyAddress cell := by
    apply ByteMemory.load_storeAll_apart
    intro write member
    obtain ⟨entry, inFrame, rfl⟩ := List.mem_map.mp (List.mem_of_mem_take member)
    exact apart entry inFrame
  unfold Image.torn
  rw [frameKept]

theorem SaveSite.frame_apart {area top : Word} {regs : RegFile}
    (site : SaveSite area (regs.read .sp) top) {cell : Cell}
    (fits : cell.position < 37 + stackWords (regs.read .sp) top) {entry : Reg × Word}
    (member : entry ∈ checkpointFrame) :
    Apart (regs.read .sp - 28 + entry.2) (cell.addr area) := by
  obtain ⟨here, room⟩ := frame_word regs top member
  exact (site.cell_apart_stack fits here room).symm

theorem areaImage_completed
    (site : SaveSite view.ctrl.safeCopyAddress (call.regs.read .sp) view.ctrl.initialStackAddr)
    {cell : Cell} (saved : cell ≠ .reg .zero)
    (fits : cell.position <
      37 + stackWords (call.regs.read .sp) view.ctrl.initialStackAddr) :
    areaImage (ByteMemory.storeAll view.ram (checkpointWrites call view exit))
        view.ctrl.safeCopyAddress cell = callImage call view.ram exit cell := by
  let words := stackWords (call.regs.read .sp) view.ctrl.initialStackAddr
  have cut := @areaImage_cut call view exit site (5 + (checkpointOrder words).length) cell saved
    (site.position_small fits) fun entry member => site.frame_apart fits member
  have all : (checkpointWrites call view exit).take (5 + (checkpointOrder words).length) =
      checkpointWrites call view exit := by
    apply List.take_of_length_le
    unfold checkpointWrites frameWrites cellWrites
    rw [List.length_append, List.length_map, List.length_map]
    exact Nat.le_refl _
  rw [all, Nat.add_sub_cancel_left, List.take_length] at cut
  rw [cut]
  exact if_pos (mem_checkpointOrder saved fits)

end Cut

/-! ## Recovery -/

section Recovery
variable {code rom : Code} {saver boot : Word}

/-- What `halt_boot` restores out of an area that holds `image`. -/
structure Restores (image : Image) (stack top : Word) (hart : Rv32.Hart) (ram : Mem) : Prop where
  context : hart.toContext = image.context
  resumes : hart.pc = image .resume
  words : ∀ index, index < stackWords stack top →
    ByteMemory.load ram (stack + BitVec.ofNat 32 (4 * index)) = image (.stack index)

/-- `halt_boot` with `DMR_REC` set, on an area whose cells are those of `image`. -/
theorem haltBoot_restores (placed : CodeAt rom boot haltBoot) (image : Image) {view : HartView}
    (site : SaveSite view.ctrl.safeCopyAddress (image (.reg .sp)) view.ctrl.initialStackAddr)
    (recovery : view.ctrl.dmrRec = true)
    (holds : ∀ cell, cell ≠ .reg .zero →
      cell.position < 37 + stackWords (image (.reg .sp)) view.ctrl.initialStackAddr →
      areaImage view.ram view.ctrl.safeCopyAddress cell = image cell) (entry : Context) :
    ∃ stores hart final, Executes hartBus rom ⟨entry.at boot, view⟩ stores ⟨hart, final⟩ ∧
      Restores image (image (.reg .sp)) view.ctrl.initialStackAddr hart final.ram := by
  have fixed : ∀ cell, cell ≠ .reg .zero → cell.position < 37 →
      areaImage view.ram view.ctrl.safeCopyAddress cell = image cell :=
    fun cell saved small => holds cell saved (Nat.lt_add_right _ small)
  have stack := fixed (.reg .sp) nofun (Cell.position_reg_lt .sp)
  have ran := @haltBoot_recovers rom boot view entry placed (by rw [stack]; exact site) recovery
  dsimp only at ran
  rw [stack] at ran
  refine ⟨_, _, _, ran, ?_, ?_, ?_⟩
  · apply Image.context_congr
    · intro reg writable
      exact fixed _ (fun same => writable (Cell.reg.inj same)) (Cell.position_reg_lt reg)
    · intro csr
      exact fixed _ nofun (Cell.position_csr_lt csr)
    · exact fixed _ nofun (by decide)
  · exact fixed _ nofun (by decide)
  · intro index inside
    rw [site.load_stackWrites view.ram _ inside]
    exact holds _ nofun (Nat.add_lt_add_left inside 37)

/-- A later state in which the area of a checkpoint of `words` stack words is as it
was, and the control registers still point at it. -/
structure KeepsArea (words : Nat) (saved later : HartView) : Prop where
  area : later.ctrl.safeCopyAddress = saved.ctrl.safeCopyAddress
  top : later.ctrl.initialStackAddr = saved.ctrl.initialStackAddr
  bytes : ∀ byte, InRegion saved.ctrl.safeCopyAddress (148 + 4 * words) byte →
    later.ram byte = saved.ram byte

theorem KeepsArea.image {words : Nat} {saved later : HartView} (keeps : KeepsArea words saved later)
    (small : 148 + 4 * words < 2 ^ 32) {cell : Cell} (fits : cell.position < 37 + words) :
    areaImage later.ram saved.ctrl.safeCopyAddress cell =
      areaImage saved.ram saved.ctrl.safeCopyAddress cell := by
  apply ByteMemory.load_congr
  intro byte inside
  apply keeps.bytes
  exact ByteMemory.region_of_word rfl (by omega) (by omega) inside

/-- `Store_Checkpoint` returns to its caller unchanged, and from any later state
that keeps the area `halt_boot` gives the caller's context and stack back. -/
theorem checkpoint_recovery_is_identity (savePlaced : CodeAt code saver storeCheckpoint)
    (bootPlaced : CodeAt rom boot haltBoot) (call : Context) (view : HartView)
    (site : SaveSite view.ctrl.safeCopyAddress (call.regs.read .sp) view.ctrl.initialStackAddr) :
    ∃ stores saved,
      Executes hartBus code ⟨call.at saver, view⟩ stores ⟨call.at (saver + 304), saved⟩ ∧
      ∀ (later : HartView) (entry : Context),
        KeepsArea (stackWords (call.regs.read .sp) view.ctrl.initialStackAddr) saved later →
        later.ctrl.dmrRec = true →
        ∃ restores hart final,
          Executes hartBus rom ⟨entry.at boot, later⟩ restores ⟨hart, final⟩ ∧
          hart.regs = call.regs ∧ hart.csrs = call.csrs ∧ hart.dpc = saver + 304 ∧
          hart.pc = saver + 304 ∧
          ∀ index, 4 * index < view.ctrl.initialStackAddr.toNat - (call.regs.read .sp).toNat →
            ByteMemory.load final.ram (call.regs.read .sp + BitVec.ofNat 32 (4 * index)) =
              ByteMemory.load view.ram (call.regs.read .sp + BitVec.ofNat 32 (4 * index)) := by
  let image := callImage call view.ram (saver + 304)
  have saves := storeCheckpoint_executes savePlaced site
  refine ⟨_, _, saves, ?_⟩
  intro later entry keeps recovery
  have area : later.ctrl.safeCopyAddress = view.ctrl.safeCopyAddress := keeps.area
  have top : later.ctrl.initialStackAddr = view.ctrl.initialStackAddr := keeps.top
  obtain ⟨restores, hart, final, ran, restored⟩ :=
    @haltBoot_restores rom boot bootPlaced image later (by rw [area, top]; exact site)
      recovery (by
        intro cell saved fits
        rw [top] at fits
        have kept := keeps.image site.area_small fits
        rw [area]
        exact kept.trans (areaImage_completed site saved fits)) entry
  have regs : image.regs = call.regs := by
    apply RegFile.ext
    funext reg
    by_cases zero : reg = .zero
    · subst zero
      rw [call.regs.read_zero, image.regs.read_zero]
    · exact image.regs_of_ne zero
  refine ⟨restores, hart, final, ran, ?_, ?_, ?_, restored.resumes, ?_⟩
  · rw [restored.context]
    exact regs
  · rw [restored.context]
    rfl
  · rw [restored.context]
    rfl
  · intro index inside
    have saved : index < stackWords (call.regs.read .sp) later.ctrl.initialStackAddr := by
      rw [top]
      unfold stackWords
      rw [if_neg]
      · bv_omega
      · intro empty
        rw [empty] at inside
        omega
    exact restored.words index saved

end Recovery

/-! ## A call four words below the initial stack address -/

theorem checkpointView_site : SaveSite 0x20000 0xfff0 0x10000 := by
  refine ⟨by decide, by decide, by decide, ?_, ?_, ?_⟩
  · intro byte area stack
    unfold InRegion at *
    have words : stackWords 0xfff0 0x10000 = 5 := by decide
    rw [words] at area
    bv_omega
  · intro byte area
    have words : stackWords 0xfff0 0x10000 = 5 := by decide
    rw [words] at area
    unfold InRegion at area
    unfold InMemory InPrivate InSafeCsr
    constructor <;> bv_omega
  · intro byte stack
    unfold InRegion at stack
    unfold InMemory InPrivate InSafeCsr
    constructor <;> bv_omega

theorem numberedCall_recovered :
    ∃ stores saved,
      Executes hartBus (placeAt 0x8000 storeCheckpoint)
        ⟨(numberedCall 0xfff0).at 0x8000, checkpointView⟩ stores
        ⟨(numberedCall 0xfff0).at 0x8130, saved⟩ ∧
      ∀ (later : HartView) (entry : Context), KeepsArea 5 saved later →
        later.ctrl.dmrRec = true →
        ∃ restores hart final,
          Executes hartBus (placeAt 0x300 haltBoot) ⟨entry.at 0x300, later⟩ restores ⟨hart, final⟩ ∧
          hart.regs = numberedRegs 0xfff0 ∧ hart.pc = 0x8130 := by
  obtain ⟨stores, saved, saves, recovers⟩ :=
    checkpoint_recovery_is_identity (codeAt_placeAt 0x8000 storeCheckpoint (by decide))
      (codeAt_placeAt 0x300 haltBoot (by decide)) (numberedCall 0xfff0) checkpointView
      checkpointView_site
  refine ⟨stores, saved, saves, ?_⟩
  intro later entry keeps recovery
  obtain ⟨restores, hart, final, ran, regs, _, _, resumes, _⟩ := recovers later entry keeps recovery
  exact ⟨restores, hart, final, ran, regs, resumes⟩

end Eros
