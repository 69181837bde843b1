import Eros.CheckpointRecovery

/-!
# A checkpoint cut off by an error

`Store_Checkpoint` writes over the only area.  When the comparator stops the pair
between two of its stores, the area holds the cells already written of the later
call and the others of the earlier one, and recovery restores that mixture: the
earlier checkpoint while only the frame is written, the later one after its last
store.
-/

set_option autoImplicit false

namespace Eros

open Rv32
open ByteMemory (Mem Write InRegion Apart)

/-! ## The torn image -/

theorem stack_before_pointer {words done index : Nat} (inside : index < words)
    (pointer : Cell.reg .sp ∈ (checkpointOrder words).take done) :
    Cell.stack index ∈ (checkpointOrder words).take done := by
  unfold checkpointOrder at *
  rw [List.take_append, List.mem_append] at *
  have past : (stackCells words).length < done := by
    by_contra early
    rw [show done - (stackCells words).length = 0 by omega] at pointer
    rcases pointer with inStack | inContext
    · obtain ⟨_, _, other⟩ := List.mem_map.mp (List.mem_of_mem_take inStack)
      exact absurd other nofun
    · exact absurd inContext List.not_mem_nil
  left
  rw [List.take_of_length_le past.le]
  exact mem_stackCells.mpr inside

section Torn
variable {old new : Context} {before view : HartView} {exit : Word}

/-- The image left by an earlier call and a later one cut after `done` of its stores. -/
def tornCheckpoint (old new : Context) (before view : HartView) (exit : Word) (done : Nat) : Image :=
  Image.torn
    ((checkpointOrder (stackWords (new.regs.read .sp) view.ctrl.initialStackAddr)).take (done - 5))
    (callImage new view.ram exit) (callImage old before.ram exit)

theorem tornCheckpoint_frame {done : Nat} (frame : done ≤ 5) :
    tornCheckpoint old new before view exit done = callImage old before.ram exit := by
  funext cell
  unfold tornCheckpoint
  rw [Nat.sub_eq_zero_of_le frame]
  rfl

theorem tornCheckpoint_complete {done : Nat}
    (complete : (checkpointWrites new view exit).length ≤ done) {cell : Cell}
    (saved : cell ≠ .reg .zero)
    (fits : cell.position < 37 + stackWords (new.regs.read .sp) view.ctrl.initialStackAddr) :
    tornCheckpoint old new before view exit done cell = callImage new view.ram exit cell := by
  have total : (checkpointWrites new view exit).length =
      5 + (checkpointOrder
        (stackWords (new.regs.read .sp) view.ctrl.initialStackAddr)).length := by
    unfold checkpointWrites frameWrites cellWrites
    rw [List.length_append, List.length_map, List.length_map]
    rfl
  unfold tornCheckpoint
  rw [List.take_of_length_le (by omega)]
  exact if_pos (mem_checkpointOrder saved fits)

theorem tornCheckpoint_stack {done : Nat} :
    tornCheckpoint old new before view exit done (.reg .sp) = new.regs.read .sp ∨
      tornCheckpoint old new before view exit done (.reg .sp) = old.regs.read .sp := by
  unfold tornCheckpoint Image.torn
  split_ifs
  · exact .inl rfl
  · exact .inr rfl

/-- The frame of a call is apart from the area of another call with the same
initial stack address, deeper or not. -/
theorem frame_apart_other {area top : Word} {regs : RegFile} {sp : Word}
    (site : SaveSite area (regs.read .sp) top) (other : SaveSite area sp top) {cell : Cell}
    (fits : cell.position < 37 + stackWords sp top) {entry : Reg × Word}
    (member : entry ∈ checkpointFrame) :
    Apart (regs.read .sp - 28 + entry.2) (cell.addr area) := by
  by_cases own : cell.position < 37 + stackWords (regs.read .sp) top
  · exact site.frame_apart own member
  · -- the other call is deeper, and its stack contains this frame
    have deeper : stackWords (regs.read .sp) top < stackWords sp top := by omega
    have siteBelow := site.below
    have otherBelow := other.below
    have order : sp.toNat ≤ (regs.read .sp).toNat := by
      by_contra above
      unfold stackWords at deeper
      split_ifs at deeper <;> bv_omega
    have small : ∀ entry ∈ checkpointFrame, entry.2.toNat ≤ 24 := by decide
    have bound := small entry member
    have here : regs.read .sp - 28 + entry.2 =
        sp - 28 + BitVec.ofNat 32 ((regs.read .sp).toNat - sp.toNat + entry.2.toNat) := by
      bv_omega
    exact (other.cell_apart_stack fits here (by omega)).symm

theorem areaImage_torn
    (oldSite : SaveSite before.ctrl.safeCopyAddress (old.regs.read .sp)
      before.ctrl.initialStackAddr)
    (newSite : SaveSite before.ctrl.safeCopyAddress (new.regs.read .sp)
      before.ctrl.initialStackAddr)
    (keeps : KeepsArea (stackWords (old.regs.read .sp) before.ctrl.initialStackAddr)
      { before with ram := ByteMemory.storeAll before.ram (checkpointWrites old before exit) } view)
    (done : Nat) {cell : Cell} (saved : cell ≠ .reg .zero)
    (fits : cell.position < 37 + stackWords
      (tornCheckpoint old new before view exit done (.reg .sp)) before.ctrl.initialStackAddr) :
    areaImage (ByteMemory.storeAll view.ram ((checkpointWrites new view exit).take done))
        before.ctrl.safeCopyAddress cell =
      tornCheckpoint old new before view exit done cell := by
  have area : view.ctrl.safeCopyAddress = before.ctrl.safeCopyAddress := keeps.area
  have top : view.ctrl.initialStackAddr = before.ctrl.initialStackAddr := keeps.top
  have oldHeld : cell.position < 37 +
      stackWords (old.regs.read .sp) before.ctrl.initialStackAddr →
      areaImage view.ram before.ctrl.safeCopyAddress cell =
        callImage old before.ram exit cell := by
    intro oldFits
    exact (keeps.image oldSite.area_small oldFits).trans (areaImage_completed oldSite saved oldFits)
  have cut : cell.position < 2 ^ 30 →
      (∀ entry ∈ checkpointFrame,
        Apart (new.regs.read .sp - 28 + entry.2) (cell.addr before.ctrl.safeCopyAddress)) →
      areaImage (ByteMemory.storeAll view.ram ((checkpointWrites new view exit).take done))
          before.ctrl.safeCopyAddress cell =
        Image.torn ((checkpointOrder
            (stackWords (new.regs.read .sp) view.ctrl.initialStackAddr)).take (done - 5))
          (callImage new view.ram exit) (areaImage view.ram before.ctrl.safeCopyAddress) cell := by
    intro small apart
    rw [← area] at apart ⊢
    rw [← area, ← top] at newSite
    exact areaImage_cut newSite done saved small apart
  unfold tornCheckpoint at fits ⊢
  unfold Image.torn at fits cut ⊢
  split_ifs at fits with pointer
  · -- the later call's stack pointer is stored, so all its stack cells are
    have newFits : cell.position <
        37 + stackWords (new.regs.read .sp) before.ctrl.initialStackAddr := fits
    rw [cut (newSite.position_small newFits)
      fun entry member => newSite.frame_apart newFits member]
    split_ifs with written
    · rfl
    · apply oldHeld
      by_contra deep
      rcases Cell.position_bounds saved with ⟨_, _, bound⟩ | ⟨_, _, bound⟩ | ⟨_, bound⟩ | ⟨index, rfl, here⟩
      · omega
      · omega
      · omega
      · rw [top] at pointer written
        exact written (stack_before_pointer (by omega) pointer)
  · have oldFits : cell.position <
        37 + stackWords (old.regs.read .sp) before.ctrl.initialStackAddr := fits
    rw [cut (oldSite.position_small oldFits)
      fun entry member => frame_apart_other newSite oldSite oldFits member, oldHeld oldFits]

end Torn

/-! ## The cut run -/

section Cut
variable {code rom : Code} {saver boot : Word} {old new : Context} {before view : HartView}

theorem cut_memory {total : Nat} {returned cut : State HartView}
    (site : SaveSite view.ctrl.safeCopyAddress (new.regs.read .sp) view.ctrl.initialStackAddr)
    (finished : run hartBus code total ⟨new.at saver, view⟩ = some returned)
    (made : writes hartBus code total ⟨new.at saver, view⟩ =
      checkpointWrites new view (saver + 304)) {count : Nat} (inside : count ≤ total)
    (reached : run hartBus code count ⟨new.at saver, view⟩ = some cut) :
    cut.dev = { view with
      ram := ByteMemory.storeAll view.ram ((checkpointWrites new view (saver + 304)).take
        (writes hartBus code count ⟨new.at saver, view⟩).length) } := by
  obtain ⟨_, sameCut, prefix_, dev⟩ := run_cut finished inside
  rw [reached] at sameCut
  cases Option.some.inj sameCut
  rw [made] at prefix_
  rw [dev, ← prefix_]
  apply hartBus_storeAll_memory
  intro write member
  rw [prefix_] at member
  exact checkpointWrites_memory site _ write (List.mem_of_mem_take member)

/-- Recovery after a cut restores the torn image. -/
theorem cut_restores (bootPlaced : CodeAt rom boot haltBoot) {exit : Word}
    (oldSite : SaveSite before.ctrl.safeCopyAddress (old.regs.read .sp)
      before.ctrl.initialStackAddr)
    (newSite : SaveSite before.ctrl.safeCopyAddress (new.regs.read .sp)
      before.ctrl.initialStackAddr)
    (keeps : KeepsArea (stackWords (old.regs.read .sp) before.ctrl.initialStackAddr)
      { before with ram := ByteMemory.storeAll before.ram (checkpointWrites old before exit) } view)
    (done : Nat) {cut later : HartView}
    (memory : cut = { view with
      ram := ByteMemory.storeAll view.ram ((checkpointWrites new view exit).take done) })
    (kept : KeepsArea (max (stackWords (old.regs.read .sp) before.ctrl.initialStackAddr)
      (stackWords (new.regs.read .sp) before.ctrl.initialStackAddr)) cut later)
    (recovery : later.ctrl.dmrRec = true) (entry : Context) :
    let image := tornCheckpoint old new before view exit done
    ∃ restores hart final, Executes hartBus rom ⟨entry.at boot, later⟩ restores ⟨hart, final⟩ ∧
      Restores image (image (.reg .sp)) before.ctrl.initialStackAddr hart final.ram := by
  intro image
  subst memory
  have viewArea : view.ctrl.safeCopyAddress = before.ctrl.safeCopyAddress := keeps.area
  have area : later.ctrl.safeCopyAddress = before.ctrl.safeCopyAddress := kept.area.trans viewArea
  have top : later.ctrl.initialStackAddr = before.ctrl.initialStackAddr := kept.top.trans keeps.top
  have oldSmall := oldSite.area_small
  have newSmall := newSite.area_small
  have words : SaveSite before.ctrl.safeCopyAddress (image (.reg .sp)) before.ctrl.initialStackAddr ∧
      stackWords (image (.reg .sp)) before.ctrl.initialStackAddr ≤
        max (stackWords (old.regs.read .sp) before.ctrl.initialStackAddr)
          (stackWords (new.regs.read .sp) before.ctrl.initialStackAddr) := by
    rcases @tornCheckpoint_stack old new before view exit done with stack | stack
    · change SaveSite _ (tornCheckpoint old new before view exit done _) _ ∧
        stackWords (tornCheckpoint old new before view exit done _) _ ≤ _
      rw [stack]
      exact ⟨newSite, Nat.le_max_right _ _⟩
    · change SaveSite _ (tornCheckpoint old new before view exit done _) _ ∧
        stackWords (tornCheckpoint old new before view exit done _) _ ≤ _
      rw [stack]
      exact ⟨oldSite, Nat.le_max_left _ _⟩
  obtain ⟨site, within⟩ := words
  have restored := @haltBoot_restores rom boot bootPlaced image later
    (by rw [area, top]; exact site) recovery (by
      intro cell saved fits
      rw [top] at fits
      have same := kept.image (by omega) (Nat.lt_of_lt_of_le fits (Nat.add_le_add_left within 37))
      have torn := areaImage_torn oldSite newSite keeps done saved fits
      rw [← viewArea] at torn
      rw [area, ← viewArea]
      exact same.trans torn) entry
  rw [top] at restored
  exact restored

theorem Restores.congr {left right : Image} {stack top : Word} {hart : Rv32.Hart} {ram : Mem}
    (restores : Restores left stack top hart ram)
    (same : ∀ cell, cell ≠ .reg .zero → cell.position < 37 + stackWords stack top →
      left cell = right cell) : Restores right stack top hart ram where
  context := by
    rw [restores.context]
    apply Image.context_congr
    · intro reg writable
      exact same _ (fun zero => writable (Cell.reg.inj zero))
        (Nat.lt_add_right _ (Cell.position_reg_lt reg))
    · intro csr
      exact same _ nofun (Nat.lt_add_right _ (Cell.position_csr_lt csr))
    · exact same _ nofun (Nat.lt_add_right _ (by decide))
  resumes := by
    rw [restores.resumes]
    exact same _ nofun (Nat.lt_add_right _ (by decide))
  words index inside := by
    rw [restores.words index inside]
    exact same _ nofun (Nat.add_lt_add_left inside 37)

/-- A checkpoint cut after any of its stores: recovery restores the cells already
written of the later call and the other cells of the earlier call.  While only
the frame is written that is the earlier checkpoint, from the last store on it is
the later one. -/
theorem cut_checkpoint_restores_torn (savePlaced : CodeAt code saver storeCheckpoint)
    (bootPlaced : CodeAt rom boot haltBoot) (old new : Context) (before : HartView)
    (oldSite : SaveSite before.ctrl.safeCopyAddress (old.regs.read .sp)
      before.ctrl.initialStackAddr)
    (newSite : SaveSite before.ctrl.safeCopyAddress (new.regs.read .sp)
      before.ctrl.initialStackAddr) :
    let top := before.ctrl.initialStackAddr
    let oldWords := stackWords (old.regs.read .sp) top
    let newWords := stackWords (new.regs.read .sp) top
    ∃ stores saved,
      Executes hartBus code ⟨old.at saver, before⟩ stores ⟨old.at (saver + 304), saved⟩ ∧
      ∀ view, KeepsArea oldWords saved view →
        ∃ total returned,
          run hartBus code total ⟨new.at saver, view⟩ = some ⟨new.at (saver + 304), returned⟩ ∧
          ∀ count ≤ total, ∃ cut,
            run hartBus code count ⟨new.at saver, view⟩ = some cut ∧
            ∀ (later : HartView) (entry : Context),
              KeepsArea (max oldWords newWords) cut.dev later → later.ctrl.dmrRec = true →
              let done := (writes hartBus code count ⟨new.at saver, view⟩).length
              let image := tornCheckpoint old new before view (saver + 304) done
              ∃ restores hart final,
                Executes hartBus rom ⟨entry.at boot, later⟩ restores ⟨hart, final⟩ ∧
                Restores image (image (.reg .sp)) top hart final.ram ∧
                (done ≤ 5 → Restores (callImage old before.ram (saver + 304))
                  (old.regs.read .sp) top hart final.ram) ∧
                ((writes hartBus code total ⟨new.at saver, view⟩).length ≤ done →
                  Restores (callImage new view.ram (saver + 304))
                    (new.regs.read .sp) top hart final.ram) := by
  intro top oldWords newWords
  have saves := storeCheckpoint_executes savePlaced oldSite
  refine ⟨_, _, saves, ?_⟩
  intro view keeps
  have area : view.ctrl.safeCopyAddress = before.ctrl.safeCopyAddress := keeps.area
  have viewTop : view.ctrl.initialStackAddr = before.ctrl.initialStackAddr := keeps.top
  have viewSite : SaveSite view.ctrl.safeCopyAddress (new.regs.read .sp)
      view.ctrl.initialStackAddr := by
    rw [area, viewTop]
    exact newSite
  obtain ⟨total, finished, made⟩ := storeCheckpoint_executes savePlaced viewSite
  refine ⟨total, _, finished, ?_⟩
  intro count inside
  obtain ⟨cut, reached, _, _⟩ := run_cut finished inside
  refine ⟨cut, reached, ?_⟩
  intro later entry kept recovery done image
  have memory := cut_memory viewSite finished made inside reached
  obtain ⟨restores, hart, final, ran, restored⟩ :=
    cut_restores bootPlaced oldSite newSite keeps done memory kept recovery entry
  refine ⟨restores, hart, final, ran, restored, ?_, ?_⟩
  · intro frame
    rw [tornCheckpoint_frame frame] at restored
    exact restored
  · intro all
    have complete : (checkpointWrites new view (saver + 304)).length ≤ done := by
      rw [← made]
      exact all
    have torn : ∀ cell, cell ≠ .reg .zero → cell.position < 37 + newWords →
        image cell = callImage new view.ram (saver + 304) cell := by
      intro cell saved fits
      exact tornCheckpoint_complete complete saved (by rw [viewTop]; exact fits)
    have stack : image (.reg .sp) = new.regs.read .sp :=
      torn _ nofun (Nat.lt_add_right _ (Cell.position_reg_lt .sp))
    have pointed : Restores image (new.regs.read .sp) top hart final.ram := by
      rw [← stack]
      exact restored
    exact pointed.congr torn

end Cut

/-! ## A call cut after it has stored `ra` -/

/-- Every register but the stack pointer moved on. -/
def laterRegs (sp : Word) : RegFile where
  read reg := if reg = .zero then 0 else if reg = .sp then sp else BitVec.ofNat 32 (256 + reg.number)
  read_zero := rfl

def laterCall (sp : Word) : Context := ⟨laterRegs sp, fun _ => 0x1888, 0⟩

/-- `view` with the recovery request of the error. -/
def recovering (view : HartView) : HartView :=
  { view with ctrl := { view.ctrl with dmrRec := true } }

theorem laterCall_cut_restores_torn :
    ∃ stores saved,
      Executes hartBus (placeAt 0x8000 storeCheckpoint)
        ⟨(numberedCall 0xfff0).at 0x8000, checkpointView⟩ stores
        ⟨(numberedCall 0xfff0).at 0x8130, saved⟩ ∧
      ∃ total returned,
        run hartBus (placeAt 0x8000 storeCheckpoint) total
          ⟨(laterCall 0xfff0).at 0x8000, saved⟩ =
            some ⟨(laterCall 0xfff0).at 0x8130, returned⟩ ∧
        ∀ count ≤ total, ∃ cut restores hart final,
          run hartBus (placeAt 0x8000 storeCheckpoint) count
            ⟨(laterCall 0xfff0).at 0x8000, saved⟩ = some cut ∧
          Executes hartBus (placeAt 0x300 haltBoot)
            ⟨(numberedCall 0).at 0x300, recovering cut.dev⟩ restores ⟨hart, final⟩ ∧
          hart.pc = 0x8130 := by
  obtain ⟨stores, saved, saves, cuts⟩ := cut_checkpoint_restores_torn
    (codeAt_placeAt 0x8000 storeCheckpoint (by decide)) (codeAt_placeAt 0x300 haltBoot (by decide))
    (numberedCall 0xfff0) (laterCall 0xfff0) checkpointView checkpointView_site checkpointView_site
  obtain ⟨total, returned, finished, recovers⟩ := cuts saved ⟨rfl, rfl, fun _ _ => rfl⟩
  refine ⟨stores, saved, saves, total, returned, finished, ?_⟩
  intro count inside
  obtain ⟨cut, reached, later⟩ := recovers count inside
  obtain ⟨restores, hart, final, ran, restored, _⟩ :=
    later (recovering cut.dev) (numberedCall 0) ⟨rfl, rfl, fun _ _ => rfl⟩ rfl
  refine ⟨cut, restores, hart, final, reached, ran, ?_⟩
  rw [restored.resumes]
  unfold tornCheckpoint Image.torn
  split_ifs <;> rfl

/-- Cut after the store of `ra`, recovery gives the later call's `ra` with the
earlier call's `a0`. -/
theorem torn_checkpoint_is_a_mixture :
    ∃ stores saved,
      Executes hartBus (placeAt 0x8000 storeCheckpoint)
        ⟨(numberedCall 0xfff0).at 0x8000, checkpointView⟩ stores
        ⟨(numberedCall 0xfff0).at 0x8130, saved⟩ ∧
      ∃ count cut,
        run hartBus (placeAt 0x8000 storeCheckpoint) count ⟨(laterCall 0xfff0).at 0x8000, saved⟩ =
          some cut ∧
        ∀ entry : Context, ∃ restores hart final,
          Executes hartBus (placeAt 0x300 haltBoot)
            ⟨entry.at 0x300, recovering cut.dev⟩
            restores ⟨hart, final⟩ ∧
          hart.pc = 0x8130 ∧
          hart.regs.read .ra = (laterCall 0xfff0).regs.read .ra ∧
          hart.regs.read .a0 = (numberedCall 0xfff0).regs.read .a0 ∧
          hart.regs ≠ (numberedCall 0xfff0).regs ∧ hart.regs ≠ (laterCall 0xfff0).regs := by
  have savePlaced := codeAt_placeAt 0x8000 storeCheckpoint (by decide)
  let old := numberedCall 0xfff0
  let new := laterCall 0xfff0
  have saves := @storeCheckpoint_executes _ _ old checkpointView savePlaced checkpointView_site
  refine ⟨_, _, saves, ?_⟩
  let saved : HartView := { checkpointView with
    ram := ByteMemory.storeAll checkpointView.ram (checkpointWrites old checkpointView 0x8130) }
  have site : SaveSite saved.ctrl.safeCopyAddress (new.regs.read .sp) saved.ctrl.initialStackAddr :=
    checkpointView_site
  obtain ⟨total, finished, made⟩ := storeCheckpoint_executes savePlaced site
  have enough : 16 ≤ (writes hartBus (placeAt 0x8000 storeCheckpoint) total
      ⟨new.at 0x8000, saved⟩).length := by
    rw [made]
    decide
  obtain ⟨count, inside, sixteen⟩ := run_reaches_store finished enough
  obtain ⟨cut, reached, _, _⟩ := run_cut finished inside
  refine ⟨count, cut, reached, ?_⟩
  intro entry
  have memory := cut_memory site finished made inside reached
  rw [sixteen] at memory
  obtain ⟨restores, hart, final, ran, restored⟩ := @cut_restores (placeAt 0x300 haltBoot) 0x300 old
    new checkpointView saved (codeAt_placeAt 0x300 haltBoot (by decide)) 0x8130 checkpointView_site
    checkpointView_site ⟨rfl, rfl, fun _ _ => rfl⟩ 16 cut.dev
    (recovering cut.dev) memory
    ⟨rfl, rfl, fun _ _ => rfl⟩ rfl entry
  have regs : hart.regs = (tornCheckpoint old new checkpointView saved 0x8130 16).regs :=
    congrArg Context.regs restored.context
  have link : hart.regs.read .ra = new.regs.read .ra := by
    rw [regs]
    decide
  have argument : hart.regs.read .a0 = old.regs.read .a0 := by
    rw [regs]
    decide
  refine ⟨restores, hart, final, ran, ?_, link, argument, ?_, ?_⟩
  · rw [restored.resumes]
    unfold tornCheckpoint Image.torn
    split_ifs <;> rfl
  · intro same
    rw [same] at link
    exact absurd link (by decide)
  · intro same
    rw [same] at argument
    exact absurd argument (by decide)

end Eros
