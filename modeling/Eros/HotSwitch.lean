import Eros.SafeActivate

/-!
# The hot mode switch

The master saves its context and sleeps; the other harts resume behind its saved
address out of the boot ROM and reach the same `wfi`; the interrupt wakes all of
them.  They end alike, with the caller's registers, and memory has changed only
in the save area and in the two frames.
-/

set_option autoImplicit false

namespace Eros

open Rv32
open ByteMemory (Mem Write InRegion Apart)

section Switch
variable {unit : TrapUnit} {code rom : Code} {base handler boot area : Word} {call : Context}
  {view : HartView}

/-- A hart behind the `wfi` is woken and runs to the end of the routine. -/
def WakesAndEnds (unit : TrapUnit) (code : Code) (handler base : Word)
    (asleep final : State HartView) : Prop :=
  ∃ awake stores, Wakes unit code handler asleep awake ∧
    Executes hartBus code awake stores final ∧ final.hart.pc = base + 304

theorem wakeWrites_stores {sp : Word} {context : Context}
    (below : context.regs.read .sp = sp - 16) :
    ∀ write ∈ wakeWrites unit context, SwitchStore area sp write := by
  intro write member
  unfold wakeWrites at member
  split_ifs at member with taken
  · rcases List.mem_append.mp member with push | acks
    · exact SwitchStore.scratch (.inr below) write push
    · simp only [ackWrites, List.mem_cons, List.not_mem_nil, or_false] at acks
      rcases acks with rfl | rfl
      · exact .ack
      · exact .ack
  · exact absurd member List.not_mem_nil

theorem wakeWrites_apart {sp : Word} {context : Context} (below : context.regs.read .sp = sp - 16) :
    ∀ write ∈ wakeWrites unit context, InMemory write.1 →
      Apart write.1 (sp - 16 + 12) ∧ Apart write.1 (sp - 16 + 8) := by
  intro write member memory
  unfold wakeWrites at member
  split_ifs at member with taken
  · rcases List.mem_append.mp member with push | acks
    · simp only [scratchWrites, below, List.mem_cons, List.not_mem_nil, or_false] at push
      rcases push with rfl | rfl
      · unfold Apart
        constructor <;> constructor <;> bv_omega
      · unfold Apart
        constructor <;> constructor <;> bv_omega
    · exact absurd memory (ackWrites_private write acks)
  · exact absurd member List.not_mem_nil

/-- Any hart behind the `wfi` with the frame in memory ends with the caller's
registers but `t5`. -/
theorem wakes_and_ends (placed : CodeAt code base safeActivate)
    (handlerPlaced : CodeAt code handler handlerSafeFsm)
    (site : SwitchSite area (call.regs.read .sp)) {context : Context} {resume : Word}
    (regs : context.regs = asleepRegs call area resume)
    (upper : hartBus.load view (call.regs.read .sp - 16 + 12) = area)
    (lower : hartBus.load view (call.regs.read .sp - 16 + 8) = call.regs.read .t6) :
    ∃ final, WakesAndEnds unit code handler base ⟨context.at (base + 264), view⟩ final ∧
      final.hart.regs = call.regs.write .t5 area ∧
      final.hart.csrs = unit.afterWake context.csrs (base + 264) ∧
      ∀ byte, ¬InRegion area 148 byte → ¬InRegion (call.regs.read .sp - 32) 32 byte →
        final.dev.ram byte = view.ram byte := by
  have below : context.regs.read .sp = call.regs.read .sp - 16 := by
    rw [regs]
    rfl
  have woken := @wakes_back unit code handler (base + 264) context view handlerPlaced
    (by rw [below]; exact site.handlerFrame)
  have apart := @wakeWrites_apart unit (call.regs.read .sp) context below
  have upperHeld := (hartBus_load_storeAll_apart view (wakeWrites unit context) site.frame.upper
    fun write member memory => (apart write member memory).1).trans upper
  have lowerHeld := (hartBus_load_storeAll_apart view (wakeWrites unit context) site.frame.lower
    fun write member memory => (apart write member memory).2).trans lower
  obtain ⟨final, finalRegs, finalCsrs, ran⟩ := @safeActivate_ends code base area call
    (hartBus.storeAll view (wakeWrites unit context)) placed site
    { context with csrs := unit.afterWake context.csrs (base + 264) } resume regs upperHeld lowerHeld
  refine ⟨_, ⟨_, _, woken, ran, rfl⟩, finalRegs, finalCsrs, ?_⟩
  intro byte outArea outFrames
  rw [SwitchStore.keeps_outside _ releaseWrites_stores outArea outFrames,
    SwitchStore.keeps_outside _ (wakeWrites_stores below) outArea outFrames]

theorem switchImage_inside (call : Context) (area resume : Word) :
    InSwitch call area (switchImage call area resume).context where
  base := rfl
  stack := rfl
  others := by
    intro reg outside
    by_cases zero : reg = .zero
    · subst zero
      exact call.regs.read_zero.symm
    · have kept : reg ≠ .sp ∧ reg ≠ .t5 := by
        constructor <;> (rintro rfl; exact outside (by decide))
      change (switchImage call area resume).regs.read reg = _
      rw [Image.regs_of_ne _ zero]
      change (if reg = .sp then _ else if reg = .t5 then _ else _) = _
      rw [if_neg kept.1, if_neg kept.2]
  csrs := rfl

/-- A hart that enters `halt_boot` on the memory the master left resumes at the
saved address and reaches the same `wfi` with the same registers. -/
theorem shadow_sleeps (placed : CodeAt code base safeActivate)
    (bootPlaced : CodeAt rom boot haltBoot) (site : SwitchSite area (call.regs.read .sp))
    {shadow : HartView} (memory : shadow.ram =
      (hartBus.storeAll view (activateWrites call area (base + 232))).ram)
    (points : shadow.ctrl.safeCopyAddress = area) (fresh : shadow.ctrl.dmrRec = false)
    (entry : Context) :
    ∃ (resumed asleep : Context) (stores : List Write),
      Executes hartBus rom ⟨entry.at boot, shadow⟩ [] ⟨resumed.at (base + 232), shadow⟩ ∧
      Executes hartBus code ⟨resumed.at (base + 232), shadow⟩ stores
        ⟨asleep.at (base + 264), hartBus.storeAll shadow stores⟩ ∧
      asleep.regs = asleepRegs call area (base + 232) ∧ asleep.csrs = call.csrs ∧
      stores = cellWrites area (switchImage call area (base + 232)) [.resume] := by
  let image := switchImage call area (base + 232)
  have held : ∀ cell, cell ≠ .reg .zero → cell.position < 37 →
      areaImage shadow.ram area cell = image cell := by
    intro cell saved fixed
    rw [memory]
    exact areaImage_asleep site (base + 232) saved fixed
  have context : (areaImage shadow.ram area).context = image.context := by
    apply Image.context_congr
    · intro reg writable
      exact held _ (fun zero => writable (Cell.reg.inj zero)) (Cell.position_reg_lt reg)
    · intro csr
      exact held _ nofun (Cell.position_csr_lt csr)
    · exact held _ nofun (by decide)
  have boots := @haltBoot_resumes rom boot shadow entry bootPlaced
    (by rw [points]; exact site.areaMemory) fresh
  dsimp only at boots
  rw [points, context, held .resume nofun (by decide)] at boots
  obtain ⟨_, _, _, _, sleepPlaced, _⟩ := safeActivate_labels placed
  obtain ⟨asleep, regs, csrs, sleep⟩ := @safeActivateSleep_performs call image.context area
    (base + 232) shadow image (switchImage_inside call area (base + 232)) rfl
  have sleeps := sleep code sleepPlaced
  have reached : after (base + 232) safeActivateSleep = base + 264 := by
    change base + 232 + 32 = base + 264
    bv_omega
  rw [reached] at sleeps
  exact ⟨image.context, asleep, _, boots, sleeps, regs, csrs, rfl⟩

/-- The master hands its context over: it and every hart that resumes from the
area end with the same registers and trap registers, those of the caller but for
`t5`, and memory has changed only in the area and in the 32 bytes below `sp`. -/
theorem hot_switch_hands_over (unit : TrapUnit) (placed : CodeAt code base safeActivate)
    (handlerPlaced : CodeAt code handler handlerSafeFsm) (bootPlaced : CodeAt rom boot haltBoot)
    (call : Context) (view : HartView) (fresh : view.ctrl.safeConfiguration = 0)
    (site : SwitchSite view.ctrl.safeCopyAddress (call.regs.read .sp)) :
    let area := view.ctrl.safeCopyAddress
    let kept := fun ram : Mem => ∀ byte, ¬InRegion area 148 byte →
      ¬InRegion (call.regs.read .sp - 32) 32 byte → ram byte = view.ram byte
    ∃ stores asleep master,
      Executes hartBus code ⟨call.at base, view⟩ stores asleep ∧
      asleep.hart.pc = base + 264 ∧
      WakesAndEnds unit code handler base asleep master ∧
      (∀ reg, reg ≠ .t5 → master.hart.regs.read reg = call.regs.read reg) ∧
      kept master.dev.ram ∧
      ∀ (entry : Context) (shadow : HartView), shadow.ram = asleep.dev.ram →
        shadow.ctrl.safeCopyAddress = asleep.dev.ctrl.safeCopyAddress →
        shadow.ctrl.dmrRec = false →
        ∃ resumed again follower final,
          Executes hartBus rom ⟨entry.at boot, shadow⟩ [] ⟨resumed, shadow⟩ ∧
          resumed.pc = ByteMemory.load asleep.dev.ram (area + 144) ∧
          Executes hartBus code ⟨resumed, shadow⟩ again follower ∧
          follower.hart.pc = base + 264 ∧
          WakesAndEnds unit code handler base follower final ∧
          final.hart.regs = master.hart.regs ∧ final.hart.csrs = master.hart.csrs ∧
          kept final.dev.ram := by
  intro area kept
  let writes := activateWrites call area (base + 232)
  obtain ⟨asleep, regs, csrs, ran⟩ := @safeActivate_sleeps code base area call view placed site fresh
    rfl
  obtain ⟨upper, lower⟩ := @frame_asleep area call view site (base + 232)
  obtain ⟨master, ends, masterRegs, masterCsrs, masterRam⟩ :=
    @wakes_and_ends unit code base handler area call (hartBus.storeAll view writes) placed
      handlerPlaced site asleep (base + 232) regs upper lower
  have stores := @activateWrites_stores area call (base + 232)
  have asleepRam : kept (hartBus.storeAll view writes).ram :=
    fun byte outArea outFrames => SwitchStore.keeps_outside view stores outArea outFrames
  have resumeAt : ByteMemory.load (hartBus.storeAll view writes).ram (area + 144) = base + 232 :=
    @resume_asleep area call view site (base + 232)
  refine ⟨writes, ⟨asleep.at (base + 264), hartBus.storeAll view writes⟩, master, ran, rfl, ends, ?_,
    ?_, ?_⟩
  · intro reg other
    rw [masterRegs]
    exact RegFile.read_write_ne _ _ other
  · intro byte outArea outFrames
    exact (masterRam byte outArea outFrames).trans (asleepRam byte outArea outFrames)
  · intro entry shadow memory points clear
    have areaKept : shadow.ctrl.safeCopyAddress = area :=
      points.trans (SwitchStore.keeps_safeCopyAddress site.memory view stores)
    obtain ⟨resumed, follower, again, boots, sleeps, followerRegs, followerCsrs, made⟩ :=
      @shadow_sleeps code rom base boot area call view placed bootPlaced site shadow memory areaKept
        clear entry
    have frameHeld : ∀ (addr : Word) (offset : Nat),
        addr = call.regs.read .sp - 32 + BitVec.ofNat 32 offset → offset + 4 ≤ 32 →
        hartBus.load (hartBus.storeAll shadow again) addr =
          hartBus.load (hartBus.storeAll view writes) addr := by
      intro addr offset here room
      have inMemory := site.memory.stack_memory here room
      rw [made, hartBus_load_storeAll_apart shadow _ inMemory fun write member _ =>
          cellWrites_apart site _ (by decide) here room write member,
        hartBus_load_memory _ inMemory, hartBus_load_memory _ inMemory, memory]
    obtain ⟨final, followerEnds, finalRegs, finalCsrs, finalRam⟩ :=
      @wakes_and_ends unit code base handler area call (hartBus.storeAll shadow again) placed
        handlerPlaced site follower (base + 232) followerRegs
        ((frameHeld _ _ (frame_upper _) (by decide)).trans upper)
        ((frameHeld _ _ (frame_lower _) (by decide)).trans lower)
    refine ⟨resumed.at (base + 232), again,
      ⟨follower.at (base + 264), hartBus.storeAll shadow again⟩, final, boots, ?_, sleeps, rfl,
      followerEnds, ?_, ?_, ?_⟩
    · exact resumeAt.symm
    · rw [finalRegs, masterRegs]
    · rw [finalCsrs, masterCsrs, followerCsrs, csrs]
    · intro byte outArea outFrames
      have againStores : ∀ write ∈ again, SwitchStore area (call.regs.read .sp) write := by
        rw [made]
        exact SwitchStore.cells _ (by decide)
      rw [finalRam byte outArea outFrames,
        SwitchStore.keeps_outside shadow againStores outArea outFrames, memory]
      exact asleepRam byte outArea outFrames

end Switch

/-! ## A switch on a core with machine-mode interrupts -/

theorem checkpointView_switchSite : SwitchSite 0x20000 0xfff0 := by
  refine ⟨?_, ?_, ?_⟩
  · intro byte area stack
    unfold InRegion at *
    bv_omega
  · intro byte area
    unfold InRegion at area
    unfold InMemory InPrivate InSafeCsr
    constructor <;> bv_omega
  · intro byte stack
    unfold InRegion at stack
    unfold InMemory InPrivate InSafeCsr
    constructor <;> bv_omega

/-- `view` as a hart boots on it without a recovery request. -/
def booting (view : HartView) : HartView :=
  { view with ctrl := { view.ctrl with dmrRec := false } }

theorem numberedCall_switched :
    ∃ stores asleep master,
      Executes hartBus (placeAt 0x8000 (safeActivate ++ handlerSafeFsm))
        ⟨(numberedCall 0xfff0).at 0x8000, checkpointView⟩ stores asleep ∧
      WakesAndEnds cve2TrapUnit (placeAt 0x8000 (safeActivate ++ handlerSafeFsm)) 0x8130 0x8000
        asleep master ∧
      ∀ entry : Context, ∃ resumed again follower final,
        Executes hartBus (placeAt 0x300 haltBoot) ⟨entry.at 0x300, booting asleep.dev⟩ []
          ⟨resumed, booting asleep.dev⟩ ∧
        Executes hartBus (placeAt 0x8000 (safeActivate ++ handlerSafeFsm))
          ⟨resumed, booting asleep.dev⟩ again follower ∧
        WakesAndEnds cve2TrapUnit (placeAt 0x8000 (safeActivate ++ handlerSafeFsm)) 0x8130 0x8000
          follower final ∧
        final.hart.regs = master.hart.regs ∧ final.hart.csrs = master.hart.csrs := by
  obtain ⟨placed, handlerPlaced⟩ := codeAt_append.mp
    (codeAt_placeAt 0x8000 (safeActivate ++ handlerSafeFsm) (by decide))
  obtain ⟨stores, asleep, master, ran, _, ends, _, _, follows⟩ :=
    hot_switch_hands_over cve2TrapUnit placed handlerPlaced
      (codeAt_placeAt 0x300 haltBoot (by decide)) (numberedCall 0xfff0) checkpointView rfl
      checkpointView_switchSite
  refine ⟨stores, asleep, master, ran, ends, ?_⟩
  intro entry
  obtain ⟨resumed, again, follower, final, boots, _, sleeps, _, followerEnds, regs, csrs, _⟩ :=
    follows entry (booting asleep.dev) rfl rfl rfl
  exact ⟨resumed, again, follower, final, boots, sleeps, followerEnds, regs, csrs⟩

end Eros
