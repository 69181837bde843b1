import Eros.CheckpointTearing
import Eros.Lib.VolatileRoutine

/-!
# Stopping a protected mode across a recovery

`Safe_Stop` tests the configuration, sets the master, clears the configuration
and sleeps.  An error during the call takes the pair back to a checkpoint taken
before it; the control registers keep what the call has written so far.  Once the
configuration is cleared the test of the replayed call fails, and the call
returns without the `wfi` that ends the mode.
-/

set_option autoImplicit false

namespace Eros

open Volatile
open Rv32 hiding run run_add
open ByteMemory (Mem Write InRegion Apart Disjoint)

/-! ## `Safe_Stop` -/

/-- After the store that clears the configuration. -/
def safeStopSleep : Routine := .asm .fence (.asm .wfi (.asm .nop (.asm .nop .ret)))

def safeStopClear : Routine := .store (ctrlAddr CtrlOffset.safeConfiguration) 0 safeStopSleep

def safeStopMaster (master : Word) : Routine :=
  .store (ctrlAddr CtrlOffset.masterCore) master safeStopClear

/-- The body of the test, with `Set_Critical_Section` inlined. -/
def safeStopBody (master : Word) : Routine :=
  .load (ctrlAddr CtrlOffset.criticalSection) fun critical =>
    if critical = 1 then
      .store (ctrlAddr CtrlOffset.criticalSection) 0 (safeStopMaster master)
    else safeStopMaster master

/-- Each operand of the test reads the register again. -/
def safeStop (master : Word) : Routine :=
  .load (ctrlAddr CtrlOffset.safeConfiguration) fun first =>
    if first = 1 then safeStopBody master
    else .load (ctrlAddr CtrlOffset.safeConfiguration) fun second =>
      if second = 2 then safeStopBody master
      else .load (ctrlAddr CtrlOffset.safeConfiguration) fun third =>
        if third = 3 then safeStopBody master else .ret

/-- A call that returns with the mode stopped: no configuration, the requested
master, and the `wfi` executed. -/
def StopsMode (master : Word) (view : HartView) : Prop :=
  ∃ count, (run hartBus count (call (safeStop master) view)).routine = .ret ∧
    (run hartBus count (call (safeStop master) view)).dev.ctrl.safeConfiguration = 0 ∧
    (run hartBus count (call (safeStop master) view)).dev.ctrl.masterCore = master.truncate 3 ∧
    .wfi ∈ (run hartBus count (call (safeStop master) view)).executed

/-! ## A whole call -/

section Call
variable (view : HartView) (master : Word)

theorem load_safeConfiguration :
    hartBus.load view (ctrlAddr CtrlOffset.safeConfiguration) =
      view.ctrl.safeConfiguration.zeroExtend 32 :=
  hartBus_load_ctrl view CtrlOffset.safeConfiguration

theorem load_criticalSection :
    hartBus.load view (ctrlAddr CtrlOffset.criticalSection) =
      (BitVec.ofBool view.ctrl.criticalSection).zeroExtend 32 :=
  hartBus_load_ctrl view CtrlOffset.criticalSection

/-- The view when the body reaches the store of 0 to the configuration. -/
def masterSet : HartView :=
  { view with
    ctrl := { view.ctrl with
      criticalSection := false
      masterCore := master.truncate 3 } }

/-- The test takes as many reads as the configuration's number. -/
theorem run_safeStop_test (protectedMode : view.ctrl.safeConfiguration ≠ 0) :
    run hartBus view.ctrl.safeConfiguration.toNat (call (safeStop master) view) =
      call (safeStopBody master) view := by
  have modes : ∀ configuration : BitVec 2, configuration ≠ 0 →
      configuration = 1 ∨ configuration = 2 ∨ configuration = 3 := by decide
  have loaded := load_safeConfiguration view
  rcases modes _ protectedMode with one | two | three
  · rw [one] at loaded ⊢
    simp [call, safeStop, run, step, loaded]
  · rw [two] at loaded ⊢
    simp [call, safeStop, run, step, loaded]
  · rw [three] at loaded ⊢
    simp [call, safeStop, run, step, loaded]

theorem store_criticalSection :
    hartBus.store view (ctrlAddr CtrlOffset.criticalSection) 0 =
      { view with ctrl := { view.ctrl with criticalSection := false } } :=
  hartBus_store_ctrl view CtrlOffset.criticalSection 0

theorem store_masterCore :
    hartBus.store view (ctrlAddr CtrlOffset.masterCore) master =
      { view with ctrl := { view.ctrl with masterCore := master.truncate 3 } } := by
  have decoded : ∀ offset, (softwareReq CtrlOffset.masterCore master).writes offset =
      (softwareReq CtrlOffset.masterCore 0).writes offset := fun _ => rfl
  rw [hartBus_store_ctrl]
  unfold SafeWrapperCtrl.softwareWrite
  simp only [decoded]
  rfl

theorem store_safeConfiguration :
    hartBus.store view (ctrlAddr CtrlOffset.safeConfiguration) 0 =
      { view with ctrl := { view.ctrl with safeConfiguration := 0 } } :=
  hartBus_store_ctrl view CtrlOffset.safeConfiguration 0

theorem run_safeStopBody :
    run hartBus (view.ctrl.criticalSection.toNat + 2) (call (safeStopBody master) view) =
      call safeStopClear (masterSet view master) := by
  have loaded := load_criticalSection view
  cases critical : view.ctrl.criticalSection with
  | false =>
    rw [critical] at loaded
    have test : step hartBus (call (safeStopBody master) view) = call (safeStopMaster master) view := by
      simp [call, safeStopBody, step, loaded]
    have same : masterSet view master =
        { view with ctrl := { view.ctrl with masterCore := master.truncate 3 } } := by
      unfold masterSet
      rw [← critical]
    change step hartBus (step hartBus (call (safeStopBody master) view)) = _
    rw [test, same, ← store_masterCore]
    rfl
  | true =>
    rw [critical] at loaded
    have test : step hartBus (call (safeStopBody master) view) =
        call (.store (ctrlAddr CtrlOffset.criticalSection) 0 (safeStopMaster master)) view := by
      simp [call, safeStopBody, step, loaded]
    change step hartBus (step hartBus (step hartBus (call (safeStopBody master) view))) = _
    rw [test]
    change call safeStopClear (hartBus.store (hartBus.store view _ 0) _ master) = _
    rw [store_criticalSection, store_masterCore]
    rfl

/-- The accesses of a call before the store that clears the configuration. -/
def accessesBeforeClear (ctrl : SafeWrapperCtrl) : Nat :=
  ctrl.safeConfiguration.toNat + ctrl.criticalSection.toNat + 2

theorem run_safeStop_clear (protectedMode : view.ctrl.safeConfiguration ≠ 0) :
    run hartBus (accessesBeforeClear view.ctrl) (call (safeStop master) view) =
      call safeStopClear (masterSet view master) := by
  unfold accessesBeforeClear
  rw [Nat.add_assoc, run_add, run_safeStop_test view master protectedMode, run_safeStopBody]

/-- With a configuration the call runs to its `wfi`; without one it does nothing. -/
theorem stopsMode_iff : StopsMode master view ↔ view.ctrl.safeConfiguration ≠ 0 := by
  unfold StopsMode
  rw [returns_iff hartBus fun final => final.dev.ctrl.safeConfiguration = 0 ∧
    final.dev.ctrl.masterCore = master.truncate 3 ∧ .wfi ∈ final.executed]
  constructor
  · rintro ⟨_, _, slept⟩ idle
    have loaded := load_safeConfiguration view
    rw [idle] at loaded
    simp [call, safeStop, finish, loaded] at slept
  · intro protectedMode
    have reached := finish_run hartBus (accessesBeforeClear view.ctrl) (call (safeStop master) view)
    rw [run_safeStop_clear view master protectedMode] at reached
    rw [← reached]
    have cleared := store_safeConfiguration (masterSet view master)
    change (hartBus.store (masterSet view master) (ctrlAddr CtrlOffset.safeConfiguration)
        0).ctrl.safeConfiguration = 0 ∧
      (hartBus.store (masterSet view master) (ctrlAddr CtrlOffset.safeConfiguration)
        0).ctrl.masterCore = _ ∧ _
    rw [cleared]
    have slept : Instr.wfi ∈ [Instr.fence, .wfi, .nop, .nop] := by decide
    exact ⟨rfl, rfl, slept⟩

/-! ## A call that is cut -/

def StopWrite (write : Write) : Prop :=
  write = (ctrlAddr CtrlOffset.criticalSection, 0) ∨
    write = (ctrlAddr CtrlOffset.masterCore, master) ∨
    write = (ctrlAddr CtrlOffset.safeConfiguration, 0)

theorem safeStop_within : (safeStop master).Within (StopWrite master) := by
  have last : safeStopClear.Within (StopWrite master) := ⟨.inr (.inr rfl), trivial⟩
  have set : (safeStopMaster master).Within (StopWrite master) := ⟨.inr (.inl rfl), last⟩
  have body : (safeStopBody master).Within (StopWrite master) := by
    intro critical
    dsimp only
    split_ifs
    · exact ⟨.inl rfl, set⟩
    · exact set
  intro first
  dsimp only
  split_ifs
  · exact body
  intro second
  dsimp only
  split_ifs
  · exact body
  intro third
  dsimp only
  split_ifs
  · exact body
  · exact trivial

/-- The memory and the pointers of the checkpoint are those of `view`. -/
structure SameCheckpoint (view later : HartView) : Prop where
  ram : later.ram = view.ram
  area : later.ctrl.safeCopyAddress = view.ctrl.safeCopyAddress
  top : later.ctrl.initialStackAddr = view.ctrl.initialStackAddr

theorem stopWrite_keeps_checkpoint (dev : HartView) (write : Write)
    (made : StopWrite master write) (same : SameCheckpoint view dev) :
    SameCheckpoint view (hartBus.store dev write.1 write.2) := by
  rcases made with rfl | rfl | rfl
  · rw [store_criticalSection]
    exact ⟨same.ram, same.area, same.top⟩
  · rw [store_masterCore]
    exact ⟨same.ram, same.area, same.top⟩
  · rw [store_safeConfiguration]
    exact ⟨same.ram, same.area, same.top⟩

theorem stopWrite_keeps_cleared (dev : HartView) (write : Write) (made : StopWrite master write)
    (cleared : dev.ctrl.safeConfiguration = 0) :
    (hartBus.store dev write.1 write.2).ctrl.safeConfiguration = 0 := by
  rcases made with rfl | rfl | rfl
  · rw [store_criticalSection]
    exact cleared
  · rw [store_masterCore]
    exact cleared
  · rw [store_safeConfiguration]

/-- The devices after the first accesses of a call. -/
def safeStopCut (count : Nat) : HartView := (run hartBus count (call (safeStop master) view)).dev

theorem safeStopCut_checkpoint (count : Nat) :
    SameCheckpoint view (safeStopCut view master count) :=
  run_preserves (stopWrite_keeps_checkpoint view master) count (safeStop_within master)
    ⟨rfl, rfl, rfl⟩

theorem safeStopCut_cleared {first second : Nat} (later : first ≤ second)
    (cleared : (safeStopCut view master first).ctrl.safeConfiguration = 0) :
    (safeStopCut view master second).ctrl.safeConfiguration = 0 := by
  obtain ⟨rest, rfl⟩ := Nat.exists_eq_add_of_le later
  unfold safeStopCut
  rw [run_add]
  exact run_preserves (stopWrite_keeps_cleared master) rest
    (run_within first (safeStop_within master)) cleared

/-- A cut finds the configuration in place exactly up to the store that clears it. -/
theorem safeStopCut_configured_iff (protectedMode : view.ctrl.safeConfiguration ≠ 0) (count : Nat) :
    (safeStopCut view master count).ctrl.safeConfiguration ≠ 0 ↔
      count ≤ accessesBeforeClear view.ctrl := by
  have reached := run_safeStop_clear view master protectedMode
  constructor
  · intro configured
    by_contra passed
    apply configured
    refine safeStopCut_cleared view master (Nat.succ_le_of_lt (Nat.lt_of_not_le passed)) ?_
    unfold safeStopCut
    rw [Nat.succ_eq_add_one, run_add, reached]
    change (hartBus.store (masterSet view master) _ 0).ctrl.safeConfiguration = 0
    rw [store_safeConfiguration]
  · intro before cleared
    apply protectedMode
    have still := safeStopCut_cleared view master before cleared
    unfold safeStopCut at still
    rw [reached] at still
    exact still

end Call

/-! ## The replay -/

/-- The registers of `Safe_Stop` hold at the replayed call what the recovery left. -/
structure SameControl (resumed again : HartView) : Prop where
  configuration : again.ctrl.safeConfiguration = resumed.ctrl.safeConfiguration
  master : again.ctrl.masterCore = resumed.ctrl.masterCore
  critical : again.ctrl.criticalSection = resumed.ctrl.criticalSection

section Replay
variable {rom : Code} {boot : Word}

/-- `halt_boot` after a cut gives the checkpoint back and leaves the control
registers as the call had written them. -/
theorem safeStopCut_recovered (placed : CodeAt rom boot haltBoot) (view : HartView) (master : Word)
    (count : Nat) (entry : Context)
    (site : SaveSite view.ctrl.safeCopyAddress
      (areaImage view.ram view.ctrl.safeCopyAddress (.reg .sp)) view.ctrl.initialStackAddr) :
    ∃ restores hart resumed,
      Executes hartBus rom ⟨entry.at boot, recovering (safeStopCut view master count)⟩ restores
        ⟨hart, resumed⟩ ∧
      Restores (areaImage view.ram view.ctrl.safeCopyAddress)
        (areaImage view.ram view.ctrl.safeCopyAddress (.reg .sp)) view.ctrl.initialStackAddr
        hart resumed.ram ∧
      SameControl (safeStopCut view master count) resumed := by
  have same := safeStopCut_checkpoint view master count
  generalize safeStopCut view master count = cut at same ⊢
  have area : (recovering cut).ctrl.safeCopyAddress = view.ctrl.safeCopyAddress := same.area
  have top : (recovering cut).ctrl.initialStackAddr = view.ctrl.initialStackAddr := same.top
  have ram : (recovering cut).ram = view.ram := same.ram
  have ran := @haltBoot_recovers rom boot (recovering cut) entry placed
    (by rw [area, top, ram]; exact site) rfl
  dsimp only at ran
  rw [area, top, ram] at ran
  refine ⟨_, _, _, ran, ⟨rfl, rfl, ?_⟩, ⟨rfl, rfl, rfl⟩⟩
  intro index inside
  exact site.load_stackWrites view.ram _ inside

/-- A call of `Safe_Stop` is cut by an error, the pair is recovered and calls
again: the mode is stopped exactly when the cut came no later than the store that
clears the configuration was due. -/
theorem stop_survives_error_iff (placed : CodeAt rom boot haltBoot) (view : HartView)
    (master : Word) (count : Nat) (entry : Context)
    (protectedMode : view.ctrl.safeConfiguration ≠ 0)
    (site : SaveSite view.ctrl.safeCopyAddress
      (areaImage view.ram view.ctrl.safeCopyAddress (.reg .sp)) view.ctrl.initialStackAddr) :
    ∃ restores hart resumed,
      Executes hartBus rom ⟨entry.at boot, recovering (safeStopCut view master count)⟩ restores
        ⟨hart, resumed⟩ ∧
      Restores (areaImage view.ram view.ctrl.safeCopyAddress)
        (areaImage view.ram view.ctrl.safeCopyAddress (.reg .sp)) view.ctrl.initialStackAddr
        hart resumed.ram ∧
      ∀ again, SameControl resumed again →
        (StopsMode master again ↔
          count ≤ view.ctrl.safeConfiguration.toNat + view.ctrl.criticalSection.toNat + 2) := by
  obtain ⟨restores, hart, resumed, ran, restored, control⟩ :=
    safeStopCut_recovered placed view master count entry site
  refine ⟨restores, hart, resumed, ran, restored, ?_⟩
  intro again kept
  rw [stopsMode_iff, kept.configuration, control.configuration]
  exact safeStopCut_configured_iff view master protectedMode count

/-! ## A pair stopping in delayed dual mode -/

/-- The area at `0x20000` holds one word in every cell, and the stack is empty. -/
def stoppingView : HartView :=
  { checkpointView with
    ram := fun _ => 0x10
    ctrl := { checkpointView.ctrl with
      safeConfiguration := 2
      initialStackAddr := 0x10101010 } }

theorem stoppingView_sp : areaImage stoppingView.ram 0x20000 (.reg .sp) = 0x10101010 := by decide

theorem stoppingView_site : SaveSite stoppingView.ctrl.safeCopyAddress
    (areaImage stoppingView.ram stoppingView.ctrl.safeCopyAddress (.reg .sp))
    stoppingView.ctrl.initialStackAddr := by
  have area : stoppingView.ctrl.safeCopyAddress = 0x20000 := rfl
  have top : stoppingView.ctrl.initialStackAddr = 0x10101010 := rfl
  have words : stackWords 0x10101010 0x10101010 = 0 := by decide
  rw [area, top, stoppingView_sp]
  refine ⟨by decide, by decide, by decide, ?_, ?_, ?_⟩
  · intro byte inArea inStack
    rw [words] at inArea
    unfold InRegion at *
    bv_omega
  · intro byte inArea
    rw [words] at inArea
    unfold InRegion at inArea
    unfold InMemory InPrivate InSafeCsr
    constructor <;> bv_omega
  · intro byte inStack
    unfold InRegion at inStack
    unfold InMemory InPrivate InSafeCsr
    constructor <;> bv_omega

/-- Cut when the master is set and the configuration is not yet cleared. -/
theorem stoppingView_survives :
    ∃ restores hart resumed,
      Executes hartBus (placeAt 0x300 haltBoot)
        ⟨(numberedCall 0).at 0x300, recovering (safeStopCut stoppingView 1 4)⟩ restores
        ⟨hart, resumed⟩ ∧
      Restores (areaImage stoppingView.ram 0x20000) 0x10101010 0x10101010 hart resumed.ram ∧
      StopsMode 1 resumed := by
  obtain ⟨restores, hart, resumed, ran, restored, replay⟩ :=
    stop_survives_error_iff (codeAt_placeAt 0x300 haltBoot (by decide)) stoppingView 1 4
      (numberedCall 0) (by decide) stoppingView_site
  exact ⟨restores, hart, resumed, ran, stoppingView_sp ▸ restored,
    (replay resumed ⟨rfl, rfl, rfl⟩).mpr (by decide)⟩

/-- Cut when the configuration has just been cleared: the recovery ends, and the
replayed call returns with the configuration 0 and no `wfi`. -/
theorem stoppingView_cut_after_clear :
    ∃ restores hart resumed,
      Executes hartBus (placeAt 0x300 haltBoot)
        ⟨(numberedCall 0).at 0x300, recovering (safeStopCut stoppingView 1 5)⟩ restores
        ⟨hart, resumed⟩ ∧
      Restores (areaImage stoppingView.ram 0x20000) 0x10101010 0x10101010 hart resumed.ram ∧
      resumed.ctrl.safeConfiguration = 0 ∧
      (run hartBus 3 (call (safeStop 1) resumed)).routine = .ret ∧
      (run hartBus 3 (call (safeStop 1) resumed)).executed = [] ∧
      ¬StopsMode 1 resumed := by
  obtain ⟨restores, hart, resumed, ran, restored, control⟩ :=
    safeStopCut_recovered (codeAt_placeAt 0x300 haltBoot (by decide)) stoppingView 1 5
      (numberedCall 0) stoppingView_site
  have cleared : (safeStopCut stoppingView 1 5).ctrl.safeConfiguration = 0 := by
    by_contra configured
    have early := (safeStopCut_configured_iff stoppingView 1 (by decide) 5).mp configured
    exact absurd early (by decide)
  have idle : resumed.ctrl.safeConfiguration = 0 := control.configuration.trans cleared
  have loaded := load_safeConfiguration resumed
  rw [idle] at loaded
  refine ⟨restores, hart, resumed, ran, stoppingView_sp ▸ restored, idle, ?_, ?_, ?_⟩
  · simp [call, safeStop, run, step, loaded]
  · simp [call, safeStop, run, step, loaded]
  · rw [stopsMode_iff, idle]
    exact fun configured => configured rfl

end Replay

end Eros
