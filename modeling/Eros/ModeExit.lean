import Eros.LockstepFlag

/-!
# Leaving a protected mode

A TMR machine leaves SYNC for END_SYNC when every hart sleeps under another
configuration than its own.  The DMR machine tests
`Safe_configuration_i != 2'b10 | Safe_configuration_i != 2'b11`, which every
configuration meets, so a sleeping pair leaves while its mode is configured.
-/

set_option autoImplicit false

namespace Eros

theorem ctrlTmrNext_endSync {fsm : SafeFsm} {inp : FsmIn} {hart : Hart}
    (enters : fsm.ctrlTmrNext inp hart = .endSync) (outside : fsm.ctrlTmr hart ≠ .endSync) :
    fsm.ctrlTmr hart = .sync ∧ inp.hartWfi.all = true ∧ inp.safeConfiguration ≠ 0b01#2 := by
  unfold SafeFsm.ctrlTmrNext at enters
  cases state : fsm.ctrlTmr hart with
  | sync =>
    simp only [state] at enters
    split_ifs at enters with ended asleep
    rw [Bool.and_eq_true] at asleep
    exact ⟨rfl, asleep.1, bne_iff_ne.mp asleep.2⟩
  | endSync => exact absurd state outside
  | reset | toSingle => simp [state] at enters
  | idle | start | boot | shHalt | waitSh | msIntrSync | syncIntc | swSync =>
    simp only [state] at enters
    split_ifs at enters

/-- The configuration test of the DMR machine holds of every configuration. -/
theorem dmr_configuration_test (configuration : BitVec 2) :
    (configuration != 0b10#2 || configuration != 0b11#2) = true := by
  revert configuration
  decide

theorem ctrlDmrNext_endSync {fsm : SafeFsm} {inp : FsmIn} {hart : Hart}
    (enters : fsm.ctrlDmrNext inp hart = .endSync) (outside : fsm.ctrlDmr hart ≠ .endSync) :
    fsm.ctrlDmr hart = .sync ∧ inp.hartWfi.all = true := by
  unfold SafeFsm.ctrlDmrNext at enters
  cases state : fsm.ctrlDmr hart with
  | sync =>
    simp only [state] at enters
    split_ifs at enters with ended asleep
    rw [Bool.and_eq_true] at asleep
    exact ⟨rfl, asleep.1⟩
  | endSync => exact absurd state outside
  | reset | toSingle => simp [state] at enters
  | idle | start | boot | shHalt | waitSh | msIntrSync | stop | intcRecovery | recovery =>
    simp only [state] at enters
    split_ifs at enters

theorem ctrlDmrNext_of_asleep {fsm : SafeFsm} {inp : FsmIn} {hart : Hart}
    (sync : fsm.ctrlDmr hart = .sync) (asleep : inp.hartWfi.all = true)
    (running : inp.endSwRoutine = false) : fsm.ctrlDmrNext inp hart = .endSync := by
  unfold SafeFsm.ctrlDmrNext
  simp only [sync, asleep, running, dmr_configuration_test]
  rfl

theorem dualConfigured_eq_false_iff (configuration : BitVec 2) :
    dualConfigured configuration = false ↔ configuration ≠ 0b10#2 ∧ configuration ≠ 0b11#2 := by
  unfold dualConfigured
  rw [Bool.or_eq_false_iff, beq_eq_false_iff_ne, beq_eq_false_iff_ne]

/-- In every run without `End_sw`, the TMR machines leave only under another
configuration, and the DMR machines do so if and only if no pair ever sleeps in
DMR_SYNC while a dual mode is configured. -/
theorem protected_mode_left_when_asked_iff (inputs : Nat → FsmIn)
    (running : ∀ cycle, (inputs cycle).endSwRoutine = false) :
    let run := safeFsm.run inputs
    ((∀ cycle hart, (run (cycle + 1)).ctrlTmr hart = .endSync →
          (run cycle).ctrlTmr hart ≠ .endSync → (inputs cycle).safeConfiguration ≠ 0b01#2) ∧
        (∀ cycle hart, (run (cycle + 1)).ctrlDmr hart = .endSync →
          (run cycle).ctrlDmr hart ≠ .endSync →
          (inputs cycle).safeConfiguration ≠ 0b10#2 ∧
            (inputs cycle).safeConfiguration ≠ 0b11#2)) ↔
      ∀ cycle hart, (run cycle).ctrlDmr hart = .sync → (inputs cycle).hartWfi.all = true →
        dualConfigured (inputs cycle).safeConfiguration = false := by
  intro run
  constructor
  · rintro ⟨_, dmrLeaves⟩ cycle hart sync asleep
    have enters : (run (cycle + 1)).ctrlDmr hart = .endSync :=
      ctrlDmrNext_of_asleep sync asleep (running cycle)
    have outside : (run cycle).ctrlDmr hart ≠ .endSync := by
      rw [sync]
      decide
    exact (dualConfigured_eq_false_iff _).mpr (dmrLeaves cycle hart enters outside)
  · intro awake
    constructor
    · intro cycle hart enters outside
      exact (ctrlTmrNext_endSync enters outside).2.2
    · intro cycle hart enters outside
      obtain ⟨sync, asleep⟩ := ctrlDmrNext_endSync enters outside
      exact (dualConfigured_eq_false_iff _).mp (awake cycle hart sync asleep)

/-- A running pair is released to the configuration `00` in cycle 6 and sleeps. -/
def pairReleased (cycle : Nat) : FsmIn :=
  if cycle < 6 then enterPair 0b10#2 cycle else { pairIn 0b00#2 with hartWfi := fun _ => true }

theorem pairReleased_asleep {cycle : Nat} (asleep : (pairReleased cycle).hartWfi.all = true) :
    cycle = 1 ∨ 6 ≤ cycle := by
  match cycle with
  | 0 => exact absurd asleep (by decide)
  | 1 => exact Or.inl rfl
  | 2 | 3 | 4 | 5 => exact absurd asleep (by decide)
  | later + 6 => exact Or.inr (by omega)

set_option maxRecDepth 4000 in
theorem released_pair_leaves_when_asked :
    (safeFsm.run pairReleased 7).ctrlDmr 0 = .endSync ∧
      ∀ cycle hart, (safeFsm.run pairReleased (cycle + 1)).ctrlDmr hart = .endSync →
        (safeFsm.run pairReleased cycle).ctrlDmr hart ≠ .endSync →
        (pairReleased cycle).safeConfiguration ≠ 0b10#2 ∧
          (pairReleased cycle).safeConfiguration ≠ 0b11#2 := by
  have running : ∀ cycle, (pairReleased cycle).endSwRoutine = false := by
    intro cycle
    unfold pairReleased enterPair
    split_ifs
    · split <;> rfl
    · rfl
  refine ⟨by decide, ((protected_mode_left_when_asked_iff pairReleased running).mpr ?_).2⟩
  intro cycle hart sync asleep
  rcases pairReleased_asleep asleep with rfl | late
  · revert sync
    fin_cases hart <;> decide
  · have released : (pairReleased cycle).safeConfiguration = 0b00#2 := by
      unfold pairReleased
      rw [if_neg (by omega)]
      rfl
    rw [released]
    rfl

/-- A running pair goes to sleep in cycle 6 with the configuration still `10`. -/
def pairSleeps (cycle : Nat) : FsmIn :=
  if cycle < 6 then enterPair 0b10#2 cycle else { pairIn 0b10#2 with hartWfi := fun _ => true }

set_option maxRecDepth 4000 in
theorem sleeping_pair_leaves_configured_mode :
    ¬∀ inputs : Nat → FsmIn, (∀ cycle, (inputs cycle).endSwRoutine = false) →
      ((∀ cycle hart, (safeFsm.run inputs (cycle + 1)).ctrlTmr hart = .endSync →
          (safeFsm.run inputs cycle).ctrlTmr hart ≠ .endSync →
          (inputs cycle).safeConfiguration ≠ 0b01#2) ∧
        ∀ cycle hart, (safeFsm.run inputs (cycle + 1)).ctrlDmr hart = .endSync →
          (safeFsm.run inputs cycle).ctrlDmr hart ≠ .endSync →
          (inputs cycle).safeConfiguration ≠ 0b10#2 ∧
            (inputs cycle).safeConfiguration ≠ 0b11#2) := by
  intro claimed
  have running : ∀ cycle, (pairSleeps cycle).endSwRoutine = false := by
    intro cycle
    unfold pairSleeps enterPair
    split_ifs
    · split <;> rfl
    · rfl
  have left := (claimed pairSleeps running).2 6 0 (by decide) (by decide)
  exact left.1 (by decide)

end Eros
