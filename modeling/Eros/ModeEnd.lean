import Eros.ModeStart

/-!
# The end of a run

A program ends by raising END_SW, which withdraws `Start`, and by putting its harts to
sleep.  The state machine then comes back to a quiescent IDLE from every mode.
-/

set_option autoImplicit false

namespace Eros

/-- The machines of the configured mode run and all others rest. -/
structure RunsOnly (fsm : SafeFsm) (pair : HartWires) (configuration : BitVec 2) : Prop where
  mode : fsm.ctrlSafe = configuredMode configuration
  single : fsm.ctrlSingle = if configuredMode configuration = .singleMode then .run else .idle
  tmr : ∀ hart, fsm.ctrlTmr hart = if configuredMode configuration = .tmrMode then .sync else .idle
  dmr : ∀ hart, fsm.ctrlDmr hart =
    if configuredMode configuration = .dmrMode ∧ pair hart = true then .sync else .idle
  forgotten : fsm.tmrErrorFf1 = false

/-- From `first` on the program has ended, and `last` is the first cycle in which all
its harts sleep. -/
structure Ends (inputs : Nat → FsmIn) (configuration : BitVec 2) (first last : Nat) : Prop where
  stopped : ∀ cycle, first ≤ cycle → (inputs cycle).start = false
  endSw : ∀ cycle, first ≤ cycle → cycle ≤ last → (inputs cycle).endSwRoutine = true
  configured : ∀ cycle, first ≤ cycle → cycle < last →
    (inputs cycle).safeConfiguration = configuration
  awake : ∀ cycle, first ≤ cycle → cycle < last → (inputs cycle).hartWfi.all = false
  asleep : (inputs last).hartWfi.all = true

/-- No machine in SYNC sees an error. -/
def Unerring (fsm : SafeFsm) (inp : FsmIn) : Prop :=
  TmrUndisturbed fsm inp ∧ ∀ hart, fsm.ctrlDmr hart = .sync → SafeFsm.dmrErrorS inp = false

theorem configuration_of_single : ∀ configuration : BitVec 2,
    configuredMode configuration = .singleMode → configuration = 0b00#2 := by
  decide

section Step
variable {fsm : SafeFsm} {inp : FsmIn} {pair : HartWires} {configuration : BitVec 2}

theorem RunsOnly.mode_next (runs : RunsOnly fsm pair configuration)
    (stopped : inp.start = false)
    (paired : configuredMode configuration = .dmrMode → ∃ hart, pair hart = true) :
    fsm.ctrlSafeNext inp = configuredMode configuration := by
  have mode := runs.mode
  have single := runs.single
  have tmr := runs.tmr
  have dmr := runs.dmr
  rcases dualConfigured_cases configuration with rfl | rfl | dual
  · have alone : configuredMode 0b00#2 = .singleMode := rfl
    rw [alone] at mode ⊢
    rw [alone, if_pos rfl] at single
    simp [SafeFsm.ctrlSafeNext, mode, single, stopped]
  · have trio : configuredMode 0b01#2 = .tmrMode := rfl
    rw [trio] at mode tmr ⊢
    have quiet : (fsm.switchTmrToSingle inp).any = false :=
      switchTmrToSingle_of_outside fun hart => by simp [tmr]
    simp [SafeFsm.ctrlSafeNext, mode, tmr, HartWires.all, quiet]
  · have couple := configuredMode_of_dual configuration dual
    rw [couple] at mode dmr ⊢
    obtain ⟨hart, masked⟩ := paired couple
    have quiet : (fsm.switchDmrToSingle inp).any = false :=
      switchDmrToSingle_of_outside fun hart => by
        rw [dmr]
        split_ifs <;> decide
    have busy : HartWires.all (fun hart => decide (fsm.ctrlDmr hart = .idle)) = false := by
      rw [← Bool.not_eq_true, HartWires.all_eq_true_iff]
      intro idle
      have rests := of_decide_eq_true (idle hart)
      rw [dmr, if_pos ⟨rfl, masked⟩] at rests
      cases rests
    simp [SafeFsm.ctrlSafeNext, mode, busy, quiet]

theorem RunsOnly.next_of_awake (runs : RunsOnly fsm pair configuration)
    (stopped : inp.start = false) (ended : inp.endSwRoutine = true)
    (configured : inp.safeConfiguration = configuration) (awake : inp.hartWfi.all = false)
    (unerring : Unerring fsm inp)
    (paired : configuredMode configuration = .dmrMode → ∃ hart, pair hart = true) :
    RunsOnly (fsm.next inp) pair configuration where
  mode := runs.mode_next stopped paired
  single := by
    change fsm.ctrlSingleNext inp = _
    have single := runs.single
    split_ifs at single ⊢ with alone
    · have none : inp.safeConfiguration = 0b00#2 := by
        rw [configured]
        exact configuration_of_single configuration alone
      simp [SafeFsm.ctrlSingleNext, single, stopped, ended, awake, none, dualConfigured]
    · exact ctrlSingleNext_of_idle single (Or.inr stopped)
  tmr hart := by
    change fsm.ctrlTmrNext inp hart = _
    have state := runs.tmr hart
    split_ifs at state ⊢
    · have accepted : fsm.tmrErrorS inp = false := by
        simp [SafeFsm.tmrErrorS, unerring.1 hart state, runs.forgotten]
      simp [SafeFsm.ctrlTmrNext, state, awake, accepted]
    · exact ctrlTmrNext_of_stopped state stopped
  dmr hart := by
    change fsm.ctrlDmrNext inp hart = _
    have state := runs.dmr hart
    split_ifs at state ⊢
    · exact ctrlDmrNext_sync (fun other sync => ⟨unerring.2 other sync, awake⟩) state
    · exact ctrlDmrNext_of_stopped state stopped
  forgotten := tmrErrorFf1_next_of_undisturbed unerring.1 runs.forgotten

theorem RunsOnly.next_of_asleep (runs : RunsOnly fsm pair configuration)
    (stopped : inp.start = false) (ended : inp.endSwRoutine = true)
    (asleep : inp.hartWfi.all = true) : Quiescent (fsm.next inp) where
  single := by
    change fsm.ctrlSingleNext inp = .idle
    have single := runs.single
    split_ifs at single
    · simp [SafeFsm.ctrlSingleNext, single, ended, asleep]
    · exact ctrlSingleNext_of_idle single (Or.inr stopped)
  tmr hart := by
    change fsm.ctrlTmrNext inp hart = .idle
    have state := runs.tmr hart
    split_ifs at state
    · simp [SafeFsm.ctrlTmrNext, state, asleep, ended]
    · exact ctrlTmrNext_of_stopped state stopped
  dmr hart := by
    change fsm.ctrlDmrNext inp hart = .idle
    have state := runs.dmr hart
    split_ifs at state
    · simp [SafeFsm.ctrlDmrNext, state, asleep, ended]
    · exact ctrlDmrNext_of_stopped state stopped

theorem Quiescent.returns (quiescent : Quiescent fsm)
    (mode : fsm.ctrlSafe = configuredMode configuration) (stopped : inp.start = false) :
    fsm.ctrlSafeNext inp = .idle := by
  rcases dualConfigured_cases configuration with rfl | rfl | dual
  · have alone : fsm.ctrlSafe = .singleMode := mode
    simp [SafeFsm.ctrlSafeNext, alone, stopped, quiescent.single]
  · have trio : fsm.ctrlSafe = .tmrMode := mode
    simp [SafeFsm.ctrlSafeNext, trio, stopped, quiescent.tmr, HartWires.all]
  · rw [configuredMode_of_dual configuration dual] at mode
    simp [SafeFsm.ctrlSafeNext, mode, stopped, quiescent.dmr, HartWires.all]

end Step

/-- A run always ends: once the program of a mode has raised END_SW, every machine
stays where it is until all harts sleep, and from the second cycle after that on the
state machine is in IDLE with every machine at rest, ready for the next start. -/
theorem ended_run_returns_to_idle (inputs : Nat → FsmIn) (configuration : BitVec 2)
    (pair : HartWires) (first last : Nat) (ordered : first ≤ last)
    (runs : RunsOnly (safeFsm.run inputs first) pair configuration)
    (paired : configuredMode configuration = .dmrMode → ∃ hart, pair hart = true)
    (ends : Ends inputs configuration first last)
    (unerring : ∀ cycle, first ≤ cycle → cycle < last →
      Unerring (safeFsm.run inputs cycle) (inputs cycle)) :
    (∀ cycle, first ≤ cycle → cycle ≤ last →
        RunsOnly (safeFsm.run inputs cycle) pair configuration) ∧
      ∀ cycle, last + 2 ≤ cycle →
        (safeFsm.run inputs cycle).ctrlSafe = .idle ∧ Quiescent (safeFsm.run inputs cycle) := by
  have running : ∀ cycle, first ≤ cycle → cycle ≤ last →
      RunsOnly (safeFsm.run inputs cycle) pair configuration := by
    intro cycle since
    induction cycle, since using Nat.le_induction with
    | base => exact fun _ => runs
    | succ cycle since ih =>
      intro before
      exact (ih (by omega)).next_of_awake (ends.stopped _ since) (ends.endSw _ since (by omega))
        (ends.configured _ since before) (ends.awake _ since before) (unerring _ since before) paired
  refine ⟨running, ?_⟩
  intro cycle late
  have final := running last ordered le_rfl
  have stopped := ends.stopped last ordered
  have rests : Quiescent (safeFsm.run inputs (last + 1)) :=
    final.next_of_asleep stopped (ends.endSw _ ordered le_rfl) ends.asleep
  have mode : (safeFsm.run inputs (last + 1)).ctrlSafe = configuredMode configuration :=
    final.mode_next stopped paired
  induction cycle, late using Nat.le_induction with
  | base =>
    have quiet := ends.stopped (last + 1) (by omega)
    exact ⟨rests.returns mode quiet, rests.next_of_stopped quiet⟩
  | succ cycle late ih =>
    obtain ⟨idle, quiescent⟩ := ih
    have quiet := ends.stopped cycle (by omega)
    refine ⟨?_, quiescent.next_of_stopped quiet⟩
    change (safeFsm.run inputs cycle).ctrlSafeNext (inputs cycle) = .idle
    simp [SafeFsm.ctrlSafeNext, idle, quiet]

/-- The trio of `trioStarts` ends its program in cycle 8 and sleeps in cycle 9. -/
def trioEnds : Nat → FsmIn
  | 0 | 2 | 3 | 4 | 6 | 7 => trioIn 0b01#2
  | 1 => { trioIn 0b01#2 with hartWfi := fun _ => true }
  | 5 => { trioIn 0b01#2 with haltAck := fun _ => true }
  | 9 => { trioIn 0b01#2 with start := false, endSwRoutine := true, hartWfi := fun _ => true }
  | _ => { trioIn 0b01#2 with start := false, endSwRoutine := true }

set_option maxRecDepth 8000 in
theorem trioEnds_returns :
    RunsOnly (safeFsm.run trioEnds 9) (fun _ => false) 0b01#2 ∧
      (safeFsm.run trioEnds 20).ctrlSafe = .idle ∧ Quiescent (safeFsm.run trioEnds 20) := by
  have ends : Ends trioEnds 0b01#2 8 9 := by
    refine ⟨?_, ?_, ?_, ?_, rfl⟩
    · intro cycle since
      obtain ⟨later, rfl⟩ := Nat.exists_eq_add_of_le' since
      match later with
      | 0 | 1 => rfl
      | later + 2 => rfl
    · intro cycle since until_
      obtain rfl | rfl : cycle = 8 ∨ cycle = 9 := by omega
      · rfl
      · rfl
    · intro cycle since before
      obtain rfl : cycle = 8 := by omega
      rfl
    · intro cycle since before
      obtain rfl : cycle = 8 := by omega
      rfl
  have returns := ended_run_returns_to_idle trioEnds 0b01#2 (fun _ => false) 8 9 (by decide)
    ⟨by decide, by decide, by decide, by decide, by decide⟩ (by decide) ends (by
      intro cycle since before
      obtain rfl : cycle = 8 := by omega
      exact ⟨fun _ _ => rfl, fun _ _ => rfl⟩)
  exact ⟨returns.1 9 (by decide) le_rfl, returns.2 20 (by decide)⟩

end Eros
