import Eros.FsmPhases

/-!
# Voting, comparing and single mode exclude each other

The voter follows the engaged TMR machines and the comparator the DMR ones.
They keep to the mode of the top machine as long as the top machine, when it
leaves a protected mode for SINGLE_MODE on the request of one machine, leaves
none of the others engaged.
-/

set_option autoImplicit false

namespace Eros

/-- The voter and the comparator are not both enabled, and neither is in
SINGLE_MODE. -/
def ModesExclude (fsm : SafeFsm) (inp : FsmIn) : Prop :=
  ¬(fsm.tmrVoterEnableO inp = true ∧ fsm.dmrComparatorEnableO inp = true) ∧
    (fsm.ctrlSafe = .singleMode →
      fsm.tmrVoterEnableO inp = false ∧ fsm.dmrComparatorEnableO inp = false)

/-- The TMR machine of `hart` is not engaged after this cycle: it is in END_SYNC,
ends its TMR_SYNC now, or is in IDLE and stays there. -/
def TmrSettles (fsm : SafeFsm) (inp : FsmIn) (hart : Hart) : Prop :=
  fsm.ctrlTmr hart = .endSync ∨ (fsm.ctrlTmr hart = .sync ∧ SafeFsm.tmrEnds inp = true) ∨
    (fsm.ctrlTmr hart = .idle ∧ fsm.tmrStarts inp hart = false)

def DmrSettles (fsm : SafeFsm) (inp : FsmIn) (hart : Hart) : Prop :=
  fsm.ctrlDmr hart = .endSync ∨ (fsm.ctrlDmr hart = .sync ∧ inp.hartWfi.all = true) ∨
    (fsm.ctrlDmr hart = .idle ∧ fsm.dmrStarts inp hart = false)

/-- In a cycle in which a machine takes the top machine from its mode to
SINGLE_MODE, every machine of the mode settles. -/
structure LeavesTogether (fsm : SafeFsm) (inp : FsmIn) : Prop where
  tmr : fsm.ctrlSafe = .tmrMode → (fsm.switchTmrToSingle inp).any = true →
    ∀ hart, TmrSettles fsm inp hart
  dmr : fsm.ctrlSafe = .dmrMode → (fsm.switchDmrToSingle inp).any = true →
    ∀ hart, DmrSettles fsm inp hart

theorem TmrSettles.next {fsm : SafeFsm} {inp : FsmIn} {hart : Hart}
    (settles : TmrSettles fsm inp hart) : (fsm.ctrlTmrNext inp hart).engaged = false := by
  rw [← Bool.not_eq_true]
  intro after
  rcases ctrlTmrNext_engaged after with ⟨engaged, running⟩ | ⟨idle, starts⟩
  · rcases settles with state | ⟨state, ends⟩ | ⟨state, _⟩
    · rw [state] at engaged
      simp [CtrlTmrFsm.engaged] at engaged
    · rw [running state] at ends
      simp at ends
    · rw [state] at engaged
      simp [CtrlTmrFsm.engaged] at engaged
  · rcases settles with state | ⟨state, _⟩ | ⟨_, stays⟩
    · simp [idle] at state
    · simp [idle] at state
    · simp [starts] at stays

theorem DmrSettles.next {fsm : SafeFsm} {inp : FsmIn} {hart : Hart}
    (settles : DmrSettles fsm inp hart) : (fsm.ctrlDmrNext inp hart).engaged = false := by
  rw [← Bool.not_eq_true]
  intro after
  rcases ctrlDmrNext_engaged after with ⟨engaged, running⟩ | ⟨idle, starts⟩
  · rcases settles with state | ⟨state, ends⟩ | ⟨state, _⟩
    · rw [state] at engaged
      simp [CtrlDmrFsm.engaged] at engaged
    · rw [running state] at ends
      simp at ends
    · rw [state] at engaged
      simp [CtrlDmrFsm.engaged] at engaged
  · rcases settles with state | ⟨state, _⟩ | ⟨_, stays⟩
    · simp [idle] at state
    · simp [idle] at state
    · simp [starts] at stays

/-- Engaged machines are those of the top machine's mode. -/
structure Confined (fsm : SafeFsm) : Prop where
  tmr : ∀ hart, (fsm.ctrlTmr hart).engaged = true → fsm.ctrlSafe = .tmrMode
  dmr : ∀ hart, (fsm.ctrlDmr hart).engaged = true → fsm.ctrlSafe = .dmrMode

theorem confined_reset : Confined .reset where
  tmr hart engaged := by simp [SafeFsm.reset, CtrlTmrFsm.engaged] at engaged
  dmr hart engaged := by simp [SafeFsm.reset, CtrlDmrFsm.engaged] at engaged

namespace Confined
variable {fsm : SafeFsm} {inp : FsmIn}

theorem next (confined : Confined fsm) (leaves : LeavesTogether fsm inp) :
    Confined (fsm.next inp) where
  tmr hart after := by
    change fsm.ctrlSafeNext inp = .tmrMode
    have mode : fsm.ctrlSafe = .tmrMode := by
      rcases ctrlTmrNext_engaged after with ⟨engaged, _⟩ | ⟨_, starts⟩
      · exact confined.tmr hart engaged
      · simp only [SafeFsm.tmrStarts, Bool.and_eq_true, decide_eq_true_eq] at starts
        exact starts.1.1
    rcases ctrlSafeNext_of_tmrMode inp mode with ⟨_, stopped, idle⟩ | ⟨_, switches⟩ | stays
    · have settles : TmrSettles fsm inp hart :=
        Or.inr (Or.inr ⟨idle hart, by simp [SafeFsm.tmrStarts, stopped]⟩)
      exact absurd after (by simp [SafeFsm.next, settles.next])
    · have settles := leaves.tmr mode switches hart
      exact absurd after (by simp [SafeFsm.next, settles.next])
    · exact stays
  dmr hart after := by
    change fsm.ctrlSafeNext inp = .dmrMode
    have mode : fsm.ctrlSafe = .dmrMode := by
      rcases ctrlDmrNext_engaged after with ⟨engaged, _⟩ | ⟨_, starts⟩
      · exact confined.dmr hart engaged
      · simp only [SafeFsm.dmrStarts, Bool.and_eq_true, decide_eq_true_eq] at starts
        exact starts.1.1.1
    rcases ctrlSafeNext_of_dmrMode inp mode with ⟨_, stopped, idle⟩ | ⟨_, switches⟩ | stays
    · have settles : DmrSettles fsm inp hart :=
        Or.inr (Or.inr ⟨idle hart, by simp [SafeFsm.dmrStarts, stopped]⟩)
      exact absurd after (by simp [SafeFsm.next, settles.next])
    · have settles := leaves.dmr mode switches hart
      exact absurd after (by simp [SafeFsm.next, settles.next])
    · exact stays

theorem voter (confined : Confined fsm) (enabled : fsm.tmrVoterEnableO inp = true) :
    fsm.ctrlSafe = .tmrMode ∨ fsm.ctrlSafe = .boot := by
  simp only [SafeFsm.tmrVoterEnableO, Bool.or_eq_true, HartWires.any_eq_true_iff] at enabled
  rcases enabled with ⟨hart, enabled⟩ | general
  · rw [SafeFsm.tmr, tmrOut_voterEnable] at enabled
    exact Or.inl (confined.tmr hart enabled)
  · cases mode : fsm.ctrlSafe <;> simp_all [safeOut]

theorem comparator (confined : Confined fsm) (enabled : fsm.dmrComparatorEnableO inp = true) :
    fsm.ctrlSafe = .dmrMode := by
  simp only [SafeFsm.dmrComparatorEnableO, HartWires.any_eq_true_iff] at enabled
  obtain ⟨hart, enabled⟩ := enabled
  exact confined.dmr hart (engaged_of_dualMode enabled)

theorem modesExclude (confined : Confined fsm) : ModesExclude fsm inp := by
  constructor
  · rintro ⟨voting, comparing⟩
    have dual := confined.comparator comparing
    rcases confined.voter voting with triple | boot
    · simp [dual] at triple
    · simp [dual] at boot
  · intro single
    constructor
    · rw [← Bool.not_eq_true]
      intro voting
      rcases confined.voter voting with triple | boot
      · simp [single] at triple
      · simp [single] at boot
    · rw [← Bool.not_eq_true]
      intro comparing
      have dual := confined.comparator comparing
      simp [single] at dual

end Confined

/-- A run whose machines leave together keeps every engaged machine in its mode. -/
theorem confined_run (inputs : Nat → FsmIn)
    (leaves : ∀ cycle, LeavesTogether (safeFsm.run inputs cycle) (inputs cycle)) (cycle : Nat) :
    Confined (safeFsm.run inputs cycle) := by
  induction cycle with
  | zero => exact confined_reset
  | succ cycle ih => exact ih.next (leaves cycle)

/-- In every run from reset in which the machines of a protected mode leave it
together, the modes exclude each other in every cycle. -/
theorem modes_exclude_when_left_together (inputs : Nat → FsmIn)
    (leaves : ∀ cycle, LeavesTogether (safeFsm.run inputs cycle) (inputs cycle)) (cycle : Nat) :
    ModesExclude (safeFsm.run inputs cycle) (inputs cycle) :=
  (confined_run inputs leaves cycle).modesExclude

/-! ## A hart that never acknowledges its halt -/

/-- The three harts awake and started under `configuration`, with hart 0 the
master. -/
def trioIn (configuration : BitVec 2) : FsmIn where
  dmrMask := fun _ => false
  tmrCriticalSection := false
  safeConfiguration := configuration
  initialSyncMaster := false
  haltAck := fun _ => false
  hartWfi := fun _ => false
  hartIntcAck := fun _ => false
  masterCore := oneHot 0
  tmrError := false
  dmrError := fun _ => false
  start := true
  endSwRoutine := false

/-- Power-on and entry into triple redundancy: every hart sleeps in cycle 1, the
harts of `acknowledging` acknowledge in cycle 4 and run from cycle 6.  From
cycle 6 the configuration is `00` and every hart sleeps. -/
def trioReleased (acknowledging : HartWires) : Nat → FsmIn
  | 0 | 2 | 3 | 5 => trioIn 0b01#2
  | 1 => { trioIn 0b01#2 with hartWfi := fun _ => true }
  | 4 => { trioIn 0b01#2 with haltAck := acknowledging }
  | _ => { trioIn 0b00#2 with hartWfi := fun _ => true }

set_option maxRecDepth 4000 in
/-- From cycle 8 the software of the master runs alone. -/
theorem trioReleased_single (later : Nat) :
    (safeFsm.run (trioReleased fun _ => true) (later + 9)).ctrlSafe = .singleMode ∧
      (safeFsm.run (trioReleased fun _ => true) (later + 9)).ctrlSingle = .run := by
  induction later with
  | zero => exact ⟨by decide, by decide⟩
  | succ later ih =>
    rw [Nat.add_right_comm, Synchronous.Machine.run_succ]
    generalize safeFsm.run (trioReleased fun _ => true) (later + 9) = fsm at ih ⊢
    obtain ⟨top, single⟩ := ih
    simp [safeFsm, SafeFsm.next, SafeFsm.ctrlSafeNext, SafeFsm.ctrlSingleNext, top, single,
      trioReleased, trioIn, HartWires.none, HartWires.any, dualConfigured]

set_option maxRecDepth 8000 in
/-- Three acknowledging harts leave together, into single mode with the voter
off. -/
theorem trioReleased_excludes :
    (safeFsm.run (trioReleased fun _ => true) 8).ctrlSafe = .singleMode ∧
      ModesExclude (safeFsm.run (trioReleased fun _ => true) 8) (trioReleased (fun _ => true) 8) := by
  refine ⟨by decide, modes_exclude_when_left_together _ ?_ 8⟩
  intro cycle
  match cycle with
  | 0 | 1 | 2 | 3 | 4 | 5 | 6 =>
    exact ⟨fun _ switches => absurd switches (by decide), fun mode => absurd mode (by decide)⟩
  | 7 =>
    refine ⟨fun _ _ hart => Or.inl ?_, fun mode => absurd mode (by decide)⟩
    fin_cases hart <;> rfl
  | 8 => exact ⟨fun mode => absurd mode (by decide), fun mode => absurd mode (by decide)⟩
  | later + 9 =>
    have top := (trioReleased_single later).1
    exact ⟨fun mode => by simp [top] at mode, fun mode => by simp [top] at mode⟩

set_option maxRecDepth 8000 in
/-- Hart 2 sleeps and never acknowledges: the other two take the top machine to
SINGLE_MODE while its machine still votes. -/
theorem lagging_hart_votes_in_single_mode :
    ¬∀ (inputs : Nat → FsmIn) (cycle : Nat),
      ModesExclude (safeFsm.run inputs cycle) (inputs cycle) := by
  intro claimed
  have excluded := claimed (trioReleased fun hart => decide (hart ≠ 2)) 8
  have voting := (excluded.2 (by decide)).1
  exact absurd voting (by decide)

end Eros
