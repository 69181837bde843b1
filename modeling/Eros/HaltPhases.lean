import Eros.FsmPhases

/-!
# The phases in which a machine holds its hart halted

A TMR or DMR machine halts its hart to boot it, to switch it out of single mode
or to recover it.  The reason is not stored: software sees the present states of
all machines.  They tell it apart as long as no two machines are in different
phases and the top machine keeps to a mode that fits.
-/

set_option autoImplicit false

namespace Eros

inductive HaltPhase
  | booting | switching | recovering
  deriving DecidableEq, Repr

def CtrlTmrFsm.phase : CtrlTmrFsm → Option HaltPhase
  | .start | .boot => some .booting
  | .shHalt | .waitSh => some .switching
  | _ => none

def CtrlDmrFsm.phase : CtrlDmrFsm → Option HaltPhase
  | .start | .boot => some .booting
  | .shHalt | .waitSh => some .switching
  | .intcRecovery | .recovery => some .recovering
  | _ => none

namespace SafeFsm
variable (fsm : SafeFsm) (inp : FsmIn) (hart : Hart) (phase : HaltPhase)

def OwnPhase : Prop :=
  (fsm.ctrlTmr hart).phase = some phase ∨ (fsm.ctrlDmr hart).phase = some phase

instance : Decidable (fsm.OwnPhase hart phase) := inferInstanceAs (Decidable (_ ∨ _))

def InPhase : Prop := ∃ hart, fsm.OwnPhase hart phase

/-- The phase a machine that leaves IDLE goes to. -/
def startPhase : HaltPhase := if (fsm.single inp).enableSwitch then .switching else .booting

/-- The phase the TMR machine of `hart` enters in this cycle. -/
def tmrEnters : Option HaltPhase :=
  match fsm.ctrlTmr hart with
  | .idle => if fsm.tmrStarts inp hart then some (fsm.startPhase inp) else none
  | _ => none

def dmrEnters : Option HaltPhase :=
  match fsm.ctrlDmr hart with
  | .idle => if fsm.dmrStarts inp hart then some (fsm.startPhase inp) else none
  | .stop => if inp.hartWfi.all then some .recovering else none
  | _ => none

def EntersPhase : Prop :=
  ∃ hart, fsm.tmrEnters inp hart = some phase ∨ fsm.dmrEnters inp hart = some phase

def returnsIdle : Prop :=
  inp.start = false ∧
    ((fsm.ctrlSafe = .singleMode ∧ fsm.ctrlSingle = .idle) ∨
      (fsm.ctrlSafe = .tmrMode ∧ ∀ hart, fsm.ctrlTmr hart = .idle) ∨
      (fsm.ctrlSafe = .dmrMode ∧ ∀ hart, fsm.ctrlDmr hart = .idle))

def asksSingle : Prop :=
  (fsm.ctrlSafe = .tmrMode ∧ (fsm.switchTmrToSingle inp).any = true) ∨
    (fsm.ctrlSafe = .dmrMode ∧ (fsm.switchDmrToSingle inp).any = true)

end SafeFsm

/-! ## One step of a machine -/

section Step
variable {fsm : SafeFsm} {inp : FsmIn} {hart : Hart} {phase : HaltPhase}

theorem ctrlTmrNext_phase (after : (fsm.ctrlTmrNext inp hart).phase = some phase) :
    (fsm.ctrlTmr hart).phase = some phase ∨ fsm.tmrEnters inp hart = some phase := by
  cases state : fsm.ctrlTmr hart with
  | idle =>
    right
    cases starts : fsm.tmrStarts inp hart with
    | false =>
      rw [ctrlTmrNext_of_idle state starts] at after
      simp [CtrlTmrFsm.phase] at after
    | true =>
      simp only [SafeFsm.tmrStarts, Bool.and_eq_true, Bool.or_eq_true, decide_eq_true_eq] at starts
      obtain ⟨⟨mode, started⟩, switch⟩ := starts
      cases enabled : (fsm.single inp).enableSwitch <;>
        simp_all [SafeFsm.ctrlTmrNext, SafeFsm.tmrEnters, SafeFsm.tmrStarts, SafeFsm.startPhase,
          CtrlTmrFsm.phase]
  | start | boot | shHalt =>
    left
    simp only [SafeFsm.ctrlTmrNext, state] at after
    split_ifs at after
    all_goals first
      | exact after
      | simp [CtrlTmrFsm.phase] at after
  | waitSh =>
    left
    simp only [SafeFsm.ctrlTmrNext, state] at after
    split_ifs at after
    · simp [CtrlTmrFsm.phase] at after
    · exact after
  | reset | toSingle => simp [SafeFsm.ctrlTmrNext, state, CtrlTmrFsm.phase] at after
  | msIntrSync | sync | endSync | syncIntc | swSync =>
    simp only [SafeFsm.ctrlTmrNext, state] at after
    split_ifs at after <;> simp [CtrlTmrFsm.phase] at after

theorem ctrlDmrNext_phase (after : (fsm.ctrlDmrNext inp hart).phase = some phase) :
    (fsm.ctrlDmr hart).phase = some phase ∨ fsm.dmrEnters inp hart = some phase := by
  cases state : fsm.ctrlDmr hart with
  | idle =>
    right
    cases starts : fsm.dmrStarts inp hart with
    | false =>
      rw [ctrlDmrNext_of_idle state starts] at after
      simp [CtrlDmrFsm.phase] at after
    | true =>
      simp only [SafeFsm.dmrStarts, Bool.and_eq_true, Bool.or_eq_true, decide_eq_true_eq] at starts
      obtain ⟨⟨⟨mode, started⟩, masked⟩, switch⟩ := starts
      cases enabled : (fsm.single inp).enableSwitch <;>
        simp_all [SafeFsm.ctrlDmrNext, SafeFsm.dmrEnters, SafeFsm.dmrStarts, SafeFsm.startPhase,
          CtrlDmrFsm.phase]
  | start | boot | shHalt | intcRecovery | recovery =>
    left
    simp only [SafeFsm.ctrlDmrNext, state] at after
    split_ifs at after
    all_goals first
      | exact after
      | simp [CtrlDmrFsm.phase] at after
  | waitSh =>
    left
    simp only [SafeFsm.ctrlDmrNext, state] at after
    split_ifs at after
    · simp [CtrlDmrFsm.phase] at after
    · exact after
  | stop =>
    right
    simp only [SafeFsm.ctrlDmrNext, state] at after
    split_ifs at after with asleep
    · simpa [SafeFsm.dmrEnters, state, asleep, CtrlDmrFsm.phase] using after
    · simp [CtrlDmrFsm.phase] at after
  | reset | toSingle => simp [SafeFsm.ctrlDmrNext, state, CtrlDmrFsm.phase] at after
  | msIntrSync | sync | endSync =>
    simp only [SafeFsm.ctrlDmrNext, state] at after
    split_ifs at after <;> simp [CtrlDmrFsm.phase] at after

theorem ctrlTmrNext_phase_kept (acked : inp.haltAck hart = true)
    (awake : inp.hartWfi.all = false) (now : (fsm.ctrlTmr hart).phase = some phase) :
    (fsm.ctrlTmrNext inp hart).phase = some phase := by
  cases state : fsm.ctrlTmr hart with
  | start | boot | waitSh =>
    simp only [SafeFsm.ctrlTmrNext, state, acked, awake]
    simpa [state, CtrlTmrFsm.phase] using now
  | shHalt =>
    simp only [SafeFsm.ctrlTmrNext, state]
    split_ifs <;> simpa [state, CtrlTmrFsm.phase] using now
  | reset | idle | msIntrSync | sync | endSync | toSingle | syncIntc | swSync =>
    simp [state, CtrlTmrFsm.phase] at now

theorem ctrlDmrNext_phase_kept (acked : inp.haltAck hart = true)
    (awake : inp.hartWfi.all = false) (now : (fsm.ctrlDmr hart).phase = some phase) :
    (fsm.ctrlDmrNext inp hart).phase = some phase := by
  cases state : fsm.ctrlDmr hart with
  | start | boot | waitSh | intcRecovery | recovery =>
    simp only [SafeFsm.ctrlDmrNext, state, acked, awake]
    simpa [state, CtrlDmrFsm.phase] using now
  | shHalt =>
    simp only [SafeFsm.ctrlDmrNext, state]
    split_ifs <;> simpa [state, CtrlDmrFsm.phase] using now
  | reset | idle | msIntrSync | sync | endSync | toSingle | stop =>
    simp [state, CtrlDmrFsm.phase] at now

theorem ownPhase_kept (acked : inp.haltAck hart = true) (awake : inp.hartWfi.all = false)
    (now : fsm.OwnPhase hart phase) : (fsm.next inp).OwnPhase hart phase := by
  rcases now with tmr | dmr
  · exact Or.inl (ctrlTmrNext_phase_kept acked awake tmr)
  · exact Or.inr (ctrlDmrNext_phase_kept acked awake dmr)

theorem inPhase_next (after : (fsm.next inp).InPhase phase) :
    fsm.InPhase phase ∨ fsm.EntersPhase inp phase := by
  obtain ⟨hart, tmr | dmr⟩ := after
  · rcases ctrlTmrNext_phase tmr with before | enters
    · exact Or.inl ⟨hart, Or.inl before⟩
    · exact Or.inr ⟨hart, Or.inl enters⟩
  · rcases ctrlDmrNext_phase dmr with before | enters
    · exact Or.inl ⟨hart, Or.inr before⟩
    · exact Or.inr ⟨hart, Or.inr enters⟩

theorem mode_of_entersPhase (enters : fsm.EntersPhase inp phase) :
    phase = .recovering ∨ fsm.ctrlSafe = .tmrMode ∨ fsm.ctrlSafe = .dmrMode := by
  obtain ⟨hart, tmr | dmr⟩ := enters
  · simp only [SafeFsm.tmrEnters] at tmr
    split at tmr
    · split_ifs at tmr with starts
      simp only [SafeFsm.tmrStarts, Bool.and_eq_true, decide_eq_true_eq] at starts
      exact Or.inr (Or.inl starts.1.1)
    · simp at tmr
  · simp only [SafeFsm.dmrEnters] at dmr
    split at dmr
    · split_ifs at dmr with starts
      simp only [SafeFsm.dmrStarts, Bool.and_eq_true, decide_eq_true_eq] at starts
      exact Or.inr (Or.inr starts.1.1.1)
    · split_ifs at dmr
      exact Or.inl (by simpa using dmr.symm)
    · simp at dmr

end Step

/-! ## The invariant -/

/-- What a cycle must not do to the phases. -/
structure PhasesKept (fsm : SafeFsm) (inp : FsmIn) : Prop where
  /-- A machine enters a phase that no other one contradicts. -/
  alone : ∀ phase other, fsm.EntersPhase inp phase →
    fsm.InPhase other ∨ fsm.EntersPhase inp other → phase = other
  /-- The top machine returns to IDLE with no hart held. -/
  idle : fsm.returnsIdle inp → ∀ phase, ¬fsm.InPhase phase ∧ ¬fsm.EntersPhase inp phase
  /-- The top machine goes to SINGLE_MODE with no hart held but to boot. -/
  single : fsm.asksSingle inp → ∀ phase, fsm.InPhase phase ∨ fsm.EntersPhase inp phase →
    phase = .booting
  /-- Recovery begins in a protected mode. -/
  recovery : fsm.EntersPhase inp .recovering →
    fsm.ctrlSafe = .tmrMode ∨ fsm.ctrlSafe = .dmrMode

/-- One phase at a time, in a mode that fits. -/
structure PhasesSafe (fsm : SafeFsm) : Prop where
  one : ∀ phase other, fsm.InPhase phase → fsm.InPhase other → phase = other
  mode : ∀ phase, fsm.InPhase phase →
    (fsm.ctrlSafe = .tmrMode ∨ fsm.ctrlSafe = .dmrMode) ∨
      (fsm.ctrlSafe = .singleMode ∧ phase = .booting)

theorem phasesSafe_reset : PhasesSafe .reset := by
  have none_ : ∀ phase, ¬SafeFsm.reset.InPhase phase := by
    rintro phase ⟨hart, tmr | dmr⟩
    · simp [SafeFsm.reset, CtrlTmrFsm.phase] at tmr
    · simp [SafeFsm.reset, CtrlDmrFsm.phase] at dmr
  exact ⟨fun phase _ held _ => absurd held (none_ phase),
    fun phase held => absurd held (none_ phase)⟩

namespace PhasesSafe
variable {fsm : SafeFsm} {inp : FsmIn}

theorem next (safe : PhasesSafe fsm) (kept : PhasesKept fsm inp) : PhasesSafe (fsm.next inp) where
  one phase other first second := by
    rcases inPhase_next first with now | enters
    · rcases inPhase_next second with otherNow | otherEnters
      · exact safe.one phase other now otherNow
      · exact (kept.alone other phase otherEnters (Or.inl now)).symm
    · exact kept.alone phase other enters (inPhase_next second)
  mode phase after := by
    have held := inPhase_next after
    have mode : (fsm.ctrlSafe = .tmrMode ∨ fsm.ctrlSafe = .dmrMode) ∨
        (fsm.ctrlSafe = .singleMode ∧ phase = .booting) := by
      rcases held with now | enters
      · exact safe.mode phase now
      · rcases mode_of_entersPhase enters with rfl | protected_
        · exact Or.inl (kept.recovery enters)
        · exact Or.inl protected_
    have noReturn : ¬fsm.returnsIdle inp := by
      intro returns
      rcases held with now | enters
      · exact (kept.idle returns phase).1 now
      · exact (kept.idle returns phase).2 enters
    change (fsm.ctrlSafeNext inp = .tmrMode ∨ fsm.ctrlSafeNext inp = .dmrMode) ∨
      (fsm.ctrlSafeNext inp = .singleMode ∧ phase = .booting)
    rcases mode with (triple | dual) | ⟨single, booting⟩
    · rcases ctrlSafeNext_of_tmrMode inp triple with ⟨_, stopped, idle⟩ | ⟨left, asks⟩ | stays
      · exact absurd ⟨stopped, Or.inr (Or.inl ⟨triple, idle⟩)⟩ noReturn
      · exact Or.inr ⟨left, kept.single (Or.inl ⟨triple, asks⟩) phase held⟩
      · exact Or.inl (Or.inl stays)
    · rcases ctrlSafeNext_of_dmrMode inp dual with ⟨_, stopped, idle⟩ | ⟨left, asks⟩ | stays
      · exact absurd ⟨stopped, Or.inr (Or.inr ⟨dual, idle⟩)⟩ noReturn
      · exact Or.inr ⟨left, kept.single (Or.inr ⟨dual, asks⟩) phase held⟩
      · exact Or.inl (Or.inr stays)
    · rcases ctrlSafeNext_of_singleMode inp single with ⟨_, stopped, idle⟩ | ⟨_, _, left⟩ | stays
      · exact absurd ⟨stopped, Or.inl ⟨single, idle⟩⟩ noReturn
      · exact Or.inl left
      · exact Or.inr ⟨stays, booting⟩

end PhasesSafe

/-! ## What software sees of a phase -/

section Outputs
variable {fsm : SafeFsm} {inp : FsmIn}

theorem startBootO_iff :
    fsm.startBootO inp = true ↔ fsm.ctrlSafe = .singleMode ∨ fsm.InPhase .booting := by
  have tmr : ∀ hart, (fsm.tmr inp hart).boot = true ↔ (fsm.ctrlTmr hart).phase = some .booting := by
    intro hart
    rw [SafeFsm.tmr, tmrOut_boot]
    cases fsm.ctrlTmr hart <;> simp [CtrlTmrFsm.phase]
  have dmr : ∀ hart, (fsm.dmr inp hart).boot = true ↔ (fsm.ctrlDmr hart).phase = some .booting := by
    intro hart
    rw [SafeFsm.dmr, dmrOut_boot]
    cases fsm.ctrlDmr hart <;> simp [CtrlDmrFsm.phase]
  have top : (safeOut fsm.ctrlSafe).singleBoot = true ↔ fsm.ctrlSafe = .singleMode := by
    cases fsm.ctrlSafe <;> simp [safeOut]
  simp only [SafeFsm.startBootO, Bool.or_eq_true, HartWires.any_eq_true_iff, tmr, dmr, top,
    SafeFsm.InPhase, SafeFsm.OwnPhase, exists_or, or_assoc]

theorem dmrRecO_iff : fsm.dmrRecO inp = true ↔ fsm.InPhase .recovering := by
  have tmr : ∀ hart, (fsm.ctrlTmr hart).phase ≠ some .recovering := by
    intro hart
    cases fsm.ctrlTmr hart <;> simp [CtrlTmrFsm.phase]
  have dmr : ∀ hart,
      (fsm.dmr inp hart).dmrRec = true ↔ (fsm.ctrlDmr hart).phase = some .recovering := by
    intro hart
    rw [SafeFsm.dmr, dmrOut_dmrRec]
    cases fsm.ctrlDmr hart <;> simp [CtrlDmrFsm.phase]
  simp only [SafeFsm.dmrRecO, HartWires.any_eq_true_iff, dmr, SafeFsm.InPhase, SafeFsm.OwnPhase,
    tmr, false_or]

theorem enExtDebugReqO_iff : fsm.enExtDebugReqO = true ↔ fsm.ctrlSafe = .idle := by
  unfold SafeFsm.enExtDebugReqO
  cases fsm.ctrlSafe <;> simp [safeOut]

end Outputs

end Eros
