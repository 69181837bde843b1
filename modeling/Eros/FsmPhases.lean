import Eros.ModeExit

/-!
# What a step of a protected machine can do

A TMR or DMR machine is engaged between leaving IDLE and reaching END_SYNC.  It
becomes engaged by one step only, from IDLE while the top machine is in its
mode, and the top machine leaves a protected mode in two ways: to IDLE once all
its machines are in IDLE, or to SINGLE_MODE as soon as one machine asks for it.
-/

set_option autoImplicit false

namespace Eros

theorem HartWires.all_eq_true_iff (wires : HartWires) :
    wires.all = true ↔ ∀ hart, wires hart = true := by
  unfold HartWires.all
  constructor
  · intro every hart
    rw [Bool.and_eq_true, Bool.and_eq_true] at every
    fin_cases hart
    · exact every.1.1
    · exact every.1.2
    · exact every.2
  · intro every
    simp [every]

/-- The states in which a TMR machine enables the voter. -/
def CtrlTmrFsm.engaged : CtrlTmrFsm → Bool
  | .reset | .idle | .endSync | .toSingle => false
  | _ => true

def CtrlDmrFsm.engaged : CtrlDmrFsm → Bool
  | .reset | .idle | .endSync | .toSingle => false
  | _ => true

theorem tmrOut_voterEnable (isMaster : Bool) (state : CtrlTmrFsm) :
    (tmrOut isMaster state).voterEnable = state.engaged := by
  cases state <;> rfl

/-- DMR_SH_HALT and DMR_WAIT_SH are engaged without comparing. -/
theorem engaged_of_dualMode {isMaster lockstep : Bool} {state : CtrlDmrFsm}
    (compares : (dmrOut isMaster lockstep state).dualMode = true) : state.engaged = true := by
  cases state <;> simp_all [dmrOut, DmrOut.default, CtrlDmrFsm.engaged]

theorem dmrComparatorEnableO_of_machine {fsm : SafeFsm} {inp : FsmIn} (hart : Hart)
    (compares : (fsm.dmr inp hart).dualMode = true) : fsm.dmrComparatorEnableO inp = true := by
  unfold SafeFsm.dmrComparatorEnableO
  rw [HartWires.any_eq_true_iff]
  exact ⟨hart, compares⟩

theorem tmrOut_boot {isMaster : Bool} {state : CtrlTmrFsm} :
    (tmrOut isMaster state).boot = true ↔ state = .start ∨ state = .boot := by
  cases state <;> simp [tmrOut, TmrOut.zero]

theorem dmrOut_wfiDmr {isMaster lockstep : Bool} {state : CtrlDmrFsm} :
    (dmrOut isMaster lockstep state).wfiDmr = true ↔ state = .stop := by
  cases state <;> simp [dmrOut, DmrOut.default]

theorem dmrOut_boot {isMaster lockstep : Bool} {state : CtrlDmrFsm} :
    (dmrOut isMaster lockstep state).boot = true ↔ state = .start ∨ state = .boot := by
  cases state <;> simp [dmrOut, DmrOut.default]

theorem dmrOut_dmrRec {isMaster lockstep : Bool} {state : CtrlDmrFsm} :
    (dmrOut isMaster lockstep state).dmrRec = true ↔
      state = .intcRecovery ∨ state = .recovery := by
  cases state <;> simp [dmrOut, DmrOut.default]

namespace SafeFsm
variable (fsm : SafeFsm) (inp : FsmIn) (hart : Hart)

def tmrStarts : Bool :=
  decide (fsm.ctrlSafe = .tmrMode) && inp.start &&
    (!(fsm.single inp).enableSwitch || fsm.switchesIn inp hart)

def dmrStarts : Bool :=
  decide (fsm.ctrlSafe = .dmrMode) && inp.start && inp.dmrMask hart &&
    (!(fsm.single inp).enableSwitch || fsm.switchesIn inp hart)

/-- A machine in TMR_SYNC leaves for IDLE or END_SYNC. -/
def tmrEnds (inp : FsmIn) : Bool :=
  inp.hartWfi.all && (inp.endSwRoutine || inp.safeConfiguration != 0b01#2)

end SafeFsm

section Step
variable {fsm : SafeFsm} {inp : FsmIn} {hart : Hart}

theorem ctrlTmrNext_of_idle (idle : fsm.ctrlTmr hart = .idle)
    (stays : fsm.tmrStarts inp hart = false) : fsm.ctrlTmrNext inp hart = .idle := by
  simp only [SafeFsm.ctrlTmrNext, idle]
  cases top : decide (fsm.ctrlSafe = .tmrMode) <;> cases started : inp.start <;>
    cases enabled : (fsm.single inp).enableSwitch <;> simp_all [SafeFsm.tmrStarts]

theorem ctrlDmrNext_of_idle (idle : fsm.ctrlDmr hart = .idle)
    (stays : fsm.dmrStarts inp hart = false) : fsm.ctrlDmrNext inp hart = .idle := by
  simp only [SafeFsm.ctrlDmrNext, idle]
  cases top : decide (fsm.ctrlSafe = .dmrMode) <;> cases started : inp.start <;>
    cases masked : inp.dmrMask hart <;> cases enabled : (fsm.single inp).enableSwitch <;>
      simp_all [SafeFsm.dmrStarts]

theorem ctrlTmrNext_engaged (after : (fsm.ctrlTmrNext inp hart).engaged = true) :
    ((fsm.ctrlTmr hart).engaged = true ∧
        (fsm.ctrlTmr hart = .sync → SafeFsm.tmrEnds inp = false)) ∨
      (fsm.ctrlTmr hart = .idle ∧ fsm.tmrStarts inp hart = true) := by
  cases state : fsm.ctrlTmr hart with
  | idle =>
    refine Or.inr ⟨rfl, ?_⟩
    rw [← Bool.not_eq_false]
    intro stays
    rw [ctrlTmrNext_of_idle state stays] at after
    simp [CtrlTmrFsm.engaged] at after
  | reset | toSingle => simp [SafeFsm.ctrlTmrNext, state, CtrlTmrFsm.engaged] at after
  | endSync =>
    simp only [SafeFsm.ctrlTmrNext, state] at after
    split_ifs at after <;> simp [CtrlTmrFsm.engaged] at after
  | sync =>
    refine Or.inl ⟨rfl, fun _ => ?_⟩
    simp only [SafeFsm.ctrlTmrNext, state] at after
    cases asleep : inp.hartWfi.all <;> cases ended : inp.endSwRoutine <;>
      cases configured : inp.safeConfiguration != 0b01#2 <;>
        simp_all [SafeFsm.tmrEnds, CtrlTmrFsm.engaged]
  | start | boot | shHalt | waitSh | msIntrSync | syncIntc | swSync =>
    exact Or.inl ⟨rfl, fun sync => by simp at sync⟩

theorem ctrlDmrNext_engaged (after : (fsm.ctrlDmrNext inp hart).engaged = true) :
    ((fsm.ctrlDmr hart).engaged = true ∧
        (fsm.ctrlDmr hart = .sync → inp.hartWfi.all = false)) ∨
      (fsm.ctrlDmr hart = .idle ∧ fsm.dmrStarts inp hart = true) := by
  cases state : fsm.ctrlDmr hart with
  | idle =>
    refine Or.inr ⟨rfl, ?_⟩
    rw [← Bool.not_eq_false]
    intro stays
    rw [ctrlDmrNext_of_idle state stays] at after
    simp [CtrlDmrFsm.engaged] at after
  | reset | toSingle => simp [SafeFsm.ctrlDmrNext, state, CtrlDmrFsm.engaged] at after
  | endSync =>
    simp only [SafeFsm.ctrlDmrNext, state] at after
    split_ifs at after <;> simp [CtrlDmrFsm.engaged] at after
  | sync =>
    refine Or.inl ⟨rfl, fun _ => ?_⟩
    simp only [SafeFsm.ctrlDmrNext, state, dmr_configuration_test] at after
    cases asleep : inp.hartWfi.all <;> cases ended : inp.endSwRoutine <;>
      simp_all [CtrlDmrFsm.engaged]
  | start | boot | shHalt | waitSh | msIntrSync | stop | intcRecovery | recovery =>
    exact Or.inl ⟨rfl, fun sync => by simp at sync⟩

theorem ctrlSafeNext_of_tmrMode (inp : FsmIn) (mode : fsm.ctrlSafe = .tmrMode) :
    (fsm.ctrlSafeNext inp = .idle ∧ inp.start = false ∧ ∀ other, fsm.ctrlTmr other = .idle) ∨
      (fsm.ctrlSafeNext inp = .singleMode ∧ (fsm.switchTmrToSingle inp).any = true) ∨
      fsm.ctrlSafeNext inp = .tmrMode := by
  simp only [SafeFsm.ctrlSafeNext, mode]
  split_ifs with returns switches
  · rw [Bool.and_eq_true, HartWires.all_eq_true_iff] at returns
    exact Or.inl ⟨rfl, by simpa using returns.2, fun other => by simpa using returns.1 other⟩
  · exact Or.inr (Or.inl ⟨rfl, switches⟩)
  · exact Or.inr (Or.inr rfl)

theorem ctrlSafeNext_of_dmrMode (inp : FsmIn) (mode : fsm.ctrlSafe = .dmrMode) :
    (fsm.ctrlSafeNext inp = .idle ∧ inp.start = false ∧ ∀ other, fsm.ctrlDmr other = .idle) ∨
      (fsm.ctrlSafeNext inp = .singleMode ∧ (fsm.switchDmrToSingle inp).any = true) ∨
      fsm.ctrlSafeNext inp = .dmrMode := by
  simp only [SafeFsm.ctrlSafeNext, mode]
  split_ifs with returns switches
  · rw [Bool.and_eq_true, HartWires.all_eq_true_iff] at returns
    exact Or.inl ⟨rfl, by simpa using returns.2, fun other => by simpa using returns.1 other⟩
  · exact Or.inr (Or.inl ⟨rfl, switches⟩)
  · exact Or.inr (Or.inr rfl)

theorem ctrlSafeNext_of_singleMode (inp : FsmIn) (mode : fsm.ctrlSafe = .singleMode) :
    (fsm.ctrlSafeNext inp = .idle ∧ inp.start = false ∧ fsm.ctrlSingle = .idle) ∨
      (inp.start = true ∧ inp.safeConfiguration ≠ 0b00#2 ∧
        (fsm.ctrlSafeNext inp = .tmrMode ∨ fsm.ctrlSafeNext inp = .dmrMode)) ∨
      fsm.ctrlSafeNext inp = .singleMode := by
  simp only [SafeFsm.ctrlSafeNext, mode]
  split_ifs with returns triple dual
  · simp only [Bool.and_eq_true, Bool.not_eq_true', decide_eq_true_eq] at returns
    exact Or.inl ⟨rfl, returns⟩
  · simp only [Bool.and_eq_true, beq_iff_eq] at triple
    exact Or.inr (Or.inl ⟨triple.1, by simp [triple.2], Or.inl rfl⟩)
  · simp only [Bool.and_eq_true, dualConfigured, Bool.or_eq_true, beq_iff_eq] at dual
    refine Or.inr (Or.inl ⟨dual.1, ?_, Or.inr rfl⟩)
    rcases dual.2 with direct | delayed
    · simp [direct]
    · simp [delayed]
  · exact Or.inr (Or.inr rfl)

end Step

end Eros
