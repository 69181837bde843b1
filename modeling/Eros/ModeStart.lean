import Eros.Lib.Progress
import Eros.ErrorHistory
import Eros.QuiescentIdle

/-!
# A configured mode is reached

From IDLE, with `Start` up, the state machine halts the harts of the configured
mode, lets them boot and runs.  It waits for the harts only, so it reaches the mode
within a bound that the harts' answers give.
-/

set_option autoImplicit false

namespace Eros

open Progress (Throughout Soon LeadsTo)

/-! ## The harts -/

/-- A hart halts only when it is asked to. -/
def HaltsWhenAsked (inputs : Nat → FsmIn) : Prop :=
  ∀ hart cycle, (inputs (cycle + 1)).haltAck hart = true →
    (inputs cycle).haltAck hart = true ∨
      (safeFsm.run inputs cycle).interruptHaltO (inputs cycle) hart = true

/-- The harts answer the state machine within `delay` cycles, each on its own. -/
structure HartsAnswer (inputs : Nat → FsmIn) (delay : Nat) : Prop where
  halts : ∀ hart cycle, Throughout delay cycle (fun later =>
      (safeFsm.run inputs later).interruptHaltO (inputs later) hart = true) →
    Soon delay cycle fun later => (inputs later).haltAck hart
  resumes : ∀ hart cycle, Throughout delay cycle (fun later =>
      (safeFsm.run inputs later).interruptHaltO (inputs later) hart = false) →
    Soon delay cycle fun later => !(inputs later).haltAck hart
  asked : HaltsWhenAsked inputs

/-- From `first` on software keeps the mode running. -/
structure KeptRunning (inputs : Nat → FsmIn) (configuration : BitVec 2) (first : Nat) : Prop where
  start : ∀ cycle, first ≤ cycle → (inputs cycle).start = true
  endSw : ∀ cycle, first ≤ cycle → (inputs cycle).endSwRoutine = false
  configured : ∀ cycle, first ≤ cycle → (inputs cycle).safeConfiguration = configuration

/-! ## Halting and resuming a hart -/

/-- From `first` on a machine asks `hart` to halt in the state `asking`, waits in
`halted` for it to run again, and is then in `resumed` for good. -/
structure HaltRound {State : Type} (inputs : Nat → FsmIn) (machine : SafeFsm → State)
    (hart : Hart) (first : Nat) (asking halted resumed : State) : Prop where
  asks : ∀ cycle, first ≤ cycle → machine (safeFsm.run inputs cycle) = asking →
    (safeFsm.run inputs cycle).interruptHaltO (inputs cycle) hart = true ∧
      machine (safeFsm.run inputs (cycle + 1)) =
        if (inputs cycle).haltAck hart then halted else asking
  releases : ∀ cycle, first ≤ cycle → machine (safeFsm.run inputs cycle) = halted →
    (safeFsm.run inputs cycle).interruptHaltO (inputs cycle) hart = false ∧
      machine (safeFsm.run inputs (cycle + 1)) =
        if (inputs cycle).haltAck hart then halted else resumed
  stays : ∀ cycle, first ≤ cycle → machine (safeFsm.run inputs cycle) = resumed →
    machine (safeFsm.run inputs (cycle + 1)) = resumed

section Round
variable {State : Type} {inputs : Nat → FsmIn} {machine : SafeFsm → State} {hart : Hart}
  {first delay : Nat} {asking halted resumed : State}

/-- The machine in `state`, from cycle `first` on. -/
def MachineAt (inputs : Nat → FsmIn) (machine : SafeFsm → State) (first : Nat) (state : State)
    (cycle : Nat) : Prop :=
  first ≤ cycle ∧ machine (safeFsm.run inputs cycle) = state

variable (round : HaltRound inputs machine hart first asking halted resumed)
  (harts : HartsAnswer inputs delay)
include round harts

theorem HaltRound.halts : LeadsTo (delay + 1) (MachineAt inputs machine first asking)
    (MachineAt inputs machine first asking) (MachineAt inputs machine first halted) := by
  refine LeadsTo.of_wait (fun cycle => (inputs cycle).haltAck hart) ?_ ?_ ?_
  · rintro cycle ⟨later, state⟩ quiet
    exact ⟨by omega, ((round.asks cycle later state).2).trans (if_neg (by simp [quiet]))⟩
  · rintro cycle ⟨later, state⟩ acked
    exact ⟨by omega, ((round.asks cycle later state).2).trans (if_pos acked)⟩
  · intro cycle held
    refine harts.halts hart cycle fun between since until_ => ?_
    obtain ⟨later, state⟩ := held between since until_
    exact (round.asks between later state).1

theorem HaltRound.resumes : LeadsTo (delay + 1) (MachineAt inputs machine first halted)
    (MachineAt inputs machine first halted) (MachineAt inputs machine first resumed) := by
  refine LeadsTo.of_wait (fun cycle => !(inputs cycle).haltAck hart) ?_ ?_ ?_
  · rintro cycle ⟨later, state⟩ acked
    rw [Bool.not_eq_false'] at acked
    exact ⟨by omega, ((round.releases cycle later state).2).trans (if_pos acked)⟩
  · rintro cycle ⟨later, state⟩ running
    rw [Bool.not_eq_true'] at running
    exact ⟨by omega, ((round.releases cycle later state).2).trans (if_neg (by simp [running]))⟩
  · intro cycle held
    refine harts.resumes hart cycle fun between since until_ => ?_
    obtain ⟨later, state⟩ := held between since until_
    exact (round.releases between later state).1

theorem HaltRound.completes (starts : machine (safeFsm.run inputs first) = asking) (cycle : Nat)
    (late : first + 2 * delay + 2 ≤ cycle) : machine (safeFsm.run inputs cycle) = resumed := by
  have along : ∀ state cycle, MachineAt inputs machine first state cycle → True :=
    fun _ _ _ => trivial
  have halts := (round.halts harts).weaken le_rfl (along asking)
  have resumes := (round.resumes harts).weaken le_rfl (along halted)
  obtain ⟨later, since, until_, reached, -⟩ := (halts.trans resumes) first ⟨le_rfl, starts⟩
  obtain ⟨rest, rfl⟩ := Nat.exists_eq_add_of_le (show later ≤ cycle by omega)
  clear late until_
  induction rest with
  | zero => exact reached.2
  | succ rest ih => exact round.stays (later + rest) (by omega) ih

end Round

/-! ## A machine that boots -/

section Step
variable {fsm : SafeFsm} {inp : FsmIn} {hart : Hart}

theorem ctrlTmrNext_start (state : fsm.ctrlTmr hart = .start) :
    fsm.ctrlTmrNext inp hart = if inp.haltAck hart then .boot else .start := by
  simp only [SafeFsm.ctrlTmrNext, state]

theorem ctrlTmrNext_boot (state : fsm.ctrlTmr hart = .boot) :
    fsm.ctrlTmrNext inp hart = if inp.haltAck hart then .boot else .sync := by
  simp only [SafeFsm.ctrlTmrNext, state]

theorem ctrlDmrNext_start (state : fsm.ctrlDmr hart = .start) :
    fsm.ctrlDmrNext inp hart = if inp.haltAck hart then .boot else .start := by
  simp only [SafeFsm.ctrlDmrNext, state]

theorem ctrlDmrNext_boot (state : fsm.ctrlDmr hart = .boot) :
    fsm.ctrlDmrNext inp hart = if inp.haltAck hart then .boot else .sync := by
  simp only [SafeFsm.ctrlDmrNext, state]

theorem ctrlTmrNext_of_starts (idle : fsm.ctrlTmr hart = .idle) (mode : fsm.ctrlSafe = .tmrMode)
    (started : inp.start = true) (single : fsm.ctrlSingle = .idle) :
    fsm.ctrlTmrNext inp hart = .start := by
  simp [SafeFsm.ctrlTmrNext, idle, mode, started, SafeFsm.single, singleOut, single]

theorem ctrlDmrNext_of_starts (idle : fsm.ctrlDmr hart = .idle) (mode : fsm.ctrlSafe = .dmrMode)
    (started : inp.start = true) (single : fsm.ctrlSingle = .idle) :
    fsm.ctrlDmrNext inp hart = if inp.dmrMask hart then .start else .idle := by
  cases masked : inp.dmrMask hart <;>
    simp [SafeFsm.ctrlDmrNext, idle, mode, started, SafeFsm.single, singleOut, single, masked]

theorem interruptHaltO_of_quiet (single : (fsm.single inp).singleHaltRequest hart = false)
    (tmr : (fsm.tmr inp hart).dbgHaltReqGeneral = false)
    (dmr : (fsm.dmr inp hart).dbgHaltReqGeneral = false)
    (recovery : (fsm.dmr inp hart).dbgHaltRecovery = false) :
    fsm.interruptHaltO inp hart = false := by
  unfold SafeFsm.interruptHaltO
  rw [single, tmr, dmr, recovery]
  rfl

end Step

def configuredMode (configuration : BitVec 2) : CtrlSafeFsm :=
  if configuration == 0b01#2 then .tmrMode
  else if dualConfigured configuration then .dmrMode
  else .singleMode

theorem dualConfigured_cases : ∀ configuration : BitVec 2,
    configuration = 0b00#2 ∨ configuration = 0b01#2 ∨ dualConfigured configuration = true := by
  decide

theorem configuredMode_of_dual : ∀ configuration : BitVec 2,
    dualConfigured configuration = true → configuredMode configuration = .dmrMode := by
  decide

theorem ctrlSafeNext_of_started {fsm : SafeFsm} {inp : FsmIn} (mode : fsm.ctrlSafe = .idle)
    (started : inp.start = true) :
    fsm.ctrlSafeNext inp = configuredMode inp.safeConfiguration := by
  simp only [SafeFsm.ctrlSafeNext, mode, started, Bool.and_true, configuredMode]
  rcases dualConfigured_cases inp.safeConfiguration with none | triple | dual
  · simp [none, dualConfigured]
  · simp [triple]
  · simp [dual]

theorem mode_entered {inputs : Nat → FsmIn} {configuration : BitVec 2} {first : Nat}
    (kept : KeptRunning inputs configuration first)
    (mode : (safeFsm.run inputs first).ctrlSafe = .idle)
    (quiescent : Quiescent (safeFsm.run inputs first)) :
    (safeFsm.run inputs (first + 1)).ctrlSafe = configuredMode configuration ∧
      Quiescent (safeFsm.run inputs (first + 1)) := by
  refine ⟨?_, quiescent.next (by simp [mode]) (by simp [mode]) (by simp [mode])⟩
  have entered := ctrlSafeNext_of_started mode (kept.start first le_rfl)
  rw [kept.configured first le_rfl] at entered
  exact entered

/-! ## Triple redundancy -/

/-- A TMR machine on its way from START to SYNC. -/
def CtrlTmrFsm.boots : CtrlTmrFsm → Bool
  | .start | .boot | .sync => true
  | _ => false

/-- TMR_MODE while its machines boot. -/
structure TmrBoots (fsm : SafeFsm) : Prop where
  mode : fsm.ctrlSafe = .tmrMode
  single : fsm.ctrlSingle = .idle
  dmr : ∀ hart, fsm.ctrlDmr hart = .idle
  tmr : ∀ hart, (fsm.ctrlTmr hart).boots = true
  forgotten : fsm.tmrErrorFf1 = false

section Triple
variable {fsm : SafeFsm} {inp : FsmIn}

theorem switchTmrToSingle_of_outside (outside : ∀ hart, fsm.ctrlTmr hart ≠ .endSync) :
    (fsm.switchTmrToSingle inp).any = false := by
  rw [← Bool.not_eq_true, HartWires.any_eq_true_iff]
  rintro ⟨hart, asks⟩
  have other := outside hart
  unfold SafeFsm.switchTmrToSingle SafeFsm.tmr at asks
  cases state : fsm.ctrlTmr hart <;> simp_all [tmrOut, TmrOut.zero]

theorem ctrlSafeNext_of_tmrKept (mode : fsm.ctrlSafe = .tmrMode) (started : inp.start = true)
    (outside : ∀ hart, fsm.ctrlTmr hart ≠ .endSync) : fsm.ctrlSafeNext inp = .tmrMode := by
  have kept : (fsm.switchTmrToSingle inp).any = false := switchTmrToSingle_of_outside outside
  simp [SafeFsm.ctrlSafeNext, mode, started, kept]

/-- The voters report no error while a machine is in SYNC. -/
def TmrUndisturbed (fsm : SafeFsm) (inp : FsmIn) : Prop :=
  ∀ hart, fsm.ctrlTmr hart = .sync → inp.tmrError = false

theorem tmrErrorFf1_next_of_undisturbed (undisturbed : TmrUndisturbed fsm inp)
    (forgotten : fsm.tmrErrorFf1 = false) : (fsm.next inp).tmrErrorFf1 = false := by
  have steady : fsm.errorRises inp = false := by
    rw [← Bool.not_eq_true]
    intro rises
    unfold SafeFsm.errorRises at rises
    rw [Bool.and_eq_true, Bool.and_eq_true, HartWires.any_eq_true_iff] at rises
    obtain ⟨⟨⟨hart, sync⟩, error⟩, -⟩ := rises
    rw [undisturbed hart (of_decide_eq_true sync)] at error
    cases error
  by_cases synced : Synced fsm
  · exact (tmrErrorFf_of_synced synced steady).2.trans forgotten
  · exact (tmrErrorFf_of_outside synced steady).2

theorem TmrBoots.sync_next (boots : TmrBoots fsm) (undisturbed : TmrUndisturbed fsm inp)
    (running : inp.endSwRoutine = false) (configured : inp.safeConfiguration = 0b01#2)
    {hart : Hart} (state : fsm.ctrlTmr hart = .sync) : fsm.ctrlTmrNext inp hart = .sync := by
  have accepted : fsm.tmrErrorS inp = false := by
    simp [SafeFsm.tmrErrorS, undisturbed hart state, boots.forgotten]
  simp [SafeFsm.ctrlTmrNext, state, running, configured, accepted]

theorem TmrBoots.next (boots : TmrBoots fsm) (started : inp.start = true)
    (running : inp.endSwRoutine = false) (configured : inp.safeConfiguration = 0b01#2)
    (undisturbed : TmrUndisturbed fsm inp) : TmrBoots (fsm.next inp) where
  mode := by
    refine ctrlSafeNext_of_tmrKept boots.mode started fun hart ended => ?_
    have booting := boots.tmr hart
    rw [ended] at booting
    cases booting
  single := ctrlSingleNext_of_idle boots.single (Or.inl (by simp [boots.mode]))
  dmr hart := ctrlDmrNext_of_otherMode (boots.dmr hart) (by simp [boots.mode])
  tmr hart := by
    change (fsm.ctrlTmrNext inp hart).boots = true
    have booting := boots.tmr hart
    cases state : fsm.ctrlTmr hart with
    | start =>
      rw [ctrlTmrNext_start state]
      split_ifs <;> rfl
    | boot =>
      rw [ctrlTmrNext_boot state]
      split_ifs <;> rfl
    | sync =>
      rw [boots.sync_next undisturbed running configured state]
      rfl
    | reset | idle | shHalt | waitSh | msIntrSync | endSync | toSingle | syncIntc | swSync =>
      rw [state] at booting
      cases booting
  forgotten := tmrErrorFf1_next_of_undisturbed undisturbed boots.forgotten

theorem TmrBoots.released (boots : TmrBoots fsm) {hart : Hart}
    (past : fsm.ctrlTmr hart ≠ .start) : fsm.interruptHaltO inp hart = false := by
  apply interruptHaltO_of_quiet
  · simp [SafeFsm.single, singleOut, boots.single]
  · have booting := boots.tmr hart
    cases state : fsm.ctrlTmr hart <;>
      simp_all [SafeFsm.tmr, tmrOut, TmrOut.zero, CtrlTmrFsm.boots]
  · simp [SafeFsm.dmr, dmrOut, DmrOut.default, boots.dmr hart]
  · simp [SafeFsm.dmr, dmrOut, DmrOut.default, boots.dmr hart]

theorem interruptHaltO_of_tmrStart {hart : Hart} (state : fsm.ctrlTmr hart = .start) :
    fsm.interruptHaltO inp hart = true := by
  simp [SafeFsm.interruptHaltO, SafeFsm.tmr, tmrOut, state]

theorem tmrBoots_of_rested (rested : Quiescent fsm) (mode : fsm.ctrlSafe = .tmrMode)
    (started : inp.start = true) : TmrBoots (fsm.next inp) ∧
      ∀ hart, (fsm.next inp).ctrlTmr hart = .start := by
  have starts : ∀ hart, (fsm.next inp).ctrlTmr hart = .start :=
    fun hart => ctrlTmrNext_of_starts (rested.tmr hart) mode started rested.single
  have outside : ¬Synced fsm := by
    intro synced
    have sync := synced 0
    rw [rested.tmr] at sync
    cases sync
  have steady : fsm.errorRises inp = false := by
    simp [SafeFsm.errorRises, HartWires.any, rested.tmr]
  refine ⟨⟨?_, ?_, fun hart => ?_, fun hart => ?_, (tmrErrorFf_of_outside outside steady).2⟩,
    starts⟩
  · refine ctrlSafeNext_of_tmrKept mode started fun hart ended => ?_
    rw [rested.tmr] at ended
    cases ended
  · exact ctrlSingleNext_of_idle rested.single (Or.inl (by simp [mode]))
  · exact ctrlDmrNext_of_otherMode (rested.dmr hart) (by simp [mode])
  · rw [starts]
    rfl

end Triple

section TripleRun
variable {inputs : Nat → FsmIn} {delay first : Nat}
  (kept : KeptRunning inputs 0b01#2 first)
  (mode : (safeFsm.run inputs first).ctrlSafe = .idle)
  (quiescent : Quiescent (safeFsm.run inputs first))
  (undisturbed : ∀ cycle, first ≤ cycle →
    TmrUndisturbed (safeFsm.run inputs cycle) (inputs cycle))

include kept mode quiescent undisturbed

theorem tmrBoots_run (elapsed : Nat) : TmrBoots (safeFsm.run inputs (first + 2 + elapsed)) := by
  induction elapsed with
  | zero =>
    obtain ⟨entered, rested⟩ := mode_entered kept mode quiescent
    exact (tmrBoots_of_rested rested entered (kept.start _ (by omega))).1
  | succ elapsed ih =>
    have since : first ≤ first + 2 + elapsed := by omega
    exact ih.next (kept.start _ since) (kept.endSw _ since) (kept.configured _ since)
      (undisturbed _ since)

theorem tmr_start_completes (harts : HartsAnswer inputs delay) (cycle : Nat)
    (late : first + 2 * delay + 4 ≤ cycle) :
    (safeFsm.run inputs cycle).ctrlSafe = .tmrMode ∧ Synced (safeFsm.run inputs cycle) := by
  have boots : ∀ cycle, first + 2 ≤ cycle → TmrBoots (safeFsm.run inputs cycle) := by
    intro cycle since
    obtain ⟨elapsed, rfl⟩ := Nat.exists_eq_add_of_le since
    exact tmrBoots_run kept mode quiescent undisturbed elapsed
  refine ⟨(boots cycle (by omega)).mode, fun hart => ?_⟩
  obtain ⟨entered, rested⟩ := mode_entered kept mode quiescent
  have round : HaltRound inputs (fun fsm => fsm.ctrlTmr hart) hart (first + 2) .start .boot .sync := {
    asks := fun cycle since state => ⟨interruptHaltO_of_tmrStart state, ctrlTmrNext_start state⟩
    releases := fun cycle since state =>
      ⟨(boots cycle since).released (by simp [state]), ctrlTmrNext_boot state⟩
    stays := fun cycle since state => by
      have from_ : first ≤ cycle := by omega
      exact (boots cycle since).sync_next (undisturbed _ from_) (kept.endSw _ from_)
        (kept.configured _ from_) state }
  exact round.completes harts ((tmrBoots_of_rested rested entered (kept.start _ (by omega))).2 hart)
    cycle (by omega)

end TripleRun

/-! ## Dual redundancy -/

/-- A DMR machine that is not of the pair, on its way from START to SYNC, or in
recovery. -/
def CtrlDmrFsm.keepsMode : CtrlDmrFsm → Bool
  | .idle | .start | .boot | .sync | .stop | .intcRecovery | .recovery => true
  | _ => false

/-- DMR_MODE while its machines boot, run and recover. -/
structure DmrKept (fsm : SafeFsm) : Prop where
  mode : fsm.ctrlSafe = .dmrMode
  single : fsm.ctrlSingle = .idle
  tmr : ∀ hart, fsm.ctrlTmr hart = .idle
  dmr : ∀ hart, (fsm.ctrlDmr hart).keepsMode = true

section Dual
variable {fsm : SafeFsm} {inp : FsmIn}

theorem switchDmrToSingle_of_outside (outside : ∀ hart, fsm.ctrlDmr hart ≠ .endSync) :
    (fsm.switchDmrToSingle inp).any = false := by
  rw [← Bool.not_eq_true, HartWires.any_eq_true_iff]
  rintro ⟨hart, asks⟩
  have other := outside hart
  unfold SafeFsm.switchDmrToSingle SafeFsm.dmr at asks
  cases state : fsm.ctrlDmr hart <;> simp_all [dmrOut, DmrOut.default]

theorem ctrlSafeNext_of_dmrKept (mode : fsm.ctrlSafe = .dmrMode) (started : inp.start = true)
    (outside : ∀ hart, fsm.ctrlDmr hart ≠ .endSync) : fsm.ctrlSafeNext inp = .dmrMode := by
  have kept : (fsm.switchDmrToSingle inp).any = false := switchDmrToSingle_of_outside outside
  simp [SafeFsm.ctrlSafeNext, mode, started, kept]

/-- While a machine is in SYNC the comparator of the master reports no error and
not all harts sleep. -/
def DmrUndisturbed (fsm : SafeFsm) (inp : FsmIn) : Prop :=
  ∀ hart, fsm.ctrlDmr hart = .sync → SafeFsm.dmrErrorS inp = false ∧ inp.hartWfi.all = false

theorem ctrlDmrNext_sync {hart : Hart} (undisturbed : DmrUndisturbed fsm inp)
    (state : fsm.ctrlDmr hart = .sync) : fsm.ctrlDmrNext inp hart = .sync := by
  simp [SafeFsm.ctrlDmrNext, state, undisturbed hart state]

/-- The mode lasts as long as its harts do not all sleep in SYNC. -/
theorem DmrKept.next (kept : DmrKept fsm) (started : inp.start = true)
    (awake : ∀ hart, fsm.ctrlDmr hart = .sync → inp.hartWfi.all = false) :
    DmrKept (fsm.next inp) where
  mode := by
    refine ctrlSafeNext_of_dmrKept kept.mode started fun hart ended => ?_
    have running := kept.dmr hart
    rw [ended] at running
    cases running
  single := ctrlSingleNext_of_idle kept.single (Or.inl (by simp [kept.mode]))
  tmr hart := ctrlTmrNext_of_otherMode (kept.tmr hart) (by simp [kept.mode])
  dmr hart := by
    change (fsm.ctrlDmrNext inp hart).keepsMode = true
    have running := kept.dmr hart
    cases state : fsm.ctrlDmr hart with
    | idle =>
      rw [ctrlDmrNext_of_starts state kept.mode started kept.single]
      split_ifs <;> rfl
    | sync =>
      have some := awake hart state
      simp only [SafeFsm.ctrlDmrNext, state, some, Bool.false_and, Bool.false_eq_true, if_false]
      split_ifs <;> rfl
    | start | boot | stop | intcRecovery | recovery =>
      simp only [SafeFsm.ctrlDmrNext, state]
      split_ifs <;> rfl
    | reset | shHalt | waitSh | msIntrSync | endSync | toSingle =>
      rw [state] at running
      cases running

theorem DmrKept.released (kept : DmrKept fsm) {hart : Hart} (past : fsm.ctrlDmr hart ≠ .start)
    (recovered : fsm.ctrlDmr hart ≠ .intcRecovery) : fsm.interruptHaltO inp hart = false := by
  have running := kept.dmr hart
  apply interruptHaltO_of_quiet
  · simp [SafeFsm.single, singleOut, kept.single]
  · simp [SafeFsm.tmr, tmrOut, TmrOut.zero, kept.tmr hart]
  · cases state : fsm.ctrlDmr hart <;>
      simp_all [SafeFsm.dmr, dmrOut, DmrOut.default, CtrlDmrFsm.keepsMode]
  · cases state : fsm.ctrlDmr hart <;>
      simp_all [SafeFsm.dmr, dmrOut, DmrOut.default, CtrlDmrFsm.keepsMode]

theorem interruptHaltO_of_dmrStart {hart : Hart} (state : fsm.ctrlDmr hart = .start) :
    fsm.interruptHaltO inp hart = true := by
  simp [SafeFsm.interruptHaltO, SafeFsm.dmr, dmrOut, state]

theorem dmrKept_of_rested (rested : Quiescent fsm) (mode : fsm.ctrlSafe = .dmrMode)
    (started : inp.start = true) : DmrKept (fsm.next inp) ∧
      ∀ hart, inp.dmrMask hart = true → (fsm.next inp).ctrlDmr hart = .start := by
  have starts : ∀ hart, (fsm.next inp).ctrlDmr hart = if inp.dmrMask hart then .start else .idle :=
    fun hart => ctrlDmrNext_of_starts (rested.dmr hart) mode started rested.single
  refine ⟨⟨?_, ?_, fun hart => ?_, fun hart => ?_⟩, fun hart masked => ?_⟩
  · refine ctrlSafeNext_of_dmrKept mode started fun hart ended => ?_
    rw [rested.dmr] at ended
    cases ended
  · exact ctrlSingleNext_of_idle rested.single (Or.inl (by simp [mode]))
  · exact ctrlTmrNext_of_otherMode (rested.tmr hart) (by simp [mode])
  · rw [starts]
    split_ifs <;> rfl
  · rw [starts, if_pos masked]

end Dual

section DualRun
variable {inputs : Nat → FsmIn} {configuration : BitVec 2} {delay first : Nat}
  (kept : KeptRunning inputs configuration first)
  (mode : (safeFsm.run inputs first).ctrlSafe = .idle)
  (quiescent : Quiescent (safeFsm.run inputs first))
  (dual : configuredMode configuration = .dmrMode)
  (undisturbed : ∀ cycle, first ≤ cycle →
    DmrUndisturbed (safeFsm.run inputs cycle) (inputs cycle))

include kept mode quiescent dual undisturbed

theorem dmrKept_run (elapsed : Nat) : DmrKept (safeFsm.run inputs (first + 2 + elapsed)) := by
  induction elapsed with
  | zero =>
    obtain ⟨entered, rested⟩ := mode_entered kept mode quiescent
    exact (dmrKept_of_rested rested (entered.trans dual) (kept.start _ (by omega))).1
  | succ elapsed ih =>
    have since : first ≤ first + 2 + elapsed := by omega
    exact ih.next (kept.start _ since) fun hart sync => (undisturbed _ since hart sync).2

theorem dmr_start_completes (harts : HartsAnswer inputs delay) (cycle : Nat)
    (late : first + 2 * delay + 4 ≤ cycle) :
    (safeFsm.run inputs cycle).ctrlSafe = .dmrMode ∧
      ∀ hart, (inputs (first + 1)).dmrMask hart = true →
        (safeFsm.run inputs cycle).ctrlDmr hart = .sync := by
  have keeps : ∀ cycle, first + 2 ≤ cycle → DmrKept (safeFsm.run inputs cycle) := by
    intro cycle since
    obtain ⟨elapsed, rfl⟩ := Nat.exists_eq_add_of_le since
    exact dmrKept_run kept mode quiescent dual undisturbed elapsed
  refine ⟨(keeps cycle (by omega)).mode, fun hart masked => ?_⟩
  obtain ⟨entered, rested⟩ := mode_entered kept mode quiescent
  have round : HaltRound inputs (fun fsm => fsm.ctrlDmr hart) hart (first + 2) .start .boot .sync := {
    asks := fun cycle since state => ⟨interruptHaltO_of_dmrStart state, ctrlDmrNext_start state⟩
    releases := fun cycle since state =>
      ⟨(keeps cycle since).released (by simp [state]) (by simp [state]), ctrlDmrNext_boot state⟩
    stays := fun cycle since state => ctrlDmrNext_sync (undisturbed _ (by omega)) state }
  exact round.completes harts
    ((dmrKept_of_rested rested (entered.trans dual) (kept.start _ (by omega))).2 hart masked)
    cycle (by omega)

end DualRun

/-! ## Single mode -/

def CtrlSingleFsm.boots : CtrlSingleFsm → Bool
  | .idle | .start | .run => true
  | _ => false

/-- SINGLE_MODE while the master boots. -/
structure SingleBoots (fsm : SafeFsm) : Prop where
  mode : fsm.ctrlSafe = .singleMode
  tmr : ∀ hart, fsm.ctrlTmr hart = .idle
  dmr : ∀ hart, fsm.ctrlDmr hart = .idle
  single : fsm.ctrlSingle.boots = true

section Solo
variable {fsm : SafeFsm} {inp : FsmIn}

theorem ctrlSingleNext_start (state : fsm.ctrlSingle = .start) :
    fsm.ctrlSingleNext inp = if inp.haltAck = inp.masterCore then .run else .start := by
  simp only [SafeFsm.ctrlSingleNext, state]

theorem ctrlSingleNext_run (state : fsm.ctrlSingle = .run) (started : inp.start = true)
    (running : inp.endSwRoutine = false) (configured : inp.safeConfiguration = 0b00#2) :
    fsm.ctrlSingleNext inp = .run := by
  simp [SafeFsm.ctrlSingleNext, state, started, running, configured, dualConfigured]

theorem SingleBoots.starts (boots : SingleBoots fsm) (state : fsm.ctrlSingle = .idle)
    (started : inp.start = true) (running : inp.endSwRoutine = false) :
    fsm.ctrlSingleNext inp = .start := by
  have tmr : (fsm.switchTmrToSingle inp).none = true := by
    simp [HartWires.none, HartWires.any, SafeFsm.switchTmrToSingle, SafeFsm.tmr, tmrOut,
      TmrOut.zero, boots.tmr]
  have dmr : (fsm.switchDmrToSingle inp).none = true := by
    simp [HartWires.none, HartWires.any, SafeFsm.switchDmrToSingle, SafeFsm.dmr, dmrOut,
      DmrOut.default, boots.dmr]
  simp [SafeFsm.ctrlSingleNext, state, boots.mode, started, running, tmr, dmr]

theorem SingleBoots.next (boots : SingleBoots fsm) (started : inp.start = true)
    (running : inp.endSwRoutine = false) (configured : inp.safeConfiguration = 0b00#2) :
    SingleBoots (fsm.next inp) where
  mode := by
    change fsm.ctrlSafeNext inp = .singleMode
    simp [SafeFsm.ctrlSafeNext, boots.mode, started, configured, dualConfigured]
  tmr hart := ctrlTmrNext_of_otherMode (boots.tmr hart) (by simp [boots.mode])
  dmr hart := ctrlDmrNext_of_otherMode (boots.dmr hart) (by simp [boots.mode])
  single := by
    change (fsm.ctrlSingleNext inp).boots = true
    have booting := boots.single
    cases state : fsm.ctrlSingle with
    | idle =>
      rw [boots.starts state started running]
      rfl
    | start =>
      rw [ctrlSingleNext_start state]
      split_ifs <;> rfl
    | run =>
      rw [ctrlSingleNext_run state started running configured]
      rfl
    | reset | toTmr | toDmr | syncOff =>
      rw [state] at booting
      cases booting

theorem interruptHaltO_of_solo (tmr : ∀ hart, fsm.ctrlTmr hart = .idle)
    (dmr : ∀ hart, fsm.ctrlDmr hart = .idle) (hart : Hart) :
    fsm.interruptHaltO inp hart =
      (decide (fsm.ctrlSingle = .start) && inp.masterCore hart) := by
  simp only [SafeFsm.interruptHaltO, SafeFsm.tmr, SafeFsm.dmr, SafeFsm.single, tmr hart, dmr hart,
    tmrOut, TmrOut.zero, dmrOut, DmrOut.default, Bool.false_or, Bool.or_false]
  cases fsm.ctrlSingle <;> simp [singleOut]

end Solo

/-- The single machine in `state`, and no hart but the master halted. -/
def SingleAt (inputs : Nat → FsmIn) (first : Nat) (master : Hart) (state : CtrlSingleFsm)
    (cycle : Nat) : Prop :=
  first + 2 ≤ cycle ∧ (safeFsm.run inputs cycle).ctrlSingle = state ∧
    ∀ hart, hart ≠ master → (inputs cycle).haltAck hart = false

section SoloRun
variable {inputs : Nat → FsmIn} {delay first : Nat} {master : Hart}
  (kept : KeptRunning inputs 0b00#2 first)
  (mode : (safeFsm.run inputs first).ctrlSafe = .idle)
  (quiescent : Quiescent (safeFsm.run inputs first))
  (named : ∀ cycle, first ≤ cycle → (inputs cycle).masterCore = oneHot master)
  (resting : ∀ hart, (inputs first).haltAck hart = false)
  (harts : HartsAnswer inputs delay)
include kept mode quiescent

theorem singleBoots_run (elapsed : Nat) :
    SingleBoots (safeFsm.run inputs (first + 1 + elapsed)) := by
  induction elapsed with
  | zero =>
    obtain ⟨entered, rested⟩ := mode_entered kept mode quiescent
    refine ⟨entered, rested.tmr, rested.dmr, ?_⟩
    rw [Nat.add_zero, rested.single]
    rfl
  | succ elapsed ih =>
    have since : first ≤ first + 1 + elapsed := by omega
    exact ih.next (kept.start _ since) (kept.endSw _ since) (kept.configured _ since)

include named resting harts

theorem others_not_halted (elapsed : Nat) {hart : Hart} (other : hart ≠ master) :
    (inputs (first + elapsed)).haltAck hart = false := by
  induction elapsed with
  | zero => exact resting hart
  | succ elapsed ih =>
    rw [← Bool.not_eq_true]
    intro acked
    rcases harts.asked hart (first + elapsed) acked with before | asked
    · rw [ih] at before
      cases before
    · have unasked : (safeFsm.run inputs (first + elapsed)).interruptHaltO
          (inputs (first + elapsed)) hart = false := by
        have rested : (∀ hart, (safeFsm.run inputs (first + elapsed)).ctrlTmr hart = .idle) ∧
            ∀ hart, (safeFsm.run inputs (first + elapsed)).ctrlDmr hart = .idle := by
          cases elapsed with
          | zero => exact ⟨quiescent.tmr, quiescent.dmr⟩
          | succ elapsed =>
            have boots := singleBoots_run kept mode quiescent elapsed
            rw [show first + (elapsed + 1) = first + 1 + elapsed by omega]
            exact ⟨boots.tmr, boots.dmr⟩
        rw [interruptHaltO_of_solo rested.1 rested.2, named _ (by omega)]
        simp [oneHot, other]
      rw [unasked] at asked
      cases asked

theorem single_start_leadsTo_run :
    LeadsTo (delay + 1) (SingleAt inputs first master .start) (SingleAt inputs first master .start)
      (SingleAt inputs first master .run) := by
  have alone : ∀ cycle, first ≤ cycle → ∀ hart, hart ≠ master →
      (inputs (cycle + 1)).haltAck hart = false := by
    intro cycle since hart other
    obtain ⟨elapsed, same⟩ := Nat.exists_eq_add_of_le (show first ≤ cycle + 1 by omega)
    rw [same]
    exact others_not_halted kept mode quiescent named resting harts elapsed other
  refine LeadsTo.of_wait (fun cycle => (inputs cycle).haltAck master) ?_ ?_ ?_
  · rintro cycle ⟨later, state, none⟩ quiet
    refine ⟨by omega, (ctrlSingleNext_start state).trans (if_neg fun same => ?_),
      alone cycle (by omega)⟩
    rw [same, named cycle (by omega)] at quiet
    simp [oneHot] at quiet
  · rintro cycle ⟨later, state, none⟩ acked
    refine ⟨by omega, (ctrlSingleNext_start state).trans (if_pos ?_), alone cycle (by omega)⟩
    rw [named cycle (by omega)]
    funext hart
    by_cases same : hart = master
    · rw [same, acked]
      simp [oneHot]
    · rw [none hart same]
      simp [oneHot, same]
  · intro cycle held
    refine harts.halts master cycle fun between since until_ => ?_
    obtain ⟨later, state, none⟩ := held between since until_
    have asked : ((safeFsm.run inputs between).single (inputs between)).singleHaltRequest master =
        true := by
      simp [SafeFsm.single, singleOut, state, named between (by omega), oneHot]
    simp [SafeFsm.interruptHaltO, asked]

theorem single_start_completes (cycle : Nat) (late : first + 2 * delay + 4 ≤ cycle) :
    (safeFsm.run inputs cycle).ctrlSafe = .singleMode ∧
      (safeFsm.run inputs cycle).ctrlSingle = .run := by
  obtain ⟨elapsed, rfl⟩ := Nat.exists_eq_add_of_le (show first + 1 ≤ cycle by omega)
  refine ⟨(singleBoots_run kept mode quiescent elapsed).mode, ?_⟩
  have stays : ∀ start, first ≤ start → (safeFsm.run inputs start).ctrlSingle = .run →
      ∀ elapsed, (safeFsm.run inputs (start + elapsed)).ctrlSingle = .run := by
    intro start since running elapsed
    induction elapsed with
    | zero => exact running
    | succ elapsed ih =>
      have after : first ≤ start + elapsed := by omega
      exact ctrlSingleNext_run ih (kept.start _ after) (kept.endSw _ after) (kept.configured _ after)
  have entered : (safeFsm.run inputs (first + 2)).ctrlSingle = .start := by
    have rested := (mode_entered kept mode quiescent).2
    exact (singleBoots_run kept mode quiescent 0).starts rested.single (kept.start _ (by omega))
      (kept.endSw _ (by omega))
  obtain ⟨later, since, until_, reached, -⟩ :=
    single_start_leadsTo_run kept mode quiescent named resting harts (first + 2)
      ⟨le_rfl, entered, fun hart other =>
        others_not_halted kept mode quiescent named resting harts 2 other⟩
  obtain ⟨rest, same⟩ := Nat.exists_eq_add_of_le (show later ≤ first + 1 + elapsed by omega)
  rw [same]
  exact stays later (by omega) reached.2.1 rest

end SoloRun

/-! ## The configured mode -/

/-- The top machine is in the mode of the configuration, and the machines of the
mode run. -/
def RunsConfigured (fsm : SafeFsm) (pair : HartWires) (configuration : BitVec 2) : Prop :=
  fsm.ctrlSafe = configuredMode configuration ∧
    match configuredMode configuration with
    | .tmrMode => Synced fsm
    | .dmrMode => ∀ hart, pair hart = true → fsm.ctrlDmr hart = .sync
    | _ => fsm.ctrlSingle = .run

/-- Nothing that ends the mode as soon as it runs. -/
structure Undisturbed (inputs : Nat → FsmIn) (first : Nat) : Prop where
  trio : ∀ cycle, first ≤ cycle → TmrUndisturbed (safeFsm.run inputs cycle) (inputs cycle)
  pair : ∀ cycle, first ≤ cycle → DmrUndisturbed (safeFsm.run inputs cycle) (inputs cycle)

/-- A start always completes: from a quiescent IDLE with `Start` up, the state
machine is in the configured mode from the bound on, whatever the configuration
and whenever, within `delay` cycles, each hart halts and resumes. -/
theorem configured_mode_is_reached (inputs : Nat → FsmIn) (configuration : BitVec 2)
    (delay first : Nat) (master : Hart) (kept : KeptRunning inputs configuration first)
    (mode : (safeFsm.run inputs first).ctrlSafe = .idle)
    (quiescent : Quiescent (safeFsm.run inputs first))
    (named : ∀ cycle, first ≤ cycle → (inputs cycle).masterCore = oneHot master)
    (resting : ∀ hart, (inputs first).haltAck hart = false)
    (undisturbed : Undisturbed inputs first) (harts : HartsAnswer inputs delay) (cycle : Nat)
    (late : first + 2 * delay + 4 ≤ cycle) :
    RunsConfigured (safeFsm.run inputs cycle) (inputs (first + 1)).dmrMask configuration := by
  rcases dualConfigured_cases configuration with rfl | rfl | dual
  · exact single_start_completes kept mode quiescent named resting harts cycle late
  · exact tmr_start_completes kept mode quiescent undisturbed.trio harts cycle late
  · have dmrMode := configuredMode_of_dual configuration dual
    have pair := dmr_start_completes kept mode quiescent dmrMode undisturbed.pair harts cycle late
    unfold RunsConfigured
    rw [dmrMode]
    exact pair

/-- Three harts that sleep after power-on, are started, and halt for one cycle. -/
def trioStarts : Nat → FsmIn
  | 1 => { trioIn 0b01#2 with hartWfi := fun _ => true }
  | 5 => { trioIn 0b01#2 with haltAck := fun _ => true }
  | _ => trioIn 0b01#2

set_option maxRecDepth 4000 in
theorem trioStarts_runs (later : Nat) : TmrBoots (safeFsm.run trioStarts (later + 7)) ∧
    Synced (safeFsm.run trioStarts (later + 7)) := by
  induction later with
  | zero => exact ⟨⟨by decide, by decide, by decide, by decide, by decide⟩, by decide⟩
  | succ later ih =>
    obtain ⟨boots, synced⟩ := ih
    exact ⟨boots.next rfl rfl rfl fun _ _ => rfl,
      fun hart => boots.sync_next (fun _ _ => rfl) rfl rfl (synced hart)⟩

set_option maxRecDepth 4000 in
theorem trioStarts_halted {hart : Hart} {cycle : Nat}
    (halted : (safeFsm.run trioStarts cycle).interruptHaltO (trioStarts cycle) hart = true) :
    cycle = 4 ∨ cycle = 5 := by
  match cycle with
  | 0 | 1 | 2 | 3 | 6 =>
    revert halted hart
    decide
  | 4 => exact Or.inl rfl
  | 5 => exact Or.inr rfl
  | later + 7 =>
    obtain ⟨boots, synced⟩ := trioStarts_runs later
    rw [boots.released (by simp [synced hart])] at halted
    cases halted

theorem trioStarts_acked {hart : Hart} {cycle : Nat} (other : cycle ≠ 5) :
    (trioStarts cycle).haltAck hart = false := by
  match cycle with
  | 0 | 1 | 2 | 3 | 4 => rfl
  | 5 => exact absurd rfl other
  | later + 6 => rfl

set_option maxRecDepth 4000 in
theorem trioStarts_answer : HartsAnswer trioStarts 1 where
  halts hart cycle halted := by
    have now := trioStarts_halted (halted cycle le_rfl (by omega))
    have soon := trioStarts_halted (halted (cycle + 1) (by omega) le_rfl)
    have four : cycle = 4 := by omega
    exact ⟨5, by omega, by omega, rfl⟩
  resumes hart cycle _ := by
    by_cases five : cycle = 5
    · exact ⟨6, by omega, by omega, rfl⟩
    · exact ⟨cycle, le_rfl, by omega, congrArg not (trioStarts_acked five)⟩
  asked hart cycle acked := by
    have four : cycle = 4 := by
      by_contra other
      rw [trioStarts_acked (by omega)] at acked
      cases acked
    subst four
    right
    revert hart
    decide

set_option maxRecDepth 4000 in
theorem trioStarts_reaches_tmr :
    RunsConfigured (safeFsm.run trioStarts 8) (fun _ => false) 0b01#2 := by
  have later : ∀ cycle, 2 ≤ cycle → ∃ halted, trioStarts cycle =
      { trioIn 0b01#2 with haltAck := halted } := by
    intro cycle late
    match cycle with
    | 2 | 3 | 4 | 5 => exact ⟨_, rfl⟩
    | later + 6 => exact ⟨_, rfl⟩
  refine configured_mode_is_reached trioStarts 0b01#2 1 2 0 ⟨?_, ?_, ?_⟩ (by decide)
    ⟨by decide, by decide, by decide⟩ ?_ (by decide) ⟨?_, ?_⟩ trioStarts_answer 8 (by decide)
  all_goals
    intro cycle late
    obtain ⟨halted, inp⟩ := later cycle late
    rw [inp]
  · rfl
  · rfl
  · rfl
  · rfl
  · exact fun hart _ => rfl
  · exact fun hart _ => ⟨rfl, rfl⟩

end Eros
