import Eros.HaltPhases
import Eros.SafeWrapperCtrl

/-!
# Where `debug_entry` sends a halted hart

The boot ROM reads `EXTERNAL_DEBUG_REQ` and `DMR_REC`, which `safe_wrapper_ctrl`
loads from `safe_FSM` in every cycle, and takes `single_boot` on 2 and
`halt_boot` on 0.  The state machine runs here on the control registers the host
writes.
-/

set_option autoImplicit false

namespace Eros

def HartWires.ofBits (value : BitVec 3) : HartWires := fun hart => value.getLsbD hart

def HartWires.bits (wires : HartWires) : BitVec 3 :=
  BitVec.ofBool (wires 2) ++ BitVec.ofBool (wires 1) ++ BitVec.ofBool (wires 0)

/-- What the host, the harts and the error wires give in one cycle. -/
structure HostIn where
  req : RegReq
  haltAck : HartWires
  sleep : HartWires
  hartIntcAck : HartWires
  tmrError : Bool
  dmrError : HartWires
  enableInterruptDe : Bool
  enableInterruptD : Bool

/-- `safe_FSM` and `safe_wrapper_ctrl`. -/
structure ControlledFsm where
  ctrl : SafeWrapperCtrl
  fsm : SafeFsm

namespace ControlledFsm
variable (sys : ControlledFsm) (inp : HostIn)

def fsmIn : FsmIn where
  dmrMask := .ofBits sys.ctrl.dmrMask
  tmrCriticalSection := sys.ctrl.criticalSection
  safeConfiguration := sys.ctrl.safeConfiguration
  initialSyncMaster := sys.ctrl.initialSyncMaster
  haltAck := inp.haltAck
  hartWfi := inp.sleep
  hartIntcAck := inp.hartIntcAck
  masterCore := .ofBits sys.ctrl.masterCore
  tmrError := inp.tmrError
  dmrError := inp.dmrError
  start := sys.ctrl.start
  endSwRoutine := sys.ctrl.endSwRoutine

def ctrlIn : CtrlIn where
  req := inp.req
  startBoot := sys.fsm.startBootO (sys.fsmIn inp)
  enExtDebug := sys.fsm.enExtDebugReqO
  dmrRec := sys.fsm.dmrRecO (sys.fsmIn inp)
  debugMode := inp.haltAck.bits
  sleep := inp.sleep.bits
  enableInterruptDe := inp.enableInterruptDe
  enableInterruptD := inp.enableInterruptD

def next : ControlledFsm where
  ctrl := sys.ctrl.next (sys.ctrlIn inp)
  fsm := sys.fsm.next (sys.fsmIn inp)

/-- The two registers `debug_entry` reads are one cycle behind the outputs. -/
theorem next_externalDebugReq : (sys.next inp).ctrl.rdata CtrlOffset.externalDebugReq =
    (BitVec.ofBool (sys.fsm.startBootO (sys.fsmIn inp)) ++
      BitVec.ofBool sys.fsm.enExtDebugReqO).zeroExtend 32 := rfl

theorem next_dmrRec : (sys.next inp).ctrl.rdata CtrlOffset.dmrRec =
    (BitVec.ofBool (sys.fsm.dmrRecO (sys.fsmIn inp))).zeroExtend 32 := rfl

end ControlledFsm

def controlledFsm : Synchronous.Machine ControlledFsm HostIn where
  init := ⟨.reset, .reset⟩
  next := ControlledFsm.next

/-! ## Why a hart is halted -/

inductive HaltReason
  | singleStart | tmrStart | dmrStart | tmrShHalt | dmrShHalt | dmrIntcRecovery
  deriving DecidableEq, Repr

/-- The reasons that `single_boot` is for. -/
def HaltReason.boots : HaltReason → Bool
  | .singleStart | .tmrStart | .dmrStart => true
  | _ => false

/-- A machine requests the halt of `hart` for `reason`. -/
def SafeFsm.Halts (fsm : SafeFsm) (inp : FsmIn) (hart : Hart) : HaltReason → Prop
  | .singleStart => fsm.ctrlSingle = .start ∧ inp.masterCore hart = true
  | .tmrStart => fsm.ctrlTmr hart = .start
  | .dmrStart => fsm.ctrlDmr hart = .start
  | .tmrShHalt => fsm.ctrlTmr hart = .shHalt ∧ inp.masterCore hart = false
  | .dmrShHalt => fsm.ctrlDmr hart = .shHalt ∧ inp.masterCore hart = false
  | .dmrIntcRecovery => fsm.ctrlDmr hart = .intcRecovery

theorem interruptHaltO_iff (fsm : SafeFsm) (inp : FsmIn) (hart : Hart) :
    fsm.interruptHaltO inp hart = true ↔ ∃ reason, fsm.Halts inp hart reason := by
  have tmr : (fsm.tmr inp hart).dbgHaltReqGeneral = true ↔
      fsm.Halts inp hart .tmrStart ∨ fsm.Halts inp hart .tmrShHalt := by
    cases state : fsm.ctrlTmr hart <;>
      simp [SafeFsm.tmr, SafeFsm.Halts, state, tmrOut, TmrOut.zero]
  have single : (fsm.single inp).singleHaltRequest hart = true ↔
      fsm.Halts inp hart .singleStart := by
    cases state : fsm.ctrlSingle <;> simp [SafeFsm.single, SafeFsm.Halts, state, singleOut]
  have dmr : (fsm.dmr inp hart).dbgHaltReqGeneral = true ↔
      fsm.Halts inp hart .dmrStart ∨ fsm.Halts inp hart .dmrShHalt := by
    cases state : fsm.ctrlDmr hart <;>
      simp [SafeFsm.dmr, SafeFsm.Halts, state, dmrOut, DmrOut.default]
  have recovery : (fsm.dmr inp hart).dbgHaltRecovery = true ↔
      fsm.Halts inp hart .dmrIntcRecovery := by
    cases state : fsm.ctrlDmr hart <;>
      simp [SafeFsm.dmr, SafeFsm.Halts, state, dmrOut, DmrOut.default]
  simp only [SafeFsm.interruptHaltO, Bool.or_eq_true, tmr, single, dmr, recovery]
  constructor
  · rintro ((((triple | triple) | alone) | (dual | dual)) | recovers)
    · exact ⟨_, triple⟩
    · exact ⟨_, triple⟩
    · exact ⟨_, alone⟩
    · exact ⟨_, dual⟩
    · exact ⟨_, dual⟩
    · exact ⟨_, recovers⟩
  · rintro ⟨reason, halts⟩
    cases reason <;> simp [halts]

/-- What a cycle must not do to a halted hart. -/
structure DispatchKept (fsm : SafeFsm) (inp : FsmIn) : Prop where
  phases : PhasesKept fsm inp
  /-- Not all harts sleep while one is halted. -/
  awake : ∀ hart, inp.haltAck hart = true → inp.hartWfi.all = false
  /-- A hart halted by the single machine alone is not taken out of SINGLE_MODE. -/
  single : ∀ hart, inp.haltAck hart = true →
    fsm.ctrlSingle = .start ∨ fsm.ctrlSingle = .run → ¬fsm.OwnPhase hart .booting →
    fsm.ctrlSafe = .singleMode ∧ (inp.start = false ∨ inp.safeConfiguration = 0b00#2)

/-- The single machine has halted a hart and not handed over yet. -/
def SoloBoots (fsm : SafeFsm) : Prop :=
  fsm.ctrlSafe = .singleMode ∧ (fsm.ctrlSingle = .start ∨ fsm.ctrlSingle = .run)

/-- The machines still show why `hart` was halted. -/
def ShowsReason (fsm : SafeFsm) (hart : Hart) : HaltReason → Prop
  | .singleStart => fsm.OwnPhase hart .booting ∨ SoloBoots fsm
  | .tmrStart | .dmrStart => fsm.OwnPhase hart .booting
  | .tmrShHalt | .dmrShHalt => fsm.OwnPhase hart .switching
  | .dmrIntcRecovery => fsm.OwnPhase hart .recovering

section Step
variable {fsm : SafeFsm} {inp : FsmIn} {hart : Hart} {reason : HaltReason}

theorem showsReason_of_halts (kept : DispatchKept fsm inp) (acked : inp.haltAck hart = true)
    (halts : fsm.Halts inp hart reason) : ShowsReason fsm hart reason := by
  cases reason with
  | singleStart =>
    by_cases own : fsm.OwnPhase hart .booting
    · exact Or.inl own
    · exact Or.inr ⟨(kept.single hart acked (Or.inl halts.1) own).1, Or.inl halts.1⟩
  | tmrStart =>
    have state : fsm.ctrlTmr hart = .start := halts
    left
    rw [state]
    rfl
  | dmrStart =>
    have state : fsm.ctrlDmr hart = .start := halts
    right
    rw [state]
    rfl
  | tmrShHalt =>
    left
    rw [halts.1]
    rfl
  | dmrShHalt =>
    right
    rw [halts.1]
    rfl
  | dmrIntcRecovery =>
    have state : fsm.ctrlDmr hart = .intcRecovery := halts
    right
    rw [state]
    rfl

theorem ctrlSingleNext_of_halted (acked : inp.haltAck hart = true)
    (awake : inp.hartWfi.all = false)
    (solo : fsm.ctrlSingle = .start ∨ fsm.ctrlSingle = .run) :
    fsm.ctrlSingleNext inp = .start ∨ fsm.ctrlSingleNext inp = .run := by
  have some_ : inp.haltAck.none = false := by
    have any : inp.haltAck.any = true :=
      (HartWires.any_eq_true_iff inp.haltAck).mpr ⟨hart, acked⟩
    simp [HartWires.none, any]
  rcases solo with start | run
  · simp only [SafeFsm.ctrlSingleNext, start]
    split_ifs
    · exact Or.inr rfl
    · exact Or.inl rfl
  · simp [SafeFsm.ctrlSingleNext, run, awake, some_]

theorem soloBoots_next (solo : SoloBoots fsm) (acked : inp.haltAck hart = true)
    (awake : inp.hartWfi.all = false)
    (kept : inp.start = false ∨ inp.safeConfiguration = 0b00#2) : SoloBoots (fsm.next inp) := by
  obtain ⟨mode, single⟩ := solo
  refine ⟨?_, ctrlSingleNext_of_halted acked awake single⟩
  rcases ctrlSafeNext_of_singleMode inp mode with ⟨_, _, idle⟩ | ⟨started, other, _⟩ | stays
  · simp [idle] at single
  · rcases kept with stopped | alone
    · simp [started] at stopped
    · exact absurd alone other
  · exact stays

theorem showsReason_next (kept : DispatchKept fsm inp) (acked : inp.haltAck hart = true)
    (shows_ : ShowsReason fsm hart reason) : ShowsReason (fsm.next inp) hart reason := by
  have awake := kept.awake hart acked
  cases reason with
  | singleStart =>
    by_cases own : fsm.OwnPhase hart .booting
    · exact Or.inl (ownPhase_kept acked awake own)
    · obtain booting | solo := shows_
      · exact absurd booting own
      · exact Or.inr (soloBoots_next solo acked awake (kept.single hart acked solo.2 own).2)
  | tmrStart | dmrStart | tmrShHalt | dmrShHalt | dmrIntcRecovery =>
    exact ownPhase_kept acked awake shows_

theorem outputs_of_showsReason (safe : PhasesSafe fsm) (shows_ : ShowsReason fsm hart reason) :
    fsm.startBootO inp = reason.boots ∧ fsm.enExtDebugReqO = false ∧
      (reason.boots = false →
        fsm.dmrRecO inp = decide (reason = .dmrIntcRecovery)) := by
  have booting : fsm.InPhase .booting →
      fsm.startBootO inp = true ∧ fsm.enExtDebugReqO = false := by
    intro held
    refine ⟨startBootO_iff.mpr (Or.inr held), ?_⟩
    rw [← Bool.not_eq_true, enExtDebugReqO_iff]
    rcases safe.mode _ held with (mode | mode) | ⟨mode, _⟩
    all_goals simp [mode]
  have other : ∀ phase, phase ≠ .booting → fsm.InPhase phase →
      fsm.startBootO inp = false ∧ fsm.enExtDebugReqO = false ∧
        fsm.dmrRecO inp = decide (phase = .recovering) := by
    intro phase different held
    have noBoot : ¬fsm.InPhase .booting := fun boots => different (safe.one _ _ held boots)
    have recovers : fsm.InPhase .recovering ↔ phase = .recovering :=
      ⟨fun recovering => safe.one _ _ held recovering, fun same => same ▸ held⟩
    refine ⟨?_, ?_, ?_⟩
    · rw [← Bool.not_eq_true, startBootO_iff]
      rintro (single | boots)
      · rcases safe.mode _ held with (mode | mode) | ⟨_, booting⟩
        · simp [mode] at single
        · simp [mode] at single
        · exact different booting
      · exact noBoot boots
    · rw [← Bool.not_eq_true, enExtDebugReqO_iff]
      rcases safe.mode _ held with (mode | mode) | ⟨mode, _⟩
      all_goals simp [mode]
    · rw [Bool.eq_iff_iff, dmrRecO_iff, recovers, decide_eq_true_iff]
  cases reason with
  | singleStart =>
    obtain own | solo := shows_
    · obtain ⟨boot, ext⟩ := booting ⟨hart, own⟩
      exact ⟨boot, ext, by simp [HaltReason.boots]⟩
    · refine ⟨startBootO_iff.mpr (Or.inl solo.1), ?_, by simp [HaltReason.boots]⟩
      rw [← Bool.not_eq_true, enExtDebugReqO_iff]
      simp [solo.1]
  | tmrStart | dmrStart =>
    obtain ⟨boot, ext⟩ := booting ⟨hart, shows_⟩
    exact ⟨boot, ext, by simp [HaltReason.boots]⟩
  | tmrShHalt | dmrShHalt =>
    obtain ⟨boot, ext, recovers⟩ := other .switching (by simp) ⟨hart, shows_⟩
    exact ⟨boot, ext, fun _ => by simpa using recovers⟩
  | dmrIntcRecovery =>
    obtain ⟨boot, ext, recovers⟩ := other .recovering (by simp) ⟨hart, shows_⟩
    exact ⟨boot, ext, fun _ => by simpa using recovers⟩

end Step

/-! ## Runs -/

/-- `Halt_ack` of `hart` rises in cycle `halted`, in which a machine requests the
halt for `reason`, and stays up until `read`. -/
structure HaltedBy (inputs : Nat → HostIn) (hart : Hart) (reason : HaltReason)
    (halted read : Nat) : Prop where
  requested : (controlledFsm.run inputs halted).fsm.Halts
    ((controlledFsm.run inputs halted).fsmIn (inputs halted)) hart reason
  rises : halted = 0 ∨ (inputs (halted - 1)).haltAck hart = false
  before : halted < read
  held : ∀ cycle, halted ≤ cycle → cycle < read → (inputs cycle).haltAck hart = true

/-- What `debug_entry` reads in cycle `read` is right for `reason`. -/
def ReadsReason (inputs : Nat → HostIn) (reason : HaltReason) (read : Nat) : Prop :=
  let ctrl := (controlledFsm.run inputs read).ctrl
  ctrl.rdata CtrlOffset.externalDebugReq = (if reason.boots then 2 else 0) ∧
    (reason.boots = false → (ctrl.rdata CtrlOffset.dmrRec ≠ 0 ↔ reason = .dmrIntcRecovery))

section Run
variable (inputs : Nat → HostIn)
  (kept : ∀ cycle, DispatchKept (controlledFsm.run inputs cycle).fsm
    ((controlledFsm.run inputs cycle).fsmIn (inputs cycle)))

include kept

theorem phasesSafe_run (cycle : Nat) : PhasesSafe (controlledFsm.run inputs cycle).fsm := by
  induction cycle with
  | zero => exact phasesSafe_reset
  | succ cycle ih => exact ih.next (kept cycle).phases

theorem showsReason_run {hart : Hart} {reason : HaltReason} {halted read : Nat}
    (by_ : HaltedBy inputs hart reason halted read) (later : Nat) (within : halted + later < read) :
    ShowsReason (controlledFsm.run inputs (halted + later)).fsm hart reason := by
  induction later with
  | zero =>
    exact showsReason_of_halts (kept halted) (by_.held halted le_rfl by_.before) by_.requested
  | succ later ih =>
    exact showsReason_next (kept (halted + later))
      (by_.held (halted + later) (by omega) (by omega)) (ih (by omega))

end Run

/-- In every run whose cycles all keep the dispatch, every read of a halted hart
shows the reason it was halted for. -/
theorem halted_hart_reads_reason (inputs : Nat → HostIn)
    (kept : ∀ cycle, DispatchKept (controlledFsm.run inputs cycle).fsm
      ((controlledFsm.run inputs cycle).fsmIn (inputs cycle)))
    (hart : Hart) (reason : HaltReason) (halted read : Nat)
    (by_ : HaltedBy inputs hart reason halted read) : ReadsReason inputs reason read := by
  obtain ⟨later, rfl⟩ : ∃ later, read = halted + later + 1 :=
    ⟨read - halted - 1, by have before := by_.before; omega⟩
  have shows_ := showsReason_run inputs kept by_ later (by omega)
  obtain ⟨boot, ext, recovers⟩ := outputs_of_showsReason (phasesSafe_run inputs kept _) shows_
  unfold ReadsReason
  simp only [Synchronous.Machine.run_succ]
  constructor
  · refine (ControlledFsm.next_externalDebugReq _ _).trans ?_
    rw [boot, ext]
    cases reason.boots <;> rfl
  · intro notBoot
    refine Iff.trans (not_congr (Eq.congr_left (ControlledFsm.next_dmrRec _ _))) ?_
    rw [recovers notBoot]
    cases reason <;> decide

/-! ## A boot in single mode -/

def RegReq.writing (offset : BitVec 6) (value : Word) : RegReq :=
  ⟨true, true, offset, value, 0b1111⟩

def HostIn.quiet : HostIn where
  req := ⟨false, false, 0, 0, 0⟩
  haltAck := fun _ => false
  sleep := fun _ => false
  hartIntcAck := fun _ => false
  tmrError := false
  dmrError := fun _ => false
  enableInterruptDe := false
  enableInterruptD := false

/-- The host writes `START` while every hart sleeps.  Hart 0 acknowledges the halt
of SINGLE_START in cycle 4, when the host issues `request`, and is halted up to
cycle 7. -/
def soloBoot (request : RegReq) : Nat → HostIn
  | 1 => { HostIn.quiet with req := .writing CtrlOffset.start 1, sleep := fun _ => true }
  | 4 => { HostIn.quiet with req := request, haltAck := oneHot 0 }
  | 5 | 6 | 7 => { HostIn.quiet with haltAck := oneHot 0 }
  | _ => .quiet

set_option maxRecDepth 8000 in
theorem soloBoot_haltedBy (request : RegReq) :
    HaltedBy (soloBoot request) 0 .singleStart 4 7 where
  requested := by
    -- the request comes too late to matter in cycle 4
    have same : controlledFsm.run (soloBoot request) 4 =
        controlledFsm.run (soloBoot HostIn.quiet.req) 4 := rfl
    rw [same]
    refine ⟨by decide, ?_⟩
    change HartWires.ofBits (controlledFsm.run (soloBoot HostIn.quiet.req) 4).ctrl.masterCore 0 =
      true
    decide
  rises := Or.inr rfl
  before := by omega
  held cycle after upto := by
    have member : cycle = 4 ∨ cycle = 5 ∨ cycle = 6 := by omega
    rcases member with rfl | rfl | rfl
    all_goals rfl

/-- The single machine runs, and nothing takes it out of SINGLE_MODE. -/
structure SoloRuns (sys : ControlledFsm) : Prop where
  safe : sys.fsm.ctrlSafe = .singleMode
  single : sys.fsm.ctrlSingle = .run
  tmr : ∀ hart, sys.fsm.ctrlTmr hart = .idle
  dmr : ∀ hart, sys.fsm.ctrlDmr hart = .idle
  start : sys.ctrl.start = true
  configuration : sys.ctrl.safeConfiguration = 0
  noEnd : sys.ctrl.endSwRoutine = false

theorem SoloRuns.next {sys : ControlledFsm} (runs : SoloRuns sys) :
    SoloRuns (sys.next .quiet) where
  safe := by
    change sys.fsm.ctrlSafeNext (sys.fsmIn .quiet) = .singleMode
    simp [SafeFsm.ctrlSafeNext, runs.safe, ControlledFsm.fsmIn, runs.start, runs.configuration,
      dualConfigured]
  single := by
    change sys.fsm.ctrlSingleNext (sys.fsmIn .quiet) = .run
    simp [SafeFsm.ctrlSingleNext, runs.single, ControlledFsm.fsmIn, runs.start, runs.configuration,
      runs.noEnd, dualConfigured]
  tmr hart := ctrlTmrNext_of_idle (runs.tmr hart) (by simp [SafeFsm.tmrStarts, runs.safe])
  dmr hart := ctrlDmrNext_of_idle (runs.dmr hart) (by simp [SafeFsm.dmrStarts, runs.safe])
  start := by
    change subregRw false _ sys.ctrl.endEdge false sys.ctrl.start = true
    simp [subregRw, SafeWrapperCtrl.endEdge, runs.noEnd, runs.start]
  configuration := runs.configuration
  noEnd := by
    change subregRw false _ sys.ctrl.startFlag false sys.ctrl.endSwRoutine = false
    simp [subregRw, runs.noEnd]

theorem phasesKept_of_none {fsm : SafeFsm} {inp : FsmIn}
    (none_ : ∀ hart, (fsm.ctrlTmr hart).phase = none ∧ (fsm.ctrlDmr hart).phase = none ∧
      fsm.tmrEnters inp hart = none ∧ fsm.dmrEnters inp hart = none) : PhasesKept fsm inp := by
  have noPhase : ∀ phase, ¬fsm.InPhase phase := by
    rintro phase ⟨hart, tmr | dmr⟩
    · simp [(none_ hart).1] at tmr
    · simp [(none_ hart).2.1] at dmr
  have noEntry : ∀ phase, ¬fsm.EntersPhase inp phase := by
    rintro phase ⟨hart, tmr | dmr⟩
    · simp [(none_ hart).2.2.1] at tmr
    · simp [(none_ hart).2.2.2] at dmr
  refine ⟨fun phase _ enters => absurd enters (noEntry phase),
    fun _ phase => ⟨noPhase phase, noEntry phase⟩, ?_, fun enters => absurd enters (noEntry _)⟩
  rintro - phase (held | enters)
  · exact absurd held (noPhase phase)
  · exact absurd enters (noEntry phase)

theorem SoloRuns.kept {sys : ControlledFsm} (runs : SoloRuns sys) :
    DispatchKept sys.fsm (sys.fsmIn .quiet) where
  phases := by
    apply phasesKept_of_none
    intro hart
    simp [runs.tmr, runs.dmr, CtrlTmrFsm.phase, CtrlDmrFsm.phase, SafeFsm.tmrEnters,
      SafeFsm.dmrEnters, SafeFsm.tmrStarts, SafeFsm.dmrStarts, runs.safe]
  awake hart acked := absurd acked (by simp [ControlledFsm.fsmIn, HostIn.quiet])
  single hart acked := absurd acked (by simp [ControlledFsm.fsmIn, HostIn.quiet])

set_option maxRecDepth 8000 in
theorem soloBoot_runs (later : Nat) :
    SoloRuns (controlledFsm.run (soloBoot HostIn.quiet.req) (later + 8)) := by
  induction later with
  | zero => exact ⟨rfl, rfl, by decide, by decide, rfl, rfl, rfl⟩
  | succ later ih =>
    rw [Nat.add_right_comm, Synchronous.Machine.run_succ]
    exact ih.next

set_option maxRecDepth 8000 in
theorem soloBoot_kept (cycle : Nat) :
    DispatchKept (controlledFsm.run (soloBoot HostIn.quiet.req) cycle).fsm
      ((controlledFsm.run (soloBoot HostIn.quiet.req) cycle).fsmIn
        (soloBoot HostIn.quiet.req cycle)) := by
  match cycle with
  | 0 | 1 | 2 | 3 | 4 | 5 | 6 | 7 =>
    exact ⟨phasesKept_of_none (by decide), by decide, by decide⟩
  | later + 8 => exact (soloBoot_runs later).kept

/-- Hart 0 reads 2 for as long as it is halted. -/
theorem soloBoot_reads_reason :
    ReadsReason (soloBoot HostIn.quiet.req) .singleStart 7 :=
  halted_hart_reads_reason (soloBoot HostIn.quiet.req) soloBoot_kept 0 .singleStart 4 7
    (soloBoot_haltedBy _)

set_option maxRecDepth 8000 in
/-- `SAFE_CONFIGURATION` written while hart 0 is halted to boot: in the first cycle
of TMR_MODE no machine shows the reason any more. -/
theorem configured_hart_reads_halt_boot :
    ¬∀ (inputs : Nat → HostIn) (hart : Hart) (reason : HaltReason) (halted read : Nat),
      HaltedBy inputs hart reason halted read → ReadsReason inputs reason read := by
  intro claimed
  have reads := claimed (soloBoot (.writing CtrlOffset.safeConfiguration 1)) 0 .singleStart 4 7
    (soloBoot_haltedBy _)
  exact absurd reads.1 (by decide)

end Eros
