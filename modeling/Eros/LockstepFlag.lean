import Eros.SafeFsm

/-!
# The lockstep flag

`Delayed_o` is held by `delay_ff`, which a delayed DMR machine sets and which
only a cycle with every hart asleep under the configuration `00` clears.  A run
of lockstep that ends with `End_sw` goes to idle with its configuration still in
place, and the flag stays up until such a cycle comes.
-/

set_option autoImplicit false

namespace Eros

/-- Some DMR machine is in one of its delayed states under the configuration
`11`. -/
def RunsDelayed (fsm : SafeFsm) (inp : FsmIn) : Prop :=
  inp.safeConfiguration = 0b11#2 ∧
    ∃ hart, fsm.ctrlDmr hart = .start ∨ fsm.ctrlDmr hart = .boot ∨
      fsm.ctrlDmr hart = .msIntrSync ∨ fsm.ctrlDmr hart = .sync ∨
      fsm.ctrlDmr hart = .intcRecovery ∨ fsm.ctrlDmr hart = .recovery

/-- Some TMR machine is outside its RESET and IDLE states. -/
def TmrActive (fsm : SafeFsm) : Prop :=
  ∃ hart, fsm.ctrlTmr hart ≠ .reset ∧ fsm.ctrlTmr hart ≠ .idle

/-- Every hart sleeps and no protected mode is configured. -/
def Disarmed (inp : FsmIn) : Prop :=
  inp.hartWfi.all = true ∧ inp.safeConfiguration = 0b00#2

theorem HartWires.any_eq_true_iff (wires : HartWires) :
    wires.any = true ↔ ∃ hart, wires hart = true := by
  unfold HartWires.any
  constructor
  · intro some
    rcases Bool.or_eq_true_iff.mp some with first | last
    · rcases Bool.or_eq_true_iff.mp first with zero | one
      · exact ⟨0, zero⟩
      · exact ⟨1, one⟩
    · exact ⟨2, last⟩
  · rintro ⟨hart, up⟩
    fin_cases hart <;> simp_all

theorem dmrOut_delayed_iff (isMaster lockstep : Bool) (state : CtrlDmrFsm) :
    (dmrOut isMaster lockstep state).delayed = true ↔
      lockstep = true ∧ (state = .start ∨ state = .boot ∨ state = .msIntrSync ∨ state = .sync ∨
        state = .intcRecovery ∨ state = .recovery) := by
  cases state <;> simp [dmrOut, DmrOut.default]

theorem delaySet_iff (fsm : SafeFsm) (inp : FsmIn) :
    fsm.delaySet inp = true ↔ RunsDelayed fsm inp := by
  unfold SafeFsm.delaySet RunsDelayed
  rw [HartWires.any_eq_true_iff]
  constructor
  · rintro ⟨hart, delayed⟩
    obtain ⟨configured, state⟩ := (dmrOut_delayed_iff _ _ _).mp delayed
    exact ⟨beq_iff_eq.mp configured, hart, state⟩
  · rintro ⟨configured, hart, state⟩
    exact ⟨hart, (dmrOut_delayed_iff _ _ _).mpr ⟨beq_iff_eq.mpr configured, state⟩⟩

theorem delayClear_iff (inp : FsmIn) : SafeFsm.delayClear inp = true ↔ Disarmed inp := by
  have bits : (!inp.safeConfiguration.getLsbD 0 && !inp.safeConfiguration.getLsbD 1) = true ↔
      inp.safeConfiguration = 0b00#2 := by
    generalize inp.safeConfiguration = configuration
    revert configuration
    decide
  unfold SafeFsm.delayClear Disarmed
  rw [Bool.and_assoc, Bool.and_eq_true, bits]

theorem RunsDelayed.not_disarmed {fsm : SafeFsm} {inp : FsmIn} (delayed : RunsDelayed fsm inp) :
    ¬Disarmed inp := by
  rintro ⟨_, none⟩
  rw [delayed.1] at none
  exact absurd none (by decide)

theorem delayFf_eq_latch (inputs : Nat → FsmIn) (cycle : Nat) :
    (safeFsm.run inputs cycle).delayFf =
      Synchronous.latch (fun index => SafeFsm.delayClear (inputs index))
        (fun index => (safeFsm.run inputs index).delaySet (inputs index)) cycle := by
  induction cycle with
  | zero => rfl
  | succ cycle ih =>
    rw [Synchronous.Machine.run_succ]
    simp only [Synchronous.latch, ← ih]
    rfl

/-- `Delayed_o` is up exactly when some machine runs delayed now, or did so in an
earlier cycle and no cycle since has disarmed the flag. -/
theorem delayedO_iff (inputs : Nat → FsmIn) (cycle : Nat) :
    (safeFsm.run inputs cycle).delayedO (inputs cycle) = true ↔
      ∃ origin, origin ≤ cycle ∧ RunsDelayed (safeFsm.run inputs origin) (inputs origin) ∧
        ∀ between, origin < between → between < cycle → ¬Disarmed (inputs between) := by
  unfold SafeFsm.delayedO
  rw [Bool.or_eq_true, delayFf_eq_latch, Synchronous.latch_eq_true_iff, delaySet_iff]
  constructor
  · rintro (⟨origin, before, setAt, quiet⟩ | now)
    · refine ⟨origin, before.le, (delaySet_iff _ _).mp setAt, ?_⟩
      intro between after upto disarmed
      have notCleared := quiet between after.le upto
      rw [(delayClear_iff _).mpr disarmed] at notCleared
      exact absurd notCleared (by decide)
    · exact ⟨cycle, le_rfl, now, fun between after upto => absurd upto (by omega)⟩
  · rintro ⟨origin, upto, delayed, quiet⟩
    rcases Nat.lt_or_eq_of_le upto with before | rfl
    · refine Or.inl ⟨origin, before, (delaySet_iff _ _).mpr delayed, ?_⟩
      intro between from_ earlier
      rw [← Bool.not_eq_true, delayClear_iff]
      rcases Nat.lt_or_eq_of_le from_ with after | rfl
      · exact quiet between after earlier
      · exact delayed.not_disarmed
    · exact Or.inr delayed

/-- In every run the delay stays out of triple redundancy if and only if every
delayed cycle is followed by a disarming one before a TMR machine is active. -/
theorem delay_stays_in_lockstep_iff (inputs : Nat → FsmIn) :
    (∀ cycle, TmrActive (safeFsm.run inputs cycle) →
        (safeFsm.run inputs cycle).delayedO (inputs cycle) = false) ↔
      ∀ origin cycle, origin ≤ cycle →
        RunsDelayed (safeFsm.run inputs origin) (inputs origin) →
        TmrActive (safeFsm.run inputs cycle) →
        ∃ between, origin < between ∧ between < cycle ∧ Disarmed (inputs between) := by
  constructor
  · intro confined origin cycle upto delayed active
    by_contra armed
    have up : (safeFsm.run inputs cycle).delayedO (inputs cycle) = true := by
      refine (delayedO_iff inputs cycle).mpr ⟨origin, upto, delayed, ?_⟩
      intro between after earlier disarmed
      exact armed ⟨between, after, earlier, disarmed⟩
    rw [confined cycle active] at up
    exact absurd up (by decide)
  · intro disarms cycle active
    rw [← Bool.not_eq_true, delayedO_iff]
    rintro ⟨origin, upto, delayed, quiet⟩
    obtain ⟨between, after, earlier, disarmed⟩ := disarms origin cycle upto delayed active
    exact quiet between after earlier disarmed

/-! ## A lockstep run that ends with `End_sw` -/

/-- Harts 0 and 1 awake as a pair, the software started, under `configuration`. -/
def pairIn (configuration : BitVec 2) : FsmIn where
  dmrMask := fun hart => decide (hart ≠ 2)
  tmrCriticalSection := false
  safeConfiguration := configuration
  initialSyncMaster := false
  haltAck := fun _ => false
  hartWfi := fun hart => decide (hart = 2)
  hartIntcAck := fun _ => false
  masterCore := oneHot 0
  tmrError := false
  dmrError := fun _ => false
  start := true
  endSwRoutine := false

/-- Power-on and entry into dual redundancy: every hart sleeps in cycle 1, the
pair acknowledges its halt in cycle 4 and runs from cycle 6. -/
def enterPair (configuration : BitVec 2) : Nat → FsmIn
  | 1 => { pairIn configuration with hartWfi := fun _ => true }
  | 4 => { pairIn configuration with haltAck := fun hart => decide (hart ≠ 2) }
  | _ => pairIn configuration

/-- The lockstep software ends in cycle 6, and triple redundancy is configured
and started in cycle 8. -/
def endSwThenTmr (cycle : Nat) : FsmIn :=
  if cycle < 6 then enterPair 0b11#2 cycle
  else if cycle = 6 then
    { pairIn 0b11#2 with hartWfi := fun _ => true, endSwRoutine := true }
  else if cycle = 7 then
    { pairIn 0b11#2 with hartWfi := fun _ => true, start := false }
  else { pairIn 0b01#2 with hartWfi := fun _ => true }

set_option maxRecDepth 4000 in
theorem delay_leaks_after_endSw :
    ¬∀ (inputs : Nat → FsmIn) (cycle : Nat), TmrActive (safeFsm.run inputs cycle) →
      (safeFsm.run inputs cycle).delayedO (inputs cycle) = false := by
  intro confined
  have active : TmrActive (safeFsm.run endSwThenTmr 10) := ⟨0, by decide, by decide⟩
  have up : (safeFsm.run endSwThenTmr 10).delayedO (endSwThenTmr 10) = true := by decide
  rw [confined endSwThenTmr 10 active] at up
  exact absurd up (by decide)

end Eros
