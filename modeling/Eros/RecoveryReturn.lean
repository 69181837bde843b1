import Eros.ModeStart

/-!
# Recovery returns

An error taken in a protected mode sends the group through its recovery states.
With harts that answer, the group is back in SYNC within a bound, and the voters or
the comparator watch it all the way.
-/

set_option autoImplicit false

namespace Eros

open Progress (Throughout Soon LeadsTo)

/-! ## Triple redundancy -/

/-- The harts take the resynchronisation interrupt and leave its handler within
`delay` cycles, together. -/
structure HandlesResync (inputs : Nat → FsmIn) (delay : Nat) : Prop where
  acks : ∀ cycle, Throughout delay cycle (fun later => ∀ hart,
      (safeFsm.run inputs later).interruptSwResyncO (inputs later) hart = true) →
    Soon delay cycle fun later => (inputs later).hartIntcAck.all
  withdraws : ∀ cycle, Throughout delay cycle (fun later => ∀ hart,
      (safeFsm.run inputs later).ctrlTmr hart = .swSync) →
    Soon delay cycle fun later => (inputs later).hartIntcAck.none

def TmrAll (inputs : Nat → FsmIn) (state : CtrlTmrFsm) (cycle : Nat) : Prop :=
  ∀ hart, (safeFsm.run inputs cycle).ctrlTmr hart = state

/-- All harts are interrupted and voted. -/
def Resyncs (fsm : SafeFsm) (inp : FsmIn) : Prop :=
  fsm.tmrVoterEnableO inp = true ∧ ∀ hart, fsm.interruptSwResyncO inp hart = true

section Triple
variable {inputs : Nat → FsmIn} {delay : Nat}

theorem resyncs_of_all {state : CtrlTmrFsm} (recovers : state.recovers = true) {cycle : Nat}
    (all : TmrAll inputs state cycle) : Resyncs (safeFsm.run inputs cycle) (inputs cycle) := by
  have interrupted : ∀ hart,
      (safeFsm.run inputs cycle).interruptSwResyncO (inputs cycle) hart = true := by
    intro hart
    cases state <;> simp_all [SafeFsm.interruptSwResyncO, SafeFsm.tmr, tmrOut, all hart,
      CtrlTmrFsm.recovers]
  refine ⟨?_, interrupted⟩
  have votes : ((safeFsm.run inputs cycle).tmr (inputs cycle) 0).voterEnable = true := by
    unfold SafeFsm.tmr
    rw [all 0, tmrOut_voterEnable]
    cases state <;> simp_all [CtrlTmrFsm.recovers, CtrlTmrFsm.engaged]
  simp [SafeFsm.tmrVoterEnableO, HartWires.any, votes]

/-- Back in SYNC with nothing left of the error. -/
def Resynced (fsm : SafeFsm) : Prop :=
  Synced fsm ∧ fsm.tmrErrorFf0 = false ∧ fsm.tmrErrorFf1 = false

theorem syncIntc_leadsTo_swSync (handles : HandlesResync inputs delay) :
    LeadsTo (delay + 1) (TmrAll inputs .syncIntc)
      (fun cycle => Resyncs (safeFsm.run inputs cycle) (inputs cycle)) (TmrAll inputs .swSync) := by
  have waits : LeadsTo (delay + 1) (TmrAll inputs .syncIntc) (TmrAll inputs .syncIntc)
      (TmrAll inputs .swSync) := by
    refine LeadsTo.of_wait (fun cycle => (inputs cycle).hartIntcAck.all) ?_ ?_ ?_
    · intro cycle all quiet hart
      change (safeFsm.run inputs cycle).ctrlTmrNext (inputs cycle) hart = .syncIntc
      simp only [SafeFsm.ctrlTmrNext, all hart]
      exact if_neg (by simp [quiet])
    · intro cycle all acked hart
      change (safeFsm.run inputs cycle).ctrlTmrNext (inputs cycle) hart = .swSync
      simp only [SafeFsm.ctrlTmrNext, all hart]
      exact if_pos acked
    · intro cycle held
      exact handles.acks cycle fun between since until_ =>
        (resyncs_of_all rfl (held between since until_)).2
  exact waits.weaken le_rfl fun cycle all => resyncs_of_all rfl all

theorem swSync_leadsTo_sync (handles : HandlesResync inputs delay) :
    LeadsTo (delay + 1) (TmrAll inputs .swSync)
      (fun cycle => Resyncs (safeFsm.run inputs cycle) (inputs cycle))
      (fun cycle => Resynced (safeFsm.run inputs cycle)) := by
  have waits : LeadsTo (delay + 1) (TmrAll inputs .swSync) (TmrAll inputs .swSync)
      (fun cycle => Resynced (safeFsm.run inputs cycle)) := by
    refine LeadsTo.of_wait (fun cycle => (inputs cycle).hartIntcAck.none) ?_ ?_ ?_
    · intro cycle all busy hart
      change (safeFsm.run inputs cycle).ctrlTmrNext (inputs cycle) hart = .swSync
      simp only [SafeFsm.ctrlTmrNext, all hart]
      exact if_neg (by simp [busy])
    · intro cycle all withdrawn
      have returns : ∀ hart,
          (safeFsm.run inputs cycle).ctrlTmrNext (inputs cycle) hart = .sync := by
        intro hart
        simp only [SafeFsm.ctrlTmrNext, all hart]
        exact if_pos withdrawn
      have outside : ¬Synced (safeFsm.run inputs cycle) := by
        intro synced
        have sync := synced 0
        rw [all 0] at sync
        cases sync
      have steady : (safeFsm.run inputs cycle).errorRises (inputs cycle) = false := by
        simp [SafeFsm.errorRises, HartWires.any, all 0, all 1, all 2]
      exact ⟨returns, tmrErrorFf_of_outside outside steady⟩
    · intro cycle held
      exact handles.withdraws cycle held
  exact waits.weaken le_rfl fun cycle all => resyncs_of_all rfl all

end Triple

/-- A triple recovery always returns: an error that the three machines take in SYNC
has them back in SYNC, with a clear error history, within twice the delay of the
harts, and up to then every hart is interrupted and the voters are on. -/
theorem tmr_recovery_returns (inputs : Nat → FsmIn) (delay cycle : Nat)
    (synced : Synced (safeFsm.run inputs cycle))
    (taken : TmrTakesError (safeFsm.run inputs cycle) (inputs cycle) 0)
    (handles : HandlesResync inputs delay) :
    ∃ later, cycle < later ∧ later ≤ cycle + 2 * delay + 3 ∧
      Resynced (safeFsm.run inputs later) ∧
      ∀ between, cycle < between → between < later →
        Resyncs (safeFsm.run inputs between) (inputs between) := by
  have leaves : TmrAll inputs .syncIntc (cycle + 1) := by
    intro hart
    obtain ⟨-, stays, error⟩ := taken
    exact TmrTakesError.next ⟨synced hart, stays, error⟩
  have returns := (syncIntc_leadsTo_swSync handles).trans (swSync_leadsTo_sync handles)
  obtain ⟨later, since, until_, resynced, along⟩ := returns (cycle + 1) leaves
  exact ⟨later, by omega, by omega, resynced, fun between after before =>
    along between (by omega) before⟩

/-- A trio that starts as before, sees a voter error in cycle 8 and acknowledges
the interrupt in cycle 9 only. -/
def trioResyncs : Nat → FsmIn
  | 8 => { trioIn 0b01#2 with tmrError := true }
  | 9 => { trioIn 0b01#2 with hartIntcAck := fun _ => true }
  | cycle => trioStarts cycle

set_option maxRecDepth 8000 in
theorem trioResyncs_runs (later : Nat) : TmrBoots (safeFsm.run trioResyncs (later + 11)) ∧
    Synced (safeFsm.run trioResyncs (later + 11)) := by
  induction later with
  | zero => exact ⟨⟨by decide, by decide, by decide, by decide, by decide⟩, by decide⟩
  | succ later ih =>
    obtain ⟨boots, synced⟩ := ih
    exact ⟨boots.next rfl rfl rfl fun _ _ => rfl,
      fun hart => boots.sync_next (fun _ _ => rfl) rfl rfl (synced hart)⟩

set_option maxRecDepth 8000 in
theorem trioResyncs_interrupted {cycle : Nat}
    (interrupted : (safeFsm.run trioResyncs cycle).interruptSwResyncO (trioResyncs cycle) 0 = true) :
    cycle = 9 ∨ cycle = 10 := by
  match cycle with
  | 0 | 1 | 2 | 3 | 4 | 5 | 6 | 7 | 8 => exact absurd interrupted (by decide)
  | 9 => exact Or.inl rfl
  | 10 => exact Or.inr rfl
  | later + 11 =>
    have sync := (trioResyncs_runs later).2 0
    simp [SafeFsm.interruptSwResyncO, SafeFsm.tmr, sync, tmrOut, TmrOut.zero] at interrupted

theorem trioResyncs_handles : HandlesResync trioResyncs 1 where
  acks cycle held := by
    have now := trioResyncs_interrupted (held cycle le_rfl (by omega) 0)
    have soon := trioResyncs_interrupted (held (cycle + 1) (by omega) le_rfl 0)
    exact ⟨9, by omega, by omega, rfl⟩
  withdraws cycle held := by
    have resyncs : ∀ later, cycle ≤ later → later ≤ cycle + 1 → later = 9 ∨ later = 10 := by
      intro later since until_
      exact trioResyncs_interrupted ((resyncs_of_all rfl (held later since until_)).2 0)
    have now := resyncs cycle le_rfl (by omega)
    have soon := resyncs (cycle + 1) (by omega) le_rfl
    exact ⟨10, by omega, by omega, rfl⟩

set_option maxRecDepth 8000 in
theorem trioResyncs_returns : ∃ later, 8 < later ∧ later ≤ 13 ∧
    Resynced (safeFsm.run trioResyncs later) ∧
    ∀ between, 8 < between → between < later →
      Resyncs (safeFsm.run trioResyncs between) (trioResyncs between) :=
  tmr_recovery_returns trioResyncs 1 8 (by decide) (by decide) trioResyncs_handles

/-! ## Dual redundancy -/

section Dual
variable {fsm : SafeFsm} {inp : FsmIn} {hart : Hart}

theorem ctrlDmrNext_stop (state : fsm.ctrlDmr hart = .stop) :
    fsm.ctrlDmrNext inp hart = if inp.hartWfi.all then .intcRecovery else .stop := by
  simp only [SafeFsm.ctrlDmrNext, state]

theorem ctrlDmrNext_intcRecovery (state : fsm.ctrlDmr hart = .intcRecovery) :
    fsm.ctrlDmrNext inp hart = if inp.haltAck hart then .recovery else .intcRecovery := by
  simp only [SafeFsm.ctrlDmrNext, state]

theorem ctrlDmrNext_recovery (state : fsm.ctrlDmr hart = .recovery) :
    fsm.ctrlDmrNext inp hart = if inp.haltAck hart then .recovery else .sync := by
  simp only [SafeFsm.ctrlDmrNext, state]

theorem interruptHaltO_of_intcRecovery (state : fsm.ctrlDmr hart = .intcRecovery) :
    fsm.interruptHaltO inp hart = true := by
  simp [SafeFsm.interruptHaltO, SafeFsm.dmr, dmrOut, DmrOut.default, state]

end Dual

def PairAll (inputs : Nat → FsmIn) (pair : HartWires) (state : CtrlDmrFsm) (cycle : Nat) : Prop :=
  ∀ hart, pair hart = true → (safeFsm.run inputs cycle).ctrlDmr hart = state

/-- Every hart of the pair is halted to recover from the checkpoint. -/
def PairRecovers (fsm : SafeFsm) (inp : FsmIn) (pair : HartWires) : Prop :=
  ∀ hart, pair hart = true → fsm.interruptHaltO inp hart = true ∧ fsm.dmrRecO inp = true

section DualRun
variable {inputs : Nat → FsmIn} {delay cycle : Nat} {pair : HartWires}

theorem stop_leadsTo_intcRecovery
    (sleeps : ∀ cycle, Throughout delay cycle (fun later => ∀ hart, pair hart = true →
        (safeFsm.run inputs later).wfiDmrO (inputs later) hart = true) →
      Soon delay cycle fun later => (inputs later).hartWfi.all) :
    LeadsTo (delay + 1) (PairAll inputs pair .stop) (PairAll inputs pair .stop)
      (PairAll inputs pair .intcRecovery) := by
  refine LeadsTo.of_wait (fun cycle => (inputs cycle).hartWfi.all) ?_ ?_ ?_
  · intro cycle all awake hart masked
    exact (ctrlDmrNext_stop (all hart masked)).trans (if_neg (by simp [awake]))
  · intro cycle all asleep hart masked
    exact (ctrlDmrNext_stop (all hart masked)).trans (if_pos asleep)
  · intro cycle held
    refine sleeps cycle fun between since until_ hart masked => ?_
    exact dmrOut_wfiDmr.mpr (held between since until_ hart masked)

theorem dmrKept_after (kept : DmrKept (safeFsm.run inputs cycle))
    (started : ∀ later, cycle ≤ later → (inputs later).start = true)
    (awake : ∀ later, cycle ≤ later → ∀ hart,
      (safeFsm.run inputs later).ctrlDmr hart = .sync → (inputs later).hartWfi.all = false)
    (elapsed : Nat) : DmrKept (safeFsm.run inputs (cycle + elapsed)) := by
  induction elapsed with
  | zero => exact kept
  | succ elapsed ih =>
    have since : cycle ≤ cycle + elapsed := by omega
    exact ih.next (started _ since) (awake _ since)

end DualRun

/-- A dual recovery always returns: an error that a pair takes in SYNC has both harts
halted in one cycle to recover from the checkpoint, and both are back in SYNC within
three times the delay of the harts and stay there. -/
theorem dmr_recovery_returns (inputs : Nat → FsmIn) (delay cycle : Nat) (pair : HartWires)
    (kept : DmrKept (safeFsm.run inputs cycle)) (running : PairAll inputs pair .sync cycle)
    (error : SafeFsm.dmrErrorS (inputs cycle) = true)
    (awake : (inputs cycle).hartWfi.all = false)
    (started : ∀ later, cycle ≤ later → (inputs later).start = true)
    (undisturbed : ∀ later, cycle < later →
      DmrUndisturbed (safeFsm.run inputs later) (inputs later))
    (sleeps : ∀ cycle, Throughout delay cycle (fun later => ∀ hart, pair hart = true →
        (safeFsm.run inputs later).wfiDmrO (inputs later) hart = true) →
      Soon delay cycle fun later => (inputs later).hartWfi.all)
    (harts : HartsAnswer inputs delay) :
    (∃ halted, cycle < halted ∧ halted ≤ cycle + delay + 2 ∧
      PairRecovers (safeFsm.run inputs halted) (inputs halted) pair) ∧
    ∀ later, cycle + 3 * delay + 4 ≤ later →
      (safeFsm.run inputs later).ctrlSafe = .dmrMode ∧ PairAll inputs pair .sync later := by
  have stops : PairAll inputs pair .stop (cycle + 1) :=
    fun hart masked => DmrTakesError.next ⟨running hart masked, awake, error⟩
  have keeps : ∀ later, cycle ≤ later → DmrKept (safeFsm.run inputs later) := by
    intro later since
    obtain ⟨elapsed, rfl⟩ := Nat.exists_eq_add_of_le since
    refine dmrKept_after kept started (fun later from_ hart sync => ?_) elapsed
    rcases Nat.eq_or_lt_of_le from_ with rfl | after
    · exact awake
    · exact (undisturbed later after hart sync).2
  obtain ⟨halted, since, until_, recovers, -⟩ := stop_leadsTo_intcRecovery sleeps (cycle + 1) stops
  refine ⟨⟨halted, by omega, by omega, fun hart masked => ⟨?_, ?_⟩⟩, fun later late => ?_⟩
  · exact interruptHaltO_of_intcRecovery (recovers hart masked)
  · unfold SafeFsm.dmrRecO
    rw [HartWires.any_eq_true_iff]
    exact ⟨hart, dmrOut_dmrRec.mpr (Or.inl (recovers hart masked))⟩
  · refine ⟨(keeps later (by omega)).mode, fun hart masked => ?_⟩
    have round : HaltRound inputs (fun fsm => fsm.ctrlDmr hart) hart halted
        .intcRecovery .recovery .sync := {
      asks := fun cycle from_ state =>
        ⟨interruptHaltO_of_intcRecovery state, ctrlDmrNext_intcRecovery state⟩
      releases := fun between from_ state =>
        ⟨(keeps between (by omega)).released (by simp [state]) (by simp [state]),
          ctrlDmrNext_recovery state⟩
      stays := fun between from_ state => ctrlDmrNext_sync (undisturbed between (by omega)) state }
    exact round.completes harts (recovers hart masked) later (by omega)

/-- A pair that starts, sees a comparator error in cycle 8, sleeps in cycle 10 and
halts for one cycle. -/
def pairReturns : Nat → FsmIn
  | 1 | 10 => { pairIn 0b10#2 with hartWfi := fun _ => true }
  | 5 | 12 => { pairIn 0b10#2 with haltAck := fun hart => decide (hart ≠ 2) }
  | 8 => { pairIn 0b10#2 with dmrError := fun _ => true }
  | _ => pairIn 0b10#2

set_option maxRecDepth 8000 in
theorem pairReturns_runs (later : Nat) : DmrKept (safeFsm.run pairReturns (later + 14)) ∧
    (safeFsm.run pairReturns (later + 14)).ctrlDmr 0 = .sync ∧
    (safeFsm.run pairReturns (later + 14)).ctrlDmr 1 = .sync ∧
    (safeFsm.run pairReturns (later + 14)).ctrlDmr 2 = .idle := by
  induction later with
  | zero =>
    exact ⟨⟨by decide, by decide, by decide, by decide⟩, by decide, by decide, by decide⟩
  | succ later ih =>
    obtain ⟨kept, first, second, third⟩ := ih
    have calm : DmrUndisturbed (safeFsm.run pairReturns (later + 14))
        (pairReturns (later + 14)) := fun _ _ => ⟨rfl, rfl⟩
    refine ⟨kept.next rfl fun _ _ => rfl, ctrlDmrNext_sync calm first,
      ctrlDmrNext_sync calm second, ?_⟩
    exact ctrlDmrNext_of_starts third kept.mode rfl kept.single

set_option maxRecDepth 8000 in
theorem pairReturns_halted {hart : Hart} {cycle : Nat}
    (halted : (safeFsm.run pairReturns cycle).interruptHaltO (pairReturns cycle) hart = true) :
    (cycle = 4 ∨ cycle = 5 ∨ cycle = 11 ∨ cycle = 12) ∧ hart ≠ 2 := by
  match cycle with
  | 0 | 1 | 2 | 3 | 4 | 5 | 6 | 7 | 8 | 9 | 10 | 11 | 12 | 13 =>
    revert halted hart
    decide
  | later + 14 =>
    obtain ⟨kept, first, second, third⟩ := pairReturns_runs later
    have released : (safeFsm.run pairReturns (later + 14)).interruptHaltO
        (pairReturns (later + 14)) hart = false := by
      fin_cases hart
      · exact kept.released (by simp [first]) (by simp [first])
      · exact kept.released (by simp [second]) (by simp [second])
      · exact kept.released (by simp [third]) (by simp [third])
    rw [released] at halted
    cases halted

theorem pairReturns_acked {hart : Hart} {cycle : Nat}
    (acked : (pairReturns cycle).haltAck hart = true) : (cycle = 5 ∨ cycle = 12) ∧ hart ≠ 2 := by
  match cycle with
  | 0 | 1 | 2 | 3 | 4 | 6 | 7 | 8 | 9 | 10 | 11 => cases acked
  | 5 => exact ⟨Or.inl rfl, of_decide_eq_true acked⟩
  | 12 => exact ⟨Or.inr rfl, of_decide_eq_true acked⟩
  | later + 13 => cases acked

set_option maxRecDepth 8000 in
theorem pairReturns_answer : HartsAnswer pairReturns 1 where
  halts hart cycle held := by
    obtain ⟨now, paired⟩ := pairReturns_halted (held cycle le_rfl (by omega))
    obtain ⟨soon, -⟩ := pairReturns_halted (held (cycle + 1) (by omega) le_rfl)
    obtain rfl | rfl : cycle = 4 ∨ cycle = 11 := by omega
    · exact ⟨5, by omega, by omega, decide_eq_true paired⟩
    · exact ⟨12, by omega, by omega, decide_eq_true paired⟩
  resumes hart cycle _ := by
    by_cases now : (pairReturns cycle).haltAck hart = true
    · have at_ := (pairReturns_acked now).1
      refine ⟨cycle + 1, by omega, by omega, ?_⟩
      rw [Bool.not_eq_true', ← Bool.not_eq_true]
      intro again
      have next := (pairReturns_acked again).1
      omega
    · exact ⟨cycle, le_rfl, by omega, by simpa using now⟩
  asked hart cycle acked := by
    obtain ⟨at_, paired⟩ := pairReturns_acked acked
    obtain rfl | rfl : cycle = 4 ∨ cycle = 11 := by omega
    · right
      revert hart
      decide
    · right
      revert hart
      decide

set_option maxRecDepth 8000 in
theorem pairReturns_returns :
    (∃ halted, 8 < halted ∧ halted ≤ 11 ∧
      PairRecovers (safeFsm.run pairReturns halted) (pairReturns halted)
        fun hart => decide (hart ≠ 2)) ∧
    ∀ later, 15 ≤ later → (safeFsm.run pairReturns later).ctrlSafe = .dmrMode ∧
      PairAll pairReturns (fun hart => decide (hart ≠ 2)) .sync later := by
  refine dmr_recovery_returns pairReturns 1 8 _ ⟨by decide, by decide, by decide, by decide⟩ ?_
    (by decide) (by decide) ?_ ?_ ?_ pairReturns_answer
  · intro hart paired
    revert hart
    decide
  · intro later since
    unfold pairReturns
    split <;> rfl
  · intro later since hart sync
    match later with
    | 9 | 10 | 11 | 12 | 13 =>
      revert hart
      decide
    | later + 14 => exact ⟨rfl, rfl⟩
  · intro cycle held
    have isolated : ∀ later, cycle ≤ later → later ≤ cycle + 1 → later = 9 ∨ later = 10 := by
      intro later since until_
      have isolates := held later since until_ 0 (by decide)
      match later with
      | 0 | 1 | 2 | 3 | 4 | 5 | 6 | 7 | 8 | 11 | 12 | 13 => exact absurd isolates (by decide)
      | 9 => exact Or.inl rfl
      | 10 => exact Or.inr rfl
      | later + 14 =>
        have stop := dmrOut_wfiDmr.mp isolates
        rw [(pairReturns_runs later).2.1] at stop
        cases stop
    have now := isolated cycle le_rfl (by omega)
    have soon := isolated (cycle + 1) (by omega) le_rfl
    exact ⟨10, by omega, by omega, rfl⟩

end Eros
