import Eros.ModeSwitch

/-!
# The return from triple redundancy to single mode

All harts sleep with the configuration back at single mode.  The machine of the
master interrupts its hart and waits for the acknowledge; the single machine takes
over in RUN while it waits, and in START, which halts and boots the master anew, when
it is gone already.
-/

set_option autoImplicit false

namespace Eros

/-- The trio is about to leave: SYNC with all harts asleep. -/
structure TrioLeaves (fsm : SafeFsm) (inp : FsmIn) : Prop where
  mode : fsm.ctrlSafe = .tmrMode
  single : fsm.ctrlSingle = .idle
  dmr : ∀ hart, fsm.ctrlDmr hart = .idle
  synced : Synced fsm
  asleep : inp.hartWfi.all = true

/-- The machines below the top one after the trio has left. -/
structure Returning (fsm : SafeFsm) : Prop where
  dmr : ∀ hart, fsm.ctrlDmr hart = .idle
  tmr : ∀ hart, fsm.ctrlTmr hart = .endSync ∨ fsm.ctrlTmr hart = .idle

section Step
variable {fsm : SafeFsm} {inp : FsmIn} {master hart : Hart}

theorem ctrlTmrNext_endSync_eq (named : inp.masterCore = oneHot master)
    (state : fsm.ctrlTmr hart = .endSync) :
    fsm.ctrlTmrNext inp hart =
      if (if hart = master then inp.hartIntcAck hart else inp.hartWfi hart) then .idle
      else .endSync := by
  simp only [SafeFsm.ctrlTmrNext, state, named, oneHot]
  by_cases same : hart = master <;> simp [same]

theorem Returning.interruptHaltO (returning : Returning fsm) (quiet : fsm.ctrlSingle ≠ .start) :
    fsm.interruptHaltO inp hart = false := by
  apply interruptHaltO_of_quiet
  · cases single : fsm.ctrlSingle <;> simp_all [SafeFsm.single, singleOut]
  · rcases returning.tmr hart with state | state <;>
      simp [SafeFsm.tmr, tmrOut, TmrOut.zero, state]
  · simp [SafeFsm.dmr, dmrOut, DmrOut.default, returning.dmr hart]
  · simp [SafeFsm.dmr, dmrOut, DmrOut.default, returning.dmr hart]

theorem Returning.switchTmrToSingle_any (returning : Returning fsm)
    (named : inp.masterCore = oneHot master) :
    (fsm.switchTmrToSingle inp).any = decide (fsm.ctrlTmr master = .endSync) := by
  have asks : ∀ hart, fsm.switchTmrToSingle inp hart =
      (decide (hart = master) && decide (fsm.ctrlTmr hart = .endSync)) := by
    intro hart
    unfold SafeFsm.switchTmrToSingle SafeFsm.tmr
    rw [named]
    rcases returning.tmr hart with state | state <;> simp [state, tmrOut, TmrOut.zero, oneHot]
  rw [Bool.eq_iff_iff, HartWires.any_eq_true_iff]
  simp only [asks, Bool.and_eq_true, decide_eq_true_eq]
  constructor
  · rintro ⟨hart, rfl, state⟩
    exact state
  · intro state
    exact ⟨master, rfl, state⟩

theorem Returning.switchDmrToSingle_any (returning : Returning fsm) :
    (fsm.switchDmrToSingle inp).any = false := by
  simp [HartWires.any, SafeFsm.switchDmrToSingle, SafeFsm.dmr, dmrOut, DmrOut.default,
    returning.dmr]

theorem Returning.next (returning : Returning fsm) (named : inp.masterCore = oneHot master)
    (mode : fsm.ctrlSafe = .singleMode ∨ ∀ hart, fsm.ctrlTmr hart = .endSync)
    (other : fsm.ctrlSafe ≠ .dmrMode) : Returning (fsm.next inp) where
  dmr hart := ctrlDmrNext_of_otherMode (returning.dmr hart) other
  tmr hart := by
    change fsm.ctrlTmrNext inp hart = .endSync ∨ fsm.ctrlTmrNext inp hart = .idle
    rcases returning.tmr hart with state | state
    · rw [ctrlTmrNext_endSync_eq named state]
      split_ifs <;> simp
    · rcases mode with single | ending
      · exact Or.inr (ctrlTmrNext_of_otherMode state (by simp [single]))
      · rw [ending] at state
        cases state

theorem TrioLeaves.next (leaves : TrioLeaves fsm inp) (started : inp.start = true)
    (running : inp.endSwRoutine = false) (configured : inp.safeConfiguration = 0b00#2) :
    (fsm.next inp).ctrlSafe = .tmrMode ∧ (fsm.next inp).ctrlSingle = .idle ∧
      (∀ hart, (fsm.next inp).ctrlTmr hart = .endSync) ∧ Returning (fsm.next inp) := by
  have ending : ∀ hart, fsm.ctrlTmrNext inp hart = .endSync := by
    intro hart
    simp [SafeFsm.ctrlTmrNext, leaves.synced hart, leaves.asleep, running, configured]
  have dmr : ∀ hart, fsm.ctrlDmrNext inp hart = .idle :=
    fun hart => ctrlDmrNext_of_otherMode (leaves.dmr hart) (by simp [leaves.mode])
  refine ⟨?_, ctrlSingleNext_of_idle leaves.single (Or.inl (by simp [leaves.mode])), ending,
    ⟨dmr, fun hart => Or.inl (ending hart)⟩⟩
  refine ctrlSafeNext_of_tmrKept leaves.mode started fun hart ended => ?_
  rw [leaves.synced hart] at ended
  cases ended

/-- Single mode in RUN, with nothing of the trio left but machines on their way to
IDLE. -/
structure ContinuesAlone (fsm : SafeFsm) : Prop where
  mode : fsm.ctrlSafe = .singleMode
  single : fsm.ctrlSingle = .run
  returning : Returning fsm

theorem ContinuesAlone.next (continues : ContinuesAlone fsm) (started : inp.start = true)
    (running : inp.endSwRoutine = false) (configured : inp.safeConfiguration = 0b00#2)
    (named : inp.masterCore = oneHot master) : ContinuesAlone (fsm.next inp) where
  mode := by
    change fsm.ctrlSafeNext inp = .singleMode
    simp [SafeFsm.ctrlSafeNext, continues.mode, started, configured, dualConfigured]
  single := ctrlSingleNext_run continues.single started running configured
  returning := continues.returning.next named (Or.inl continues.mode) (by simp [continues.mode])

end Step

section Run
variable {inputs : Nat → FsmIn} {first : Nat} {master : Hart}
  (kept : KeptRunning inputs 0b00#2 first)
  (leaves : TrioLeaves (safeFsm.run inputs first) (inputs first))
  (named : ∀ cycle, first ≤ cycle → (inputs cycle).masterCore = oneHot master)
include kept leaves

theorem trio_ending : (safeFsm.run inputs (first + 1)).ctrlSafe = .tmrMode ∧
    (safeFsm.run inputs (first + 1)).ctrlSingle = .idle ∧
    (∀ hart, (safeFsm.run inputs (first + 1)).ctrlTmr hart = .endSync) ∧
    Returning (safeFsm.run inputs (first + 1)) :=
  leaves.next (kept.start _ le_rfl) (kept.endSw _ le_rfl) (kept.configured _ le_rfl)

include named

/-- The single machine takes over in the second cycle, with the master's machine still
waiting unless its hart has acknowledged at once. -/
theorem single_takes_over :
    (safeFsm.run inputs (first + 2)).ctrlSafe = .singleMode ∧
      (safeFsm.run inputs (first + 2)).ctrlSingle = .idle ∧
      Returning (safeFsm.run inputs (first + 2)) ∧
      (safeFsm.run inputs (first + 2)).ctrlTmr master =
        if (inputs (first + 1)).hartIntcAck master then .idle else .endSync := by
  obtain ⟨mode, single, ending, returning⟩ := trio_ending kept leaves
  have master_ := named (first + 1) (by omega)
  have other : (safeFsm.run inputs (first + 1)).ctrlSafe ≠ .singleMode := by
    rw [mode]
    decide
  have switches := returning.switchTmrToSingle_any master_
  rw [ending master, decide_eq_true rfl] at switches
  refine ⟨?_, ctrlSingleNext_of_idle single (Or.inl other), ?_, ?_⟩
  · change (safeFsm.run inputs (first + 1)).ctrlSafeNext (inputs (first + 1)) = .singleMode
    simp [SafeFsm.ctrlSafeNext, mode, kept.start (first + 1) (by omega), switches]
  · exact returning.next master_ (Or.inr ending) (by rw [mode]; decide)
  · refine (ctrlTmrNext_endSync_eq master_ (ending master)).trans ?_
    rw [if_pos rfl]

theorem single_after_return :
    (safeFsm.run inputs (first + 3)).ctrlSafe = .singleMode ∧
      Returning (safeFsm.run inputs (first + 3)) ∧
      (safeFsm.run inputs (first + 3)).ctrlSingle =
        if (inputs (first + 1)).hartIntcAck master then .start else .run := by
  obtain ⟨mode, single, returning, waits⟩ := single_takes_over kept leaves named
  have started := kept.start (first + 2) (by omega)
  have running := kept.endSw (first + 2) (by omega)
  have configured := kept.configured (first + 2) (by omega)
  have master_ := named (first + 2) (by omega)
  have triple := returning.switchTmrToSingle_any master_
  have dual : ((safeFsm.run inputs (first + 2)).switchDmrToSingle (inputs (first + 2))).any = false :=
    returning.switchDmrToSingle_any
  refine ⟨?_, returning.next master_ (Or.inl mode) (by rw [mode]; decide), ?_⟩
  · change (safeFsm.run inputs (first + 2)).ctrlSafeNext (inputs (first + 2)) = .singleMode
    simp [SafeFsm.ctrlSafeNext, mode, started, configured, dualConfigured]
  · change (safeFsm.run inputs (first + 2)).ctrlSingleNext (inputs (first + 2)) = _
    rw [waits] at triple
    cases acked : (inputs (first + 1)).hartIntcAck master <;>
      simp [SafeFsm.ctrlSingleNext, single, mode, started, running, HartWires.none, triple, dual,
        acked]

end Run

/-- On the return from triple redundancy the program of the master goes on, and no
hart is ever halted, exactly when the master does not acknowledge in the first cycle of
its interrupt; if it does, it is halted and booted anew. -/
theorem return_to_single_continues_iff (inputs : Nat → FsmIn) (first : Nat) (master : Hart)
    (kept : KeptRunning inputs 0b00#2 first)
    (leaves : TrioLeaves (safeFsm.run inputs first) (inputs first))
    (named : ∀ cycle, first ≤ cycle → (inputs cycle).masterCore = oneHot master) :
    ((inputs (first + 1)).hartIntcAck master = false →
      (∀ later, first + 3 ≤ later → ContinuesAlone (safeFsm.run inputs later)) ∧
        ∀ later, first ≤ later → ∀ hart,
          (safeFsm.run inputs later).interruptHaltO (inputs later) hart = false) ∧
    ((inputs (first + 1)).hartIntcAck master = true →
      (safeFsm.run inputs (first + 3)).interruptHaltO (inputs (first + 3)) master = true ∧
        (safeFsm.run inputs (first + 3)).startBootO (inputs (first + 3)) = true) := by
  obtain ⟨mode, returning, single⟩ := single_after_return kept leaves named
  constructor
  · intro unacked
    rw [unacked] at single
    have continues : ∀ later, first + 3 ≤ later → ContinuesAlone (safeFsm.run inputs later) := by
      intro later since
      obtain ⟨elapsed, rfl⟩ := Nat.exists_eq_add_of_le since
      clear since
      induction elapsed with
      | zero => exact ⟨mode, single, returning⟩
      | succ elapsed ih =>
        have from_ : first ≤ first + 3 + elapsed := by omega
        exact ih.next (kept.start _ from_) (kept.endSw _ from_) (kept.configured _ from_)
          (named _ from_)
    refine ⟨continues, fun later since hart => ?_⟩
    rcases Nat.lt_or_ge later (first + 3) with early | late
    · obtain rfl | rfl | rfl : later = first ∨ later = first + 1 ∨ later = first + 2 := by omega
      · apply interruptHaltO_of_quiet
        · simp [SafeFsm.single, singleOut, leaves.single]
        · simp [SafeFsm.tmr, tmrOut, TmrOut.zero, leaves.synced hart]
        · simp [SafeFsm.dmr, dmrOut, DmrOut.default, leaves.dmr hart]
        · simp [SafeFsm.dmr, dmrOut, DmrOut.default, leaves.dmr hart]
      · obtain ⟨-, idle, -, leaving⟩ := trio_ending kept leaves
        exact leaving.interruptHaltO (by rw [idle]; decide)
      · obtain ⟨-, idle, leaving, -⟩ := single_takes_over kept leaves named
        exact leaving.interruptHaltO (by rw [idle]; decide)
    · have alone := continues later late
      exact alone.returning.interruptHaltO (by rw [alone.single]; decide)
  · intro acked
    rw [acked] at single
    constructor
    · have named_ := named (first + 3) (by omega)
      simp [SafeFsm.interruptHaltO, SafeFsm.single, singleOut, single, named_, oneHot]
    · simp [SafeFsm.startBootO, safeOut, mode]

/-- A trio that starts, sleeps in cycle 8 with the configuration withdrawn, and whose
master acknowledges in cycle 10. -/
def trioReturns : Nat → FsmIn
  | 0 | 2 | 3 | 4 | 6 | 7 => trioIn 0b01#2
  | 1 => { trioIn 0b01#2 with hartWfi := fun _ => true }
  | 5 => { trioIn 0b01#2 with haltAck := fun _ => true }
  | 8 => { trioIn 0b00#2 with hartWfi := fun _ => true }
  | 10 => { trioIn 0b00#2 with hartIntcAck := oneHot 0 }
  | _ => trioIn 0b00#2

set_option maxRecDepth 4000 in
theorem trioReturns_continues :
    (∀ later, 11 ≤ later → ContinuesAlone (safeFsm.run trioReturns later)) ∧
      ∀ later, 8 ≤ later → ∀ hart,
        (safeFsm.run trioReturns later).interruptHaltO (trioReturns later) hart = false := by
  have kept : KeptRunning trioReturns 0b00#2 8 := by
    refine ⟨?_, ?_, ?_⟩
    all_goals
      intro cycle since
      obtain ⟨later, rfl⟩ := Nat.exists_eq_add_of_le since
      match later with
      | 0 | 1 | 2 => rfl
      | later + 3 => rw [show 8 + (later + 3) = later + 11 by omega]; rfl
  have named : ∀ cycle, 8 ≤ cycle → (trioReturns cycle).masterCore = oneHot 0 := by
    intro cycle _
    unfold trioReturns
    split <;> rfl
  exact (return_to_single_continues_iff trioReturns 8 0 kept
    ⟨by decide, by decide, by decide, by decide, by decide⟩ named).1 rfl

end Eros
