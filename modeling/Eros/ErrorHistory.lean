import Eros.GroupRecovery

/-!
# The error history of triple redundancy

`tmr_error_ff[0]` samples the voter error and `tmr_error_ff[1]` is to remember
it through a critical section.  The second register toggles at a rising error,
so a second error would clear it; it does not, because with an error already
remembered a rising one is taken at once and the machines leave TMR_SYNC.
-/

set_option autoImplicit false

namespace Eros

def Synced (fsm : SafeFsm) : Prop := ∀ hart, fsm.ctrlTmr hart = .sync

instance (fsm : SafeFsm) : Decidable (Synced fsm) := inferInstanceAs (Decidable (∀ _, _))

/-- A voter error that rises while some TMR machine is in TMR_SYNC. -/
def SafeFsm.errorRises (fsm : SafeFsm) (inp : FsmIn) : Bool :=
  HartWires.any (fun hart => decide (fsm.ctrlTmr hart = .sync)) && inp.tmrError &&
    !fsm.tmrErrorFf0

section Step
variable {fsm : SafeFsm} {inp : FsmIn}

theorem anyOutside_eq_false_iff :
    HartWires.any (fun hart => decide (fsm.ctrlTmr hart ≠ .sync)) = false ↔ Synced fsm := by
  rw [← Bool.not_eq_true, HartWires.any_eq_true_iff]
  simp [Synced]

theorem errorRises_iff_of_synced (synced : Synced fsm) :
    fsm.errorRises inp = true ↔ inp.tmrError = true ∧ fsm.tmrErrorFf0 = false := by
  simp [SafeFsm.errorRises, HartWires.any, synced 0]

/-! ## One edge of the two registers -/

theorem tmrErrorFf_of_rises (rises : fsm.errorRises inp = true) :
    (fsm.next inp).tmrErrorFf0 = true ∧ (fsm.next inp).tmrErrorFf1 = !fsm.tmrErrorFf1 := by
  have error : inp.tmrError = true := by
    simp only [SafeFsm.errorRises, Bool.and_eq_true] at rises
    exact rises.1.2
  unfold SafeFsm.errorRises at rises
  constructor
  · simp only [SafeFsm.next, rises, if_true]
    exact error
  · simp only [SafeFsm.next, rises, if_true]

theorem tmrErrorFf_of_synced (synced : Synced fsm) (steady : fsm.errorRises inp = false) :
    (fsm.next inp).tmrErrorFf0 = inp.tmrError ∧
      (fsm.next inp).tmrErrorFf1 = fsm.tmrErrorFf1 := by
  have inside := anyOutside_eq_false_iff.mpr synced
  unfold SafeFsm.errorRises at steady
  simp only [SafeFsm.next, steady, inside, Bool.false_eq_true, if_false, and_self]

theorem tmrErrorFf_of_outside (outside : ¬Synced fsm) (steady : fsm.errorRises inp = false) :
    (fsm.next inp).tmrErrorFf0 = false ∧ (fsm.next inp).tmrErrorFf1 = false := by
  have some : HartWires.any (fun hart => decide (fsm.ctrlTmr hart ≠ .sync)) = true := by
    rw [← Bool.not_eq_false]
    exact fun inside => outside (anyOutside_eq_false_iff.mp inside)
  unfold SafeFsm.errorRises at steady
  simp only [SafeFsm.next, steady, some, Bool.false_eq_true, if_false, if_true, and_self]

theorem tmrErrorFf0_of_synced (synced : Synced fsm) :
    (fsm.next inp).tmrErrorFf0 = inp.tmrError := by
  by_cases rises : fsm.errorRises inp = true
  · rw [(tmrErrorFf_of_rises rises).1]
    exact ((errorRises_iff_of_synced synced).mp rises).1.symm
  · exact (tmrErrorFf_of_synced synced (by simpa using rises)).1

/-! ## The machines leave TMR_SYNC together -/

theorem Synced.next_uniform (synced : Synced fsm) (hart other : Hart) :
    fsm.ctrlTmrNext inp hart = fsm.ctrlTmrNext inp other := by
  simp only [SafeFsm.ctrlTmrNext, synced hart, synced other]

theorem Synced.leaves_of_error (synced : Synced fsm) (error : fsm.tmrErrorS inp = true)
    (hart : Hart) : fsm.ctrlTmrNext inp hart ≠ .sync := by
  simp only [SafeFsm.ctrlTmrNext, synced hart, error, if_true]
  split_ifs <;> decide

theorem Synced.error_of_stays (synced : Synced fsm) (stays : Synced (fsm.next inp)) :
    fsm.tmrErrorS inp = false := by
  rw [← Bool.not_eq_true]
  intro error
  exact synced.leaves_of_error error 0 (stays 0)

theorem tmrErrorS_of_remembered (remembered : fsm.tmrErrorFf1 = true)
    (open_ : inp.tmrCriticalSection = false) : fsm.tmrErrorS inp = true := by
  simp [SafeFsm.tmrErrorS, remembered, open_]

/-- A rising error is taken at once when one is remembered already, inside and
outside the critical section. -/
theorem tmrErrorS_of_second (remembered : fsm.tmrErrorFf1 = true)
    (low : fsm.tmrErrorFf0 = false) (error : inp.tmrError = true) :
    fsm.tmrErrorS inp = true := by
  cases critical : inp.tmrCriticalSection <;>
    simp [SafeFsm.tmrErrorS, remembered, low, error, critical]

end Step

/-! ## The history invariant -/

/-- In TMR_SYNC a sampled error is remembered, and an error is remembered after
it fell only by machines that are in TMR_SYNC together. -/
structure ErrorHistory (fsm : SafeFsm) : Prop where
  sampled : Synced fsm → fsm.tmrErrorFf0 = true → fsm.tmrErrorFf1 = true
  together : fsm.tmrErrorFf1 = true → fsm.tmrErrorFf0 = false →
    Synced fsm ∨ ∀ hart, fsm.ctrlTmr hart ≠ .sync

namespace ErrorHistory
variable {fsm : SafeFsm} {inp : FsmIn}

theorem reset : ErrorHistory .reset where
  sampled _ high := by simp [SafeFsm.reset] at high
  together high _ := by simp [SafeFsm.reset] at high

theorem synced_of_rises (history : ErrorHistory fsm) (rises : fsm.errorRises inp = true)
    (remembered : fsm.tmrErrorFf1 = true) : Synced fsm := by
  simp only [SafeFsm.errorRises, Bool.and_eq_true, Bool.not_eq_true',
    HartWires.any_eq_true_iff, decide_eq_true_eq] at rises
  obtain ⟨⟨⟨hart, sync⟩, _⟩, low⟩ := rises
  rcases history.together remembered low with synced | outside
  · exact synced
  · exact absurd sync (outside hart)

theorem next (history : ErrorHistory fsm) : ErrorHistory (fsm.next inp) := by
  by_cases rises : fsm.errorRises inp = true
  · obtain ⟨first, second⟩ := tmrErrorFf_of_rises rises
    constructor
    · intro after _
      rw [second, Bool.not_eq_true']
      by_contra remembered
      rw [Bool.not_eq_false] at remembered
      have synced := history.synced_of_rises rises remembered
      obtain ⟨error, low⟩ := (errorRises_iff_of_synced synced).mp rises
      exact synced.leaves_of_error (tmrErrorS_of_second remembered low error) 0 (after 0)
    · intro _ low
      simp [first] at low
  · have steady : fsm.errorRises inp = false := by simpa using rises
    by_cases synced : Synced fsm
    · obtain ⟨first, second⟩ := tmrErrorFf_of_synced synced steady
      constructor
      · intro _ high
        rw [first] at high
        have sampled : fsm.tmrErrorFf0 = true := by
          by_contra low
          exact rises ((errorRises_iff_of_synced synced).mpr ⟨high, by simpa using low⟩)
        rw [second]
        exact history.sampled synced sampled
      · intro _ _
        by_cases stays : fsm.ctrlTmrNext inp 0 = .sync
        · exact Or.inl fun hart => (synced.next_uniform hart 0).trans stays
        · exact Or.inr fun hart moved => stays ((synced.next_uniform 0 hart).trans moved)
    · obtain ⟨first, second⟩ := tmrErrorFf_of_outside synced steady
      constructor
      · intro _ high
        simp [first] at high
      · intro high _
        simp [second] at high

theorem remembers (history : ErrorHistory fsm) (synced : Synced fsm)
    (stays : Synced (fsm.next inp)) (error : inp.tmrError = true ∨ fsm.tmrErrorFf1 = true) :
    (fsm.next inp).tmrErrorFf1 = true := by
  have quiet := synced.error_of_stays stays
  by_cases rises : fsm.errorRises inp = true
  · obtain ⟨high, low⟩ := (errorRises_iff_of_synced synced).mp rises
    rw [(tmrErrorFf_of_rises rises).2, Bool.not_eq_true']
    by_contra remembered
    rw [Bool.not_eq_false] at remembered
    simp [tmrErrorS_of_second remembered low high] at quiet
  · rw [(tmrErrorFf_of_synced synced (by simpa using rises)).2]
    rcases error with high | remembered
    · apply history.sampled synced
      by_contra low
      exact rises ((errorRises_iff_of_synced synced).mpr ⟨high, by simpa using low⟩)
    · exact remembered

end ErrorHistory

theorem errorHistory_run (inputs : Nat → FsmIn) (cycle : Nat) :
    ErrorHistory (safeFsm.run inputs cycle) := by
  induction cycle with
  | zero => exact ErrorHistory.reset
  | succ cycle ih => exact ih.next

/-- From the cycle after an error on, as long as the machines stay in TMR_SYNC,
the error is remembered. -/
theorem remembered_while_synced {inputs : Nat → FsmIn} {origin : Nat}
    (error : (inputs origin).tmrError = true) (later : Nat)
    (synced : ∀ cycle, origin ≤ cycle → cycle ≤ origin + later + 1 →
      Synced (safeFsm.run inputs cycle)) :
    (safeFsm.run inputs (origin + later + 1)).tmrErrorFf1 = true := by
  induction later with
  | zero =>
    exact (errorHistory_run inputs origin).remembers (synced origin le_rfl (by omega))
      (synced (origin + 1) (by omega) le_rfl) (Or.inl error)
  | succ later ih =>
    have remembered := ih fun cycle from_ upto => synced cycle from_ (by omega)
    exact (errorHistory_run inputs (origin + later + 1)).remembers
      (synced _ (by omega) (by omega)) (synced _ (by omega) le_rfl) (Or.inr remembered)

/-- A voter error among cycles in which the three machines are in TMR_SYNC is
remembered.  Once the critical section is open and the mode does not end, the
three machines start the recovery together, and a second rising error takes them
out of TMR_SYNC also inside the critical section. -/
theorem voter_error_never_forgotten (inputs : Nat → FsmIn) (first last : Nat)
    (synced : ∀ cycle, first ≤ cycle → cycle ≤ last → Synced (safeFsm.run inputs cycle))
    (error : ∃ origin, first ≤ origin ∧ origin < last ∧ (inputs origin).tmrError = true) :
    (safeFsm.run inputs last).tmrErrorFf1 = true ∧
      ((inputs last).tmrCriticalSection = false → SafeFsm.tmrEnds (inputs last) = false →
        ∀ hart, (safeFsm.run inputs (last + 1)).ctrlTmr hart = .syncIntc) ∧
      ((inputs last).tmrError = true → (inputs (last - 1)).tmrError = false →
        ∀ hart, (safeFsm.run inputs (last + 1)).ctrlTmr hart ≠ .sync) := by
  obtain ⟨origin, from_, before, high⟩ := error
  obtain ⟨later, rfl⟩ := Nat.exists_eq_add_of_lt before
  have remembered := remembered_while_synced high later fun cycle after upto =>
    synced cycle (by omega) upto
  have now := synced (origin + later + 1) (by omega) le_rfl
  refine ⟨remembered, ?_, ?_⟩
  · intro open_ running hart
    exact TmrTakesError.next ⟨now hart, running, tmrErrorS_of_remembered remembered open_⟩
  · intro again fell
    have sample : (safeFsm.run inputs (origin + later + 1)).tmrErrorFf0 = false := by
      rw [Synchronous.Machine.run_succ]
      exact (tmrErrorFf0_of_synced (synced (origin + later) (by omega) (by omega))).trans fell
    exact now.leaves_of_error (tmrErrorS_of_second remembered sample again)

/-- Power-on into triple redundancy; from cycle 6 on the machines are in
TMR_SYNC.  The voter reports an error in cycle 6, inside a critical section that
ends in cycle 8. -/
def trioCritical : Nat → FsmIn
  | 1 => { trioIn 0b01#2 with hartWfi := fun _ => true }
  | 4 => { trioIn 0b01#2 with haltAck := fun _ => true }
  | 6 => { trioIn 0b01#2 with tmrCriticalSection := true, tmrError := true }
  | 7 => { trioIn 0b01#2 with tmrCriticalSection := true }
  | _ => trioIn 0b01#2

set_option maxRecDepth 4000 in
theorem trioCritical_recovers :
    (safeFsm.run trioCritical 8).tmrErrorFf1 = true ∧
      ∀ hart, (safeFsm.run trioCritical 9).ctrlTmr hart = .syncIntc := by
  have synced : ∀ cycle, 6 ≤ cycle → cycle ≤ 8 → Synced (safeFsm.run trioCritical cycle) := by
    intro cycle from_ upto
    obtain rfl | rfl | rfl : cycle = 6 ∨ cycle = 7 ∨ cycle = 8 := by omega
    · decide
    · decide
    · decide
  have kept := voter_error_never_forgotten trioCritical 6 8 synced ⟨6, by omega, by omega, rfl⟩
  exact ⟨kept.1, kept.2.1 rfl (by decide)⟩

end Eros
