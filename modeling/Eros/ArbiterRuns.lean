import Eros.RrArb

/-!
# Runs of `rr_arb_tree`

The concurrent assertions of the module hold in every run, and no requester
starves.
-/

set_option autoImplicit false

namespace Eros

open Outstanding (tally)

def rrArb (α : Type*) (numIn : Nat) (params : RrArbParams) :
    Synchronous.Machine (RrArb numIn) (RrArbIn α numIn) where
  init := .reset numIn
  next := RrArb.next params

/-! ## The assertions of the module -/

/-- The concurrent assertions that look at one cycle, under their names, and the
data that go with the index. -/
structure ArbAssertions {α : Type*} {numIn : Nat} (params : RrArbParams) (arb : RrArb numIn)
    (inp : RrArbIn α numIn) : Prop where
  hotOne : ∀ i j, arb.gntO params inp i = true → arb.gntO params inp j = true → j = i
  gnt0 : ∀ i, arb.gntO params inp i = true → inp.gntI = true
  gnt1 : arb.reqO params inp = true → inp.gntI = true → ∃ i, arb.gntO params inp i = true
  gntIdx : arb.reqO params inp = true → inp.gntI = true →
    ∃ i : Fin numIn, arb.idxO params inp = i ∧ arb.gntO params inp i = true
  req0 : (∃ i, inp.reqI i = true) → arb.reqO params inp = true
  req1 : arb.reqO params inp = true → ∃ i, inp.reqI i = true
  data : arb.reqO params inp = true →
    ∃ i : Fin numIn, arb.idxO params inp = i ∧ ∀ zero, arb.dataO params inp zero = inp.dataI i

section Run
variable {α : Type*} {numIn : Nat} (params : RrArbParams) (inputs : Nat → RrArbIn α numIn)

def arbAt : Nat → RrArb numIn := (rrArb α numIn params).run inputs

/-- `lock_req`: with `LockIn` no unserved request is taken back. -/
def KeepsRequests : Prop :=
  params.lockIn = true → ∀ cycle, (arbAt params inputs cycle).reqO params (inputs cycle) = true →
    (inputs cycle).gntI = false → ∀ i,
      (arbAt params inputs cycle).reqD params (inputs cycle) i = true →
        (inputs (cycle + 1)).reqI i = true

/-- A locked decision has requests, and they are still there. -/
structure ArbInvariant (cycle : Nat) : Prop where
  counter : (arbAt params inputs cycle).rrQ < numIn
  locked : params.lockIn = true → (arbAt params inputs cycle).lockQ = true →
    ∃ i, (arbAt params inputs cycle).reqQ i = true
  unlocked : params.lockIn = true → (arbAt params inputs cycle).lockQ = false ∨
    (∃ before, cycle = before + 1 ∧
      (arbAt params inputs before).reqO params (inputs before) = true ∧
      (inputs before).gntI = false ∧
      (arbAt params inputs cycle).reqQ = (arbAt params inputs before).reqD params (inputs before))

variable {params inputs}

theorem arbAt_succ (cycle : Nat) :
    arbAt params inputs (cycle + 1) = (arbAt params inputs cycle).next params (inputs cycle) := rfl

variable (several : 2 ≤ numIn)
include several

theorem rrQ_next_lt (params : RrArbParams) (inp : RrArbIn α numIn) {arb : RrArb numIn}
    (counter : arb.rrQ < numIn) :
    (arb.next params inp).rrQ < numIn := by
  unfold RrArb.next
  dsimp only
  split_ifs with arbServed
  · unfold RrArb.serves at arbServed
    rw [Bool.and_eq_true, RrArb.reqO_iff several] at arbServed
    obtain ⟨-, requester, asks⟩ := arbServed
    exact (RrArb.nextIdx_follows several asks).2
  · exact counter

theorem arbInvariant (params : RrArbParams) (inputs : Nat → RrArbIn α numIn) (cycle : Nat) :
    ArbInvariant params inputs cycle := by
  induction cycle with
  | zero =>
    exact {
      counter := Nat.lt_of_lt_of_le Nat.zero_lt_two several
      locked := fun _ locked => absurd locked Bool.false_ne_true
      unlocked := fun _ => Or.inl rfl }
  | succ cycle ih =>
    refine ⟨rrQ_next_lt several params (inputs cycle) ih.counter, fun lockIn locked => ?_, fun lockIn => ?_⟩
    · simp only [arbAt_succ, RrArb.next, lockIn, if_true, Bool.and_eq_true] at locked ⊢
      exact (RrArb.reqO_iff several).mp locked.1
    · cases held : (arbAt params inputs (cycle + 1)).lockQ with
      | false => exact Or.inl rfl
      | true =>
        simp only [arbAt_succ, RrArb.next, lockIn, if_true, Bool.and_eq_true,
          Bool.not_eq_true'] at held
        exact Or.inr ⟨cycle, rfl, held.1, held.2, by simp [arbAt_succ, RrArb.next, lockIn]⟩

omit several in
theorem reqI_of_reqD {cycle : Nat} (invariant : ArbInvariant params inputs cycle)
    (kept : KeepsRequests params inputs) {i : Fin numIn}
    (asks : (arbAt params inputs cycle).reqD params (inputs cycle) i = true) :
    (inputs cycle).reqI i = true := by
  unfold RrArb.reqD at asks
  split_ifs at asks with lockIn locked
  · rcases invariant.unlocked lockIn with free | ⟨before, rfl, waited, ungranted, same⟩
    · rw [locked] at free
      cases free
    · exact kept lockIn before waited ungranted i (same ▸ asks)
  · exact asks
  · exact asks

/-- Every assertion of the arbiter holds in every run, whatever the number of
inputs.  Without `AxiVldRdy` only requests are granted, and a locked decision
that is not granted stays as it is. -/
theorem arbiter_assertions_hold (kept : KeepsRequests params inputs) (cycle : Nat) :
    ArbAssertions params (arbAt params inputs cycle) (inputs cycle) ∧
      (params.axiVldRdy = false → ∀ i,
        (arbAt params inputs cycle).gntO params (inputs cycle) i = true →
          (inputs cycle).reqI i = true) ∧
      (params.lockIn = true →
        (arbAt params inputs cycle).reqO params (inputs cycle) = true →
          (inputs cycle).gntI = false →
            (arbAt params inputs (cycle + 1)).idxO params (inputs (cycle + 1)) =
              (arbAt params inputs cycle).idxO params (inputs cycle)) := by
  have invariant := arbInvariant several params inputs cycle
  refine ⟨?_, ?_, ?_⟩
  · exact {
      hotOne := fun i j granted also => (RrArb.gntO_hotOne granted also).2
      gnt0 := fun i granted => (RrArb.gntO_hotOne granted granted).1
      gnt1 := fun requested given => by
        obtain ⟨i, asks⟩ := (RrArb.reqO_iff several).mp requested
        obtain ⟨pick, picks⟩ := RrArb.exists_picks several asks
        exact ⟨pick, by simp [picks.gntO, given]⟩
      gntIdx := fun requested given => by
        obtain ⟨i, asks⟩ := (RrArb.reqO_iff several).mp requested
        obtain ⟨pick, picks⟩ := RrArb.exists_picks several asks
        exact ⟨pick, picks.idxO, by simp [picks.gntO, given]⟩
      req0 := fun ⟨i, asks⟩ => by
        rw [RrArb.reqO_iff several]
        unfold RrArb.reqD
        split_ifs with lockIn locked
        · exact invariant.locked lockIn locked
        · exact ⟨i, asks⟩
        · exact ⟨i, asks⟩
      req1 := fun requested => by
        obtain ⟨i, asks⟩ := (RrArb.reqO_iff several).mp requested
        exact ⟨i, reqI_of_reqD invariant kept asks⟩
      data := fun requested => by
        obtain ⟨i, asks⟩ := (RrArb.reqO_iff several).mp requested
        obtain ⟨pick, picks⟩ := RrArb.exists_picks several asks
        exact ⟨pick, picks.idxO, picks.dataO⟩ }
  · intro direct i granted
    exact reqI_of_reqD invariant kept (RrArb.reqD_of_gntO direct granted)
  · intro lockIn requested ungranted
    have counter : (arbAt params inputs (cycle + 1)).rrQ = (arbAt params inputs cycle).rrQ := by
      simp [arbAt_succ, RrArb.next, RrArb.serves, ungranted]
    have requests : (arbAt params inputs (cycle + 1)).reqD params (inputs (cycle + 1)) =
        (arbAt params inputs cycle).reqD params (inputs cycle) := by
      rw [arbAt_succ]
      exact RrArb.reqD_next_of_held lockIn requested ungranted _
    unfold RrArb.idxO RrArb.reqDN
    rw [counter, requests]

/-! ## No starvation -/

omit several in
/-- How many services a waiting requester lets pass: the way of the counter to it,
or a whole round while a locked decision leaves it out. -/
def patience (params : RrArbParams) (arb : RrArb numIn) (inp : RrArbIn α numIn)
    (requester : Fin numIn) : Nat :=
  if arb.reqD params inp requester then RoundRobin.distance numIn arb.rrQ requester else numIn

omit several in
def arbServed (params : RrArbParams) (inputs : Nat → RrArbIn α numIn) (cycle : Nat) : Bool :=
  (arbAt params inputs cycle).serves params (inputs cycle)

omit several in
theorem patience_le (params : RrArbParams) (inp : RrArbIn α numIn) {arb : RrArb numIn}
    (counter : arb.rrQ < numIn)
    (requester : Fin numIn) : patience params arb inp requester ≤ numIn := by
  have near := RoundRobin.distance_lt counter requester.isLt
  unfold patience
  split_ifs <;> omega

theorem patience_of_quiet {requester : Fin numIn} {cycle : Nat}
    (asks : (inputs (cycle + 1)).reqI requester = true)
    (quiet : arbServed params inputs cycle = false) :
    patience params (arbAt params inputs (cycle + 1)) (inputs (cycle + 1)) requester ≤
      patience params (arbAt params inputs cycle) (inputs cycle) requester := by
  have counter : (arbAt params inputs (cycle + 1)).rrQ = (arbAt params inputs cycle).rrQ := by
    simp only [arbAt_succ, RrArb.next, show (arbAt params inputs cycle).serves params
      (inputs cycle) = false from quiet]
    rfl
  by_cases counted : (arbAt params inputs cycle).reqD params (inputs cycle) requester = true
  · have requested := (RrArb.reqO_iff several).mpr ⟨requester, counted⟩
    have ungranted : (inputs cycle).gntI = false := by
      simpa [arbServed, RrArb.serves, requested] using quiet
    have still : (arbAt params inputs (cycle + 1)).reqD params (inputs (cycle + 1)) requester =
        true := by
      rw [arbAt_succ]
      cases lockIn : params.lockIn with
      | false =>
        have free : params.lockIn = true → (inputs cycle).gntI = true := by
          intro locks
          rw [lockIn] at locks
          cases locks
        rw [RrArb.reqD_next_of_free free]
        exact asks
      | true =>
        rw [RrArb.reqD_next_of_held lockIn requested ungranted]
        exact counted
    unfold patience
    rw [if_pos still, if_pos counted, counter]
  · have round : patience params (arbAt params inputs cycle) (inputs cycle) requester = numIn :=
      if_neg counted
    rw [round]
    exact patience_le _ _ (arbInvariant several params inputs (cycle + 1)).counter requester

omit several in
theorem gntI_of_served {cycle : Nat} (serving : arbServed params inputs cycle = true) :
    (inputs cycle).gntI = true := by
  unfold arbServed RrArb.serves at serving
  rw [Bool.and_eq_true] at serving
  exact serving.1

theorem patience_of_passed {requester : Fin numIn} {cycle : Nat}
    (asks : (inputs (cycle + 1)).reqI requester = true)
    (serving : arbServed params inputs cycle = true)
    (waits : (arbAt params inputs cycle).gntO params (inputs cycle) requester = false) :
    patience params (arbAt params inputs (cycle + 1)) (inputs (cycle + 1)) requester <
      patience params (arbAt params inputs cycle) (inputs cycle) requester := by
  have given := gntI_of_served serving
  have counter : (arbAt params inputs (cycle + 1)).rrQ =
      (arbAt params inputs cycle).nextIdx params (inputs cycle) := by
    simp only [arbAt_succ, RrArb.next, show (arbAt params inputs cycle).serves params
      (inputs cycle) = true from serving]
    rfl
  have included : (arbAt params inputs (cycle + 1)).reqD params (inputs (cycle + 1)) requester =
      true := by
    rw [arbAt_succ, RrArb.reqD_next_of_free fun _ => given]
    exact asks
  have after : patience params (arbAt params inputs (cycle + 1)) (inputs (cycle + 1)) requester =
      RoundRobin.distance numIn ((arbAt params inputs cycle).nextIdx params (inputs cycle))
        requester := by
    unfold patience
    rw [if_pos included, counter]
  have inside := (arbInvariant several params inputs cycle).counter
  by_cases counted : (arbAt params inputs cycle).reqD params (inputs cycle) requester = true
  · have before : patience params (arbAt params inputs cycle) (inputs cycle) requester =
        RoundRobin.distance numIn (arbAt params inputs cycle).rrQ requester := if_pos counted
    rw [after, before]
    exact RrArb.nearer_of_waits several inside given counted waits
  · have nextIn := rrQ_next_lt several params (inputs cycle) inside
    rw [← arbAt_succ, counter] at nextIn
    have before : patience params (arbAt params inputs cycle) (inputs cycle) requester = numIn :=
      if_neg counted
    rw [after, before]
    exact RoundRobin.distance_lt nextIn requester.isLt

/-- A requester that keeps asking is granted before as many other services as
there are inputs; a decision that is locked when it starts to ask may add one. -/
theorem arbiter_never_starves (requester : Fin numIn) (first count : Nat)
    (asks : ∀ cycle, first ≤ cycle → cycle < first + count →
      (inputs cycle).reqI requester = true)
    (waits : ∀ cycle, first ≤ cycle → cycle < first + count →
      (arbAt params inputs cycle).gntO params (inputs cycle) requester = false) :
    tally (arbServed params inputs) (first + count) <
      tally (arbServed params inputs) first + numIn +
        (params.lockIn && (arbAt params inputs first).lockQ).toNat := by
  cases count with
  | zero =>
    rw [Nat.add_zero]
    omega
  | succ count =>
    have start := arbInvariant several params inputs first
    have bound := RoundRobin.services_le_potential (arbServed params inputs)
      (fun cycle => patience params (arbAt params inputs cycle) (inputs cycle) requester)
      first count
      (fun cycle from_ upto quiet =>
        patience_of_quiet several (asks (cycle + 1) (by omega) (by omega)) quiet)
      fun cycle from_ upto serving =>
        patience_of_passed several (asks (cycle + 1) (by omega) (by omega)) serving
          (waits cycle from_ (by omega))
    have begins : patience params (arbAt params inputs first) (inputs first) requester <
        numIn + (params.lockIn && (arbAt params inputs first).lockQ).toNat := by
      cases locked : params.lockIn && (arbAt params inputs first).lockQ with
      | true =>
        have round := patience_le params (inputs first) start.counter requester
        rw [Bool.toNat_true]
        omega
      | false =>
        have counted : (arbAt params inputs first).reqD params (inputs first) requester = true := by
          have asked := asks first le_rfl (by omega)
          rw [Bool.and_eq_false_iff] at locked
          unfold RrArb.reqD
          rcases locked with noLock | free
          · rw [noLock, if_neg Bool.false_ne_true]
            exact asked
          · rw [free, if_neg Bool.false_ne_true]
            split_ifs <;> exact asked
        have near := RoundRobin.distance_lt start.counter requester.isLt
        unfold patience
        rw [if_pos counted]
        exact near
    -- a service in the last cycle finds the counter elsewhere
    have last : (arbServed params inputs (first + count)).toNat ≤
        patience params (arbAt params inputs (first + count)) (inputs (first + count))
          requester := by
      cases serving : arbServed params inputs (first + count) with
      | false => exact Nat.zero_le _
      | true =>
        have still := waits (first + count) (by omega) (by omega)
        rw [Bool.toNat_true]
        unfold patience
        split_ifs with counted
        · exact RoundRobin.distance_pos (arbInvariant several params inputs (first + count)).counter
            (RrArb.turn_of_waits several (gntI_of_served serving) counted still)
        · omega
    rw [← Nat.add_assoc, Outstanding.tally_succ]
    omega

end Run

/-- Three inputs that always request, in front of a destination that grants every
other cycle. -/
def busyInputs (cycle : Nat) : RrArbIn Nat 3 where
  reqI _ := true
  dataI i := i
  gntI := decide (cycle % 2 = 1)

theorem busyInputs_assertions :
    ArbAssertions streamArbiterParams (arbAt streamArbiterParams busyInputs 2) (busyInputs 2) :=
  (arbiter_assertions_hold (by decide) (fun _ _ _ _ _ _ => rfl) 2).1

theorem busyInputs_served :
    tally (arbServed streamArbiterParams busyInputs) (0 + 3) <
      tally (arbServed streamArbiterParams busyInputs) 0 + 3 +
        (streamArbiterParams.lockIn && (arbAt streamArbiterParams busyInputs 0).lockQ).toNat := by
  refine arbiter_never_starves (by decide) 2 0 3 (fun _ _ _ => rfl) ?_
  intro cycle _ upto
  obtain rfl | rfl | rfl : cycle = 0 ∨ cycle = 1 ∨ cycle = 2 := by omega
  · decide
  · decide
  · decide

end Eros
