import Mathlib.Data.Finset.Card
import Mathlib.Data.Finset.Range
import Mathlib.Tactic.Common

/-!
# Outstanding requests

Requests granted and answered over a run, counted by cycle.  `Answered` says
that every answer comes at least one cycle after a grant that had no answer yet.
A port whose answers come off a line that never owes more than the requests
outstanding at the port is answered in this sense.  Where it matters which
request an answer belongs to, `queued` lists the requests by the cycle of their
grant.
-/

set_option autoImplicit false

namespace Outstanding

/-- The number of cycles before `cycle` in which the event happens. -/
def tally (event : Nat → Bool) : Nat → Nat
  | 0 => 0
  | cycle + 1 => tally event cycle + (event cycle).toNat

@[simp] theorem tally_zero (event : Nat → Bool) : tally event 0 = 0 := rfl

theorem tally_succ (event : Nat → Bool) (cycle : Nat) :
    tally event (cycle + 1) = tally event cycle + (event cycle).toNat := rfl

theorem tally_quiet {event : Nat → Bool} {first : Nat}
    (quiet : ∀ cycle, first ≤ cycle → event cycle = false) (later : Nat) :
    tally event (first + later) = tally event first := by
  induction later with
  | zero => rfl
  | succ later ih =>
    rw [← Nat.add_assoc, tally_succ, ih, quiet _ (by omega), Bool.toNat_false, Nat.add_zero]

theorem quiet_of_tally {event : Nat → Bool} {cycle : Nat}
    (still : tally event (cycle + 1) = tally event cycle) : event cycle = false := by
  rw [tally_succ] at still
  cases happens : event cycle with
  | false => rfl
  | true =>
    rw [happens, Bool.toNat_true] at still
    omega

theorem tally_eq_card (event : Nat → Bool) (cycle : Nat) :
    tally event cycle = ((Finset.range cycle).filter fun index => event index = true).card := by
  induction cycle with
  | zero => rfl
  | succ cycle ih =>
    rw [tally_succ, ih, Finset.range_add_one, Finset.filter_insert]
    cases happens : event cycle with
    | false => simp
    | true => simp

theorem tally_le_card {event : Nat → Bool} {cycles : Finset Nat}
    (within : ∀ cycle, event cycle = true → cycle ∈ cycles) (cycle : Nat) :
    tally event cycle ≤ cycles.card := by
  rw [tally_eq_card]
  apply Finset.card_le_card
  intro index member
  exact within index (Finset.mem_filter.mp member).2

def Answered (grants answers : Nat → Bool) : Prop :=
  ∀ cycle, answers cycle = true → tally answers cycle < tally grants cycle

theorem Answered.tally_le {grants answers : Nat → Bool} (answered : Answered grants answers)
    (cycle : Nat) : tally answers cycle ≤ tally grants cycle := by
  induction cycle with
  | zero => simp
  | succ cycle ih =>
    rw [tally_succ, tally_succ]
    cases happens : answers cycle with
    | false =>
      rw [Bool.toNat_false]
      omega
    | true =>
      have owed := answered cycle happens
      rw [Bool.toNat_true]
      omega

/-- The requests of a port without an answer yet. -/
def pending (grants answers : Nat → Bool) (cycle : Nat) : Nat :=
  tally grants cycle - tally answers cycle

theorem pending_pos {grants answers : Nat → Bool} (answered : Answered grants answers)
    {cycle : Nat} (answer : answers cycle = true) : 0 < pending grants answers cycle := by
  have owed := answered cycle answer
  unfold pending
  omega

theorem pending_succ {grants answers : Nat → Bool} (answered : Answered grants answers)
    (cycle : Nat) :
    pending grants answers (cycle + 1) + (answers cycle).toNat =
      pending grants answers cycle + (grants cycle).toNat := by
  have before := answered.tally_le cycle
  have after := answered.tally_le (cycle + 1)
  rw [tally_succ, tally_succ] at after
  unfold pending
  rw [tally_succ, tally_succ]
  omega

/-- The rule for a port with answers off a line: what the line still owes is
outstanding at the port, and it owes something whenever it answers. -/
theorem answered_of_owed {grants answers : Nat → Bool} (owed : Nat → Nat)
    (covered : ∀ cycle, tally answers cycle + owed cycle ≤ tally grants cycle)
    (owes : ∀ cycle, answers cycle = true → 0 < owed cycle) : Answered grants answers := by
  intro cycle answer
  have some := owes cycle answer
  have within := covered cycle
  omega

/-! ## By the cycle of the grant -/

/-- What is in a queue, by the cycle in which it entered, oldest first. -/
def queued (enters leaves clears : Nat → Bool) : Nat → List Nat
  | 0 => []
  | cycle + 1 =>
    if clears cycle then []
    else (queued enters leaves clears cycle).drop (leaves cycle).toNat ++
      if enters cycle then [cycle] else []

section Queued
variable {enters leaves clears : Nat → Bool} {origin cycle : Nat}

theorem mem_queued_succ (member : origin ∈ queued enters leaves clears (cycle + 1)) :
    clears cycle = false ∧ (origin ∈ queued enters leaves clears cycle ∨
      (origin = cycle ∧ enters cycle = true)) := by
  cases cleared : clears cycle with
  | true => simp [queued, cleared] at member
  | false =>
    rw [queued, cleared, if_neg (by simp), List.mem_append] at member
    refine ⟨rfl, ?_⟩
    rcases member with earlier | now
    · exact Or.inl (List.mem_of_mem_drop earlier)
    · split_ifs at now with entered
      · exact Or.inr ⟨List.mem_singleton.mp now, entered⟩
      · simp at now

theorem lt_of_mem_queued (member : origin ∈ queued enters leaves clears cycle) :
    origin < cycle := by
  induction cycle with
  | zero => simp [queued] at member
  | succ cycle ih =>
    rcases (mem_queued_succ member).2 with earlier | ⟨now, -⟩
    · exact Nat.lt_succ_of_lt (ih earlier)
    · omega

/-- What has entered by the end of a cycle that clears the queue is gone. -/
theorem lt_of_mem_queued_cleared {clearing : Nat} (cleared : clears clearing = true)
    (after : clearing < cycle) (member : origin ∈ queued enters leaves clears cycle) :
    clearing < origin := by
  induction cycle with
  | zero => omega
  | succ cycle ih =>
    obtain ⟨kept, inside⟩ := mem_queued_succ member
    have later : clearing < cycle := by
      rcases Nat.lt_succ_iff_lt_or_eq.mp after with before | same
      · exact before
      · rw [← same, cleared] at kept
        exact absurd kept (by simp)
    rcases inside with earlier | ⟨now, -⟩
    · exact ih later earlier
    · omega

end Queued

end Outstanding
