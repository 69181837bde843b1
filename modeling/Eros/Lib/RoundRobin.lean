import Eros.Lib.Outstanding

/-!
# Rotating priority

A pointer into a ring of `size` places serves requests in turn: when a request
is served the pointer moves on to the next requesting place, round the ring.
Between two turns of a place that keeps requesting, every other place is served
at most once.
-/

set_option autoImplicit false

namespace RoundRobin

open Outstanding (tally tally_succ)

/-- The places from `pointer` up to `target`, round the ring. -/
def distance (size pointer target : Nat) : Nat :=
  if pointer ≤ target then target - pointer else target + size - pointer

theorem distance_lt {size pointer target : Nat} (pointerIn : pointer < size)
    (targetIn : target < size) : distance size pointer target < size := by
  unfold distance
  split_ifs <;> omega

theorem distance_pos {size pointer target : Nat} (pointerIn : pointer < size)
    (other : pointer ≠ target) : 0 < distance size pointer target := by
  unfold distance
  split_ifs <;> omega

/-- `next` is the requesting place after `pointer`, round the ring: the lowest
one above it, or the lowest one up to it when there is none above. -/
structure Follows (request : Nat → Bool) (pointer next : Nat) : Prop where
  requests : request next = true
  above : ∀ place, pointer < place → request place = true → pointer < next ∧ next ≤ place
  upTo : next ≤ pointer → ∀ place, place ≤ pointer → request place = true → next ≤ place

theorem Follows.nearer {request : Nat → Bool} {size pointer next target : Nat}
    (follows : Follows request pointer next) (nextIn : next < size) (pointerIn : pointer < size)
    (requests : request target = true) (other : pointer ≠ target) :
    distance size next target < distance size pointer target := by
  rcases Nat.lt_or_ge pointer target with later | earlier
  · have between := follows.above target later requests
    unfold distance
    split_ifs <;> omega
  · rcases Nat.lt_or_ge pointer next with up | down
    · unfold distance
      split_ifs <;> omega
    · have between := follows.upTo down target earlier requests
      unfold distance
      split_ifs <;> omega

/-- Services counted against a potential which every one of them lowers. -/
theorem services_le_potential (serves : Nat → Bool) (potential : Nat → Nat) (first count : Nat)
    (still : ∀ cycle, first ≤ cycle → cycle < first + count → serves cycle = false →
      potential (cycle + 1) ≤ potential cycle)
    (nearer : ∀ cycle, first ≤ cycle → cycle < first + count → serves cycle = true →
      potential (cycle + 1) < potential cycle) :
    tally serves (first + count) + potential (first + count) ≤
      tally serves first + potential first := by
  induction count with
  | zero => exact le_rfl
  | succ count ih =>
    have before := ih (fun cycle from_ upto => still cycle from_ (by omega))
      fun cycle from_ upto => nearer cycle from_ (by omega)
    rw [← Nat.add_assoc, tally_succ]
    cases served : serves (first + count) with
    | false =>
      have same := still (first + count) (by omega) (by omega) served
      rw [Bool.toNat_false]
      omega
    | true =>
      have less := nearer (first + count) (by omega) (by omega) served
      rw [Bool.toNat_true]
      omega

end RoundRobin
