import Mathlib.Data.Nat.Bitwise
import Mathlib.Tactic.Common

/-!
# Selection trees

A binary tree of selections over numbered leaves, of which some hold a request.
The node at `place` of `height` stands over the leaves `place * 2 ^ height` up to
the next node's; it passes on the winner of its right half when the left half
holds no request, or when the right half holds one and it is the right half's
turn.  With the turns read off the bits of a number, that leaf wins whenever it
holds a request; when no turn is ever the right half's, the lowest request wins.
-/

set_option autoImplicit false

namespace Tournament
variable (request turn : Nat → Bool)

/-- Some leaf below the node holds a request. -/
def requested : Nat → Nat → Bool
  | 0, place => request place
  | height + 1, place => requested height (2 * place) || requested height (2 * place + 1)

/-- The selection of the node one level above `height`. -/
def turnsRight (height place : Nat) : Bool :=
  !requested request height (2 * place) ||
    requested request height (2 * place + 1) && turn height

def winner : Nat → Nat → Nat
  | 0, place => place
  | height + 1, place =>
      winner height (2 * place + (turnsRight request turn height place).toNat)

variable {request turn}

theorem half_of_div {leaf height place : Nat} (below : leaf / 2 ^ (height + 1) = place) :
    leaf / 2 ^ height = 2 * place + (leaf.testBit height).toNat := by
  have bit : (leaf.testBit height).toNat = leaf / 2 ^ height % 2 := by
    rw [Nat.toNat_testBit]
  rw [pow_succ, ← Nat.div_div_eq_div_mul] at below
  omega

theorem div_of_half {leaf height place : Nat} (right : Bool)
    (below : leaf / 2 ^ height = 2 * place + right.toNat) :
    leaf / 2 ^ (height + 1) = place := by
  have low := right.toNat_lt
  rw [pow_succ, ← Nat.div_div_eq_div_mul, below]
  omega

theorem requested_half {height place : Nat} {right : Bool}
    (requests : requested request height (2 * place + right.toNat) = true) :
    requested request (height + 1) place = true := by
  cases right with
  | false => simp only [requested, Bool.or_eq_true]; exact Or.inl requests
  | true => simp only [requested, Bool.or_eq_true]; exact Or.inr requests

theorem requested_of_leaf {leaf height place : Nat} (below : leaf / 2 ^ height = place)
    (requests : request leaf = true) : requested request height place = true := by
  induction height generalizing place with
  | zero =>
    rw [pow_zero, Nat.div_one] at below
    rwa [requested, ← below]
  | succ height ih => exact requested_half (ih (half_of_div below))

theorem requested_turnsRight (turn : Nat → Bool) {height place : Nat}
    (requests : requested request (height + 1) place = true) :
    requested request height (2 * place + (turnsRight request turn height place).toNat) = true := by
  simp only [requested, Bool.or_eq_true] at requests
  unfold turnsRight
  cases left : requested request height (2 * place) with
  | false =>
    rw [left] at requests
    simpa using requests
  | true =>
    cases right : requested request height (2 * place + 1) && turn height with
    | false => simpa using left
    | true => simpa using (Bool.and_eq_true _ _ ▸ right).1

theorem winner_div (request turn : Nat → Bool) (height place : Nat) :
    winner request turn height place / 2 ^ height = place := by
  induction height generalizing place with
  | zero => simp [winner]
  | succ height ih => exact div_of_half _ (ih _)

theorem request_winner (turn : Nat → Bool) {height place : Nat}
    (requests : requested request height place = true) :
    request (winner request turn height place) = true := by
  induction height generalizing place with
  | zero => exact requests
  | succ height ih => exact ih (requested_turnsRight turn requests)

theorem requested_iff {height place : Nat} :
    requested request height place = true ↔
      ∃ leaf, leaf / 2 ^ height = place ∧ request leaf = true := by
  constructor
  · intro requests
    exact ⟨winner request (fun _ => false) height place, winner_div _ _ height place,
      request_winner _ requests⟩
  · rintro ⟨leaf, below, requests⟩
    exact requested_of_leaf below requests

theorem winner_of_turn {leaf height place : Nat} (below : leaf / 2 ^ height = place)
    (requests : request leaf = true)
    (turns : ∀ level, level < height → turn level = leaf.testBit level) :
    winner request turn height place = leaf := by
  induction height generalizing place with
  | zero => simpa [winner] using below.symm
  | succ height ih =>
    have half := half_of_div below
    have chosen : turnsRight request turn height place = leaf.testBit height := by
      have reached := requested_of_leaf half requests
      unfold turnsRight
      rw [turns height (Nat.lt_succ_self height)]
      cases side : leaf.testBit height with
      | false =>
        rw [side] at reached
        simpa using reached
      | true =>
        rw [side] at reached
        simpa using Or.inr reached
    rw [winner, chosen]
    exact ih half fun level within => turns level (Nat.lt_succ_of_lt within)

theorem winner_le {leaf height place : Nat} (below : leaf / 2 ^ height = place)
    (requests : request leaf = true) (turns : ∀ level, turn level = false) :
    winner request turn height place ≤ leaf := by
  induction height generalizing place with
  | zero => simp [winner, ← below]
  | succ height ih =>
    have half := half_of_div below
    have reached := requested_of_leaf half requests
    rw [winner]
    cases side : leaf.testBit height with
    | false =>
      rw [side] at half reached
      have chosen : turnsRight request turn height place = false := by
        simpa [turnsRight, turns] using reached
      rw [chosen]
      exact ih half
    | true =>
      rw [side] at half
      cases chosen : turnsRight request turn height place with
      | true => exact ih half
      | false =>
        -- the winner stands in the left half, wholly below the leaf
        have left := winner_div request turn height (2 * place)
        rw [Bool.toNat_false, Nat.add_zero]
        rw [Bool.toNat_true] at half
        have smaller : winner request turn height (2 * place) / 2 ^ height < leaf / 2 ^ height := by
          omega
        exact (Nat.lt_of_div_lt_div smaller).le

end Tournament
