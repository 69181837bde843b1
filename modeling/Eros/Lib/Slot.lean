import Eros.Lib.Outstanding
import Eros.Lib.Synchronous

/-!
# A slot for one item

The slot takes an item when it is empty or when the one it holds is released in the
same cycle, and keeps it until then.  What it holds and what it releases are given by
the history of what was taken.
-/

set_option autoImplicit false

namespace Slot

variable {Item : Type*}

/-- The item offered in a cycle, and the items that would be released in it. -/
structure SlotIn (Item : Type*) where
  offers : Option Item
  releases : Item → Bool

def isFree (held : Option Item) (inp : SlotIn Item) : Bool := held.all inp.releases

def released (held : Option Item) (inp : SlotIn Item) : Bool := held.any inp.releases

def takes (held : Option Item) (inp : SlotIn Item) : Option Item :=
  if isFree held inp then inp.offers else none

def next (held : Option Item) (inp : SlotIn Item) : Option Item :=
  if isFree held inp then inp.offers else held

def slot : Synchronous.Machine (Option Item) (SlotIn Item) where
  init := none
  next := next

section Run
variable (inputs : Nat → SlotIn Item)

def takenAt (cycle : Nat) : Option Item := takes (slot.run inputs cycle) (inputs cycle)

def releasedAt (cycle : Nat) : Bool := released (slot.run inputs cycle) (inputs cycle)

theorem run_succ (cycle : Nat) :
    slot.run inputs (cycle + 1) =
      if isFree (slot.run inputs cycle) (inputs cycle) then (inputs cycle).offers
      else slot.run inputs cycle := rfl

theorem holds_iff (cycle : Nat) (item : Item) :
    slot.run inputs cycle = some item ↔
      ∃ taken, taken < cycle ∧ takenAt inputs taken = some item ∧
        ∀ between, taken < between → between < cycle →
          (inputs between).releases item = false := by
  induction cycle with
  | zero =>
    constructor
    · intro holds
      cases holds
    · rintro ⟨taken, before, -⟩
      exact absurd before (Nat.not_lt_zero taken)
  | succ cycle ih =>
    rw [run_succ]
    by_cases free : isFree (slot.run inputs cycle) (inputs cycle) = true
    · rw [if_pos free]
      constructor
      · intro offered
        refine ⟨cycle, by omega, ?_, fun between after before => by omega⟩
        rwa [takenAt, takes, if_pos free]
      · rintro ⟨taken, before, took, kept⟩
        rcases Nat.lt_succ_iff_lt_or_eq.mp before with earlier | rfl
        · -- an item taken earlier would keep the slot from being free
          have holds := ih.mpr ⟨taken, earlier, took, fun between after upto =>
            kept between after (by omega)⟩
          have stays := kept cycle earlier (by omega)
          rw [holds, isFree, Option.all_some, stays] at free
          cases free
        · rwa [takenAt, takes, if_pos free] at took
    · rw [if_neg free, ih]
      constructor
      · rintro ⟨taken, before, took, kept⟩
        refine ⟨taken, by omega, took, fun between after upto => ?_⟩
        rcases Nat.lt_succ_iff_lt_or_eq.mp upto with earlier | rfl
        · exact kept between after earlier
        · have holds := ih.mpr ⟨taken, before, took, kept⟩
          rw [holds, isFree, Option.all_some] at free
          exact (Bool.not_eq_true _).mp free
      · rintro ⟨taken, before, took, kept⟩
        rcases Nat.lt_succ_iff_lt_or_eq.mp before with earlier | rfl
        · exact ⟨taken, earlier, took, fun between after upto => kept between after (by omega)⟩
        · rw [takenAt, takes, if_neg free] at took
          cases took

theorem tally_taken (cycle : Nat) :
    Outstanding.tally (fun earlier => (takenAt inputs earlier).isSome) cycle =
      Outstanding.tally (releasedAt inputs) cycle + (slot.run inputs cycle).isSome.toNat := by
  induction cycle with
  | zero => rfl
  | succ cycle ih =>
    rw [Outstanding.tally_succ, Outstanding.tally_succ, ih, run_succ, takenAt, takes, releasedAt]
    cases held : slot.run inputs cycle with
    | none => simp [isFree, released]
    | some item =>
      cases release : (inputs cycle).releases item with
      | false => simp [isFree, released, release]
      | true =>
        simp only [isFree, released, release, Option.all_some, Option.any_some, if_true,
          Option.isSome_some, Bool.toNat_true]

theorem takenAt_of_holds {cycle : Nat} {item : Item} (holds : slot.run inputs cycle = some item)
    (kept : (inputs cycle).releases item = false) : takenAt inputs cycle = none := by
  rw [takenAt, takes, holds, isFree, Option.all_some, kept]
  rfl

end Run

end Slot
