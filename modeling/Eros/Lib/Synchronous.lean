import Mathlib.Data.Nat.Find
import Mathlib.Tactic.Common

/-!
# Synchronous machines

A clocked circuit seen from one clock edge to the next: a register state, a
next-state function and one input value per cycle.  `runFrom` is the sequence
of register states, cycle `t` holding the state *before* edge `t`.  The
invariant and simulation rules package the induction over cycles once, and the
set/clear latch rule turns a flip-flop into a statement about the history of
its two controls.
-/

set_option autoImplicit false

namespace Synchronous

structure Machine (State Input : Type*) where
  init : State
  next : State → Input → State

section Run
variable {State Input : Type*} (machine : Machine State Input)

def Machine.runFrom (start : State) (inputs : Nat → Input) : Nat → State
  | 0 => start
  | cycle + 1 => machine.next (Machine.runFrom start inputs cycle) (inputs cycle)

def Machine.run (inputs : Nat → Input) : Nat → State :=
  machine.runFrom machine.init inputs

@[simp] theorem Machine.runFrom_zero (start : State) (inputs : Nat → Input) :
    machine.runFrom start inputs 0 = start := rfl

@[simp] theorem Machine.run_zero (inputs : Nat → Input) :
    machine.run inputs 0 = machine.init := rfl

theorem Machine.run_succ (inputs : Nat → Input) (cycle : Nat) :
    machine.run inputs (cycle + 1) = machine.next (machine.run inputs cycle) (inputs cycle) := rfl

/-- An invariant kept by every step whose input is allowed holds along every
run that only sees allowed inputs. -/
theorem Machine.runFrom_invariant (Allowed : Input → Prop) (Invariant : State → Prop)
    (start : State) (inputs : Nat → Input) (holds : Invariant start)
    (allowed : ∀ cycle, Allowed (inputs cycle))
    (preserved : ∀ state input, Invariant state → Allowed input →
      Invariant (machine.next state input)) (cycle : Nat) :
    Invariant (machine.runFrom start inputs cycle) := by
  induction cycle with
  | zero => exact holds
  | succ cycle ih => exact preserved _ _ ih (allowed cycle)

/-- Two machines stay related over the first `bound` cycles when one step from
related states, under the inputs of that cycle, gives related states. -/
theorem Machine.runFrom_simulation {State' Input' : Type*} (other : Machine State' Input')
    (Related : State → State' → Prop) (start : State) (start' : State')
    (inputs : Nat → Input) (inputs' : Nat → Input') (bound : Nat)
    (related : Related start start')
    (step : ∀ cycle, cycle < bound →
      Related (machine.runFrom start inputs cycle) (other.runFrom start' inputs' cycle) →
      Related (machine.runFrom start inputs (cycle + 1))
        (other.runFrom start' inputs' (cycle + 1))) :
    ∀ cycle, cycle ≤ bound →
      Related (machine.runFrom start inputs cycle) (other.runFrom start' inputs' cycle) := by
  intro cycle
  induction cycle with
  | zero => intro _; exact related
  | succ cycle ih => intro within; exact step cycle (by omega) (ih (by omega))

end Run

/-! ## First occurrences -/

theorem exists_first_event (event : Nat → Bool) (start : Nat)
    (happens : ∃ cycle, start ≤ cycle ∧ event cycle = true) :
    ∃ later, event (start + later) = true ∧
      ∀ cycle, start ≤ cycle → cycle < start + later → event cycle = false := by
  have some : ∃ later, event (start + later) = true := by
    obtain ⟨cycle, from_, holds⟩ := happens
    obtain ⟨later, rfl⟩ := Nat.exists_eq_add_of_le from_
    exact ⟨later, holds⟩
  refine ⟨Nat.find some, Nat.find_spec some, fun cycle from_ upto => ?_⟩
  obtain ⟨later, rfl⟩ := Nat.exists_eq_add_of_le from_
  have least := Nat.find_min some (Nat.lt_of_add_lt_add_left upto)
  simpa using least

/-! ## The set/clear latch -/

/-- A flip-flop cleared by `clear`, else set by `set`, else holding. -/
def latch (clear set : Nat → Bool) : Nat → Bool
  | 0 => false
  | cycle + 1 => if clear cycle then false else if set cycle then true else latch clear set cycle

/-- The latch is high exactly when some earlier set has not been cleared since. -/
theorem latch_eq_true_iff (clear set : Nat → Bool) (cycle : Nat) :
    latch clear set cycle = true ↔
      ∃ origin, origin < cycle ∧ set origin = true ∧
        ∀ between, origin ≤ between → between < cycle → clear between = false := by
  induction cycle with
  | zero => simp [latch]
  | succ cycle ih =>
    constructor
    · intro high
      simp only [latch] at high
      split_ifs at high with cleared isSet
      · exact ⟨cycle, by omega, isSet, fun between _ _ => by
          have : between = cycle := by omega
          subst between
          simpa using cleared⟩
      · obtain ⟨origin, before, setAt, quiet⟩ := ih.mp high
        refine ⟨origin, by omega, setAt, fun between from_ upto => ?_⟩
        rcases Nat.lt_succ_iff_lt_or_eq.mp upto with earlier | rfl
        · exact quiet between from_ earlier
        · simpa using cleared
    · rintro ⟨origin, before, setAt, quiet⟩
      have notCleared : clear cycle = false := quiet cycle (by omega) (by omega)
      simp only [latch, notCleared, Bool.false_eq_true, if_false]
      by_cases isSet : set cycle = true
      · simp [isSet]
      · rw [if_neg isSet]
        have earlier : origin ≠ cycle := fun same => isSet (same ▸ setAt)
        exact ih.mpr ⟨origin, by omega, setAt, fun between from_ upto =>
          quiet between from_ (by omega)⟩

end Synchronous
