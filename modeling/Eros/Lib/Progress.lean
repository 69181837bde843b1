import Eros.Lib.Synchronous

/-!
# Bounded progress

`LeadsTo bound source path goal`: whenever `source` holds, `goal` holds within
`bound` cycles, and `path` holds in every cycle before.  The rule `of_wait` is
about a state that a machine keeps until an event lets it go on, with an
environment that brings the event as long as the state is kept.
-/

set_option autoImplicit false

namespace Progress

/-- In every cycle from `cycle` to `cycle + bound`. -/
def Throughout (bound cycle : Nat) (held : Nat → Prop) : Prop :=
  ∀ between, cycle ≤ between → between ≤ cycle + bound → held between

def Soon (bound cycle : Nat) (event : Nat → Bool) : Prop :=
  ∃ later, cycle ≤ later ∧ later ≤ cycle + bound ∧ event later = true

def LeadsTo (bound : Nat) (source path goal : Nat → Prop) : Prop :=
  ∀ cycle, source cycle → ∃ later, cycle ≤ later ∧ later ≤ cycle + bound ∧ goal later ∧
    ∀ between, cycle ≤ between → between < later → path between

variable {bound more : Nat} {source path other middle goal : Nat → Prop}

theorem LeadsTo.trans (first : LeadsTo bound source path middle)
    (second : LeadsTo more middle path goal) : LeadsTo (bound + more) source path goal := by
  intro cycle starts
  obtain ⟨halfway, from_, upto, reached, kept⟩ := first cycle starts
  obtain ⟨later, after, within, ends, held⟩ := second halfway reached
  refine ⟨later, by omega, by omega, ends, fun between since until_ => ?_⟩
  rcases Nat.lt_or_ge between halfway with early | late
  · exact kept between since early
  · exact held between late until_

theorem LeadsTo.weaken (leads : LeadsTo bound source path goal) (within : bound ≤ more)
    (along : ∀ cycle, path cycle → other cycle) : LeadsTo more source other goal := by
  intro cycle starts
  obtain ⟨later, from_, upto, reached, kept⟩ := leads cycle starts
  exact ⟨later, from_, by omega, reached,
    fun between since until_ => along between (kept between since until_)⟩

theorem held_until {held : Nat → Prop} {event : Nat → Bool}
    (stays : ∀ cycle, held cycle → event cycle = false → held (cycle + 1)) {start : Nat}
    (starts : held start) (elapsed : Nat)
    (quiet : ∀ between, start ≤ between → between < start + elapsed → event between = false) :
    held (start + elapsed) := by
  induction elapsed with
  | zero => exact starts
  | succ elapsed ih =>
    have before := ih fun between since until_ => quiet between since (by omega)
    exact stays (start + elapsed) before (quiet (start + elapsed) (by omega) (by omega))

/-- A state kept until an event, which comes within `bound` cycles of the state. -/
theorem LeadsTo.of_wait {held : Nat → Prop} (event : Nat → Bool)
    (stays : ∀ cycle, held cycle → event cycle = false → held (cycle + 1))
    (leaves : ∀ cycle, held cycle → event cycle = true → goal (cycle + 1))
    (comes : ∀ cycle, Throughout bound cycle held → Soon bound cycle event) :
    LeadsTo (bound + 1) held held goal := by
  intro cycle starts
  have happens : Soon bound cycle event := by
    by_contra never
    have quiet : ∀ later, cycle ≤ later → later ≤ cycle + bound → event later = false := by
      intro later since until_
      rw [← Bool.not_eq_true]
      exact fun comes => never ⟨later, since, until_, comes⟩
    refine never (comes cycle fun between since until_ => ?_)
    obtain ⟨elapsed, rfl⟩ := Nat.exists_eq_add_of_le since
    exact held_until stays starts elapsed fun early from_ upto => quiet early from_ (by omega)
  obtain ⟨later, since, until_, comes⟩ := happens
  obtain ⟨elapsed, first, quiet⟩ :=
    Synchronous.exists_first_event event cycle ⟨later, since, comes⟩
  have least : cycle + elapsed ≤ later := by
    by_contra past
    have none := quiet later since (by omega)
    rw [comes] at none
    cases none
  have kept : ∀ between, cycle ≤ between → between ≤ cycle + elapsed → held between := by
    intro between from_ upto
    obtain ⟨step, rfl⟩ := Nat.exists_eq_add_of_le from_
    exact held_until stays starts step fun early after before => quiet early after (by omega)
  refine ⟨cycle + elapsed + 1, by omega, by omega, leaves _ (kept _ (by omega) le_rfl) first,
    fun between from_ upto => kept between from_ (by omega)⟩

end Progress
