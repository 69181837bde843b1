import Mathlib.Data.List.Basic
import Mathlib.Tactic.Common

/-!
# Queues in a clocked circuit

A buffer that in each cycle may take one value in and hand one out, described by
the values it holds, oldest first.  Two queues in a row are a queue, and a queue
that starts empty has handed out what it took in, less what it still holds.
-/

set_option autoImplicit false

namespace Fifo
variable {α : Type*}

/-- One cycle of a queue: what it held and what it takes in is what it hands out
and what it holds afterwards. -/
def Passes (taken given : Option α) (before after : List α) : Prop :=
  before ++ taken.toList = given.toList ++ after

theorem Passes.wire (value : Option α) : Passes value value [] [] := by
  simp [Passes]

/-- The queue `front`, fed by what the queue `back` hands out. -/
theorem Passes.comp {taken between given : Option α} {back back' front front' : List α}
    (second : Passes between given front front') (first : Passes taken between back back') :
    Passes taken given (front ++ back) (front' ++ back') := by
  unfold Passes at *
  calc front ++ back ++ taken.toList
      = front ++ (between.toList ++ back') := by rw [List.append_assoc, first]
    _ = given.toList ++ front' ++ back' := by rw [← List.append_assoc, second]
    _ = given.toList ++ (front' ++ back') := List.append_assoc _ _ _

/-- The values a stream has carried before `cycle`. -/
def carried (stream : Nat → Option α) : Nat → List α
  | 0 => []
  | cycle + 1 => carried stream cycle ++ (stream cycle).toList

theorem carried_eq_of_passes {taken given : Nat → Option α} {held : Nat → List α}
    (empty : held 0 = [])
    (passes : ∀ cycle, Passes (taken cycle) (given cycle) (held cycle) (held (cycle + 1)))
    (cycle : Nat) : carried taken cycle = carried given cycle ++ held cycle := by
  induction cycle with
  | zero => simp [carried, empty]
  | succ cycle ih =>
    have step : held cycle ++ (taken cycle).toList = (given cycle).toList ++ held (cycle + 1) :=
      passes cycle
    simp only [carried]
    rw [ih, List.append_assoc, step, List.append_assoc]

theorem carried_silent {stream : Nat → Option α} {cycle : Nat}
    (silent : ∀ earlier, earlier < cycle → stream earlier = none) : carried stream cycle = [] := by
  induction cycle with
  | zero => rfl
  | succ cycle ih =>
    rw [carried, ih fun earlier before => silent earlier (Nat.lt_succ_of_lt before),
      silent cycle (Nat.lt_succ_self _)]
    rfl

/-- A stream that carries another one `delay` cycles late. -/
theorem carried_of_late {slow fast : Nat → Option α} {delay : Nat}
    (before : ∀ cycle, cycle < delay → slow cycle = none)
    (late : ∀ cycle, slow (cycle + delay) = fast cycle) (cycle : Nat) :
    carried slow (cycle + delay) = carried fast cycle := by
  induction cycle with
  | zero =>
    rw [Nat.zero_add]
    exact carried_silent before
  | succ cycle ih => rw [Nat.succ_add, carried, carried, ih, late]

theorem carried_mono (stream : Nat → Option α) (cycle later : Nat) :
    carried stream cycle <+: carried stream (cycle + later) := by
  induction later with
  | zero => exact List.prefix_refl _
  | succ later ih => exact ih.trans (List.prefix_append _ _)

theorem zip_of_longer {β : Type*} {first whole : List α} (part : first <+: whole) {answers : List β}
    (short : answers.length ≤ first.length) : first.zip answers = whole.zip answers := by
  obtain ⟨rest, rfl⟩ := part
  induction answers generalizing first with
  | nil => rw [List.zip_nil_right, List.zip_nil_right]
  | cons answer answers ih =>
    cases first with
    | nil => exact absurd short (Nat.not_succ_le_zero _)
    | cons head tail =>
      rw [List.cons_append, List.zip_cons_cons, List.zip_cons_cons,
        ih (Nat.le_of_succ_le_succ short)]

end Fifo
