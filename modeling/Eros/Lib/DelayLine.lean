import Mathlib.Algebra.BigOperators.Fin
import Mathlib.Data.Fin.Basic
import Mathlib.Tactic.Common

/-!
# Delay lines

A chain of registers through which one value moves per cycle.  `history idle
stream cycle age` is the value that entered `age + 1` cycles before `cycle`,
and `idle` while the run is too young for that; a chain that starts out full of
`idle` holds exactly its input's history.  `delayed` is the input `depth`
cycles late.
-/

set_option autoImplicit false

namespace DelayLine
variable {α : Type*}

/-- One clock edge of a register chain: the first register takes the input, the
others their predecessor. -/
def shift {depth : Nat} (input : α) (line : Fin depth → α) : Fin depth → α :=
  fun stage => if stage.val = 0 then input else line ⟨stage.val - 1, by omega⟩

theorem sum_shift {Weight : Type*} [AddCommMonoid Weight] (weight : α → Weight) {depth : Nat}
    (input : α) (line : Fin (depth + 1) → α) :
    (∑ stage, weight (shift input line stage)) + weight (line (Fin.last depth)) =
      (∑ stage, weight (line stage)) + weight input := by
  have first : shift input line 0 = input := rfl
  have later : ∀ stage : Fin depth, shift input line stage.succ = line stage.castSucc :=
    fun _ => rfl
  rw [Fin.sum_univ_succ, Fin.sum_univ_castSucc fun stage => weight (line stage), first]
  simp only [later]
  rw [add_assoc, add_comm (weight input)]

def history (idle : α) (stream : Nat → α) (cycle age : Nat) : α :=
  if age < cycle then stream (cycle - 1 - age) else idle

def delayed (idle : α) (stream : Nat → α) (depth cycle : Nat) : α :=
  if cycle < depth then idle else stream (cycle - depth)

@[simp] theorem history_start (idle : α) (stream : Nat → α) (age : Nat) :
    history idle stream 0 age = idle := by
  simp [history]

@[simp] theorem history_succ_zero (idle : α) (stream : Nat → α) (cycle : Nat) :
    history idle stream (cycle + 1) 0 = stream cycle := by
  simp [history]

@[simp] theorem history_succ_succ (idle : α) (stream : Nat → α) (cycle age : Nat) :
    history idle stream (cycle + 1) (age + 1) = history idle stream cycle age := by
  simp only [history, Nat.add_lt_add_iff_right]
  split_ifs with young
  · congr 1
    omega
  · rfl

theorem history_last (idle : α) (stream : Nat → α) (depth cycle : Nat) :
    history idle stream cycle depth = delayed idle stream (depth + 1) cycle := by
  simp only [history, delayed]
  split_ifs with young tooYoung tooYoung
  · omega
  · congr 1
    omega
  · rfl
  · omega

theorem delayed_late (idle : α) (stream : Nat → α) (depth cycle : Nat) :
    delayed idle stream depth (cycle + depth) = stream cycle := by
  simp [delayed]

/-- What a chain held at the start has left it after as many cycles as it has
registers; from then on it holds its input's history. -/
theorem shift_entered {depth : Nat} (line : Nat → Fin depth → α) (stream : Nat → α)
    (moves : ∀ cycle, line (cycle + 1) = shift (stream cycle) (line cycle)) (cycle : Nat)
    (stage : Fin depth) : line (cycle + stage.val + 1) stage = stream cycle := by
  obtain ⟨index, bound⟩ := stage
  induction index with
  | zero =>
    rw [moves]
    rfl
  | succ index ih =>
    rw [moves]
    exact ih (Nat.lt_of_succ_lt bound)

theorem shift_history {β : Type*} {depth : Nat} (component : α → β) (idle : α)
    (stream : Nat → α) (cycle : Nat) :
    shift (component (stream cycle))
        (fun stage : Fin depth => component (history idle stream cycle stage.val)) =
      fun stage : Fin depth => component (history idle stream (cycle + 1) stage.val) := by
  funext stage
  obtain ⟨index, bound⟩ := stage
  cases index with
  | zero => simp [shift]
  | succ index => simp [shift]

/-- A delayed run is a run on the delayed inputs, when the idle input keeps the
start state in place. -/
theorem delayed_succ {β : Type*} (next : α → β → α) (idle : β) (state : Nat → α)
    (input : Nat → β) (depth cycle : Nat) (stays : next (state 0) idle = state 0)
    (step : ∀ earlier, earlier ≤ cycle →
      state (earlier + 1) = next (state earlier) (input earlier)) :
    delayed (state 0) state depth (cycle + 1) =
      next (delayed (state 0) state depth cycle) (delayed idle input depth cycle) := by
  by_cases young : cycle < depth
  · have still : delayed (state 0) state depth (cycle + 1) = state 0 := by
      unfold delayed
      split_ifs with younger
      · rfl
      · congr 1
        omega
    rw [still]
    simp only [delayed, if_pos young]
    exact stays.symm
  · have advance : cycle + 1 - depth = (cycle - depth) + 1 := by omega
    simp only [delayed, if_neg young, if_neg (show ¬cycle + 1 < depth by omega)]
    rw [advance, step (cycle - depth) (by omega)]

/-! ## The same chain as a list, input side first -/

def historyList (idle : α) (stream : Nat → α) (depth cycle : Nat) : List α :=
  (List.range depth).map (history idle stream cycle)

@[simp] theorem historyList_start (idle : α) (stream : Nat → α) (depth : Nat) :
    historyList idle stream depth 0 = List.replicate depth idle := by
  have constant : history idle stream 0 = fun _ => idle := by
    funext age
    exact history_start idle stream age
  rw [historyList, constant, List.map_const', List.length_range]

theorem dropLast_cons_historyList (idle : α) (stream : Nat → α) (depth cycle : Nat) :
    (stream cycle :: historyList idle stream depth cycle).dropLast =
      historyList idle stream depth (cycle + 1) := by
  cases depth with
  | zero => rfl
  | succ depth =>
    have older : (List.range depth).map (history idle stream cycle) =
        (List.range depth).map (history idle stream (cycle + 1) ∘ Nat.succ) := by
      apply List.map_congr_left
      intro age _
      exact (history_succ_succ idle stream cycle age).symm
    unfold historyList
    rw [List.range_succ, List.map_append, List.map_singleton, ← List.cons_append,
      List.dropLast_concat, ← List.range_succ, List.range_succ_eq_map, List.map_cons,
      List.map_map, history_succ_zero, older]

theorem getLast_historyList (idle : α) (stream : Nat → α) (depth cycle : Nat)
    (nonempty : historyList idle stream (depth + 1) cycle ≠ []) :
    (historyList idle stream (depth + 1) cycle).getLast nonempty =
      delayed idle stream (depth + 1) cycle := by
  rw [← history_last]
  simp [historyList, List.range_succ]

theorem historyList_succ (idle : α) (stream : Nat → α) (depth cycle : Nat) :
    historyList idle stream (depth + 1) cycle =
      historyList idle stream depth cycle ++ [delayed idle stream (depth + 1) cycle] := by
  unfold historyList
  rw [List.range_succ, List.map_append, List.map_singleton, history_last]

theorem cons_historyList (idle : α) (stream : Nat → α) (depth cycle : Nat) :
    stream cycle :: historyList idle stream depth cycle =
      historyList idle stream depth (cycle + 1) ++
        [delayed idle stream (depth + 1) (cycle + 1)] := by
  rw [← historyList_succ, ← dropLast_cons_historyList, historyList_succ, ← List.cons_append,
    List.dropLast_concat]

theorem mem_historyList {idle value : α} {stream : Nat → α} {depth cycle : Nat}
    (member : value ∈ historyList idle stream depth cycle) :
    value = idle ∨ ∃ entered, entered < cycle ∧ cycle ≤ entered + depth ∧ value = stream entered := by
  obtain ⟨age, young, rfl⟩ := List.mem_map.mp member
  have bound := List.mem_range.mp young
  unfold history
  split_ifs with inside
  · exact .inr ⟨cycle - 1 - age, by omega, by omega, rfl⟩
  · exact .inl rfl

theorem stream_mem_historyList (idle : α) (stream : Nat → α) {depth cycle entered : Nat}
    (before : entered < cycle) (recent : cycle ≤ entered + depth) :
    stream entered ∈ historyList idle stream depth cycle := by
  refine List.mem_map.mpr ⟨cycle - 1 - entered, List.mem_range.mpr (by omega), ?_⟩
  unfold history
  rw [if_pos (by omega)]
  congr 1
  omega

end DelayLine
