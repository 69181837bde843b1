import Eros.Lib.ByteMemory

/-!
# A memory shared by several ports

The memory that a serial history of operations leaves behind, seen through a view
of it: an operation that leaves the view alone can be skipped.  The operations of
the cycles before a cycle, in the order of the cycles, are its history.  Words
are written by byte lanes.
-/

set_option autoImplicit false

namespace SharedMemory

section History
variable {Mem Op View : Type*} (step : Mem → Op → Mem) (view : Mem → View)

def serve (mem : Mem) (ops : List Op) : Mem := ops.foldl step mem

def Leaves (op : Op) : Prop := ∀ mem, view (step mem op) = view mem

/-- The view after the operation depends only on the view before. -/
def Local (op : Op) : Prop :=
  ∀ mem other, view mem = view other → view (step mem op) = view (step other op)

@[simp] theorem serve_nil (mem : Mem) : serve step mem [] = mem := rfl

theorem serve_append (mem : Mem) (first second : List Op) :
    serve step mem (first ++ second) = serve step (serve step mem first) second :=
  List.foldl_append

variable {step view}

theorem view_serve_of_leaves {ops : List Op} (mem : Mem) (left : ∀ op ∈ ops, Leaves step view op) :
    view (serve step mem ops) = view mem := by
  induction ops generalizing mem with
  | nil => rfl
  | cons op rest ih =>
    have skipped := ih (step mem op) fun later member => left later (List.mem_cons_of_mem _ member)
    exact skipped.trans (left op List.mem_cons_self mem)

theorem view_serve_of_one {op : Op} {ops : List Op} (mem : Mem) (member : op ∈ ops)
    (near : Local step view op) (once : ops.Nodup)
    (left : ∀ other ∈ ops, other ≠ op → Leaves step view other) :
    view (serve step mem ops) = view (step mem op) := by
  induction ops generalizing mem with
  | nil => exact absurd member List.not_mem_nil
  | cons head rest ih =>
    obtain ⟨fresh, onceRest⟩ := List.nodup_cons.mp once
    by_cases same : head = op
    · subst same
      exact view_serve_of_leaves _ fun other later =>
        left other (List.mem_cons_of_mem _ later) (ne_of_mem_of_not_mem later fresh)
    · have later : op ∈ rest := (List.mem_cons.mp member).resolve_left fun eq => same eq.symm
      have skipped := ih (step mem head) later onceRest
        fun other inside => left other (List.mem_cons_of_mem _ inside)
      exact skipped.trans (near _ _ (left head List.mem_cons_self same mem))

def history (ops : Nat → List Op) : Nat → List Op
  | 0 => []
  | cycle + 1 => history ops cycle ++ ops cycle

theorem serve_history_succ (mem : Mem) (ops : Nat → List Op) (cycle : Nat) :
    serve step mem (history ops (cycle + 1)) =
      serve step (serve step mem (history ops cycle)) (ops cycle) :=
  serve_append step mem _ _

end History

/-! ## Byte lanes -/

open ByteMemory

/-- The byte in lane `index` of a word written with byte enables. -/
def mergedLane (be : BitVec 4) (old new : Word) (index : Nat) : BitVec 8 :=
  if be.getLsbD index then new.extractLsb' (8 * index) 8 else old.extractLsb' (8 * index) 8

def mergeLanes (be : BitVec 4) (old new : Word) : Word :=
  mergedLane be old new 3 ++ mergedLane be old new 2 ++ mergedLane be old new 1 ++
    mergedLane be old new 0

def storeLanes (mem : Mem) (addr : Addr) (be : BitVec 4) (value : Word) : Mem := fun byte =>
  if (byte - addr).toNat < 4 ∧ be.getLsbD (byte - addr).toNat = true then
    value.extractLsb' (8 * (byte - addr).toNat) 8
  else mem byte

theorem storeLanes_outside (mem : Mem) {addr byte : Addr} (be : BitVec 4) (value : Word)
    (outside : ¬InRegion addr 4 byte) : storeLanes mem addr be value byte = mem byte :=
  if_neg fun lane => outside lane.1

theorem storeLanes_all (mem : Mem) (addr : Addr) (value : Word) :
    storeLanes mem addr 0b1111 value = store mem addr value := by
  funext byte
  have set : ∀ index : Nat, index < 4 → (0b1111#4).getLsbD index = true := by decide
  unfold storeLanes store
  by_cases inside : (byte - addr).toNat < 4
  · rw [if_pos ⟨inside, set _ inside⟩, if_pos inside]
  · rw [if_neg fun lane => inside lane.1, if_neg inside]

theorem lane_load (mem : Mem) (addr : Addr) :
    (load mem addr).extractLsb' 0 8 = mem addr ∧
      (load mem addr).extractLsb' 8 8 = mem (addr + 1) ∧
      (load mem addr).extractLsb' 16 8 = mem (addr + 2) ∧
      (load mem addr).extractLsb' 24 8 = mem (addr + 3) := by
  unfold load
  refine ⟨?_, ?_, ?_, ?_⟩ <;>
    (ext bit inside
     simp only [BitVec.getElem_extractLsb', BitVec.getLsbD_append]
     repeat' split_ifs
     all_goals first
       | omega
       | (rw [← BitVec.getLsbD_eq_getElem]; congr 1; omega))

theorem load_storeLanes_same (mem : Mem) (addr : Addr) (be : BitVec 4) (value : Word) :
    load (storeLanes mem addr be value) addr = mergeLanes be (load mem addr) value := by
  have zero : (addr - addr).toNat = 0 := by bv_omega
  have one : (addr + 1 - addr).toNat = 1 := by bv_omega
  have two : (addr + 2 - addr).toNat = 2 := by bv_omega
  have three : (addr + 3 - addr).toNat = 3 := by bv_omega
  obtain ⟨lane0, lane1, lane2, lane3⟩ := lane_load mem addr
  unfold mergeLanes mergedLane
  rw [Nat.mul_zero, Nat.mul_one, lane0, lane1, lane2, lane3, load]
  unfold storeLanes
  rw [zero, one, two, three]
  simp

theorem load_storeLanes_apart (mem : Mem) {addr other : Addr} (be : BitVec 4) (value : Word)
    (apart : Apart addr other) : load (storeLanes mem addr be value) other = load mem other :=
  load_congr fun _ inside => storeLanes_outside mem be value (apart_region apart.symm inside)

end SharedMemory
