import Mathlib.Algebra.Group.Nat.Defs
import Mathlib.Data.List.Basic
import Mathlib.Tactic.Common

/-!
# Byte memory with little-endian words

Addresses are 32 bits wide and wrap around.  `Apart a b` says that the words at
`a` and at `b` share no byte; a region is given by its base and its length, and
may wrap.  A sequence of word stores is read back word by word: a word apart
from all of them keeps its value, and when the stores are pairwise apart each of
them is read back.
-/

set_option autoImplicit false

namespace ByteMemory

abbrev Addr := BitVec 32
abbrev Word := BitVec 32
abbrev Mem := Addr → BitVec 8

def load (mem : Mem) (addr : Addr) : Word :=
  mem (addr + 3) ++ mem (addr + 2) ++ mem (addr + 1) ++ mem addr

def store (mem : Mem) (addr : Addr) (value : Word) : Mem := fun byte =>
  if (byte - addr).toNat < 4 then value.extractLsb' (8 * (byte - addr).toNat) 8 else mem byte

/-- One store: the address and the word. -/
abbrev Write := Addr × Word

def storeAll (mem : Mem) (writes : List Write) : Mem :=
  writes.foldl (fun mem write => store mem write.1 write.2) mem

/-- The words at the two addresses share no byte. -/
def Apart (left right : Addr) : Prop := 4 ≤ (left - right).toNat ∧ 4 ≤ (right - left).toNat

instance (left right : Addr) : Decidable (Apart left right) := by
  unfold Apart
  infer_instance

/-- The bytes from `base` on, `size` of them. -/
def InRegion (base : Addr) (size : Nat) (byte : Addr) : Prop := (byte - base).toNat < size

instance (base : Addr) (size : Nat) (byte : Addr) : Decidable (InRegion base size byte) := by
  unfold InRegion
  infer_instance

def Disjoint (base : Addr) (size : Nat) (other : Addr) (otherSize : Nat) : Prop :=
  ∀ byte, InRegion base size byte → ¬InRegion other otherSize byte

theorem Apart.symm {left right : Addr} (apart : Apart left right) : Apart right left :=
  ⟨apart.2, apart.1⟩

theorem Disjoint.symm {base other : Addr} {size otherSize : Nat}
    (disjoint : Disjoint base size other otherSize) : Disjoint other otherSize base size :=
  fun byte inside outside => disjoint byte outside inside

theorem apart_add_iff (base left right : Addr) :
    Apart (base + left) (base + right) ↔ Apart left right := by
  have difference : ∀ first second : Addr, base + first - (base + second) = first - second := by
    intro first second
    bv_omega
  unfold Apart
  rw [difference, difference]

/-! ## One store -/

theorem store_outside (mem : Mem) {addr byte : Addr} (value : Word)
    (outside : ¬InRegion addr 4 byte) : store mem addr value byte = mem byte :=
  if_neg outside

theorem load_store_same (mem : Mem) (addr : Addr) (value : Word) :
    load (store mem addr value) addr = value := by
  have offset : ∀ index : Nat, index < 4 → (addr + BitVec.ofNat 32 index - addr).toNat = index := by
    intro index small
    bv_omega
  have zero : (addr - addr).toNat = 0 := by bv_omega
  have one : (addr + 1 - addr).toNat = 1 := offset 1 (by decide)
  have two : (addr + 2 - addr).toNat = 2 := offset 2 (by decide)
  have three : (addr + 3 - addr).toNat = 3 := offset 3 (by decide)
  unfold load store
  rw [zero, one, two, three]
  ext bit inside
  simp only [Nat.reduceLT, if_true, BitVec.getElem_append, BitVec.getElem_extractLsb']
  split_ifs <;> (rw [← BitVec.getLsbD_eq_getElem]; congr 1; omega)

theorem load_congr {left right : Mem} {addr : Addr}
    (same : ∀ byte, InRegion addr 4 byte → left byte = right byte) :
    load left addr = load right addr := by
  have inside : ∀ index : Nat, index < 4 → InRegion addr 4 (addr + BitVec.ofNat 32 index) := by
    intro index small
    unfold InRegion
    bv_omega
  have zero : left addr = right addr := by
    apply same
    unfold InRegion
    bv_omega
  have one : left (addr + 1) = right (addr + 1) := same _ (inside 1 (by decide))
  have two : left (addr + 2) = right (addr + 2) := same _ (inside 2 (by decide))
  have three : left (addr + 3) = right (addr + 3) := same _ (inside 3 (by decide))
  unfold load
  rw [zero, one, two, three]

theorem apart_region {left right byte : Addr} (apart : Apart left right)
    (inside : InRegion left 4 byte) : ¬InRegion right 4 byte := by
  unfold Apart at apart
  unfold InRegion at *
  bv_omega

theorem load_store_apart (mem : Mem) {addr other : Addr} (value : Word)
    (apart : Apart addr other) : load (store mem addr value) other = load mem other :=
  load_congr fun _ inside => store_outside mem value (apart_region apart.symm inside)

/-! ## Sequences of stores -/

@[simp] theorem storeAll_nil (mem : Mem) : storeAll mem [] = mem := rfl

@[simp] theorem storeAll_cons (mem : Mem) (write : Write) (writes : List Write) :
    storeAll mem (write :: writes) = storeAll (store mem write.1 write.2) writes := rfl

theorem storeAll_append (mem : Mem) (first second : List Write) :
    storeAll mem (first ++ second) = storeAll (storeAll mem first) second :=
  List.foldl_append

theorem storeAll_outside (writes : List Write) (byte : Addr) (mem : Mem)
    (outside : ∀ write ∈ writes, ¬InRegion write.1 4 byte) :
    storeAll mem writes byte = mem byte := by
  induction writes generalizing mem with
  | nil => rfl
  | cons write rest ih =>
    rw [storeAll_cons, ih _ fun later member => outside later (List.mem_cons_of_mem _ member)]
    exact store_outside mem write.2 (outside write List.mem_cons_self)

theorem load_storeAll_apart (writes : List Write) (addr : Addr) (mem : Mem)
    (apart : ∀ write ∈ writes, Apart write.1 addr) :
    load (storeAll mem writes) addr = load mem addr := by
  induction writes generalizing mem with
  | nil => rfl
  | cons write rest ih =>
    rw [storeAll_cons, ih _ fun later member => apart later (List.mem_cons_of_mem _ member)]
    exact load_store_apart mem write.2 (apart write List.mem_cons_self)

theorem load_storeAll_of_mem (writes : List Write) (mem : Mem)
    (separate : writes.Pairwise fun first second => Apart first.1 second.1) {write : Write}
    (member : write ∈ writes) : load (storeAll mem writes) write.1 = write.2 := by
  induction writes generalizing mem with
  | nil => exact absurd member List.not_mem_nil
  | cons head rest ih =>
    obtain ⟨first, later⟩ := List.pairwise_cons.mp separate
    rw [storeAll_cons]
    rcases List.mem_cons.mp member with rfl | member
    · rw [load_storeAll_apart rest _ _ fun other inRest => (first other inRest).symm,
        load_store_same]
    · exact ih _ later member

theorem load_storeAll_written (writes : List Write) (addr : Addr) (value : Word) (mem : Mem)
    (only : ∀ write ∈ writes, write = (addr, value) ∨ Apart write.1 addr)
    (made : (addr, value) ∈ writes) : load (storeAll mem writes) addr = value := by
  induction writes generalizing mem with
  | nil => exact absurd made List.not_mem_nil
  | cons head rest ih =>
    rw [storeAll_cons]
    by_cases later : (addr, value) ∈ rest
    · exact ih _ (fun write member => only write (List.mem_cons_of_mem _ member)) later
    · have last : head = (addr, value) := by
        rcases List.mem_cons.mp made with here | inRest
        · exact here.symm
        · exact absurd inRest later
      rw [load_storeAll_apart rest, last, load_store_same]
      intro write member
      rcases only write (List.mem_cons_of_mem _ member) with same | apart
      · exact absurd (same ▸ member) later
      · exact apart

/-! ## Words and regions -/

theorem region_of_word {base addr byte : Addr} {offset size : Nat}
    (at_ : addr = base + BitVec.ofNat 32 offset) (room : offset + 4 ≤ size) (small : size ≤ 2 ^ 32)
    (inside : InRegion addr 4 byte) : InRegion base size byte := by
  subst at_
  unfold InRegion at *
  bv_omega

theorem region_of_offset {base offset byte : Addr} {size : Nat} (room : offset.toNat + 4 ≤ size)
    (small : size ≤ 2 ^ 32) (inside : InRegion (base + offset) 4 byte) :
    InRegion base size byte := by
  have here : base + offset = base + BitVec.ofNat 32 offset.toNat := by
    rw [BitVec.ofNat_toNat, BitVec.setWidth_eq]
  exact region_of_word here room small inside

theorem apart_of_disjoint {base other left right : Addr} {size otherSize : Nat}
    (disjoint : Disjoint base size other otherSize)
    (leftInside : ∀ byte, InRegion left 4 byte → InRegion base size byte)
    (rightInside : ∀ byte, InRegion right 4 byte → InRegion other otherSize byte) :
    Apart left right := by
  have leftAt : InRegion left 4 left := by
    unfold InRegion
    bv_omega
  have rightAt : InRegion right 4 right := by
    unfold InRegion
    bv_omega
  have leftOut : ¬InRegion left 4 right := fun inside =>
    disjoint right (leftInside right inside) (rightInside right rightAt)
  have rightOut : ¬InRegion right 4 left := fun inside =>
    disjoint left (leftInside left leftAt) (rightInside left inside)
  unfold InRegion at leftOut rightOut
  exact ⟨by omega, by omega⟩

end ByteMemory
