import Eros.CbSafety

/-!
# Images of the save area

The save area holds the five trap registers, `x1` to `x31` and the resume
address in 37 words, and above them the saved stack from the stack pointer up to
the initial stack address.  An image gives every cell of the area a word; the
context it stands for is read off it.  Stores to cells change the image cell by
cell, so a store sequence that is cut leaves an image that mixes two.
-/

set_option autoImplicit false

namespace Eros

open Rv32
open ByteMemory (Mem Write InRegion Apart Disjoint)

inductive Cell
  | csr (name : Csr)
  | reg (name : Reg)
  | resume
  | stack (index : Nat)
  deriving DecidableEq

def csrPosition : Csr → Nat
  | .mstatus => 0 | .mie => 1 | .mtvec => 2 | .mepc => 3 | .mtval => 4

namespace Cell

/-- The word of the area in which a cell stands. -/
def position : Cell → Nat
  | .csr name => csrPosition name
  | .reg name => 4 + name.number
  | .resume => 36
  | .stack index => 37 + index

def offset (cell : Cell) : Word := BitVec.ofNat 32 (4 * cell.position)

def addr (area : Word) (cell : Cell) : Word := area + cell.offset

theorem position_reg_lt (name : Reg) : (Cell.reg name).position < 37 := by
  have bound := name.number_lt
  simp only [position]
  omega

theorem position_csr_lt (name : Csr) : (Cell.csr name).position < 37 := by
  cases name <;> decide

theorem position_bounds {cell : Cell} (saved : cell ≠ .reg .zero) :
    (∃ name, cell = .csr name ∧ cell.position < 5) ∨
      (∃ name, cell = .reg name ∧ 5 ≤ cell.position ∧ cell.position < 36) ∨
      (cell = .resume ∧ cell.position = 36) ∨
      ∃ index, cell = .stack index ∧ cell.position = 37 + index := by
  cases cell with
  | csr name => exact .inl ⟨name, rfl, by cases name <;> decide⟩
  | reg name =>
    have numbered : 1 ≤ name.number := by
      cases name
      · exact absurd rfl saved
      all_goals decide
    have bound := name.number_lt
    refine .inr (.inl ⟨name, rfl, ?_, ?_⟩)
    · simp only [position]
      omega
    · simp only [position]
      omega
  | resume => exact .inr (.inr (.inl ⟨rfl, rfl⟩))
  | stack index => exact .inr (.inr (.inr ⟨index, rfl, rfl⟩))

theorem position_injective {left right : Cell} (leftSaved : left ≠ .reg .zero)
    (rightSaved : right ≠ .reg .zero) (same : left.position = right.position) : left = right := by
  rcases position_bounds leftSaved with ⟨one, rfl, low⟩ | ⟨one, rfl, low⟩ | ⟨rfl, low⟩ | ⟨one, rfl, low⟩ <;>
    rcases position_bounds rightSaved with
      ⟨two, rfl, high⟩ | ⟨two, rfl, high⟩ | ⟨rfl, high⟩ | ⟨two, rfl, high⟩ <;>
    first | omega | skip
  · cases one <;> cases two <;> first | rfl | exact absurd same (by decide)
  · simp only [position] at same
    rw [Reg.number_injective (by omega : one.number = two.number)]
  · rfl
  · simp only [position] at same
    rw [show one = two by omega]

theorem apart_of_position {left right : Cell} (area : Word)
    (different : left.position ≠ right.position) (leftFits : left.position < 2 ^ 30)
    (rightFits : right.position < 2 ^ 30) : Apart (left.addr area) (right.addr area) := by
  unfold addr
  rw [ByteMemory.apart_add_iff]
  unfold offset Apart
  bv_omega

end Cell

/-! ## Images -/

abbrev Image := Cell → Word

namespace Image

def regs (image : Image) : RegFile where
  read reg := if reg = .zero then 0 else image (.reg reg)
  read_zero := rfl

def csrs (image : Image) : Csr → Word := fun csr => image (.csr csr)

/-- The context an image stands for, ready to resume. -/
def context (image : Image) : Context := ⟨image.regs, image.csrs, image .resume⟩

/-- `new` on the cells of `cells`, `old` elsewhere. -/
def torn (cells : List Cell) (new old : Image) : Image :=
  fun cell => if cell ∈ cells then new cell else old cell

theorem regs_of_ne (image : Image) {reg : Reg} (writable : reg ≠ .zero) :
    image.regs.read reg = image (.reg reg) :=
  if_neg writable

theorem context_congr {left right : Image} (regs : ∀ reg, reg ≠ .zero → left (.reg reg) = right (.reg reg))
    (csrs : ∀ csr, left (.csr csr) = right (.csr csr)) (resume : left .resume = right .resume) :
    left.context = right.context := by
  have sameRegs : left.regs = right.regs := by
    apply RegFile.ext
    funext reg
    by_cases zero : reg = .zero
    · subst zero
      rfl
    · rw [regs_of_ne _ zero, regs_of_ne _ zero, regs reg zero]
  have sameCsrs : left.csrs = right.csrs := funext csrs
  unfold context
  rw [sameRegs, sameCsrs, resume]

end Image

/-- The image a memory holds at `area`. -/
def areaImage (ram : Mem) (area : Word) : Image := fun cell => ByteMemory.load ram (cell.addr area)

theorem stackCell_addr (area : Word) (index : Nat) :
    area + 148 + BitVec.ofNat 32 (4 * index) = (Cell.stack index).addr area := by
  unfold Cell.addr Cell.offset Cell.position
  bv_omega

def cellWrites (area : Word) (image : Image) (cells : List Cell) : List Write :=
  cells.map fun cell => (cell.addr area, image cell)

theorem cellWrites_append (area : Word) (image : Image) (first second : List Cell) :
    cellWrites area image (first ++ second) =
      cellWrites area image first ++ cellWrites area image second :=
  List.map_append

/-- Cells that can be told apart by their address. -/
structure Separate (cells : List Cell) : Prop where
  nodup : cells.Nodup
  saved : ∀ cell ∈ cells, cell ≠ .reg .zero
  fits : ∀ cell ∈ cells, cell.position < 2 ^ 30

theorem Separate.sublist {cells some : List Cell} (separate : Separate cells)
    (part : some.Sublist cells) : Separate some where
  nodup := separate.nodup.sublist part
  saved cell member := separate.saved cell (part.subset member)
  fits cell member := separate.fits cell (part.subset member)

theorem Separate.apart {cells : List Cell} (separate : Separate cells) {left right : Cell}
    (leftMember : left ∈ cells) (rightSaved : right ≠ .reg .zero)
    (rightFits : right.position < 2 ^ 30) (different : left ≠ right) (area : Word) :
    Apart (left.addr area) (right.addr area) := by
  apply Cell.apart_of_position area _ (separate.fits left leftMember) rightFits
  intro same
  exact different (Cell.position_injective (separate.saved left leftMember) rightSaved same)

theorem areaImage_cellWrites {cells : List Cell} (separate : Separate cells) (ram : Mem)
    (area : Word) (image : Image) {cell : Cell} (saved : cell ≠ .reg .zero)
    (fits : cell.position < 2 ^ 30) :
    areaImage (ByteMemory.storeAll ram (cellWrites area image cells)) area cell =
      Image.torn cells image (areaImage ram area) cell := by
  unfold Image.torn areaImage
  by_cases written : cell ∈ cells
  · rw [if_pos written]
    have pairwise : (cellWrites area image cells).Pairwise
        fun first second => Apart first.1 second.1 := by
      unfold cellWrites
      rw [List.pairwise_map]
      apply separate.nodup.imp_of_mem
      intro left right leftMember rightMember different
      exact separate.apart leftMember (separate.saved right rightMember)
        (separate.fits right rightMember) different area
    have member : (cell.addr area, image cell) ∈ cellWrites area image cells :=
      List.mem_map_of_mem written
    exact @ByteMemory.load_storeAll_of_mem _ ram pairwise (cell.addr area, image cell) member
  · rw [if_neg written]
    apply ByteMemory.load_storeAll_apart
    intro write member
    obtain ⟨other, otherMember, rfl⟩ := List.mem_map.mp member
    exact separate.apart otherMember saved fits (fun same => written (same ▸ otherMember)) area

/-- The stores that copy the first `words` saved stack words back to `sp`. -/
def stackWrites (sp : Word) (image : Image) (words : Nat) : List Write :=
  (List.range words).map fun index => (sp + BitVec.ofNat 32 (4 * index), image (.stack index))

/-! ## Saving a context into the area -/

section Saving
variable {pc area : Word} {context : Context} {view : HartView} {image : Image}

theorem performs_appendCells {first second : List Instr} {middle final : Context}
    {firstCells secondCells : List Cell}
    (left : Performs hartBus pc first context view (cellWrites area image firstCells) middle)
    (right : Performs hartBus (after pc first) second middle
      (hartBus.storeAll view (cellWrites area image firstCells))
      (cellWrites area image secondCells) final) :
    Performs hartBus pc (first ++ second) context view
      (cellWrites area image (firstCells ++ secondCells)) final := by
  rw [cellWrites_append]
  exact left.append right

theorem performs_saveCells {base : Reg} (table : List (Reg × Word))
    (slots : ∀ entry ∈ table, entry.2 = (Cell.reg entry.1).offset)
    (points : context.regs.read base = area)
    (holds : ∀ entry ∈ table, context.regs.read entry.1 = image (.reg entry.1)) :
    Performs hartBus pc (saveRegs base table) context view
      (cellWrites area image (table.map fun entry => .reg entry.1)) context := by
  have same : cellWrites area image (table.map fun entry => .reg entry.1) =
      table.map fun entry => (context.regs.read base + entry.2, context.regs.read entry.1) := by
    unfold cellWrites
    rw [List.map_map]
    apply List.map_congr_left
    intro entry member
    rw [points, slots entry member, holds entry member]
    rfl
  rw [same]
  exact performs_saveRegs base table pc view

def trapCells : List Cell := csrArea.map fun entry => .csr entry.1

theorem performs_saveTrapCells {scratch base : Reg} (other : base ≠ scratch)
    (writable : scratch ≠ .zero) (points : context.regs.read base = area)
    (holds : ∀ csr, context.csrs csr = image (.csr csr)) :
    ∃ value, Performs hartBus pc (saveCsrs scratch base csrArea) context view
      (cellWrites area image trapCells)
      { context with regs := context.regs.write scratch value } := by
  have same : cellWrites area image trapCells =
      csrArea.map fun entry => (context.regs.read base + entry.2, context.csrs entry.1) := by
    unfold cellWrites trapCells
    rw [List.map_map]
    apply List.map_congr_left
    intro entry member
    have slot : entry.2 = (Cell.csr entry.1).offset := by
      revert entry
      decide
    rw [points, slot, holds]
    rfl
  rw [same]
  exact performs_saveCsrs scratch base other writable csrArea pc view context

end Saving

/-! ## Where the area and the stack lie -/

/-- The stack words saved for a stack pointer; none at the initial address. -/
def stackWords (sp top : Word) : Nat := if sp = top then 0 else (top - sp).toNat / 4 + 1

/-- The area and the stack from 28 bytes below `sp` are separate words of memory. -/
structure SaveSite (area sp top : Word) : Prop where
  spAligned : sp.toNat % 4 = 0
  topAligned : top.toNat % 4 = 0
  below : sp.toNat ≤ top.toNat
  apart : Disjoint area (148 + 4 * stackWords sp top) (sp - 28) (top.toNat - sp.toNat + 32)
  areaMemory : ∀ byte, InRegion area (148 + 4 * stackWords sp top) byte → InMemory byte
  stackMemory : ∀ byte, InRegion (sp - 28) (top.toNat - sp.toNat + 32) byte → InMemory byte

namespace SaveSite
variable {area sp top : Word} (site : SaveSite area sp top)
include site

theorem top_eq : top = sp + BitVec.ofNat 32 (4 * ((top - sp).toNat / 4)) := by
  have spAligned := site.spAligned
  have topAligned := site.topAligned
  have below := site.below
  bv_omega

theorem stackWords_le : 4 * stackWords sp top ≤ top.toNat - sp.toNat + 4 := by
  have below := site.below
  unfold stackWords
  split_ifs with empty
  · omega
  · bv_omega

theorem area_small : 148 + 4 * stackWords sp top < 2 ^ 32 := by
  by_contra large
  apply site.apart (sp - 28)
  · have bound := (sp - 28 - area).isLt
    unfold InRegion
    omega
  · unfold InRegion
    rw [BitVec.sub_self]
    exact Nat.succ_pos _

theorem stack_small : top.toNat - sp.toNat + 32 < 2 ^ 32 := by
  by_contra large
  apply site.apart area
  · unfold InRegion
    rw [BitVec.sub_self]
    exact Nat.lt_of_lt_of_le (by decide) (Nat.le_add_right _ _)
  · have bound := (area - (sp - 28)).isLt
    unfold InRegion
    omega

theorem cell_region {cell : Cell} (fits : cell.position < 37 + stackWords sp top) {byte : Word}
    (inside : InRegion (cell.addr area) 4 byte) :
    InRegion area (148 + 4 * stackWords sp top) byte := by
  have small := site.area_small
  exact ByteMemory.region_of_word rfl (by omega) (by omega) inside

theorem position_small {cell : Cell} (fits : cell.position < 37 + stackWords sp top) :
    cell.position < 2 ^ 30 := by
  have small := site.area_small
  omega

theorem cell_memory {cell : Cell} (fits : cell.position < 37 + stackWords sp top) :
    InMemory (cell.addr area) := by
  apply site.areaMemory
  apply site.cell_region fits
  unfold InRegion
  bv_omega

theorem stack_region {addr : Word} {offset : Nat} (here : addr = sp - 28 + BitVec.ofNat 32 offset)
    (room : offset + 4 ≤ top.toNat - sp.toNat + 32) {byte : Word} (inside : InRegion addr 4 byte) :
    InRegion (sp - 28) (top.toNat - sp.toNat + 32) byte :=
  ByteMemory.region_of_word here room site.stack_small.le inside

theorem stack_memory {addr : Word} {offset : Nat} (here : addr = sp - 28 + BitVec.ofNat 32 offset)
    (room : offset + 4 ≤ top.toNat - sp.toNat + 32) : InMemory addr := by
  apply site.stackMemory
  apply site.stack_region here room
  unfold InRegion
  rw [BitVec.sub_self]
  decide

theorem cell_apart_stack {cell : Cell} (fits : cell.position < 37 + stackWords sp top)
    {addr : Word} {offset : Nat} (here : addr = sp - 28 + BitVec.ofNat 32 offset)
    (room : offset + 4 ≤ top.toNat - sp.toNat + 32) : Apart (cell.addr area) addr :=
  ByteMemory.apart_of_disjoint site.apart (fun _ inside => site.cell_region fits inside)
    (fun _ inside => site.stack_region here room inside)

theorem stack_word {index : Nat} (inside : index < stackWords sp top) :
    sp + BitVec.ofNat 32 (4 * index) = sp - 28 + BitVec.ofNat 32 (28 + 4 * index) ∧
      28 + 4 * index + 4 ≤ top.toNat - sp.toNat + 32 := by
  have bound := site.stackWords_le
  exact ⟨by bv_omega, by omega⟩

theorem stackWrites_memory (image : Image) {write : Write}
    (member : write ∈ stackWrites sp image (stackWords sp top)) : InMemory write.1 := by
  obtain ⟨index, inside, rfl⟩ := List.mem_map.mp member
  obtain ⟨here, room⟩ := site.stack_word (List.mem_range.mp inside)
  exact site.stack_memory here room

theorem areaImage_stackWrites (ram : Mem) (image : Image) {cell : Cell}
    (fits : cell.position < 37 + stackWords sp top) :
    areaImage (ByteMemory.storeAll ram (stackWrites sp image (stackWords sp top))) area cell =
      areaImage ram area cell := by
  apply ByteMemory.load_storeAll_apart
  intro write member
  obtain ⟨index, inside, rfl⟩ := List.mem_map.mp member
  obtain ⟨here, room⟩ := site.stack_word (List.mem_range.mp inside)
  exact (site.cell_apart_stack fits here room).symm

theorem load_stackWrites (ram : Mem) (image : Image) {index : Nat}
    (inside : index < stackWords sp top) :
    ByteMemory.load (ByteMemory.storeAll ram (stackWrites sp image (stackWords sp top)))
      (sp + BitVec.ofNat 32 (4 * index)) = image (.stack index) := by
  have small := site.area_small
  have pairwise : (stackWrites sp image (stackWords sp top)).Pairwise
      fun first second => Apart first.1 second.1 := by
    unfold stackWrites
    rw [List.pairwise_map]
    apply List.nodup_range.imp_of_mem
    intro left right leftMember rightMember different
    have leftInside := List.mem_range.mp leftMember
    have rightInside := List.mem_range.mp rightMember
    rw [ByteMemory.apart_add_iff]
    unfold Apart
    bv_omega
  exact @ByteMemory.load_storeAll_of_mem _ ram pairwise
    (sp + BitVec.ofNat 32 (4 * index), image (.stack index))
    (List.mem_map_of_mem (List.mem_range.mpr inside))

end SaveSite

/-! ## A call and a memory to run on -/

def numberedRegs (sp : Word) : RegFile where
  read reg := if reg = .zero then 0 else if reg = .sp then sp else BitVec.ofNat 32 reg.number
  read_zero := rfl

def numberedCall (sp : Word) : Context := ⟨numberedRegs sp, fun _ => 0x1800, 0⟩

def checkpointView : HartView where
  ram _ := 0
  ctrl := { SafeWrapperCtrl.reset with safeCopyAddress := 0x20000, initialStackAddr := 0x10000 }
  priv := ⟨0, false, false⟩

end Eros
