import Eros.SaveArea
import Mathlib.Data.List.Induction

/-!
# The heap

`_sbrk` and `_brk` move the end of the used part of the `.heap` section.  What they hand
out is apart from every other section of the program and from what was handed out before
and not given back, over any run of calls.
-/

set_option autoImplicit false

namespace Eros

open LinkerScript

abbrev Pointer := BitVec 32

section Calls
variable (heapStart heapEnd : Pointer)

/-- `_brk`: the result and the new value of `brk`. -/
def brkCall (brk addr : Pointer) : BitVec 32 × Pointer :=
  if heapStart ≤ addr ∧ addr ≤ heapEnd then (0, addr) else (-1, brk)

/-- `_sbrk`, with the sum `brk + incr` of a pointer and a `ptrdiff_t`. -/
def sbrkCall (brk incr : Pointer) : Pointer × Pointer :=
  if heapStart = heapEnd then (0, brk)
  else if brk + incr < heapEnd ∧ heapStart ≤ brk + incr then (brk, brk + incr)
  else (-1, brk)

inductive HeapCall
  | brk (addr : Pointer)
  | sbrk (incr : Pointer)

def HeapCall.moved (brk : Pointer) : HeapCall → Pointer
  | .brk addr => (brkCall heapStart heapEnd brk addr).2
  | .sbrk incr => (sbrkCall heapStart heapEnd brk incr).2

/-- `brk` and what the calls have handed out, the newest first. -/
structure HeapState where
  brk : Pointer
  blocks : List Extent

/-- What is left of a block when everything from `top` on is given back. -/
def cutAt (top : Nat) (block : Extent) : Extent :=
  if block.stop ≤ top then block else ⟨block.start, top⟩

/-- A move up hands out a block; a move down gives back all that lies above. -/
def HeapState.move (state : HeapState) (brk : Pointer) : HeapState where
  brk := brk
  blocks :=
    if state.brk < brk then ⟨state.brk.toNat, brk.toNat⟩ :: state.blocks
    else state.blocks.map (cutAt brk.toNat)

/-- The state after the calls, from `brk = __heap_start` on. -/
def heapRun (calls : List HeapCall) : HeapState :=
  calls.foldl (fun state call => state.move (call.moved heapStart heapEnd state.brk))
    ⟨heapStart, []⟩

/-- Every block lies behind the older ones and below `brk`. -/
structure HeapState.Ordered (state : HeapState) : Prop where
  low : heapStart ≤ state.brk
  high : state.brk ≤ heapEnd
  behind : state.blocks.Pairwise fun newer older => older.stop ≤ newer.start
  above : ∀ block ∈ state.blocks, heapStart.toNat ≤ block.start
  below : ∀ block ∈ state.blocks, block.stop ≤ state.brk.toNat

end Calls

section Runs
variable {heapStart heapEnd : Pointer}

theorem brkCall_within {brk addr : Pointer} (low : heapStart ≤ brk) (high : brk ≤ heapEnd) :
    heapStart ≤ (brkCall heapStart heapEnd brk addr).2 ∧
      (brkCall heapStart heapEnd brk addr).2 ≤ heapEnd := by
  rw [brkCall]
  split_ifs with inside
  · exact inside
  · exact ⟨low, high⟩

theorem sbrkCall_within {brk incr : Pointer} (low : heapStart ≤ brk) (high : brk ≤ heapEnd) :
    heapStart ≤ (sbrkCall heapStart heapEnd brk incr).2 ∧
      (sbrkCall heapStart heapEnd brk incr).2 ≤ heapEnd := by
  rw [sbrkCall]
  split_ifs with empty inside
  · exact ⟨low, high⟩
  · exact ⟨inside.2, BitVec.le_of_lt inside.1⟩
  · exact ⟨low, high⟩

theorem HeapCall.moved_within (call : HeapCall) {brk : Pointer} (low : heapStart ≤ brk)
    (high : brk ≤ heapEnd) : heapStart ≤ call.moved heapStart heapEnd brk ∧
      call.moved heapStart heapEnd brk ≤ heapEnd := by
  cases call with
  | brk addr => exact brkCall_within low high
  | sbrk incr => exact sbrkCall_within low high

@[simp] theorem start_cutAt (top : Nat) (block : Extent) : (cutAt top block).start = block.start := by
  rw [cutAt]
  split_ifs <;> rfl

theorem stop_cutAt_le (top : Nat) (block : Extent) :
    (cutAt top block).stop ≤ block.stop ∧ (cutAt top block).stop ≤ top := by
  rw [cutAt]
  split_ifs with below
  · exact ⟨Nat.le_refl _, below⟩
  · exact ⟨Nat.le_of_not_le below, Nat.le_refl _⟩

theorem HeapState.Ordered.move {state : HeapState} (ordered : state.Ordered heapStart heapEnd)
    {brk : Pointer} (low : heapStart ≤ brk) (high : brk ≤ heapEnd) :
    (state.move brk).Ordered heapStart heapEnd := by
  by_cases up : state.brk < brk
  · have rises : state.brk.toNat < brk.toNat := up
    have blocks : (state.move brk).blocks = ⟨state.brk.toNat, brk.toNat⟩ :: state.blocks :=
      if_pos up
    refine ⟨low, high, ?_, ?_, ?_⟩
    · rw [blocks, List.pairwise_cons]
      exact ⟨ordered.below, ordered.behind⟩
    · rw [blocks, List.forall_mem_cons]
      exact ⟨ordered.low, ordered.above⟩
    · rw [blocks, List.forall_mem_cons]
      exact ⟨Nat.le_refl _, fun block member =>
        Nat.le_trans (ordered.below block member) (Nat.le_of_lt rises)⟩
  · have blocks : (state.move brk).blocks = state.blocks.map (cutAt brk.toNat) := if_neg up
    refine ⟨low, high, ?_, ?_, ?_⟩
    · rw [blocks, List.pairwise_map]
      refine ordered.behind.imp fun {newer older} behind => ?_
      rw [start_cutAt]
      exact Nat.le_trans (stop_cutAt_le _ older).1 behind
    · rw [blocks, List.forall_mem_map]
      simpa only [start_cutAt] using ordered.above
    · rw [blocks, List.forall_mem_map]
      exact fun block _ => (stop_cutAt_le _ block).2

theorem heapRun_ordered (start : heapStart ≤ heapEnd) (calls : List HeapCall) :
    (heapRun heapStart heapEnd calls).Ordered heapStart heapEnd := by
  induction calls using List.reverseRecOn with
  | nil => exact ⟨BitVec.le_refl _, start, .nil, by simp [heapRun], by simp [heapRun]⟩
  | append_singleton calls call ih =>
    rw [heapRun, List.foldl_append, List.foldl_cons, List.foldl_nil, ← heapRun]
    obtain ⟨low, high⟩ := call.moved_within ih.low ih.high
    exact ih.move low high

/-- In a heap of at most half the address space the comparisons of the wrapped sum are
those of the sum itself. -/
theorem sbrkCall_eq {brk : Pointer} (low : heapStart ≤ brk) (high : brk ≤ heapEnd)
    (filled : heapStart ≠ heapEnd) (half : heapEnd.toNat ≤ heapStart.toNat + 2 ^ 31)
    (incr : Pointer) : sbrkCall heapStart heapEnd brk incr =
      if (heapStart.toNat : Int) ≤ brk.toNat + incr.toInt ∧
          brk.toNat + incr.toInt < (heapEnd.toNat : Int) then
        (brk, BitVec.ofInt 32 (brk.toNat + incr.toInt))
      else (-1, brk) := by
  have sum : BitVec.ofInt 32 (brk.toNat + incr.toInt) = brk + incr := by
    rw [BitVec.ofInt_add, BitVec.ofInt_toInt, BitVec.ofInt_natCast, BitVec.ofNat_toNat,
      BitVec.setWidth_eq]
  have wrapped : (brk + incr).toNat = (brk.toNat + incr.toNat) % 2 ^ 32 := BitVec.toNat_add _ _
  have signed := BitVec.toInt_eq_toNat_cond incr
  have range := incr.isLt
  have last := heapEnd.isLt
  have lowNat : heapStart.toNat ≤ brk.toNat := low
  have highNat : brk.toNat ≤ heapEnd.toNat := high
  have same : (brk + incr < heapEnd ∧ heapStart ≤ brk + incr) ↔
      ((heapStart.toNat : Int) ≤ brk.toNat + incr.toInt ∧
        brk.toNat + incr.toInt < (heapEnd.toNat : Int)) := by
    rw [BitVec.lt_def, BitVec.le_def, wrapped, signed]
    split_ifs <;> omega
  rw [sbrkCall, if_neg filled, sum]
  exact if_congr same rfl rfl

end Runs

namespace LinkLd

section Linked
variable {inputs : SectionName → Contents} {map : List (SectionName × Extent)}

theorem offsets_ordered {part later : OutputSection MemoryRegion SectionName}
    (order : before part.name script ++ [part] <+: before later.name script)
    (here : part.region = .ram1) (floating : later.addr = none) :
    (offsets inputs part).stop ≤ (offsets inputs later).start := by
  obtain ⟨between, whole⟩ := order
  have rest : Floating .ram1 between := fun other member =>
    ram1_floating_before later.name other (whole ▸ List.mem_append_right _ member)
  have free : bytesBefore inputs later.name =
      cursor (contents inputs) .ram1 (offsets inputs part).stop between := by
    unfold bytesBefore
    rw [← whole, cursor_append, cursor_append]
    exact congrArg (cursor (contents inputs) .ram1 · between) (if_pos here)
  have start : bytesBefore inputs later.name ≤ (offsets inputs later).start :=
    OutputSection.le_start floating
  rw [free] at start
  exact Nat.le_trans (le_cursor rest) start

theorem heap_order : ∀ part ∈ script, part.region = .ram1 → part.name ≠ .heap →
    before part.name script ++ [part] <+: before .heap script ∨
      before .heap script ++ [ram1Section .heap] <+: before part.name script := by
  decide

/-- The heap shares no byte with another section of the program. -/
theorem heap_misses (linked : link inputs = some map) {heap : Extent}
    (placed : (SectionName.heap, heap) ∈ map) {name : SectionName} {extent : Extent}
    (other : (name, extent) ∈ map) (different : name ≠ .heap) :
    extent.stop ≤ heap.start ∨ heap.stop ≤ extent.start := by
  have heapExtent := (mem_link_iff linked (by decide : ram1Section .heap ∈ script) rfl).mp placed
  obtain ⟨mapped, fits⟩ := place_eq_some script_distinct linked
  have entry := other
  rw [mapped] at entry
  obtain ⟨part, member, same⟩ := List.mem_map.mp entry
  obtain ⟨rfl, sameExtent⟩ := Prod.mk.inj same
  cases here : part.region with
  | ram1 =>
    rw [heapExtent, (mem_link_iff linked member here).mp other]
    rcases heap_order part member here different with early | late
    · exact .inl (Nat.add_le_add_left (offsets_ordered early here rfl) _)
    · exact .inr (Nat.add_le_add_left
        (offsets_ordered late rfl (ram1_floating part member here)) _)
  | ram0 =>
    obtain ⟨_, _, inside⟩ := fits part member
    rw [here] at inside
    have edge : (MemoryRegion.bounds .ram0).origin + (MemoryRegion.bounds .ram0).length =
        (MemoryRegion.bounds .ram1).origin := rfl
    have low : (MemoryRegion.bounds .ram1).origin ≤ heap.start := by
      rw [heapExtent]
      exact Nat.le_add_right _ _
    rw [← sameExtent]
    exact .inl (Nat.le_trans inside (edge ▸ low))

theorem heap_bounds (linked : link inputs = some map) {heap : Extent}
    (placed : (SectionName.heap, heap) ∈ map) :
    heap.stop = heap.start + heapSize ∧ heap.stop < 2 ^ 32 := by
  have heapExtent := (mem_link_iff linked (by decide : ram1Section .heap ∈ script) rfl).mp placed
  have size := offsets_stop inputs .heap
  obtain ⟨_, _, inside⟩ :=
    (place_eq_some script_distinct linked).2 (ram1Section .heap) (by decide)
  have stop := congrArg Extent.stop
    (extent_ram1 linked (by decide : ram1Section .heap ∈ script) rfl)
  have top : (MemoryRegion.bounds .ram1).origin + (MemoryRegion.bounds .ram1).length < 2 ^ 32 := by
    decide
  change _ = _ + heapSize at size
  rw [← heapExtent] at stop
  refine ⟨?_, Nat.lt_of_le_of_lt (Nat.le_trans (Nat.le_of_eq stop.symm) inside) top⟩
  rw [heapExtent, Extent.move, size, Nat.add_assoc]

end Linked

end LinkLd

open LinkLd

def heapOf (heap : Extent) (calls : List HeapCall) : HeapState :=
  heapRun (BitVec.ofNat 32 heap.start) (BitVec.ofNat 32 heap.stop) calls

/-- In every program that links and after any run of calls, the blocks handed out share
no byte with each other nor with any other section, and `_sbrk` moves by the signed
increment exactly when that stays inside and below the end. -/
theorem heap_blocks_are_separate {inputs : SectionName → Contents}
    {map : List (SectionName × Extent)} (linked : link inputs = some map) {heap : Extent}
    (placed : (SectionName.heap, heap) ∈ map) (calls : List HeapCall) :
    (heap.start ≤ (heapOf heap calls).brk.toNat ∧ (heapOf heap calls).brk.toNat ≤ heap.stop) ∧
      ((heapOf heap calls).blocks.Pairwise fun newer older =>
        ∀ byte, newer.Contains byte → ¬older.Contains byte) ∧
      (∀ block ∈ (heapOf heap calls).blocks, ∀ byte, block.Contains byte → heap.Contains byte ∧
        ∀ name extent, (name, extent) ∈ map → name ≠ .heap → ¬extent.Contains byte) ∧
      ∀ incr : Pointer,
        sbrkCall (BitVec.ofNat 32 heap.start) (BitVec.ofNat 32 heap.stop) (heapOf heap calls).brk
            incr =
          if (heap.start : Int) ≤ (heapOf heap calls).brk.toNat + incr.toInt ∧
              (heapOf heap calls).brk.toNat + incr.toInt < (heap.stop : Int) then
            ((heapOf heap calls).brk, BitVec.ofInt 32 ((heapOf heap calls).brk.toNat + incr.toInt))
          else (-1, (heapOf heap calls).brk) := by
  obtain ⟨size, top⟩ := heap_bounds linked placed
  have half : heapSize = 0x800 := rfl
  have start : (BitVec.ofNat 32 heap.start).toNat = heap.start :=
    (BitVec.toNat_ofNat _ _).trans (Nat.mod_eq_of_lt (by omega))
  have stop : (BitVec.ofNat 32 heap.stop).toNat = heap.stop :=
    (BitVec.toNat_ofNat _ _).trans (Nat.mod_eq_of_lt top)
  have ordered : (heapOf heap calls).Ordered (BitVec.ofNat 32 heap.start)
      (BitVec.ofNat 32 heap.stop) :=
    heapRun_ordered (by rw [BitVec.le_def, start, stop]; omega) calls
  have low : heap.start ≤ (heapOf heap calls).brk.toNat := start ▸ ordered.low
  have high : (heapOf heap calls).brk.toNat ≤ heap.stop := stop ▸ ordered.high
  refine ⟨⟨low, high⟩, ordered.behind.imp fun {newer older} behind byte inNewer inOlder => ?_,
    fun block member byte inside => ?_, fun incr => ?_⟩
  · exact absurd (Nat.lt_of_lt_of_le inOlder.2 (Nat.le_trans behind inNewer.1)) (Nat.lt_irrefl _)
  · have above := ordered.above block member
    have below := ordered.below block member
    rw [start] at above
    have inHeap : heap.Contains byte :=
      ⟨Nat.le_trans above inside.1, Nat.lt_of_lt_of_le inside.2 (Nat.le_trans below high)⟩
    refine ⟨inHeap, fun name extent other different within => ?_⟩
    rcases heap_misses linked placed other different with before_ | behind
    · exact absurd (Nat.lt_of_lt_of_le within.2 (Nat.le_trans before_ inHeap.1)) (Nat.lt_irrefl _)
    · exact absurd (Nat.lt_of_lt_of_le inHeap.2 (Nat.le_trans behind within.1)) (Nat.lt_irrefl _)
  · have filled : BitVec.ofNat 32 heap.start ≠ BitVec.ofNat 32 heap.stop := fun same => by
      rw [← start, ← stop, same] at size
      omega
    rw [sbrkCall_eq ordered.low ordered.high filled (by rw [start, stop]; omega), start, stop]

def givesBack : List HeapCall := [.sbrk 0x100, .sbrk (-0x40), .sbrk 0x20]

/-- 192 bytes of the first block stay, and the next one starts behind them. -/
theorem compiledProgram_blocks_are_separate :
    (heapOf ⟨0xf00280e0, 0xf00288e0⟩ givesBack).blocks =
        [⟨0xf00281a0, 0xf00281c0⟩, ⟨0xf00280e0, 0xf00281a0⟩] ∧
      ∃ map, link compiledProgram = some map ∧
        ∀ block ∈ (heapOf ⟨0xf00280e0, 0xf00288e0⟩ givesBack).blocks, ∀ byte, block.Contains byte →
          ∀ name extent, (name, extent) ∈ map → name ≠ .heap → ¬extent.Contains byte := by
  have links : (link compiledProgram).isSome = true := by decide +kernel
  obtain ⟨map, linked⟩ := Option.isSome_iff_exists.mp links
  have placed : (SectionName.heap, Extent.mk 0xf00280e0 0xf00288e0) ∈ map :=
    (mem_link_iff linked (by decide : ram1Section .heap ∈ script) rfl).mpr (by decide +kernel)
  refine ⟨by decide, map, linked, fun block member byte inside => ?_⟩
  exact ((heap_blocks_are_separate linked placed givesBack).2.2.1 block member byte inside).2

end Eros
