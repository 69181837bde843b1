import Eros.LinkScript
import Eros.SafeActivate

/-!
# The save area and the linked program

At the reset value of the safe-copy address register a call of `Safe_Activate`
stores to the 37 words from offset `0x1000` of `ram1` on, wherever its frame is.
The script fills `ram1` from its origin without reserving these words: with the
default sizes heap and stack end below them only when nothing is placed before
the heap.
-/

set_option autoImplicit false

namespace Eros

open Rv32 LinkLd LinkerScript
open ByteMemory (InRegion)

/-! ## The words of a call -/

/-- The cells a call stores, in its order. -/
def activateCells : List Cell := switchCells ++ [.reg .t5, .reg .t6] ++ [.resume]

/-- The words a call stores up to its `wfi`: its frame, two registers and the cells. -/
def activateAddrs (sp area : Word) : List Word :=
  [sp - 16 + 12, sp - 16 + 8, ctrlAddr CtrlOffset.safeConfiguration] ++
    switchCells.map (Cell.addr area) ++ [sp - 16 + 12] ++
    [Cell.reg .t5, .reg .t6].map (Cell.addr area) ++ [ctrlAddr CtrlOffset.initialSyncMaster] ++
    [Cell.resume].map (Cell.addr area)

theorem activateStores_addrs (call : Context) (area resume six : Word) :
    (activateStores call area resume six).map Prod.fst = activateAddrs (call.regs.read .sp) area := by
  simp only [activateStores, activateAddrs, scratchWrites, scratchStores, cellWrites,
    List.map_append, List.map_cons, List.map_nil, List.map_map, List.append_assoc]
  rfl

theorem resetArea_memory : AreaInMemory SafeWrapperCtrl.reset.safeCopyAddress := by
  intro byte inside
  change (byte - 0xf0029000).toNat < 148 at inside
  unfold InMemory InPrivate InSafeCsr
  constructor
  · bv_omega
  · bv_omega

/-- With the control registers at reset a call stores to the same words of the area,
whatever it saves there and wherever its frame is. -/
theorem safeActivate_saves {code : Code} {base : Word} {call : Context} {view : HartView}
    (placed : CodeAt code base safeActivate) (reset : view.ctrl = .reset)
    (frames : ∀ byte, InRegion (call.regs.read .sp - 32) 32 byte → InMemory byte) :
    ∃ stores asleep,
      stores.map Prod.fst =
          activateAddrs (call.regs.read .sp) SafeWrapperCtrl.reset.safeCopyAddress ∧
        Executes hartBus code ⟨call.at base, view⟩ stores asleep := by
  have fresh : view.ctrl.safeConfiguration = 0 := by
    rw [reset]
    rfl
  have points : view.ctrl.safeCopyAddress = SafeWrapperCtrl.reset.safeCopyAddress := by
    rw [reset]
  obtain ⟨asleep, _, _, run⟩ :=
    safeActivate_reaches placed ⟨resetArea_memory, frames⟩ fresh points rfl
  exact ⟨_, _, activateStores_addrs _ _ _ _, run⟩

theorem activateCells_cover (area byte : Word) :
    (∃ cell ∈ activateCells, InRegion (cell.addr area) 4 byte) ↔ InRegion area 148 byte := by
  constructor
  · rintro ⟨cell, member, inside⟩
    have fixed : ∀ cell ∈ activateCells, cell.position < 37 := by decide
    have position := fixed cell member
    exact ByteMemory.region_of_word rfl (by omega) (by decide) inside
  · intro inside
    unfold InRegion at inside
    have covered : ∀ index < 37, ∃ cell ∈ activateCells, cell.position = index := by decide
    obtain ⟨cell, member, position⟩ := covered ((byte - area).toNat / 4) (by omega)
    refine ⟨cell, member, ?_⟩
    unfold InRegion Cell.addr Cell.offset
    rw [position]
    bv_omega

/-! ## The area in `ram1` -/

def programSections : List SectionName := [.rodata, .data, .bss, .heap, .stack]

/-- With the register at its reset value, no byte of a word that a call saves is in
`.rodata`, `.data`, `.bss`, the heap or the stack. -/
def SavesOutside (map : List (SectionName × Extent)) : Prop :=
  ∀ cell ∈ activateCells, ∀ entry ∈ map, entry.1 ∈ programSections → ∀ byte : Word,
    InRegion (cell.addr SafeWrapperCtrl.reset.safeCopyAddress) 4 byte →
      ¬entry.2.Contains byte.toNat

theorem savesOutside_iff (map : List (SectionName × Extent)) :
    SavesOutside map ↔ ∀ entry ∈ map, entry.1 ∈ programSections →
      entry.2.Misses (0xf0028000 + 0x1000) (0xf0028000 + 0x1094) := by
  have window : ∀ byte : Word, InRegion SafeWrapperCtrl.reset.safeCopyAddress 148 byte ↔
      0xf0028000 + 0x1000 ≤ byte.toNat ∧ byte.toNat < 0xf0028000 + 0x1094 := by
    intro byte
    change (byte - 0xf0029000).toNat < 148 ↔ _
    bv_omega
  constructor
  · intro outside entry inMap listed
    rw [Extent.misses_iff (by decide)]
    intro byte low high
    have small : (BitVec.ofNat 32 byte).toNat = byte := by
      rw [BitVec.toNat_ofNat]
      omega
    have inside := (window (BitVec.ofNat 32 byte)).mpr (by rw [small]; exact ⟨low, high⟩)
    obtain ⟨cell, member, word⟩ := (activateCells_cover _ _).mpr inside
    have apart := outside cell member entry inMap listed _ word
    rwa [small] at apart
  · intro misses cell member entry inMap listed byte word
    obtain ⟨low, high⟩ := (window byte).mp ((activateCells_cover _ _).mp ⟨cell, member, word⟩)
    exact (Extent.misses_iff (by decide)).mp (misses entry inMap listed) byte.toNat low high

theorem cell_mem_activateAddrs (sp area : Word) {cell : Cell} (member : cell ∈ activateCells) :
    cell.addr area ∈ activateAddrs sp area := by
  unfold activateAddrs
  rcases List.mem_append.mp member with front | last
  · apply List.mem_append_left
    apply List.mem_append_left
    rcases List.mem_append.mp front with first | scratch
    · exact List.mem_append_left _ (List.mem_append_left _
        (List.mem_append_right _ (List.mem_map_of_mem first)))
    · exact List.mem_append_right _ (List.mem_map_of_mem scratch)
  · exact List.mem_append_right _ (List.mem_map_of_mem last)

/-- Where the area is not outside, every call at reset stores into one of the sections. -/
theorem safeActivate_stores_inside {map : List (SectionName × Extent)}
    (inside : ¬SavesOutside map) {code : Code} {base : Word} {call : Context} {view : HartView}
    (placed : CodeAt code base safeActivate) (reset : view.ctrl = .reset)
    (frames : ∀ byte, InRegion (call.regs.read .sp - 32) 32 byte → InMemory byte) :
    ∃ stores asleep, Executes hartBus code ⟨call.at base, view⟩ stores asleep ∧
      ∃ cell ∈ activateCells, ∃ value,
        (cell.addr SafeWrapperCtrl.reset.safeCopyAddress, value) ∈ stores ∧
        ∃ entry ∈ map, entry.1 ∈ programSections ∧ ∃ byte : Word,
          InRegion (cell.addr SafeWrapperCtrl.reset.safeCopyAddress) 4 byte ∧
            entry.2.Contains byte.toNat := by
  obtain ⟨stores, asleep, addrs, run⟩ := safeActivate_saves placed reset frames
  unfold SavesOutside at inside
  push Not at inside
  obtain ⟨cell, member, entry, inMap, listed, byte, word, held⟩ := inside
  have stored : cell.addr SafeWrapperCtrl.reset.safeCopyAddress ∈ stores.map Prod.fst := by
    rw [addrs]
    exact cell_mem_activateAddrs _ _ member
  obtain ⟨⟨addr, value⟩, inStores, rfl⟩ := List.mem_map.mp stored
  exact ⟨stores, asleep, run, cell, member, value, inStores, entry, inMap, listed, byte, word, held⟩

/-- The output sections of these names. -/
def programParts : List (OutputSection MemoryRegion SectionName) :=
  [ram1Section .rodata, ram1Section .data, bssSection, ram1Section .heap, ram1Section .stack]

section Linked
variable {inputs : SectionName → Contents} {map : List (SectionName × Extent)}

theorem savesOutside_linked_iff (linked : link inputs = some map) :
    SavesOutside map ↔ ∀ part ∈ programParts, (offsets inputs part).Misses 0x1000 0x1094 := by
  have placed : ∀ part ∈ programParts,
      part ∈ script ∧ part.region = .ram1 ∧ part.name ∈ programSections := by decide
  have named : ∀ name ∈ programSections, ∃ part ∈ programParts, part.name = name := by decide
  rw [savesOutside_iff]
  constructor
  · intro misses part member
    obtain ⟨inScript, here, listed⟩ := placed part member
    have entry := (mem_link_iff linked inScript here).mpr rfl
    exact (Extent.misses_move _ _ _ _).mp (misses _ entry listed)
  · rintro misses ⟨name, extent⟩ entry listed
    obtain ⟨part, member, rfl⟩ := named name listed
    obtain ⟨inScript, here, _⟩ := placed part member
    rw [(mem_link_iff linked inScript here).mp entry]
    exact (Extent.misses_move _ _ _ _).mpr (misses part member)

/-! ## Which programs spare the area -/

/-- The bytes before a section with the padding for its own alignment. -/
def paddedBefore (inputs : SectionName → Contents) (name : SectionName) : Nat :=
  if (inputs name).size = 0 then bytesBefore inputs name
  else alignUp (bytesBefore inputs name) (2 ^ (inputs name).alignPower)

/-- `ram1` holds nothing before the heap, or other sections and padding fill the 148
bytes from offset `0x1000` on: they lie behind `.rodata`, before `.bss`, and not
across `.data`. -/
def SparesArea (inputs : SectionName → Contents) : Prop :=
  (∀ name ∈ dataSections, (inputs name).size = 0) ∨
    ((inputs .rodata).size ≤ 0x1000 ∧ 0x1094 ≤ paddedBefore inputs .bss ∧
      ((inputs .data).size = 0 ∨ paddedBefore inputs .data + (inputs .data).size ≤ 0x1000 ∨
        0x1094 ≤ paddedBefore inputs .data))

instance (inputs : SectionName → Contents) : Decidable (SparesArea inputs) := by
  unfold SparesArea
  infer_instance

theorem offsets_data (inputs : SectionName → Contents) :
    (offsets inputs (ram1Section .data)).start = paddedBefore inputs .data := rfl

theorem offsets_bss (inputs : SectionName → Contents) :
    (offsets inputs bssSection).start = paddedBefore inputs .bss := rfl

theorem heap_stack_miss_iff (inputs : SectionName → Contents) :
    ((offsets inputs (ram1Section .heap)).Misses 0x1000 0x1094 ∧
        (offsets inputs (ram1Section .stack)).Misses 0x1000 0x1094) ↔
      bytesBefore inputs .heap = 0 ∨ 0x1094 ≤ bytesBefore inputs .heap := by
  have heapStop := offsets_stop inputs .heap
  have stackStop := offsets_stop inputs .stack
  change _ = _ + 0x800 at heapStop stackStop
  have low := le_alignUp (bytesBefore inputs .heap + heapSize) (by decide : 0 < 16)
  have high := alignUp_lt (bytesBefore inputs .heap + heapSize) (by decide : 0 < 16)
  -- with nothing before it the heap ends on a multiple of 16, where the stack starts
  have atOrigin : bytesBefore inputs .heap = 0 →
      alignUp (bytesBefore inputs .heap + heapSize) 16 = 0x800 := by
    intro empty
    rw [empty]
    decide
  unfold Extent.Misses
  rw [heapStop, stackStop, offsets_heap, offsets_stack]
  change _ ≤ _ at low
  unfold heapSize at *
  omega

/-- The save area is apart from the program's data, heap and stack exactly for these
sizes. -/
theorem save_area_spared_iff (linked : link inputs = some map) :
    SavesOutside map ↔ SparesArea inputs := by
  have rodataStop := offsets_stop inputs .rodata
  have dataStop := offsets_stop inputs .data
  change _ = _ + (inputs .rodata).size at rodataStop
  change _ = _ + (inputs .data).size at dataStop
  have bssOrder : (offsets inputs bssSection).start ≤ (offsets inputs bssSection).stop :=
    OutputSection.start_le_stop
  have heap := bytesBefore_heap inputs
  rw [savesOutside_linked_iff linked]
  unfold programParts SparesArea
  simp only [List.forall_mem_cons, List.not_mem_nil, false_implies, implies_true, and_true]
  rw [heap_stack_miss_iff, ← bytesBefore_heap_zero_iff]
  unfold Extent.Misses
  rw [offsets_bss] at bssOrder ⊢
  rw [rodataStop, dataStop, offsets_rodata, offsets_data]
  constructor
  · rintro ⟨rodata, data, bss, empty | behind⟩
    · exact .inl empty
    · exact .inr ⟨by omega, by omega, by omega⟩
  · rintro (empty | ⟨rodata, bss, data⟩)
    · have none := (bytesBefore_heap_zero_iff inputs).mp empty
      have noRodata := none .rodata (by decide)
      have noData := none .data (by decide)
      exact ⟨by omega, by omega, by omega, .inl empty⟩
    · exact ⟨by omega, by omega, by omega, .inr (by omega)⟩

end Linked

/-- Code without data. -/
def codeProgram : SectionName → Contents
  | .vectors => ⟨0x84, 2⟩
  | .init => ⟨0x100, 2⟩
  | .text => ⟨0x1000, 2⟩
  | _ => ⟨0, 0⟩

/-- The same code with a table of `0x1200` bytes in `.sdata` as its only data. -/
def tableProgram : SectionName → Contents
  | .sdata => ⟨0x1200, 2⟩
  | name => codeProgram name

theorem codeProgram_spared :
    (∃ map, link codeProgram = some map ∧ SavesOutside map) ∧
      ∃ map, link tableProgram = some map ∧ SavesOutside map := by
  have code : (link codeProgram).isSome = true := by decide +kernel
  have table : (link tableProgram).isSome = true := by decide +kernel
  obtain ⟨codeMap, codeLinked⟩ := Option.isSome_iff_exists.mp code
  obtain ⟨tableMap, tableLinked⟩ := Option.isSome_iff_exists.mp table
  exact ⟨⟨codeMap, codeLinked, (save_area_spared_iff codeLinked).mpr (by decide +kernel)⟩,
    tableMap, tableLinked, (save_area_spared_iff tableLinked).mpr (by decide +kernel)⟩

/-- The same code with read-only data, data and variables. -/
def compiledProgram : SectionName → Contents
  | .rodata => ⟨0x80, 2⟩
  | .data => ⟨0x20, 2⟩
  | .bss => ⟨0x40, 2⟩
  | name => codeProgram name

/-- Its stack stands across the save area. -/
theorem compiledProgram_stack_overwritten :
    ∃ map, link compiledProgram = some map ∧
      (SectionName.stack, Extent.mk 0xf00288e0 0xf00290e0) ∈ map ∧ ¬SavesOutside map := by
  have links : (link compiledProgram).isSome = true := by decide +kernel
  obtain ⟨map, linked⟩ := Option.isSome_iff_exists.mp links
  have stack : (SectionName.stack, Extent.mk 0xf00288e0 0xf00290e0) ∈ map :=
    (mem_link_iff linked (by decide : ram1Section .stack ∈ script) rfl).mpr (by decide +kernel)
  refine ⟨map, linked, stack, fun outside => ?_⟩
  have misses := (savesOutside_iff map).mp outside _ stack (by decide)
  exact absurd misses (by decide)

end Eros
