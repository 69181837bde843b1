import Eros.Lib.LinkerScript
import Mathlib.Data.List.Nodup

/-!
# `link.ld`

The output sections the script puts into `ram0` and `ram1`, in its order.  The
sizes and alignments of the input sections are the linker's input; the heap, the
stack and the power manager have theirs from the script.  Assignments to `.`
between sections do not move the next free address of a region.
-/

set_option autoImplicit false

namespace Eros

namespace LinkLd

open LinkerScript

inductive MemoryRegion
  | ram0 | ram1
  deriving DecidableEq

def MemoryRegion.bounds : MemoryRegion → Region
  | .ram0 => ⟨0xf0000000 + 0x00020000, 0x8000⟩
  | .ram1 => ⟨0xf0000000 + 0x00028000, 0x8000⟩

/-- A section that stands twice, under `ONLY_IF_RO` and `ONLY_IF_RW`, has two names. -/
inductive SectionName
  | vectors | init | text | powerManager | fini
  | rodata | rodata1
  | ehFrameHdr | ehFrameRo | gccExceptTableRo | gnuExtabRo
  | ehFrameRw | gnuExtabRw | gccExceptTableRw | exceptionRanges
  | tdata | tbss | preinitArray | initArray | finiArray
  | ctors | dtors
  | data | data1 | sdata | sbss | bss
  | heap | stack
  deriving DecidableEq

def bootAddress : Nat := 0xf0000000 + 0x00020180

/-- `__stack_size`, when no object file defines it. -/
def stackSize : Nat := 0x800

/-- `__heap_size`, when no object file defines it. -/
def heapSize : Nat := 0x800

def script : List (OutputSection MemoryRegion SectionName) :=
  [{ name := .vectors, region := .ram0, addr := some (MemoryRegion.bounds .ram0).origin },
    { name := .init, region := .ram0, addr := some bootAddress },
    { name := .text, region := .ram0 },
    { name := .powerManager, region := .ram0 },
    { name := .fini, region := .ram0 },
    { name := .rodata, region := .ram1 },
    { name := .rodata1, region := .ram1 },
    { name := .ehFrameHdr, region := .ram0 },
    { name := .ehFrameRo, region := .ram0 },
    { name := .gccExceptTableRo, region := .ram0 },
    { name := .gnuExtabRo, region := .ram0 },
    { name := .ehFrameRw, region := .ram0 },
    { name := .gnuExtabRw, region := .ram0 },
    { name := .gccExceptTableRw, region := .ram0 },
    { name := .exceptionRanges, region := .ram0 },
    { name := .tdata, region := .ram1 },
    { name := .tbss, region := .ram1, threadLocal := true },
    { name := .preinitArray, region := .ram1 },
    { name := .initArray, region := .ram1 },
    { name := .finiArray, region := .ram1 },
    { name := .ctors, region := .ram0 },
    { name := .dtors, region := .ram0 },
    { name := .data, region := .ram1 },
    { name := .data1, region := .ram1 },
    { name := .sdata, region := .ram1 },
    { name := .sbss, region := .ram1 },
    { name := .bss, region := .ram1, endAlignPower := 2 },
    { name := .heap, region := .ram1 },
    { name := .stack, region := .ram1 }]

/-- What each section is made of: `. += 256` behind `ALIGN(4096)`, `. = __heap_size`,
`. = __stack_size` behind `ALIGN(16)`, and input sections everywhere else. -/
def contents (inputs : SectionName → Contents) : SectionName → Contents
  | .powerManager => ⟨256, 12⟩
  | .heap => ⟨heapSize, 0⟩
  | .stack => ⟨stackSize, 4⟩
  | name => inputs name

def link (inputs : SectionName → Contents) : Option (List (SectionName × Extent)) :=
  place MemoryRegion.bounds (contents inputs) (fun region => region.bounds.origin) script

/-! ## Data in `ram1` -/

theorem ram1_natural : (MemoryRegion.bounds .ram1).Natural :=
  ⟨15, by decide, by decide⟩

theorem script_distinct : (script.map OutputSection.name).Nodup := by decide

theorem ram1_floating : Floating .ram1 script := by
  unfold Floating
  decide

theorem ram1_floating_before (name : SectionName) : Floating .ram1 (before name script) :=
  fun part member => ram1_floating part (List.takeWhile_subset _ member)

/-- The bytes of `ram1` before the section, padding included. -/
def bytesBefore (inputs : SectionName → Contents) (name : SectionName) : Nat :=
  cursor (contents inputs) .ram1 0 (before name script)

/-- Where a section of `ram1` stands, counted from the origin. -/
def offsets (inputs : SectionName → Contents) (part : OutputSection MemoryRegion SectionName) :
    Extent :=
  part.extent (contents inputs part.name) (bytesBefore inputs part.name)

/-- A section of `ram1` without assignments in its body. -/
def ram1Section (name : SectionName) : OutputSection MemoryRegion SectionName :=
  { name := name, region := .ram1 }

def bssSection : OutputSection MemoryRegion SectionName :=
  { name := .bss, region := .ram1, endAlignPower := 2 }

section Linked
variable {inputs : SectionName → Contents} {map : List (SectionName × Extent)}
  (linked : link inputs = some map)
include linked

theorem stack_room :
    (ram1Section .stack).start (contents inputs .stack)
        (cursor (contents inputs) .ram1 (MemoryRegion.bounds .ram1).origin (before .stack script)) +
      stackSize ≤ (MemoryRegion.bounds .ram1).origin + (MemoryRegion.bounds .ram1).length := by
  obtain ⟨_, _, inside⟩ := (place_eq_some script_distinct linked).2 (ram1Section .stack) (by decide)
  exact Nat.le_trans (OutputSection.size_le_stop rfl) inside

theorem cursor_up_to_stack {first : List (OutputSection MemoryRegion SectionName)}
    (early : first <+: before .stack script) :
    cursor (contents inputs) .ram1 (MemoryRegion.bounds .ram1).origin first =
        (MemoryRegion.bounds .ram1).origin + cursor (contents inputs) .ram1 0 first ∧
      cursor (contents inputs) .ram1 (MemoryRegion.bounds .ram1).origin first <
        (MemoryRegion.bounds .ram1).origin + (MemoryRegion.bounds .ram1).length := by
  obtain ⟨rest, whole⟩ := early
  have floating : Floating .ram1 (first ++ rest) := whole ▸ ram1_floating_before .stack
  have room := Nat.le_trans (Nat.add_le_add_right (OutputSection.le_start rfl) _) (stack_room linked)
  rw [← whole, cursor_append] at room
  have later : Floating .ram1 rest := fun part member => floating part (List.mem_append_right _ member)
  have below := @le_cursor _ _ _ (contents inputs) _
    (cursor (contents inputs) .ram1 (MemoryRegion.bounds .ram1).origin first) _ later
  have inside : cursor (contents inputs) .ram1 (MemoryRegion.bounds .ram1).origin first <
      (MemoryRegion.bounds .ram1).origin + (MemoryRegion.bounds .ram1).length := by
    have filled : 0 < stackSize := by decide
    omega
  have moved := @cursor_add _ _ _ (contents inputs) _ 0 _ ram1_natural first
    (fun part member => floating part (List.mem_append_left _ member)) inside
  exact ⟨moved, inside⟩

theorem stack_extent :
    (ram1Section .stack).extent (contents inputs .stack)
        (freeFor (contents inputs) (fun region => region.bounds.origin) script (ram1Section .stack)) =
      (offsets inputs (ram1Section .stack)).move (MemoryRegion.bounds .ram1).origin := by
  have stop : ∀ free, (ram1Section .stack).stop (contents inputs .stack) free =
      (ram1Section .stack).start (contents inputs .stack) free + stackSize :=
    fun _ => OutputSection.stop_of_plain rfl rfl
  have free := (cursor_up_to_stack linked (List.prefix_refl _)).1
  have room := stack_room linked
  rw [free] at room
  have inside := Nat.lt_of_lt_of_le (Nat.lt_add_of_pos_right (by decide : 0 < stackSize)) room
  have start := OutputSection.start_add ram1_natural rfl inside
  have stopMoved : (ram1Section .stack).stop (contents inputs .stack)
      ((MemoryRegion.bounds .ram1).origin + bytesBefore inputs .stack) =
      (MemoryRegion.bounds .ram1).origin +
        (ram1Section .stack).stop (contents inputs .stack) (bytesBefore inputs .stack) := by
    rw [stop, stop, ← Nat.add_assoc]
    exact congrArg (· + stackSize) start
  change (ram1Section .stack).extent _
    (cursor _ .ram1 (MemoryRegion.bounds .ram1).origin (before .stack script)) = _
  rw [free]
  exact congrArg₂ Extent.mk start stopMoved

/-- The sections of `ram1` stand as they would from address 0, at its origin. -/
theorem extent_ram1 {part : OutputSection MemoryRegion SectionName} (member : part ∈ script)
    (here : part.region = .ram1) :
    part.extent (contents inputs part.name)
        (freeFor (contents inputs) (fun region => region.bounds.origin) script part) =
      (offsets inputs part).move (MemoryRegion.bounds .ram1).origin := by
  have order : ∀ part ∈ script, part.region = .ram1 →
      part = ram1Section .stack ∨ before part.name script ++ [part] <+: before .stack script := by
    decide
  rcases order part member here with rfl | early
  · exact stack_extent linked
  · have free := (cursor_up_to_stack linked ((List.prefix_append _ _).trans early)).1
    obtain ⟨stop, inside⟩ := cursor_up_to_stack linked early
    have last : ∀ free, cursor (contents inputs) .ram1 free (before part.name script ++ [part]) =
        part.stop (contents inputs part.name)
          (cursor (contents inputs) .ram1 free (before part.name script)) := by
      intro free
      rw [cursor_append]
      exact if_pos here
    rw [last, free] at stop inside
    rw [last] at stop
    have start := OutputSection.start_add ram1_natural (ram1_floating part member here)
      (Nat.lt_of_le_of_lt OutputSection.start_le_stop inside)
    unfold freeFor
    rw [here, free]
    exact congrArg₂ Extent.mk start stop

theorem mem_link_iff {part : OutputSection MemoryRegion SectionName} (member : part ∈ script)
    (here : part.region = .ram1) {extent : Extent} :
    (part.name, extent) ∈ map ↔
      extent = (offsets inputs part).move (MemoryRegion.bounds .ram1).origin := by
  rw [← extent_ram1 linked member here, (place_eq_some script_distinct linked).1, List.mem_map]
  constructor
  · rintro ⟨other, inScript, same⟩
    obtain ⟨sameName, rfl⟩ := Prod.mk.inj same
    rw [List.inj_on_of_nodup_map script_distinct inScript member sameName]
  · rintro rfl
    exact ⟨part, member, rfl⟩

end Linked

/-! ## Offsets of single sections -/

section Offsets
variable (inputs : SectionName → Contents)

theorem offsets_stop (name : SectionName) :
    (offsets inputs (ram1Section name)).stop =
      (offsets inputs (ram1Section name)).start + (contents inputs name).size :=
  OutputSection.stop_of_plain rfl rfl

theorem offsets_start (name : SectionName) (filled : (contents inputs name).size ≠ 0) :
    (offsets inputs (ram1Section name)).start =
      alignUp (bytesBefore inputs name) (2 ^ (contents inputs name).alignPower) :=
  @OutputSection.start_of_floating _ _ (ram1Section name) _ _ rfl filled

theorem offsets_rodata : (offsets inputs (ram1Section .rodata)).start = 0 :=
  OutputSection.start_zero rfl

theorem bytesBefore_heap : bytesBefore inputs .heap = (offsets inputs bssSection).stop := by
  have split : before .heap script = before .bss script ++ [bssSection] := by decide
  unfold bytesBefore
  rw [split, cursor_append]
  rfl

theorem offsets_heap :
    (offsets inputs (ram1Section .heap)).start = bytesBefore inputs .heap :=
  (offsets_start inputs .heap (by decide : heapSize ≠ 0)).trans (alignUp_one _)

theorem offsets_stack :
    (offsets inputs (ram1Section .stack)).start = alignUp (bytesBefore inputs .heap + heapSize) 16 := by
  have split : before .stack script = before .heap script ++ [ram1Section .heap] := by decide
  have free : bytesBefore inputs .stack = bytesBefore inputs .heap + heapSize := by
    have heap := offsets_stop inputs .heap
    rw [offsets_heap] at heap
    unfold bytesBefore at heap ⊢
    rw [split, cursor_append]
    exact heap
  rw [← free]
  exact offsets_start inputs .stack (by decide : stackSize ≠ 0)

/-- The sections of `ram1` before the heap that take space. -/
def dataSections : List SectionName :=
  [.rodata, .rodata1, .tdata, .preinitArray, .initArray, .finiArray, .data, .data1, .sdata, .sbss,
    .bss]

theorem bytesBefore_heap_zero_iff :
    bytesBefore inputs .heap = 0 ↔ ∀ name ∈ dataSections, (inputs name).size = 0 := by
  unfold bytesBefore
  rw [cursor_zero_iff (ram1_floating_before .heap)]
  simp [before, script, dataSections, contents]

end Offsets

end LinkLd

end Eros
