import Mathlib.Algebra.Group.Nat.Defs
import Mathlib.Data.List.Basic
import Mathlib.Logic.Function.Basic
import Mathlib.Tactic.Common

/-!
# Output sections in memory regions

A linker script as the list of its output sections in the order in which they
are placed.  A section without an address stands at the next free address of its
region, aligned to what its contents need; a section without contents is
dropped.  Linking fails when a section leaves its region or overlaps the one
before it.  In a region as long as a power of two that divides its origin,
placement does not depend on the origin.
-/

set_option autoImplicit false

namespace LinkerScript

/-! ## Alignment -/

def alignUp (addr align : Nat) : Nat := align * ((addr + (align - 1)) / align)

theorem dvd_alignUp (addr align : Nat) : align ∣ alignUp addr align := Nat.dvd_mul_right _ _

theorem le_alignUp (addr : Nat) {align : Nat} (positive : 0 < align) : addr ≤ alignUp addr align := by
  have division := Nat.div_add_mod (addr + (align - 1)) align
  have remainder := Nat.mod_lt (addr + (align - 1)) positive
  unfold alignUp
  omega

theorem alignUp_lt (addr : Nat) {align : Nat} (positive : 0 < align) :
    alignUp addr align < addr + align := by
  have division := Nat.div_add_mod (addr + (align - 1)) align
  unfold alignUp
  omega

theorem alignUp_zero (align : Nat) : alignUp 0 align = 0 := by
  rcases Nat.eq_zero_or_pos align with rfl | positive
  · rfl
  · unfold alignUp
    rw [Nat.div_eq_of_lt (by omega), Nat.mul_zero]

@[simp] theorem alignUp_one (addr : Nat) : alignUp addr 1 = addr := by
  unfold alignUp
  omega

theorem alignUp_add {origin align : Nat} (positive : 0 < align) (divides : align ∣ origin)
    (addr : Nat) : alignUp (origin + addr) align = origin + alignUp addr align := by
  obtain ⟨factor, rfl⟩ := divides
  unfold alignUp
  rw [Nat.add_assoc, Nat.mul_add_div positive, Nat.mul_add]

/-! ## Scripts -/

structure Region where
  origin : Nat
  length : Nat

/-- As long as a power of two that divides the origin. -/
structure Region.Natural (region : Region) : Prop where
  power : ∃ power, region.length = 2 ^ power ∧ 2 ^ power ∣ region.origin

theorem Region.Natural.dvd_origin {region : Region} (natural : region.Natural) {power addr : Nat}
    (multiple : 2 ^ power ∣ addr) (behind : region.origin ≤ addr)
    (inside : addr < region.origin + region.length) : 2 ^ power ∣ region.origin := by
  obtain ⟨whole, length, divides⟩ := natural.power
  rcases Nat.le_total power whole with small | large
  · exact Nat.dvd_trans (Nat.pow_dvd_pow 2 small) divides
  · -- the origin is then the only multiple of the length in the region
    have offset : 2 ^ whole ∣ addr - region.origin :=
      Nat.dvd_sub (Nat.dvd_trans (Nat.pow_dvd_pow 2 large) multiple) divides
    have zero : addr - region.origin = 0 := Nat.eq_zero_of_dvd_of_lt offset (by omega)
    rw [show region.origin = addr by omega]
    exact multiple

/-- What the object files bring to an output section. -/
structure Contents where
  size : Nat
  alignPower : Nat

/-- `addr` is the address expression of the section, `endAlignPower` a final
`. = ALIGN(..)` of its body.  A `threadLocal` section takes no space. -/
structure OutputSection (ρ ν : Type) where
  name : ν
  region : ρ
  addr : Option Nat := none
  endAlignPower : Nat := 0
  threadLocal : Bool := false
  deriving DecidableEq

/-- The addresses from `start` up to `stop`. -/
structure Extent where
  start : Nat
  stop : Nat
  deriving DecidableEq

def Extent.move (origin : Nat) (extent : Extent) : Extent :=
  ⟨origin + extent.start, origin + extent.stop⟩

def Extent.Contains (extent : Extent) (byte : Nat) : Prop := extent.start ≤ byte ∧ byte < extent.stop

/-- No address from `start` up to `stop` is in the extent. -/
def Extent.Misses (extent : Extent) (start stop : Nat) : Prop :=
  extent.stop ≤ extent.start ∨ extent.stop ≤ start ∨ stop ≤ extent.start

instance (extent : Extent) (start stop : Nat) : Decidable (extent.Misses start stop) := by
  unfold Extent.Misses
  infer_instance

theorem Extent.misses_iff {extent : Extent} {start stop : Nat} (room : start < stop) :
    extent.Misses start stop ↔ ∀ byte, start ≤ byte → byte < stop → ¬extent.Contains byte := by
  unfold Misses Contains
  constructor
  · intro misses byte
    omega
  · intro none
    have first := none (max start extent.start)
    omega

theorem Extent.misses_move (extent : Extent) (origin start stop : Nat) :
    (extent.move origin).Misses (origin + start) (origin + stop) ↔ extent.Misses start stop := by
  unfold move Misses
  simp only [Nat.add_le_add_iff_left]

variable {ρ ν : Type}

namespace OutputSection
variable (part : OutputSection ρ ν) (contents : Contents) (free : Nat)

/-- Where the section starts when `free` is the next free address of its region. -/
def start : Nat :=
  if contents.size = 0 then free else part.addr.getD (alignUp free (2 ^ contents.alignPower))

def stop : Nat :=
  if contents.size = 0 then free
  else if part.threadLocal then part.start contents free
  else alignUp (part.start contents free + contents.size) (2 ^ part.endAlignPower)

def extent : Extent := ⟨part.start contents free, part.stop contents free⟩

/-- Inside the region and behind what it holds already. -/
def Fits (region : Region) : Prop :=
  region.origin ≤ part.start contents free ∧ free ≤ part.start contents free ∧
    part.stop contents free ≤ region.origin + region.length

instance (region : Region) : Decidable (part.Fits contents free region) := by
  unfold Fits
  infer_instance

variable {part contents free}

theorem start_of_empty (empty : contents.size = 0) : part.start contents free = free :=
  if_pos empty

theorem stop_of_empty (empty : contents.size = 0) : part.stop contents free = free :=
  if_pos empty

theorem start_of_floating (floating : part.addr = none) (filled : contents.size ≠ 0) :
    part.start contents free = alignUp free (2 ^ contents.alignPower) := by
  unfold start
  rw [if_neg filled, floating]
  rfl

theorem stop_of_filled (occupies : part.threadLocal = false) (filled : contents.size ≠ 0) :
    part.stop contents free =
      alignUp (part.start contents free + contents.size) (2 ^ part.endAlignPower) := by
  unfold stop
  rw [if_neg filled, occupies]
  rfl

theorem stop_of_plain (occupies : part.threadLocal = false) (plain : part.endAlignPower = 0) :
    part.stop contents free = part.start contents free + contents.size := by
  by_cases empty : contents.size = 0
  · rw [stop_of_empty empty, start_of_empty empty, empty, Nat.add_zero]
  · rw [stop_of_filled occupies empty, plain]
    exact alignUp_one _

theorem stop_of_threadLocal (isLocal : part.threadLocal = true) :
    part.stop contents free = part.start contents free := by
  by_cases empty : contents.size = 0
  · rw [stop_of_empty empty, start_of_empty empty]
  · unfold stop
    rw [if_neg empty, if_pos isLocal]

theorem le_start (floating : part.addr = none) : free ≤ part.start contents free := by
  by_cases empty : contents.size = 0
  · exact Nat.le_of_eq (start_of_empty empty).symm
  · rw [start_of_floating floating empty]
    exact le_alignUp free (Nat.two_pow_pos _)

theorem size_le_stop (occupies : part.threadLocal = false) :
    part.start contents free + contents.size ≤ part.stop contents free := by
  by_cases empty : contents.size = 0
  · rw [stop_of_empty empty, start_of_empty empty, empty]
    exact Nat.le_refl free
  · rw [stop_of_filled occupies empty]
    exact le_alignUp _ (Nat.two_pow_pos _)

theorem start_le_stop : part.start contents free ≤ part.stop contents free := by
  cases occupies : part.threadLocal
  · exact Nat.le_trans (Nat.le_add_right _ _) (size_le_stop occupies)
  · exact Nat.le_of_eq (stop_of_threadLocal occupies).symm

theorem le_stop (floating : part.addr = none) : free ≤ part.stop contents free :=
  Nat.le_trans (le_start floating) start_le_stop

theorem start_zero (floating : part.addr = none) : part.start contents 0 = 0 := by
  by_cases empty : contents.size = 0
  · exact start_of_empty empty
  · rw [start_of_floating floating empty, alignUp_zero]

theorem stop_zero_iff (floating : part.addr = none) :
    part.stop contents 0 = 0 ↔ part.threadLocal = true ∨ contents.size = 0 := by
  constructor
  · intro still
    cases occupies : part.threadLocal
    · have room := @size_le_stop ρ ν part contents 0 occupies
      exact .inr (by omega)
    · exact .inl rfl
  · rintro (isLocal | empty)
    · rw [stop_of_threadLocal isLocal, start_zero floating]
    · exact stop_of_empty empty

/-! ### Moving the origin -/

variable {region : Region}

theorem start_add (natural : region.Natural) (floating : part.addr = none)
    (inside : part.start contents (region.origin + free) < region.origin + region.length) :
    part.start contents (region.origin + free) = region.origin + part.start contents free := by
  by_cases empty : contents.size = 0
  · rw [start_of_empty empty, start_of_empty empty]
  · have behind := @le_start ρ ν part contents (region.origin + free) floating
    rw [start_of_floating floating empty] at inside behind ⊢
    rw [start_of_floating floating empty]
    apply alignUp_add (Nat.two_pow_pos _)
    exact natural.dvd_origin (dvd_alignUp _ _) (by omega) inside

theorem stop_add (natural : region.Natural) (floating : part.addr = none)
    (inside : part.stop contents (region.origin + free) < region.origin + region.length) :
    part.stop contents (region.origin + free) = region.origin + part.stop contents free := by
  have behind := @le_stop ρ ν part contents (region.origin + free) floating
  have moved := start_add natural floating (Nat.lt_of_le_of_lt start_le_stop inside)
  by_cases empty : contents.size = 0
  · rw [stop_of_empty empty, stop_of_empty empty]
  · cases occupies : part.threadLocal
    · rw [stop_of_filled occupies empty] at inside behind ⊢
      rw [stop_of_filled occupies empty, moved, Nat.add_assoc]
      rw [moved, Nat.add_assoc] at inside behind
      apply alignUp_add (Nat.two_pow_pos _)
      exact natural.dvd_origin (dvd_alignUp _ _) (by omega) inside
    · rw [stop_of_threadLocal occupies, stop_of_threadLocal occupies, moved]

end OutputSection

def Floating (region : ρ) (script : List (OutputSection ρ ν)) : Prop :=
  ∀ part ∈ script, part.region = region → part.addr = none

theorem Floating.tail {region : ρ} {part : OutputSection ρ ν} {rest : List (OutputSection ρ ν)}
    (floating : Floating region (part :: rest)) : Floating region rest :=
  fun other member => floating other (List.mem_cons_of_mem _ member)

section Placement
variable [DecidableEq ρ]

/-- The sections of the script one after the other; `free` is the next free
address of each region. -/
def place (regions : ρ → Region) (contents : ν → Contents) :
    (ρ → Nat) → List (OutputSection ρ ν) → Option (List (ν × Extent))
  | _, [] => some []
  | free, part :: rest =>
    if part.Fits (contents part.name) (free part.region) (regions part.region) then
      match place regions contents
          (Function.update free part.region (part.stop (contents part.name) (free part.region)))
          rest with
      | none => none
      | some map => some ((part.name, part.extent (contents part.name) (free part.region)) :: map)
    else none

/-- The next free address of a region after some sections. -/
def cursor (contents : ν → Contents) (region : ρ) : Nat → List (OutputSection ρ ν) → Nat
  | free, [] => free
  | free, part :: rest =>
    cursor contents region
      (if part.region = region then part.stop (contents part.name) free else free) rest

variable {regions : ρ → Region} {contents : ν → Contents} {region : ρ} {free : Nat}

theorem cursor_append (first second : List (OutputSection ρ ν)) :
    cursor contents region free (first ++ second) =
      cursor contents region (cursor contents region free first) second := by
  induction first generalizing free with
  | nil => rfl
  | cons part rest ih => exact ih

theorem le_cursor {script : List (OutputSection ρ ν)} (floating : Floating region script) :
    free ≤ cursor contents region free script := by
  induction script generalizing free with
  | nil => exact Nat.le_refl free
  | cons part rest ih =>
    refine Nat.le_trans ?_ (ih floating.tail)
    split_ifs with here
    · exact OutputSection.le_stop (floating part List.mem_cons_self here)
    · exact Nat.le_refl free

theorem cursor_zero_iff {script : List (OutputSection ρ ν)} (floating : Floating region script) :
    cursor contents region 0 script = 0 ↔ ∀ part ∈ script, part.region = region →
      part.threadLocal = true ∨ (contents part.name).size = 0 := by
  induction script with
  | nil => exact ⟨fun _ _ none => absurd none List.not_mem_nil, fun _ => rfl⟩
  | cons part rest ih =>
    rw [List.forall_mem_cons, ← ih floating.tail]
    change cursor contents region (if part.region = region then _ else 0) rest = 0 ↔ _
    by_cases here : part.region = region
    · have still := @OutputSection.stop_zero_iff ρ ν part (contents part.name)
        (floating part List.mem_cons_self here)
      rw [if_pos here]
      constructor
      · intro zero
        have stays : part.stop (contents part.name) 0 = 0 :=
          Nat.le_zero.mp (Nat.le_trans (le_cursor floating.tail) (Nat.le_of_eq zero))
        rw [stays] at zero
        exact ⟨fun _ => still.mp stays, zero⟩
      · rintro ⟨now, zero⟩
        rw [still.mpr (now here)]
        exact zero
    · rw [if_neg here]
      exact ⟨fun zero => ⟨fun other => absurd other here, zero⟩, fun both => both.2⟩

/-- Placement inside a natural region is placement from 0, moved to the origin. -/
theorem cursor_add {bounds : Region} (natural : bounds.Natural) {script : List (OutputSection ρ ν)}
    (floating : Floating region script)
    (inside : cursor contents region (bounds.origin + free) script < bounds.origin + bounds.length) :
    cursor contents region (bounds.origin + free) script =
      bounds.origin + cursor contents region free script := by
  induction script generalizing free with
  | nil => rfl
  | cons part rest ih =>
    change cursor contents region (if part.region = region then _ else _) rest < _ at inside
    change cursor contents region (if part.region = region then _ else _) rest =
      bounds.origin + cursor contents region (if part.region = region then _ else _) rest
    by_cases here : part.region = region
    · rw [if_pos here] at inside
      rw [if_pos here, if_pos here]
      have moved := OutputSection.stop_add natural (floating part List.mem_cons_self here)
        (Nat.lt_of_le_of_lt (le_cursor floating.tail) inside)
      rw [moved] at inside ⊢
      exact ih floating.tail inside
    · rw [if_neg here] at inside
      rw [if_neg here, if_neg here]
      exact ih floating.tail inside

/-! ## The load map -/

variable [DecidableEq ν]

def before (name : ν) (script : List (OutputSection ρ ν)) : List (OutputSection ρ ν) :=
  script.takeWhile fun part => part.name ≠ name

def freeFor (contents : ν → Contents) (free : ρ → Nat) (script : List (OutputSection ρ ν))
    (part : OutputSection ρ ν) : Nat :=
  cursor contents part.region (free part.region) (before part.name script)

/-- A script that links places every section where the ones before it leave it,
and every section fits. -/
theorem place_eq_some {script : List (OutputSection ρ ν)} {free : ρ → Nat} {map : List (ν × Extent)}
    (distinct : (script.map OutputSection.name).Nodup)
    (linked : place regions contents free script = some map) :
    (map = script.map fun part =>
        (part.name, part.extent (contents part.name) (freeFor contents free script part))) ∧
      ∀ part ∈ script,
        part.Fits (contents part.name) (freeFor contents free script part) (regions part.region) := by
  induction script generalizing free map with
  | nil =>
    simp only [place, Option.some.injEq] at linked
    subst linked
    exact ⟨rfl, fun _ none => absurd none List.not_mem_nil⟩
  | cons part rest ih =>
    obtain ⟨fresh, distinctRest⟩ := List.nodup_cons.mp distinct
    let next := Function.update free part.region
      (part.stop (contents part.name) (free part.region))
    have head : freeFor contents free (part :: rest) part = free part.region := by
      simp [freeFor, before, cursor]
    have tail : ∀ other ∈ rest,
        freeFor contents free (part :: rest) other = freeFor contents next rest other := by
      intro other member
      have different : part.name ≠ other.name := fun same =>
        fresh (same ▸ List.mem_map_of_mem member)
      have longer : before other.name (part :: rest) = part :: before other.name rest :=
        List.takeWhile_cons_of_pos (decide_eq_true different)
      unfold freeFor
      rw [longer]
      change cursor contents other.region (if part.region = other.region then _ else _) _ = _
      congr 1
      by_cases here : part.region = other.region
      · rw [if_pos here, ← here]
        simp only [next, Function.update_self]
      · rw [if_neg here]
        simp only [next, Function.update_of_ne (Ne.symm here)]
    rw [place] at linked
    split_ifs at linked with fits
    cases others : place regions contents next rest with
    | none => simp [next, others] at linked
    | some later =>
      simp only [next, others, Option.some.injEq] at linked
      subst linked
      obtain ⟨mapped, placed⟩ := ih distinctRest others
      constructor
      · rw [List.map_cons, head, mapped]
        congr 1
        apply List.map_congr_left
        intro other member
        rw [tail other member]
      · intro other member
        rcases List.mem_cons.mp member with rfl | inRest
        · rw [head]
          exact fits
        · rw [tail other inRest]
          exact placed other inRest

end Placement

end LinkerScript
