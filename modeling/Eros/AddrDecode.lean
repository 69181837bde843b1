import Eros.Platform

/-!
# `addr_decode` and the address map

The decoder takes the matching rule with the highest position, the default index
when no rule matches.  A rule's end is exclusive, and an end of 0 is the top of
the address space.  The addresses of `eros_pkg` are 32-bit sums over
`GLOBAL_BASE_ADDRESS`, which is a parameter here; the safe CSR and the external
range do not move with it.
-/

set_option autoImplicit false

namespace Eros

/-- `addr_map_rule_t`, the index already cast to the width of the port. -/
structure AddrMapRule (Idx : Type) where
  idx : Idx
  startAddr : Word
  endAddr : Word

def AddrMapRule.matches {Idx : Type} (rule : AddrMapRule Idx) (addr : Word) : Bool :=
  decide (rule.startAddr ≤ addr) && (decide (addr < rule.endAddr) || rule.endAddr == 0)

/-- The loop over the rules from position 0 up.  A map is listed as the source
lists the packed array, the highest position first. -/
def addrDecode {Idx : Type} (addrMap : List (AddrMapRule Idx)) (defaultIdx : Idx) (addr : Word) :
    Idx :=
  addrMap.foldr (fun rule idx => if rule.matches addr then rule.idx else idx) defaultIdx

def decValid {Idx : Type} (addrMap : List (AddrMapRule Idx)) (addr : Word) : Bool :=
  addrMap.any fun rule => rule.matches addr

section Decode
variable {Idx : Type}

@[simp] theorem addrDecode_nil (defaultIdx : Idx) (addr : Word) :
    addrDecode [] defaultIdx addr = defaultIdx := rfl

@[simp] theorem addrDecode_cons (rule : AddrMapRule Idx) (rest : List (AddrMapRule Idx))
    (defaultIdx : Idx) (addr : Word) :
    addrDecode (rule :: rest) defaultIdx addr =
      if rule.matches addr then rule.idx else addrDecode rest defaultIdx addr := rfl

theorem AddrMapRule.matches_iff (rule : AddrMapRule Idx) (addr : Word) :
    rule.matches addr = true ↔
      rule.startAddr.toNat ≤ addr.toNat ∧
        (addr.toNat < rule.endAddr.toNat ∨ rule.endAddr = 0) := by
  simp [AddrMapRule.matches, BitVec.le_def, BitVec.lt_def]

theorem AddrMapRule.matches_iff_of_end (rule : AddrMapRule Idx) (addr : Word)
    (bounded : rule.endAddr ≠ 0) :
    rule.matches addr = true ↔
      rule.startAddr.toNat ≤ addr.toNat ∧ addr.toNat < rule.endAddr.toNat := by
  rw [AddrMapRule.matches_iff, or_iff_left bounded]

theorem addrDecode_singleton_iff (rule : AddrMapRule Idx) (defaultIdx : Idx) (addr : Word)
    (other : rule.idx ≠ defaultIdx) :
    addrDecode [rule] defaultIdx addr = rule.idx ↔ rule.matches addr = true := by
  rw [addrDecode_cons, addrDecode_nil]
  split_ifs with inside
  · exact iff_of_true rfl inside
  · exact iff_of_false other.symm inside

end Decode

/-! ## `eros_pkg` -/

namespace ErosPkg

def globalBaseAddress : Word := 0xF0000000
def safeCpuRegisterStartAddress : Word := safeWrapperCtrlBase + 0x0
def safeCpuRegisterEndAddress : Word := safeCpuRegisterStartAddress + 0x100

def errorStartAddress : Word := 0xBADACCE5
def errorEndAddress : Word := errorStartAddress + 0x1
def externalPeripheralStartAddress : Word := 0x00000000
def externalPeripheralEndAddress : Word := externalPeripheralStartAddress + 0x41000000

section Base
variable (base : Word)

def peripheralStartAddress : Word := base + 0x00010000
def peripheralEndAddress : Word := peripheralStartAddress base + 0x00002000
def memoryRam0StartAddress : Word := base + 0x00020000
def memoryRam0EndAddress : Word := memoryRam0StartAddress base + 0x00008000
def memoryRam1StartAddress : Word := base + 0x00028000
def memoryRam1EndAddress : Word := memoryRam1StartAddress base + 0x00008000

/-- `GLOBAL_END_ADDRESS`, the base plus an end that has the base in it. -/
def globalEndAddress : Word := base + memoryRam1EndAddress base

def cpuRegStartAddress : Word := base
def cpuRegEndAddress : Word := cpuRegStartAddress base + 0x00010000

end Base

def errorIdx : Fin 5 := 0
def peripheralIdx : Fin 5 := 1
def externalPeripheralIdx : Fin 5 := 2
def memoryRam0Idx : Fin 5 := 3
def memoryRam1Idx : Fin 5 := 4

def demuxIntXbarIdx : Fin 2 := 0
def demuxSafeCpuRegisterIdx : Fin 2 := 1

def erosSystemIdx : Fin 2 := 0
def cpuRegIdx : Fin 2 := 1

def cpuXbarAddrRules : List (AddrMapRule (Fin 2)) :=
  [⟨cpuRegIdx, cpuRegStartAddress globalBaseAddress, cpuRegEndAddress globalBaseAddress⟩]

def demuxIntSafeRegAddrRules : List (AddrMapRule (Fin 2)) :=
  [⟨demuxSafeCpuRegisterIdx, safeCpuRegisterStartAddress, safeCpuRegisterEndAddress⟩]

def xbarAddrRules : List (AddrMapRule (Fin 5)) :=
  [⟨errorIdx, errorStartAddress, errorEndAddress⟩,
    ⟨peripheralIdx, peripheralStartAddress globalBaseAddress,
      peripheralEndAddress globalBaseAddress⟩,
    ⟨externalPeripheralIdx, externalPeripheralStartAddress, externalPeripheralEndAddress⟩,
    ⟨memoryRam0Idx, memoryRam0StartAddress globalBaseAddress,
      memoryRam0EndAddress globalBaseAddress⟩,
    ⟨memoryRam1Idx, memoryRam1StartAddress globalBaseAddress,
      memoryRam1EndAddress globalBaseAddress⟩]

theorem cpuXbarAddrRules_eq :
    cpuXbarAddrRules = [⟨cpuRegIdx, 0xF0000000#32, 0xF0010000#32⟩] := rfl

theorem demuxIntSafeRegAddrRules_eq :
    demuxIntSafeRegAddrRules = [⟨demuxSafeCpuRegisterIdx, 0x20070000#32, 0x20070100#32⟩] := rfl

theorem xbarAddrRules_eq :
    xbarAddrRules =
      [⟨errorIdx, 0xBADACCE5#32, 0xBADACCE6#32⟩,
        ⟨peripheralIdx, 0xF0010000#32, 0xF0012000#32⟩,
        ⟨externalPeripheralIdx, 0x00000000#32, 0x41000000#32⟩,
        ⟨memoryRam0Idx, 0xF0020000#32, 0xF0028000#32⟩,
        ⟨memoryRam1Idx, 0xF0028000#32, 0xF0030000#32⟩] := rfl

end ErosPkg

/-! ## The window of the AXI wrapper -/

open ErosPkg

/-- `AddrMap` of `eros_top_wrapper_axi`: one APB slave for the whole window. -/
def axiAddrMap (base : Word) : List (AddrMapRule (Fin 1)) :=
  [⟨0, base, globalEndAddress base⟩]

theorem axiAddrMap_valid_iff (base addr : Word) :
    decValid (axiAddrMap base) addr = true ↔
      base.toNat ≤ addr.toNat ∧
        (addr.toNat < (globalEndAddress base).toNat ∨ (globalEndAddress base).toNat = 0) := by
  simp only [decValid, axiAddrMap, List.any_cons, List.any_nil, Bool.or_false,
    AddrMapRule.matches_iff, ← BitVec.toNat_inj, BitVec.ofNat_eq_ofNat, BitVec.toNat_zero]

/-- The end of the window counts the base twice. -/
theorem globalEndAddress_toNat (base : Word) :
    (globalEndAddress base).toNat = (2 * base.toNat + 0x30000) % 2 ^ 32 := by
  have sum : globalEndAddress base = base + (base + 0x30000) := by
    unfold globalEndAddress memoryRam1EndAddress memoryRam1StartAddress
    rw [BitVec.add_assoc base]
    rfl
  rw [sum, BitVec.toNat_add, BitVec.toNat_add, Nat.add_mod_mod, ← Nat.add_assoc, ← Nat.two_mul]
  rfl

/-- The address map claims the window of 0x30000 bytes from the base if and only
if the base is 0. -/
theorem axi_window_exact_iff (base : Word) (fits : base.toNat + 0x30000 ≤ 2 ^ 32) :
    (∀ addr, decValid (axiAddrMap base) addr = true ↔
        base.toNat ≤ addr.toNat ∧ addr.toNat < base.toNat + 0x30000) ↔
      base = 0 := by
  have ends := globalEndAddress_toNat base
  constructor
  · intro window
    by_contra moved
    have positive : 0 < base.toNat := by
      rw [Nat.pos_iff_ne_zero]
      intro zero
      exact moved (BitVec.eq_of_toNat_eq zero)
    by_cases top : (globalEndAddress base).toNat = 0
    · -- an end of 0 reaches the top of the address space, past the window
      have last := (window (BitVec.allOnes 32)).mp
      simp only [axiAddrMap_valid_iff, BitVec.toNat_allOnes] at last
      have within := last ⟨by omega, Or.inr top⟩
      omega
    · by_cases wrapped : 2 * base.toNat + 0x30000 < 2 ^ 32
      · -- the first address after the window is still claimed
        have past := (window (BitVec.ofNat 32 (base.toNat + 0x30000))).mp
        simp only [axiAddrMap_valid_iff, BitVec.toNat_ofNat] at past
        have within := past ⟨by omega, by omega⟩
        omega
      · -- the end has wrapped below the base and nothing is claimed
        have first := (window base).mpr ⟨le_rfl, by omega⟩
        rw [axiAddrMap_valid_iff] at first
        omega
  · rintro rfl addr
    rw [axiAddrMap_valid_iff]
    simp only [BitVec.ofNat_eq_ofNat, BitVec.toNat_zero] at ends ⊢
    omega

theorem axi_window_exact_at_zero :
    decValid (axiAddrMap 0) 0x2FFFF = true ∧ decValid (axiAddrMap 0) 0x30000 = false := by
  have window := (axi_window_exact_iff 0 (by decide)).mpr rfl
  constructor
  · exact (window 0x2FFFF).mpr (by decide)
  · rw [← Bool.not_eq_true, window]
    decide

/-- With the base of the repository the window is empty. -/
theorem axi_window_misses_base :
    ¬∀ base : Word, base.toNat + 0x30000 ≤ 2 ^ 32 →
      ∀ addr, decValid (axiAddrMap base) addr = true ↔
        base.toNat ≤ addr.toNat ∧ addr.toNat < base.toNat + 0x30000 := by
  intro claimed
  have first := (claimed globalBaseAddress (by decide) globalBaseAddress).mpr (by decide)
  exact absurd first (by decide)

end Eros
