import Eros.Obi
import Mathlib.Data.List.GetD
import Mathlib.Data.Nat.Log

/-!
# `gen_rom.py` and the ROM it generates

The script reads an image, pads it to whole words and writes the words as
hexadecimal literals: forwards into the C header, backwards into the packed array
of the module.  The module answers with the word of the address, and with 0
behind the last one.
-/

set_option autoImplicit false

namespace Eros

namespace GenRom

/-! ## The script -/

/-- `bytes.hex` -/
def hexOf (image : List (BitVec 8)) : List Char :=
  image.flatMap fun byte => [Nat.digitChar (byte.toNat / 16), Nat.digitChar (byte.toNat % 16)]

/-- `text[::2]` -/
def everyOther {α : Type*} : List α → List α
  | [] => []
  | [last] => [last]
  | first :: _ :: rest => first :: everyOther rest

def align (length : Nat) : Nat := (length + 3) / 4 * 4

/-- `read_bin`: the bytes as pairs of digits, with "00" up to a whole word. -/
def readBin (image : List (BitVec 8)) : List (List Char) :=
  let rom := List.zipWith (fun high low => [high, low]) (everyOther (hexOf image))
    (everyOther (hexOf image).tail)
  rom ++ List.replicate (align rom.length - rom.length) ['0', '0']

/-- `"".join(rom[i*4:i*4+4][::-1])` -/
def wordDigits (rom : List (List Char)) (i : Nat) : List Char :=
  ((rom.drop (i * 4)).take 4).reverse.flatten

def headerContent (image : List (BitVec 8)) : List (List Char) :=
  (List.range ((readBin image).length / 4)).map (wordDigits (readBin image))

def moduleContent (image : List (BitVec 8)) : List (List Char) :=
  (List.range ((readBin image).length / 4)).reverse.map (wordDigits (readBin image))

/-! ## The literals -/

def digitValue (digit : Char) : Nat :=
  if digit.isDigit then digit.toNat - '0'.toNat else digit.toNat - 'a'.toNat + 10

/-- The value of a literal of 32 bits. -/
def literal (digits : List Char) : Word :=
  BitVec.ofNat 32 (digits.foldl (fun value digit => value * 16 + digitValue digit) 0)

/-- The byte of the image, 0 behind its end. -/
def byteAt (image : List (BitVec 8)) (place : Nat) : BitVec 8 := image.getD place 0

/-- The little-endian word of the image. -/
def romWord (image : List (BitVec 8)) (i : Nat) : Word :=
  byteAt image (i * 4 + 3) ++ byteAt image (i * 4 + 2) ++ byteAt image (i * 4 + 1) ++
    byteAt image (i * 4)

def hexByte (byte : BitVec 8) : List Char :=
  [Nat.digitChar (byte.toNat / 16), Nat.digitChar (byte.toNat % 16)]

theorem digitValue_digitChar {value : Nat} (small : value < 16) :
    digitValue (Nat.digitChar value) = value := by
  revert value
  decide

theorem everyOther_hexOf (image : List (BitVec 8)) :
    everyOther (hexOf image) = image.map (fun byte => Nat.digitChar (byte.toNat / 16)) ∧
      everyOther (hexOf image).tail = image.map fun byte => Nat.digitChar (byte.toNat % 16) := by
  induction image with
  | nil => exact ⟨rfl, rfl⟩
  | cons byte rest ih =>
    have high : everyOther (hexOf (byte :: rest)) =
        Nat.digitChar (byte.toNat / 16) :: everyOther (hexOf rest) := rfl
    refine ⟨by rw [high, ih.1]; rfl, ?_⟩
    change everyOther (Nat.digitChar (byte.toNat % 16) :: hexOf rest) = _
    cases rest with
    | nil => rfl
    | cons next later =>
      have low : everyOther (Nat.digitChar (byte.toNat % 16) :: hexOf (next :: later)) =
          Nat.digitChar (byte.toNat % 16) :: everyOther (hexOf (next :: later)).tail := rfl
      rw [low, ih.2]
      rfl

theorem readBin_eq (image : List (BitVec 8)) :
    readBin image =
      (image ++ List.replicate (align image.length - image.length) 0).map hexByte := by
  have pairs : List.zipWith (fun high low => [high, low]) (everyOther (hexOf image))
      (everyOther (hexOf image).tail) = image.map hexByte := by
    rw [(everyOther_hexOf image).1, (everyOther_hexOf image).2, List.zipWith_map,
      List.zipWith_self]
    rfl
  have zero : hexByte 0 = ['0', '0'] := by decide
  unfold readBin
  simp only [pairs]
  rw [List.length_map, List.map_append, List.map_replicate, zero]

theorem toNat_append {high low : Nat} (left : BitVec high) (right : BitVec low) :
    (left ++ right).toNat = left.toNat * 2 ^ low + right.toNat := by
  rw [BitVec.toNat_append, ← Nat.shiftLeft_add_eq_or_of_lt right.isLt, Nat.shiftLeft_eq]

theorem literal_word (first second third fourth : BitVec 8) :
    literal (hexByte fourth ++ (hexByte third ++ (hexByte second ++ (hexByte first ++ [])))) =
      fourth ++ third ++ second ++ first := by
  have high : ∀ byte : BitVec 8, digitValue (Nat.digitChar (byte.toNat / 16)) = byte.toNat / 16 :=
    fun byte => digitValue_digitChar (by omega)
  have low : ∀ byte : BitVec 8, digitValue (Nat.digitChar (byte.toNat % 16)) = byte.toNat % 16 :=
    fun byte => digitValue_digitChar (by omega)
  apply BitVec.eq_of_toNat_eq
  simp only [literal, hexByte, List.cons_append, List.nil_append, List.foldl_cons, List.foldl_nil,
    high, low, BitVec.toNat_ofNat, toNat_append]
  omega

theorem padded_length (image : List (BitVec 8)) :
    (image ++ List.replicate (align image.length - image.length) 0).length = align image.length := by
  have enough : image.length ≤ align image.length := by
    unfold align
    omega
  rw [List.length_append, List.length_replicate]
  omega

theorem padded_getD (image : List (BitVec 8)) (count place : Nat) :
    (image ++ List.replicate count 0).getD place 0 = byteAt image place := by
  unfold byteAt
  by_cases inside : place < image.length
  · rw [List.getD_append _ _ _ _ inside]
  · rw [List.getD_append_right _ _ _ _ (by omega), List.getD_eq_default image 0 (by omega)]
    rw [List.getD_eq_getElem?_getD, List.getElem?_replicate]
    split_ifs <;> rfl

theorem take_four {bytes : List (BitVec 8)} {place : Nat} (fits : place + 4 ≤ bytes.length) :
    (bytes.drop place).take 4 =
      [bytes.getD place 0, bytes.getD (place + 1) 0, bytes.getD (place + 2) 0,
        bytes.getD (place + 3) 0] := by
  rw [List.drop_eq_getElem_cons (by omega), List.drop_eq_getElem_cons (by omega),
    List.drop_eq_getElem_cons (by omega), List.drop_eq_getElem_cons (by omega)]
  simp only [List.take_succ_cons, List.take_zero]
  rw [List.getD_eq_getElem _ _ (by omega), List.getD_eq_getElem _ _ (by omega),
    List.getD_eq_getElem _ _ (by omega), List.getD_eq_getElem _ _ (by omega)]

theorem readBin_length (image : List (BitVec 8)) : (readBin image).length = align image.length := by
  rw [readBin_eq, List.length_map, padded_length]

theorem literal_wordDigits (image : List (BitVec 8)) {i : Nat}
    (inside : i < (readBin image).length / 4) :
    literal (wordDigits (readBin image) i) = romWord image i := by
  have fits : i * 4 + 4 ≤
      (image ++ List.replicate (align image.length - image.length) 0).length := by
    rw [padded_length, ← readBin_length]
    omega
  unfold wordDigits
  rw [readBin_eq, ← List.map_drop, ← List.map_take, take_four fits]
  simp only [padded_getD]
  exact literal_word _ _ _ _

end GenRom

/-! ## The module -/

/-- `rdata` of the generated module for a packed array as it is listed, the last
word first, with `DEBUG_BOOTROM_SIZE = 0x1000`. -/
def bootRomRdata (mem : List Word) (addr : Word) : Word :=
  let romSize := mem.length
  let wordAddr := (addr.extractLsb' 2 10).toNat
  let romAddr := wordAddr % 2 ^ Nat.clog 2 romSize
  if wordAddr > romSize - 1 then 0 else mem.getD (romSize - 1 - romAddr) 0

namespace GenRom

/-- The array of the module, as it is listed. -/
def moduleMem (image : List (BitVec 8)) : List Word := (moduleContent image).map literal

/-- `reset_vec` of the C header. -/
def resetVec (image : List (BitVec 8)) : List Word := (headerContent image).map literal

theorem moduleMem_eq (image : List (BitVec 8)) :
    moduleMem image =
      (List.range ((readBin image).length / 4)).reverse.map (romWord image) := by
  unfold moduleMem moduleContent
  rw [List.map_map]
  refine List.map_congr_left fun i member => ?_
  rw [List.mem_reverse, List.mem_range] at member
  exact literal_wordDigits image member

theorem resetVec_eq (image : List (BitVec 8)) :
    resetVec image = (List.range ((readBin image).length / 4)).map (romWord image) := by
  unfold resetVec headerContent
  rw [List.map_map]
  refine List.map_congr_left fun i member => ?_
  rw [List.mem_range] at member
  exact literal_wordDigits image member

theorem romWord_past {image : List (BitVec 8)} {i : Nat} (past : image.length ≤ i * 4) :
    romWord image i = 0 := by
  have zero : ∀ place, image.length ≤ place → byteAt image place = 0 :=
    fun place out => List.getD_eq_default image 0 out
  unfold romWord
  rw [zero _ past, zero _ (by omega), zero _ (by omega), zero _ (by omega)]
  decide

/-- The generated module answers every address with the little-endian word of the
image there, 0 behind its end; so does the array of the header.  The image has
more than one word and no more than the ROM has room for. -/
theorem gen_rom_round_trip (image : List (BitVec 8)) (several : 4 < image.length)
    (fits : image.length ≤ 0x1000) (addr : Word) :
    bootRomRdata (moduleMem image) addr = romWord image (addr.extractLsb' 2 10).toNat ∧
      (resetVec image).getD (addr.extractLsb' 2 10).toNat 0 =
        romWord image (addr.extractLsb' 2 10).toNat := by
  have words : (readBin image).length / 4 = (image.length + 3) / 4 := by
    rw [readBin_length, align]
    omega
  let wordAddr := (addr.extractLsb' 2 10).toNat
  constructor
  · have size : (moduleMem image).length = (image.length + 3) / 4 := by
      rw [moduleMem_eq, List.length_map, List.length_reverse, List.length_range, words]
    have room : (image.length + 3) / 4 ≤ 2 ^ Nat.clog 2 ((image.length + 3) / 4) :=
      Nat.le_pow_clog (by decide) _
    change (if wordAddr > (moduleMem image).length - 1 then 0 else _) = romWord image wordAddr
    rw [size]
    split_ifs with past
    · exact (romWord_past (by omega)).symm
    · have inside : wordAddr < (image.length + 3) / 4 := by omega
      rw [Nat.mod_eq_of_lt (by omega : wordAddr < _), moduleMem_eq, words,
        List.getD_eq_getElem _ _ (by simp; omega)]
      simp only [List.getElem_map, List.getElem_reverse, List.getElem_range, List.length_range]
      congr 1
      omega
  · change (resetVec image).getD wordAddr 0 = romWord image wordAddr
    rw [resetVec_eq, words]
    by_cases inside : wordAddr < (image.length + 3) / 4
    · rw [List.getD_eq_getElem _ _ (by simpa using inside)]
      simp
    · rw [List.getD_eq_default _ _ (by simpa using Nat.le_of_not_lt inside)]
      exact (romWord_past (by omega)).symm

/-- Five bytes. -/
theorem gen_rom_five_bytes :
    bootRomRdata (moduleMem [0x13, 0x00, 0x05, 0x10, 0x7f]) 0x4 = 0x0000007f :=
  (gen_rom_round_trip [0x13, 0x00, 0x05, 0x10, 0x7f] (by decide) (by decide) 0x4).1

end GenRom

/-! ## The boot ROM -/

/-- `mem` of `CB_boot_rom`. -/
def cbBootRomMem : List Word :=
  [ 0x13000000, 0x13000000, 0x13000000, 0x13000000, 0x13000000, 0x13000000,
    0x13000000, 0x13000000, 0x13000000, 0x13000000, 0x13000000, 0x13000000,
    0x13000000, 0x13000000, 0x13000000, 0x13000000, 0x13000000, 0x13000000,
    0x13000000, 0x13000000, 0x13000000, 0x13000000, 0x00000013, 0x00000013,
    0xf3dff06f, 0x018f2103, 0x00000013, 0x00000013, 0xfedff06f, 0x00410113,
    0x00438393, 0x00610c63, 0x01d12023, 0x0003ae83, 0x094f0393, 0xf66104e3,
    0x0ff0000f, 0x0382a303, 0xf25ff06f, 0x00000013, 0x00000013, 0x00000013,
    0x00000013, 0x7b200073, 0x088f2f03, 0x08cf2f83, 0x7b1f9073, 0x0ff0000f,
    0x090f2f83, 0x084f2e83, 0x080f2e03, 0x07cf2d83, 0x078f2d03, 0x074f2c83,
    0x070f2c03, 0x06cf2b83, 0x068f2b03, 0x064f2a83, 0x060f2a03, 0x05cf2983,
    0x058f2903, 0x054f2883, 0x050f2803, 0x04cf2783, 0x048f2703, 0x044f2683,
    0x040f2603, 0x03cf2583, 0x038f2503, 0x034f2483, 0x030f2403, 0x02cf2383,
    0x028f2303, 0x024f2283, 0x08031a63, 0x0ff0000f, 0x0342a303, 0x200702b7,
    0x020f2203, 0x01cf2183, 0x018f2103, 0x014f2083, 0x343f9073, 0x010f2f83,
    0x341f9073, 0x00cf2f83, 0x305f9073, 0x008f2f83, 0x304f9073, 0x004f2f83,
    0x300f9073, 0x000f2f83, 0x028f2f03, 0x20070f37, 0x00000013, 0x00040067,
    0x83040413, 0x10001437, 0x10000537, 0x0ff0000f, 0xfb5ff06f, 0x00051463,
    0x00254513, 0x02050463, 0x01852503, 0x20070537, 0x7b241073, 0x7b351073,
    0x13000000, 0x13000000, 0x13000000, 0x13000000, 0x13000000, 0x13000000,
    0x13000000, 0x13000000, 0x7b200073, 0x7b151073, 0x02452503, 0x20070537,
    0x00000013, 0x00000013, 0xff5ff06f, 0x10500073, 0x00000013, 0x00000013,
    0x00000013, 0x00000013 ]

def cbBootRom (addr : Word) : Word := bootRomRdata cbBootRomMem addr

end Eros
