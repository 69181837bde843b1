import Eros.Lib.BlockCipher
import Mathlib.Tactic.IntervalCases

/-!
# The block cipher of the AES library

A block is the buffer of 16 bytes that `state_t` lays over as four columns of four
bytes.  Encryption and decryption undo each other under every round key.
-/

set_option autoImplicit false

namespace Eros.Aes

abbrev Byte := BitVec 8

def nb : Nat := 4
def nk : Nat := 4
def nr : Nat := 10

/-- A buffer of AES_BLOCKLEN bytes. -/
abbrev Block := Vector Byte 16

/-- AES_keyExpSize bytes. -/
abbrev RoundKeys := Vector Byte 176

set_option maxRecDepth 4000 in
def sbox : Vector Byte 256 := #v[
    0x63, 0x7c, 0x77, 0x7b, 0xf2, 0x6b, 0x6f, 0xc5, 0x30, 0x01, 0x67, 0x2b, 0xfe, 0xd7, 0xab, 0x76,
    0xca, 0x82, 0xc9, 0x7d, 0xfa, 0x59, 0x47, 0xf0, 0xad, 0xd4, 0xa2, 0xaf, 0x9c, 0xa4, 0x72, 0xc0,
    0xb7, 0xfd, 0x93, 0x26, 0x36, 0x3f, 0xf7, 0xcc, 0x34, 0xa5, 0xe5, 0xf1, 0x71, 0xd8, 0x31, 0x15,
    0x04, 0xc7, 0x23, 0xc3, 0x18, 0x96, 0x05, 0x9a, 0x07, 0x12, 0x80, 0xe2, 0xeb, 0x27, 0xb2, 0x75,
    0x09, 0x83, 0x2c, 0x1a, 0x1b, 0x6e, 0x5a, 0xa0, 0x52, 0x3b, 0xd6, 0xb3, 0x29, 0xe3, 0x2f, 0x84,
    0x53, 0xd1, 0x00, 0xed, 0x20, 0xfc, 0xb1, 0x5b, 0x6a, 0xcb, 0xbe, 0x39, 0x4a, 0x4c, 0x58, 0xcf,
    0xd0, 0xef, 0xaa, 0xfb, 0x43, 0x4d, 0x33, 0x85, 0x45, 0xf9, 0x02, 0x7f, 0x50, 0x3c, 0x9f, 0xa8,
    0x51, 0xa3, 0x40, 0x8f, 0x92, 0x9d, 0x38, 0xf5, 0xbc, 0xb6, 0xda, 0x21, 0x10, 0xff, 0xf3, 0xd2,
    0xcd, 0x0c, 0x13, 0xec, 0x5f, 0x97, 0x44, 0x17, 0xc4, 0xa7, 0x7e, 0x3d, 0x64, 0x5d, 0x19, 0x73,
    0x60, 0x81, 0x4f, 0xdc, 0x22, 0x2a, 0x90, 0x88, 0x46, 0xee, 0xb8, 0x14, 0xde, 0x5e, 0x0b, 0xdb,
    0xe0, 0x32, 0x3a, 0x0a, 0x49, 0x06, 0x24, 0x5c, 0xc2, 0xd3, 0xac, 0x62, 0x91, 0x95, 0xe4, 0x79,
    0xe7, 0xc8, 0x37, 0x6d, 0x8d, 0xd5, 0x4e, 0xa9, 0x6c, 0x56, 0xf4, 0xea, 0x65, 0x7a, 0xae, 0x08,
    0xba, 0x78, 0x25, 0x2e, 0x1c, 0xa6, 0xb4, 0xc6, 0xe8, 0xdd, 0x74, 0x1f, 0x4b, 0xbd, 0x8b, 0x8a,
    0x70, 0x3e, 0xb5, 0x66, 0x48, 0x03, 0xf6, 0x0e, 0x61, 0x35, 0x57, 0xb9, 0x86, 0xc1, 0x1d, 0x9e,
    0xe1, 0xf8, 0x98, 0x11, 0x69, 0xd9, 0x8e, 0x94, 0x9b, 0x1e, 0x87, 0xe9, 0xce, 0x55, 0x28, 0xdf,
    0x8c, 0xa1, 0x89, 0x0d, 0xbf, 0xe6, 0x42, 0x68, 0x41, 0x99, 0x2d, 0x0f, 0xb0, 0x54, 0xbb, 0x16]

set_option maxRecDepth 4000 in
def rsbox : Vector Byte 256 := #v[
    0x52, 0x09, 0x6a, 0xd5, 0x30, 0x36, 0xa5, 0x38, 0xbf, 0x40, 0xa3, 0x9e, 0x81, 0xf3, 0xd7, 0xfb,
    0x7c, 0xe3, 0x39, 0x82, 0x9b, 0x2f, 0xff, 0x87, 0x34, 0x8e, 0x43, 0x44, 0xc4, 0xde, 0xe9, 0xcb,
    0x54, 0x7b, 0x94, 0x32, 0xa6, 0xc2, 0x23, 0x3d, 0xee, 0x4c, 0x95, 0x0b, 0x42, 0xfa, 0xc3, 0x4e,
    0x08, 0x2e, 0xa1, 0x66, 0x28, 0xd9, 0x24, 0xb2, 0x76, 0x5b, 0xa2, 0x49, 0x6d, 0x8b, 0xd1, 0x25,
    0x72, 0xf8, 0xf6, 0x64, 0x86, 0x68, 0x98, 0x16, 0xd4, 0xa4, 0x5c, 0xcc, 0x5d, 0x65, 0xb6, 0x92,
    0x6c, 0x70, 0x48, 0x50, 0xfd, 0xed, 0xb9, 0xda, 0x5e, 0x15, 0x46, 0x57, 0xa7, 0x8d, 0x9d, 0x84,
    0x90, 0xd8, 0xab, 0x00, 0x8c, 0xbc, 0xd3, 0x0a, 0xf7, 0xe4, 0x58, 0x05, 0xb8, 0xb3, 0x45, 0x06,
    0xd0, 0x2c, 0x1e, 0x8f, 0xca, 0x3f, 0x0f, 0x02, 0xc1, 0xaf, 0xbd, 0x03, 0x01, 0x13, 0x8a, 0x6b,
    0x3a, 0x91, 0x11, 0x41, 0x4f, 0x67, 0xdc, 0xea, 0x97, 0xf2, 0xcf, 0xce, 0xf0, 0xb4, 0xe6, 0x73,
    0x96, 0xac, 0x74, 0x22, 0xe7, 0xad, 0x35, 0x85, 0xe2, 0xf9, 0x37, 0xe8, 0x1c, 0x75, 0xdf, 0x6e,
    0x47, 0xf1, 0x1a, 0x71, 0x1d, 0x29, 0xc5, 0x89, 0x6f, 0xb7, 0x62, 0x0e, 0xaa, 0x18, 0xbe, 0x1b,
    0xfc, 0x56, 0x3e, 0x4b, 0xc6, 0xd2, 0x79, 0x20, 0x9a, 0xdb, 0xc0, 0xfe, 0x78, 0xcd, 0x5a, 0xf4,
    0x1f, 0xdd, 0xa8, 0x33, 0x88, 0x07, 0xc7, 0x31, 0xb1, 0x12, 0x10, 0x59, 0x27, 0x80, 0xec, 0x5f,
    0x60, 0x51, 0x7f, 0xa9, 0x19, 0xb5, 0x4a, 0x0d, 0x2d, 0xe5, 0x7a, 0x9f, 0x93, 0xc9, 0x9c, 0xef,
    0xa0, 0xe0, 0x3b, 0x4d, 0xae, 0x2a, 0xf5, 0xb0, 0xc8, 0xeb, 0xbb, 0x3c, 0x83, 0x53, 0x99, 0x61,
    0x17, 0x2b, 0x04, 0x7e, 0xba, 0x77, 0xd6, 0x26, 0xe1, 0x69, 0x14, 0x63, 0x55, 0x21, 0x0c, 0x7d]

def getSBoxValue (num : Byte) : Byte := sbox.get num.toFin

def getSBoxInvert (num : Byte) : Byte := rsbox.get num.toFin

def stateAt (state : Block) (i j : Nat) : Byte := state[4 * i + j]?.getD 0

def setState (state : Block) (i j : Nat) (value : Byte) : Block :=
  state.setIfInBounds (4 * i + j) value

/-- Every byte of the state is replaced by one of its own place. -/
def forState (f : Nat → Nat → Byte) : Block := Vector.ofFn fun k => f (k / 4) (k % 4)

def addRoundKey (round : Nat) (state : Block) (roundKey : RoundKeys) : Block :=
  forState fun i j => stateAt state i j ^^^ roundKey[round * nb * 4 + i * nb + j]?.getD 0

def subBytes (state : Block) : Block := forState fun j i => getSBoxValue (stateAt state j i)

def shiftRows (state : Block) : Block :=
  let temp := stateAt state 0 1
  let state := setState state 0 1 (stateAt state 1 1)
  let state := setState state 1 1 (stateAt state 2 1)
  let state := setState state 2 1 (stateAt state 3 1)
  let state := setState state 3 1 temp
  let temp := stateAt state 0 2
  let state := setState state 0 2 (stateAt state 2 2)
  let state := setState state 2 2 temp
  let temp := stateAt state 1 2
  let state := setState state 1 2 (stateAt state 3 2)
  let state := setState state 3 2 temp
  let temp := stateAt state 0 3
  let state := setState state 0 3 (stateAt state 3 3)
  let state := setState state 3 3 (stateAt state 2 3)
  let state := setState state 2 3 (stateAt state 1 3)
  setState state 1 3 temp

def xtime (x : Byte) : Byte := x <<< 1 ^^^ (x >>> 7 &&& 1) * 0x1b

/-- One column of `mixColumns`; `tmp` and `t` keep bytes from before the assignments. -/
def mixColumn (state : Block) (i : Nat) : Block :=
  let t := stateAt state i 0
  let tmp := stateAt state i 0 ^^^ stateAt state i 1 ^^^ stateAt state i 2 ^^^ stateAt state i 3
  let tm := xtime (stateAt state i 0 ^^^ stateAt state i 1)
  let state := setState state i 0 (stateAt state i 0 ^^^ (tm ^^^ tmp))
  let tm := xtime (stateAt state i 1 ^^^ stateAt state i 2)
  let state := setState state i 1 (stateAt state i 1 ^^^ (tm ^^^ tmp))
  let tm := xtime (stateAt state i 2 ^^^ stateAt state i 3)
  let state := setState state i 2 (stateAt state i 2 ^^^ (tm ^^^ tmp))
  let tm := xtime (stateAt state i 3 ^^^ t)
  setState state i 3 (stateAt state i 3 ^^^ (tm ^^^ tmp))

def mixColumns (state : Block) : Block := (List.range 4).foldl mixColumn state

def multiply (x y : Byte) : Byte :=
  (y &&& 1) * x ^^^ (y >>> 1 &&& 1) * xtime x ^^^ (y >>> 2 &&& 1) * xtime (xtime x) ^^^
    (y >>> 3 &&& 1) * xtime (xtime (xtime x)) ^^^
    (y >>> 4 &&& 1) * xtime (xtime (xtime (xtime x)))

def invMixColumn (state : Block) (i : Nat) : Block :=
  let a := stateAt state i 0
  let b := stateAt state i 1
  let c := stateAt state i 2
  let d := stateAt state i 3
  let state := setState state i 0
    (multiply a 0x0e ^^^ multiply b 0x0b ^^^ multiply c 0x0d ^^^ multiply d 0x09)
  let state := setState state i 1
    (multiply a 0x09 ^^^ multiply b 0x0e ^^^ multiply c 0x0b ^^^ multiply d 0x0d)
  let state := setState state i 2
    (multiply a 0x0d ^^^ multiply b 0x09 ^^^ multiply c 0x0e ^^^ multiply d 0x0b)
  setState state i 3
    (multiply a 0x0b ^^^ multiply b 0x0d ^^^ multiply c 0x09 ^^^ multiply d 0x0e)

def invMixColumns (state : Block) : Block := (List.range 4).foldl invMixColumn state

def invSubBytes (state : Block) : Block := forState fun j i => getSBoxInvert (stateAt state j i)

def invShiftRows (state : Block) : Block :=
  let temp := stateAt state 3 1
  let state := setState state 3 1 (stateAt state 2 1)
  let state := setState state 2 1 (stateAt state 1 1)
  let state := setState state 1 1 (stateAt state 0 1)
  let state := setState state 0 1 temp
  let temp := stateAt state 0 2
  let state := setState state 0 2 (stateAt state 2 2)
  let state := setState state 2 2 temp
  let temp := stateAt state 1 2
  let state := setState state 1 2 (stateAt state 3 2)
  let state := setState state 3 2 temp
  let temp := stateAt state 0 3
  let state := setState state 0 3 (stateAt state 1 3)
  let state := setState state 1 3 (stateAt state 2 3)
  let state := setState state 2 3 (stateAt state 3 3)
  setState state 3 3 temp

section Cipher
variable (roundKey : RoundKeys)

/-- The loop of `cipher` from `round` on; in the last round it breaks before mixing. -/
def cipherLoop : Nat → Nat → Block → Block
  | 0, _, state => shiftRows (subBytes state)
  | left + 1, round, state =>
      cipherLoop left (round + 1)
        (addRoundKey round (mixColumns (shiftRows (subBytes state))) roundKey)

def cipher (state : Block) : Block :=
  addRoundKey nr (cipherLoop roundKey (nr - 1) 1 (addRoundKey 0 state roundKey)) roundKey

/-- The loop of `invCipher` from `round` down; it breaks in round 0. -/
def invCipherLoop : Nat → Block → Block
  | 0, state => addRoundKey 0 (invSubBytes (invShiftRows state)) roundKey
  | round + 1, state =>
      invCipherLoop round
        (invMixColumns (addRoundKey (round + 1) (invSubBytes (invShiftRows state)) roundKey))

def invCipher (state : Block) : Block :=
  invCipherLoop roundKey (nr - 1) (addRoundKey nr state roundKey)

end Cipher

/-! ### Each layer and its inverse -/

theorem stateAt_eq (state : Block) {i j : Nat} (column : i < 4) (row : j < 4) :
    stateAt state i j = state[4 * i + j] := by
  rw [stateAt, Vector.getElem?_eq_getElem (by omega), Option.getD_some]

theorem stateAt_setState (state : Block) (value : Byte) {i j column row : Nat} (_ : i < 4)
    (hj : j < 4) (hcolumn : column < 4) (hrow : row < 4) :
    stateAt (setState state i j value) column row =
      if i = column ∧ j = row then value else stateAt state column row := by
  rw [stateAt_eq _ hcolumn hrow, stateAt_eq _ hcolumn hrow]
  simp only [setState, Vector.getElem_setIfInBounds]
  congr 1
  simp only [eq_iff_iff]
  omega

theorem stateAt_forState (f : Nat → Nat → Byte) {i j : Nat} (column : i < 4) (row : j < 4) :
    stateAt (forState f) i j = f i j := by
  rw [stateAt_eq _ column row]
  simp only [forState, Vector.getElem_ofFn]
  congr 1 <;> omega

theorem ext_stateAt {state other : Block}
    (same : ∀ i < 4, ∀ j < 4, stateAt state i j = stateAt other i j) : state = other := by
  refine Vector.ext fun k inside => ?_
  have byte := same (k / 4) (by omega) (k % 4) (by omega)
  rw [stateAt_eq _ (by omega) (by omega), stateAt_eq _ (by omega) (by omega)] at byte
  simpa only [Nat.div_add_mod] using byte

theorem stateAt_shiftRows (state : Block) {i j : Nat} (column : i < 4) (row : j < 4) :
    stateAt (shiftRows state) i j = stateAt state ((i + j) % 4) j := by
  interval_cases i <;> interval_cases j <;> simp [shiftRows, stateAt_setState]

theorem stateAt_invShiftRows (state : Block) {i j : Nat} (column : i < 4) (row : j < 4) :
    stateAt (invShiftRows state) i j = stateAt state ((i + 4 - j) % 4) j := by
  interval_cases i <;> interval_cases j <;> simp [invShiftRows, stateAt_setState]

theorem invShiftRows_shiftRows (state : Block) : invShiftRows (shiftRows state) = state := by
  refine ext_stateAt fun i column j row => ?_
  rw [stateAt_invShiftRows _ column row, stateAt_shiftRows _ (by omega) row]
  congr 1
  omega

theorem shiftRows_invShiftRows (state : Block) : shiftRows (invShiftRows state) = state := by
  refine ext_stateAt fun i column j row => ?_
  rw [stateAt_shiftRows _ column row, stateAt_invShiftRows _ (by omega) row]
  congr 1
  omega

set_option maxRecDepth 4000 in
theorem getSBoxInvert_getSBoxValue : ∀ num : Byte, getSBoxInvert (getSBoxValue num) = num := by
  decide +kernel

/-- The tables are permutations of the finitely many bytes, so one direction is enough. -/
theorem getSBoxValue_getSBoxInvert (num : Byte) : getSBoxValue (getSBoxInvert num) = num := by
  have finite : Finite Byte := Finite.of_injective BitVec.toFin fun _ _ => BitVec.eq_of_toFin_eq
  obtain ⟨before, rfl⟩ := Finite.surjective_of_injective
    (Function.LeftInverse.injective getSBoxInvert_getSBoxValue) num
  rw [getSBoxInvert_getSBoxValue]

theorem invSubBytes_subBytes (state : Block) : invSubBytes (subBytes state) = state := by
  refine ext_stateAt fun i column j row => ?_
  rw [invSubBytes, stateAt_forState _ column row, subBytes, stateAt_forState _ column row,
    getSBoxInvert_getSBoxValue]

theorem subBytes_invSubBytes (state : Block) : subBytes (invSubBytes state) = state := by
  refine ext_stateAt fun i column j row => ?_
  rw [subBytes, stateAt_forState _ column row, invSubBytes, stateAt_forState _ column row,
    getSBoxValue_getSBoxInvert]

theorem addRoundKey_addRoundKey (roundKey : RoundKeys) (round : Nat) (state : Block) :
    addRoundKey round (addRoundKey round state roundKey) roundKey = state := by
  refine ext_stateAt fun i column j row => ?_
  rw [addRoundKey, stateAt_forState _ column row, addRoundKey, stateAt_forState _ column row,
    BitVec.xor_assoc, BitVec.xor_self, BitVec.xor_zero]

/-- Doubling in the field: a carry out of the byte is reduced. -/
theorem xtime_eq : ∀ x : Byte, xtime x = x <<< 1 ^^^ if x.msb then 0x1b else 0 := by
  decide +kernel

theorem xor_left_comm (x y z : Byte) : x ^^^ (y ^^^ z) = y ^^^ (x ^^^ z) := by
  rw [← BitVec.xor_assoc, BitVec.xor_comm x y, BitVec.xor_assoc]

theorem xtime_xor (x y : Byte) : xtime (x ^^^ y) = xtime x ^^^ xtime y := by
  simp only [xtime_eq, BitVec.msb_xor, BitVec.shiftLeft_xor_distrib]
  cases x.msb <;> cases y.msb <;>
    simp [BitVec.xor_assoc, BitVec.xor_comm, xor_left_comm]

/-- Bytes under exclusive or. -/
def FieldByte : Type := Byte

instance : Add FieldByte := ⟨fun x y => BitVec.xor x y⟩
instance : Zero FieldByte := ⟨(0 : Byte)⟩
instance : Neg FieldByte := ⟨id⟩

instance : AddCommGroup FieldByte where
  add_assoc := BitVec.xor_assoc
  zero_add (x : Byte) := (BitVec.zero_xor : 0#8 ^^^ x = x)
  add_zero (x : Byte) := (BitVec.xor_zero : x ^^^ 0#8 = x)
  neg_add_cancel (x : Byte) := (BitVec.xor_self : x ^^^ x = 0#8)
  add_comm := BitVec.xor_comm
  nsmul := nsmulRec
  zsmul := zsmulRec

noncomputable instance : Module (ZMod 2) FieldByte :=
  AddCommGroup.zmodModule fun x => (two_nsmul x).trans (neg_add_cancel x)

noncomputable def doubling : FieldByte →ₗ[ZMod 2] FieldByte :=
  AddMonoidHom.toZModLinearMap 2 (AddMonoidHom.mk' (fun x : FieldByte => xtime x) xtime_xor)

/-- A byte of a mixed column, from the byte at its place and the three after it. -/
def mixByte (a b c d : Byte) : Byte := a ^^^ (xtime (a ^^^ b) ^^^ (a ^^^ b ^^^ c ^^^ d))

def unmixByte (a b c d : Byte) : Byte :=
  multiply a 0x0e ^^^ multiply b 0x0b ^^^ multiply c 0x0d ^^^ multiply d 0x09

theorem mixByte_eq (a b c d : Byte) : mixByte a b c d = BlockCipher.mixEntry doubling a b c d :=
  rfl

theorem unmixByte_eq (a b c d : Byte) :
    unmixByte a b c d = BlockCipher.unmixEntry doubling a b c d := by
  have expanded : unmixByte a b c d =
      xtime a ^^^ xtime (xtime a) ^^^ xtime (xtime (xtime a)) ^^^
        (b ^^^ xtime b ^^^ xtime (xtime (xtime b))) ^^^
        (c ^^^ xtime (xtime c) ^^^ xtime (xtime (xtime c))) ^^^
        (d ^^^ xtime (xtime (xtime d))) := by
    simp [unmixByte, multiply]
  rw [expanded]
  rfl

theorem unmixByte_mixByte (a b c d : Byte) :
    unmixByte (mixByte a b c d) (mixByte b c d a) (mixByte c d a b) (mixByte d a b c) = a := by
  rw [unmixByte_eq, mixByte_eq, mixByte_eq, mixByte_eq, mixByte_eq]
  exact BlockCipher.unmixEntry_mixEntry doubling a b c d

theorem mixByte_unmixByte (a b c d : Byte) :
    mixByte (unmixByte a b c d) (unmixByte b c d a) (unmixByte c d a b) (unmixByte d a b c) = a := by
  rw [mixByte_eq, unmixByte_eq, unmixByte_eq, unmixByte_eq, unmixByte_eq]
  exact BlockCipher.mixEntry_unmixEntry doubling a b c d

theorem stateAt_mixColumn (state : Block) {i column row : Nat} (hi : i < 4) (hcolumn : column < 4)
    (hrow : row < 4) : stateAt (mixColumn state i) column row =
      if i = column then mixByte (stateAt state i row) (stateAt state i ((row + 1) % 4))
        (stateAt state i ((row + 2) % 4)) (stateAt state i ((row + 3) % 4))
      else stateAt state column row := by
  by_cases same : i = column
  · subst same
    interval_cases row <;> simp [mixColumn, mixByte, stateAt_setState, hi] <;> ac_rfl
  · interval_cases row <;> simp [mixColumn, stateAt_setState, hi, hcolumn, same]

theorem stateAt_invMixColumn (state : Block) {i column row : Nat} (hi : i < 4)
    (hcolumn : column < 4) (hrow : row < 4) : stateAt (invMixColumn state i) column row =
      if i = column then unmixByte (stateAt state i row) (stateAt state i ((row + 1) % 4))
        (stateAt state i ((row + 2) % 4)) (stateAt state i ((row + 3) % 4))
      else stateAt state column row := by
  by_cases same : i = column
  · subst same
    interval_cases row <;> simp [invMixColumn, unmixByte, stateAt_setState, hi] <;> ac_rfl
  · interval_cases row <;> simp [invMixColumn, stateAt_setState, hi, hcolumn, same]

theorem stateAt_foldColumns {body : Block → Nat → Block} {entry : Byte → Byte → Byte → Byte → Byte}
    (bodyAt : ∀ (state : Block) {i column row : Nat}, i < 4 → column < 4 → row < 4 →
      stateAt (body state i) column row =
        if i = column then entry (stateAt state i row) (stateAt state i ((row + 1) % 4))
          (stateAt state i ((row + 2) % 4)) (stateAt state i ((row + 3) % 4))
        else stateAt state column row)
    (state : Block) {columns column row : Nat} (within : columns ≤ 4) (hcolumn : column < 4)
    (hrow : row < 4) : stateAt ((List.range columns).foldl body state) column row =
      if column < columns then entry (stateAt state column row)
        (stateAt state column ((row + 1) % 4)) (stateAt state column ((row + 2) % 4))
        (stateAt state column ((row + 3) % 4))
      else stateAt state column row := by
  induction columns generalizing row with
  | zero => rfl
  | succ columns ih =>
    rw [List.range_succ, List.foldl_append, List.foldl_cons, List.foldl_nil,
      bodyAt _ (by omega) hcolumn hrow]
    by_cases here : columns = column
    · subst here
      have untouched : ∀ {row}, row < 4 →
          stateAt ((List.range columns).foldl body state) columns row = stateAt state columns row :=
        fun inside => by rw [ih (by omega) inside, if_neg (lt_irrefl columns)]
      rw [if_pos rfl, if_pos columns.lt_succ_self, untouched hrow,
        untouched (Nat.mod_lt _ (by omega)), untouched (Nat.mod_lt _ (by omega)),
        untouched (Nat.mod_lt _ (by omega))]
    · rw [if_neg here, ih (by omega) hrow]
      congr 1
      simp only [eq_iff_iff]
      omega

theorem stateAt_mixColumns (state : Block) {i j : Nat} (column : i < 4) (row : j < 4) :
    stateAt (mixColumns state) i j = mixByte (stateAt state i j) (stateAt state i ((j + 1) % 4))
      (stateAt state i ((j + 2) % 4)) (stateAt state i ((j + 3) % 4)) := by
  rw [mixColumns, stateAt_foldColumns stateAt_mixColumn state le_rfl column row, if_pos column]

theorem stateAt_invMixColumns (state : Block) {i j : Nat} (column : i < 4) (row : j < 4) :
    stateAt (invMixColumns state) i j =
      unmixByte (stateAt state i j) (stateAt state i ((j + 1) % 4))
        (stateAt state i ((j + 2) % 4)) (stateAt state i ((j + 3) % 4)) := by
  rw [invMixColumns, stateAt_foldColumns stateAt_invMixColumn state le_rfl column row,
    if_pos column]

theorem invMixColumns_mixColumns (state : Block) : invMixColumns (mixColumns state) = state := by
  refine ext_stateAt fun i column j row => ?_
  rw [stateAt_invMixColumns _ column row, stateAt_mixColumns _ column row,
    stateAt_mixColumns _ column (by omega), stateAt_mixColumns _ column (by omega),
    stateAt_mixColumns _ column (by omega)]
  interval_cases j <;> exact unmixByte_mixByte _ _ _ _

theorem mixColumns_invMixColumns (state : Block) : mixColumns (invMixColumns state) = state := by
  refine ext_stateAt fun i column j row => ?_
  rw [stateAt_mixColumns _ column row, stateAt_invMixColumns _ column row,
    stateAt_invMixColumns _ column (by omega), stateAt_invMixColumns _ column (by omega),
    stateAt_invMixColumns _ column (by omega)]
  interval_cases j <;> exact mixByte_unmixByte _ _ _ _

def layers (roundKey : RoundKeys) : BlockCipher.Layers Block where
  substitute := ⟨subBytes, invSubBytes, invSubBytes_subBytes, subBytes_invSubBytes⟩
  shift := ⟨shiftRows, invShiftRows, invShiftRows_shiftRows, shiftRows_invShiftRows⟩
  mix := ⟨mixColumns, invMixColumns, invMixColumns_mixColumns, mixColumns_invMixColumns⟩
  addKey round state := addRoundKey round state roundKey
  addKey_addKey := addRoundKey_addRoundKey roundKey

theorem cipherLoop_eq (roundKey : RoundKeys) (left round : Nat) (state : Block) :
    cipherLoop roundKey left round state = (layers roundKey).rounds left round state := by
  induction left generalizing round state with
  | zero => rfl
  | succ left ih => exact ih _ _

theorem invCipherLoop_eq (roundKey : RoundKeys) (round : Nat) (state : Block) :
    invCipherLoop roundKey round state = (layers roundKey).unrounds round state := by
  induction round generalizing state with
  | zero => rfl
  | succ round ih => exact ih _

theorem cipher_eq (roundKey : RoundKeys) (state : Block) :
    cipher roundKey state = (layers roundKey).encipher (nr - 1) state := by
  rw [cipher, cipherLoop_eq]
  rfl

theorem invCipher_eq (roundKey : RoundKeys) (state : Block) :
    invCipher roundKey state = (layers roundKey).decipher (nr - 1) state := by
  rw [invCipher, invCipherLoop_eq]
  rfl

theorem invCipher_cipher (roundKey : RoundKeys) (state : Block) :
    invCipher roundKey (cipher roundKey state) = state := by
  rw [invCipher_eq, cipher_eq, BlockCipher.Layers.decipher_encipher]

theorem cipher_invCipher (roundKey : RoundKeys) (state : Block) :
    cipher roundKey (invCipher roundKey state) = state := by
  rw [invCipher_eq, cipher_eq, BlockCipher.Layers.encipher_decipher]

theorem cipher_injective (roundKey : RoundKeys) : Function.Injective (cipher roundKey) :=
  Function.LeftInverse.injective (invCipher_cipher roundKey)

end Eros.Aes
