import Eros.AesKeys

/-!
# The buffer functions of the AES library

A context keeps the round keys and the block that the next call starts from.  Reading the
buffers back in the order they were written restores every one of them, in chained and
in counter mode, and in counter mode no two blocks of key stream are the same.
-/

set_option autoImplicit false

namespace Eros.Aes

structure AesCtx where
  roundKey : RoundKeys
  iv : Block

def aesInitCtx (ctx : AesCtx) (key : Block) : AesCtx :=
  { ctx with roundKey := keyExpansion ctx.roundKey key }

def aesInitCtxIv (ctx : AesCtx) (key iv : Block) : AesCtx :=
  { ctx with roundKey := keyExpansion ctx.roundKey key, iv := iv }

def aesCtxSetIv (ctx : AesCtx) (iv : Block) : AesCtx := { ctx with iv := iv }

def aesEcbEncrypt (ctx : AesCtx) (buf : Block) : Block := cipher ctx.roundKey buf

def aesEcbDecrypt (ctx : AesCtx) (buf : Block) : Block := invCipher ctx.roundKey buf

def xorWithIv (buf iv : Block) : Block := Vector.zipWith (· ^^^ ·) buf iv

/-- The block at the head of the buffer. -/
def blockAt (buf : List Byte) : Block := Vector.ofFn fun k => buf[k.val]?.getD 0

/-- The number of steps of `for (i = 0; i < length; i += AES_BLOCKLEN)`. -/
def blocksOf (length : Nat) : Nat := (length + 15) / 16

section Loops
variable (roundKey : RoundKeys)

/-- `iv` is the block the pointer `Iv` stands on: that of the context, then the one before. -/
def cbcEncryptLoop : Nat → Block → List Byte → Block × List Byte
  | 0, iv, buf => (iv, buf)
  | blocks + 1, iv, buf =>
      let block := cipher roundKey (xorWithIv (blockAt buf) iv)
      let rest := cbcEncryptLoop blocks block (buf.drop 16)
      (rest.1, block.toList ++ rest.2)

def cbcDecryptLoop : Nat → Block → List Byte → Block × List Byte
  | 0, iv, buf => (iv, buf)
  | blocks + 1, iv, buf =>
      let storeNextIv := blockAt buf
      let block := xorWithIv (invCipher roundKey (blockAt buf)) iv
      let rest := cbcDecryptLoop blocks storeNextIv (buf.drop 16)
      (rest.1, block.toList ++ rest.2)

/-- The increment of `Iv` from byte `bi - 1` down. -/
def incrementIv : Nat → Block → Block
  | 0, iv => iv
  | bi + 1, iv =>
      if iv[bi]?.getD 0 = 255 then incrementIv bi (iv.setIfInBounds bi 0)
      else iv.setIfInBounds bi (iv[bi]?.getD 0 + 1)

/-- The loop over the bytes: `bi` is the place in `buffer`, which is filled anew at its end. -/
def ctrLoop : List Byte → Nat → Block → Block → Block × List Byte
  | [], _, _, iv => (iv, [])
  | byte :: bytes, bi, buffer, iv =>
      if bi = 16 then
        let buffer := cipher roundKey iv
        let rest := ctrLoop bytes 1 buffer (incrementIv 16 iv)
        (rest.1, (byte ^^^ buffer[0]) :: rest.2)
      else
        let rest := ctrLoop bytes (bi + 1) buffer iv
        (rest.1, (byte ^^^ buffer[bi]?.getD 0) :: rest.2)

end Loops

def aesCbcEncryptBuffer (ctx : AesCtx) (buf : List Byte) (length : Nat) : AesCtx × List Byte :=
  let done := cbcEncryptLoop ctx.roundKey (blocksOf length) ctx.iv buf
  ({ ctx with iv := done.1 }, done.2)

def aesCbcDecryptBuffer (ctx : AesCtx) (buf : List Byte) (length : Nat) : AesCtx × List Byte :=
  let done := cbcDecryptLoop ctx.roundKey (blocksOf length) ctx.iv buf
  ({ ctx with iv := done.1 }, done.2)

/-- `buffer` is the local array with whatever the stack held. -/
def aesCtrXcryptBuffer (buffer : Block) (ctx : AesCtx) (buf : List Byte) (length : Nat) :
    AesCtx × List Byte :=
  let done := ctrLoop ctx.roundKey (buf.take length) 16 buffer ctx.iv
  ({ ctx with iv := done.1 }, done.2 ++ buf.drop length)

/-- Under every context the two functions on a block undo each other. -/
theorem ecb_round_trip (ctx : AesCtx) (buf : Block) :
    aesEcbDecrypt ctx (aesEcbEncrypt ctx buf) = buf ∧
      aesEcbEncrypt ctx (aesEcbDecrypt ctx buf) = buf :=
  ⟨invCipher_cipher ctx.roundKey buf, cipher_invCipher ctx.roundKey buf⟩

def blankCtx : AesCtx := ⟨Vector.replicate 176 0, Vector.replicate 16 0⟩

/-- The key, the plain text and the cipher text of `test_encrypt_ecb`. -/
example : aesEcbEncrypt (aesInitCtx blankCtx
      #v[0x2b, 0x7e, 0x15, 0x16, 0x28, 0xae, 0xd2, 0xa6, 0xab, 0xf7, 0x15, 0x88, 0x09, 0xcf, 0x4f,
        0x3c])
    #v[0x6b, 0xc1, 0xbe, 0xe2, 0x2e, 0x40, 0x9f, 0x96, 0xe9, 0x3d, 0x7e, 0x11, 0x73, 0x93, 0x17,
      0x2a] =
    #v[0x3a, 0xd7, 0x7b, 0xb4, 0x0d, 0x7a, 0x36, 0x60, 0xa8, 0x9e, 0xca, 0xf3, 0x24, 0x66, 0xef,
      0x97] := by
  decide +kernel

/-! ### Buffers as blocks -/

def bytesOf (blocks : List Block) : List Byte := blocks.flatMap Vector.toList

theorem blockAt_append (block : Block) (rest : List Byte) : blockAt (block.toList ++ rest) = block := by
  refine Vector.ext fun k inside => ?_
  have within : k < block.toList.length := by simpa using inside
  rw [blockAt, Vector.getElem_ofFn, List.getElem?_append_left within,
    List.getElem?_eq_getElem within, Option.getD_some, Vector.getElem_toList]

theorem drop_append (block : Block) (rest : List Byte) : (block.toList ++ rest).drop 16 = rest :=
  List.drop_left' (Vector.length_toList)

theorem exists_blocks (count : Nat) (buf : List Byte) (holds : 16 * count ≤ buf.length) :
    ∃ blocks tail, blocks.length = count ∧ buf = bytesOf blocks ++ tail := by
  induction count generalizing buf with
  | zero => exact ⟨[], buf, rfl, rfl⟩
  | succ count ih =>
    obtain ⟨blocks, tail, length, rest⟩ := ih (buf.drop 16) (by rw [List.length_drop]; omega)
    have size : (buf.take 16).toArray.size = 16 := by simp; omega
    refine ⟨⟨(buf.take 16).toArray, size⟩ :: blocks, tail, by simp [length], ?_⟩
    rw [bytesOf, List.flatMap_cons, List.append_assoc, ← bytesOf, ← rest]
    exact (List.take_append_drop 16 buf).symm

theorem xorWithIv_xorWithIv (block key : Block) : xorWithIv (xorWithIv block key) key = block := by
  refine Vector.ext fun k inside => ?_
  simp only [xorWithIv, Vector.getElem_zipWith, BitVec.xor_assoc, BitVec.xor_self, BitVec.xor_zero]

section Chained
variable (roundKey : RoundKeys)

def chained (iv : Block) (blocks : List Block) : List Block :=
  BlockCipher.chain xorWithIv (cipher roundKey) iv blocks

def unchained (iv : Block) (blocks : List Block) : List Block :=
  BlockCipher.unchain xorWithIv (invCipher roundKey) iv blocks

theorem unchained_chained (iv : Block) (blocks : List Block) :
    unchained roundKey iv (chained roundKey iv blocks) = blocks :=
  BlockCipher.unchain_chain xorWithIv_xorWithIv (invCipher_cipher roundKey) iv blocks

@[simp] theorem length_chained (iv : Block) (blocks : List Block) :
    (chained roundKey iv blocks).length = blocks.length :=
  BlockCipher.length_chain _ _ _ _

@[simp] theorem length_unchained (iv : Block) (blocks : List Block) :
    (unchained roundKey iv blocks).length = blocks.length :=
  BlockCipher.length_unchain _ _ _ _

theorem cbcEncryptLoop_eq (iv : Block) (blocks : List Block) (tail : List Byte) :
    cbcEncryptLoop roundKey blocks.length iv (bytesOf blocks ++ tail) =
      ((chained roundKey iv blocks).getLastD iv, bytesOf (chained roundKey iv blocks) ++ tail) := by
  induction blocks generalizing iv with
  | nil => rfl
  | cons block blocks ih =>
    rw [List.length_cons, cbcEncryptLoop, bytesOf, List.flatMap_cons, List.append_assoc,
      blockAt_append, drop_append, ← bytesOf, ih]
    simp only [chained, BlockCipher.chain, List.getLastD_cons, bytesOf, List.flatMap_cons,
      List.append_assoc]

theorem cbcDecryptLoop_eq (iv : Block) (blocks : List Block) (tail : List Byte) :
    cbcDecryptLoop roundKey blocks.length iv (bytesOf blocks ++ tail) =
      (blocks.getLastD iv, bytesOf (unchained roundKey iv blocks) ++ tail) := by
  induction blocks generalizing iv with
  | nil => rfl
  | cons block blocks ih =>
    rw [List.length_cons, cbcDecryptLoop, bytesOf, List.flatMap_cons, List.append_assoc,
      blockAt_append, drop_append, ← bytesOf, ih]
    simp only [unchained, BlockCipher.unchain, List.getLastD_cons, bytesOf, List.flatMap_cons,
      List.append_assoc]

end Chained

/-! ### Runs of calls -/

/-- A call whose buffer holds the bytes that a length stands for. -/
structure BufferCall (extent : Nat → Nat) where
  buf : List Byte
  length : Nat
  holds : extent length ≤ buf.length

/-- One call after the other on the same context, each on a buffer of its own. -/
def runCalls {extent : Nat → Nat} (call : AesCtx → BufferCall extent → AesCtx × BufferCall extent) :
    AesCtx → List (BufferCall extent) → AesCtx × List (BufferCall extent)
  | ctx, [] => (ctx, [])
  | ctx, first :: calls =>
      let done := call ctx first
      let rest := runCalls call done.1 calls
      (rest.1, done.2 :: rest.2)

theorem runCalls_undo {extent : Nat → Nat}
    {call undo : AesCtx → BufferCall extent → AesCtx × BufferCall extent}
    (undoes : ∀ ctx first, undo ctx (call ctx first).2 = ((call ctx first).1, first))
    (ctx : AesCtx) (calls : List (BufferCall extent)) :
    runCalls undo ctx (runCalls call ctx calls).2 = ((runCalls call ctx calls).1, calls) := by
  induction calls generalizing ctx with
  | nil => rfl
  | cons first calls ih => simp only [runCalls, undoes, ih]

/-- The bytes that the chained functions touch: whole blocks. -/
def wholeBlocks (length : Nat) : Nat := 16 * blocksOf length

theorem length_bytesOf (blocks : List Block) : (bytesOf blocks).length = 16 * blocks.length := by
  induction blocks with
  | nil => rfl
  | cons block blocks ih =>
    rw [bytesOf, List.flatMap_cons, List.length_append, ← bytesOf, ih, Vector.length_toList,
      List.length_cons]
    omega

theorem length_cbcEncrypt (ctx : AesCtx) (call : BufferCall wholeBlocks) :
    wholeBlocks call.length ≤ (aesCbcEncryptBuffer ctx call.buf call.length).2.length := by
  obtain ⟨blocks, tail, count, whole⟩ := exists_blocks _ _ call.holds
  rw [aesCbcEncryptBuffer, whole, ← count, cbcEncryptLoop_eq, wholeBlocks, ← count]
  simp [length_bytesOf]

theorem length_cbcDecrypt (ctx : AesCtx) (call : BufferCall wholeBlocks) :
    wholeBlocks call.length ≤ (aesCbcDecryptBuffer ctx call.buf call.length).2.length := by
  obtain ⟨blocks, tail, count, whole⟩ := exists_blocks _ _ call.holds
  rw [aesCbcDecryptBuffer, whole, ← count, cbcDecryptLoop_eq, wholeBlocks, ← count]
  simp [length_bytesOf]

def cbcEncryptCall (ctx : AesCtx) (call : BufferCall wholeBlocks) :
    AesCtx × BufferCall wholeBlocks :=
  ((aesCbcEncryptBuffer ctx call.buf call.length).1,
    ⟨(aesCbcEncryptBuffer ctx call.buf call.length).2, call.length, length_cbcEncrypt ctx call⟩)

def cbcDecryptCall (ctx : AesCtx) (call : BufferCall wholeBlocks) :
    AesCtx × BufferCall wholeBlocks :=
  ((aesCbcDecryptBuffer ctx call.buf call.length).1,
    ⟨(aesCbcDecryptBuffer ctx call.buf call.length).2, call.length, length_cbcDecrypt ctx call⟩)

theorem cbcDecrypt_cbcEncrypt (ctx : AesCtx) (buf : List Byte) (length : Nat)
    (holds : wholeBlocks length ≤ buf.length) :
    aesCbcDecryptBuffer ctx (aesCbcEncryptBuffer ctx buf length).2 length =
      ((aesCbcEncryptBuffer ctx buf length).1, buf) := by
  obtain ⟨blocks, tail, count, rfl⟩ := exists_blocks _ _ holds
  have decrypted := cbcDecryptLoop_eq ctx.roundKey ctx.iv (chained ctx.roundKey ctx.iv blocks) tail
  rw [length_chained, unchained_chained] at decrypted
  rw [aesCbcDecryptBuffer, aesCbcEncryptBuffer, ← count, cbcEncryptLoop_eq, decrypted]

theorem blocksOf_add (count length : Nat) : blocksOf (16 * count + length) = count + blocksOf length := by
  rw [blocksOf, blocksOf]
  omega

theorem chained_append (roundKey : RoundKeys) (iv : Block) (blocks more : List Block) :
    chained roundKey iv (blocks ++ more) = chained roundKey iv blocks ++
      chained roundKey ((chained roundKey iv blocks).getLastD iv) more :=
  BlockCipher.chain_append _ _ _ _ _

theorem cbcEncrypt_append (ctx : AesCtx) (first second : List Byte) (count length : Nat)
    (whole : first.length = 16 * count) (holds : wholeBlocks length ≤ second.length) :
    aesCbcEncryptBuffer ctx (first ++ second) (first.length + length) =
      ((aesCbcEncryptBuffer (aesCbcEncryptBuffer ctx first first.length).1 second length).1,
        (aesCbcEncryptBuffer ctx first first.length).2 ++
          (aesCbcEncryptBuffer (aesCbcEncryptBuffer ctx first first.length).1 second length).2) := by
  obtain ⟨blocks, rest, rfl, rfl⟩ := exists_blocks count first whole.ge
  obtain ⟨more, tail, total, rfl⟩ := exists_blocks _ _ holds
  obtain rfl : rest = [] := by
    rw [List.length_append, length_bytesOf] at whole
    exact List.length_eq_zero_iff.mp (by omega)
  have one := cbcEncryptLoop_eq ctx.roundKey ctx.iv blocks []
  have two := cbcEncryptLoop_eq ctx.roundKey ((chained ctx.roundKey ctx.iv blocks).getLastD ctx.iv)
    more tail
  have both := cbcEncryptLoop_eq ctx.roundKey ctx.iv (blocks ++ more) tail
  rw [List.length_append, chained_append] at both
  have exact_ : blocksOf (16 * blocks.length) = blocks.length := blocksOf_add blocks.length 0
  simp only [aesCbcEncryptBuffer, whole, blocksOf_add, exact_, one, ← total, two]
  simp only [bytesOf, List.append_nil, List.flatMap_append, List.append_assoc] at both ⊢
  rw [both]
  simp

/-- Chained mode: the buffers of any run of calls are read back byte for byte by the same
calls on a context that starts alike, and both contexts end alike; and it makes no
difference whether a text comes in one call or in several of whole blocks. -/
theorem cbc_round_trip (ctx : AesCtx) :
    (∀ calls : List (BufferCall wholeBlocks),
      runCalls cbcDecryptCall ctx (runCalls cbcEncryptCall ctx calls).2 =
        ((runCalls cbcEncryptCall ctx calls).1, calls)) ∧
      ∀ (first second : List Byte) (count length : Nat), first.length = 16 * count →
        wholeBlocks length ≤ second.length →
        aesCbcEncryptBuffer ctx (first ++ second) (first.length + length) =
          ((aesCbcEncryptBuffer (aesCbcEncryptBuffer ctx first first.length).1 second length).1,
            (aesCbcEncryptBuffer ctx first first.length).2 ++
              (aesCbcEncryptBuffer (aesCbcEncryptBuffer ctx first first.length).1 second
                length).2) := by
  refine ⟨runCalls_undo (fun ctx call => ?_) ctx, cbcEncrypt_append ctx⟩
  simp only [cbcDecryptCall, cbcEncryptCall, cbcDecrypt_cbcEncrypt ctx call.buf call.length call.holds]

/-! ### A spoiled block -/

/-- The byte that `i` is masked with once its block is deciphered. -/
def maskBefore (iv : Block) (buf : List Byte) (i : Nat) : Byte :=
  if i < 16 then iv[i]?.getD 0 else buf[i - 16]?.getD 0

def decipheredByte (roundKey : RoundKeys) (buf : List Byte) (i : Nat) : Byte :=
  (invCipher roundKey (blockAt (buf.drop (16 * (i / 16)))))[i % 16]?.getD 0

theorem maskBefore_drop (iv : Block) (buf : List Byte) (i : Nat) :
    maskBefore (blockAt buf) (buf.drop 16) i = maskBefore iv buf (i + 16) := by
  rw [maskBefore, maskBefore, if_neg (by omega : ¬i + 16 < 16), Nat.add_sub_cancel]
  by_cases head : i < 16
  · rw [if_pos head, Vector.getElem?_eq_getElem head, Option.getD_some, blockAt,
      Vector.getElem_ofFn]
  · rw [if_neg head, List.getElem?_drop, Nat.add_sub_cancel' (by omega)]

theorem decipheredByte_drop (roundKey : RoundKeys) (buf : List Byte) (i : Nat) :
    decipheredByte roundKey (buf.drop 16) i = decipheredByte roundKey buf (i + 16) := by
  rw [decipheredByte, decipheredByte, List.drop_drop, Nat.add_mod_right,
    Nat.add_div_right _ (by omega), Nat.mul_succ, Nat.add_comm]

theorem getElem?_cbcDecryptLoop (roundKey : RoundKeys) (count : Nat) (iv : Block) (buf : List Byte)
    (i : Nat) : (cbcDecryptLoop roundKey count iv buf).2[i]? =
      if i < 16 * count then some (decipheredByte roundKey buf i ^^^ maskBefore iv buf i)
      else buf[i]? := by
  induction count generalizing iv buf i with
  | zero => rfl
  | succ count ih =>
    rw [cbcDecryptLoop]
    rcases Nat.lt_or_ge i 16 with head | later
    · rw [if_pos (by omega), List.getElem?_append_left (by simpa using head),
        List.getElem?_eq_getElem (by simpa using head), Vector.getElem_toList, decipheredByte,
        maskBefore, if_pos head, Nat.div_eq_of_lt head, Nat.mod_eq_of_lt head, List.drop_zero]
      simp [xorWithIv, head]
    · obtain ⟨i, rfl⟩ := Nat.exists_eq_add_of_le' later
      rw [List.getElem?_append_right (by simp), Vector.length_toList, ih,
        Nat.add_sub_cancel, decipheredByte_drop, maskBefore_drop iv, List.getElem?_drop,
        Nat.add_comm 16 i]
      congr 1
      simp only [eq_iff_iff]
      omega

theorem fst_cbcDecryptLoop (roundKey : RoundKeys) (count : Nat) (iv : Block) (buf : List Byte) :
    (cbcDecryptLoop roundKey count iv buf).1 =
      if count = 0 then iv else blockAt (buf.drop (16 * (count - 1))) := by
  induction count generalizing iv buf with
  | zero => rfl
  | succ count ih =>
    rw [cbcDecryptLoop, ih, if_neg count.succ_ne_zero, List.drop_drop]
    rcases Nat.eq_zero_or_pos count with rfl | several
    · rfl
    · rw [if_neg (by omega)]
      congr 2
      omega

section Spoiled
variable {good spoiled : List Byte} {block : Nat}

theorem blockAt_of_same (same : ∀ i, i / 16 ≠ block → spoiled[i]? = good[i]?) {other : Nat}
    (elsewhere : other ≠ block) :
    blockAt (spoiled.drop (16 * other)) = blockAt (good.drop (16 * other)) := by
  refine Vector.ext fun k inside => ?_
  rw [blockAt, blockAt, Vector.getElem_ofFn, Vector.getElem_ofFn, List.getElem?_drop,
    List.getElem?_drop, same _ (by omega)]

theorem decipheredByte_of_same (same : ∀ i, i / 16 ≠ block → spoiled[i]? = good[i]?)
    (roundKey : RoundKeys) {i : Nat} (elsewhere : i / 16 ≠ block) :
    decipheredByte roundKey spoiled i = decipheredByte roundKey good i := by
  rw [decipheredByte, decipheredByte, blockAt_of_same same elsewhere]

theorem maskBefore_of_same (same : ∀ i, i / 16 ≠ block → spoiled[i]? = good[i]?) (iv : Block)
    {i : Nat} (elsewhere : i / 16 ≠ block + 1) : maskBefore iv spoiled i = maskBefore iv good i := by
  rw [maskBefore, maskBefore]
  by_cases head : i < 16
  · rw [if_pos head, if_pos head]
  · rw [if_neg head, if_neg head, same _ (by omega)]

/-- A spoiled block spoils itself and turns over the same bits in the next one; all
other bytes are read back as if nothing had happened, in this call and in those after. -/
theorem cbc_decryption_recovers (ctx : AesCtx) (length : Nat)
    (same : ∀ i, i / 16 ≠ block → spoiled[i]? = good[i]?) :
    (∀ i, i / 16 ≠ block → i / 16 ≠ block + 1 → (aesCbcDecryptBuffer ctx spoiled length).2[i]? =
        (aesCbcDecryptBuffer ctx good length).2[i]?) ∧
      (∀ i, i / 16 = block + 1 → i < wholeBlocks length →
        (aesCbcDecryptBuffer ctx spoiled length).2[i]? =
          ((aesCbcDecryptBuffer ctx good length).2[i]?).map fun byte =>
            byte ^^^ (good[i - 16]?.getD 0 ^^^ spoiled[i - 16]?.getD 0)) ∧
      (block + 1 ≠ blocksOf length → (aesCbcDecryptBuffer ctx spoiled length).1 =
        (aesCbcDecryptBuffer ctx good length).1) := by
  refine ⟨fun i apart later => ?_, fun i next inside => ?_, fun earlier => ?_⟩
  · simp only [aesCbcDecryptBuffer, getElem?_cbcDecryptLoop, same i apart,
      decipheredByte_of_same same _ apart, maskBefore_of_same same _ later]
  · rw [wholeBlocks] at inside
    simp only [aesCbcDecryptBuffer, getElem?_cbcDecryptLoop, if_pos inside, Option.map_some,
      decipheredByte_of_same same ctx.roundKey (by omega : i / 16 ≠ block), maskBefore,
      if_neg (by omega : ¬i < 16)]
    rw [BitVec.xor_assoc, ← BitVec.xor_assoc (good[i - 16]?.getD 0), BitVec.xor_self,
      BitVec.zero_xor]
  · simp only [aesCbcDecryptBuffer, fst_cbcDecryptLoop]
    rcases Nat.eq_zero_or_pos (blocksOf length) with none_ | some_
    · rw [none_, if_pos rfl, if_pos rfl]
    · rw [blockAt_of_same same (by omega : blocksOf length - 1 ≠ block)]

/-- The first of three blocks has a bit turned over. -/
theorem cbc_decryption_recovers_of_lost_bit :
    (aesCbcDecryptBuffer blankCtx (1 :: List.replicate 47 0) 48).1 =
      (aesCbcDecryptBuffer blankCtx (List.replicate 48 0) 48).1 := by
  have same : ∀ i, i / 16 ≠ 0 → (1 :: List.replicate 47 (0 : Byte))[i]? =
      (List.replicate 48 (0 : Byte))[i]? := by
    intro i apart
    obtain ⟨i, rfl⟩ := Nat.exists_eq_add_of_le' (by omega : 1 ≤ i)
    rfl
  exact (cbc_decryption_recovers blankCtx 48 same).2.2 (by decide)

end Spoiled

end Eros.Aes
