import Eros.AesModes
import Mathlib.Data.Nat.ModEq

/-!
# Counter mode of the AES library

`Iv` counts up as one big-endian number of 16 bytes.  Every byte is masked by the byte of
the key stream at its place, and under one key no block of the key stream comes twice.
-/

set_option autoImplicit false

namespace Eros.Aes

/-- The first `bytes` bytes as one number, the most significant first. -/
def ivValue : Nat → Block → Nat
  | 0, _ => 0
  | bytes + 1, iv => ivValue bytes iv * 256 + (iv[bytes]?.getD 0).toNat

theorem ivValue_lt (bytes : Nat) (iv : Block) : ivValue bytes iv < 256 ^ bytes := by
  induction bytes with
  | zero => exact Nat.one_pos
  | succ bytes ih =>
    have digit := (iv[bytes]?.getD 0).isLt
    rw [ivValue, pow_succ]
    omega

theorem ivValue_setIfInBounds {bytes place : Nat} (iv : Block) (value : Byte)
    (above : bytes ≤ place) : ivValue bytes (iv.setIfInBounds place value) = ivValue bytes iv := by
  induction bytes with
  | zero => rfl
  | succ bytes ih =>
    rw [ivValue, ivValue, ih (by omega), Vector.getElem?_setIfInBounds, if_neg (by omega)]

theorem getElem?_incrementIv {bi place : Nat} (iv : Block) (above : bi ≤ place) :
    (incrementIv bi iv)[place]? = iv[place]? := by
  induction bi generalizing iv with
  | zero => rfl
  | succ bi ih =>
    rw [incrementIv]
    split_ifs
    · rw [ih _ (by omega), Vector.getElem?_setIfInBounds, if_neg (by omega)]
    · rw [Vector.getElem?_setIfInBounds, if_neg (by omega)]

/-- A byte of 255 carries over to the byte before it. -/
theorem ivValue_incrementIv {bi : Nat} (iv : Block) (within : bi ≤ 16) :
    ivValue bi (incrementIv bi iv) = (ivValue bi iv + 1) % 256 ^ bi := by
  induction bi generalizing iv with
  | zero => simp [ivValue]
  | succ bi ih =>
    have below := ivValue_lt bi iv
    have digit := (iv[bi]?.getD 0).isLt
    rw [incrementIv]
    split_ifs with full
    · have top : (255 : Byte).toNat = 255 := rfl
      have carried : ivValue bi iv * 256 + (255 : Byte).toNat + 1 = (ivValue bi iv + 1) * 256 := by
        omega
      rw [ivValue, ih _ (by omega), getElem?_incrementIv _ le_rfl, ivValue_setIfInBounds _ _ le_rfl,
        Vector.getElem?_setIfInBounds, if_pos rfl, if_pos (by omega), ivValue, full, carried,
        pow_succ, Nat.mul_mod_mul_right]
      exact Nat.add_zero _
    · have counted : (iv[bi]?.getD 0 + 1).toNat = (iv[bi]?.getD 0).toNat + 1 := by
        have room : (iv[bi]?.getD 0).toNat ≠ 255 := fun is_ => full (BitVec.eq_of_toNat_eq is_)
        have one : (1 : Byte).toNat = 1 := rfl
        rw [BitVec.toNat_add, one]
        exact Nat.mod_eq_of_lt (by omega)
      rw [ivValue, ivValue_setIfInBounds _ _ le_rfl, Vector.getElem?_setIfInBounds, if_pos rfl,
        if_pos (by omega), Option.getD_some, counted, ivValue, pow_succ,
        Nat.mod_eq_of_lt (by omega), Nat.add_assoc]

theorem getElem?_of_ivValue {iv other : Block} {bytes : Nat}
    (same : ivValue bytes iv = ivValue bytes other) {place : Nat} (below : place < bytes) :
    iv[place]?.getD 0 = other[place]?.getD 0 := by
  induction bytes with
  | zero => exact absurd below place.not_lt_zero
  | succ bytes ih =>
    rw [ivValue, ivValue] at same
    have low := (iv[bytes]?.getD 0).isLt
    have high := (other[bytes]?.getD 0).isLt
    rcases Nat.lt_succ_iff_lt_or_eq.mp below with before | rfl
    · exact ih (by omega) before
    · exact BitVec.eq_of_toNat_eq (by omega)

theorem ivValue_injective {iv other : Block} (same : ivValue 16 iv = ivValue 16 other) :
    iv = other := by
  refine Vector.ext fun place inside => ?_
  have byte := getElem?_of_ivValue same inside
  rwa [Vector.getElem?_eq_getElem inside, Vector.getElem?_eq_getElem inside] at byte

/-- `Iv` after `count` blocks. -/
def counterAt (iv : Block) (count : Nat) : Block := (incrementIv 16)^[count] iv

theorem ivValue_counterAt (iv : Block) (count : Nat) :
    ivValue 16 (counterAt iv count) = (ivValue 16 iv + count) % 256 ^ 16 := by
  induction count with
  | zero =>
    rw [Nat.add_zero, Nat.mod_eq_of_lt (ivValue_lt 16 iv)]
    rfl
  | succ count ih =>
    rw [counterAt, Function.iterate_succ_apply', ← counterAt, ivValue_incrementIv _ le_rfl, ih,
      Nat.mod_add_mod, Nat.add_assoc]

theorem counterAt_injOn {iv : Block} {count other : Nat} (first : count < 256 ^ 16)
    (second : other < 256 ^ 16) (same : counterAt iv count = counterAt iv other) : count = other := by
  have values := congrArg (ivValue 16) same
  rw [ivValue_counterAt, ivValue_counterAt] at values
  have congruent : count ≡ other [MOD 256 ^ 16] := Nat.ModEq.add_left_cancel' _ values
  exact Nat.ModEq.eq_of_lt_of_lt congruent first second

theorem counterAt_period (iv : Block) : counterAt iv (256 ^ 16) = counterAt iv 0 := by
  refine ivValue_injective ?_
  rw [ivValue_counterAt, ivValue_counterAt, Nat.add_mod_right, Nat.add_zero]

theorem counterAt_add (iv : Block) (count more : Nat) :
    counterAt (counterAt iv count) more = counterAt iv (count + more) := by
  rw [counterAt, counterAt, counterAt, Nat.add_comm, Function.iterate_add_apply]

section KeyStream
variable (roundKey : RoundKeys)

/-- Byte `i` of the key stream from `iv` on. -/
def keyStream (iv : Block) (i : Nat) : Byte :=
  (cipher roundKey (counterAt iv (i / 16)))[i % 16]?.getD 0

/-- The byte that masks place `i` while `buffer` is in use: the buffer first, then the key
stream from `iv` on. -/
def maskAt (buffer iv : Block) (i : Nat) : Byte :=
  if i < 16 then buffer[i]?.getD 0 else keyStream roundKey iv (i - 16)

theorem maskAt_add (buffer iv : Block) (i : Nat) :
    maskAt roundKey buffer iv (i + 16) = keyStream roundKey iv i := by
  rw [maskAt, if_neg (by omega), Nat.add_sub_cancel]

theorem maskAt_refill (buffer iv : Block) (i : Nat) :
    maskAt roundKey (cipher roundKey iv) (incrementIv 16 iv) i =
      maskAt roundKey buffer iv (i + 16) := by
  rw [maskAt_add]
  by_cases within : i < 16
  · rw [maskAt, if_pos within, keyStream, Nat.div_eq_of_lt within, Nat.mod_eq_of_lt within]
    rfl
  · obtain ⟨i, rfl⟩ := Nat.exists_eq_add_of_le' (Nat.le_of_not_lt within)
    rw [maskAt_add, keyStream, keyStream, Nat.add_mod_right, Nat.add_div_right _ (by omega)]
    rfl

theorem ctrLoop_eq (bytes : List Byte) {bi : Nat} (buffer iv : Block) (started : 0 < bi)
    (within : bi ≤ 16) : ctrLoop roundKey bytes bi buffer iv =
      (counterAt iv ((bi + bytes.length - 1) / 16),
        bytes.mapIdx fun i byte => byte ^^^ maskAt roundKey buffer iv (i + bi)) := by
  induction bytes generalizing bi buffer iv with
  | nil =>
    rw [ctrLoop, List.length_nil, Nat.div_eq_of_lt (by omega)]
    rfl
  | cons byte bytes ih =>
    rw [ctrLoop, List.mapIdx_cons, List.length_cons]
    split_ifs with full
    · subst full
      have blocks : (16 + (bytes.length + 1) - 1) / 16 = (1 + bytes.length - 1) / 16 + 1 := by omega
      have first := maskAt_refill roundKey buffer iv 0
      have later := fun i => maskAt_refill roundKey buffer iv (i + 1)
      simp only [ih _ _ Nat.one_pos (by omega : 1 ≤ 16), blocks, ← first, ← later]
      simp [maskAt, counterAt]
    · have blocks : bi + (bytes.length + 1) - 1 = bi + 1 + bytes.length - 1 := by omega
      simp only [ih buffer iv bi.succ_pos (by omega : bi + 1 ≤ 16), blocks, Nat.zero_add, maskAt,
        if_pos (by omega : bi < 16), Nat.add_assoc, Nat.add_comm 1]

end KeyStream

def masked (roundKey : RoundKeys) (iv : Block) (bytes : List Byte) : List Byte :=
  bytes.mapIdx fun i byte => byte ^^^ keyStream roundKey iv i

@[simp] theorem length_masked (roundKey : RoundKeys) (iv : Block) (bytes : List Byte) :
    (masked roundKey iv bytes).length = bytes.length :=
  List.length_mapIdx

theorem masked_masked (roundKey : RoundKeys) (iv : Block) (bytes : List Byte) :
    masked roundKey iv (masked roundKey iv bytes) = bytes := by
  refine List.ext_getElem (by simp) fun i _ _ => ?_
  simp only [masked, List.getElem_mapIdx]
  rw [BitVec.xor_assoc, BitVec.xor_self, BitVec.xor_zero]

/-- A call masks the bytes of its length and leaves the others, whatever the local array
held, and has counted one block for each that it began. -/
theorem aesCtrXcryptBuffer_eq (buffer : Block) (ctx : AesCtx) {buf : List Byte} {length : Nat}
    (holds : length ≤ buf.length) : aesCtrXcryptBuffer buffer ctx buf length =
      ({ ctx with iv := counterAt ctx.iv (blocksOf length) },
        masked ctx.roundKey ctx.iv (buf.take length) ++ buf.drop length) := by
  have size : (buf.take length).length = length := List.length_take_of_le holds
  have blocks : (16 + length - 1) / 16 = blocksOf length := by
    rw [blocksOf]
    omega
  rw [aesCtrXcryptBuffer, ctrLoop_eq _ _ _ _ (by omega) le_rfl, size, blocks]
  simp only [maskAt_add, masked]

theorem BufferCall.within (call : BufferCall id) : call.length ≤ call.buf.length := call.holds

theorem length_ctrXcrypt (buffer : Block) (ctx : AesCtx) (call : BufferCall id) :
    call.length ≤ (aesCtrXcryptBuffer buffer ctx call.buf call.length).2.length := by
  rw [aesCtrXcryptBuffer_eq _ _ call.within, List.length_append, length_masked,
    List.length_take_of_le call.within]
  exact Nat.le_add_right _ _

def ctrXcryptCall (buffer : Block) (ctx : AesCtx) (call : BufferCall id) :
    AesCtx × BufferCall id :=
  ((aesCtrXcryptBuffer buffer ctx call.buf call.length).1,
    ⟨(aesCtrXcryptBuffer buffer ctx call.buf call.length).2, call.length,
      length_ctrXcrypt buffer ctx call⟩)

theorem fst_ctrXcryptCall (buffer : Block) (ctx : AesCtx) (call : BufferCall id) :
    (ctrXcryptCall buffer ctx call).1 =
      { ctx with iv := counterAt ctx.iv (blocksOf call.length) } :=
  congrArg Prod.fst (aesCtrXcryptBuffer_eq buffer ctx call.within)

theorem ctrXcrypt_ctrXcrypt (buffer other : Block) (ctx : AesCtx) {buf : List Byte} {length : Nat}
    (holds : length ≤ buf.length) :
    aesCtrXcryptBuffer other ctx (aesCtrXcryptBuffer buffer ctx buf length).2 length =
      ((aesCtrXcryptBuffer buffer ctx buf length).1, buf) := by
  have size : (masked ctx.roundKey ctx.iv (buf.take length)).length = length := by
    rw [length_masked, List.length_take_of_le holds]
  rw [aesCtrXcryptBuffer_eq buffer ctx holds, aesCtrXcryptBuffer_eq other ctx
    (by rw [List.length_append, size]; exact Nat.le_add_right _ _), List.take_left' size,
    List.drop_left' size, masked_masked, List.take_append_drop]

/-- Counter mode: a call masks each byte of its length with the key stream, in blocks that
count up from `Iv` on, and reads nothing of its uninitialised array; the same calls on a
context that starts alike restore every buffer. -/
theorem ctr_round_trip (buffer other : Block) (ctx : AesCtx) :
    (∀ call : BufferCall id, aesCtrXcryptBuffer buffer ctx call.buf call.length =
      ({ ctx with iv := counterAt ctx.iv (blocksOf call.length) },
        masked ctx.roundKey ctx.iv (call.buf.take call.length) ++ call.buf.drop call.length)) ∧
      ∀ calls : List (BufferCall id),
        runCalls (ctrXcryptCall other) ctx (runCalls (ctrXcryptCall buffer) ctx calls).2 =
          ((runCalls (ctrXcryptCall buffer) ctx calls).1, calls) := by
  refine ⟨fun call => aesCtrXcryptBuffer_eq buffer ctx call.within,
    runCalls_undo (fun ctx call => ?_) ctx⟩
  simp only [ctrXcryptCall, ctrXcrypt_ctrXcrypt buffer other ctx call.within]

/-! ### No block of the key stream twice -/

/-- The first `count` blocks of the key stream from `iv` on. -/
def streamBlocks (roundKey : RoundKeys) (iv : Block) (count : Nat) : List Block :=
  (List.range count).map fun block => cipher roundKey (counterAt iv block)

/-- The blocks of key stream that the calls of a run use. -/
def runStream (buffer : Block) : AesCtx → List (BufferCall id) → List Block
  | _, [] => []
  | ctx, first :: calls =>
      streamBlocks ctx.roundKey ctx.iv (blocksOf first.length) ++
        runStream buffer (ctrXcryptCall buffer ctx first).1 calls

def blocksBegun (calls : List (BufferCall id)) : Nat := (calls.map fun call => blocksOf call.length).sum

theorem streamBlocks_append (roundKey : RoundKeys) (iv : Block) (count more : Nat) :
    streamBlocks roundKey iv count ++ streamBlocks roundKey (counterAt iv count) more =
      streamBlocks roundKey iv (count + more) := by
  simp only [streamBlocks, List.range_add, List.map_append, List.map_map, Function.comp_def,
    counterAt_add]

theorem runStream_eq (buffer : Block) (ctx : AesCtx) (calls : List (BufferCall id)) :
    runStream buffer ctx calls = streamBlocks ctx.roundKey ctx.iv (blocksBegun calls) := by
  induction calls generalizing ctx with
  | nil => rfl
  | cons first calls ih =>
    rw [runStream, ih, fst_ctrXcryptCall, streamBlocks_append]
    rfl

/-- Over any run of calls on one context no block of the key stream is used twice, until
the counter has gone through all of its values. -/
theorem ctr_stream_never_repeats_iff (buffer : Block) (ctx : AesCtx) (calls : List (BufferCall id)) :
    (runStream buffer ctx calls).Nodup ↔ blocksBegun calls ≤ 256 ^ 16 := by
  rw [runStream_eq, streamBlocks, List.nodup_map_iff_inj_on List.nodup_range]
  constructor
  · intro injective
    by_contra many
    have all : 0 < 256 ^ 16 := Nat.pow_pos (by omega)
    have again := injective 0 (List.mem_range.mpr (by omega)) (256 ^ 16)
      (List.mem_range.mpr (by omega)) (by rw [counterAt_period])
    omega
  · intro few x inside y within same
    rw [List.mem_range] at inside within
    exact counterAt_injOn (by omega) (by omega) (cipher_injective ctx.roundKey same)

end Eros.Aes
