import Eros.Aes

/-!
# The round keys of the AES library

The expansion writes every word of the round keys from the key alone, and each window of
four words can be run backwards, so that any one round key gives the key away.
-/

set_option autoImplicit false

namespace Eros.Aes

def rcon : Vector Byte 11 :=
  #v[0x8d, 0x01, 0x02, 0x04, 0x08, 0x10, 0x20, 0x40, 0x80, 0x1b, 0x36]

/-- The four bytes of `tempa`. -/
abbrev Word := Vector Byte 4

def rotWord (tempa : Word) : Word := #v[tempa[1], tempa[2], tempa[3], tempa[0]]

def subWord (tempa : Word) : Word := tempa.map getSBoxValue

def keyByte (roundKey : RoundKeys) (k : Nat) : Byte := roundKey[k]?.getD 0

def putWord (roundKey : RoundKeys) (j : Nat) (word : Word) : RoundKeys :=
  let roundKey := roundKey.setIfInBounds (j + 0) word[0]
  let roundKey := roundKey.setIfInBounds (j + 1) word[1]
  let roundKey := roundKey.setIfInBounds (j + 2) word[2]
  roundKey.setIfInBounds (j + 3) word[3]

/-- One step of the first loop of `keyExpansion`. -/
def copyWord (key : Block) (roundKey : RoundKeys) (i : Nat) : RoundKeys :=
  putWord roundKey (i * 4) #v[key[i * 4 + 0]?.getD 0, key[i * 4 + 1]?.getD 0,
    key[i * 4 + 2]?.getD 0, key[i * 4 + 3]?.getD 0]

/-- What the second loop makes of the word before. -/
def stirWord (i : Nat) (tempa : Word) : Word :=
  if i % nk = 0 then
    let tempa := subWord (rotWord tempa)
    tempa.set 0 (tempa[0] ^^^ rcon[i / nk]?.getD 0)
  else tempa

def expandWord (roundKey : RoundKeys) (i : Nat) : RoundKeys :=
  let k := (i - 1) * 4
  let tempa := stirWord i #v[keyByte roundKey (k + 0), keyByte roundKey (k + 1),
    keyByte roundKey (k + 2), keyByte roundKey (k + 3)]
  let k := (i - nk) * 4
  -- the four bytes read lie below all four that are written
  putWord roundKey (i * 4) #v[keyByte roundKey (k + 0) ^^^ tempa[0],
    keyByte roundKey (k + 1) ^^^ tempa[1], keyByte roundKey (k + 2) ^^^ tempa[2],
    keyByte roundKey (k + 3) ^^^ tempa[3]]

def keyExpansion (roundKey : RoundKeys) (key : Block) : RoundKeys :=
  (List.range' nk (nb * (nr + 1) - nk)).foldl expandWord
    ((List.range nk).foldl (copyWord key) roundKey)

/-- Word `i` of the round keys; words `4 * round` to `4 * round + 3` are one round key. -/
def wordAt (roundKey : RoundKeys) (i : Nat) : Word := Vector.ofFn fun c => keyByte roundKey (4 * i + c)

def keyWord (key : Block) (i : Nat) : Word := Vector.ofFn fun c => key[4 * i + c]?.getD 0

theorem keyByte_putWord (roundKey : RoundKeys) (word : Word) {j k : Nat} (inside : k < 176) :
    keyByte (putWord roundKey j word) k =
      if k = j + 3 then word[3] else if k = j + 2 then word[2] else if k = j + 1 then word[1]
      else if k = j then word[0] else keyByte roundKey k := by
  simp only [keyByte, putWord, Vector.getElem?_setIfInBounds]
  split_ifs <;> first | rfl | omega

theorem wordAt_putWord (roundKey : RoundKeys) (word : Word) {i other : Nat}
    (within : other < 44) : wordAt (putWord roundKey (i * 4) word) other =
      if i = other then word else wordAt roundKey other := by
  by_cases same : i = other
  · subst same
    rw [if_pos rfl]
    refine Vector.ext fun c below => ?_
    simp only [wordAt, Vector.getElem_ofFn, keyByte_putWord _ _ (by omega : 4 * i + c < 176)]
    interval_cases c <;> simp [Nat.mul_comm]
  · rw [if_neg same]
    refine Vector.ext fun c below => ?_
    simp only [wordAt, Vector.getElem_ofFn, keyByte_putWord _ _ (by omega : 4 * other + c < 176)]
    rw [if_neg (by omega), if_neg (by omega), if_neg (by omega), if_neg (by omega)]

def maskWord (word key : Word) : Word := Vector.zipWith (· ^^^ ·) word key

theorem maskWord_cancel (word other key : Word) (same : maskWord word key = maskWord other key) :
    word = other := by
  refine Vector.ext fun c below => ?_
  have byte := congrArg (fun masked : Word => masked[c] ^^^ key[c]) same
  simpa only [maskWord, Vector.getElem_zipWith, BitVec.xor_assoc, BitVec.xor_self,
    BitVec.xor_zero] using byte

theorem bytes_eq_wordAt (roundKey : RoundKeys) (k : Nat) :
    #v[keyByte roundKey (k * 4 + 0), keyByte roundKey (k * 4 + 1), keyByte roundKey (k * 4 + 2),
      keyByte roundKey (k * 4 + 3)] = wordAt roundKey k := by
  refine Vector.ext fun c below => ?_
  interval_cases c <;> simp [wordAt, Nat.mul_comm]

theorem bytes_eq_maskWord (roundKey : RoundKeys) (k : Nat) (tempa : Word) :
    #v[keyByte roundKey (k * 4 + 0) ^^^ tempa[0], keyByte roundKey (k * 4 + 1) ^^^ tempa[1],
      keyByte roundKey (k * 4 + 2) ^^^ tempa[2], keyByte roundKey (k * 4 + 3) ^^^ tempa[3]] =
      maskWord (wordAt roundKey k) tempa := by
  refine Vector.ext fun c below => ?_
  interval_cases c <;> simp [maskWord, wordAt, Nat.mul_comm]

theorem wordAt_copyWord (key : Block) (roundKey : RoundKeys) {i other : Nat} (within : other < 44) :
    wordAt (copyWord key roundKey i) other =
      if i = other then keyWord key i else wordAt roundKey other := by
  have copied : copyWord key roundKey i = putWord roundKey (i * 4) (keyWord key i) := by
    rw [copyWord]
    congr 1
    refine Vector.ext fun c below => ?_
    interval_cases c <;> simp [keyWord, Nat.mul_comm]
  rw [copied, wordAt_putWord _ _ within]

theorem wordAt_expandWord (roundKey : RoundKeys) {i other : Nat} (within : other < 44) :
    wordAt (expandWord roundKey i) other =
      if i = other then maskWord (wordAt roundKey (i - 4)) (stirWord i (wordAt roundKey (i - 1)))
      else wordAt roundKey other := by
  have expanded : expandWord roundKey i = putWord roundKey (i * 4)
      (maskWord (wordAt roundKey (i - 4)) (stirWord i (wordAt roundKey (i - 1)))) := by
    rw [← bytes_eq_maskWord, ← bytes_eq_wordAt]
    rfl
  rw [expanded, wordAt_putWord _ _ within]

theorem wordAt_foldl_copyWord (key : Block) (roundKey : RoundKeys) (words : Nat) {i : Nat}
    (within : i < 44) : wordAt ((List.range words).foldl (copyWord key) roundKey) i =
      if i < words then keyWord key i else wordAt roundKey i := by
  induction words with
  | zero => rfl
  | succ words ih =>
    rw [List.range_succ, List.foldl_append, List.foldl_cons, List.foldl_nil,
      wordAt_copyWord _ _ within, ih]
    by_cases last : words = i
    · rw [if_pos last, if_pos (by omega), last]
    · rw [if_neg last]
      congr 1
      simp only [eq_iff_iff]
      omega

theorem wordAt_foldl_expandWord_of_done (roundKey : RoundKeys) (start steps : Nat) {i : Nat}
    (within : i < 44) (done : i < start) :
    wordAt ((List.range' start steps).foldl expandWord roundKey) i = wordAt roundKey i := by
  induction steps generalizing start roundKey with
  | zero => rfl
  | succ steps ih =>
    rw [List.range'_succ, List.foldl_cons, ih _ _ (by omega), wordAt_expandWord _ within,
      if_neg (by omega)]

/-- The second loop: the words it has written stay, so that they obey the schedule. -/
theorem schedule_foldl_expandWord (roundKey : RoundKeys) (steps : Nat) (within : 4 + steps ≤ 44) :
    BlockCipher.Schedule maskWord stirWord 4 (4 + steps)
      (wordAt ((List.range' 4 steps).foldl expandWord roundKey)) := by
  induction steps with
  | zero => exact fun at_ low high => absurd high (by omega)
  | succ steps ih =>
    intro at_ low high
    rw [List.range'_1_concat, List.foldl_append, List.foldl_cons, List.foldl_nil,
      wordAt_expandWord _ (by omega), wordAt_expandWord _ (by omega : at_ - 4 < 44),
      wordAt_expandWord _ (by omega : at_ - 1 < 44)]
    rw [if_neg (by omega : ¬4 + steps = at_ - 4), if_neg (by omega : ¬4 + steps = at_ - 1)]
    by_cases last : 4 + steps = at_
    · rw [if_pos last, last]
    · rw [if_neg last]
      exact ih (by omega) at_ low (by omega)

theorem ext_wordAt {roundKey other : RoundKeys} (same : ∀ i < 44, wordAt roundKey i = wordAt other i) :
    roundKey = other := by
  refine Vector.ext fun k inside => ?_
  have byte := congrArg (fun word : Word => word[k % 4]) (same (k / 4) (by omega))
  simpa only [wordAt, keyByte, Vector.getElem_ofFn, Nat.div_add_mod,
    Vector.getElem?_eq_getElem inside, Option.getD_some] using byte

theorem ext_keyWord {key other : Block} (same : ∀ i < 4, keyWord key i = keyWord other i) :
    key = other := by
  refine Vector.ext fun k inside => ?_
  have byte := congrArg (fun word : Word => word[k % 4]) (same (k / 4) (by omega))
  simpa only [keyWord, Vector.getElem_ofFn, Nat.div_add_mod,
    Vector.getElem?_eq_getElem inside, Option.getD_some] using byte

section KeyExpansion
variable (roundKey : RoundKeys) (key : Block)

theorem wordAt_keyExpansion_of_key {i : Nat} (below : i < 4) :
    wordAt (keyExpansion roundKey key) i = keyWord key i := by
  rw [keyExpansion, nk, wordAt_foldl_expandWord_of_done _ _ _ (by omega) below,
    wordAt_foldl_copyWord _ _ _ (by omega), if_pos below]

theorem schedule_keyExpansion :
    BlockCipher.Schedule maskWord stirWord 4 44 (wordAt (keyExpansion roundKey key)) :=
  schedule_foldl_expandWord _ 40 le_rfl

end KeyExpansion

/-- The expansion fills the round keys from the key alone: the key's own words first, each
later one from the word before and the one four places back; and since that runs
backwards too, any one round key gives the key away. -/
theorem key_expansion_is_reversible (roundKey : RoundKeys) (key : Block) :
    (∀ i < 4, wordAt (keyExpansion roundKey key) i = keyWord key i) ∧
      (∀ i, 4 ≤ i → i < 44 → wordAt (keyExpansion roundKey key) i =
        maskWord (wordAt (keyExpansion roundKey key) (i - 4))
          (stirWord i (wordAt (keyExpansion roundKey key) (i - 1)))) ∧
      (∀ other, keyExpansion other key = keyExpansion roundKey key) ∧
      ∀ (other : RoundKeys) (guess : Block) (round : Nat), round ≤ nr →
        (∀ word < 4, wordAt (keyExpansion other guess) (4 * round + word) =
          wordAt (keyExpansion roundKey key) (4 * round + word)) → guess = key := by
  refine ⟨fun i => wordAt_keyExpansion_of_key roundKey key, schedule_keyExpansion roundKey key,
    fun other => ?_, fun other guess round within agree => ?_⟩
  · refine ext_wordAt ((schedule_keyExpansion other key).agree_after
      (schedule_keyExpansion roundKey key) (by omega) fun i below => ?_)
    rw [wordAt_keyExpansion_of_key _ _ below, wordAt_keyExpansion_of_key _ _ below]
  · have before := (schedule_keyExpansion other guess).agree_before maskWord_cancel
      (schedule_keyExpansion roundKey key) (by omega) (4 * round)
      (by rw [nr] at within; omega) fun i low high => by
        have same := agree (i - 4 * round) (by omega)
        rwa [Nat.add_sub_cancel' low] at same
    refine ext_keyWord fun i below => ?_
    rw [← wordAt_keyExpansion_of_key other guess below,
      ← wordAt_keyExpansion_of_key roundKey key below]
    exact before i (by omega)

end Eros.Aes
