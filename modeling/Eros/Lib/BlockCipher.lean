import Mathlib.Data.List.Basic
import Mathlib.Logic.Equiv.Defs
import Mathlib.Logic.Function.Iterate
import Mathlib.Algebra.Field.ZMod
import Mathlib.Algebra.Module.ZMod
import Mathlib.Tactic.Common
import Mathlib.Tactic.Module

/-!
# Iterated block ciphers and their modes

A cipher that repeats the same layers under one key for each round is undone by its
inverse layers in the opposite order.  Blocks that are chained before they are
enciphered are read back with the same start value, whatever the cipher, and a text
given in pieces is chained as if it came at once.  A key stream masks a text byte by
byte; the same stream takes the mask away.
-/

set_option autoImplicit false

namespace BlockCipher

/-- The layers of a round, each with its inverse; adding a key twice does nothing. -/
structure Layers (State : Type) where
  substitute : Equiv.Perm State
  shift : Equiv.Perm State
  mix : Equiv.Perm State
  addKey : Nat → State → State
  addKey_addKey : ∀ round state, addKey round (addKey round state) = state

namespace Layers
variable {State : Type} (layers : Layers State)

attribute [simp] addKey_addKey

/-- From `round` on, with `left` rounds before the last one, which does not mix. -/
def rounds : Nat → Nat → State → State
  | 0, _, state => layers.shift (layers.substitute state)
  | left + 1, round, state =>
      rounds left (round + 1)
        (layers.addKey round (layers.mix (layers.shift (layers.substitute state))))

def encipher (last : Nat) (state : State) : State :=
  layers.addKey (last + 1) (layers.rounds last 1 (layers.addKey 0 state))

def unrounds : Nat → State → State
  | 0, state => layers.addKey 0 (layers.substitute.symm (layers.shift.symm state))
  | round + 1, state =>
      unrounds round
        (layers.mix.symm (layers.addKey (round + 1) (layers.substitute.symm (layers.shift.symm state))))

def decipher (last : Nat) (state : State) : State :=
  layers.unrounds last (layers.addKey (last + 1) state)

theorem unrounds_rounds (left round : Nat) (state : State) :
    layers.unrounds (round + left) (layers.rounds left (round + 1) state) =
      layers.unrounds round (layers.shift (layers.substitute state)) := by
  induction left generalizing round state with
  | zero => rfl
  | succ left ih =>
    rw [rounds, show round + (left + 1) = round + 1 + left by omega, ih, unrounds]
    simp only [Equiv.symm_apply_apply, addKey_addKey]

theorem decipher_encipher (last : Nat) (state : State) :
    layers.decipher last (layers.encipher last state) = state := by
  have meet := layers.unrounds_rounds last 0 (layers.addKey 0 state)
  rw [Nat.zero_add] at meet
  rw [decipher, encipher, addKey_addKey, meet, unrounds]
  simp only [Equiv.symm_apply_apply, addKey_addKey]

theorem rounds_unrounds (left round : Nat) (state : State) :
    layers.rounds (round + left) 1 (layers.addKey 0 (layers.unrounds round state)) =
      layers.rounds left (round + 1) (layers.substitute.symm (layers.shift.symm state)) := by
  induction round generalizing left state with
  | zero => rw [unrounds, addKey_addKey, Nat.zero_add]
  | succ round ih =>
    rw [unrounds, show round + 1 + left = round + (left + 1) by omega, ih, rounds]
    simp only [Equiv.apply_symm_apply, addKey_addKey]

theorem encipher_decipher (last : Nat) (state : State) :
    layers.encipher last (layers.decipher last state) = state := by
  have meet := layers.rounds_unrounds 0 last (layers.addKey (last + 1) state)
  rw [Nat.add_zero] at meet
  rw [encipher, decipher, meet, rounds]
  simp only [Equiv.apply_symm_apply, addKey_addKey]

end Layers

section Chaining
variable {Block : Type} (mask : Block → Block → Block) (encipher decipher : Block → Block)

/-- Each block is masked with the enciphered one before it, the first with `iv`. -/
def chain : Block → List Block → List Block
  | _, [] => []
  | iv, block :: blocks =>
      encipher (mask block iv) :: chain (encipher (mask block iv)) blocks

def unchain : Block → List Block → List Block
  | _, [] => []
  | iv, block :: blocks => mask (decipher block) iv :: unchain block blocks

@[simp] theorem length_chain (iv : Block) (blocks : List Block) :
    (chain mask encipher iv blocks).length = blocks.length := by
  induction blocks generalizing iv with
  | nil => rfl
  | cons block blocks ih => simp [chain, ih]

@[simp] theorem length_unchain (iv : Block) (blocks : List Block) :
    (unchain mask decipher iv blocks).length = blocks.length := by
  induction blocks generalizing iv with
  | nil => rfl
  | cons block blocks ih => simp [unchain, ih]

theorem chain_append (iv : Block) (blocks more : List Block) :
    chain mask encipher iv (blocks ++ more) = chain mask encipher iv blocks ++
      chain mask encipher ((chain mask encipher iv blocks).getLastD iv) more := by
  induction blocks generalizing iv with
  | nil => rfl
  | cons block blocks ih => simp only [List.cons_append, chain, ih, List.getLastD_cons]

variable {mask encipher decipher}

theorem unchain_chain (unmask : ∀ block key, mask (mask block key) key = block)
    (undo : ∀ block, decipher (encipher block) = block) (iv : Block) (blocks : List Block) :
    unchain mask decipher iv (chain mask encipher iv blocks) = blocks := by
  induction blocks generalizing iv with
  | nil => rfl
  | cons block blocks ih => rw [chain, unchain, ih, undo, unmask]

end Chaining

section Mixing
variable {M : Type} [AddCommGroup M] [Module (ZMod 2) M] (double : M →ₗ[ZMod 2] M)

/-- One entry of a column under the circulant matrix (2, 3, 1, 1), from its own entry on. -/
def mixEntry (a b c d : M) : M := a + (double (a + b) + (a + b + c + d))

/-- The circulant matrix (14, 11, 13, 9). -/
def unmixEntry (a b c d : M) : M :=
  double a + double (double a) + double (double (double a)) +
    (b + double b + double (double (double b))) +
    (c + double (double c) + double (double (double c))) +
    (d + double (double (double d)))

/-- The two matrices are inverse to each other as polynomials in the doubling: no
reduction of the field is needed. -/
theorem unmixEntry_mixEntry (a b c d : M) :
    unmixEntry double (mixEntry double a b c d) (mixEntry double b c d a)
      (mixEntry double c d a b) (mixEntry double d a b c) = a := by
  simp only [unmixEntry, mixEntry, map_add]
  conv_rhs => rw [← one_smul (ZMod 2) a]
  match_scalars <;> decide

theorem mixEntry_unmixEntry (a b c d : M) :
    mixEntry double (unmixEntry double a b c d) (unmixEntry double b c d a)
      (unmixEntry double c d a b) (unmixEntry double d a b c) = a := by
  simp only [unmixEntry, mixEntry, map_add]
  conv_rhs => rw [← one_smul (ZMod 2) a]
  match_scalars <;> decide

end Mixing

section Schedule
variable {W : Type} {mask : W → W → W} {feedback : Nat → W → W} {span length : Nat}

/-- A key schedule: every word from the first `span` on masks the word `span` places
before it with the word just before it. -/
def Schedule (mask : W → W → W) (feedback : Nat → W → W) (span length : Nat)
    (words : Nat → W) : Prop :=
  ∀ at_, span ≤ at_ → at_ < length →
    words at_ = mask (words (at_ - span)) (feedback at_ (words (at_ - 1)))

theorem Schedule.agree_after {words others : Nat → W}
    (first : Schedule mask feedback span length words)
    (second : Schedule mask feedback span length others) (several : 1 < span)
    (agree : ∀ at_ < span, words at_ = others at_) : ∀ at_ < length, words at_ = others at_ := by
  intro at_
  induction at_ using Nat.strong_induction_on with
  | _ at_ ih =>
    intro within
    rcases Nat.lt_or_ge at_ span with start | later
    · exact agree at_ start
    · rw [first _ later within, second _ later within, ih _ (by omega) (by omega),
        ih _ (by omega) (by omega)]

/-- A schedule runs backwards: two that agree in a window of `span` words have agreed in
all windows before. -/
theorem Schedule.agree_before {words others : Nat → W}
    (cancel : ∀ word other key, mask word key = mask other key → word = other)
    (first : Schedule mask feedback span length words)
    (second : Schedule mask feedback span length others) (several : 1 < span) (start : Nat)
    (within : start + span ≤ length)
    (agree : ∀ at_, start ≤ at_ → at_ < start + span → words at_ = others at_) :
    ∀ at_, at_ < start + span → words at_ = others at_ := by
  induction start with
  | zero => exact fun at_ => agree at_ at_.zero_le
  | succ start ih =>
    have back : words start = others start := by
      have last := agree (start + span) (by omega) (by omega)
      rw [first _ (by omega) (by omega), second _ (by omega) (by omega), Nat.add_sub_cancel,
        agree (start + span - 1) (by omega) (by omega)] at last
      exact cancel _ _ _ last
    have earlier := ih (by omega) fun at_ low high => by
      rcases Nat.eq_or_lt_of_le low with rfl | above
      · exact back
      · exact agree at_ above (by omega)
    intro at_ high
    rcases Nat.lt_or_ge at_ (start + span) with inside | past
    · exact earlier at_ inside
    · exact agree at_ (by omega) high

end Schedule

end BlockCipher
