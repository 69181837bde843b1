import Mathlib.Tactic.Common

/-!
# Bitwise majority of three

The two-out-of-three vote, on one wire and on a bus.  Whenever two of the three
inputs agree the vote is their common value, wherever the third one stands.
-/

set_option autoImplicit false

namespace Majority

def bit (a b c : Bool) : Bool := (a && b) || (b && c) || (a && c)

def bits {width : Nat} (a b c : BitVec width) : BitVec width :=
  (a &&& b) ||| (b &&& c) ||| (a &&& c)

theorem bit_left (a b : Bool) : bit a a b = a := by cases a <;> cases b <;> rfl
theorem bit_outer (a b : Bool) : bit a b a = a := by cases a <;> cases b <;> rfl
theorem bit_right (a b : Bool) : bit b a a = a := by cases a <;> cases b <;> rfl

theorem bits_getLsbD {width : Nat} (a b c : BitVec width) (index : Nat) :
    (bits a b c).getLsbD index =
      bit (a.getLsbD index) (b.getLsbD index) (c.getLsbD index) := by
  simp [bits, bit]

theorem bits_left {width : Nat} (a b : BitVec width) : bits a a b = a := by
  apply BitVec.eq_of_getLsbD_eq
  intro index _
  rw [bits_getLsbD, bit_left]

theorem bits_outer {width : Nat} (a b : BitVec width) : bits a b a = a := by
  apply BitVec.eq_of_getLsbD_eq
  intro index _
  rw [bits_getLsbD, bit_outer]

theorem bits_right {width : Nat} (a b : BitVec width) : bits b a a = a := by
  apply BitVec.eq_of_getLsbD_eq
  intro index _
  rw [bits_getLsbD, bit_right]

end Majority
