import SensorGateway.Foundations.FloatFormat
import Mathlib.Tactic.Ring

/-
  Arithmetic of floating-point numbers: the exact result,
  rounded to a format.

  Rounding does not pass a number of the format. So a bound
  of the operands is a bound of the rounded result, if the
  bound of the exact result is a number of the format. Such
  bounds are all that is needed of a format here, and they
  hold of infinite results as well.

  Key definitions include:
    * `FloatFormat`
    * `FloatFormat.Represents`
    * `FloatDatum.roundTo`
    * `FloatDatum.add`
    * `FloatDatum.div`
    * `FloatDatum.AtLeast`
    * `FloatDatum.AtMost`

  Key theorems include:
    * `FloatDatum.roundTo_single`
    * `FloatDatum.AtLeast.roundTo`
    * `FloatDatum.AtMost.roundTo`
    * `FloatDatum.roundTo_of_represents`
    * `FloatDatum.isBound_atLeast`
    * `FloatDatum.isBound_atMost`
-/

------------------------------------------------------------
-- Formats
------------------------------------------------------------

namespace Foundations

open NNRat

/-
  The numbers of a format are multiples of `2 ^ -quantum`
  with `precision` bits at most, below `2 ^ maxExponent`.
-/
structure FloatFormat where
  precision : Nat
  quantum : Nat
  maxExponent : Nat

/- IEEE 754 binary32 and binary64. -/
def FloatFormat.single : FloatFormat where
  precision := 24
  quantum := 149
  maxExponent := 128

def FloatFormat.double : FloatFormat where
  precision := 53
  quantum := 1074
  maxExponent := 1024

/- The rational is a number of the format. -/
def FloatFormat.Represents
    (F : FloatFormat)
    (a : ℚ) : Prop :=
  ∃ k s : Nat,
    k ≤ 2 ^ F.precision ∧
      |a| * 2 ^ F.quantum = ((k * 2 ^ s : Nat) : ℚ) ∧
      |a| < 2 ^ F.maxExponent

theorem FloatFormat.Represents.neg
    {F : FloatFormat}
    {a : ℚ}
    (h : F.Represents a) :
    F.Represents (-a) := by
  unfold Represents at *
  rw [abs_neg]
  exact h

/-
  A whole multiple of a power of two is a number of the
  format, if it does not take too many bits.
-/
theorem FloatFormat.represents_of_le
    {F : FloatFormat}
    {j : Int}
    {e : Nat}
    (hBits : j.natAbs ≤ 2 ^ F.precision)
    (hQuantum : e ≤ F.quantum)
    (hRange : F.precision < F.maxExponent) :
    F.Represents (j / 2 ^ e) := by
  have hAbs : |(j : ℚ) / 2 ^ e| = j.natAbs / 2 ^ e := by
    rw [abs_div, abs_of_pos (by positivity : (0 : ℚ) < 2 ^ e),
      Nat.cast_natAbs, Int.cast_abs]
  have hPow :
      (2 : ℚ) ^ F.quantum =
        2 ^ (F.quantum - e) * 2 ^ e := by
    rw [← pow_add, Nat.sub_add_cancel hQuantum]
  refine ⟨j.natAbs, F.quantum - e, hBits, ?_, ?_⟩
  · rw [hAbs, hPow]
    push_cast
    field_simp
  · rw [hAbs]
    have hOne : (1 : ℚ) ≤ 2 ^ e := one_le_pow₀ (by norm_num)
    have hCast : (j.natAbs : ℚ) ≤ 2 ^ F.precision := by
      exact_mod_cast hBits
    calc
      (j.natAbs : ℚ) / 2 ^ e ≤ j.natAbs :=
        div_le_self (Nat.cast_nonneg _) hOne
      _ ≤ 2 ^ F.precision := hCast
      _ < 2 ^ F.maxExponent :=
        pow_lt_pow_right₀ (by norm_num) hRange

------------------------------------------------------------
-- Rounding
------------------------------------------------------------

/-
  The number of units to which `n / d` units are rounded,
  where the numbers of the format have `p` bits at most.
-/
def roundUnits
    (p n d : Nat) :
    Nat :=
  let shift := Nat.log 2 (n / d) - (p - 1)
  roundDiv n (d * 2 ^ shift) * 2 ^ shift

theorem le_roundDiv
    {n d k : Nat}
    (hPos : 0 < d)
    (hLe : k * d ≤ n) :
    k ≤ roundDiv n d := by
  have hQuot : k ≤ n / d :=
    (Nat.le_div_iff_mul_le hPos).mpr hLe
  rcases roundDiv_cases n d with ⟨hRound, _⟩ | ⟨hRound, _⟩
  · omega
  · omega

/- A number that is shifted has all its bits. -/
theorem pow_le_of_shift
    {p n d shift : Nat}
    (hPos : 0 < d)
    (hShift : shift = Nat.log 2 (n / d) - (p - 1))
    (hSome : 0 < shift) :
    2 ^ (p - 1) * (d * 2 ^ shift) ≤ n := by
  have hLog : Nat.log 2 (n / d) = p - 1 + shift := by omega
  have hQuot : n / d ≠ 0 := by
    intro hZero
    rw [hZero, Nat.log_zero_right] at hLog
    omega
  have hPow : 2 ^ (p - 1 + shift) ≤ n / d := by
    rw [← hLog]
    exact Nat.pow_log_le_self 2 hQuot
  calc
    2 ^ (p - 1) * (d * 2 ^ shift) =
        2 ^ (p - 1 + shift) * d := by
      rw [Nat.pow_add]
      ring
    _ ≤ n := (Nat.le_div_iff_mul_le hPos).mp hPow

/- A number below the shift is below those with all bits. -/
theorem mul_pow_le_of_lt_shift
    {p k s shift : Nat}
    (hBits : 0 < p)
    (hK : k ≤ 2 ^ p)
    (hLt : s < shift) :
    k * 2 ^ s ≤ 2 ^ (p - 1) * 2 ^ shift := by
  calc
    k * 2 ^ s ≤ 2 ^ p * 2 ^ s := Nat.mul_le_mul_right _ hK
    _ = 2 ^ (p - 1) * 2 ^ (s + 1) := by
      rw [← Nat.pow_add, ← Nat.pow_add]
      congr 1
      omega
    _ ≤ 2 ^ (p - 1) * 2 ^ shift :=
      Nat.mul_le_mul_left _
        (Nat.pow_le_pow_right (by decide) hLt)

/- Rounding does not pass a number of the format. -/
theorem roundUnits_le
    {p n d k s : Nat}
    (hBits : 0 < p)
    (hPos : 0 < d)
    (hK : k ≤ 2 ^ p)
    (hLe : n ≤ k * 2 ^ s * d) :
    roundUnits p n d ≤ k * 2 ^ s := by
  unfold roundUnits
  generalize hShift :
    Nat.log 2 (n / d) - (p - 1) = shift
  simp only
  have hUnit : 0 < d * 2 ^ shift :=
    Nat.mul_pos hPos (Nat.two_pow_pos _)
  rcases Nat.lt_or_ge s shift with hLt | hBelow
  · -- the number is the least one with all its bits
    have hFull :=
      pow_le_of_shift hPos hShift.symm (Nat.zero_lt_of_lt hLt)
    have hTop := mul_pow_le_of_lt_shift hBits hK hLt
    have hSame : 2 ^ (p - 1) * 2 ^ shift ≤ k * 2 ^ s := by
      apply Nat.le_of_mul_le_mul_right _ hPos
      calc
        2 ^ (p - 1) * 2 ^ shift * d =
            2 ^ (p - 1) * (d * 2 ^ shift) := by ring
        _ ≤ n := hFull
        _ ≤ k * 2 ^ s * d := hLe
    refine Nat.le_trans ?_ hSame
    apply Nat.mul_le_mul_right
    apply roundDiv_le hUnit
    calc
      n ≤ k * 2 ^ s * d := hLe
      _ ≤ 2 ^ (p - 1) * 2 ^ shift * d :=
        Nat.mul_le_mul_right _ hTop
      _ = 2 ^ (p - 1) * (d * 2 ^ shift) := by ring
  · -- the number is a multiple of the rounded unit
    have hSplit : 2 ^ s = 2 ^ (s - shift) * 2 ^ shift := by
      rw [← Nat.pow_add, Nat.sub_add_cancel hBelow]
    rw [hSplit, ← Nat.mul_assoc] at hLe ⊢
    apply Nat.mul_le_mul_right
    apply roundDiv_le hUnit
    calc
      n ≤ k * 2 ^ (s - shift) * 2 ^ shift * d := hLe
      _ = k * 2 ^ (s - shift) * (d * 2 ^ shift) := by ring

theorem le_roundUnits
    {p n d k s : Nat}
    (hBits : 0 < p)
    (hPos : 0 < d)
    (hK : k ≤ 2 ^ p)
    (hLe : k * 2 ^ s * d ≤ n) :
    k * 2 ^ s ≤ roundUnits p n d := by
  unfold roundUnits
  generalize hShift :
    Nat.log 2 (n / d) - (p - 1) = shift
  simp only
  have hUnit : 0 < d * 2 ^ shift :=
    Nat.mul_pos hPos (Nat.two_pow_pos _)
  rcases Nat.lt_or_ge s shift with hLt | hBelow
  · have hFull :=
      pow_le_of_shift hPos hShift.symm (Nat.zero_lt_of_lt hLt)
    calc
      k * 2 ^ s ≤ 2 ^ (p - 1) * 2 ^ shift :=
        mul_pow_le_of_lt_shift hBits hK hLt
      _ ≤ roundDiv n (d * 2 ^ shift) * 2 ^ shift :=
        Nat.mul_le_mul_right _ (le_roundDiv hUnit hFull)
  · have hSplit : 2 ^ s = 2 ^ (s - shift) * 2 ^ shift := by
      rw [← Nat.pow_add, Nat.sub_add_cancel hBelow]
    rw [hSplit, ← Nat.mul_assoc] at hLe ⊢
    apply Nat.mul_le_mul_right
    apply le_roundDiv hUnit
    calc
      k * 2 ^ (s - shift) * (d * 2 ^ shift) =
          k * 2 ^ (s - shift) * 2 ^ shift * d := by ring
      _ ≤ n := hLe

------------------------------------------------------------
-- Numbers
------------------------------------------------------------

namespace FloatDatum

/- The nearest number of a format, or an infinity. -/
def roundTo
    (F : FloatFormat) :
    FloatDatum → FloatDatum
| .finite negative magnitude =>
    let rounded :=
      roundUnits F.precision (magnitude.num * 2 ^ F.quantum)
        magnitude.den
    if 2 ^ F.maxExponent * 2 ^ F.quantum ≤ rounded then
      .infinite negative
    else
      .finite negative (divNat rounded (2 ^ F.quantum))
| x => x

/- Rounding to binary32 is the conversion to `float`. -/
theorem roundTo_single
    (x : FloatDatum) :
    x.roundTo .single = x.toBinary32 := by
  cases x with
  | finite negative magnitude => rfl
  | infinite negative => rfl
  | nan negative => rfl

def neg :
    FloatDatum → FloatDatum
| .finite negative magnitude => .finite (!negative) magnitude
| .infinite negative => .infinite (!negative)
| .nan negative => .nan (!negative)

theorem roundTo_neg
    (F : FloatFormat)
    (x : FloatDatum) :
    x.neg.roundTo F = (x.roundTo F).neg := by
  cases x with
  | finite negative magnitude =>
      simp only [neg, roundTo]
      split
      · rfl
      · rfl
  | infinite negative => rfl
  | nan negative => rfl

/-
  The exact sum. A sum that is zero is a negative zero only
  if both numbers are negative. There is no sum of infinities
  with different signs.
-/
def exactSum :
    FloatDatum → FloatDatum → FloatDatum
| .nan negative, _ => .nan negative
| _, .nan negative => .nan negative
| .infinite negative, .infinite negative' =>
    if negative = negative' then
      .infinite negative
    else
      .nan true
| .infinite negative, _ => .infinite negative
| _, .infinite negative => .infinite negative
| .finite negative magnitude,
    .finite negative' magnitude' =>
    let sum :=
      signed negative magnitude + signed negative' magnitude'
    .finite
      (if sum = 0 then negative && negative' else sum < 0)
      sum.nnabs

/- The sum, as a number of the format. -/
def add
    (F : FloatFormat)
    (x y : FloatDatum) :
    FloatDatum :=
  (x.exactSum y).roundTo F

/- The exact quotient. -/
def exactQuotient :
    FloatDatum → FloatDatum → FloatDatum
| .nan negative, _ => .nan negative
| _, .nan negative => .nan negative
| .infinite _, .infinite _ => .nan true
| .infinite negative, .finite negative' _ =>
    .infinite (negative != negative')
| .finite negative _, .infinite negative' =>
    .finite (negative != negative') 0
| .finite negative magnitude,
    .finite negative' magnitude' =>
    if magnitude' = 0 then
      if magnitude = 0 then
        .nan true
      else
        .infinite (negative != negative')
    else
      .finite (negative != negative')
        (magnitude / magnitude')

def div
    (F : FloatFormat)
    (x y : FloatDatum) :
    FloatDatum :=
  (x.exactQuotient y).roundTo F

/- A whole number. -/
def ofInt
    (n : Int) :
    FloatDatum :=
  .finite (n < 0) n.natAbs

/- The comparison `<`, which is false for a NaN. -/
def lt :
    FloatDatum → FloatDatum → Bool
| .finite negative magnitude,
    .finite negative' magnitude' =>
    signed negative magnitude < signed negative' magnitude'
| .finite _ _, .infinite negative' => !negative'
| .infinite negative, .finite _ _ => negative
| .infinite negative, .infinite negative' =>
    negative && !negative'
| _, _ => false

theorem lt_self
    (x : FloatDatum) :
    lt x x = false := by
  cases x with
  | finite negative magnitude =>
      exact decide_eq_false (lt_irrefl _)
  | infinite negative => cases negative <;> rfl
  | nan negative => rfl

theorem lt_of_lt_of_lt
    {x y z : FloatDatum}
    (hXY : lt x y = true)
    (hYZ : lt y z = true) :
    lt x z = true := by
  cases x <;> cases y <;> cases z <;>
    simp_all [lt]
  exact lt_trans hXY hYZ

/- The order of which `<` is the strict part. -/
instance : Preorder FloatDatum where
  le x y := x = y ∨ lt x y = true
  lt x y := lt x y = true
  le_refl x := .inl rfl
  le_trans x y z hXY hYZ := by
    rcases hXY with rfl | hXY
    · exact hYZ
    · rcases hYZ with rfl | hYZ
      · exact .inr hXY
      · exact .inr (lt_of_lt_of_lt hXY hYZ)
  lt_iff_le_not_ge x y := by
    constructor
    · intro hLt
      refine ⟨.inr hLt, ?_⟩
      rintro (rfl | hGt)
      · rw [lt_self] at hLt
        cases hLt
      · have hSelf := lt_of_lt_of_lt hLt hGt
        rw [lt_self] at hSelf
        cases hSelf
    · rintro ⟨rfl | hLt, hNot⟩
      · exact absurd (.inl rfl) hNot
      · exact hLt

instance : DecidableLT FloatDatum :=
  fun x y => inferInstanceAs (Decidable (lt x y = true))

------------------------------------------------------------
-- Bounds
------------------------------------------------------------

/- A number that is not below a bound. -/
def AtLeast
    (a : ℚ) :
    FloatDatum → Prop
| .finite negative magnitude => a ≤ signed negative magnitude
| .infinite negative => negative = false
| .nan _ => False

/- A number that is not above a bound. -/
def AtMost
    (a : ℚ) :
    FloatDatum → Prop
| .finite negative magnitude => signed negative magnitude ≤ a
| .infinite negative => negative = true
| .nan _ => False

theorem signed_not
    (negative : Bool)
    (magnitude : ℚ) :
    signed (!negative) magnitude =
      -signed negative magnitude := by
  cases negative with
  | false => rfl
  | true => exact (neg_neg _).symm

theorem atMost_iff_neg
    {a : ℚ}
    {x : FloatDatum} :
    x.AtMost a ↔ x.neg.AtLeast (-a) := by
  cases x with
  | finite negative magnitude =>
      unfold AtMost AtLeast neg
      simp only
      rw [signed_not, neg_le_neg_iff]
  | infinite negative =>
      unfold AtMost AtLeast neg
      simp
  | nan negative => exact Iff.rfl

variable {F : FloatFormat}
variable {a b : ℚ}
variable {x y : FloatDatum}

/- What the rounded magnitude is, in units. -/
theorem divNat_roundUnits
    (n d : Nat) :
    ((divNat n d : ℚ≥0) : ℚ) = n / d := by
  rw [NNRat.coe_divNat, Rat.divInt_eq_div]
  push_cast
  rfl

theorem magnitude_units
    (magnitude : ℚ≥0) :
    ((magnitude.num * 2 ^ F.quantum : Nat) : ℚ) =
      magnitude * 2 ^ F.quantum * magnitude.den := by
  have hNum : (magnitude : ℚ) * magnitude.den = magnitude.num := by
    exact_mod_cast magnitude.mul_den_eq_num
  push_cast
  rw [← hNum]
  ring

/- Rounding does not pass a bound from above. -/
theorem roundUnits_magnitude_le
    (hBits : 0 < F.precision)
    {magnitude : ℚ≥0}
    (hRep : F.Represents a)
    (hLe : (magnitude : ℚ) ≤ |a|) :
    ((roundUnits F.precision (magnitude.num * 2 ^ F.quantum)
        magnitude.den : Nat) : ℚ) ≤
      |a| * 2 ^ F.quantum := by
  rcases hRep with ⟨k, s, hK, hUnits, _⟩
  rw [hUnits]
  have hNat :
      magnitude.num * 2 ^ F.quantum ≤
        k * 2 ^ s * magnitude.den := by
    have hDen : (0 : ℚ) ≤ magnitude.den := Nat.cast_nonneg _
    have hPow : (0 : ℚ) ≤ 2 ^ F.quantum := by positivity
    have hCast :
        ((magnitude.num * 2 ^ F.quantum : Nat) : ℚ) ≤
          ((k * 2 ^ s * magnitude.den : Nat) : ℚ) := by
      rw [magnitude_units, Nat.cast_mul, ← hUnits]
      exact
        mul_le_mul_of_nonneg_right
          (mul_le_mul_of_nonneg_right hLe hPow) hDen
    exact_mod_cast hCast
  exact_mod_cast roundUnits_le hBits magnitude.den_pos hK hNat

/- Nor does it pass one from below. -/
theorem le_roundUnits_magnitude
    (hBits : 0 < F.precision)
    {magnitude : ℚ≥0}
    (hRep : F.Represents a)
    (hLe : |a| ≤ magnitude) :
    |a| * 2 ^ F.quantum ≤
      ((roundUnits F.precision (magnitude.num * 2 ^ F.quantum)
        magnitude.den : Nat) : ℚ) := by
  rcases hRep with ⟨k, s, hK, hUnits, _⟩
  rw [hUnits]
  have hNat :
      k * 2 ^ s * magnitude.den ≤
        magnitude.num * 2 ^ F.quantum := by
    have hDen : (0 : ℚ) ≤ magnitude.den := Nat.cast_nonneg _
    have hPow : (0 : ℚ) ≤ 2 ^ F.quantum := by positivity
    have hCast :
        ((k * 2 ^ s * magnitude.den : Nat) : ℚ) ≤
          ((magnitude.num * 2 ^ F.quantum : Nat) : ℚ) := by
      rw [magnitude_units, Nat.cast_mul, ← hUnits]
      exact
        mul_le_mul_of_nonneg_right
          (mul_le_mul_of_nonneg_right hLe hPow) hDen
    exact_mod_cast hCast
  exact_mod_cast le_roundUnits hBits magnitude.den_pos hK hNat

/- A bound that the format represents is kept by rounding. -/
theorem AtLeast.roundTo
    (hBits : 0 < F.precision)
    (hRep : F.Represents a)
    (h : x.AtLeast a) :
    (x.roundTo F).AtLeast a := by
  have hUnit : (0 : ℚ) < 2 ^ F.quantum := by positivity
  cases x with
  | infinite negative => exact h
  | nan negative => exact h
  | finite negative magnitude =>
      cases negative with
      | false =>
          simp only [FloatDatum.roundTo]
          split
          · rfl
          · show a ≤ ((divNat _ _ : ℚ≥0) : ℚ)
            rcases le_total a 0 with hNeg | hPos
            · exact hNeg.trans (NNRat.cast_nonneg _)
            · have hLe : |a| ≤ magnitude := by
                rw [abs_of_nonneg hPos]
                exact h
              have hRound :=
                le_roundUnits_magnitude hBits hRep hLe
              rw [abs_of_nonneg hPos] at hRound
              rw [divNat_roundUnits, Nat.cast_pow,
                Nat.cast_two, le_div_iff₀ hUnit]
              exact hRound
      | true =>
          have hSigned : a ≤ -(magnitude : ℚ) := h
          have hMagnitude : (0 : ℚ) ≤ magnitude :=
            NNRat.cast_nonneg _
          have hAbs : |a| = -a :=
            abs_of_nonpos (by linarith)
          have hLe : (magnitude : ℚ) ≤ |a| := by
            rw [hAbs]
            linarith
          have hRound :=
            roundUnits_magnitude_le hBits hRep hLe
          rcases hRep with ⟨_, _, _, _, hRange⟩
          simp only [FloatDatum.roundTo]
          split
          · rename_i hOver
            exfalso
            have hCast :
                (2 ^ F.maxExponent * 2 ^ F.quantum : ℚ) ≤
                  |a| * 2 ^ F.quantum :=
              le_trans (by exact_mod_cast hOver) hRound
            have hMax :=
              le_of_mul_le_mul_right hCast hUnit
            linarith
          · show a ≤ -((divNat _ _ : ℚ≥0) : ℚ)
            rw [hAbs] at hRound
            rw [divNat_roundUnits, Nat.cast_pow,
              Nat.cast_two, le_neg, div_le_iff₀ hUnit]
            exact hRound

theorem AtMost.roundTo
    (hBits : 0 < F.precision)
    (hRep : F.Represents a)
    (h : x.AtMost a) :
    (x.roundTo F).AtMost a := by
  rw [atMost_iff_neg] at h ⊢
  rw [← roundTo_neg]
  exact h.roundTo hBits hRep.neg

/- The exact sum of numbers is their sum. -/
theorem signed_exactSum
    (q : ℚ)
    (zeroSign : Bool) :
    signed (if q = 0 then zeroSign else decide (q < 0))
        q.nnabs =
      q := by
  rw [Rat.coe_nnabs]
  split
  · rename_i hZero
    rw [hZero, abs_zero]
    cases zeroSign with
    | false => rfl
    | true => exact neg_zero
  · rcases lt_or_ge q 0 with hNeg | hPos
    · rw [decide_eq_true hNeg, abs_of_neg hNeg]
      exact neg_neg q
    · rw [decide_eq_false (not_lt.mpr hPos),
        abs_of_nonneg hPos]
      rfl

/- The exact sum has the sum of the bounds. -/
theorem AtLeast.exactSum
    (hX : x.AtLeast a)
    (hY : y.AtLeast b) :
    (x.exactSum y).AtLeast (a + b) := by
  cases x with
  | nan negative => exact hX.elim
  | infinite negative =>
      cases y with
      | nan negative' => exact hY.elim
      | infinite negative' =>
          cases hX
          cases hY
          rfl
      | finite negative' magnitude' => exact hX
  | finite negative magnitude =>
      cases y with
      | nan negative' => exact hY.elim
      | infinite negative' => exact hY
      | finite negative' magnitude' =>
          simp only [FloatDatum.exactSum, AtLeast]
          rw [signed_exactSum]
          exact add_le_add hX hY

theorem AtMost.exactSum
    (hX : x.AtMost a)
    (hY : y.AtMost b) :
    (x.exactSum y).AtMost (a + b) := by
  cases x with
  | nan negative => exact hX.elim
  | infinite negative =>
      cases y with
      | nan negative' => exact hY.elim
      | infinite negative' =>
          cases hX
          cases hY
          rfl
      | finite negative' magnitude' => exact hX
  | finite negative magnitude =>
      cases y with
      | nan negative' => exact hY.elim
      | infinite negative' => exact hY
      | finite negative' magnitude' =>
          simp only [FloatDatum.exactSum, AtMost]
          rw [signed_exactSum]
          exact add_le_add hX hY

theorem signed_div
    (negative : Bool)
    (m d : ℚ) :
    signed negative (m / d) = signed negative m / d := by
  cases negative with
  | false => rfl
  | true => exact (neg_div d m).symm

/- So has the quotient by a positive number. -/
theorem AtLeast.exactQuotient
    {d : ℚ≥0}
    (hPos : 0 < d)
    (hX : x.AtLeast (a * d)) :
    (x.exactQuotient (.finite false d)).AtLeast a := by
  cases x with
  | nan negative => exact hX.elim
  | infinite negative =>
      cases hX
      rfl
  | finite negative magnitude =>
      have hCast : (0 : ℚ) < d := by exact_mod_cast hPos
      simp only [FloatDatum.exactQuotient, if_neg hPos.ne',
        AtLeast, Bool.bne_false]
      rw [NNRat.cast_div, signed_div, le_div_iff₀ hCast]
      exact hX

theorem AtMost.exactQuotient
    {d : ℚ≥0}
    (hPos : 0 < d)
    (hX : x.AtMost (a * d)) :
    (x.exactQuotient (.finite false d)).AtMost a := by
  cases x with
  | nan negative => exact hX.elim
  | infinite negative =>
      cases hX
      rfl
  | finite negative magnitude =>
      have hCast : (0 : ℚ) < d := by exact_mod_cast hPos
      simp only [FloatDatum.exactQuotient, if_neg hPos.ne',
        AtMost, Bool.bne_false]
      rw [NNRat.cast_div, signed_div, div_le_iff₀ hCast]
      exact hX

/- Whole numbers are bounds of themselves. -/
theorem signed_ofInt
    (n : Int) :
    signed (decide (n < 0)) (((n.natAbs : ℚ≥0)) : ℚ) =
      n := by
  rw [NNRat.cast_natCast, Nat.cast_natAbs, Int.cast_abs]
  unfold signed
  split
  · rename_i hNeg
    rw [abs_of_neg
      (Int.cast_lt_zero.mpr (of_decide_eq_true hNeg)),
      neg_neg]
  · rename_i hPos
    rw [decide_eq_true_eq, not_lt] at hPos
    exact abs_of_nonneg (Int.cast_nonneg hPos)

theorem atLeast_ofInt
    (n : Int) :
    (ofInt n).AtLeast n :=
  (signed_ofInt n).ge

theorem atMost_ofInt
    (n : Int) :
    (ofInt n).AtMost n :=
  (signed_ofInt n).le

/- A number above a whole one, or below it. -/
theorem AtLeast.ofInt_lt
    {n : Int}
    (h : x.AtLeast a)
    (hLt : (n : ℚ) < a) :
    ofInt n < x := by
  cases x with
  | nan negative => exact h.elim
  | infinite negative =>
      cases h
      rfl
  | finite negative magnitude =>
      apply decide_eq_true
      rw [signed_ofInt]
      exact hLt.trans_le h

theorem AtMost.lt_ofInt
    {n : Int}
    (h : x.AtMost a)
    (hLt : a < (n : ℚ)) :
    x < ofInt n := by
  cases x with
  | nan negative => exact h.elim
  | infinite negative =>
      cases h
      rfl
  | finite negative magnitude =>
      apply decide_eq_true
      rw [signed_ofInt]
      exact lt_of_le_of_lt h hLt

theorem AtLeast.not_lt_ofInt
    {n : Int}
    (h : x.AtLeast n) :
    ¬x < ofInt n := by
  intro hLt
  cases x with
  | nan negative => exact h.elim
  | infinite negative =>
      cases h
      cases hLt
  | finite negative magnitude =>
      have hValue := of_decide_eq_true hLt
      rw [signed_ofInt] at hValue
      exact absurd h (not_le.mpr hValue)

theorem AtMost.not_ofInt_lt
    {n : Int}
    (h : x.AtMost n) :
    ¬ofInt n < x := by
  intro hLt
  cases x with
  | nan negative => exact h.elim
  | infinite negative =>
      cases h
      cases hLt
  | finite negative magnitude =>
      have hValue := of_decide_eq_true hLt
      rw [signed_ofInt] at hValue
      exact absurd h (not_le.mpr hValue)

theorem AtLeast.mono
    (h : x.AtLeast a)
    (hLe : b ≤ a) :
    x.AtLeast b := by
  cases x with
  | nan negative => exact h.elim
  | infinite negative => exact h
  | finite negative magnitude => exact hLe.trans h

theorem AtMost.mono
    (h : x.AtMost a)
    (hLe : a ≤ b) :
    x.AtMost b := by
  cases x with
  | nan negative => exact h.elim
  | infinite negative => exact h
  | finite negative magnitude => exact le_trans h hLe

/- A number of the format is not rounded. -/
theorem roundTo_of_represents
    (hBits : 0 < F.precision)
    {negative : Bool}
    {magnitude : ℚ≥0}
    (hRep : F.Represents (signed negative magnitude)) :
    (FloatDatum.finite negative magnitude).roundTo F =
      .finite negative magnitude := by
  have hLow :
      (FloatDatum.finite negative magnitude).AtLeast
        (signed negative magnitude) :=
    le_refl _
  have hHigh :
      (FloatDatum.finite negative magnitude).AtMost
        (signed negative magnitude) :=
    le_refl _
  have hLow' := hLow.roundTo hBits hRep
  have hHigh' := hHigh.roundTo hBits hRep
  simp only [FloatDatum.roundTo] at hLow' hHigh' ⊢
  split at hLow'
  · rename_i hOver
    rw [if_pos hOver] at hHigh'
    have hFalse : negative = false := hLow'
    have hTrue : negative = true := hHigh'
    rw [hFalse] at hTrue
    cases hTrue
  · rename_i hIn
    rw [if_neg hIn] at hHigh' ⊢
    have hSame := le_antisymm hHigh' hLow'
    congr 1
    cases negative with
    | false => exact NNRat.coe_injective hSame
    | true => exact NNRat.coe_injective (neg_injective hSame)

/- A kind of bound that the operations keep. -/
structure IsBound
    (Bound : ℚ → FloatDatum → Prop) : Prop where
  ofInt : ∀ n : Int, Bound n (ofInt n)
  exactSum :
    ∀ {a b x y}, Bound a x → Bound b y →
      Bound (a + b) (x.exactSum y)
  exactQuotient :
    ∀ {a x} {d : ℚ≥0}, 0 < d → Bound (a * d) x →
      Bound a (x.exactQuotient (.finite false d))
  roundTo :
    ∀ {F : FloatFormat} {a x}, 0 < F.precision →
      F.Represents a → Bound a x → Bound a (x.roundTo F)

theorem isBound_atLeast :
    IsBound AtLeast where
  ofInt := atLeast_ofInt
  exactSum := AtLeast.exactSum
  exactQuotient := AtLeast.exactQuotient
  roundTo := AtLeast.roundTo

theorem isBound_atMost :
    IsBound AtMost where
  ofInt := atMost_ofInt
  exactSum := AtMost.exactSum
  exactQuotient := AtMost.exactQuotient
  roundTo := AtMost.roundTo

end FloatDatum

end Foundations
