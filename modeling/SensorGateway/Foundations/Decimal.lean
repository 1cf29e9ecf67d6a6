import Mathlib.Algebra.Ring.Nat
import Mathlib.Data.Nat.Log
import Mathlib.Tactic.IntervalCases
import Mathlib.Tactic.Ring

/-
  Numbers as decimal digits, and the digits read back.

  A text is a list of bytes. The digits of a number are those
  that the core library computes; a fixed number of digits is
  padded by zeros in front.

  Key definitions include:
    * `text`
    * `digit`
    * `IsDecimalDigit`
    * `decimal`
    * `padded`
    * `digitValue`

  Key theorems include:
    * `digitValue_decimal`
    * `digitValue_append_padded`
    * `length_decimal`
    * `length_decimal_le_iff`
-/

------------------------------------------------------------
-- Texts
------------------------------------------------------------

namespace Foundations

/- The byte of an ASCII character. -/
def charByte
    (c : Char) :
    BitVec 8 :=
  BitVec.ofNat 8 c.toNat

/- The bytes of an ASCII string. -/
def text
    (s : String) :
    List (BitVec 8) :=
  s.toList.map charByte

/- The digit of a number below ten. -/
def digit
    (d : Nat) :
    BitVec 8 :=
  BitVec.ofNat 8 (48 + d)

def IsDecimalDigit
    (b : BitVec 8) : Prop :=
  48 ≤ b.toNat ∧ b.toNat ≤ 57

theorem digit_toNat
    {d : Nat}
    (hLt : d < 10) :
    (digit d).toNat = 48 + d := by
  unfold digit
  rw [BitVec.toNat_ofNat]
  omega

theorem isDecimalDigit_digit
    {d : Nat}
    (hLt : d < 10) :
    IsDecimalDigit (digit d) := by
  unfold IsDecimalDigit
  rw [digit_toNat hLt]
  omega

theorem charByte_digitChar
    {d : Nat}
    (hLt : d < 10) :
    charByte d.digitChar = digit d := by
  interval_cases d <;> rfl

------------------------------------------------------------
-- Digits
------------------------------------------------------------

/- The digits of a number, without leading zeros. -/
def decimal
    (n : Nat) :
    List (BitVec 8) :=
  (Nat.toDigits 10 n).map charByte

/- The last `k` digits of a number, with leading zeros. -/
def padded :
    Nat → Nat → List (BitVec 8)
| 0, _ => []
| k + 1, n => padded k (n / 10) ++ [digit (n % 10)]

/- The number that digits stand for. -/
def digitValue
    (digits : List (BitVec 8)) :
    Nat :=
  digits.foldl (fun n b => 10 * n + (b.toNat - 48)) 0

theorem decimal_of_lt
    {n : Nat}
    (hLt : n < 10) :
    decimal n = [digit n] := by
  unfold decimal
  rw [Nat.toDigits_of_lt_base hLt, List.map_singleton,
    charByte_digitChar hLt]

theorem decimal_of_le
    {n : Nat}
    (hLe : 10 ≤ n) :
    decimal n = decimal (n / 10) ++ [digit (n % 10)] := by
  unfold decimal
  rw [Nat.toDigits_of_base_le (by decide) hLe,
    List.map_append, List.map_singleton,
    charByte_digitChar (Nat.mod_lt n (by decide))]

theorem decimal_ne_nil
    (n : Nat) :
    decimal n ≠ [] := by
  unfold decimal
  intro hNil
  exact Nat.toDigits_ne_nil (List.map_eq_nil_iff.mp hNil)

/- There are only digits. -/
theorem isDecimalDigit_of_mem_decimal
    (n : Nat) :
    ∀ b ∈ decimal n, IsDecimalDigit b := by
  induction n using Nat.strong_induction_on with
  | h n ih =>
      intro b hMem
      rcases Nat.lt_or_ge n 10 with hLt | hLe
      · rw [decimal_of_lt hLt, List.mem_singleton] at hMem
        rw [hMem]
        exact isDecimalDigit_digit hLt
      · rw [decimal_of_le hLe, List.mem_append,
          List.mem_singleton] at hMem
        rcases hMem with hFront | rfl
        · exact ih (n / 10) (by omega) b hFront
        · exact isDecimalDigit_digit
            (Nat.mod_lt n (by decide))

theorem isDecimalDigit_of_mem_padded
    (k : Nat) :
    ∀ n, ∀ b ∈ padded k n, IsDecimalDigit b := by
  induction k with
  | zero =>
      intro n b hMem
      cases hMem
  | succ k ih =>
      intro n b hMem
      rw [padded, List.mem_append,
        List.mem_singleton] at hMem
      rcases hMem with hFront | rfl
      · exact ih (n / 10) b hFront
      · exact isDecimalDigit_digit
          (Nat.mod_lt n (by decide))

------------------------------------------------------------
-- Values
------------------------------------------------------------

theorem digitValue_append_digit
    (digits : List (BitVec 8))
    {d : Nat}
    (hLt : d < 10) :
    digitValue (digits ++ [digit d]) =
      10 * digitValue digits + d := by
  unfold digitValue
  rw [List.foldl_append, List.foldl_cons, List.foldl_nil,
    digit_toNat hLt, Nat.add_sub_cancel_left]

/- The digits of a number stand for it. -/
theorem digitValue_decimal
    (n : Nat) :
    digitValue (decimal n) = n := by
  induction n using Nat.strong_induction_on with
  | h n ih =>
      rcases Nat.lt_or_ge n 10 with hLt | hLe
      · rw [decimal_of_lt hLt]
        have hValue := digitValue_append_digit [] hLt
        rw [List.nil_append] at hValue
        rw [hValue]
        simp [digitValue]
      · rw [decimal_of_le hLe,
          digitValue_append_digit _
            (Nat.mod_lt n (by decide)),
          ih (n / 10) (by omega)]
        omega

/- Digits behind others shift those to the left. -/
theorem digitValue_append_padded
    (digits : List (BitVec 8))
    (k : Nat) :
    ∀ n, n < 10 ^ k →
      digitValue (digits ++ padded k n) =
        digitValue digits * 10 ^ k + n := by
  induction k with
  | zero =>
      intro n hLt
      rw [padded, List.append_nil]
      omega
  | succ k ih =>
      intro n hLt
      have hFront : n / 10 < 10 ^ k := by
        rw [Nat.pow_succ] at hLt
        omega
      rw [padded, ← List.append_assoc,
        digitValue_append_digit _ (Nat.mod_lt n (by decide)),
        ih (n / 10) hFront, Nat.pow_succ]
      have hSplit := Nat.div_add_mod n 10
      calc
        10 * (digitValue digits * 10 ^ k + n / 10) + n % 10
            = digitValue digits * (10 ^ k * 10) +
                (10 * (n / 10) + n % 10) := by ring
        _ = digitValue digits * (10 ^ k * 10) + n := by
              rw [hSplit]

------------------------------------------------------------
-- Lengths
------------------------------------------------------------

theorem length_padded
    (k : Nat) :
    ∀ n, (padded k n).length = k := by
  induction k with
  | zero => exact fun _ => rfl
  | succ k ih =>
      intro n
      rw [padded, List.length_append, ih (n / 10),
        List.length_singleton]

theorem length_decimal
    (n : Nat) :
    (decimal n).length = Nat.log 10 n + 1 := by
  induction n using Nat.strong_induction_on with
  | h n ih =>
      rcases Nat.lt_or_ge n 10 with hLt | hLe
      · rw [decimal_of_lt hLt, Nat.log_of_lt hLt]
        rfl
      · rw [decimal_of_le hLe, List.length_append,
          ih (n / 10) (by omega), List.length_singleton,
          Nat.log_of_one_lt_of_le (by decide) hLe]

theorem length_decimal_le_iff
    {n k : Nat}
    (hPos : 0 < k) :
    (decimal n).length ≤ k ↔ n < 10 ^ k := by
  unfold decimal
  rw [List.length_map]
  exact Nat.length_toDigits_le_iff (by decide) hPos

end Foundations
