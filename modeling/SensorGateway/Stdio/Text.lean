import SensorGateway.Foundations.Bytes
import SensorGateway.Stdio.RoundTrip

/-
  Functions of the C library on strings that are neither
  printed nor scanned by a format.

  Key definitions include:
    * `strncpy`
    * `atoi`
    * `inetNtoa`

  Key theorems include:
    * `cString_strncpy`
    * `atoi_decimal_append_of_lt`
    * `length_inetNtoa_le`
-/

------------------------------------------------------------
-- Copies
------------------------------------------------------------

namespace SensorGateway

open Foundations

/-
  What `strncpy` stores for a string: its first `size`
  characters, and NULs up to that number.
-/
def strncpy
    (size : Nat)
    (s : List (BitVec 8)) :
    List (BitVec 8) :=
  s.take size ++ List.replicate (size - s.length) 0

/- The copy of a string that fits, with a NUL or without. -/
theorem cString_strncpy
    {s : List (BitVec 8)}
    (hNul : 0 ∉ s)
    (size : Nat) :
    cString (strncpy size s) = s.take size := by
  have hStop :
      ∀ b ∈ (List.replicate (size - s.length)
        (0 : BitVec 8)).head?, decide (b ≠ 0) = false := by
    intro b hMem
    rw [List.head?_replicate] at hMem
    split at hMem
    · cases hMem
    · cases hMem
      rfl
  apply takeWhile_append_stop
  · intro b hMem
    rw [decide_eq_true_eq]
    intro hZero
    rw [hZero] at hMem
    exact hNul (List.mem_of_mem_take hMem)
  · exact hStop

------------------------------------------------------------
-- Numbers
------------------------------------------------------------

/- `atoi`: what `strtol` returns, converted to an `int`. -/
def atoi
    (s : List (BitVec 8)) :
    Int :=
  let (negative, bytes) := scanSign (s.dropWhile isSpace)
  (BitVec.ofInt 32
    (strtol negative (bytes.takeWhile isDigit))).toInt

/- Digits in front, and whatever ends them. -/
theorem atoi_decimal_append
    (n : Nat)
    {rest : List (BitVec 8)}
    (hEnds : ∀ b ∈ rest.head?, isDigit b = false) :
    atoi (decimal n ++ rest) =
      (BitVec.ofInt 32 (min n (2 ^ 63 - 1))).toInt := by
  have hDigits := isDecimalDigit_of_mem_decimal n
  have hSome := decimal_ne_nil n
  have hPlain := @scanSign_of_digits _ rest hSome hDigits
  have hTake := takeWhile_isDigit hDigits hEnds
  unfold atoi
  rw [hPlain.2, hPlain.1]
  simp only [hTake.1]
  congr 2
  unfold strtol
  rw [digitValue_decimal]
  simp only [Bool.false_eq_true, if_false]
  split <;> omega

/- The digits of a number that is an `int` are read back. -/
theorem atoi_decimal_append_of_lt
    {n : Nat}
    (hLt : n < 2 ^ 31)
    {rest : List (BitVec 8)}
    (hEnds : ∀ b ∈ rest.head?, isDigit b = false) :
    atoi (decimal n ++ rest) = n := by
  rw [atoi_decimal_append n hEnds,
    Int.min_eq_left (by omega), BitVec.toInt_ofInt,
    Int.bmod_eq_of_le (by omega) (by omega)]

------------------------------------------------------------
-- Addresses
------------------------------------------------------------

/- An IPv4 address, in the order of the network. -/
abbrev InAddr :=
  Bytes 4

/- `inet_ntoa`: the four numbers with dots in between. -/
def inetNtoa
    (addr : InAddr) :
    List (BitVec 8) :=
  decimal (addr 0).toNat ++
    (text "." ++
      (decimal (addr 1).toNat ++
        (text "." ++
          (decimal (addr 2).toNat ++
            (text "." ++ decimal (addr 3).toNat)))))

theorem noControl_inetNtoa
    (addr : InAddr) :
    NoControl (inetNtoa addr) := by
  have hDot : NoControl (text ".") := by decide
  exact
    (noControl_decimal _).append
      (hDot.append
        ((noControl_decimal _).append
          (hDot.append
            ((noControl_decimal _).append
              (hDot.append (noControl_decimal _))))))

/- A number of an address has three digits at most. -/
theorem length_inetNtoa_le
    (addr : InAddr) :
    (inetNtoa addr).length ≤ 15 := by
  have hDot : (text ".").length = 1 := rfl
  have hNumber :
      ∀ b : BitVec 8, (decimal b.toNat).length ≤ 3 := by
    intro b
    rw [length_decimal]
    exact decimalWidth_le_of_lt (by decide)
      (Nat.lt_trans b.isLt (by decide))
  have hFirst := hNumber (addr 0)
  have hSecond := hNumber (addr 1)
  have hThird := hNumber (addr 2)
  have hFourth := hNumber (addr 3)
  unfold inetNtoa
  simp only [List.length_append, hDot]
  omega

end SensorGateway
