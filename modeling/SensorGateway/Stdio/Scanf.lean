import Mathlib.Data.List.Basic
import SensorGateway.Foundations.FloatFormat
import SensorGateway.Foundations.Scanner
import SensorGateway.Stdio.Printf

/-
  The conversions of `scanf` that the programs use.

  A `%hu` skips white space, takes a sign if there is one,
  and then decimal digits. The number is computed as by
  `strtoul`, and its low 16 bits are stored. A `%ld` does so
  as by `strtol`. A `%f` takes what `strtod` takes: a decimal
  or a hexadecimal number, an infinity or a NaN. Its number
  is given as it is written; a `float` is the nearest one.

  A conversion fails if its item is only the beginning of a
  number.

  Key definitions include:
    * `strtoul`
    * `strtol`
    * `scanUnsignedShort`
    * `scanLong`
    * `scanFloat`

  Key theorems include:
    * `scanUnsignedShort_progresses`
-/

------------------------------------------------------------
-- Integers
------------------------------------------------------------

namespace SensorGateway

open Foundations

/- `isspace` in the C locale. -/
def isSpace
    (b : BitVec 8) :
    Bool :=
  b.toNat = 32 || (9 ≤ b.toNat && b.toNat ≤ 13)

def isDigit
    (b : BitVec 8) :
    Bool :=
  48 ≤ b.toNat && b.toNat ≤ 57

/- The largest `unsigned long`. -/
def ulongMax : Nat :=
  2 ^ 64 - 1

/-
  `strtoul` on a sign and digits: a number that is too large
  gives the largest one, and a minus sign negates the others
  modulo the word size.
-/
def strtoul
    (negative : Bool)
    (digits : List (BitVec 8)) :
    Nat :=
  let n :=
    digits.foldl (fun n b => 10 * n + (b.toNat - 48)) 0
  if ulongMax < n then
    ulongMax
  else if negative then
    (2 ^ 64 - n) % 2 ^ 64
  else
    n

/-
  `strtol` on a sign and digits: a number that does not fit
  gives the nearest one that does.
-/
def strtol
    (negative : Bool)
    (digits : List (BitVec 8)) :
    Int :=
  let n := digitValue digits
  if negative then
    if 2 ^ 63 < n then
      -2 ^ 63
    else
      -n
  else if 2 ^ 63 - 1 < n then
    2 ^ 63 - 1
  else
    n

/- A sign in front, if there is one. -/
def scanSign :
    List (BitVec 8) → Bool × List (BitVec 8)
| [] => (false, [])
| b :: bytes =>
    if b.toNat = 45 then
      (true, bytes)
    else if b.toNat = 43 then
      (false, bytes)
    else
      (false, b :: bytes)

/- The conversion `%hu`; it fails without a digit. -/
def scanUnsignedShort :
    Scanner (BitVec 8) (BitVec 16) :=
  fun bytes =>
    let (negative, bytes) :=
      scanSign (bytes.dropWhile isSpace)
    let digits := bytes.takeWhile isDigit
    if digits = [] then
      none
    else
      some
        (BitVec.ofNat 16 (strtoul negative digits),
          bytes.dropWhile isDigit)

/- The conversion `%ld`; it fails without a digit. -/
def scanLong :
    Scanner (BitVec 8) (BitVec 64) :=
  fun bytes =>
    let (negative, bytes) :=
      scanSign (bytes.dropWhile isSpace)
    let digits := bytes.takeWhile isDigit
    if digits = [] then
      none
    else
      some
        (BitVec.ofInt 64 (strtol negative digits),
          bytes.dropWhile isDigit)

/- A character of the format that is no conversion. -/
def scanLiteral
    (c : Char) :
    List (BitVec 8) → Option (List (BitVec 8))
| [] => none
| b :: bytes => if b = charByte c then some bytes else none

theorem length_scanSign_le
    (bytes : List (BitVec 8)) :
    (scanSign bytes).2.length ≤ bytes.length := by
  cases bytes with
  | nil => exact Nat.le_refl _
  | cons b bytes =>
      rw [scanSign]
      split
      · exact Nat.le_succ _
      · split
        · exact Nat.le_succ _
        · exact Nat.le_refl _

/- A number has a digit at least. -/
theorem scanUnsignedShort_progresses :
    Scanner.Progresses scanUnsignedShort := by
  intro bytes x rest hScan
  simp only [scanUnsignedShort] at hScan
  split at hScan
  · cases hScan
  · rename_i hDigits
    cases hScan
    have hSign :=
      length_scanSign_le (bytes.dropWhile isSpace)
    have hSpace :
        (bytes.dropWhile isSpace).length ≤ bytes.length :=
      (List.dropWhile_sublist _).length_le
    have hSplit :=
      congrArg List.length
        (List.takeWhile_append_dropWhile (p := isDigit)
          (l := (scanSign (bytes.dropWhile isSpace)).2))
    rw [List.length_append] at hSplit
    have hSome := List.length_pos_of_ne_nil hDigits
    omega

------------------------------------------------------------
-- Floating-Point Numbers
------------------------------------------------------------

/- `tolower` in the C locale. -/
def toLower
    (b : BitVec 8) :
    BitVec 8 :=
  if 65 ≤ b.toNat && b.toNat ≤ 90 then b + 32 else b

/- A word, in lower or upper case. -/
def scanWord :
    List (BitVec 8) → List (BitVec 8) →
      Option (List (BitVec 8))
| [], bytes => some bytes
| _ :: _, [] => none
| w :: word, b :: bytes =>
    if toLower b = w then
      scanWord word bytes
    else
      none

def isHexDigit
    (b : BitVec 8) :
    Bool :=
  isDigit b ||
    (97 ≤ (toLower b).toNat && (toLower b).toNat ≤ 102)

/- The value of a hexadecimal digit. -/
def hexDigitValue
    (b : BitVec 8) :
    Nat :=
  if isDigit b then
    b.toNat - 48
  else
    (toLower b).toNat - 87

/-
  The two ways to write a number: the base of its digits,
  the letter in front of an exponent, and what is raised to
  that power.
-/
structure Radix where
  base : Nat
  isDigit : BitVec 8 → Bool
  exponentChar : BitVec 8
  exponentBase : Nat

def decimalRadix : Radix where
  base := 10
  isDigit := isDigit
  exponentChar := charByte 'e'
  exponentBase := 10

def hexRadix : Radix where
  base := 16
  isDigit := isHexDigit
  exponentChar := charByte 'p'
  exponentBase := 2

/- The number that digits stand for. -/
def Radix.value
    (s : Radix)
    (digits : List (BitVec 8)) :
    Nat :=
  digits.foldl (fun n b => s.base * n + hexDigitValue b) 0

/-
  Digits with a point among them, or without one: the number
  they stand for without the point, and how many digits are
  behind it. There is one digit at least.
-/
def scanSignificand
    (s : Radix) :
    Scanner (BitVec 8) (Nat × Nat) :=
  fun bytes =>
    let whole := bytes.takeWhile s.isDigit
    let bytes := bytes.dropWhile s.isDigit
    let (fraction, bytes) :=
      match scanLiteral '.' bytes with
      | some bytes =>
          (bytes.takeWhile s.isDigit,
            bytes.dropWhile s.isDigit)
      | none => ([], bytes)
    if whole ++ fraction = [] then
      none
    else
      some
        ((s.value (whole ++ fraction), fraction.length),
          bytes)

/- An exponent, if its letter is there. -/
def scanExponent
    (s : Radix) :
    Scanner (BitVec 8) Int :=
  fun bytes =>
    match scanWord [s.exponentChar] bytes with
    | none => some (0, bytes)
    | some bytes =>
        let (negative, bytes) := scanSign bytes
        let digits := bytes.takeWhile SensorGateway.isDigit
        if digits = [] then
          none
        else
          some
            (if negative then
                -(digitValue digits : Int)
              else
                digitValue digits,
              bytes.dropWhile SensorGateway.isDigit)

/- The number itself. -/
def scanMagnitude
    (s : Radix) :
    Scanner (BitVec 8) ℚ≥0 :=
  fun bytes => do
    let ((digits, places), bytes) ← scanSignificand s bytes
    let (exponent, bytes) ← scanExponent s bytes
    let numerator :=
      digits * s.exponentBase ^ exponent.toNat
    let denominator :=
      s.base ^ places * s.exponentBase ^ (-exponent).toNat
    return (NNRat.divNat numerator denominator, bytes)

/- The conversion `%f`, without rounding. -/
def scanFloat :
    Scanner (BitVec 8) FloatDatum :=
  fun bytes =>
    let (negative, bytes) :=
      scanSign (bytes.dropWhile isSpace)
    match scanWord (text "inf") bytes with
    | some bytes =>
        match scanWord (text "i") bytes with
        | some bytes =>
            (scanWord (text "nity") bytes).map
              fun bytes => (.infinite negative, bytes)
        | none => some (.infinite negative, bytes)
    | none =>
        match scanWord (text "nan") bytes with
        | some bytes => some (.nan negative, bytes)
        | none =>
            let number :=
              match scanWord (text "0x") bytes with
              | some bytes => scanMagnitude hexRadix bytes
              | none => scanMagnitude decimalRadix bytes
            number.map fun (magnitude, bytes) =>
              (.finite negative magnitude, bytes)

end SensorGateway
