import Mathlib.Data.List.TakeWhile
import SensorGateway.Foundations.Decimal
import SensorGateway.Foundations.FloatFormat
import SensorGateway.Foundations.Lines

/-
  The conversions of `printf` that the programs use, and the
  functions of `string.h` around them.

  A C string is the list of its bytes. What the conversions
  print has no control characters, so a newline in an output
  comes from the format or from a string argument.

  Key definitions include:
    * `cString`
    * `snprintf`
    * `strtok`
    * `printSigned`
    * `printFixed`
    * `IsPrintedLine`

  Key theorems include:
    * `snprintf_of_fits`
    * `length_printSigned`
    * `length_printFixed_of_finite`
-/

------------------------------------------------------------
-- Strings
------------------------------------------------------------

namespace SensorGateway

open Foundations

def newline : BitVec 8 :=
  charByte '\n'

/- The bytes of a buffer in front of its first NUL. -/
def cString
    (buffer : List (BitVec 8)) :
    List (BitVec 8) :=
  buffer.takeWhile (· ≠ 0)

/-
  The string that `snprintf` leaves in a buffer of `size`
  bytes; one of them is for the NUL.
-/
def snprintf
    (size : Nat)
    (output : List (BitVec 8)) :
    List (BitVec 8) :=
  output.take (size - 1)

/- The first token of `strtok` with one delimiter. -/
def strtok
    (delimiter : BitVec 8)
    (s : List (BitVec 8)) :
    List (BitVec 8) :=
  (s.dropWhile (· = delimiter)).takeWhile (· ≠ delimiter)

/- No NUL, and no newline or other control character. -/
def NoControl
    (bytes : List (BitVec 8)) : Prop :=
  ∀ b ∈ bytes, 32 ≤ b.toNat

instance (bytes : List (BitVec 8)) :
    Decidable (NoControl bytes) :=
  decidable_of_iff
    ((bytes.all fun b => Nat.ble 32 b.toNat) = true)
    (by simp [NoControl, List.all_eq_true, Nat.ble_eq])

theorem NoControl.append
    {bytes bytes' : List (BitVec 8)}
    (h : NoControl bytes)
    (h' : NoControl bytes') :
    NoControl (bytes ++ bytes') := by
  intro b hMem
  rcases List.mem_append.mp hMem with hLeft | hRight
  · exact h b hLeft
  · exact h' b hRight

theorem NoControl.newline_not_mem
    {bytes : List (BitVec 8)}
    (h : NoControl bytes) :
    newline ∉ bytes := by
  intro hMem
  exact absurd (h _ hMem) (by decide)

theorem NoControl.nul_not_mem
    {bytes : List (BitVec 8)}
    (h : NoControl bytes) :
    0 ∉ bytes := by
  intro hMem
  exact absurd (h _ hMem) (by decide)

/- Without a NUL, the whole buffer is the string. -/
theorem cString_of_nul_not_mem
    {bytes : List (BitVec 8)}
    (h : 0 ∉ bytes) :
    cString bytes = bytes := by
  apply List.takeWhile_eq_self_iff.mpr
  intro b hMem
  rw [decide_eq_true_eq]
  intro hZero
  rw [hZero] at hMem
  exact h hMem

theorem nul_not_mem_cString
    (buffer : List (BitVec 8)) :
    0 ∉ cString buffer := by
  intro hMem
  have hNonzero := List.mem_takeWhile_imp hMem
  rw [decide_eq_true_eq] at hNonzero
  exact hNonzero rfl

theorem snprintf_of_fits
    {size : Nat}
    {output : List (BitVec 8)}
    (hFits : output.length < size) :
    snprintf size output = output :=
  List.take_of_length_le (Nat.le_sub_one_of_lt hFits)

/- A token in front of the first delimiter. -/
theorem strtok_append
    {delimiter : BitVec 8}
    {token rest : List (BitVec 8)}
    (hSome : token ≠ [])
    (hToken : delimiter ∉ token) :
    strtok delimiter (token ++ delimiter :: rest) =
      token := by
  have hOther : ∀ b ∈ token, b ≠ delimiter := by
    intro b hMem hEq
    rw [hEq] at hMem
    exact hToken hMem
  have hHead :
      ∀ b ∈ (token ++ delimiter :: rest).head?,
        decide (b = delimiter) = false := by
    cases token with
    | nil => exact absurd rfl hSome
    | cons c token =>
        intro b hMem
        cases hMem
        simpa using hOther c List.mem_cons_self
  have hDrop :
      (token ++ delimiter :: rest).dropWhile
          (· = delimiter) =
        token ++ delimiter :: rest :=
    @dropWhile_append_stop _ _ [] _ (List.forall_mem_nil _)
      hHead
  unfold strtok
  rw [hDrop]
  apply takeWhile_append_stop
  · simpa using hOther
  · intro b hMem
    cases hMem
    simp

------------------------------------------------------------
-- Conversions
------------------------------------------------------------

/- The sign in front of a number. -/
def printSign
    (negative : Bool) :
    List (BitVec 8) :=
  if negative then text "-" else []

/- The conversions `%d` and `%ld`. -/
def printSigned
    (i : Int) :
    List (BitVec 8) :=
  printSign (i < 0) ++ decimal i.natAbs

/- The conversion `%hu`. -/
def printUnsignedShort
    (n : BitVec 16) :
    List (BitVec 8) :=
  decimal n.toNat

/-
  A magnitude in units of the last of `precision` decimal
  places, rounded half to even.
-/
def scaledMagnitude
    (precision : Nat)
    (magnitude : ℚ≥0) :
    Nat :=
  roundHalfEven (magnitude * (10 ^ precision : Nat))

/- The conversion `%f` with a precision that is not zero. -/
def printFixed
    (precision : Nat) :
    FloatDatum → List (BitVec 8)
| .finite negative magnitude =>
    let units := scaledMagnitude precision magnitude
    printSign negative ++
      (decimal (units / 10 ^ precision) ++
        (text "." ++
          padded precision (units % 10 ^ precision)))
| .infinite negative => printSign negative ++ text "inf"
| .nan negative => printSign negative ++ text "nan"

/- The number of bytes of a sign. -/
def signWidth
    (negative : Bool) :
    Nat :=
  if negative then 1 else 0

/- The number of digits of a number. -/
def decimalWidth
    (n : Nat) :
    Nat :=
  Nat.log 10 n + 1

theorem length_printSign
    (negative : Bool) :
    (printSign negative).length = signWidth negative := by
  cases negative <;> rfl

theorem signWidth_le
    (negative : Bool) :
    signWidth negative ≤ 1 := by
  cases negative <;> decide

theorem length_printSigned
    (i : Int) :
    (printSigned i).length =
      signWidth (i < 0) + decimalWidth i.natAbs := by
  unfold printSigned
  rw [List.length_append, length_printSign, length_decimal]
  rfl

theorem length_printUnsignedShort
    (n : BitVec 16) :
    (printUnsignedShort n).length =
      decimalWidth n.toNat :=
  length_decimal n.toNat

theorem length_printFixed_of_finite
    (precision : Nat)
    (negative : Bool)
    (magnitude : ℚ≥0) :
    (printFixed precision (.finite negative magnitude)).length =
      signWidth negative +
        decimalWidth
          (scaledMagnitude precision magnitude /
            10 ^ precision) +
        (1 + precision) := by
  simp only [printFixed]
  rw [List.length_append, List.length_append,
    List.length_append, length_printSign, length_decimal,
    length_padded]
  unfold decimalWidth
  have hPoint : (text ".").length = 1 := rfl
  omega

theorem decimalWidth_le_of_lt
    {n k : Nat}
    (hPos : 0 < k)
    (hLt : n < 10 ^ k) :
    decimalWidth n ≤ k := by
  rw [decimalWidth, ← length_decimal]
  exact (length_decimal_le_iff hPos).mpr hLt

------------------------------------------------------------
-- Only Printable Characters
------------------------------------------------------------

theorem noControl_of_digits
    {bytes : List (BitVec 8)}
    (h : ∀ b ∈ bytes, IsDecimalDigit b) :
    NoControl bytes :=
  fun b hMem => Nat.le_trans (by decide) (h b hMem).1

theorem noControl_decimal
    (n : Nat) :
    NoControl (decimal n) :=
  noControl_of_digits (isDecimalDigit_of_mem_decimal n)

theorem noControl_printSign
    (negative : Bool) :
    NoControl (printSign negative) := by
  cases negative <;> decide

theorem noControl_printSigned
    (i : Int) :
    NoControl (printSigned i) :=
  (noControl_printSign _).append (noControl_decimal _)

theorem noControl_printFixed
    (precision : Nat)
    (x : FloatDatum) :
    NoControl (printFixed precision x) := by
  cases x with
  | finite negative magnitude =>
      refine (noControl_printSign _).append
        ((noControl_decimal _).append ?_)
      have hPoint : NoControl (text ".") := by decide
      exact hPoint.append
        (noControl_of_digits
          (isDecimalDigit_of_mem_padded _ _))
  | infinite negative =>
      have hInf : NoControl (text "inf") := by decide
      exact (noControl_printSign _).append hInf
  | nan negative =>
      have hNan : NoControl (text "nan") := by decide
      exact (noControl_printSign _).append hNan

------------------------------------------------------------
-- Printed Lines
------------------------------------------------------------

/-
  A text that ends in its only newline, and has no other
  control characters.
-/
def IsPrintedLine
    (msg : List (BitVec 8)) : Prop :=
  ∃ body, NoControl body ∧ msg = body ++ [newline]

theorem IsPrintedLine.isLine
    {msg : List (BitVec 8)}
    (h : IsPrintedLine msg) :
    IsLine newline msg := by
  rcases h with ⟨body, hBody, rfl⟩
  exact ⟨body, hBody.newline_not_mem, rfl⟩

theorem IsPrintedLine.nul_not_mem
    {msg : List (BitVec 8)}
    (h : IsPrintedLine msg) :
    0 ∉ msg := by
  rcases h with ⟨body, hBody, rfl⟩
  rw [List.mem_append, List.mem_singleton]
  rintro (hMem | hMem)
  · exact hBody.nul_not_mem hMem
  · exact absurd hMem (by decide)

theorem IsPrintedLine.append_left
    {front msg : List (BitVec 8)}
    (hFront : NoControl front)
    (h : IsPrintedLine msg) :
    IsPrintedLine (front ++ msg) := by
  rcases h with ⟨body, hBody, rfl⟩
  exact
    ⟨front ++ body, hFront.append hBody,
      (List.append_assoc _ _ _).symm⟩

/- A literal of the source, up to its newline. -/
theorem isPrintedLine_text
    {s : String}
    (hBody : NoControl (text s).dropLast)
    (hEnd : (text s).getLast? = some newline) :
    IsPrintedLine (text s) := by
  refine ⟨(text s).dropLast, hBody, ?_⟩
  exact (List.dropLast_append_getLast? _ hEnd).symm

end SensorGateway
