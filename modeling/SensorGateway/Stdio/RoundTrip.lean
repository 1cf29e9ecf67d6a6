import Mathlib.Algebra.Order.Field.Rat
import SensorGateway.Stdio.Scanf

/-
  What `printf` prints, `scanf` reads back: each conversion
  takes exactly the text of its number, if no digit follows.

  Key definitions include:
    * `Ends`

  Key theorems include:
    * `scanUnsignedShort_print`
    * `scanLong_print`
    * `scanMagnitude_print`
    * `scanFloat_print`
-/

------------------------------------------------------------
-- Digits in Front
------------------------------------------------------------

namespace SensorGateway

open Foundations

/- A number ends here: no digit or exponent follows. -/
def Ends :
    List (BitVec 8) → Prop
| [] => True
| b :: _ => isDigit b = false ∧ toLower b ≠ charByte 'e'

instance : DecidablePred Ends
| [] => .isTrue trivial
| _ :: _ => inferInstanceAs (Decidable (_ ∧ _))

theorem isDigit_eq_true_iff
    (b : BitVec 8) :
    isDigit b = true ↔ IsDecimalDigit b := by
  unfold isDigit IsDecimalDigit
  rw [Bool.and_eq_true, decide_eq_true_eq,
    decide_eq_true_eq]

theorem isSpace_eq_false_of_isDecimalDigit
    {b : BitVec 8}
    (h : IsDecimalDigit b) :
    isSpace b = false := by
  unfold IsDecimalDigit at h
  unfold isSpace
  rw [Bool.or_eq_false_iff, Bool.and_eq_false_iff]
  simp only [decide_eq_false_iff_not]
  omega

/- Digits are taken up to the end of the number. -/
theorem takeWhile_isDigit
    {digits rest : List (BitVec 8)}
    (hDigits : ∀ b ∈ digits, IsDecimalDigit b)
    (hEnds : ∀ b ∈ rest.head?, isDigit b = false) :
    (digits ++ rest).takeWhile isDigit = digits ∧
      (digits ++ rest).dropWhile isDigit = rest := by
  have hAll : ∀ b ∈ digits, isDigit b = true :=
    fun b hMem => (isDigit_eq_true_iff b).mpr (hDigits b hMem)
  exact
    ⟨takeWhile_append_stop hAll hEnds,
      dropWhile_append_stop hAll hEnds⟩

theorem Ends.head_not_digit
    {rest : List (BitVec 8)}
    (h : Ends rest) :
    ∀ b ∈ rest.head?, isDigit b = false := by
  intro b hMem
  cases rest with
  | nil => cases hMem
  | cons c rest =>
      cases hMem
      exact h.1

theorem isDecimalDigit_ne
    {b : BitVec 8}
    (h : IsDecimalDigit b) :
    b.toNat ≠ 45 ∧ b.toNat ≠ 43 := by
  unfold IsDecimalDigit at h
  omega

/- A number in front has no sign and no space before it. -/
theorem scanSign_of_digits
    {digits rest : List (BitVec 8)}
    (hSome : digits ≠ [])
    (hDigits : ∀ b ∈ digits, IsDecimalDigit b) :
    scanSign (digits ++ rest) = (false, digits ++ rest) ∧
      (digits ++ rest).dropWhile isSpace =
        digits ++ rest := by
  cases digits with
  | nil => exact absurd rfl hSome
  | cons b digits =>
      have hDigit := hDigits b List.mem_cons_self
      have hSign := isDecimalDigit_ne hDigit
      rw [List.cons_append]
      constructor
      · rw [scanSign, if_neg hSign.1, if_neg hSign.2]
      · apply List.dropWhile_cons_of_neg
        rw [isSpace_eq_false_of_isDecimalDigit hDigit]
        decide

/- A printed sign is read back. -/
theorem scanSign_print
    (negative : Bool)
    {digits rest : List (BitVec 8)}
    (hSome : digits ≠ [])
    (hDigits : ∀ b ∈ digits, IsDecimalDigit b) :
    scanSign
        ((printSign negative ++ (digits ++ rest)).dropWhile
          isSpace) =
      (negative, digits ++ rest) := by
  have hPlain :=
    @scanSign_of_digits digits rest hSome hDigits
  cases negative with
  | false =>
      have hNoSign : printSign false = [] := rfl
      rw [hNoSign, List.nil_append, hPlain.2, hPlain.1]
  | true =>
      rfl

------------------------------------------------------------
-- Integers
------------------------------------------------------------

/- White space, and a printed number behind it. -/
theorem scanUnsignedShort_print
    (n : BitVec 16)
    (spaces rest : List (BitVec 8))
    (hSpaces : ∀ b ∈ spaces, isSpace b = true)
    (hEnds : ∀ b ∈ rest.head?, isDigit b = false) :
    scanUnsignedShort
        (spaces ++ (printUnsignedShort n ++ rest)) =
      some (n, rest) := by
  have hDigits := isDecimalDigit_of_mem_decimal n.toNat
  have hSome := decimal_ne_nil n.toNat
  have hPlain :=
    @scanSign_of_digits _ rest hSome hDigits
  have hTake := takeWhile_isDigit hDigits hEnds
  unfold printUnsignedShort
  simp only [scanUnsignedShort]
  rw [List.dropWhile_append_of_pos hSpaces, hPlain.2,
    hPlain.1]
  simp only
  rw [hTake.1, hTake.2, if_neg hSome]
  have hValue : strtoul false (decimal n.toNat) = n.toNat := by
    have hDecimal := digitValue_decimal n.toNat
    unfold digitValue at hDecimal
    have hSmall : ¬ulongMax < n.toNat := by
      have hLt := n.isLt
      unfold ulongMax
      omega
    simp only [strtoul]
    rw [hDecimal, if_neg hSmall]
    rfl
  rw [hValue, BitVec.ofNat_toNat, BitVec.setWidth_eq]

/- A `long` is not cut off. -/
theorem strtol_print
    {i : Int}
    (hLow : -2 ^ 63 ≤ i)
    (hHigh : i < 2 ^ 63) :
    strtol (i < 0) (decimal i.natAbs) = i := by
  simp only [strtol]
  rw [digitValue_decimal]
  rcases lt_or_ge i 0 with hNeg | hNonneg
  · rw [decide_eq_true hNeg, if_pos rfl,
      if_neg (by omega)]
    omega
  · rw [decide_eq_false (Int.not_lt.mpr hNonneg),
      if_neg Bool.false_ne_true, if_neg (by omega)]
    omega

theorem scanLong_print
    (ts : BitVec 64)
    {rest : List (BitVec 8)}
    (hEnds : ∀ b ∈ rest.head?, isDigit b = false) :
    scanLong (printSigned ts.toInt ++ rest) =
      some (ts, rest) := by
  have hDigits :=
    isDecimalDigit_of_mem_decimal ts.toInt.natAbs
  have hSome := decimal_ne_nil ts.toInt.natAbs
  have hTake := takeWhile_isDigit hDigits hEnds
  unfold printSigned
  simp only [scanLong]
  rw [List.append_assoc, scanSign_print _ hSome hDigits]
  simp only
  rw [hTake.1, hTake.2, if_neg hSome,
    strtol_print ts.le_toInt ts.toInt_lt, BitVec.ofInt_toInt]

------------------------------------------------------------
-- Floating-Point Numbers
------------------------------------------------------------

theorem value_decimalRadix
    {digits : List (BitVec 8)}
    (hDigits : ∀ b ∈ digits, IsDecimalDigit b) :
    decimalRadix.value digits = digitValue digits := by
  unfold Radix.value digitValue
  apply List.foldl_ext
  intro n b hMem
  have hDigit :=
    (isDigit_eq_true_iff b).mpr (hDigits b hMem)
  rw [hexDigitValue, if_pos hDigit]
  rfl

/- No other word begins with a digit. -/
theorem scanWord_of_digit
    {w b : BitVec 8}
    (word : List (BitVec 8))
    (bytes : List (BitVec 8))
    (hDigit : IsDecimalDigit b)
    (hWord : 58 ≤ w.toNat) :
    scanWord (w :: word) (b :: bytes) = none := by
  unfold IsDecimalDigit at hDigit
  have hLower : toLower b = b := by
    unfold toLower
    rw [if_neg]
    rw [Bool.and_eq_true, decide_eq_true_eq,
      decide_eq_true_eq]
    omega
  rw [scanWord, hLower, if_neg]
  intro hEq
  rw [hEq] at hDigit
  omega

/-
  A decimal number is not taken for a hexadecimal one: its
  second character is a digit or the point.
-/
theorem scanWord_hex_of_digits
    {digits : List (BitVec 8)}
    (rest : List (BitVec 8))
    (hDigits : ∀ b ∈ digits, IsDecimalDigit b) :
    scanWord (text "0x")
      (digits ++ (charByte '.' :: rest)) = none := by
  have hText : text "0x" = [charByte '0', charByte 'x'] := rfl
  rw [hText]
  cases digits with
  | nil => rfl
  | cons b digits =>
      rw [List.cons_append, scanWord]
      split
      · cases digits with
        | nil => rfl
        | cons c digits =>
            rw [List.forall_mem_cons,
              List.forall_mem_cons] at hDigits
            exact scanWord_of_digit _ _ hDigits.2.1
              (by decide)
      · rfl

/- The digits of a number with decimal places. -/
theorem scanSignificand_print
    {whole fraction rest : List (BitVec 8)}
    (hSome : whole ≠ [])
    (hWhole : ∀ b ∈ whole, IsDecimalDigit b)
    (hFraction : ∀ b ∈ fraction, IsDecimalDigit b)
    (hEnds : Ends rest) :
    scanSignificand decimalRadix
        (whole ++ (charByte '.' :: (fraction ++ rest))) =
      some
        ((digitValue (whole ++ fraction), fraction.length),
          rest) := by
  have hPoint :
      ∀ b ∈ (charByte '.' :: (fraction ++ rest)).head?,
        isDigit b = false := by
    intro b hMem
    cases hMem
    rfl
  have hFront := takeWhile_isDigit hWhole hPoint
  have hBack :=
    takeWhile_isDigit hFraction hEnds.head_not_digit
  have hAll :
      ∀ b ∈ whole ++ fraction, IsDecimalDigit b :=
    List.forall_mem_append.mpr ⟨hWhole, hFraction⟩
  have hRadix : decimalRadix.isDigit = isDigit := rfl
  simp only [scanSignificand, hRadix]
  rw [hFront.1, hFront.2, scanLiteral, if_pos rfl]
  simp only
  rw [hBack.1, hBack.2, if_neg
      (List.append_ne_nil_of_left_ne_nil hSome _),
    value_decimalRadix hAll]

theorem scanExponent_of_ends
    {rest : List (BitVec 8)}
    (hEnds : Ends rest) :
    scanExponent decimalRadix rest = some (0, rest) := by
  have hNone :
      scanWord [decimalRadix.exponentChar] rest = none := by
    cases rest with
    | nil => rfl
    | cons b rest =>
        rw [scanWord]
        exact if_neg hEnds.2
  rw [scanExponent, hNone]

/- The number that the digits of both parts stand for. -/
theorem scanMagnitude_print
    (precision units : Nat)
    {rest : List (BitVec 8)}
    (hEnds : Ends rest) :
    scanMagnitude decimalRadix
        (decimal (units / 10 ^ precision) ++
          (charByte '.' ::
            (padded precision (units % 10 ^ precision) ++
              rest))) =
      some (NNRat.divNat units (10 ^ precision), rest) := by
  have hSignificand :=
    scanSignificand_print
      (decimal_ne_nil (units / 10 ^ precision))
      (isDecimalDigit_of_mem_decimal _)
      (isDecimalDigit_of_mem_padded precision
        (units % 10 ^ precision))
      hEnds
  have hRest : units % 10 ^ precision < 10 ^ precision :=
    Nat.mod_lt _ (Nat.pow_pos (by decide))
  rw [digitValue_append_padded _ _ _ hRest,
    digitValue_decimal, Nat.mul_comm, Nat.div_add_mod,
    length_padded] at hSignificand
  simp only [scanMagnitude, hSignificand,
    Option.bind_eq_bind, Option.bind_some,
    scanExponent_of_ends hEnds]
  simp [decimalRadix]

/- A number that begins with a digit is no other word. -/
theorem scanFloat_of_digits
    (negative : Bool)
    {digits rest : List (BitVec 8)}
    (hSome : digits ≠ [])
    (hDigits : ∀ b ∈ digits, IsDecimalDigit b) :
    scanFloat
        (printSign negative ++
          (digits ++ (charByte '.' :: rest))) =
      (scanMagnitude decimalRadix
        (digits ++ (charByte '.' :: rest))).map
          fun (magnitude, bytes) =>
            (.finite negative magnitude, bytes) := by
  have hHex := scanWord_hex_of_digits rest hDigits
  simp only [scanFloat]
  rw [scanSign_print negative hSome hDigits]
  cases digits with
  | nil => exact absurd rfl hSome
  | cons b digits =>
      have hDigit := hDigits b List.mem_cons_self
      have hInf : text "inf" = charByte 'i' :: text "nf" := rfl
      have hNan : text "nan" = charByte 'n' :: text "an" := rfl
      simp only
      rw [hHex, hInf, hNan, List.cons_append,
        scanWord_of_digit _ _ hDigit (by decide)]
      simp only
      rw [scanWord_of_digit _ _ hDigit (by decide)]

/-
  A finite number is read back as the multiple of a decimal
  place to which it was rounded.
-/
theorem scanFloat_print
    (precision : Nat)
    (negative : Bool)
    (magnitude : ℚ≥0)
    {rest : List (BitVec 8)}
    (hEnds : Ends rest) :
    scanFloat
        (printFixed precision (.finite negative magnitude) ++
          rest) =
      some
        (.finite negative
            (NNRat.divNat
              (scaledMagnitude precision magnitude)
              (10 ^ precision)),
          rest) := by
  have hPoint : text "." = [charByte '.'] := rfl
  simp only [printFixed, hPoint, List.append_assoc,
    List.cons_append, List.nil_append]
  rw [scanFloat_of_digits negative (decimal_ne_nil _)
      (isDecimalDigit_of_mem_decimal _),
    scanMagnitude_print _ _ hEnds]
  rfl

end SensorGateway
