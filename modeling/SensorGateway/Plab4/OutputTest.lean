import SensorGateway.Config
import SensorGateway.Foundations.Lines
import SensorGateway.Stdio.Scanf

/-
  `output_test`, which compares the file that the program has
  written with a reference file, line by line.

  The condition of its loop reads a line of the output file
  before it tries the reference file. When the reference file
  is at its end, the line that was just read is not among the
  extra lines that are looked for behind the loop. So a
  single extra line is overlooked.

  Key definitions include:
    * `fgetsLines`
    * `parseOutputLine`
    * `parseTestLine`
    * `outputTest`
    * `LinesAgree`
    * `AgreeButForOne`

  Key theorems include:
    * `compareFiles_eq_false_iff`
    * `outputTest_correct_iff`
-/

------------------------------------------------------------
-- Rows
------------------------------------------------------------

namespace SensorGateway

namespace Plab4

open Foundations

/- The size of `output_line` and of `test_line`. -/
def LINE_SIZE : Nat :=
  256

/-
  The lines that `fgets` returns for a file until it returns
  a null pointer; each leaves room for a NUL.
-/
def fgetsLines
    (contents : List (BitVec 8)) :
    List (List (BitVec 8)) :=
  readLines newline (LINE_SIZE - 1) contents

/- What is parsed; the number is as it is written. -/
structure Row where
  id : BitVec 16
  value : FloatDatum
  timestamp : BitVec 64
deriving DecidableEq

/- `sscanf(output_line, "%hu,%f,%ld", ..)`, if it returns 3. -/
def parseOutputLine
    (line : List (BitVec 8)) :
    Option Row := do
  let bytes := cString line
  let (id, bytes) ← scanUnsignedShort bytes
  let bytes ← scanLiteral ',' bytes
  let (value, bytes) ← scanFloat bytes
  let bytes ← scanLiteral ',' bytes
  let (timestamp, _) ← scanLong bytes
  return { id, value, timestamp }

/-
  `sscanf(test_line, "%hu %f %ld", ..)`, if it returns 3. The
  blanks skip white space, or nothing.
-/
def parseTestLine
    (line : List (BitVec 8)) :
    Option Row := do
  let bytes := cString line
  let (id, bytes) ← scanUnsignedShort bytes
  let bytes := bytes.dropWhile isSpace
  let (value, bytes) ← scanFloat bytes
  let bytes := bytes.dropWhile isSpace
  let (timestamp, _) ← scanLong bytes
  return { id, value, timestamp }

/- The comparison of the parsed values, which are `float`s. -/
def Row.sameAs
    (out test : Row) :
    Bool :=
  out.id = test.id &&
    out.value.toBinary32.equal test.value.toBinary32 &&
      out.timestamp = test.timestamp

------------------------------------------------------------
-- The Test
------------------------------------------------------------

/- Whether the body of the loop sets `has_error`. -/
def lineError
    (outputLine testLine : List (BitVec 8)) :
    Bool :=
  match parseOutputLine outputLine with
  | none => true
  | some out =>
      match parseTestLine testLine with
      | none => true
      | some test => !out.sameAs test

/-
  The loop on the lines that both files still have: the lines
  that are left behind it, and `has_error`. A line that was
  read from the output file is gone, also if the reference
  file has none.
-/
def compareLoop :
    List (List (BitVec 8)) → List (List (BitVec 8)) →
      Bool →
        List (List (BitVec 8)) × List (List (BitVec 8)) × Bool
| [], testLines, hasError => ([], testLines, hasError)
| _ :: outputLines, [], hasError =>
    (outputLines, [], hasError)
| outputLine :: outputLines, testLine :: testLines,
    hasError =>
    compareLoop outputLines testLines
      (hasError || lineError outputLine testLine)

/- The loop, and the search for extra lines. -/
def compareFiles
    (outputLines testLines : List (List (BitVec 8)))
    (hasError : Bool) :
    Bool :=
  let (outputLines, testLines, hasError) :=
    compareLoop outputLines testLines hasError
  let hasError := hasError || outputLines ≠ []
  hasError || testLines ≠ []

/-
  `output_test` with the static `has_error` before the call,
  and the contents of the files that can be opened. It
  returns its result and `has_error`.
-/
def outputTest
    (hasError : Bool)
    (fileOut fileTestValues : Option (List (BitVec 8))) :
    Bool × Bool :=
  match fileOut, fileTestValues with
  | some out, some test =>
      let hasError :=
        compareFiles (fgetsLines out) (fgetsLines test)
          hasError
      (hasError, hasError)
  | _, _ => (true, hasError)

------------------------------------------------------------
-- What is Checked
------------------------------------------------------------

/- Both lines parse, and the parsed values are equal. -/
def LinesAgree
    (outputLine testLine : List (BitVec 8)) : Prop :=
  ∃ out test,
    parseOutputLine outputLine = some out ∧
      parseTestLine testLine = some test ∧
      out.id = test.id ∧
      out.value.toBinary32.equal test.value.toBinary32 =
        true ∧
      out.timestamp = test.timestamp

theorem lineError_eq_false_iff
    (outputLine testLine : List (BitVec 8)) :
    lineError outputLine testLine = false ↔
      LinesAgree outputLine testLine := by
  unfold lineError LinesAgree
  cases hOut : parseOutputLine outputLine with
  | none => simp
  | some out =>
      cases hTest : parseTestLine testLine with
      | none => simp
      | some test =>
          simp [Row.sameAs, and_assoc]

/- An error is never taken back. -/
theorem compareFiles_true
    (outputLines testLines : List (List (BitVec 8))) :
    compareFiles outputLines testLines true = true := by
  induction outputLines generalizing testLines with
  | nil => rfl
  | cons outputLine outputLines ih =>
      cases testLines with
      | nil => rfl
      | cons testLine testLines => exact ih testLines

/- An iteration checks a pair of lines. -/
theorem compareFiles_cons
    (outputLine testLine : List (BitVec 8))
    (outputLines testLines : List (List (BitVec 8))) :
    compareFiles (outputLine :: outputLines)
        (testLine :: testLines) false =
      compareFiles outputLines testLines
        (lineError outputLine testLine) := by
  unfold compareFiles
  rw [compareLoop, Bool.false_or]

/- The lines agree but for one extra line at the end. -/
def AgreeButForOne
    (outputLines testLines : List (List (BitVec 8))) : Prop :=
  ∃ lines extra,
    outputLines = lines ++ [extra] ∧
      List.Forall₂ LinesAgree lines testLines

theorem agreeButForOne_nil_iff
    (outputLine : List (BitVec 8))
    (outputLines : List (List (BitVec 8))) :
    AgreeButForOne (outputLine :: outputLines) [] ↔
      outputLines = [] := by
  constructor
  · rintro ⟨lines, extra, hEq, hAgree⟩
    rw [List.forall₂_nil_right_iff] at hAgree
    rw [hAgree] at hEq
    exact (List.cons.inj hEq).2
  · intro hNil
    rw [hNil]
    exact ⟨[], outputLine, rfl, List.Forall₂.nil⟩

theorem agreeButForOne_cons_iff
    (outputLine testLine : List (BitVec 8))
    (outputLines testLines : List (List (BitVec 8))) :
    AgreeButForOne (outputLine :: outputLines)
        (testLine :: testLines) ↔
      LinesAgree outputLine testLine ∧
        AgreeButForOne outputLines testLines := by
  constructor
  · rintro ⟨lines, extra, hEq, hAgree⟩
    cases hAgree with
    | cons hLine hRest =>
        rw [List.cons_append, List.cons.injEq] at hEq
        rw [hEq.1]
        exact ⟨hLine, _, extra, hEq.2, hRest⟩
  · rintro ⟨hLine, lines, extra, rfl, hRest⟩
    exact
      ⟨outputLine :: lines, extra, rfl,
        List.Forall₂.cons hLine hRest⟩

/-
  No error is found if the lines agree, and also if they do
  but for one extra line of the output file.
-/
theorem compareFiles_eq_false_iff
    (outputLines testLines : List (List (BitVec 8))) :
    compareFiles outputLines testLines false = false ↔
      List.Forall₂ LinesAgree outputLines testLines ∨
        AgreeButForOne outputLines testLines := by
  induction outputLines generalizing testLines with
  | nil =>
      cases testLines with
      | nil => simp [compareFiles, compareLoop]
      | cons testLine testLines =>
          simp [compareFiles, compareLoop, AgreeButForOne]
  | cons outputLine outputLines ih =>
      cases testLines with
      | nil =>
          rw [agreeButForOne_nil_iff]
          cases outputLines with
          | nil => simp [compareFiles, compareLoop]
          | cons _ _ => simp [compareFiles, compareLoop]
      | cons testLine testLines =>
          rw [compareFiles_cons, agreeButForOne_cons_iff,
            List.forall₂_cons, ← and_or_left, ← ih,
            ← lineError_eq_false_iff]
          cases lineError outputLine testLine with
          | false => simp
          | true =>
              rw [compareFiles_true]
              simp

------------------------------------------------------------
-- Soundness and Completeness
------------------------------------------------------------

/- Lines that end in a newline and fit into the buffer. -/
def IsTextFile
    (lines : List (List (BitVec 8))) : Prop :=
  ∀ line ∈ lines,
    IsLine newline line ∧ line.length < LINE_SIZE

theorem fgetsLines_flatten
    {lines : List (List (BitVec 8))}
    (h : IsTextFile lines) :
    fgetsLines lines.flatten = lines := by
  unfold fgetsLines
  apply readLines_flatten
  · exact fun line hMem => (h line hMem).1
  · exact fun line hMem =>
      Nat.le_of_lt_succ (h line hMem).2

/-
  A first call reports no error exactly if the files agree,
  unless the output file has exactly one more line than the
  reference file, and all lines in front of it agree.
-/
theorem outputTest_correct_iff
    {outputLines testLines : List (List (BitVec 8))}
    (hOutput : IsTextFile outputLines)
    (hTest : IsTextFile testLines) :
    ((outputTest false (some outputLines.flatten)
          (some testLines.flatten)).1 = false ↔
        List.Forall₂ LinesAgree outputLines testLines) ↔
      ¬∃ lines extra,
        outputLines = lines ++ [extra] ∧
          List.Forall₂ LinesAgree lines testLines := by
  have hResult :
      (outputTest false (some outputLines.flatten)
          (some testLines.flatten)).1 =
        compareFiles outputLines testLines false := by
    simp only [outputTest]
    rw [fgetsLines_flatten hOutput,
      fgetsLines_flatten hTest]
  rw [hResult, compareFiles_eq_false_iff]
  constructor
  · rintro hIff ⟨lines, extra, hEq, hAgree⟩
    have hAll :=
      hIff.mp (Or.inr ⟨lines, extra, hEq, hAgree⟩)
    have hLength := hAll.length_eq
    rw [hEq, List.length_append, hAgree.length_eq,
      List.length_singleton] at hLength
    omega
  · intro hNo
    constructor
    · rintro (hAgree | hExtra)
      · exact hAgree
      · exact absurd hExtra hNo
    · exact Or.inl

/- A file of one printed line. -/
theorem isTextFile_singleton
    {line : List (BitVec 8)}
    (hLine : IsPrintedLine line)
    (hFits : line.length < LINE_SIZE) :
    IsTextFile [line] := by
  intro other hMem
  rw [List.mem_singleton] at hMem
  rw [hMem]
  exact ⟨hLine.isLine, hFits⟩

/- A row in the output file, and an empty reference file. -/
theorem outputTest_overlooks_row :
    ¬∀ outputLines testLines : List (List (BitVec 8)),
        IsTextFile outputLines → IsTextFile testLines →
          ((outputTest false (some outputLines.flatten)
                (some testLines.flatten)).1 = false ↔
            List.Forall₂ LinesAgree outputLines
              testLines) := by
  intro hAll
  have hOutput : IsTextFile [text "15,1.5000,1000\n"] :=
    isTextFile_singleton
      (isPrintedLine_text (by decide) (by decide)) (by decide)
  have hPasses :
      (outputTest false
          (some [text "15,1.5000,1000\n"].flatten)
          (some [].flatten)).1 = false := by
    decide
  have hAgree :=
    (hAll _ _ hOutput (List.forall_mem_nil _)).mp hPasses
  cases hAgree

/- One row in each file, with the same values. -/
theorem outputTest_accepts_row :
    (outputTest false
        (some [text "15,1.5000,1000\n"].flatten)
        (some [text "15 1.5 1000\n"].flatten)).1 = false := by
  have hOutput : IsTextFile [text "15,1.5000,1000\n"] :=
    isTextFile_singleton
      (isPrintedLine_text (by decide) (by decide)) (by decide)
  have hTest : IsTextFile [text "15 1.5 1000\n"] :=
    isTextFile_singleton
      (isPrintedLine_text (by decide) (by decide)) (by decide)
  have hLine :
      LinesAgree (text "15,1.5000,1000\n")
        (text "15 1.5 1000\n") :=
    (lineError_eq_false_iff _ _).mp (by decide +kernel)
  have hNoExtra :
      ¬∃ lines extra,
        [text "15,1.5000,1000\n"] = lines ++ [extra] ∧
          List.Forall₂ LinesAgree lines
            [text "15 1.5 1000\n"] := by
    rintro ⟨lines, extra, hEq, hAgree⟩
    have hLength := congrArg List.length hEq
    rw [List.length_append, hAgree.length_eq] at hLength
    simp only [List.length_singleton] at hLength
    omega
  exact
    ((outputTest_correct_iff hOutput hTest).mpr hNoExtra).mpr
      (List.Forall₂.cons hLine List.Forall₂.nil)

end Plab4

end SensorGateway
