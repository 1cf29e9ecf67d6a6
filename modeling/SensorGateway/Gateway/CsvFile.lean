import SensorGateway.Plab4.OutputTest
import SensorGateway.Stdio.RoundTrip

/-
  The file that the storage manager writes, and its rows as
  `output_test` reads them back.

  A finite value is printed with all its digits in front of
  the point, and there may be 309 of them. The reader takes a
  row by `fgets` into 256 bytes, so a row is read back as one
  row exactly if its numbers have room in the buffer.

  Key definitions include:
    * `csvRow`
    * `openDbRows`
    * `readRows`
    * `RoundTrips`
    * `rowWidth`

  Key theorems include:
    * `isRounded_roundedValue`
    * `parseOutputLine_csvRow`
    * `length_csvRow`
    * `csv_roundTrips_iff`
-/

------------------------------------------------------------
-- Writing and Reading
------------------------------------------------------------

namespace SensorGateway

open Foundations
open Plab4

variable {V : Type}
variable [FloatValue V]

/-
  `fprintf(file_out, "%hu,%.4f,%ld\n", data.id, data.value,
  data.ts)`.
-/
def csvRow
    (data : SensorData V) :
    List (BitVec 8) :=
  printUnsignedShort data.id ++
    (text "," ++
      (printFixed 4 (FloatValue.datum data.value) ++
        (text "," ++
          (printSigned data.ts.toInt ++ text "\n"))))

/-
  What the loop of `open_db` writes for the records that it
  gets, up to the marker.
-/
def openDbRows :
    List (SensorData V) → List (BitVec 8)
| [] => []
| data :: records =>
    if data.id = 0 then
      []
    else
      csvRow data ++ openDbRows records

/- The rows that `output_test` reads, if they parse. -/
def readRows
    (contents : List (BitVec 8)) :
    List (Option Row) :=
  (fgetsLines contents).map parseOutputLine

/- A finite number, rounded to four decimal places. -/
def roundedValue :
    FloatDatum → FloatDatum
| .finite negative magnitude =>
    .finite negative
      (NNRat.divNat (scaledMagnitude 4 magnitude) (10 ^ 4))
| x => x

/- What a record should be read back as. -/
def expectedRow
    (data : SensorData V) :
    Row where
  id := data.id
  value := roundedValue (FloatValue.datum data.value)
  timestamp := data.ts

/- There is one row for each record, with its values. -/
def RoundTrips
    (records : List (SensorData V)) : Prop :=
  readRows (openDbRows records) =
    records.map (fun data => some (expectedRow data))

theorem isPrintedLine_csvRow
    (data : SensorData V) :
    IsPrintedLine (csvRow data) := by
  have hComma : NoControl (text ",") := by decide
  have hEnd : IsPrintedLine (text "\n") :=
    isPrintedLine_text (by decide) (by decide)
  exact
    .append_left (noControl_decimal _)
      (.append_left hComma
        (.append_left (noControl_printFixed _ _)
          (.append_left hComma
            (.append_left (noControl_printSigned _) hEnd))))

/- A row of a finite value is read back. -/
theorem parseOutputLine_csvRow
    {data : SensorData V}
    (hFinite : (FloatValue.datum data.value).IsFinite) :
    parseOutputLine (csvRow data) =
      some (expectedRow data) := by
  have hComma :
      ∀ bytes : List (BitVec 8),
        Ends (text "," ++ bytes) ∧
          scanLiteral ',' (text "," ++ bytes) = some bytes :=
    fun _ => ⟨⟨rfl, by decide⟩, rfl⟩
  have hId :=
    scanUnsignedShort_print data.id []
      (text "," ++
        (printFixed 4 (FloatValue.datum data.value) ++
          (text "," ++
            (printSigned data.ts.toInt ++ text "\n"))))
      (List.forall_mem_nil _) (hComma _).1.head_not_digit
  have hTimestamp :=
    @scanLong_print data.ts (text "\n")
      (by
        intro b hMem
        cases hMem
        rfl)
  rcases hFinite.eq_finite with ⟨negative, magnitude, hDatum⟩
  have hValue :=
    @scanFloat_print 4 negative magnitude _
      (hComma (printSigned data.ts.toInt ++ text "\n")).1
  simp only [parseOutputLine]
  rw [cString_of_nul_not_mem
    (isPrintedLine_csvRow data).nul_not_mem]
  unfold csvRow
  rw [List.nil_append, hDatum] at hId
  simp only [hDatum, hId, Option.bind_eq_bind,
    Option.bind_some, (hComma _).2, hValue, hTimestamp]
  unfold expectedRow
  rw [hDatum]
  rfl

/- The width of a finite value, without its decimal places. -/
def valueWidth :
    FloatDatum → Nat
| .finite negative magnitude =>
    signWidth negative +
      decimalWidth (scaledMagnitude 4 magnitude / 10 ^ 4)
| _ => 0

/-
  The room that the numbers of a record take in its row: the
  digits of the id, the sign and the digits of the rounded
  value in front of the point, and the sign and the digits of
  the timestamp.
-/
def rowWidth
    (data : SensorData V) :
    Nat :=
  decimalWidth data.id.toNat +
    valueWidth (FloatValue.datum data.value) +
    (signWidth (data.ts.toInt < 0) +
      decimalWidth data.ts.toInt.natAbs)

/-
  The two commas, the point, the four places and the newline
  take eight more bytes.
-/
theorem length_csvRow
    {data : SensorData V}
    (hFinite : (FloatValue.datum data.value).IsFinite) :
    (csvRow data).length = rowWidth data + 8 := by
  have hComma : (text ",").length = 1 := rfl
  have hNewline : (text "\n").length = 1 := rfl
  rcases hFinite.eq_finite with ⟨negative, magnitude, hDatum⟩
  unfold csvRow rowWidth
  rw [hDatum, List.length_append, List.length_append,
    List.length_append, List.length_append,
    List.length_append, length_printUnsignedShort,
    length_printFixed_of_finite, length_printSigned,
    hComma, hNewline, valueWidth]
  omega

------------------------------------------------------------
-- The Whole File
------------------------------------------------------------

theorem openDbRows_eq_flatten
    {records : List (SensorData V)}
    (hIds : ∀ data ∈ records, data.id ≠ 0) :
    openDbRows records = (records.map csvRow).flatten := by
  induction records with
  | nil => rfl
  | cons data records ih =>
      rw [List.forall_mem_cons] at hIds
      rw [openDbRows, if_neg hIds.1, ih hIds.2,
        List.map_cons, List.flatten_cons]

theorem isLine_of_mem_rows
    (records : List (SensorData V)) :
    ∀ row ∈ records.map csvRow, IsLine newline row := by
  intro row hMem
  rcases List.mem_map.mp hMem with ⟨data, _, rfl⟩
  exact (isPrintedLine_csvRow data).isLine

/-
  The file is read back exactly if in each record the numbers
  take 247 bytes at most.
-/
theorem csv_roundTrips_iff
    {records : List (SensorData V)}
    (hIds : ∀ data ∈ records, data.id ≠ 0)
    (hFinite :
      ∀ data ∈ records,
        (FloatValue.datum data.value).IsFinite) :
    RoundTrips records ↔
      ∀ data ∈ records, rowWidth data ≤ 247 := by
  have hSize : LINE_SIZE - 1 = 254 + 1 := rfl
  have hFits :
      (∀ row ∈ records.map csvRow, row.length ≤ 254 + 1) ↔
        ∀ data ∈ records, rowWidth data ≤ 247 := by
    rw [List.forall_mem_map]
    apply forall₂_congr
    intro data hMem
    rw [length_csvRow (hFinite data hMem)]
    omega
  have hLines := isLine_of_mem_rows records
  unfold RoundTrips readRows fgetsLines
  rw [openDbRows_eq_flatten hIds, hSize, ← hFits]
  constructor
  · intro hRead
    have hLength := congrArg List.length hRead
    rw [List.length_map, List.length_map] at hLength
    apply (length_readLines_eq_iff hLines).mp
    rw [hLength, List.length_map]
  · intro hShort
    rw [readLines_flatten hLines hShort, List.map_map]
    apply List.map_congr_left
    intro data hMem
    exact parseOutputLine_csvRow (hFinite data hMem)

/- The value `2 ^ 1000`, which has 302 digits. -/
def hugeRecord : SensorData (BitVec 64) where
  id := 1
  value := 0x7E70000000000000
  ts := 1000

/- Its row is read as two rows. -/
theorem csv_huge_value_split :
    ¬∀ records : List (SensorData (BitVec 64)),
        (∀ data ∈ records, data.id ≠ 0) →
          (∀ data ∈ records,
            (FloatValue.datum data.value).IsFinite) →
            RoundTrips records := by
  intro hAll
  have hRead :=
    hAll [hugeRecord] (by decide) (by decide +kernel)
  have hTwo :
      (readRows (openDbRows [hugeRecord])).length = 2 := by
    decide +kernel
  rw [hRead] at hTwo
  cases hTwo

/- The value 21.5. -/
def usualRecord : SensorData (BitVec 64) where
  id := 15
  value := 0x4035800000000000
  ts := 1000

theorem csv_roundTrips_usual :
    RoundTrips [usualRecord] :=
  (csv_roundTrips_iff (by decide) (by decide +kernel)).mpr
    (by decide +kernel)

end SensorGateway
