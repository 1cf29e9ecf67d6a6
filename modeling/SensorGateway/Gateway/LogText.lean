import SensorGateway.Config
import SensorGateway.Foundations.Lines
import SensorGateway.Stdio.Printf

/-
  The text of the lines that `sensor_db.c` writes to its pipe.

  A helper formats its message into a buffer, and
  `write_to_log_process` formats its own line around it into
  another one. Both have `BUFFER_SIZE` bytes. The longest
  number is an average: as a `float` it is below `2 ^ 128`,
  so it has 39 digits in front of the point at most.

  Key definitions include:
    * `CtimeDate`
    * `logHelper`
    * `lineFormat`
    * `writtenLine`
    * `sentString`

  Key theorems include:
    * `isPrintedLine_of_logHelper`
    * `length_logHelper_le`
    * `logHelper_not_truncated`
    * `IsGatewayMessage.writtenLine_eq`
-/

------------------------------------------------------------
-- Messages
------------------------------------------------------------

namespace SensorGateway

open Foundations

variable {V : Type}
variable [FloatValue V]

/- `BUFFER_SIZE` of both loggers. -/
def BUFFER_SIZE : Nat :=
  256

/- A format of a text, a sensor, and a text. -/
def sensorFormat
    (before after : String)
    (sensorNodeID : SensorId) :
    List (BitVec 8) :=
  text before ++
    (printSigned sensorNodeID.toNat ++ text after)

/- The format of `log_sensor_temperature_report`. -/
def temperatureFormat
    (extreme : String)
    (sensorNodeID : SensorId)
    (runningAvg : V) :
    List (BitVec 8) :=
  text "Sensor node " ++
    (printSigned sensorNodeID.toNat ++
      (text extreme ++
        (printFixed 4 (FloatValue.datum runningAvg) ++
          text " Celsius)\n")))

/-
  What a `log_*` helper formats by its `snprintf`. A fixed
  text does not come from a helper.
-/
def logHelper :
    LogMsg V → Option (List (BitVec 8))
| .sensorConnection sensorNodeID =>
    some
      (sensorFormat "Sensor node "
        " has opened a new connection\n" sensorNodeID)
| .sensorTermination sensorNodeID =>
    some
      (sensorFormat "Sensor node "
        " has terminated connection\n" sensorNodeID)
| .sensorTimeout sensorNodeID =>
    some
      (sensorFormat "Sensor node " " has timed out\n"
        sensorNodeID)
| .sensorTemperatureReport sensorNodeID hot runningAvg =>
    some
      (if hot then
        temperatureFormat " reports it's too hot (avg temp = "
          sensorNodeID runningAvg
      else
        temperatureFormat
          " reports it's too cold (avg temp = "
          sensorNodeID runningAvg)
| .invalidSensor sensorNodeID =>
    some
      (sensorFormat
        "Received sensor data with invalid sensor node ID "
        ", not added to list. \n" sensorNodeID)
| .dataInsert sensorNodeID =>
    some
      (sensorFormat "Data insertion from sensor "
        " succeeded\n" sensorNodeID)
| .text _ => none

/- The average of a message, if there is one. -/
def LogMsg.runningAvg :
    LogMsg V → Option V
| .sensorTemperatureReport _ _ runningAvg => some runningAvg
| _ => none

------------------------------------------------------------
-- Lines
------------------------------------------------------------

/- A date of `ctime`, without the newline behind it. -/
structure CtimeDate where
  date : List (BitVec 8)
  length_date : date.length = 24
  noControl : NoControl date

/- The string that `ctime` returns. -/
def CtimeDate.ctime
    (d : CtimeDate) :
    List (BitVec 8) :=
  d.date ++ [newline]

theorem CtimeDate.strtok_ctime
    (d : CtimeDate) :
    strtok newline d.ctime = d.date := by
  apply strtok_append
  · apply List.ne_nil_of_length_pos
    rw [d.length_date]
    decide
  · exact d.noControl.newline_not_mem

/- The output of `"%d - %s - %s"`. -/
def lineOutput
    (sequenceNumber : Int)
    (date msg : List (BitVec 8)) :
    List (BitVec 8) :=
  printSigned sequenceNumber ++
    (text " - " ++
      (date ++ (text " - " ++ cString msg)))

/- The same in a call of `write_to_log_process`. -/
def lineFormat
    (sequenceNumber : Int)
    (d : CtimeDate)
    (msg : List (BitVec 8)) :
    List (BitVec 8) :=
  lineOutput sequenceNumber (strtok newline d.ctime) msg

/- `formatted_msg` up to its `strlen`. -/
def formattedMsg
    (sequenceNumber : Int)
    (date msg : List (BitVec 8)) :
    List (BitVec 8) :=
  cString
    (snprintf BUFFER_SIZE
      (lineOutput sequenceNumber date msg))

/-
  The bytes that `write_to_log_process` writes to the pipe,
  where no other call is formatting its line at the same
  time.
-/
def writtenLine
    (sequenceNumber : Int)
    (d : CtimeDate)
    (msg : List (BitVec 8)) :
    List (BitVec 8) :=
  cString
    (snprintf BUFFER_SIZE (lineFormat sequenceNumber d msg))

/- The number, the date and the dashes. -/
def lineHead
    (sequenceNumber : Int)
    (d : CtimeDate) :
    List (BitVec 8) :=
  printSigned sequenceNumber ++
    (text " - " ++ (d.date ++ text " - "))

theorem lineFormat_eq
    (sequenceNumber : Int)
    (d : CtimeDate)
    (msg : List (BitVec 8)) :
    lineFormat sequenceNumber d msg =
      lineHead sequenceNumber d ++ cString msg := by
  unfold lineFormat lineOutput lineHead
  rw [d.strtok_ctime]
  simp only [List.append_assoc]

theorem noControl_lineHead
    (sequenceNumber : Int)
    (d : CtimeDate) :
    NoControl (lineHead sequenceNumber d) := by
  have hDash : NoControl (text " - ") := by decide
  exact (noControl_printSigned _).append
    (hDash.append (d.noControl.append hDash))

theorem length_lineHead
    (sequenceNumber : Int)
    (d : CtimeDate) :
    (lineHead sequenceNumber d).length =
      (printSigned sequenceNumber).length + 30 := by
  have hDash : (text " - ").length = 3 := rfl
  unfold lineHead
  rw [List.length_append, List.length_append,
    List.length_append, d.length_date, hDash]

/- A message without a NUL that fits is written as it is. -/
theorem writtenLine_of_fits
    {sequenceNumber : Int}
    {d : CtimeDate}
    {msg : List (BitVec 8)}
    (hNul : 0 ∉ msg)
    (hFits :
      (lineHead sequenceNumber d ++ msg).length <
        BUFFER_SIZE) :
    writtenLine sequenceNumber d msg =
      lineHead sequenceNumber d ++ msg := by
  unfold writtenLine
  rw [lineFormat_eq, cString_of_nul_not_mem hNul,
    snprintf_of_fits hFits]
  apply cString_of_nul_not_mem
  rw [List.mem_append]
  rintro (hMem | hMem)
  · exact (noControl_lineHead _ _).nul_not_mem hMem
  · exact hNul hMem

------------------------------------------------------------
-- The Helpers
------------------------------------------------------------

/- The helpers format messages. -/
theorem isPrintedLine_sensorFormat
    {before after : String}
    (hBefore : NoControl (text before))
    (hAfter : IsPrintedLine (text after))
    (sensorNodeID : SensorId) :
    IsPrintedLine (sensorFormat before after sensorNodeID) :=
  .append_left hBefore
    (.append_left (noControl_printSigned _) hAfter)

theorem isPrintedLine_temperatureFormat
    {extreme : String}
    (hExtreme : NoControl (text extreme))
    (sensorNodeID : SensorId)
    (runningAvg : V) :
    IsPrintedLine
      (temperatureFormat extreme sensorNodeID
        runningAvg) := by
  have hNode : NoControl (text "Sensor node ") := by decide
  have hEnd : IsPrintedLine (text " Celsius)\n") :=
    isPrintedLine_text (by decide) (by decide)
  exact
    .append_left hNode
      (.append_left (noControl_printSigned _)
        (.append_left hExtreme
          (.append_left (noControl_printFixed _ _) hEnd)))

theorem isPrintedLine_of_logHelper
    {msg : LogMsg V}
    {output : List (BitVec 8)}
    (hHelper : logHelper msg = some output) :
    IsPrintedLine output := by
  cases msg with
  | text msg => cases hHelper
  | sensorTemperatureReport id hot avg =>
      cases hHelper
      cases hot with
      | true =>
          exact isPrintedLine_temperatureFormat (by decide) _ _
      | false =>
          exact isPrintedLine_temperatureFormat (by decide) _ _
  | _ =>
      cases hHelper
      exact isPrintedLine_sensorFormat (by decide)
        (isPrintedLine_text (by decide) (by decide)) _

/- A sensor has five digits at most. -/
theorem length_printSigned_sensor_le
    (id : SensorId) :
    (printSigned id.toNat).length ≤ 5 := by
  rw [length_printSigned]
  have hWidth : decimalWidth id.toNat ≤ 5 :=
    decimalWidth_le_of_lt (by decide)
      (Nat.lt_trans id.isLt (by decide))
  have hSign : decide ((id.toNat : Int) < 0) = false :=
    decide_eq_false (by omega)
  rw [hSign, Int.natAbs_natCast]
  unfold signWidth
  simpa using hWidth

/- A finite average has 45 characters at most. -/
theorem length_printFixed_finite_le
    {magnitude : ℚ≥0}
    (hRange : magnitude < 2 ^ 128)
    (negative : Bool) :
    (printFixed 4 (.finite negative magnitude)).length ≤
      45 := by
  have hUnits :
      scaledMagnitude 4 magnitude ≤ 2 ^ 128 * 10 ^ 4 := by
    apply roundHalfEven_le
    have hCast : magnitude ≤ ((2 ^ 128 : Nat) : ℚ≥0) := by
      exact_mod_cast hRange.le
    rw [Nat.cast_mul]
    exact mul_le_mul_of_nonneg_right hCast (Nat.cast_nonneg _)
  have hWhole :
      scaledMagnitude 4 magnitude / 10 ^ 4 < 10 ^ 39 := by
    have hQuot : scaledMagnitude 4 magnitude / 10 ^ 4 ≤ 2 ^ 128 :=
      Nat.div_le_of_le_mul (by rwa [Nat.mul_comm] at hUnits)
    exact Nat.lt_of_le_of_lt hQuot (by decide)
  have hWidth := decimalWidth_le_of_lt (by decide) hWhole
  have hSign := signWidth_le negative
  rw [length_printFixed_of_finite]
  omega

/- An infinite one has four at most, and so has a NaN. -/
theorem length_printFixed_le
    {x : FloatDatum}
    (hRange :
      ∀ negative magnitude, x = .finite negative magnitude →
        magnitude < 2 ^ 128) :
    (printFixed 4 x).length ≤ 45 := by
  cases x with
  | finite negative magnitude =>
      exact
        length_printFixed_finite_le (hRange _ _ rfl) negative
  | infinite negative => cases negative <;> decide
  | nan negative => cases negative <;> decide

theorem length_sensorFormat_le
    {before after : String}
    (sensorNodeID : SensorId) :
    (sensorFormat before after sensorNodeID).length ≤
      (text before).length + (text after).length + 5 := by
  have hId := length_printSigned_sensor_le sensorNodeID
  unfold sensorFormat
  rw [List.length_append, List.length_append]
  omega

theorem length_temperatureFormat_le
    {extreme : String}
    (sensorNodeID : SensorId)
    {runningAvg : V}
    (hRange :
      ∀ negative magnitude,
        FloatValue.datum runningAvg =
            .finite negative magnitude →
          magnitude < 2 ^ 128) :
    (temperatureFormat extreme sensorNodeID
        runningAvg).length ≤
      (text extreme).length + 72 := by
  have hId := length_printSigned_sensor_le sensorNodeID
  have hAvg := length_printFixed_le hRange
  have hNode : (text "Sensor node ").length = 12 := rfl
  have hEnd : (text " Celsius)\n").length = 10 := rfl
  unfold temperatureFormat
  rw [List.length_append, List.length_append,
    List.length_append, List.length_append, hNode, hEnd]
  omega

/- A finite average is below `2 ^ 128`. -/
def LogMsg.AverageInRange
    (msg : LogMsg V) : Prop :=
  ∀ runningAvg, msg.runningAvg = some runningAvg →
    ∀ negative magnitude,
      FloatValue.datum runningAvg =
          .finite negative magnitude →
        magnitude < 2 ^ 128

/- The averages of `get_running_avg` are `float`s. -/
theorem averageInRange_of_binary32
    {msg : LogMsg V}
    (hFloat :
      ∀ runningAvg, msg.runningAvg = some runningAvg →
        ∃ x : FloatDatum,
          FloatValue.datum runningAvg = x.toBinary32) :
    msg.AverageInRange := by
  intro runningAvg hAvg negative magnitude hFinite
  rcases hFloat runningAvg hAvg with ⟨x, hDatum⟩
  rw [hDatum] at hFinite
  exact FloatDatum.toBinary32_magnitude_lt hFinite

/- No helper formats more than 110 bytes. -/
theorem length_logHelper_le
    {msg : LogMsg V}
    {output : List (BitVec 8)}
    (hHelper : logHelper msg = some output)
    (hRange : msg.AverageInRange) :
    output.length ≤ 110 := by
  cases msg with
  | text msg => cases hHelper
  | sensorTemperatureReport id hot avg =>
      have hAvg := hRange avg rfl
      cases hHelper
      cases hot with
      | true =>
          exact Nat.le_trans
            (length_temperatureFormat_le id hAvg)
            (by decide)
      | false =>
          exact Nat.le_trans
            (length_temperatureFormat_le id hAvg)
            (by decide)
  | _ =>
      cases hHelper
      exact Nat.le_trans (length_sensorFormat_le _)
        (by decide)

/- A number that is no more than `INT_MAX` has ten digits. -/
theorem length_printSigned_int_le
    {n : Int}
    (hNonneg : 0 ≤ n)
    (hLt : n < 2 ^ 31) :
    (printSigned n).length ≤ 10 := by
  have hWidth : decimalWidth n.natAbs ≤ 10 :=
    decimalWidth_le_of_lt (by decide) (by omega)
  have hSign : decide (n < 0) = false :=
    decide_eq_false (Int.not_lt.mpr hNonneg)
  rw [length_printSigned, hSign]
  unfold signWidth
  simpa using hWidth

/-
  Neither buffer cuts off the line of a helper. The bytes
  that are written are the whole line; they end in their only
  newline, and there are fewer than `BUFFER_SIZE` of them.
-/
theorem logHelper_not_truncated
    {sequenceNumber : Int}
    (hNonneg : 0 ≤ sequenceNumber)
    (hLt : sequenceNumber < 2 ^ 31)
    (d : CtimeDate)
    {msg : LogMsg V}
    {output : List (BitVec 8)}
    (hHelper : logHelper msg = some output)
    (hRange : msg.AverageInRange) :
    let message := snprintf BUFFER_SIZE output
    output.length < BUFFER_SIZE ∧
      (lineFormat sequenceNumber d message).length <
        BUFFER_SIZE ∧
      writtenLine sequenceNumber d message =
        printSigned sequenceNumber ++
          (text " - " ++
            (d.date ++ (text " - " ++ output))) ∧
      IsLine newline (writtenLine sequenceNumber d message) ∧
      (writtenLine sequenceNumber d message).length <
        BUFFER_SIZE := by
  have hMessage := isPrintedLine_of_logHelper hHelper
  have hOutput := length_logHelper_le hHelper hRange
  have hFits : output.length < BUFFER_SIZE :=
    Nat.lt_of_le_of_lt hOutput (by decide)
  have hNumber := length_printSigned_int_le hNonneg hLt
  have hLine :
      (lineHead sequenceNumber d ++ output).length <
        BUFFER_SIZE := by
    rw [List.length_append, length_lineHead]
    unfold BUFFER_SIZE
    omega
  have hWritten :=
    writtenLine_of_fits hMessage.nul_not_mem hLine
  have hFormat :
      lineFormat sequenceNumber d output =
        lineHead sequenceNumber d ++ output := by
    rw [lineFormat_eq,
      cString_of_nul_not_mem hMessage.nul_not_mem]
  simp only [snprintf_of_fits hFits, hWritten, hFormat]
  refine ⟨hFits, hLine, ?_, ?_, hLine⟩
  · unfold lineHead
    simp only [List.append_assoc]
  · exact hMessage.isLine.append_left
      (noControl_lineHead _ _).newline_not_mem

/- A date as `ctime` gives it. -/
def christmasEve : CtimeDate where
  date := text "Tue Dec 24 09:08:49 2024"
  length_date := by decide
  noControl := by decide

/- The report of an average of 40 degrees. -/
theorem logHelper_not_truncated_hot :
    ∃ output,
      logHelper (.sensorTemperatureReport 15 true (40 : ℚ)) =
          some output ∧
        (writtenLine 7 christmasEve
          (snprintf BUFFER_SIZE output)).length <
            BUFFER_SIZE := by
  have hRange :
      LogMsg.AverageInRange
        (.sensorTemperatureReport 15 true (40 : ℚ)) := by
    intro runningAvg hAvg negative magnitude hFinite
    cases hAvg
    cases hFinite
    decide +kernel
  have hWhole :=
    @logHelper_not_truncated ℚ _ 7 (by decide) (by decide)
      christmasEve _ _ rfl hRange
  exact ⟨_, rfl, hWhole.2.2.2.2⟩

example :
    logHelper (.sensorTemperatureReport 15 false (-2 : ℚ)) =
      some
        (text
          ("Sensor node 15 reports it's too cold " ++
            "(avg temp = -2.0000 Celsius)\n")) := by
  decide +kernel

------------------------------------------------------------
-- All Messages
------------------------------------------------------------

/-
  The texts that the gateway passes to `write_to_log_process`
  itself, by their files: `connmgr.c`, `datamgr.c`, `main.c`
  and `sensor_db.c`.
-/
def logTexts : List String :=
  ["Client thread received exit signal, closing\n",
    "Peer connection error\n",
    "Rejecting excess client connection\n",
    "Closed excess client socket\n",
    "Excess client handler terminating\n",
    "Test server is started\n",
    "Failed to wait for connection\n",
    "Incoming client connection\n",
    "failed to create client thread\n",
    "Test server is shutting down\n",
    "Sensor map opened\n",
    "Sensor mapping process complete\n",
    "Port and Connections defined\n",
    "Waiting for threads to join\n",
    "Threads joined\n",
    "ending log process.\n",
    "A new data.csv file has been created\n",
    "Error opening data.csv file.\n",
    "closing sensor_db process\n",
    "The data.csv file has been closed.\n",
    "File pointer null during insert.\n",
    "Attempting to insert data.\n",
    "Error writing to data file.\n",
    "Data inserted.\n",
    "ERROR: Attempted to close a NULL file pointer.\n",
    "ERROR: Failed to flush data before closing the file.\n",
    "ERROR: Failed to close the data file.\n",
    "DB Closed Successfully\n"]

/- The ends of the formats of the helpers. -/
def helperEnds : List String :=
  [" has opened a new connection\n",
    " has terminated connection\n",
    " has timed out\n",
    " Celsius)\n",
    ", not added to list. \n",
    " succeeded\n"]

/- The string that is passed to `write_to_log_process`. -/
def sentString :
    LogMsg V → List (BitVec 8)
| .text msg => text msg
| msg => snprintf BUFFER_SIZE ((logHelper msg).getD [])

/- A message of the gateway. -/
structure IsGatewayMessage
    (msg : LogMsg V) : Prop where
  averageInRange : msg.AverageInRange
  text_mem : ∀ s, msg = .text s → s ∈ logTexts

abbrev GatewayMessage
    (V : Type)
    [FloatValue V] :=
  { msg : LogMsg V // IsGatewayMessage msg }

theorem isPrintedLine_of_mem_logTexts :
    ∀ s ∈ logTexts, IsPrintedLine (text s) := by
  have hAll :
      ∀ s ∈ logTexts,
        NoControl (text s).dropLast ∧
          (text s).getLast? = some newline := by
    decide +kernel
  intro s hMem
  exact isPrintedLine_text (hAll s hMem).1 (hAll s hMem).2

theorem logHelper_end
    {msg : LogMsg V}
    {output : List (BitVec 8)}
    (hHelper : logHelper msg = some output) :
    ∃ s ∈ helperEnds, text s <:+ output := by
  have hSensor :
      ∀ (before after : String) (id : SensorId),
        text after <:+ sensorFormat before after id := by
    intro before after id
    unfold sensorFormat
    exact (List.suffix_append _ _).trans
      (List.suffix_append _ _)
  have hReport :
      ∀ (extreme : String) (id : SensorId) (avg : V),
        text " Celsius)\n" <:+
          temperatureFormat extreme id avg := by
    intro extreme id avg
    unfold temperatureFormat
    exact (List.suffix_append _ _).trans
      ((List.suffix_append _ _).trans
        ((List.suffix_append _ _).trans
          (List.suffix_append _ _)))
  cases msg with
  | text msg => cases hHelper
  | sensorTemperatureReport id hot avg =>
      cases hHelper
      refine ⟨" Celsius)\n", by decide, ?_⟩
      cases hot <;> exact hReport _ _ _
  | _ =>
      cases hHelper
      exact ⟨_, by decide, hSensor _ _ _⟩

/- What is sent is a message, and one of the texts ends it. -/
theorem IsGatewayMessage.sentString_ends
    {msg : LogMsg V}
    (h : IsGatewayMessage msg) :
    IsPrintedLine (sentString msg) ∧
      (sentString msg).length ≤ 110 ∧
      ∃ s ∈ helperEnds ++ logTexts, text s <:+ sentString msg := by
  have hText :
      ∀ s, msg = .text s →
        IsPrintedLine (text s) ∧
          (text s).length ≤ 110 ∧
          ∃ s' ∈ helperEnds ++ logTexts, text s' <:+ text s := by
    intro s hEq
    have hMem := h.text_mem s hEq
    have hLength :
        ∀ s ∈ logTexts, (text s).length ≤ 110 := by
      decide +kernel
    exact
      ⟨isPrintedLine_of_mem_logTexts s hMem, hLength s hMem, s,
        List.mem_append_right _ hMem, List.suffix_rfl⟩
  have hHelper :
      ∀ output, logHelper msg = some output →
        IsPrintedLine (snprintf BUFFER_SIZE output) ∧
          (snprintf BUFFER_SIZE output).length ≤ 110 ∧
          ∃ s ∈ helperEnds ++ logTexts,
            text s <:+ snprintf BUFFER_SIZE output := by
    intro output hOutput
    have hLength :=
      length_logHelper_le hOutput h.averageInRange
    rcases logHelper_end hOutput with ⟨s, hMem, hSuffix⟩
    rw [snprintf_of_fits
      (Nat.lt_of_le_of_lt hLength (by decide))]
    exact
      ⟨isPrintedLine_of_logHelper hOutput, hLength, s,
        List.mem_append_left _ hMem, hSuffix⟩
  cases msg with
  | text s => exact hText s rfl
  | _ => exact hHelper _ rfl

/- The line of a message is the head and the message. -/
theorem IsGatewayMessage.writtenLine_eq
    {msg : LogMsg V}
    (h : IsGatewayMessage msg)
    {sequenceNumber : Int}
    (hNonneg : 0 ≤ sequenceNumber)
    (hLt : sequenceNumber < 2 ^ 31)
    (d : CtimeDate) :
    writtenLine sequenceNumber d (sentString msg) =
      lineHead sequenceNumber d ++ sentString msg := by
  rcases h.sentString_ends with ⟨hMessage, hLength, _⟩
  have hNumber := length_printSigned_int_le hNonneg hLt
  apply writtenLine_of_fits hMessage.nul_not_mem
  rw [List.length_append, length_lineHead]
  unfold BUFFER_SIZE
  omega

end SensorGateway
