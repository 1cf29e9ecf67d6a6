import SensorGateway.Datamgr.Memory
import SensorGateway.Plab1.FileCreator
import SensorGateway.Stdio.Printf

/-
  The first data manager, which reads its records from a file
  and prints what it finds.

  Its loader, its scan and its entries are those of the
  gateway's data manager. Its reading loop goes on until the
  end of the file, also behind a record with id zero, and its
  printing accepts an empty list.

  Key definitions include:
    * `handleMeasurement`
    * `measurementLoop`
    * `datamgrParseSensorFilesWith`
    * `plab1MainWith`
    * `plab1Main`
    * `reportText`

  Key theorems include:
    * `handleMeasurement_eq`
    * `measurementLoop_of_holds`
    * `plab1Main_of_files`
    * `plab1Main_of_generator`
-/

------------------------------------------------------------
-- Reading the Records
------------------------------------------------------------

namespace SensorGateway

open Foundations

section Reading

variable {V : Type}
variable (cfg : DatamgrConfig V)
variable [FloatValue V]

/- The line on a sensor that is too hot. -/
def tooHotText
    (e : ListElement V cfg.RUN_AVG_LENGTH)
    (runningAvg : V) :
    List (BitVec 8) :=
  text "Sensor id " ++
    (printSigned e.sensorId.toNat ++
      (text " is too hot: " ++
        (printFixed 4 (FloatValue.datum runningAvg) ++
          (text " Celsius, time: " ++
            (printSigned e.lastModified.toInt ++
              text " \n")))))

/- The line on a sensor that is too cold. -/
def tooColdText
    (e : ListElement V cfg.RUN_AVG_LENGTH)
    (runningAvg : V) :
    List (BitVec 8) :=
  text "Sensor id " ++
    (printSigned e.sensorId.toNat ++
      (text " is too cold: " ++
        (printFixed 4 (FloatValue.datum runningAvg) ++
          text " Celsius\n")))

def wrongIdText : List (BitVec 8) :=
  text "Senosr id wrong"

variable [Preorder V]
variable [DecidableLT V]

/- What is printed on an entry after a record of it. -/
def measurementText
    (e : ListElement V cfg.RUN_AVG_LENGTH)
    (runningAvg : V) :
    List (BitVec 8) :=
  if cfg.SET_MAX_TEMP < runningAvg then
    tooHotText cfg e runningAvg
  else if runningAvg < cfg.SET_MIN_TEMP then
    tooColdText cfg e runningAvg
  else
    []

/- The body of the reading loop, with what it prints. -/
def handleMeasurement
    (s : Datamgr V cfg.RUN_AVG_LENGTH)
    (record : SensorData V) :
    Except Fault
      (Datamgr V cfg.RUN_AVG_LENGTH × List (BitVec 8)) := do
  let tmp ←
    scanLoop s record.id (s.dataList.heap.next + 1) 0
  if tmp = none then
    return (s, wrongIdText)
  else
    let e ← s.elements.read tmp
    let e := storeRecord cfg e record
    let elements ← s.elements.write tmp e
    .ok
      ({ s with elements := elements },
        measurementText cfg e
          (cfg.getRunningAvg e.windowRunningAvg))

variable [SensorValue V]

/- The reading loop on the rest of the file. -/
def measurementLoop :
    Nat → Datamgr V cfg.RUN_AVG_LENGTH → List (BitVec 8) →
      Except Fault
        (Datamgr V cfg.RUN_AVG_LENGTH × List (BitVec 8))
| 0, _, _ => .error .outOfFuel
| fuel + 1, s, bytes =>
    match freadRecord bytes with
    | none => .ok (s, [])
    | some (record, bytes) => do
        let (s, printed) ← handleMeasurement cfg s record
        let (s, rest) ← measurementLoop fuel s bytes
        return (s, printed ++ rest)

end Reading

------------------------------------------------------------
-- Printing the Sensors
------------------------------------------------------------

section Printing

variable {V : Type}
variable (cfg : DatamgrConfig V)
variable [FloatValue V]

/- The line of an entry. -/
def sensorText
    (e : ListElement V cfg.RUN_AVG_LENGTH) :
    List (BitVec 8) :=
  text "Sensor ID: " ++
    (decimal e.sensorId.toNat ++
      (text ", Room ID: " ++
        (decimal e.roomId.toNat ++
          (text ", Running Avg: " ++
            (printFixed 4
                (FloatValue.datum
                  (cfg.getRunningAvg e.windowRunningAvg)) ++
              (text ", Last Modified: " ++
                (printSigned e.lastModified.toInt ++
                  text "\n")))))))

def nullElementText
    (i : Int) :
    List (BitVec 8) :=
  text "Error: NULL element at index " ++
    (printSigned i ++ text ".\n")

/- What is printed for the element at an index. -/
def elementText
    (s : Datamgr V cfg.RUN_AVG_LENGTH)
    (i : Int)
    (e : Option Nat) :
    Except Fault (List (BitVec 8)) :=
  if e = none then
    .ok (nullElementText i)
  else do
    let element ← s.elements.read e
    return sensorText cfg element

/- The loop of `datamgr_print_sensors` from index `i` on. -/
def printSensorsLoop
    (s : Datamgr V cfg.RUN_AVG_LENGTH) :
    Nat → Int → Except Fault (List (BitVec 8))
| 0, _ => .error .outOfFuel
| fuel + 1, i => do
    let size ← dplSize s.dataList
    if i < size then
      let e ← dplGetElementAtIndex s.dataList i
      let line ← elementText cfg s i e
      let rest ← printSensorsLoop s fuel (i + 1)
      return line ++ rest
    else
      return []

def emptyListText : List (BitVec 8) :=
  text "The list is empty.\n"

/- `datamgr_print_sensors`. -/
def printSensors
    (s : Datamgr V cfg.RUN_AVG_LENGTH) :
    Except Fault (List (BitVec 8)) := do
  let size ← dplSize s.dataList
  if s.dataList.list = none ∨ size = 0 then
    return emptyListText
  else
    printSensorsLoop cfg s (s.dataList.heap.next + 1) 0

end Printing

------------------------------------------------------------
-- The Program
------------------------------------------------------------

section Program

variable {V : Type}
variable (cfg : DatamgrConfig V)
variable [FloatValue V]
variable [Preorder V]
variable [DecidableLT V]
variable [SensorValue V]

/-
  `datamgr_parse_sensor_files`, with the outcomes of the
  allocations of its loader, and with what it prints.
-/
def datamgrParseSensorFilesWith
    (mallocs : LoaderMallocs)
    (sensorMap sensorData : List (BitVec 8)) :
    Except Fault
      (Datamgr V cfg.RUN_AVG_LENGTH × List (BitVec 8)) := do
  let dataList ← dplCreate true true mallocs.dplCreate
  let s ←
    loadFileWith cfg mallocs.entry (sensorMap.length + 1)
      { dataList := dataList, elements := Heap.empty }
      sensorMap
  let (s, printed) ←
    measurementLoop cfg (sensorData.length + 1) s sensorData
  let sensors ← printSensors cfg s
  return (s, printed ++ (text "\n\n\n\n\n\n" ++ sensors))

/- `datamgr_free`, which does not look at the list again. -/
def datamgrFreeList
    {L : Nat}
    (s : Datamgr V L) :
    Except Fault (Datamgr V L) :=
  if s.dataList.list = none then
    .error .processExit
  else do
    let dataList ← dplFree s.dataList true
    let freed :=
      dataList.elementFreed.drop
        s.dataList.elementFreed.length
    let elements ← freeElements s.elements freed
    .ok { dataList := dataList, elements := elements }

/- How the program ends. -/
structure Plab1End
    (V : Type)
    (RUN_AVG_LENGTH : Nat) where
  status : Int
  printed : List (BitVec 8)
  memory : Option (Datamgr V RUN_AVG_LENGTH)

/-
  `main`, with the contents of the two files that there are,
  and the memory that the data manager leaves, if it ran.
-/
def plab1MainWith
    (mallocs : LoaderMallocs) :
    Option (List (BitVec 8)) → Option (List (BitVec 8)) →
      Except Fault (Plab1End V cfg.RUN_AVG_LENGTH)
| some sensorMap, some sensorData => do
    let (s, printed) ←
      datamgrParseSensorFilesWith cfg mallocs sensorMap
        sensorData
    let s ← datamgrFreeList s
    .ok
      { status := 0
        printed :=
          text "Hello World\n" ++
            (printed ++ text "Bye World\n")
        memory := some s }
| _, _ =>
    .ok
      { status := -1
        printed := text "Hello World\n"
        memory := none }

/- The same where all allocations succeed. -/
def plab1Main
    (sensorMap sensorData : Option (List (BitVec 8))) :
    Except Fault (Plab1End V cfg.RUN_AVG_LENGTH) :=
  plab1MainWith cfg .succeed sensorMap sensorData

end Program

------------------------------------------------------------
-- The Same as in the Gateway
------------------------------------------------------------

section Reports

variable {V : Type}
variable [FloatValue V]

/-
  What is printed on a record for which the data manager of
  the gateway logs a message.
-/
def reportText
    (record : SensorData V) :
    LogMsg V → List (BitVec 8)
| .sensorTemperatureReport sensorId true runningAvg =>
    text "Sensor id " ++
      (printSigned sensorId.toNat ++
        (text " is too hot: " ++
          (printFixed 4 (FloatValue.datum runningAvg) ++
            (text " Celsius, time: " ++
              (printSigned record.ts.toInt ++ text " \n")))))
| .sensorTemperatureReport sensorId false runningAvg =>
    text "Sensor id " ++
      (printSigned sensorId.toNat ++
        (text " is too cold: " ++
          (printFixed 4 (FloatValue.datum runningAvg) ++
            text " Celsius\n")))
| .invalidSensor _ => wrongIdText
| _ => []

variable (cfg : DatamgrConfig V)
variable [Preorder V]
variable [DecidableLT V]

/- The messages for records, each with its record. -/
def entriesReports
    (entries : List (ListElement V cfg.RUN_AVG_LENGTH))
    (records : List (SensorData V)) :
    List (SensorData V × LogMsg V) :=
  (sensorEntries cfg).reports
    (fun found record =>
      (recordReport cfg found record).map (Prod.mk record))
    entries records

/- The text of such messages. -/
def reportsText
    (reports : List (SensorData V × LogMsg V)) :
    List (BitVec 8) :=
  reports.flatMap (fun report => reportText report.1 report.2)

/- The text on an entry is that of the message on it. -/
theorem measurementText_storeRecord
    (e : ListElement V cfg.RUN_AVG_LENGTH)
    (record : SensorData V)
    (runningAvg : V) :
    measurementText cfg (storeRecord cfg e record)
        runningAvg =
      (temperatureReport cfg
        (storeRecord cfg e record).sensorId
        runningAvg).flatMap (reportText record) := by
  unfold measurementText temperatureReport
  by_cases hHot : cfg.SET_MAX_TEMP < runningAvg
  · rw [if_pos hHot, if_pos hHot, List.flatMap_singleton]
    rfl
  · rw [if_neg hHot, if_neg hHot]
    by_cases hCold : runningAvg < cfg.SET_MIN_TEMP
    · rw [if_pos hCold, if_pos hCold, List.flatMap_singleton]
      rfl
    · rw [if_neg hCold, if_neg hCold, List.flatMap_nil]

/- A record is handled as in the gateway, but for the text. -/
theorem handleMeasurement_eq
    (s : Datamgr V cfg.RUN_AVG_LENGTH)
    (record : SensorData V) :
    handleMeasurement cfg s record =
      (handleRecord cfg s record).map
        (fun r => (r.1, r.2.flatMap (reportText record))) := by
  unfold handleMeasurement handleRecord
  cases scanLoop s record.id (s.dataList.heap.next + 1) 0 with
  | error f => rfl
  | ok tmp =>
      rw [Fault.ok_bind, Fault.ok_bind]
      by_cases hNone : tmp = none
      · rw [if_pos hNone, if_pos hNone]
        rfl
      · rw [if_neg hNone, if_neg hNone]
        cases s.elements.read tmp with
        | error f => rfl
        | ok e =>
            simp only [Fault.ok_bind]
            cases s.elements.write tmp
                (storeRecord cfg e record) with
            | error f => rfl
            | ok elements =>
                simp only [Fault.ok_bind, Except.map]
                rw [measurementText_storeRecord]

variable [SensorValue V]

/- The reading loop handles the records of the file. -/
theorem measurementLoop_of_holds
    {s : Datamgr V cfg.RUN_AVG_LENGTH}
    {entries : List (ListElement V cfg.RUN_AVG_LENGTH)}
    {n : Nat}
    {stored : List Nat}
    (h : s.Holds entries)
    (hAllocated : s.Allocated n stored)
    {fuel : Nat}
    {bytes : List (BitVec 8)}
    (hFuel : bytes.length < fuel) :
    ∃ s',
      measurementLoop cfg fuel s bytes =
        .ok
          (s',
            reportsText
              (entriesReports cfg entries
                (fileRecords bytes))) ∧
      s'.Holds
        ((sensorEntries cfg).storeAll (fileRecords bytes)
          entries) ∧
      s'.Allocated n stored := by
  induction fuel generalizing s entries bytes with
  | zero => exact absurd hFuel (Nat.not_lt_zero _)
  | succ fuel ih =>
      cases hScan : freadRecord (V := V) bytes with
      | none =>
          refine ⟨s, ?_, ?_, hAllocated⟩
          · rw [measurementLoop, hScan, fileRecords,
              Scanner.scanAll_of_none hScan]
            rfl
          · rw [fileRecords, Scanner.scanAll_of_none hScan]
            exact h
      | some item =>
          rcases item with ⟨record, rest⟩
          have hRest :=
            freadRecord_progresses _ _ _ hScan
          rcases handleRecord_of_holds cfg h record with
            ⟨s₁, hHandle, h₁⟩
          have hAllocated₁ :=
            handleRecord_allocated cfg hAllocated hHandle
          have hFuel' : rest.length < fuel := by
            omega
          rcases ih h₁ hAllocated₁ hFuel' with
            ⟨s₂, hLoop, h₂, hAllocated₂⟩
          have hRecords :
              fileRecords (V := V) bytes =
                record :: fileRecords rest :=
            Scanner.scanAll_of_some freadRecord_progresses
              hScan
          have hReports :
              entriesReports cfg entries
                  (record :: fileRecords rest) =
                (recordReport cfg
                    ((sensorEntries cfg).find entries
                      record.id)
                    record).map (Prod.mk record) ++
                  entriesReports cfg
                    ((sensorEntries cfg).store record entries)
                    (fileRecords rest) := rfl
          refine ⟨s₂, ?_, ?_, hAllocated₂⟩
          · rw [measurementLoop, hScan]
            simp only [handleMeasurement_eq, hHandle,
              Except.map, Fault.ok_bind, hLoop,
              Fault.pure_eq_ok]
            rw [hRecords, hReports]
            simp only [reportsText, List.flatMap_append,
              List.flatMap_map]
          · rw [hRecords]
            exact h₂

end Reports

------------------------------------------------------------
-- The End of the Program
------------------------------------------------------------

section Ending

variable {V : Type}
variable (cfg : DatamgrConfig V)
variable [FloatValue V]
variable {s : Datamgr V cfg.RUN_AVG_LENGTH}
variable {entries : List (ListElement V cfg.RUN_AVG_LENGTH)}

/- The loop prints the entries from an index on. -/
theorem printSensorsLoop_of_holdsAt
    {cells :
      List (Nat × ListElement V cfg.RUN_AVG_LENGTH)}
    (h : s.HoldsAt cells)
    {fuel i : Nat}
    (hLe : i ≤ cells.length)
    (hFuel : cells.length < fuel + i) :
    printSensorsLoop cfg s fuel i =
      .ok
        (((cells.drop i).map Prod.snd).flatMap
          (sensorText cfg)) := by
  induction fuel generalizing i with
  | zero => omega
  | succ fuel ih =>
      rw [printSensorsLoop, dplSize_of_holdsAt h,
        Fault.ok_bind]
      by_cases hLt : i < cells.length
      · have hLtInt : (i : Int) < cells.length := by
          omega
        have hLive := h.live _ (List.getElem_mem hLt)
        have hNext := ih (i := i + 1) (by omega) (by omega)
        have hCast : ((i : Int) + 1) = ((i + 1 : Nat) : Int) :=
          rfl
        rw [if_pos hLtInt,
          dplGetElementAtIndex_of_holdsAt h hLt,
          Fault.ok_bind, elementText,
          if_neg (Option.some_ne_none _),
          s.elements.read_of_cell hLive,
          List.drop_eq_getElem_cons hLt, List.map_cons,
          List.flatMap_cons, hCast]
        simp only [Fault.ok_bind, Fault.pure_eq_ok, hNext]
      · have hNotLt : ¬ (i : Int) < cells.length := by
          omega
        rw [if_neg hNotLt, List.drop_eq_nil_of_le (by omega)]
        rfl

/- The text on the entries, whether there are any or not. -/
def sensorsText
    (entries : List (ListElement V cfg.RUN_AVG_LENGTH)) :
    List (BitVec 8) :=
  if entries = [] then
    emptyListText
  else
    entries.flatMap (sensorText cfg)

theorem printSensors_of_holds
    (h : s.Holds entries) :
    printSensors cfg s = .ok (sensorsText cfg entries) := by
  rcases h with ⟨cells, hAt, rfl⟩
  have hList : s.dataList.list ≠ none := by
    rcases hAt.represents with ⟨nodes, hRep, _⟩
    rw [hRep.list_eq]
    exact Option.some_ne_none _
  rw [printSensors, dplSize_of_holdsAt hAt, Fault.ok_bind]
  cases cells with
  | nil => simp [sensorsText]
  | cons cell cells =>
      have hNot :
          ¬ (s.dataList.list = none ∨
            ((cell :: cells).length : Int) = 0) := by
        rintro (hNone | hZero)
        · exact hList hNone
        · simp at hZero
          omega
      have hLe := length_le_of_holdsAt hAt
      have hPrint :=
        printSensorsLoop_of_holdsAt cfg (i := 0) hAt
          (Nat.zero_le _) (Nat.lt_succ_of_le hLe)
      rw [if_neg hNot, sensorsText, if_neg (by simp)]
      exact hPrint

/- Both versions of `datamgr_free` do the same. -/
omit [FloatValue V] in
theorem datamgrFreeList_of_free
    {s' : Datamgr V cfg.RUN_AVG_LENGTH}
    (hFree : datamgrFree s = .ok s') :
    datamgrFreeList s = .ok s' := by
  unfold datamgrFree at hFree
  unfold datamgrFreeList
  split at hFree
  · cases hFree
  · rename_i hSome
    rw [if_neg hSome]
    rcases Fault.bind_eq_ok.mp hFree with
      ⟨dataList, hList, hRest⟩
    rcases Fault.bind_eq_ok.mp hRest with
      ⟨elements, hElements, hReturn⟩
    split at hReturn
    · cases hReturn
    · simp only [hList, Fault.ok_bind, hElements]
      exact hReturn

end Ending

------------------------------------------------------------
-- The Whole Program
------------------------------------------------------------

section Run

variable {V : Type}
variable (cfg : DatamgrConfig V)
variable [FloatValue V]
variable [Preorder V]
variable [DecidableLT V]
variable [SensorValue V]

/- A marker behind the records comes too late to matter. -/
omit [FloatValue V] [Preorder V] [DecidableLT V]
  [SensorValue V] in
/- The whole loader, on the text of the map. -/
omit [FloatValue V] [Preorder V] [DecidableLT V]
  [SensorValue V] in
theorem loadFileWith_of_created
    {mallocs : LoaderMallocs}
    (hCreate : mallocs.dplCreate = true)
    (contents : List (BitVec 8)) :
    loadFileWith cfg mallocs.entry (contents.length + 1)
        { dataList := (dplistSystem Nat true true).init
          elements := Heap.empty }
        contents =
      loadMapWith cfg mallocs (mapPairs contents) := by
  rw [loadFileWith_eq_loadEntriesWith cfg _ _
      (Nat.lt_succ_self _),
    loadMapWith, hCreate, dplistSystem_init, Fault.ok_bind]

/- What the program prints for any two files. -/
theorem plab1MainWith_prints
    {mallocs : LoaderMallocs}
    (hCreate : mallocs.dplCreate = true)
    {sensorMap : List (BitVec 8)}
    (hElements :
      ∀ i < (mapPairs sensorMap).length,
        (mallocs.entry i).listElement = true)
    (sensorData : List (BitVec 8)) :
    let n := (mapPairs sensorMap).length
    let pairs :=
      storedItems mallocs.entry (mapPairs sensorMap)
    let records := fileRecords (V := V) sensorData
    ∃ s,
      plab1MainWith cfg mallocs (some sensorMap)
          (some sensorData) =
        .ok
          { status := 0
            printed :=
              text "Hello World\n" ++
                (reportsText
                    (entriesReports cfg
                      (loadedEntries cfg pairs) records) ++
                    (text "\n\n\n\n\n\n" ++
                      sensorsText cfg
                        (entriesAfter cfg pairs records)) ++
                  text "Bye World\n")
            memory := some s } ∧
      s.Settled n (mallocs.stored n) := by
  intro n pairs records
  rcases loadMapWith_holds cfg hCreate hElements with
    ⟨s₀, hLoad, hHolds₀⟩
  rcases measurementLoop_of_holds cfg hHolds₀
      (loadMapWith_allocated cfg hLoad)
      (Nat.lt_succ_self sensorData.length) with
    ⟨s₁, hLoop, hHolds₁, hAllocated₁⟩
  rw [storeAll_loadedEntries] at hHolds₁
  rcases datamgrFree_of_holds hHolds₁ with ⟨s₂, hFree, _⟩
  have hFile := loadFileWith_of_created cfg hCreate sensorMap
  rw [hLoad] at hFile
  refine ⟨s₂, ?_, datamgrFree_settled hAllocated₁ hFree⟩
  simp only [plab1MainWith, datamgrParseSensorFilesWith,
    hCreate, dplistSystem_init, hFile, hLoop, Fault.ok_bind,
    Fault.pure_eq_ok, printSensors_of_holds cfg hHolds₁,
    datamgrFreeList_of_free cfg hFree]
  rfl

theorem plab1Main_prints
    (sensorMap sensorData : List (BitVec 8)) :
    let pairs := mapPairs sensorMap
    let records := fileRecords (V := V) sensorData
    ∃ s,
      plab1Main cfg (some sensorMap) (some sensorData) =
        .ok
          { status := 0
            printed :=
              text "Hello World\n" ++
                (reportsText
                    (entriesReports cfg
                      (loadedEntries cfg pairs) records) ++
                    (text "\n\n\n\n\n\n" ++
                      sensorsText cfg
                        (entriesAfter cfg pairs records)) ++
                  text "Bye World\n")
            memory := some s } ∧
      s.Settled pairs.length (List.range pairs.length) := by
  intro pairs records
  have hElements :
      ∀ i < (mapPairs sensorMap).length,
        (LoaderMallocs.succeed.entry i).listElement =
          true :=
    fun _ _ => rfl
  have hPrints :=
    plab1MainWith_prints (V := V) cfg rfl hElements
      sensorData
  simp only [storedItems_succeed,
    LoaderMallocs.succeed_stored] at hPrints
  exact hPrints

end Run

section Generated

variable {V : Type}
variable (cfg : DatamgrConfig V)

/- If no sensor has two pairs, each entry has its records. -/
theorem entriesAfter_of_nodup
    {pairs : List (BitVec 16 × BitVec 16)}
    (hNodup : (pairs.map Prod.snd).Nodup)
    (records : List (SensorData V)) :
    entriesAfter cfg pairs records =
      pairs.reverse.map
        (fun pair => elementAfter cfg pair records) := by
  have hReverse :
      (pairs.reverse.map Prod.snd).Nodup := by
    rw [List.map_reverse, List.nodup_reverse]
    exact hNodup
  unfold entriesAfter
  apply List.ext_getElem
  · simp
  · intro i h₁ h₂
    rw [List.getElem_mapIdx, List.getElem_map, if_neg]
    intro hMem
    rw [List.map_take, List.mem_take_iff_getElem] at hMem
    rcases hMem with ⟨j, hLt, hEq⟩
    have hLt' :
        i < (pairs.reverse.map Prod.snd).length := by
      simpa using h₂
    have hGet :
        (pairs.reverse.map Prod.snd)[j] =
          (pairs.reverse.map Prod.snd)[i] := by
      rw [hEq, List.getElem_map]
    have hSame := hReverse.getElem_inj_iff.mp hGet
    omega

variable [Preorder V]
variable [DecidableLT V]

/- A sensor that is mapped has no wrong id. -/
theorem entriesReports_of_mapped
    {pairs : List (BitVec 16 × BitVec 16)}
    {records : List (SensorData V)}
    (hMapped :
      ∀ record ∈ records, record.id ∈ pairs.map Prod.snd)
    {report : SensorData V × LogMsg V}
    (hMem :
      report ∈
        entriesReports cfg (loadedEntries cfg pairs)
          records) :
    report.1 ∈ records ∧
      ∃ hot runningAvg,
        report.2 =
          .sensorTemperatureReport report.1.id hot
            runningAvg := by
  rcases KeyedFold.mem_reports _ _ hMem with
    ⟨before, record, after, hSplit, hReport⟩
  rcases List.mem_map.mp hReport with ⟨msg, hMsg, rfl⟩
  have hRecord : record ∈ records := by
    rw [hSplit]
    exact List.mem_append_right _ List.mem_cons_self
  refine ⟨hRecord, ?_⟩
  rcases find_loadedEntries cfg pairs record.id with
    ⟨hNot, _⟩ | ⟨_, room, hFind⟩
  · exact absurd (hMapped record hRecord) hNot
  · have hKey :
        (sensorEntries cfg).keyOf record = record.id := rfl
    have hFold :=
      foldl_storeRecord cfg room record.id
        ((sensorEntries cfg).ofKey record.id before)
    have hStep :
        (sensorEntries cfg).step = storeRecord cfg := rfl
    rw [hKey, KeyedFold.find_storeAll, hFind,
      Option.map_some, hStep, hFold, recordReport,
      temperatureReport] at hMsg
    split at hMsg
    · rw [List.mem_singleton.mp hMsg]
      exact ⟨_, _, rfl⟩
    · split at hMsg
      · rw [List.mem_singleton.mp hMsg]
        exact ⟨_, _, rfl⟩
      · cases hMsg

variable [FloatValue V]
variable [SensorValue V]

/-
  The program on the files of the generator, with the data
  file cut off anywhere. It uses the whole records, and finds
  no wrong id. It prints the sensors in reverse, each with
  the measurements of its own series, as far as they were
  written.
-/
theorem plab1Main_of_generator
    (g : Generator V)
    (cut : Nat) :
    let records := g.generatedRecords.take (cut / 18)
    let reports :=
      entriesReports cfg (loadedEntries cfg generatedMap)
        records
    (∃ s,
      plab1Main cfg (some Generator.roomSensorMap)
          (some (g.sensorData.take cut)) =
        .ok
          { status := 0
            printed :=
              text "Hello World\n" ++
                (reportsText reports ++
                    (text "\n\n\n\n\n\n" ++
                      generatedMap.reverse.flatMap
                        (fun pair =>
                          sensorText cfg
                            (elementAfter cfg pair
                              records))) ++
                  text "Bye World\n")
            memory := some s } ∧
      s.Settled generatedMap.length
        (List.range generatedMap.length)) ∧
    (∀ report ∈ reports,
      report.1 ∈ records ∧
        ∃ hot runningAvg,
          report.2 =
            .sensorTemperatureReport report.1.id hot
              runningAvg) ∧
    ∀ before pair after,
      generatedMap = before ++ pair :: after →
        ofSensor pair.2 records <+:
            g.series pair.2 generatedMap.length
              NUM_MEASUREMENTS g.starttime before.length
              (g.sensorTemperature pair.2) ∧
          (g.sensorData.length ≤ cut →
            ofSensor pair.2 records =
              g.series pair.2 generatedMap.length
                NUM_MEASUREMENTS g.starttime before.length
                (g.sensorTemperature pair.2)) := by
  intro records reports
  have hPairs :
      mapPairs Generator.roomSensorMap = generatedMap :=
    mapPairs_mapText generatedMap
  have hNodup : (generatedMap.map Prod.snd).Nodup := by
    decide
  have hRecords :
      fileRecords (g.sensorData.take cut) = records := by
    rw [g.sensorData_eq, fileRecords_take]
  refine ⟨?_, ?_, ?_⟩
  · rcases plab1Main_prints cfg Generator.roomSensorMap
        (g.sensorData.take cut) with
      ⟨s, hMain, hSettled⟩
    rw [hPairs] at hMain hSettled
    rw [hRecords, entriesAfter_of_nodup cfg hNodup,
      sensorsText, if_neg (by simp [generatedMap]),
      List.flatMap_map] at hMain
    exact ⟨s, hMain, hSettled⟩
  · intro report hMem
    refine entriesReports_of_mapped cfg ?_ hMem
    intro record hRecord
    exact g.id_of_mem_generatedRecords
      (List.mem_of_mem_take hRecord)
  · intro before pair after hSplit
    rw [← g.ofSensor_generatedRecords hSplit]
    constructor
    · exact (List.take_prefix _ _).filter _
    · intro hWhole
      have hAll : g.generatedRecords.length ≤ cut / 18 := by
        rw [g.sensorData_eq, length_sensorNodeStream]
          at hWhole
        omega
      exact congrArg (ofSensor pair.2)
        (List.take_of_length_le hAll)

end Generated

end SensorGateway
