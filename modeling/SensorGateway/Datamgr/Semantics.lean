import SensorGateway.Datamgr.Entries
import Mathlib.Data.ZMod.Defs
import Mathlib.Order.Fin.Basic

/-
  What the data manager makes of a sensor map and a sequence
  of records: the window, the last timestamp and the average
  of each entry, and the log.

  Key definitions include:
    * `windowAfter`
    * `elementAfter`
    * `entriesAfter`
    * `expectedLog`

  Key theorems include:
    * `shiftLoop_apply`
    * `storeValue_windowAfter`
    * `foldl_storeRecord`
    * `dataManagerInit_semantics`
-/

------------------------------------------------------------
-- Histories
------------------------------------------------------------

namespace SensorGateway

open Foundations

section Histories

variable {V : Type}
variable (cfg : DatamgrConfig V)

/- The values newest first, and the values of the loader. -/
def newestFirst
    (records : List (SensorData V)) :
    List V :=
  (records.map SensorData.value).reverse ++
    List.replicate cfg.RUN_AVG_LENGTH cfg.seed

theorem length_newestFirst
    (records : List (SensorData V)) :
    (newestFirst cfg records).length =
      records.length + cfg.RUN_AVG_LENGTH := by
  simp [newestFirst]

/- The window after records of the sensor. -/
def windowAfter
    (records : List (SensorData V)) :
    Fin cfg.RUN_AVG_LENGTH → V :=
  fun i =>
    (newestFirst cfg records).get
      ⟨i, by rw [length_newestFirst]; omega⟩

/- The window is the front of the values newest first. -/
theorem ofFn_windowAfter
    (records : List (SensorData V)) :
    List.ofFn (windowAfter cfg records) =
      (newestFirst cfg records).take cfg.RUN_AVG_LENGTH := by
  apply List.ext_getElem
  · rw [List.length_ofFn, List.length_take,
      length_newestFirst]
    omega
  · intro i h₁ h₂
    simp [windowAfter]

/- The timestamp of the last record, 0 if there is none. -/
def lastModifiedAfter
    (records : List (SensorData V)) :
    SensorTs :=
  (records.getLast?.map SensorData.ts).getD 0

/- The average last computed, if there was a record. -/
def runningAvgAfter
    (records : List (SensorData V)) :
    Option V :=
  if records = [] then
    none
  else
    some (cfg.getRunningAvg (windowAfter cfg records))

/- The records of a sensor, in order. -/
def ofSensor
    (id : SensorId)
    (records : List (SensorData V)) :
    List (SensorData V) :=
  records.filter (fun record => record.id = id)

/- The entry of a pair after the records of its sensor. -/
def elementAfter
    (pair : BitVec 16 × BitVec 16)
    (records : List (SensorData V)) :
    ListElement V cfg.RUN_AVG_LENGTH where
  sensorId := pair.2
  roomId := pair.1
  windowRunningAvg :=
    windowAfter cfg (ofSensor pair.2 records)
  lastModified := lastModifiedAfter (ofSensor pair.2 records)
  runningAvgValue :=
    runningAvgAfter cfg (ofSensor pair.2 records)

/-
  The list after the records: an entry for each pair, the
  last pair first. The first entry of each sensor has the
  records, and the others are as loaded.
-/
def entriesAfter
    (pairs : List (BitVec 16 × BitVec 16))
    (records : List (SensorData V)) :
    List (ListElement V cfg.RUN_AVG_LENGTH) :=
  pairs.reverse.mapIdx
    (fun i pair =>
      if pair.2 ∈ (pairs.reverse.take i).map Prod.snd then
        loadedElement cfg pair.1 pair.2
      else
        elementAfter cfg pair records)

end Histories

section Reports

variable {V : Type}
variable (cfg : DatamgrConfig V)
variable [LT V]
variable [DecidableLT V]

/- The messages for a record that comes after others. -/
def expectedReport
    (pairs : List (BitVec 16 × BitVec 16))
    (before : List (SensorData V))
    (record : SensorData V) :
    List (LogMsg V) :=
  let runningAvg :=
    cfg.getRunningAvg
      (windowAfter cfg
        (ofSensor record.id (before ++ [record])))
  if record.id ∈ pairs.map Prod.snd then
    (if cfg.SET_MAX_TEMP < runningAvg then
      [.sensorTemperatureReport record.id true runningAvg]
    else []) ++
    (if runningAvg < cfg.SET_MIN_TEMP then
      [.sensorTemperatureReport record.id false runningAvg]
    else [])
  else
    [.invalidSensor record.id]

/- The messages for records that come after others. -/
def expectedLogFrom
    (pairs : List (BitVec 16 × BitVec 16)) :
    List (SensorData V) → List (SensorData V) →
      List (LogMsg V)
| _, [] => []
| before, record :: records =>
    expectedReport cfg pairs before record ++
      expectedLogFrom pairs (before ++ [record]) records

/- The messages for all records. -/
def expectedLog
    (pairs : List (BitVec 16 × BitVec 16))
    (records : List (SensorData V)) :
    List (LogMsg V) :=
  expectedLogFrom cfg pairs [] records

end Reports

------------------------------------------------------------
-- The Window
------------------------------------------------------------

section Window

variable {V : Type}
variable (cfg : DatamgrConfig V)

/- The shift moves the first slots one slot on. -/
theorem shiftLoop_apply
    {L : Nat}
    (n : Nat)
    (hLt : n < L)
    (window : Fin L → V)
    (j : Fin L) :
    shiftLoop n window j =
      if hShift : 0 < j.val ∧ j.val ≤ n then
        window ⟨j.val - 1, by omega⟩
      else
        window j := by
  induction n generalizing window with
  | zero =>
      have hNot : ¬ (0 < j.val ∧ j.val ≤ 0) := by
        omega
      rw [shiftLoop, dif_neg hNot]
  | succ n ih =>
      rw [shiftLoop, dif_pos hLt, ih (by omega)]
      by_cases hLow : 0 < j.val ∧ j.val ≤ n
      · have hShift : 0 < j.val ∧ j.val ≤ n + 1 := by
          omega
        have hOther :
            (⟨j.val - 1, by omega⟩ : Fin L) ≠
              ⟨n + 1, hLt⟩ := by
          intro hEq
          have hVal := Fin.val_eq_of_eq hEq
          simp only at hVal
          omega
        rw [dif_pos hLow, dif_pos hShift,
          Function.update_of_ne hOther]
      · rw [dif_neg hLow]
        by_cases hTop : j.val = n + 1
        · have hShift : 0 < j.val ∧ j.val ≤ n + 1 := by
            omega
          have hEq : j = ⟨n + 1, hLt⟩ :=
            Fin.ext hTop
          subst hEq
          rw [dif_pos hShift, Function.update_self]
          rfl
        · have hNot : ¬ (0 < j.val ∧ j.val ≤ n + 1) := by
            omega
          have hOther : j ≠ ⟨n + 1, hLt⟩ := by
            intro hEq
            exact hTop (congrArg Fin.val hEq)
          rw [dif_neg hNot, Function.update_of_ne hOther]

/- A value in front moves the window on by one. -/
theorem storeValue_windowAfter
    (records : List (SensorData V))
    (record : SensorData V) :
    storeValue cfg (windowAfter cfg records) record.value =
      windowAfter cfg (records ++ [record]) := by
  have hCons :
      newestFirst cfg (records ++ [record]) =
        record.value :: newestFirst cfg records := by
    simp [newestFirst]
  have hPos := cfg.length_pos
  funext j
  unfold storeValue
  by_cases hFront : j = cfg.front
  · rw [hFront, Function.update_self]
    simp [windowAfter, hCons, DatamgrConfig.front]
  · have hShift :
        0 < j.val ∧ j.val ≤ cfg.RUN_AVG_LENGTH - 1 := by
      have hNe : j.val ≠ 0 := by
        intro hZero
        exact hFront (Fin.ext hZero)
      omega
    rw [Function.update_of_ne hFront,
      shiftLoop_apply _ (by omega), dif_pos hShift]
    simp only [windowAfter, hCons, List.get_eq_getElem]
    rw [List.getElem_cons, dif_neg (by omega)]

/- Before any record, the window is as loaded. -/
theorem windowAfter_nil :
    windowAfter cfg [] = fun _ => cfg.seed := by
  funext i
  simp [windowAfter, newestFirst]

/- The loaded entry, after records of its sensor. -/
theorem foldl_storeRecord
    (room sensor : BitVec 16)
    (records : List (SensorData V)) :
    records.foldl (storeRecord cfg)
        (loadedElement cfg room sensor) =
      { sensorId := sensor
        roomId := room
        windowRunningAvg := windowAfter cfg records
        lastModified := lastModifiedAfter records
        runningAvgValue := runningAvgAfter cfg records } := by
  induction records using List.reverseRecOn with
  | nil =>
      rw [windowAfter_nil]
      rfl
  | append_singleton records record ih =>
      rw [List.foldl_append, ih, List.foldl_cons,
        List.foldl_nil, storeRecord,
        storeValue_windowAfter]
      simp [lastModifiedAfter, runningAvgAfter]

end Window

------------------------------------------------------------
-- The Loop
------------------------------------------------------------

section Loop

variable {V : Type}
variable (cfg : DatamgrConfig V)

/- The entries after the records, from the loaded ones. -/
theorem storeAll_loadedEntries
    (pairs : List (BitVec 16 × BitVec 16))
    (records : List (SensorData V)) :
    (sensorEntries cfg).storeAll records
        (loadedEntries cfg pairs) =
      entriesAfter cfg pairs records := by
  have hLoaded :
      loadedEntries cfg pairs =
        pairs.reverse.map
          (fun p => loadedElement cfg p.1 p.2) := by
    rw [loadedEntries, List.map_reverse]
  have hKeys :
      ∀ i,
        ((pairs.reverse.map
            (fun p => loadedElement cfg p.1 p.2)).take i).map
              (sensorEntries cfg).entryKey =
          (pairs.reverse.take i).map Prod.snd := by
    intro i
    rw [← List.map_take, List.map_map]
    rfl
  have hAfter :
      ∀ pair : BitVec 16 × BitVec 16,
        (sensorEntries cfg).entryAfter records
            (loadedElement cfg pair.1 pair.2) =
          elementAfter cfg pair records := by
    intro pair
    exact foldl_storeRecord cfg pair.1 pair.2
      (ofSensor pair.2 records)
  rw [KeyedFold.storeAll_eq_mapIdx, hLoaded, entriesAfter]
  apply List.ext_getElem?
  intro i
  rw [List.getElem?_mapIdx, List.getElem?_mapIdx,
    List.getElem?_map, Option.map_map, hKeys]
  congr 1
  funext pair
  rw [Function.comp_apply, hAfter]
  rfl

/- The first entry of a sensor is one of its pairs. -/
theorem find_loadedEntries
    (pairs : List (BitVec 16 × BitVec 16))
    (id : SensorId) :
    (id ∉ pairs.map Prod.snd ∧
      (sensorEntries cfg).find (loadedEntries cfg pairs) id =
        none) ∨
    (id ∈ pairs.map Prod.snd ∧
      ∃ room,
        (sensorEntries cfg).find (loadedEntries cfg pairs)
            id =
          some (loadedElement cfg room id)) := by
  cases hFind :
      (sensorEntries cfg).find (loadedEntries cfg pairs)
        id with
  | none =>
      left
      refine ⟨?_, rfl⟩
      intro hMem
      rcases List.mem_map.mp hMem with ⟨pair, hPair, hId⟩
      have hNot :=
        List.find?_eq_none.mp hFind
          (loadedElement cfg pair.1 pair.2)
          (by
            rw [loadedEntries, List.mem_reverse]
            exact List.mem_map.mpr ⟨pair, hPair, rfl⟩)
      simp only [decide_eq_true_eq] at hNot
      exact hNot hId
  | some e =>
      right
      have hMem := List.mem_of_find?_eq_some hFind
      have hKey := List.find?_some hFind
      rw [decide_eq_true_eq] at hKey
      rw [loadedEntries, List.mem_reverse] at hMem
      rcases List.mem_map.mp hMem with ⟨pair, hPair, rfl⟩
      have hId : pair.2 = id := hKey
      refine ⟨?_, pair.1, ?_⟩
      · rw [← hId]
        exact List.mem_map_of_mem hPair
      · rw [hId]

variable [Preorder V]
variable [DecidableLT V]

/- At most one of the two reports is made. -/
theorem temperatureReport_eq
    (hThresholds : cfg.SET_MIN_TEMP ≤ cfg.SET_MAX_TEMP)
    (id : SensorId)
    (runningAvg : V) :
    temperatureReport cfg id runningAvg =
      (if cfg.SET_MAX_TEMP < runningAvg then
        [.sensorTemperatureReport id true runningAvg]
      else []) ++
      (if runningAvg < cfg.SET_MIN_TEMP then
        [.sensorTemperatureReport id false runningAvg]
      else []) := by
  unfold temperatureReport
  by_cases hHot : cfg.SET_MAX_TEMP < runningAvg
  · have hNotCold : ¬ runningAvg < cfg.SET_MIN_TEMP := by
      intro hCold
      exact lt_irrefl _
        (hCold.trans_le (hThresholds.trans hHot.le))
    rw [if_pos hHot, if_pos hHot, if_neg hNotCold]
    rfl
  · rw [if_neg hHot, if_neg hHot]
    rfl

/- The report on a record that comes after others. -/
theorem recordReport_loadedEntries
    (hThresholds : cfg.SET_MIN_TEMP ≤ cfg.SET_MAX_TEMP)
    (pairs : List (BitVec 16 × BitVec 16))
    (before : List (SensorData V))
    (record : SensorData V) :
    recordReport cfg
        (((sensorEntries cfg).find (loadedEntries cfg pairs)
            record.id).map
          (fun e =>
            (ofSensor record.id before).foldl
              (storeRecord cfg) e))
        record =
      expectedReport cfg pairs before record := by
  unfold expectedReport
  rcases find_loadedEntries cfg pairs record.id with
    ⟨hNot, hFind⟩ | ⟨hMem, room, hFind⟩
  · rw [hFind, if_neg hNot]
    rfl
  · have hOwn :
        ofSensor record.id (before ++ [record]) =
          ofSensor record.id before ++ [record] := by
      simp [ofSensor]
    rw [hFind, if_pos hMem, Option.map_some,
      foldl_storeRecord, hOwn, recordReport,
      storeValue_windowAfter,
      temperatureReport_eq cfg hThresholds]

/- The log of records from the loaded entries. -/
theorem entriesLog_loadedEntries
    (hThresholds : cfg.SET_MIN_TEMP ≤ cfg.SET_MAX_TEMP)
    (pairs : List (BitVec 16 × BitVec 16))
    (records : List (SensorData V)) :
    entriesLog cfg (loadedEntries cfg pairs) records =
      expectedLog cfg pairs records := by
  unfold entriesLog expectedLog
  rw [KeyedFold.reports_eq_reportsAfter]
  generalize ([] : List (SensorData V)) = before
  induction records generalizing before with
  | nil => rfl
  | cons record records ih =>
      rw [KeyedFold.reportsAfter, expectedLogFrom, ih,
        ← recordReport_loadedEntries cfg hThresholds]
      rfl

variable [SensorValue V]

/-
  The data manager loads the map, and from the records up to
  the marker it makes the entries and the log that the
  records of each sensor determine.
-/
theorem dataManagerInit_semantics
    (hThresholds : cfg.SET_MIN_TEMP ≤ cfg.SET_MAX_TEMP)
    (pairs : List (BitVec 16 × BitVec 16))
    (records : List (SensorData V))
    (hIds : ∀ record ∈ records, record.id ≠ 0) :
    ∃ s₀ s,
      loadMap cfg pairs = .ok s₀ ∧
      s₀.Holds
        (pairs.reverse.map
          (fun p => loadedElement cfg p.1 p.2)) ∧
      datamgrLoop cfg s₀
          (records ++ [SensorData.endOfStream]) =
        .ok (s, expectedLog cfg pairs records) ∧
      s.Holds (entriesAfter cfg pairs records) := by
  rcases loadMap_holds cfg pairs with ⟨s₀, hLoad, hHolds₀⟩
  rcases datamgrLoop_of_holds cfg hHolds₀ hIds
      SensorData.endOfStream_id with
    ⟨s, hLoop, hHolds⟩
  refine ⟨s₀, s, hLoad, ?_, ?_, ?_⟩
  · rw [List.map_reverse]
    exact hHolds₀
  · rw [hLoop,
      entriesLog_loadedEntries cfg hThresholds pairs records]
  · rw [← storeAll_loadedEntries]
    exact hHolds

end Loop

/- The thresholds of the build file, in whole degrees. -/
def wholeDegrees : DatamgrConfig (Fin (2 ^ 64)) where
  RUN_AVG_LENGTH := 5
  length_pos := by decide
  SET_MIN_TEMP := 10
  SET_MAX_TEMP := 20
  midpoint := fun maxTemp minTemp => (maxTemp + minTemp) / 2
  getRunningAvg := fun window => (List.ofFn window).sum / 5

/- One hot record of the only sensor. -/
theorem dataManagerInit_one_record :
    ∃ s₀ s,
      loadMap wholeDegrees [(1, 15)] = .ok s₀ ∧
      datamgrLoop wholeDegrees s₀
          [⟨15, 60, 1000⟩, SensorData.endOfStream] =
        .ok (s, [.sensorTemperatureReport 15 true 24]) ∧
      s.Holds
        (entriesAfter wholeDegrees [(1, 15)]
          [⟨15, 60, 1000⟩]) := by
  rcases dataManagerInit_semantics wholeDegrees
      (by decide) [(1, 15)] [⟨15, 60, 1000⟩]
      (by simp) with
    ⟨s₀, s, hLoad, _, hLoop, hHolds⟩
  exact ⟨s₀, s, hLoad, hLoop, hHolds⟩

end SensorGateway
