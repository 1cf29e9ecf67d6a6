import Mathlib.Algebra.Order.Field.Rat
import Mathlib.Tactic.Linarith
import SensorGateway.Datamgr.Semantics
import SensorGateway.Foundations.Mean

/-
  The alarms of the data manager, where the average over a
  window is computed without rounding.

  A window has values of the thresholds' midpoint and of the
  records, and its average is between them. So a sensor whose
  records are in range has no alarm, and one whose last
  records fill a window outside of the range has one.

  Key definitions include:
    * `exactConfig`

  Key theorems include:
    * `windowAfter_induction`
    * `windowAfter_of_full`
    * `mem_expectedLogFrom`
    * `expectedReport_of_hot`
    * `dataManagerInit_alarms`
-/

------------------------------------------------------------
-- Windows
------------------------------------------------------------

namespace SensorGateway

open Foundations

section Windows

variable {V : Type}
variable (cfg : DatamgrConfig V)

/- What holds of the seed and of all records. -/
theorem windowAfter_induction
    {P : V → Prop}
    (hSeed : P cfg.seed)
    {records : List (SensorData V)}
    (hRecords : ∀ r ∈ records, P r.value)
    (i : Fin cfg.RUN_AVG_LENGTH) :
    P (windowAfter cfg records i) := by
  have hMem :
      windowAfter cfg records i ∈ newestFirst cfg records :=
    List.get_mem _ _
  rcases List.mem_append.mp hMem with hValue | hFill
  · rw [List.mem_reverse] at hValue
    rcases List.mem_map.mp hValue with ⟨r, hR, hEq⟩
    rw [← hEq]
    exact hRecords r hR
  · rw [(List.mem_replicate.mp hFill).2]
    exact hSeed

/- A window full of records has the last ones. -/
theorem windowAfter_of_full
    {early window : List (SensorData V)}
    (hFull : window.length = cfg.RUN_AVG_LENGTH)
    {P : V → Prop}
    (hWindow : ∀ r ∈ window, P r.value)
    (i : Fin cfg.RUN_AVG_LENGTH) :
    P (windowAfter cfg (early ++ window) i) := by
  have hTake :
      (newestFirst cfg (early ++ window)).take
          cfg.RUN_AVG_LENGTH =
        (window.map SensorData.value).reverse := by
    rw [newestFirst, List.map_append, List.reverse_append,
      List.append_assoc, ← hFull]
    exact List.take_left' (by simp)
  have hMem :
      windowAfter cfg (early ++ window) i ∈
        List.ofFn (windowAfter cfg (early ++ window)) :=
    (List.mem_ofFn' _ _).mpr ⟨i, rfl⟩
  rw [ofFn_windowAfter, hTake, List.mem_reverse] at hMem
  rcases List.mem_map.mp hMem with ⟨r, hR, hEq⟩
  rw [← hEq]
  exact hWindow r hR

end Windows

------------------------------------------------------------
-- Reports
------------------------------------------------------------

section Reports

variable {V : Type}
variable (cfg : DatamgrConfig V)
variable [LT V]
variable [DecidableLT V]
variable {pairs : List (BitVec 16 × BitVec 16)}
variable {before records : List (SensorData V)}
variable {record : SensorData V}
variable {id : SensorId}

/- A message of the log was made for one of the records. -/
theorem mem_expectedLogFrom
    {msg : LogMsg V}
    (hMem : msg ∈ expectedLogFrom cfg pairs before records) :
    ∃ early late record,
      records = early ++ record :: late ∧
        msg ∈
          expectedReport cfg pairs (before ++ early)
            record := by
  induction records generalizing before with
  | nil => cases hMem
  | cons r records ih =>
      rw [expectedLogFrom, List.mem_append] at hMem
      rcases hMem with hHere | hThere
      · refine ⟨[], records, r, rfl, ?_⟩
        rw [List.append_nil]
        exact hHere
      · rcases ih hThere with
          ⟨early, late, record, hSplit, hMem⟩
        refine ⟨r :: early, late, record, ?_, ?_⟩
        · rw [hSplit]
          rfl
        · rw [List.append_assoc] at hMem
          exact hMem

/- An alarm is about the record's sensor and its average. -/
theorem alarm_of_mem_expectedReport
    {hot : Bool}
    {runningAvg : V}
    (hMem :
      .sensorTemperatureReport id hot runningAvg ∈
        expectedReport cfg pairs before record) :
    record.id = id ∧
      runningAvg =
        cfg.getRunningAvg
          (windowAfter cfg
            (ofSensor id (before ++ [record]))) ∧
      (cfg.SET_MAX_TEMP < runningAvg ∨
        runningAvg < cfg.SET_MIN_TEMP) := by
  unfold expectedReport at hMem
  simp only at hMem
  split at hMem
  · rcases List.mem_append.mp hMem with hHot | hCold
    · split at hHot
      · rename_i hLt
        cases List.mem_singleton.mp hHot
        exact ⟨rfl, rfl, Or.inl hLt⟩
      · cases hHot
    · split at hCold
      · rename_i hLt
        cases List.mem_singleton.mp hCold
        exact ⟨rfl, rfl, Or.inr hLt⟩
      · cases hCold
  · cases List.mem_singleton.mp hMem

end Reports

section OneReport

variable {V : Type}
variable (cfg : DatamgrConfig V)
variable [Preorder V]
variable [DecidableLT V]
variable {pairs : List (BitVec 16 × BitVec 16)}
variable {before : List (SensorData V)}
variable {record : SensorData V}
variable {runningAvg : V}

/- The only message for an average above the range. -/
theorem expectedReport_of_hot
    (hThresholds : cfg.SET_MIN_TEMP ≤ cfg.SET_MAX_TEMP)
    (hMapped : record.id ∈ pairs.map Prod.snd)
    (hAvg :
      cfg.getRunningAvg
          (windowAfter cfg
            (ofSensor record.id (before ++ [record]))) =
        runningAvg)
    (hHot : cfg.SET_MAX_TEMP < runningAvg) :
    expectedReport cfg pairs before record =
      [.sensorTemperatureReport record.id true
        runningAvg] := by
  have hNotCold : ¬ runningAvg < cfg.SET_MIN_TEMP := by
    intro hCold
    exact lt_irrefl _
      (hCold.trans (hThresholds.trans_lt hHot))
  simp only [expectedReport, hAvg, if_pos hMapped,
    if_pos hHot, if_neg hNotCold, List.append_nil]

/- The only message for an average below the range. -/
theorem expectedReport_of_cold
    (hThresholds : cfg.SET_MIN_TEMP ≤ cfg.SET_MAX_TEMP)
    (hMapped : record.id ∈ pairs.map Prod.snd)
    (hAvg :
      cfg.getRunningAvg
          (windowAfter cfg
            (ofSensor record.id (before ++ [record]))) =
        runningAvg)
    (hCold : runningAvg < cfg.SET_MIN_TEMP) :
    expectedReport cfg pairs before record =
      [.sensorTemperatureReport record.id false
        runningAvg] := by
  have hNotHot : ¬ cfg.SET_MAX_TEMP < runningAvg := by
    intro hHot
    exact lt_irrefl _
      (hCold.trans (hThresholds.trans_lt hHot))
  simp only [expectedReport, hAvg, if_pos hMapped,
    if_pos hCold, if_neg hNotHot, List.nil_append]

end OneReport

------------------------------------------------------------
-- Exact Averages
------------------------------------------------------------

/-
  The data manager with whole thresholds, whose values are
  rational numbers and whose arithmetic does not round.
-/
def exactConfig
    (RUN_AVG_LENGTH : Nat)
    (hPos : 0 < RUN_AVG_LENGTH)
    (SET_MIN_TEMP SET_MAX_TEMP : Int) :
    DatamgrConfig ℚ where
  RUN_AVG_LENGTH := RUN_AVG_LENGTH
  length_pos := hPos
  SET_MIN_TEMP := SET_MIN_TEMP
  SET_MAX_TEMP := SET_MAX_TEMP
  midpoint := fun maxTemp minTemp => (maxTemp + minTemp) / 2
  getRunningAvg := fun window =>
    (List.ofFn window).foldl (fun sum x => sum + x) 0 /
      RUN_AVG_LENGTH

section Exact

variable {L : Nat}
variable {hPos : 0 < L}
variable {minTemp maxTemp : Int}

theorem exactConfig_getRunningAvg
    (window : Fin L → ℚ) :
    (exactConfig L hPos minTemp maxTemp).getRunningAvg
        window =
      mean window :=
  foldl_div_eq_mean window

/- The seed is in range. -/
theorem exactConfig_seed
    (hThresholds : minTemp ≤ maxTemp) :
    (minTemp : ℚ) ≤
        (exactConfig L hPos minTemp maxTemp).seed ∧
      (exactConfig L hPos minTemp maxTemp).seed ≤
        maxTemp := by
  have hLe : (minTemp : ℚ) ≤ maxTemp :=
    Int.cast_le.mpr hThresholds
  have hSeed :
      (exactConfig L hPos minTemp maxTemp).seed =
        ((maxTemp : ℚ) + minTemp) / 2 := rfl
  rw [hSeed]
  constructor
  · linarith
  · linarith

variable {window : Fin L → ℚ}

/- The average of a window in range is in range. -/
theorem exactConfig_avg_in_range
    (hRange :
      ∀ i, (minTemp : ℚ) ≤ window i ∧ window i ≤ maxTemp) :
    (minTemp : ℚ) ≤
        (exactConfig L hPos minTemp maxTemp).getRunningAvg
          window ∧
      (exactConfig L hPos minTemp maxTemp).getRunningAvg
          window ≤ maxTemp := by
  rw [exactConfig_getRunningAvg]
  constructor
  · calc
      (minTemp : ℚ) = mean (fun _ : Fin L => (minTemp : ℚ)) :=
        (mean_const hPos _).symm
      _ ≤ mean window := mean_le_mean (fun i => (hRange i).1)
  · calc
      mean window ≤ mean (fun _ : Fin L => (maxTemp : ℚ)) :=
        mean_le_mean (fun i => (hRange i).2)
      _ = maxTemp := mean_const hPos _

/- So is the average of a window above or below the range. -/
theorem exactConfig_avg_above
    (hHot : ∀ i, (maxTemp : ℚ) < window i) :
    (maxTemp : ℚ) <
      (exactConfig L hPos minTemp maxTemp).getRunningAvg
        window := by
  rw [exactConfig_getRunningAvg]
  calc
    (maxTemp : ℚ) = mean (fun _ : Fin L => (maxTemp : ℚ)) :=
      (mean_const hPos _).symm
    _ < mean window := mean_lt_mean hPos hHot

theorem exactConfig_avg_below
    (hCold : ∀ i, window i < (minTemp : ℚ)) :
    (exactConfig L hPos minTemp maxTemp).getRunningAvg
        window <
      (minTemp : ℚ) := by
  rw [exactConfig_getRunningAvg]
  calc
    mean window < mean (fun _ : Fin L => (minTemp : ℚ)) :=
      mean_lt_mean hPos hCold
    _ = minTemp := mean_const hPos _

------------------------------------------------------------
-- Alarms
------------------------------------------------------------

variable {pairs : List (BitVec 16 × BitVec 16)}
variable {before records : List (SensorData ℚ)}
variable {record : SensorData ℚ}
variable {id : SensorId}

/- A sensor in range has no alarm. -/
theorem exactConfig_no_alarm
    (hThresholds : minTemp ≤ maxTemp)
    (hRange :
      ∀ r ∈ records, r.id = id →
        (minTemp : ℚ) ≤ r.value ∧ r.value ≤ maxTemp)
    (hot : Bool)
    (runningAvg : ℚ) :
    .sensorTemperatureReport id hot runningAvg ∉
      expectedLog (exactConfig L hPos minTemp maxTemp) pairs
        records := by
  intro hMem
  rcases mem_expectedLogFrom _ hMem with
    ⟨early, late, r, hSplit, hReport⟩
  rcases alarm_of_mem_expectedReport _ hReport with
    ⟨hId, hAvg, hOut⟩
  have hIn :
      (minTemp : ℚ) ≤
          (exactConfig L hPos minTemp maxTemp).getRunningAvg
            (windowAfter (exactConfig L hPos minTemp maxTemp)
              (ofSensor id ([] ++ early ++ [r]))) ∧
        (exactConfig L hPos minTemp maxTemp).getRunningAvg
            (windowAfter (exactConfig L hPos minTemp maxTemp)
              (ofSensor id ([] ++ early ++ [r]))) ≤
          maxTemp := by
    apply exactConfig_avg_in_range
    intro i
    apply windowAfter_induction
      (exactConfig L hPos minTemp maxTemp)
      (P := fun x => (minTemp : ℚ) ≤ x ∧ x ≤ maxTemp)
      (exactConfig_seed hThresholds)
    intro x hX
    rcases List.mem_filter.mp hX with ⟨hHere, hSensor⟩
    refine hRange x ?_ (of_decide_eq_true hSensor)
    rw [hSplit, ← List.singleton_append,
      ← List.append_assoc]
    exact List.mem_append_left _ hHere
  rw [← hAvg] at hIn
  rcases hOut with hHot | hCold
  · exact absurd hHot (not_lt.mpr hIn.2)
  · exact absurd hCold (not_lt.mpr hIn.1)

/-
  A record has an alarm where it ends a window of records of
  its sensor that are all above, or all below, the range.
-/
theorem exactConfig_alarm
    (hThresholds : minTemp ≤ maxTemp)
    (hMapped : record.id ∈ pairs.map Prod.snd)
    {early window : List (SensorData ℚ)}
    (hWindow :
      ofSensor record.id (before ++ [record]) =
        early ++ window)
    (hFull : window.length = L) :
    ((∀ r ∈ window, (maxTemp : ℚ) < r.value) →
      ∃ runningAvg,
        expectedReport (exactConfig L hPos minTemp maxTemp)
            pairs before record =
          [.sensorTemperatureReport record.id true
            runningAvg]) ∧
      ((∀ r ∈ window, r.value < (minTemp : ℚ)) →
        ∃ runningAvg,
          expectedReport (exactConfig L hPos minTemp maxTemp)
              pairs before record =
            [.sensorTemperatureReport record.id false
              runningAvg]) := by
  have hLe :
      (exactConfig L hPos minTemp maxTemp).SET_MIN_TEMP ≤
        (exactConfig L hPos minTemp maxTemp).SET_MAX_TEMP :=
    Int.cast_le.mpr hThresholds
  constructor
  · intro hHot
    refine ⟨_, expectedReport_of_hot _ hLe hMapped rfl ?_⟩
    rw [hWindow]
    exact exactConfig_avg_above
      (windowAfter_of_full
        (exactConfig L hPos minTemp maxTemp) hFull
        (P := fun x => (maxTemp : ℚ) < x) hHot)
  · intro hCold
    refine ⟨_, expectedReport_of_cold _ hLe hMapped rfl ?_⟩
    rw [hWindow]
    exact exactConfig_avg_below
      (windowAfter_of_full
        (exactConfig L hPos minTemp maxTemp) hFull
        (P := fun x => x < (minTemp : ℚ)) hCold)

/- What the handling of a record logs, behind others. -/
theorem handleRecord_expectedReport
    {V : Type}
    (cfg : DatamgrConfig V)
    [Preorder V]
    [DecidableLT V]
    (hThresholds : cfg.SET_MIN_TEMP ≤ cfg.SET_MAX_TEMP)
    {pairs : List (BitVec 16 × BitVec 16)}
    {before : List (SensorData V)}
    {s : Datamgr V cfg.RUN_AVG_LENGTH}
    (h :
      s.Holds
        ((sensorEntries cfg).storeAll before
          (loadedEntries cfg pairs)))
    (record : SensorData V) :
    ∃ s',
      handleRecord cfg s record =
        .ok (s', expectedReport cfg pairs before record) := by
  rcases handleRecord_of_holds cfg h record with
    ⟨s', hHandle, _⟩
  rw [KeyedFold.find_storeAll] at hHandle
  refine ⟨s', hHandle.trans ?_⟩
  rw [← recordReport_loadedEntries cfg hThresholds]
  rfl

/-
  Alarms are sound and complete. A sensor whose records are
  all in range is never reported on; and a record that ends a
  window of records above, or below, the range is reported on
  at once, whatever came before the window or between.
-/
theorem dataManagerInit_alarms
    (L : Nat)
    (hPos : 0 < L)
    (hThresholds : minTemp ≤ maxTemp)
    (pairs : List (BitVec 16 × BitVec 16))
    (records : List (SensorData ℚ))
    (hIds : ∀ record ∈ records, record.id ≠ 0)
    (marker : SensorData ℚ)
    (hMarker : marker.id = 0)
    (id : SensorId)
    (hMapped : id ∈ pairs.map Prod.snd) :
    ∃ s₀ s log,
      loadMap (exactConfig L hPos minTemp maxTemp) pairs =
          .ok s₀ ∧
        datamgrLoop (exactConfig L hPos minTemp maxTemp) s₀
            (records ++ [marker]) =
          .ok (s, log) ∧
        ((∀ r ∈ records, r.id = id →
            (minTemp : ℚ) ≤ r.value ∧ r.value ≤ maxTemp) →
          ∀ hot runningAvg,
            .sensorTemperatureReport id hot runningAvg ∉
              log) ∧
        ∀ before record after early window,
          records = before ++ record :: after →
            record.id = id →
            ofSensor id (before ++ [record]) =
              early ++ window →
            window.length = L →
            ∃ s₁ log₁ s₂ msgs,
              datamgrLoop
                  (exactConfig L hPos minTemp maxTemp) s₀
                  before =
                .ok (s₁, log₁) ∧
              handleRecord
                  (exactConfig L hPos minTemp maxTemp) s₁
                  record =
                .ok (s₂, msgs) ∧
              ((∀ r ∈ window, (maxTemp : ℚ) < r.value) →
                ∃ runningAvg,
                  msgs =
                    [.sensorTemperatureReport id true
                      runningAvg]) ∧
              ((∀ r ∈ window, r.value < (minTemp : ℚ)) →
                ∃ runningAvg,
                  msgs =
                    [.sensorTemperatureReport id false
                      runningAvg]) := by
  have hLe :
      (exactConfig L hPos minTemp maxTemp).SET_MIN_TEMP ≤
        (exactConfig L hPos minTemp maxTemp).SET_MAX_TEMP :=
    Int.cast_le.mpr hThresholds
  rcases loadMap_holds
      (exactConfig L hPos minTemp maxTemp) pairs with
    ⟨s₀, hLoad, hHolds⟩
  rcases datamgrLoop_of_holds _ hHolds hIds hMarker with
    ⟨s, hLoop, _⟩
  rw [entriesLog_loadedEntries _ hLe] at hLoop
  refine ⟨s₀, s, _, hLoad, hLoop, ?_, ?_⟩
  · intro hRange hot runningAvg
    exact exactConfig_no_alarm hThresholds hRange hot
      runningAvg
  · intro before record after early window hSplit hId hWindow
      hFull
    subst hId
    have hBefore : ∀ r ∈ before, r.id ≠ 0 := by
      intro r hMem
      apply hIds
      rw [hSplit]
      exact List.mem_append_left _ hMem
    rcases datamgrLoop_waiting_of_holds _ hHolds hBefore with
      ⟨s₁, hLoop₁, hHolds₁⟩
    rcases handleRecord_expectedReport _ hLe hHolds₁
        record with
      ⟨s₂, hHandle⟩
    exact ⟨s₁, _, s₂, _, hLoop₁, hHandle,
      exactConfig_alarm hThresholds hMapped hWindow hFull⟩

end Exact

/-
  The second hot record of the only sensor fills its window,
  with a record of another sensor in between.
-/
theorem dataManagerInit_alarms_two :
    ∃ s₀ s₁ log₁ s₂ runningAvg,
      loadMap (exactConfig 2 (by decide) 10 20) [(1, 15)] =
          .ok s₀ ∧
        datamgrLoop (exactConfig 2 (by decide) 10 20) s₀
            [⟨15, 21, 1⟩, ⟨21, 0, 2⟩] =
          .ok (s₁, log₁) ∧
        handleRecord (exactConfig 2 (by decide) 10 20) s₁
            ⟨15, 22, 3⟩ =
          .ok
            (s₂,
              [.sensorTemperatureReport 15 true
                runningAvg]) := by
  have hPos : 0 < 2 := by
    decide
  have hThresholds : (10 : Int) ≤ 20 := by
    decide
  rcases dataManagerInit_alarms 2 hPos hThresholds [(1, 15)]
      [⟨15, 21, 1⟩, ⟨21, 0, 2⟩, ⟨15, 22, 3⟩] (by simp)
      ⟨0, 0, 0⟩ rfl 15 (by decide) with
    ⟨s₀, s, log, hLoad, _, _, hWindows⟩
  rcases hWindows [⟨15, 21, 1⟩, ⟨21, 0, 2⟩] ⟨15, 22, 3⟩ [] []
      [⟨15, 21, 1⟩, ⟨15, 22, 3⟩] rfl rfl rfl rfl with
    ⟨s₁, log₁, s₂, msgs, hLoop, hHandle, hHot, _⟩
  rcases hHot (by norm_num) with ⟨runningAvg, rfl⟩
  exact ⟨s₀, s₁, log₁, s₂, runningAvg, hLoad, hLoop, hHandle⟩

end SensorGateway
