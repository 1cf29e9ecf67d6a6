import SensorGateway.Datamgr.Alarms
import SensorGateway.Foundations.FloatRounding

/-
  The alarms of the data manager with the arithmetic that it
  has: the values are doubles, the sum of a window is kept in
  a `float`, and each addition rounds twice.

  An average is not off the values of its window by more than
  rounding to whole multiples of a power of two. So there is
  no alarm without a value out of range. An average just
  outside of the range may be rounded into it; the alarm is
  certain for values behind the next number that has room for
  `RUN_AVG_LENGTH` of its kind in the 24 bits of a `float`.

  Key definitions include:
    * `getRunningAvg`
    * `floatConfig`
    * `HasRoom`

  Key theorems include:
    * `getRunningAvg_bound`
    * `dataManagerInit_floatAlarms`
-/

------------------------------------------------------------
-- The Average
------------------------------------------------------------

namespace SensorGateway

open Foundations
open FloatDatum

/- `sum += x`, where `sum` is a `float` and `x` a double. -/
def addToSum
    (sum x : FloatDatum) :
    FloatDatum :=
  (sum.add .double x).roundTo .single

/- `get_running_avg`. -/
def getRunningAvg
    {RUN_AVG_LENGTH : Nat}
    (window : Fin RUN_AVG_LENGTH → FloatDatum) :
    FloatDatum :=
  let sum :=
    (List.ofFn window).foldl addToSum (.finite false 0)
  sum.div .single ((ofInt RUN_AVG_LENGTH).roundTo .single)

/- It returns a `float`, which may be infinite. -/
theorem getRunningAvg_eq_toBinary32
    {RUN_AVG_LENGTH : Nat}
    (window : Fin RUN_AVG_LENGTH → FloatDatum) :
    ∃ x : FloatDatum,
      getRunningAvg window = x.toBinary32 :=
  ⟨_, roundTo_single _⟩

/-
  The data manager with whole thresholds. The sum of both is
  an `int`, which is converted to a `float` before it is
  divided by the double `2.0`.
-/
def floatConfig
    (RUN_AVG_LENGTH : Nat)
    (hPos : 0 < RUN_AVG_LENGTH)
    (SET_MIN_TEMP SET_MAX_TEMP : Int) :
    DatamgrConfig FloatDatum where
  RUN_AVG_LENGTH := RUN_AVG_LENGTH
  length_pos := hPos
  SET_MIN_TEMP := ofInt SET_MIN_TEMP
  SET_MAX_TEMP := ofInt SET_MAX_TEMP
  midpoint := fun _ _ =>
    ((ofInt (SET_MAX_TEMP + SET_MIN_TEMP)).roundTo
      .single).div .double (ofInt 2)
  getRunningAvg := getRunningAvg

------------------------------------------------------------
-- Bounds of the Average
------------------------------------------------------------

/-
  A multiple of a power of two, of which a `float` has room
  for `L` in its 24 bits.
-/
def HasRoom
    (L : Nat)
    (c : ℚ) : Prop :=
  ∃ (j : Int) (e : Nat),
    L * j.natAbs ≤ 2 ^ 24 ∧ e ≤ 149 ∧ c = j / 2 ^ e

namespace HasRoom

variable {L : Nat}
variable {c : ℚ}

/- Both formats represent sums of `L` of them at most. -/
theorem represents
    (h : HasRoom L c)
    {k : Nat}
    (hLe : k ≤ L) :
    FloatFormat.single.Represents (k * c) ∧
      FloatFormat.double.Represents (k * c) := by
  rcases h with ⟨j, e, hBits, hQuantum, rfl⟩
  have hAbs : ((k : Int) * j).natAbs ≤ 2 ^ 24 := by
    rw [Int.natAbs_mul, Int.natAbs_natCast]
    exact Nat.le_trans (Nat.mul_le_mul_right _ hLe) hBits
  have hEq :
      (k : ℚ) * (j / 2 ^ e) = (((k : Int) * j : Int) : ℚ) / 2 ^ e := by
    push_cast
    ring
  rw [hEq]
  constructor
  · exact
      FloatFormat.represents_of_le hAbs hQuantum (by decide)
  · exact
      FloatFormat.represents_of_le
        (Nat.le_trans hAbs (by decide))
        (Nat.le_trans hQuantum (by decide)) (by decide)

theorem single
    (h : HasRoom L c)
    (hPos : 0 < L) :
    FloatFormat.single.Represents c := by
  have hOne := (h.represents hPos).1
  rw [Nat.cast_one, one_mul] at hOne
  exact hOne

theorem double
    (h : HasRoom L c)
    (hPos : 0 < L) :
    FloatFormat.double.Represents c := by
  have hOne := (h.represents hPos).2
  rw [Nat.cast_one, one_mul] at hOne
  exact hOne

/- A whole number with few bits. -/
theorem ofInt
    {n : Int}
    (hBits : L * n.natAbs ≤ 2 ^ 24) :
    HasRoom L n :=
  ⟨n, 0, hBits, Nat.zero_le _, by simp⟩

end HasRoom

section Bounds

variable {Bound : ℚ → FloatDatum → Prop}
variable {L : Nat}
variable {c : ℚ}

/- The sum has the sum of the bounds. -/
theorem foldl_addToSum_bound
    (hBound : IsBound Bound)
    (hRoom : HasRoom L c)
    {values : List FloatDatum}
    (hValues : ∀ x ∈ values, Bound c x) :
    ∀ {k : Nat} {sum : FloatDatum},
      k + values.length ≤ L → Bound (k * c) sum →
        Bound ((k + values.length : Nat) * c)
          (values.foldl addToSum sum) := by
  induction values with
  | nil => exact fun _ hSum => hSum
  | cons x values ih =>
      intro k sum hLength hSum
      rw [List.forall_mem_cons] at hValues
      rw [List.length_cons] at hLength ⊢
      have hStep : (k * c + c : ℚ) = (k + 1 : Nat) * c := by
        push_cast
        ring
      have hExact := hBound.exactSum hSum hValues.1
      rw [hStep] at hExact
      have hReps :=
        hRoom.represents (show k + 1 ≤ L by omega)
      have hNext :
          Bound ((k + 1 : Nat) * c) (addToSum sum x) :=
        hBound.roundTo (by decide) hReps.1
          (hBound.roundTo (by decide) hReps.2 hExact)
      have hRest := ih hValues.2 (by omega) hNext
      rw [Nat.add_right_comm] at hRest
      exact hRest

/- The length of the window is converted exactly. -/
theorem roundTo_length
    (hLength : L ≤ 2 ^ 24) :
    (ofInt L).roundTo .single = .finite false L := by
  have hNonneg : decide ((L : Int) < 0) = false :=
    decide_eq_false (by omega)
  have hRep :
      FloatFormat.single.Represents
        (signed false ((L : ℚ≥0) : ℚ)) := by
    have hInt :=
      @FloatFormat.represents_of_le .single L 0 hLength
        (by decide) (by decide)
    simpa [signed] using hInt
  unfold FloatDatum.ofInt
  rw [hNonneg, Int.natAbs_natCast]
  exact roundTo_of_represents (by decide) hRep

/- What bounds all values of a window bounds the average. -/
theorem getRunningAvg_bound
    (hBound : IsBound Bound)
    (hRoom : HasRoom L c)
    (hPos : 0 < L)
    (hLength : L ≤ 2 ^ 24)
    {window : Fin L → FloatDatum}
    (hWindow : ∀ i, Bound c (window i)) :
    Bound c (getRunningAvg window) := by
  have hStart : Bound ((0 : Nat) * c) (.finite false 0) := by
    rw [Nat.cast_zero, zero_mul]
    simpa [FloatDatum.ofInt] using hBound.ofInt 0
  have hValues :
      ∀ x ∈ List.ofFn window, Bound c x := by
    intro x hMem
    rcases (List.mem_ofFn' _ _).mp hMem with ⟨i, rfl⟩
    exact hWindow i
  have hSum :=
    foldl_addToSum_bound hBound hRoom hValues
      (by rw [List.length_ofFn, Nat.zero_add]) hStart
  rw [List.length_ofFn, Nat.zero_add, mul_comm] at hSum
  unfold getRunningAvg FloatDatum.div
  rw [roundTo_length hLength]
  apply hBound.roundTo (by decide) (hRoom.single hPos)
  apply hBound.exactQuotient (Nat.cast_pos.mpr hPos)
  rw [NNRat.cast_natCast]
  exact hSum

end Bounds

section Alarms

variable {L : Nat}
variable {hPos : 0 < L}
variable {minTemp maxTemp : Int}

/- The double of a whole number has as many bits. -/
theorem represents_mul_two
    {n : Int}
    (hBits : n.natAbs ≤ 2 ^ 24) :
    FloatFormat.single.Represents (n * 2) := by
  have hRange : ((n.natAbs : Nat) : ℚ) ≤ 2 ^ 24 := by
    exact_mod_cast hBits
  have hAbs : |(n : ℚ) * 2| = n.natAbs * 2 := by
    rw [abs_mul, Nat.cast_natAbs, Int.cast_abs]
    norm_num
  refine ⟨n.natAbs, 150, hBits, ?_, ?_⟩
  · rw [hAbs]
    unfold FloatFormat.single
    push_cast
    ring
  · rw [hAbs]
    unfold FloatFormat.single
    calc
      (n.natAbs : ℚ) * 2 ≤ 2 ^ 24 * 2 := by linarith
      _ < 2 ^ 128 := by norm_num

theorem seed_mk
    {V : Type}
    (length : Nat)
    (hLength : 0 < length)
    (low high : V)
    (midpoint : V → V → V)
    (avg : (Fin length → V) → V) :
    (DatamgrConfig.mk length hLength low high midpoint
        avg).seed =
      midpoint high low :=
  rfl

theorem floatConfig_seed_eq :
    (floatConfig L hPos minTemp maxTemp).seed =
      ((ofInt (maxTemp + minTemp)).roundTo .single).div
        .double (ofInt 2) := by
  rw [floatConfig, seed_mk]

theorem floatConfig_getRunningAvg :
    (floatConfig L hPos minTemp maxTemp).getRunningAvg =
      getRunningAvg := by
  rw [floatConfig]

/- The seed of the windows is in range. -/
theorem floatConfig_seed
    (hThresholds : minTemp ≤ maxTemp)
    (hMin : L * minTemp.natAbs ≤ 2 ^ 24)
    (hMax : L * maxTemp.natAbs ≤ 2 ^ 24) :
    (floatConfig L hPos minTemp maxTemp).seed.AtLeast
        minTemp ∧
      (floatConfig L hPos minTemp maxTemp).seed.AtMost
        maxTemp := by
  have hLe : (minTemp : ℚ) ≤ maxTemp :=
    Int.cast_le.mpr hThresholds
  have hTwo : ofInt 2 = .finite false 2 := by
    norm_num [FloatDatum.ofInt]
  have hBits :
      ∀ n : Int, L * n.natAbs ≤ 2 ^ 24 → n.natAbs ≤ 2 ^ 24 :=
    fun n h =>
      Nat.le_trans (Nat.le_mul_of_pos_left _ hPos) h
  rw [floatConfig_seed_eq]
  unfold FloatDatum.div
  rw [hTwo]
  constructor
  · apply AtLeast.roundTo (by decide)
      ((HasRoom.ofInt hMin).double hPos)
    apply AtLeast.exactQuotient (by norm_num)
    rw [NNRat.cast_ofNat]
    apply AtLeast.roundTo (by decide)
      (represents_mul_two (hBits minTemp hMin))
    apply (atLeast_ofInt _).mono
    push_cast
    linarith
  · apply AtMost.roundTo (by decide)
      ((HasRoom.ofInt hMax).double hPos)
    apply AtMost.exactQuotient (by norm_num)
    rw [NNRat.cast_ofNat]
    apply AtMost.roundTo (by decide)
      (represents_mul_two (hBits maxTemp hMax))
    apply (atMost_ofInt _).mono
    push_cast
    linarith

variable {pairs : List (BitVec 16 × BitVec 16)}
variable {before : List (SensorData FloatDatum)}
variable {record : SensorData FloatDatum}

/- What bounds the values of a window bounds its average. -/
theorem floatConfig_avg_bound
    {Bound : ℚ → FloatDatum → Prop}
    {c : ℚ}
    (hBound : IsBound Bound)
    (hRoom : HasRoom L c)
    (hLength : L ≤ 2 ^ 24)
    {early window : List (SensorData FloatDatum)}
    (hFull : window.length = L)
    (hWindow : ∀ r ∈ window, Bound c r.value) :
    Bound c
      ((floatConfig L hPos minTemp maxTemp).getRunningAvg
        (windowAfter (floatConfig L hPos minTemp maxTemp)
          (early ++ window))) := by
  rw [floatConfig_getRunningAvg]
  exact
    getRunningAvg_bound hBound hRoom hPos hLength
      (windowAfter_of_full
        (floatConfig L hPos minTemp maxTemp) hFull
        (P := Bound c) hWindow)

/-
  The window of a sensor has its last values, and those of
  the loader as long as there are not enough of them.
-/
theorem floatConfig_avg_in_range
    (hThresholds : minTemp ≤ maxTemp)
    (hLength : L ≤ 2 ^ 24)
    (hMin : L * minTemp.natAbs ≤ 2 ^ 24)
    (hMax : L * maxTemp.natAbs ≤ 2 ^ 24)
    {early window : List (SensorData FloatDatum)}
    (hLast : early = [] ∨ window.length = L)
    (hWindow :
      ∀ r ∈ window,
        r.value.AtLeast minTemp ∧ r.value.AtMost maxTemp) :
    let avg :=
      (floatConfig L hPos minTemp maxTemp).getRunningAvg
        (windowAfter (floatConfig L hPos minTemp maxTemp)
          (early ++ window))
    avg.AtLeast minTemp ∧ avg.AtMost maxTemp := by
  have hSlots :
      ∀ i,
        (windowAfter (floatConfig L hPos minTemp maxTemp)
            (early ++ window) i).AtLeast minTemp ∧
          (windowAfter (floatConfig L hPos minTemp maxTemp)
            (early ++ window) i).AtMost maxTemp := by
    rcases hLast with rfl | hFull
    · exact
        windowAfter_induction
          (floatConfig L hPos minTemp maxTemp)
          (P := fun x =>
            x.AtLeast minTemp ∧ x.AtMost maxTemp)
          (floatConfig_seed hThresholds hMin hMax) hWindow
    · exact
        windowAfter_of_full
          (floatConfig L hPos minTemp maxTemp) hFull
          (P := fun x =>
            x.AtLeast minTemp ∧ x.AtMost maxTemp) hWindow
  simp only
  rw [floatConfig_getRunningAvg]
  exact
    ⟨getRunningAvg_bound isBound_atLeast (.ofInt hMin) hPos
        hLength (fun i => (hSlots i).1),
      getRunningAvg_bound isBound_atMost (.ofInt hMax) hPos
        hLength (fun i => (hSlots i).2)⟩

theorem floatConfig_thresholds
    (hThresholds : minTemp ≤ maxTemp) :
    (floatConfig L hPos minTemp maxTemp).SET_MIN_TEMP ≤
      (floatConfig L hPos minTemp maxTemp).SET_MAX_TEMP := by
  rcases Int.lt_or_eq_of_le hThresholds with hLt | hEq
  · exact
      .inr
        ((atLeast_ofInt maxTemp).ofInt_lt
          (Int.cast_lt.mpr hLt))
  · exact .inl (congrArg ofInt hEq)

------------------------------------------------------------
-- Alarms
------------------------------------------------------------

/- There is no message for an average in range. -/
theorem expectedReport_of_mild
    {V : Type}
    (cfg : DatamgrConfig V)
    [LT V]
    [DecidableLT V]
    {before : List (SensorData V)}
    {record : SensorData V}
    (hMapped : record.id ∈ pairs.map Prod.snd)
    (hNotHot :
      ¬cfg.SET_MAX_TEMP <
        cfg.getRunningAvg
          (windowAfter cfg
            (ofSensor record.id (before ++ [record]))))
    (hNotCold :
      ¬cfg.getRunningAvg
          (windowAfter cfg
            (ofSensor record.id (before ++ [record]))) <
        cfg.SET_MIN_TEMP) :
    expectedReport cfg pairs before record = [] := by
  simp only [expectedReport, if_pos hMapped, if_neg hNotHot,
    if_neg hNotCold, List.append_nil]

/- What is logged for a record behind a window. -/
theorem floatConfig_report
    (hThresholds : minTemp ≤ maxTemp)
    (hLength : L ≤ 2 ^ 24)
    (hMin : L * minTemp.natAbs ≤ 2 ^ 24)
    (hMax : L * maxTemp.natAbs ≤ 2 ^ 24)
    (hMapped : record.id ∈ pairs.map Prod.snd)
    {early window : List (SensorData FloatDatum)}
    (hSplit :
      ofSensor record.id (before ++ [record]) =
        early ++ window) :
    let report :=
      expectedReport (floatConfig L hPos minTemp maxTemp)
        pairs before record
    (early = [] ∨ window.length = L →
      (∀ r ∈ window,
        r.value.AtLeast minTemp ∧ r.value.AtMost maxTemp) →
        report = []) ∧
      (window.length = L →
        ∀ c, HasRoom L c →
          (maxTemp < c →
            (∀ r ∈ window, r.value.AtLeast c) →
              ∃ runningAvg, runningAvg.AtLeast c ∧
                report =
                  [.sensorTemperatureReport record.id true
                    runningAvg]) ∧
          (c < minTemp →
            (∀ r ∈ window, r.value.AtMost c) →
              ∃ runningAvg, runningAvg.AtMost c ∧
                report =
                  [.sensorTemperatureReport record.id false
                    runningAvg])) := by
  have hLe :=
    @floatConfig_thresholds L hPos minTemp maxTemp hThresholds
  constructor
  · intro hLast hWindow
    have hIn :=
      @floatConfig_avg_in_range L hPos minTemp maxTemp
        hThresholds hLength hMin hMax early window hLast
        hWindow
    rw [← hSplit] at hIn
    exact
      expectedReport_of_mild _ hMapped
        hIn.2.not_ofInt_lt hIn.1.not_lt_ofInt
  · intro hFull c hRoom
    constructor
    · intro hAbove hHot
      have hAvg :=
        @floatConfig_avg_bound L hPos minTemp maxTemp
          AtLeast c isBound_atLeast hRoom hLength early window
          hFull hHot
      rw [← hSplit] at hAvg
      exact
        ⟨_, hAvg,
          expectedReport_of_hot _ hLe hMapped rfl
            (hAvg.ofInt_lt hAbove)⟩
    · intro hBelow hCold
      have hAvg :=
        @floatConfig_avg_bound L hPos minTemp maxTemp
          AtMost c isBound_atMost hRoom hLength early window
          hFull hCold
      rw [← hSplit] at hAvg
      exact
        ⟨_, hAvg,
          expectedReport_of_cold _ hLe hMapped rfl
            (hAvg.lt_ofInt hBelow)⟩

/-
  Alarms with the arithmetic of the program. A record that
  ends a window in range is not reported on, whatever came
  before the window. A record that ends a window of values
  that are not below a number above the range, of which a
  `float` has room for a whole window, is reported on, and so
  is one below the range.
-/
theorem dataManagerInit_floatAlarms
    (L : Nat)
    (hPos : 0 < L)
    (hLength : L ≤ 2 ^ 24)
    (hThresholds : minTemp ≤ maxTemp)
    (hMin : L * minTemp.natAbs ≤ 2 ^ 24)
    (hMax : L * maxTemp.natAbs ≤ 2 ^ 24)
    (pairs : List (BitVec 16 × BitVec 16))
    (before : List (SensorData FloatDatum))
    (hIds : ∀ r ∈ before, r.id ≠ 0)
    (record : SensorData FloatDatum)
    (hMapped : record.id ∈ pairs.map Prod.snd)
    (early window : List (SensorData FloatDatum))
    (hSplit :
      ofSensor record.id (before ++ [record]) =
        early ++ window) :
    ∃ s₀ s₁ log s₂ msgs,
      loadMap (floatConfig L hPos minTemp maxTemp) pairs =
          .ok s₀ ∧
        datamgrLoop (floatConfig L hPos minTemp maxTemp) s₀
            before =
          .ok (s₁, log) ∧
        handleRecord (floatConfig L hPos minTemp maxTemp) s₁
            record =
          .ok (s₂, msgs) ∧
        (early = [] ∨ window.length = L →
          (∀ r ∈ window,
            r.value.AtLeast minTemp ∧
              r.value.AtMost maxTemp) →
            msgs = []) ∧
        (window.length = L →
          ∀ c, HasRoom L c →
            (maxTemp < c →
              (∀ r ∈ window, r.value.AtLeast c) →
                ∃ runningAvg, runningAvg.AtLeast c ∧
                  msgs =
                    [.sensorTemperatureReport record.id true
                      runningAvg]) ∧
            (c < minTemp →
              (∀ r ∈ window, r.value.AtMost c) →
                ∃ runningAvg, runningAvg.AtMost c ∧
                  msgs =
                    [.sensorTemperatureReport record.id false
                      runningAvg])) := by
  rcases loadMap_holds
      (floatConfig L hPos minTemp maxTemp) pairs with
    ⟨s₀, hLoad, hHolds⟩
  rcases datamgrLoop_waiting_of_holds _ hHolds hIds with
    ⟨s₁, hLoop, hHolds₁⟩
  rcases handleRecord_expectedReport _
      (floatConfig_thresholds hThresholds) hHolds₁ record with
    ⟨s₂, hHandle⟩
  exact
    ⟨s₀, s₁, _, s₂, _, hLoad, hLoop, hHandle,
      floatConfig_report hThresholds hLength hMin hMax
        hMapped hSplit⟩

end Alarms

/- The next number above 20 with room for five of them. -/
def justHot : SensorData FloatDatum where
  id := 15
  value := .finite false (2621441 / 131072)
  ts := 1000

theorem hasRoom_justHot :
    HasRoom 5 (2621441 / 131072) :=
  ⟨2621441, 17, by decide, by decide, by norm_num⟩

/- Five of them are reported on. -/
theorem dataManagerInit_floatAlarms_justHot :
    ∃ s₀ s₁ log s₂ runningAvg,
      loadMap (floatConfig 5 (by decide) 10 20) [(1, 15)] =
          .ok s₀ ∧
        datamgrLoop (floatConfig 5 (by decide) 10 20) s₀
            (List.replicate 4 justHot) =
          .ok (s₁, log) ∧
        handleRecord (floatConfig 5 (by decide) 10 20) s₁
            justHot =
          .ok
            (s₂,
              [.sensorTemperatureReport 15 true
                runningAvg]) := by
  have hIds :
      ∀ r ∈ List.replicate 4 justHot, r.id ≠ 0 := by
    intro r hMem
    rw [(List.mem_replicate.mp hMem).2]
    decide
  rcases @dataManagerInit_floatAlarms 10 20 5 (by decide)
      (by decide) (by decide) (by decide) (by decide)
      [(1, 15)] (List.replicate 4 justHot) hIds justHot
      (by decide) [] (List.replicate 5 justHot) rfl with
    ⟨s₀, s₁, log, s₂, msgs, hLoad, hLoop, hHandle, _, hRoom⟩
  have hValues :
      ∀ r ∈ List.replicate 5 justHot,
        r.value.AtLeast (2621441 / 131072) := by
    intro r hMem
    rw [(List.mem_replicate.mp hMem).2]
    show (2621441 / 131072 : ℚ) ≤
      ((2621441 / 131072 : ℚ≥0) : ℚ)
    norm_num
  rcases (hRoom rfl _ hasRoom_justHot).1 (by norm_num)
      hValues with
    ⟨runningAvg, _, rfl⟩
  exact
    ⟨s₀, s₁, log, s₂, runningAvg, hLoad, hLoop, hHandle⟩

/- Five values that are closer to 20 have no alarm. -/
example :
    ¬ofInt 20 <
      getRunningAvg
        (fun _ : Fin 5 =>
          .finite false (20971521 / 1048576)) := by
  decide +kernel

end SensorGateway
