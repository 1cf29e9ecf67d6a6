import SensorGateway.ConnMgr.WireFraming
import SensorGateway.Datamgr.MapFile

/-
  The generator `file_creator.c`: the map file, and the data
  file with the measurements of all sensors, row by row.

  The numbers of `drand48`, and the arithmetic that makes a
  temperature of the one before, are parameters.

  Key definitions include:
    * `Generator`
    * `Generator.measureLoop`
    * `Generator.measurements`
    * `Generator.series`
    * `freadRecord`
    * `fileRecords`

  Key theorems include:
    * `Generator.measureLoop_eq`
    * `Generator.ofSensor_measurements`
    * `fileRecords_take`
-/

------------------------------------------------------------
-- The Generator
------------------------------------------------------------

namespace SensorGateway

open Foundations

def NUM_MEASUREMENTS : Nat :=
  100

def SLEEP_TIME : SensorTs :=
  30

/- `room_id` and `sensor_id`, side by side. -/
def generatedMap : List (BitVec 16 × BitVec 16) :=
  [(1, 15), (2, 21), (3, 37), (4, 49), (11, 112), (12, 129),
    (13, 132), (14, 142)]

/-
  What a run of the generator depends on: the time, the first
  temperatures, the numbers of `drand48` in order, and the
  expression for the next temperature.
-/
structure Generator (V : Type) where
  starttime : SensorTs
  sensorTemperature : SensorId → V
  drand48 : Nat → V
  nextTemperature : V → V → V

namespace Generator

variable {V : Type}
variable (g : Generator V)

section Writing

variable [SensorValue V]

/-
  The inner loop from number `k` of `drand48` on: what it
  writes for the sensors, and their next temperatures.
-/
def measureRow
    (starttime : SensorTs) :
    Nat → List (SensorId × V) →
      List (BitVec 8) × List (SensorId × V)
| _, [] => ([], [])
| k, (id, temperature) :: sensors =>
    let (bytes, next) := measureRow starttime (k + 1) sensors
    ((Bytes.encode (n := 2) id).toList ++
        ((Bytes.encode (n := 8)
            (SensorValue.toBits temperature)).toList ++
          ((Bytes.encode (n := 8) starttime).toList ++
            bytes)),
      (id, g.nextTemperature temperature (g.drand48 k)) ::
        next)

/- The outer loop, for a number of rows. -/
def measureLoop :
    Nat → SensorTs → Nat → List (SensorId × V) →
      List (BitVec 8)
| 0, _, _, _ => []
| rows + 1, starttime, k, sensors =>
    let (bytes, next) := g.measureRow starttime k sensors
    bytes ++
      measureLoop rows (starttime + SLEEP_TIME)
        (k + sensors.length) next

/- The file `room_sensor.map`. -/
def roomSensorMap : List (BitVec 8) :=
  mapText generatedMap

/- The file `sensor_data`. -/
def sensorData : List (BitVec 8) :=
  g.measureLoop NUM_MEASUREMENTS g.starttime 0
    (generatedMap.map
      (fun pair => (pair.2, g.sensorTemperature pair.2)))

end Writing

------------------------------------------------------------
-- Measurements
------------------------------------------------------------

/- The records of a row. -/
def rowRecords
    (starttime : SensorTs)
    (sensors : List (SensorId × V)) :
    List (SensorData V) :=
  sensors.map
    (fun sensor =>
      { id := sensor.1
        value := sensor.2
        ts := starttime })

/- The sensors after a row. -/
def nextSensors :
    Nat → List (SensorId × V) → List (SensorId × V)
| _, [] => []
| k, (id, temperature) :: sensors =>
    (id, g.nextTemperature temperature (g.drand48 k)) ::
      nextSensors (k + 1) sensors

/- The records of some rows. -/
def measurements :
    Nat → SensorTs → Nat → List (SensorId × V) →
      List (SensorData V)
| 0, _, _, _ => []
| rows + 1, starttime, k, sensors =>
    rowRecords starttime sensors ++
      measurements rows (starttime + SLEEP_TIME)
        (k + sensors.length) (g.nextSensors k sensors)

/-
  The records of one sensor of `n`, which gets every `n`-th
  number of `drand48`.
-/
def series
    (id : SensorId)
    (n : Nat) :
    Nat → SensorTs → Nat → V → List (SensorData V)
| 0, _, _, _ => []
| rows + 1, starttime, k, temperature =>
    { id := id
      value := temperature
      ts := starttime } ::
      series id n rows (starttime + SLEEP_TIME) (k + n)
        (g.nextTemperature temperature (g.drand48 k))

@[simp] theorem length_nextSensors
    (k : Nat)
    (sensors : List (SensorId × V)) :
    (g.nextSensors k sensors).length = sensors.length := by
  induction sensors generalizing k with
  | nil => rfl
  | cons sensor sensors ih =>
      exact congrArg (· + 1) (ih (k + 1))

@[simp] theorem map_fst_nextSensors
    (k : Nat)
    (sensors : List (SensorId × V)) :
    (g.nextSensors k sensors).map Prod.fst =
      sensors.map Prod.fst := by
  induction sensors generalizing k with
  | nil => rfl
  | cons sensor sensors ih =>
      exact congrArg (sensor.1 :: ·) (ih (k + 1))

theorem nextSensors_append
    (k : Nat)
    (before after : List (SensorId × V)) :
    g.nextSensors k (before ++ after) =
      g.nextSensors k before ++
        g.nextSensors (k + before.length) after := by
  induction before generalizing k with
  | nil => rfl
  | cons sensor before ih =>
      have hCount :
          k + (before.length + 1) =
            k + 1 + before.length := by
        omega
      rw [List.cons_append, nextSensors, nextSensors, ih,
        List.length_cons, hCount]
      rfl

/- Every record is one of a sensor. -/
theorem id_of_mem_measurements
    {rows k : Nat}
    {starttime : SensorTs}
    {sensors : List (SensorId × V)}
    {record : SensorData V}
    (hMem :
      record ∈ g.measurements rows starttime k sensors) :
    record.id ∈ sensors.map Prod.fst := by
  induction rows generalizing starttime k sensors with
  | zero => cases hMem
  | succ rows ih =>
      rw [measurements, List.mem_append] at hMem
      rcases hMem with hRow | hLater
      · rcases List.mem_map.mp hRow with ⟨sensor, hs, rfl⟩
        exact List.mem_map_of_mem hs
      · have hId := ih hLater
        rwa [map_fst_nextSensors] at hId

/- A row has one record of each sensor. -/
theorem ofSensor_rowRecords
    (starttime : SensorTs)
    {before after : List (SensorId × V)}
    {id : SensorId}
    {temperature : V}
    (hNodup :
      ((before ++ (id, temperature) :: after).map
        Prod.fst).Nodup) :
    ofSensor id
        (rowRecords starttime
          (before ++ (id, temperature) :: after)) =
      [{ id := id
         value := temperature
         ts := starttime }] := by
  rw [List.map_append, List.map_cons, List.nodup_middle,
    List.nodup_cons, List.mem_append, not_or] at hNodup
  have hOthers :
      ∀ sensors : List (SensorId × V),
        id ∉ sensors.map Prod.fst →
          ofSensor id (rowRecords starttime sensors) =
            [] := by
    intro sensors hNot
    apply List.filter_eq_nil_iff.mpr
    intro record hMem
    rcases List.mem_map.mp hMem with ⟨sensor, hs, rfl⟩
    rw [decide_eq_true_eq]
    intro hId
    apply hNot
    rw [← hId]
    exact List.mem_map_of_mem hs
  have hBefore := hOthers before hNodup.1.1
  have hAfter := hOthers after hNodup.1.2
  unfold ofSensor rowRecords at *
  rw [List.map_append, List.filter_append, List.map_cons,
    List.filter_cons_of_pos (by simp), hBefore, hAfter]
  rfl

/- The records of a sensor are its own series. -/
theorem ofSensor_measurements
    {before after : List (SensorId × V)}
    {id : SensorId}
    {temperature : V}
    (hNodup :
      ((before ++ (id, temperature) :: after).map
        Prod.fst).Nodup)
    (rows : Nat)
    (starttime : SensorTs)
    (k : Nat) :
    ofSensor id
        (g.measurements rows starttime k
          (before ++ (id, temperature) :: after)) =
      g.series id
        (before ++ (id, temperature) :: after).length rows
        starttime (k + before.length) temperature := by
  induction rows generalizing starttime k before after
      temperature with
  | zero => rfl
  | succ rows ih =>
      have hNext :=
        g.nextSensors_append k before
          ((id, temperature) :: after)
      rw [nextSensors] at hNext
      have hNodup' := hNodup
      rw [← g.map_fst_nextSensors k, hNext] at hNodup'
      have hLater :=
        ih hNodup' (starttime + SLEEP_TIME)
          (k + (before ++ (id, temperature) :: after).length)
      rw [← hNext, length_nextSensors, length_nextSensors]
        at hLater
      rw [measurements, series, ofSensor,
        List.filter_append]
      have hRow :=
        ofSensor_rowRecords starttime hNodup
      unfold ofSensor at hRow hLater
      rw [hRow, hLater, Nat.add_right_comm]
      rfl

/- The sensors with their first temperatures. -/
def firstSensors : List (SensorId × V) :=
  generatedMap.map
    (fun pair => (pair.2, g.sensorTemperature pair.2))

/- All records, in the order of the data file. -/
def generatedRecords : List (SensorData V) :=
  g.measurements NUM_MEASUREMENTS g.starttime 0
    g.firstSensors

theorem map_fst_firstSensors :
    g.firstSensors.map Prod.fst =
      generatedMap.map Prod.snd := by
  unfold firstSensors
  rw [List.map_map]
  rfl

theorem id_of_mem_generatedRecords
    {record : SensorData V}
    (hMem : record ∈ g.generatedRecords) :
    record.id ∈ generatedMap.map Prod.snd := by
  rw [← g.map_fst_firstSensors]
  exact g.id_of_mem_measurements hMem

/- The records of a sensor in the data file. -/
theorem ofSensor_generatedRecords
    {before after : List (BitVec 16 × BitVec 16)}
    {pair : BitVec 16 × BitVec 16}
    (hSplit : generatedMap = before ++ pair :: after) :
    ofSensor pair.2 g.generatedRecords =
      g.series pair.2 generatedMap.length NUM_MEASUREMENTS
        g.starttime before.length
        (g.sensorTemperature pair.2) := by
  have hNodup : (g.firstSensors.map Prod.fst).Nodup := by
    rw [map_fst_firstSensors]
    decide
  have hSensors :
      g.firstSensors =
        before.map
            (fun pair =>
              (pair.2, g.sensorTemperature pair.2)) ++
          (pair.2, g.sensorTemperature pair.2) ::
            after.map
              (fun pair =>
                (pair.2, g.sensorTemperature pair.2)) := by
    unfold firstSensors
    rw [hSplit, List.map_append, List.map_cons]
  have hCount :
      g.firstSensors.length = generatedMap.length :=
    List.length_map _
  rw [hSensors] at hNodup
  have hSeries :=
    g.ofSensor_measurements hNodup NUM_MEASUREMENTS
      g.starttime 0
  rw [← hSensors, List.length_map, Nat.zero_add, hCount]
    at hSeries
  exact hSeries

------------------------------------------------------------
-- The Files
------------------------------------------------------------

variable [SensorValue V]

theorem measureRow_eq
    (starttime : SensorTs)
    (k : Nat)
    (sensors : List (SensorId × V)) :
    g.measureRow starttime k sensors =
      (sensorNodeStream (rowRecords starttime sensors),
        g.nextSensors k sensors) := by
  induction sensors generalizing k with
  | nil => rfl
  | cons sensor sensors ih =>
      rw [measureRow, ih]
      simp only [rowRecords, List.map_cons,
        sensorNodeStream_cons, SensorData.wire,
        List.append_assoc]
      rfl

/- The generator writes the bytes of the records. -/
theorem measureLoop_eq
    (rows : Nat)
    (starttime : SensorTs)
    (k : Nat)
    (sensors : List (SensorId × V)) :
    g.measureLoop rows starttime k sensors =
      sensorNodeStream
        (g.measurements rows starttime k sensors) := by
  induction rows generalizing starttime k sensors with
  | zero => rfl
  | succ rows ih =>
      rw [measureLoop, measureRow_eq, measurements]
      simp only [ih, sensorNodeStream, List.flatMap_append]

theorem sensorData_eq :
    g.sensorData = sensorNodeStream g.generatedRecords :=
  g.measureLoop_eq _ _ _ _

end Generator

------------------------------------------------------------
-- Reading the Data File
------------------------------------------------------------

section Reading

variable {V : Type}
variable [SensorValue V]

/-
  `fread` of one record, which is packed: whatever it holds
  before, all of its bytes are read.
-/
def freadRecord :
    Scanner (BitVec 8) (SensorData V) :=
  Scanner.takeRecord 18
    (fun bytes => (receiveRecord zeroBytes 2 8 8 bytes).record)

/- The records of a data file. -/
def fileRecords
    (contents : List (BitVec 8)) :
    List (SensorData V) :=
  Scanner.scanAll freadRecord contents

theorem freadRecord_progresses :
    Scanner.Progresses (freadRecord (V := V)) :=
  Scanner.takeRecord_progresses (by decide)

/- Of a file that is cut off, the whole records are read. -/
theorem fileRecords_take
    (records : List (SensorData V))
    (cut : Nat) :
    fileRecords ((sensorNodeStream records).take cut) =
      records.take (cut / 18) := by
  apply Scanner.scanAll_take_records length_wire _
    (by decide)
  intro r
  have hRecord := record_receiveRecord_wire zeroBytes r []
  rwa [List.append_nil] at hRecord

end Reading

end SensorGateway
