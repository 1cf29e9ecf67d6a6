import Mathlib.Algebra.Group.Nat.Defs
import Mathlib.Data.List.Basic

/-
  The data types that `config.h` shares between the parts of
  the gateway.

  A timestamp is the 64-bit `time_t`. A `sensor_value_t` is a
  double; the parts of the gateway only store and forward it,
  so its type is a parameter, known by its eight bytes.

  Key definitions include:
    * `SensorId`
    * `SensorTs`
    * `SensorValue`
    * `SensorData`
    * `SensorData.endOfStream`
    * `LogMsg`
-/

------------------------------------------------------------
-- Sensor Records
------------------------------------------------------------

namespace SensorGateway

/- `sensor_id_t`, a `uint16_t`. -/
abbrev SensorId :=
  BitVec 16

/- `sensor_ts_t`, a 64-bit `time_t`. -/
abbrev SensorTs :=
  BitVec 64

/-
  `sensor_value_t`: a type with an eight-byte representation
  from which each value can be read back.
-/
class SensorValue (V : Type) where
  toBits : V → BitVec 64
  ofBits : BitVec 64 → V
  ofBits_toBits : ∀ v, ofBits (toBits v) = v

/- The bytes of a double are a representation of it. -/
instance : SensorValue (BitVec 64) where
  toBits := id
  ofBits := id
  ofBits_toBits := fun _ => rfl

/- Values that are counted in steps, from the lowest one. -/
instance : SensorValue (Fin (2 ^ 64)) where
  toBits := BitVec.ofFin
  ofBits := BitVec.toFin
  ofBits_toBits := fun _ => rfl

/- `sensor_data_t`. -/
structure SensorData (V : Type) where
  id : SensorId
  value : V
  ts : SensorTs
deriving DecidableEq, Repr

/- The record `{0}`: all its bytes are zero. -/
def SensorData.endOfStream
    {V : Type}
    [SensorValue V] :
    SensorData V where
  id := 0
  value := SensorValue.ofBits 0
  ts := 0

@[simp] theorem SensorData.endOfStream_id
    {V : Type}
    [SensorValue V] :
    (SensorData.endOfStream : SensorData V).id = 0 := rfl

------------------------------------------------------------
-- Log Messages
------------------------------------------------------------

/-
  What is passed to `write_to_log_process`: a line of one of
  the `log_*` helpers of `sensor_db.c`, or a fixed text.
-/
inductive LogMsg (V : Type) where
  | sensorConnection (sensorNodeID : SensorId)
  | sensorTermination (sensorNodeID : SensorId)
  | sensorTimeout (sensorNodeID : SensorId)
  | sensorTemperatureReport
      (sensorNodeID : SensorId)
      (hot : Bool)
      (runningAvg : V)
  | invalidSensor (sensorNodeID : SensorId)
  | dataInsert (sensorNodeID : SensorId)
  | text (msg : String)
deriving DecidableEq

/- The sensor that the data manager reports on by a line. -/
def LogMsg.reportedSensor
    {V : Type} :
    LogMsg V → Option SensorId
| .sensorTemperatureReport sensorNodeID _ _ =>
    some sensorNodeID
| .invalidSensor sensorNodeID => some sensorNodeID
| _ => none

end SensorGateway
