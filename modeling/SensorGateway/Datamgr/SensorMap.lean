import SensorGateway.Config
import SensorGateway.Stdio.Scanf

/-
  The text of `room_sensor.map`, as the loader reads it by
  `fscanf(fp_sensor_map, "%hu %hu", &roomID, &sensorID)`.

  Key definitions include:
    * `scanPair`
    * `mapPairs`

  Key theorems include:
    * `scanPair_progresses`
-/

------------------------------------------------------------
-- Pairs
------------------------------------------------------------

namespace SensorGateway

open Foundations

/-
  `fscanf` with both conversions, where it returns 2: the
  room, the sensor, and the rest of the file. The blank in the
  format skips white space, as the second `%hu` does anyway.
-/
def scanPair :
    Scanner (BitVec 8) (BitVec 16 × BitVec 16) :=
  fun bytes => do
    let (roomID, bytes) ← scanUnsignedShort bytes
    let bytes := bytes.dropWhile isSpace
    let (sensorID, bytes) ← scanUnsignedShort bytes
    return ((roomID, sensorID), bytes)

/- The pairs of a map, up to the first failure. -/
def mapPairs
    (contents : List (BitVec 8)) :
    List (BitVec 16 × BitVec 16) :=
  Scanner.scanAll scanPair contents

/- A pair takes its digits. -/
theorem scanPair_progresses :
    Scanner.Progresses scanPair := by
  intro bytes pair rest hScan
  simp only [scanPair, Option.bind_eq_bind,
    Option.bind_eq_some_iff] at hScan
  rcases hScan with
    ⟨⟨roomID, middle⟩, hRoom, ⟨sensorID, rest'⟩, hSensor,
      hPair⟩
  cases hPair
  simp only at hSensor ⊢
  have hFirst :=
    scanUnsignedShort_progresses _ _ _ hRoom
  have hSecond :=
    scanUnsignedShort_progresses _ _ _ hSensor
  have hSpace :
      (middle.dropWhile isSpace).length ≤ middle.length :=
    (List.dropWhile_sublist _).length_le
  omega

end SensorGateway
