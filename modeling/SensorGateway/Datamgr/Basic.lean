import SensorGateway.Config
import SensorGateway.Dplist.Basic
import Mathlib.Order.Defs.PartialOrder
import Mathlib.Logic.Function.Basic

/-
  The data manager of `datamgr.c`: loading the sensor map,
  handling records, and what follows the reading loop.

  The arithmetic of doubles is a parameter: the order of the
  values, the average over a window, and the midpoint of the
  thresholds. `keep_running` is never cleared, since nothing
  installs `handle_signal`.

  Key definitions include:
    * `DatamgrConfig`
    * `ListElement`
    * `Datamgr`
    * `LoaderMallocs`
    * `loadMapWith`
    * `loadMap`
    * `handleRecord`
    * `datamgrLoop`
    * `datamgrPrintSensors`
    * `datamgrFree`
-/

------------------------------------------------------------
-- Configuration
------------------------------------------------------------

namespace SensorGateway

open Foundations

/-
  The constants of `datamgr.h`, what `get_running_avg` does
  with a window, and the value of
  `((float) (SET_MAX_TEMP + SET_MIN_TEMP)) / 2.0`.
-/
structure DatamgrConfig (V : Type) where
  RUN_AVG_LENGTH : Nat
  length_pos : 0 < RUN_AVG_LENGTH
  SET_MIN_TEMP : V
  SET_MAX_TEMP : V
  midpoint : V → V → V
  getRunningAvg : (Fin RUN_AVG_LENGTH → V) → V

/- What every slot of a window is set to by the loader. -/
def DatamgrConfig.seed
    {V : Type}
    (cfg : DatamgrConfig V) : V :=
  cfg.midpoint cfg.SET_MAX_TEMP cfg.SET_MIN_TEMP

/- The first slot of a window. -/
def DatamgrConfig.front
    {V : Type}
    (cfg : DatamgrConfig V) :
    Fin cfg.RUN_AVG_LENGTH :=
  ⟨0, cfg.length_pos⟩

/-
  `list_element`. The loader leaves `running_avg_value`
  uninitialized.
-/
@[ext] structure ListElement
    (V : Type)
    (RUN_AVG_LENGTH : Nat) where
  sensorId : SensorId
  roomId : BitVec 16
  windowRunningAvg : Fin RUN_AVG_LENGTH → V
  lastModified : SensorTs
  runningAvgValue : Option V

/-
  The memory of the data manager: `data_list`, whose elements
  are pointers, and the allocated `list_element`s.
-/
structure Datamgr
    (V : Type)
    (RUN_AVG_LENGTH : Nat) where
  dataList : DplistMemory Nat
  elements : Heap (ListElement V RUN_AVG_LENGTH)

variable {V : Type}
variable (cfg : DatamgrConfig V)

------------------------------------------------------------
-- Loading the Map
------------------------------------------------------------

/- An entry as the loader fills it. -/
def loadedElement
    (roomID sensorID : BitVec 16) :
    ListElement V cfg.RUN_AVG_LENGTH where
  sensorId := sensorID
  roomId := roomID
  windowRunningAvg := fun _ => cfg.seed
  lastModified := 0
  runningAvgValue := none

/-
  The outcomes of the two calls of `malloc` for a pair: for
  the `list_element`, and for its node in
  `dpl_insert_at_index`.
-/
structure EntryMallocs where
  listElement : Bool
  listNode : Bool

/-
  The outcomes of all calls of `malloc` of the loader: in
  `dpl_create`, and for the pairs in order.
-/
structure LoaderMallocs where
  dplCreate : Bool
  entry : Nat → EntryMallocs

/- There is memory for everything. -/
def EntryMallocs.succeed : EntryMallocs where
  listElement := true
  listNode := true

def LoaderMallocs.succeed : LoaderMallocs where
  dplCreate := true
  entry := fun _ => .succeed

/-
  One iteration of the loader. Without memory for the entry
  it ends the process. What `dpl_insert_at_index` returns is
  not looked at, so an entry without a node is lost.
-/
def loadEntryWith
    (mallocs : EntryMallocs)
    (s : Datamgr V cfg.RUN_AVG_LENGTH)
    (roomID sensorID : BitVec 16) :
    Except Fault (Datamgr V cfg.RUN_AVG_LENGTH) :=
  if mallocs.listElement then do
    let e := some s.elements.next
    let elements :=
      s.elements.alloc (loadedElement cfg roomID sensorID)
    let (_, dataList) ←
      dplInsertAtIndex s.dataList e none 0 false
        mallocs.listNode
    return { dataList := dataList, elements := elements }
  else
    .error .processExit

/- The loader on the pairs that `fscanf` reads, in order. -/
def loadEntriesWith :
    (Nat → EntryMallocs) →
      Datamgr V cfg.RUN_AVG_LENGTH →
        List (BitVec 16 × BitVec 16) →
          Except Fault (Datamgr V cfg.RUN_AVG_LENGTH)
| _, s, [] => .ok s
| mallocs, s, (roomID, sensorID) :: pairs => do
    let s ← loadEntryWith cfg (mallocs 0) s roomID sensorID
    loadEntriesWith (fun i => mallocs (i + 1)) s pairs

/- `dpl_create` with all its callbacks, and the loader. -/
def loadMapWith
    (mallocs : LoaderMallocs)
    (pairs : List (BitVec 16 × BitVec 16)) :
    Except Fault (Datamgr V cfg.RUN_AVG_LENGTH) := do
  let dataList ← dplCreate true true mallocs.dplCreate
  loadEntriesWith cfg mallocs.entry
    { dataList := dataList, elements := Heap.empty } pairs

/- The same where all allocations succeed. -/
def loadEntries
    (s : Datamgr V cfg.RUN_AVG_LENGTH)
    (pairs : List (BitVec 16 × BitVec 16)) :
    Except Fault (Datamgr V cfg.RUN_AVG_LENGTH) :=
  loadEntriesWith cfg LoaderMallocs.succeed.entry s pairs

def loadMap
    (pairs : List (BitVec 16 × BitVec 16)) :
    Except Fault (Datamgr V cfg.RUN_AVG_LENGTH) :=
  loadMapWith cfg .succeed pairs

------------------------------------------------------------
-- Handling a Record
------------------------------------------------------------

/-
  The scan for the record's sensor from index `i` on. It
  returns `tmp` if the sensor was found, else `none`.
-/
def scanLoop
    {L : Nat}
    (s : Datamgr V L)
    (id : SensorId) :
    Nat → Int → Except Fault (Option Nat)
| 0, _ => .error .outOfFuel
| fuel + 1, i => do
    let size ← dplSize s.dataList
    if i < size then
      let tmp ← dplGetElementAtIndex s.dataList i
      let e ← s.elements.read tmp
      if e.sensorId = id then
        return tmp
      else
        scanLoop s id fuel (i + 1)
    else
      return none

/-
  The backward shift of a window: slot `i` gets slot `i - 1`,
  for `i` from the argument down to 1.
-/
def shiftLoop
    {L : Nat} :
    Nat → (Fin L → V) → (Fin L → V)
| 0, window => window
| i + 1, window =>
    if hLt : i + 1 < L then
      shiftLoop i
        (Function.update window ⟨i + 1, hLt⟩
          (window ⟨i, Nat.lt_of_succ_lt hLt⟩))
    else
      shiftLoop i window

/- The window after the shift, with the value in front. -/
def storeValue
    (window : Fin cfg.RUN_AVG_LENGTH → V)
    (value : V) :
    Fin cfg.RUN_AVG_LENGTH → V :=
  Function.update
    (shiftLoop (cfg.RUN_AVG_LENGTH - 1) window) cfg.front
    value

/- The entry after a record of its sensor. -/
def storeRecord
    (e : ListElement V cfg.RUN_AVG_LENGTH)
    (record : SensorData V) :
    ListElement V cfg.RUN_AVG_LENGTH :=
  let window := storeValue cfg e.windowRunningAvg record.value
  { e with
      windowRunningAvg := window
      lastModified := record.ts
      runningAvgValue := some (cfg.getRunningAvg window) }

variable [Preorder V]
variable [DecidableLT V]

/- What is logged for an average of a sensor. -/
def temperatureReport
    (sensorId : SensorId)
    (runningAvg : V) :
    List (LogMsg V) :=
  if cfg.SET_MAX_TEMP < runningAvg then
    [.sensorTemperatureReport sensorId true runningAvg]
  else if runningAvg < cfg.SET_MIN_TEMP then
    [.sensorTemperatureReport sensorId false runningAvg]
  else
    []

/- The body of the reading loop for one record. -/
def handleRecord
    (s : Datamgr V cfg.RUN_AVG_LENGTH)
    (record : SensorData V) :
    Except Fault
      (Datamgr V cfg.RUN_AVG_LENGTH × List (LogMsg V)) := do
  let tmp ←
    scanLoop s record.id (s.dataList.heap.next + 1) 0
  if tmp = none then
    return (s, [.invalidSensor record.id])
  else
    let e ← s.elements.read tmp
    let e := storeRecord cfg e record
    let elements ← s.elements.write tmp e
    .ok
      ({ s with elements := elements },
        temperatureReport cfg e.sensorId
          (cfg.getRunningAvg e.windowRunningAvg))

/-
  The reading loop on the records that it gets from the
  buffer, with what it logs. It breaks at the first record
  with id zero; for want of records, it keeps waiting.
-/
def datamgrLoop :
    Datamgr V cfg.RUN_AVG_LENGTH → List (SensorData V) →
      Except Fault
        (Datamgr V cfg.RUN_AVG_LENGTH × List (LogMsg V))
| s, [] => .ok (s, [])
| s, record :: records =>
    if record.id = 0 then
      .ok (s, [])
    else do
      let (s, msgs) ← handleRecord cfg s record
      let (s, rest) ← datamgrLoop s records
      return (s, msgs ++ rest)

------------------------------------------------------------
-- After the Loop
------------------------------------------------------------

section Closing

variable {V : Type}
variable {L : Nat}

/-
  The loop of `datamgr_print_sensors` from index `i` on, with
  the elements whose sensors it prints.
-/
def printLoop
    (s : Datamgr V L) :
    Nat → Int → Except Fault (List (ListElement V L))
| 0, _ => .error .outOfFuel
| fuel + 1, i => do
    let size ← dplSize s.dataList
    if i < size then
      let e ← dplGetElementAtIndex s.dataList i
      if e = none then
        printLoop s fuel (i + 1)
      else
        let element ← s.elements.read e
        let printed ← printLoop s fuel (i + 1)
        return element :: printed
    else
      return []

/- `datamgr_print_sensors`; an empty list ends the process. -/
def datamgrPrintSensors
    (s : Datamgr V L) :
    Except Fault (List (ListElement V L)) := do
  let size ← dplSize s.dataList
  if s.dataList.list = none ∨ size = 0 then
    .error .processExit
  else
    printLoop s (s.dataList.heap.next + 1) 0

/- `element_free` on pointers, in order. -/
def freeElements :
    Heap (ListElement V L) → List (Option Nat) →
      Except Fault (Heap (ListElement V L))
| elements, [] => .ok elements
| elements, e :: es =>
    if e = none then
      freeElements elements es
    else do
      let elements ← elements.free e
      freeElements elements es

/- `datamgr_free`. -/
def datamgrFree
    (s : Datamgr V L) :
    Except Fault (Datamgr V L) :=
  if s.dataList.list = none then
    .error .processExit
  else do
    let dataList ← dplFree s.dataList true
    let freed :=
      dataList.elementFreed.drop
        s.dataList.elementFreed.length
    let elements ← freeElements s.elements freed
    if dataList.list ≠ none then
      .error .processExit
    else
      .ok { dataList := dataList, elements := elements }

end Closing

end SensorGateway
