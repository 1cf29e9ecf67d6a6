import SensorGateway.ConnMgr.System
import SensorGateway.Datamgr.Basic
import SensorGateway.Sbuffer.Broadcast

/-
  The state of the whole gateway: the connection manager, the
  storage manager, the data manager and `main`, with the
  buffer and the log that they share.

  The local variables `node` and `data` of a reader are part
  of its `BufferReader`.

  Key definitions include:
    * `Reader`
    * `OpenDb`
    * `DataManager`
    * `MainPc`
    * `Gateway`
-/

------------------------------------------------------------
-- The Storage Manager
------------------------------------------------------------

namespace SensorGateway

open Foundations

/- The two threads that read the buffer. -/
inductive Reader where
  | openDb
  | dataManagerInit
deriving DecidableEq, Repr

/-
  How far a reader is in its loop: before its next record,
  with a record in its hands, or past the loop.
-/
inductive ReaderPhase where
  | waiting
  | holding
  | left
deriving DecidableEq, Repr

/- What `open_db` does next. -/
inductive OpenDbPc where
  | notStarted
  | openFile
  | readBuffer
  | handleRecord
  | reinsertMarker
  | logClosing
  | flushFile
  | closeFile
  | logClosed
  | returned
deriving DecidableEq, Repr

@[grind] def OpenDbPc.phase : OpenDbPc → ReaderPhase
| .notStarted => .waiting
| .openFile => .waiting
| .readBuffer => .waiting
| .handleRecord => .holding
| _ => .left

/-
  The thread `open_db`: its static `eos_count`, and the rows
  of the file that it writes, as the arguments of `fprintf`.
-/
structure OpenDb (V : Type) where
  pc : OpenDbPc
  eosCount : Int
  rows : List (SensorData V)

/- `open_db` before `main` starts it. -/
def OpenDb.start
    {V : Type} :
    OpenDb V where
  pc := .notStarted
  eosCount := 0
  rows := []

------------------------------------------------------------
-- The Data Manager
------------------------------------------------------------

/- What `data_manager_init` does next. -/
inductive DataManagerPc where
  | notStarted
  | openMap
  | loadMap
  | readBuffer
  | handleRecord
  | printSensors
  | freeList
  | returned
deriving DecidableEq, Repr

@[grind] def DataManagerPc.phase : DataManagerPc → ReaderPhase
| .notStarted => .waiting
| .openMap => .waiting
| .loadMap => .waiting
| .readBuffer => .waiting
| .handleRecord => .holding
| _ => .left

/- The map is still to be loaded. -/
def DataManagerPc.loads : DataManagerPc → Bool
| .notStarted => true
| .openMap => true
| .loadMap => true
| _ => false

/- The map is loaded and the list is not freed yet. -/
def DataManagerPc.holdsList : DataManagerPc → Bool
| .readBuffer => true
| .handleRecord => true
| .printSensors => true
| .freeList => true
| _ => false

/-
  The thread `data_manager_init`: its memory, and the records
  that it handled in its loop.
-/
structure DataManager
    (V : Type)
    (RUN_AVG_LENGTH : Nat) where
  pc : DataManagerPc
  memory : Datamgr V RUN_AVG_LENGTH
  handled : List (SensorData V)

/- `data_manager_init` before `main` starts it. -/
def DataManager.start
    {V : Type}
    {RUN_AVG_LENGTH : Nat} :
    DataManager V RUN_AVG_LENGTH where
  pc := .notStarted
  memory :=
    { dataList :=
        { heap := Heap.empty, list := none,
          elementFreed := [] }
      elements := Heap.empty }
  handled := []

------------------------------------------------------------
-- The Gateway
------------------------------------------------------------

/-
  What `main` does next, from the creation of its threads on;
  the buffer and the log exist by then.
-/
inductive MainPc where
  | createConnmgr
  | createSensorDb
  | createDatamgr
  | logWaiting
  | joinConnmgr
  | joinSensorDb
  | joinDatamgr
  | logJoined
  | sbufferFree
  | endLogProcess
  | returned
deriving DecidableEq, Repr

namespace MainPc

/- The storage manager is still to be created. -/
@[grind] def startsSensorDb : MainPc → Bool
| .createConnmgr => true
| .createSensorDb => true
| _ => false

/- The data manager is still to be created. -/
@[grind] def startsDatamgr : MainPc → Bool
| .createConnmgr => true
| .createSensorDb => true
| .createDatamgr => true
| _ => false

/- The join of the connection manager is done. -/
@[grind] def joinedConnmgr : MainPc → Bool
| .joinSensorDb => true
| .joinDatamgr => true
| .logJoined => true
| .sbufferFree => true
| .endLogProcess => true
| .returned => true
| _ => false

/- The join of the storage manager is done. -/
@[grind] def joinedSensorDb : MainPc → Bool
| .joinDatamgr => true
| .logJoined => true
| .sbufferFree => true
| .endLogProcess => true
| .returned => true
| _ => false

/- The join of the data manager is done. -/
@[grind] def joinedDatamgr : MainPc → Bool
| .logJoined => true
| .sbufferFree => true
| .endLogProcess => true
| .returned => true
| _ => false

/- The buffer is freed. -/
@[grind] def freedBuffer : MainPc → Bool
| .endLogProcess => true
| .returned => true
| _ => false

end MainPc

/-
  The gateway. The log lists what was passed to
  `write_to_log_process`, and by which thread; `ended` tells
  whether and how the process ended before `main` returned.
-/
structure Gateway
    (V : Type)
    [SensorValue V]
    (TIMEOUT : Int)
    (RUN_AVG_LENGTH : Nat) where
  conn : ConnMgr V TIMEOUT
  buf : SharedBuffer Thread Reader V
  storage : OpenDb V
  datamgr : DataManager V RUN_AVG_LENGTH
  main : MainPc
  log : List (Thread × LogMsg V)
  ended : Option Fault

/-
  The gateway when `main` starts its threads. The record of a
  reader is not initialized.
-/
def Gateway.start
    {V : Type}
    [SensorValue V]
    {TIMEOUT : Int}
    {RUN_AVG_LENGTH : Nat}
    (data : Reader → SensorData V) :
    Gateway V TIMEOUT RUN_AVG_LENGTH where
  conn := .start
  buf := .start data
  storage := .start
  datamgr := .start
  main := .createConnmgr
  log := []
  ended := none

namespace Gateway

variable {V : Type}
variable [SensorValue V]
variable {TIMEOUT : Int}
variable {RUN_AVG_LENGTH : Nat}

/- The record in the hands of a reader. -/
def dataOf
    (s : Gateway V TIMEOUT RUN_AVG_LENGTH)
    (r : Reader) :
    SensorData V :=
  (s.buf.readers r).data

/- Where a reader is in its loop. -/
def phaseOf
    (s : Gateway V TIMEOUT RUN_AVG_LENGTH) :
    Reader → ReaderPhase
| .openDb => s.storage.pc.phase
| .dataManagerInit => s.datamgr.pc.phase

/- The records that a reader got from the buffer. -/
def obtainedBy
    (s : Gateway V TIMEOUT RUN_AVG_LENGTH)
    (r : Reader) :
    List (SensorData V) :=
  (s.buf.readers r).obtained

/- The records that a reader handled in its loop. -/
def handledBy
    (s : Gateway V TIMEOUT RUN_AVG_LENGTH) :
    Reader → List (SensorData V)
| .openDb => s.storage.rows
| .dataManagerInit => s.datamgr.handled

end Gateway

end SensorGateway
