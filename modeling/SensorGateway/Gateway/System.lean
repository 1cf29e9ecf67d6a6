import SensorGateway.Gateway.Threads

/-
  The gateway as one system: the steps of `main`, of the
  connection manager and of the two readers, in any
  interleaving.

  Once the process has ended, or `main` has returned, no
  thread takes a step.

  Key definitions include:
    * `Gateway.perform`
    * `storageStep`
    * `dataManagerStep`
    * `mainStep`
    * `gatewaySystem`
-/

------------------------------------------------------------
-- Steps
------------------------------------------------------------

namespace SensorGateway

open Foundations

section Steps

variable {V : Type}
variable [SensorValue V]
variable {TIMEOUT : Int}
variable {L : Nat}

namespace Gateway

/- The process ends. -/
@[grind] def endWith
    (s : Gateway V TIMEOUT L)
    (f : Fault) :
    Gateway V TIMEOUT L :=
  { s with ended := some f }

/- A thread calls `write_to_log_process`. -/
@[grind] def writeLog
    (s : Gateway V TIMEOUT L)
    (t : Thread)
    (msg : LogMsg V) :
    Gateway V TIMEOUT L :=
  { s with log := s.log ++ [(t, msg)] }

/- A thread calls `sbuffer_insert`; it ignores the result. -/
@[grind] def insert
    (s : Gateway V TIMEOUT L)
    (w : Thread)
    (data : SensorData V)
    (mallocOk : Bool) :
    Gateway V TIMEOUT L :=
  match s.buf.insert w data mallocOk with
  | .error f => s.endWith f
  | .ok (_, buf) => { s with buf := buf }

/- What the connection manager does to the gateway. -/
def perform
    (t : Thread) :
    Gateway V TIMEOUT L → List (ConnEffect V) →
      Gateway V TIMEOUT L
| s, [] => s
| s, .log msg :: effects =>
    perform t (s.writeLog t msg) effects
| s, .sbufferInsert w data mallocOk :: effects =>
    perform t (s.insert w data mallocOk) effects
| s, .exitFailure :: effects =>
    perform t (s.endWith .processExit) effects

/- The storage manager goes on at `pc`. -/
@[grind] def storageAt
    (s : Gateway V TIMEOUT L)
    (pc : OpenDbPc) :
    Gateway V TIMEOUT L :=
  { s with storage := { s.storage with pc := pc } }

/- The data manager goes on at `pc`. -/
@[grind] def datamgrAt
    (s : Gateway V TIMEOUT L)
    (pc : DataManagerPc) :
    Gateway V TIMEOUT L :=
  { s with datamgr := { s.datamgr with pc := pc } }

/- `main` goes on at `pc`. -/
@[grind] def mainAt
    (s : Gateway V TIMEOUT L)
    (pc : MainPc) :
    Gateway V TIMEOUT L :=
  { s with main := pc }

/-
  A reader calls `sbuffer_read`; it goes on by `again` if the
  buffer is empty for it, and by `next` if it gets a record.
-/
@[grind] def readBuffer
    (s : Gateway V TIMEOUT L)
    (r : Reader)
    (again next :
      Gateway V TIMEOUT L → Gateway V TIMEOUT L) :
    Gateway V TIMEOUT L :=
  match s.buf.read r with
  | .error f => s.endWith f
  | .ok (ret, buf) =>
      if ret = .empty then
        again { s with buf := buf }
      else
        next { s with buf := buf }

end Gateway

/- The thread whose step it is. -/
def ConnAction.thread : ConnAction → Thread
| .listener _ _ => .connmgrListen
| .excess _ => .excessClientHandler
| .handler i _ => .clientHandler i

/-
  One step of `open_db`; where it makes a call that can fail,
  `ok` is the outcome. As no other thread takes
  `file_write_mutex`, the row is written in one step.
-/
def storageStep
    (s : Gateway V TIMEOUT L)
    (ok : Bool) :
    Option (Gateway V TIMEOUT L) :=
  match s.storage.pc with
  | .notStarted => none
  | .openFile =>
      if ok then
        some
          ((s.writeLog .openDb
              (.text
                "A new data.csv file has been created\n")).storageAt
            .readBuffer)
      else
        some
          ((s.writeLog .openDb
              (.text
                "Error opening data.csv file.\n")).endWith
            .processExit)
  | .readBuffer =>
      some
        (s.readBuffer .openDb
          (fun s => s.storageAt .readBuffer)
          (fun s => s.storageAt .handleRecord))
  | .handleRecord =>
      let data := s.dataOf .openDb
      if data.id = 0 then
        let eosCount := s.storage.eosCount + 1
        let pc : OpenDbPc :=
          if eosCount < 1 then .reinsertMarker
          else .logClosing
        some
          { s with
              storage :=
                { s.storage with pc := pc, eosCount := eosCount } }
      else
        some
          { s with
              storage :=
                { s.storage with
                    pc := .readBuffer
                    rows := s.storage.rows ++ [data] } }
  | .reinsertMarker =>
      some
        ((s.insert .openDb (s.dataOf .openDb) ok).storageAt
          .logClosing)
  | .logClosing =>
      some
        ((s.writeLog .openDb
            (.text "closing sensor_db process\n")).storageAt
          .flushFile)
  | .flushFile =>
      if ok then
        some (s.storageAt .closeFile)
      else
        some
          ((s.writeLog .openDb
              (.text
                "ERROR: Failed to flush data before closing the file.\n")).storageAt
            .logClosed)
  | .closeFile =>
      if ok then
        some
          ((s.writeLog .openDb
              (.text "DB Closed Successfully\n")).storageAt
            .logClosed)
      else
        some
          ((s.writeLog .openDb
              (.text
                "ERROR: Failed to close the data file.\n")).endWith
            .processExit)
  | .logClosed =>
      some
        ((s.writeLog .openDb
            (.text
              "The data.csv file has been closed.\n")).storageAt
          .returned)
  | .returned => none

/-
  One step of `main`; where it creates a thread, `ok` is the
  outcome. It checks the outcome for the first thread only.
  To join one of the others that was not created is undefined,
  and there is no step for it.
-/
def mainStep
    (s : Gateway V TIMEOUT L)
    (ok : Bool) :
    Option (Gateway V TIMEOUT L) :=
  match s.main with
  | .createConnmgr =>
      if ok then
        some (s.mainAt .createSensorDb)
      else
        some (s.endWith .processExit)
  | .createSensorDb =>
      if ok then
        some ((s.storageAt .openFile).mainAt .createDatamgr)
      else
        some (s.mainAt .createDatamgr)
  | .createDatamgr =>
      if ok then
        some ((s.datamgrAt .openMap).mainAt .logWaiting)
      else
        some (s.mainAt .logWaiting)
  | .logWaiting =>
      some
        ((s.writeLog .main
            (.text "Waiting for threads to join\n")).mainAt
          .joinConnmgr)
  | .joinConnmgr =>
      if s.conn.listener = .returned then
        some (s.mainAt .joinSensorDb)
      else
        none
  | .joinSensorDb =>
      if s.storage.pc = .returned then
        some (s.mainAt .joinDatamgr)
      else
        none
  | .joinDatamgr =>
      if s.datamgr.pc = .returned then
        some (s.mainAt .logJoined)
      else
        none
  | .logJoined =>
      some
        ((s.writeLog .main
            (.text "Threads joined\n")).mainAt .sbufferFree)
  | .sbufferFree =>
      match sbufferFree s.buf.buf with
      | .error f => some (s.endWith f)
      | .ok b =>
          some
            { s with
                buf := { s.buf with buf := b }
                main := .endLogProcess }
  | .endLogProcess =>
      some
        ((s.writeLog .main
            (.text "ending log process.\n")).mainAt .returned)
  | .returned => none

variable [Preorder V]
variable [DecidableLT V]

/-
  One step of `data_manager_init` on the sensor map; `ok` is
  the outcome of `fopen`. The `malloc`s of the loader succeed.
-/
def dataManagerStep
    (cfg : DatamgrConfig V)
    (sensorMap : List (BitVec 16 × BitVec 16))
    (s : Gateway V TIMEOUT cfg.RUN_AVG_LENGTH)
    (ok : Bool) :
    Option (Gateway V TIMEOUT cfg.RUN_AVG_LENGTH) :=
  match s.datamgr.pc with
  | .notStarted => none
  | .openMap =>
      if ok then
        some
          ((s.writeLog .dataManagerInit
              (.text "Sensor map opened\n")).datamgrAt
            .loadMap)
      else
        some (s.endWith .processExit)
  | .loadMap =>
      match loadMap cfg sensorMap with
      | .error f => some (s.endWith f)
      | .ok memory =>
          let s :=
            s.writeLog .dataManagerInit
              (.text "Sensor mapping process complete\n")
          some
            { s with
                datamgr :=
                  { s.datamgr with
                      pc := .readBuffer, memory := memory } }
  | .readBuffer =>
      some
        (s.readBuffer .dataManagerInit
          (fun s => s.datamgrAt .readBuffer)
          (fun s => s.datamgrAt .handleRecord))
  | .handleRecord =>
      let record := s.dataOf .dataManagerInit
      if record.id = 0 then
        some (s.datamgrAt .printSensors)
      else
        match handleRecord cfg s.datamgr.memory record with
        | .error f => some (s.endWith f)
        | .ok (memory, msgs) =>
            some
              { s with
                  datamgr :=
                    { pc := .readBuffer
                      memory := memory
                      handled :=
                        s.datamgr.handled ++ [record] }
                  log :=
                    s.log ++
                      msgs.map
                        (fun msg =>
                          (Thread.dataManagerInit, msg)) }
  | .printSensors =>
      match datamgrPrintSensors s.datamgr.memory with
      | .error f => some (s.endWith f)
      | .ok _ => some (s.datamgrAt .freeList)
  | .freeList =>
      match datamgrFree s.datamgr.memory with
      | .error f => some (s.endWith f)
      | .ok memory =>
          some
            { s with
                datamgr :=
                  { s.datamgr with
                      pc := .returned, memory := memory } }
  | .returned => none

end Steps

------------------------------------------------------------
-- The System
------------------------------------------------------------

/- A step names its thread and the outcome of its call. -/
inductive GatewayAction where
  | conn (a : ConnAction)
  | storage (ok : Bool)
  | datamgr (ok : Bool)
  | main (ok : Bool)

section System

variable {V : Type}
variable [SensorValue V]
variable [Preorder V]
variable [DecidableLT V]
variable {TIMEOUT : Int}

/- One step of one thread, unless the process has ended. -/
def gatewayStep
    (MAX_CONN : Nat)
    (cfg : DatamgrConfig V)
    (sensorMap : List (BitVec 16 × BitVec 16))
    (s : Gateway V TIMEOUT cfg.RUN_AVG_LENGTH)
    (a : GatewayAction) :
    Option (Gateway V TIMEOUT cfg.RUN_AVG_LENGTH) :=
  if s.ended ≠ none ∨ s.main = .returned then
    none
  else
    match a with
    | .conn a =>
        if s.main = .createConnmgr then
          none
        else
          (connStep MAX_CONN s.conn a).map
            (fun (conn, effects) =>
              Gateway.perform a.thread
                { s with conn := conn } effects)
    | .storage ok => storageStep s ok
    | .datamgr ok => dataManagerStep cfg sensorMap s ok
    | .main ok => mainStep s ok

/- The gateway, from the start of its threads. -/
def gatewaySystem
    (TIMEOUT : Int)
    (MAX_CONN : Nat)
    (cfg : DatamgrConfig V)
    (sensorMap : List (BitVec 16 × BitVec 16))
    (data : Reader → SensorData V) :
    System (Gateway V TIMEOUT cfg.RUN_AVG_LENGTH)
      GatewayAction where
  init := .start data
  step := gatewayStep MAX_CONN cfg sensorMap

end System

end SensorGateway
