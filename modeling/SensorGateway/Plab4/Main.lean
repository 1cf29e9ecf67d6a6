import SensorGateway.Foundations.Dealing
import SensorGateway.Sbuffer.Queue

/-
  The program of the fourth lab: `writer_thread` puts the
  records of a file and an end-of-stream marker into the
  buffer, and some `reader_thread`s compete for them and
  write their rows to one file.

  `sbuffer_insert`, `sbuffer_remove` and the row under the
  `file_write_mutex` are one step each, as is every access to
  the shared `eos_count`. All allocations succeed. The count
  is a natural number: it never gets above the number of
  readers, which is an `int`.

  Key definitions include:
    * `Plab4.WriterPc`
    * `Plab4.ReaderPc`
    * `Plab4.Pipeline`
    * `Plab4.writerThread`
    * `Plab4.readerThread`
    * `Plab4.pipelineSystem`
-/

------------------------------------------------------------
-- Threads
------------------------------------------------------------

namespace SensorGateway

namespace Plab4

open Foundations

variable {V : Type}

/-
  Where the writer is: about to call `fread`, where `rest` is
  what the file still has, about to insert the record that it
  read, behind its loop, or gone.
-/
inductive WriterPc (V : Type) where
  | read
      (rest : List (SensorData V))
      (record : SensorData V)
  | insert
      (rest : List (SensorData V))
      (record : SensorData V)
  | mark (record : SensorData V)
  | exited

/-
  Where a reader is, with its variable `data`: about to call
  `sbuffer_remove`, at the test of the id, at the load and at
  the store of `eos_count++`, at the test of the count, about
  to insert the marker again, or to write a row, or gone.
-/
inductive ReaderPc (V : Type) where
  | remove (data : SensorData V)
  | check (data : SensorData V)
  | loadCount (data : SensorData V)
  | storeCount (data : SensorData V) (loaded : Nat)
  | testCount (data : SensorData V)
  | reinsert (data : SensorData V)
  | write (data : SensorData V)
  | exited (data : SensorData V)

/-
  The threads and what they share. A row of the output file
  is kept as its record, with the reader that wrote it.
-/
structure Pipeline (V : Type) where
  buf : Sbuffer V
  eosCount : Nat
  fileOut : List (Nat × SensorData V)
  writer : WriterPc V
  readers : List (ReaderPc V)
  fault : Option Fault

namespace Pipeline

/- A call of `sbuffer_insert`; its result is not looked at. -/
def insert
    (s : Pipeline V)
    (data : SensorData V) :
    Pipeline V :=
  match Plab4.sbufferInsert s.buf data true with
  | .error f => { s with fault := some f }
  | .ok (_, buf) => { s with buf := buf }

/- A reader goes on. -/
def setReader
    (s : Pipeline V)
    (i : Nat)
    (pc : ReaderPc V) :
    Pipeline V :=
  { s with readers := s.readers.set i pc }

end Pipeline

/- A step of `writer_thread`. -/
def writerThread
    (s : Pipeline V) :
    Option (Pipeline V) :=
  match s.writer with
  | .read (record :: rest) _ =>
      some { s with writer := .insert rest record }
  | .read [] record => some { s with writer := .mark record }
  | .insert rest record =>
      some
        { s.insert record with writer := .read rest record }
  | .mark record =>
      some
        { s.insert { record with id := 0 } with
            writer := .exited }
  | .exited => none

/-
  A step of reader `i` in `reader_thread`, where `numReaders`
  stands for `NUM_READERS`. It waits if the buffer has nothing
  for it.
-/
def readerThread
    (numReaders : Nat)
    (s : Pipeline V)
    (i : Nat) :
    Option (Pipeline V) :=
  match s.readers[i]? with
  | none => none
  | some (.remove data) =>
      match Plab4.sbufferRemove s.buf data with
      | .error f => some { s with fault := some f }
      | .ok none => none
      | .ok (some (_, data, buf)) =>
          some
            ({ s with buf := buf }.setReader i (.check data))
  | some (.check data) =>
      if data.id = 0 then
        some (s.setReader i (.loadCount data))
      else
        some (s.setReader i (.write data))
  | some (.loadCount data) =>
      some (s.setReader i (.storeCount data s.eosCount))
  | some (.storeCount data loaded) =>
      some
        ({ s with eosCount := loaded + 1 }.setReader i
          (.testCount data))
  | some (.testCount data) =>
      if s.eosCount < numReaders then
        some (s.setReader i (.reinsert data))
      else
        some (s.setReader i (.exited data))
  | some (.reinsert data) =>
      some ((s.insert data).setReader i (.exited data))
  | some (.write data) =>
      some
        ({ s with fileOut := s.fileOut ++ [(i, data)] }.setReader
          i (.remove data))
  | some (.exited _) => none

------------------------------------------------------------
-- Runs
------------------------------------------------------------

/- A step is one of the writer, or of a reader. -/
inductive PipelineLabel where
  | writer
  | reader (i : Nat)

/- Behind a fault there are no steps. -/
def pipelineStep
    (numReaders : Nat)
    (s : Pipeline V)
    (l : PipelineLabel) :
    Option (Pipeline V) :=
  if s.fault.isSome then
    none
  else
    match l with
    | .writer => writerThread s
    | .reader i => readerThread numReaders s i

/-
  The start of the program, with a file of records. `record`
  and `data` are the local variables before they are set.
-/
def Pipeline.start
    (numReaders : Nat)
    (input : List (SensorData V))
    (record : SensorData V)
    (data : Nat → SensorData V) :
    Pipeline V where
  buf := (Plab4.sbufferInit true).2
  eosCount := 0
  fileOut := []
  writer := .read input record
  readers :=
    (List.range numReaders).map (fun i => .remove (data i))
  fault := none

def pipelineSystem
    (numReaders : Nat)
    (input : List (SensorData V))
    (record : SensorData V)
    (data : Nat → SensorData V) :
    System (Pipeline V) PipelineLabel where
  init := .start numReaders input record data
  step := pipelineStep numReaders

end Plab4

end SensorGateway
