import SensorGateway.ConnMgr.WireFraming
import SensorGateway.Stdio.Text
import SensorGateway.TcpSock.Api

/-
  The program `sensor_node.c`: its command line and its loop.

  The temperatures and times that it measures are inputs, as
  are the outcomes of its sends. It takes a send that was not
  refused for one of the whole field.

  Key definitions include:
    * `NodeOptions`
    * `nodeOptions`
    * `nodeLoop`
    * `NodeRun`

  Key theorems include:
    * `nodeLoop_stream`
    * `NodeRun.stream_eq`
-/

------------------------------------------------------------
-- The Command Line
------------------------------------------------------------

namespace SensorGateway

open Foundations

/- `strlen` of the initial value of `server_ip`. -/
def serverIpLength : Nat :=
  15

/- What the node takes from its command line. -/
structure NodeOptions where
  id : SensorId
  sleepTime : Int
  serverIp : List (BitVec 8)
  serverPort : Int
deriving DecidableEq

/-
  The options, if there are four arguments behind the name of
  the program; else the node prints its help, and exits. The
  last character of `server_ip` stays NUL.
-/
def nodeOptions :
    List (List (BitVec 8)) → Option NodeOptions
| [_, id, sleepTime, serverIp, serverPort] =>
    some
      { id := BitVec.ofInt 16 (atoi id)
        sleepTime := atoi sleepTime
        serverIp :=
          cString (strncpy serverIpLength serverIp ++ [0])
        serverPort := atoi serverPort }
| _ => none

------------------------------------------------------------
-- The Loop
------------------------------------------------------------

/- The bytes of a field that a send gives to the kernel. -/
def Send.taken
    (field : List (BitVec 8)) :
    Send → List (BitVec 8)
| .sent n => field.take n
| .failed _ => []

/-
  The fields of a record, one after the other. The loop goes
  on if no send failed.
-/
def sendFields :
    List (List (BitVec 8) × Send) → List (BitVec 8) × Bool
| [] => ([], true)
| (field, o) :: fields =>
    if o.result.1 = .noError then
      let (bytes, ok) := sendFields fields
      (o.taken field ++ bytes, ok)
    else
      ([], false)

section Loop

variable {V : Type}

/- A measurement, and the outcomes of the sends for it. -/
structure Measurement (V : Type) where
  value : V
  ts : SensorTs
  sendId : Send
  sendValue : Send
  sendTs : Send

/- The record of a measurement. -/
def Measurement.record
    (id : SensorId)
    (m : Measurement V) :
    SensorData V where
  id := id
  value := m.value
  ts := m.ts

/- How the node ends, unless it is still running. -/
inductive NodeEnd where
  | running
  | finished
  | exitFailure
deriving DecidableEq

/- The macro `UPDATE`; without it, the loop has no end. -/
def updateLoops
    (LOOPS i : Nat) :
    Nat :=
  if 1 < LOOPS then i - 1 else i

variable [SensorValue V]

/- The fields of a record, in the order of the sends. -/
def Measurement.fields
    (id : SensorId)
    (m : Measurement V) :
    List (List (BitVec 8) × Send) :=
  [((Bytes.encode (n := 2) id).toList, m.sendId),
    ((Bytes.encode (n := 8)
      (SensorValue.toBits m.value)).toList, m.sendValue),
    ((Bytes.encode (n := 8) m.ts).toList, m.sendTs)]

/-
  The loop on the measurements that it makes, from a value of
  `i` on: the bytes that the kernel takes, and the end.
-/
def nodeLoop
    (LOOPS : Nat)
    (id : SensorId) :
    List (Measurement V) → Nat → List (BitVec 8) × NodeEnd
| [], i => ([], if i = 0 then .finished else .running)
| m :: ms, i =>
    if i = 0 then
      ([], .finished)
    else
      let (bytes, ok) := sendFields (m.fields id)
      if ok then
        let (rest, ending) :=
          nodeLoop LOOPS id ms (updateLoops LOOPS i)
        (bytes ++ rest, ending)
      else
        (bytes, .exitFailure)

------------------------------------------------------------
-- Streams
------------------------------------------------------------

/- A send takes the whole field, or it fails. -/
def Send.Whole
    (o : Send)
    (size : Nat) : Prop :=
  o = .sent size ∨ ∃ notConnected, o = .failed notConnected

/- All sends of a measurement are such. -/
structure Measurement.Whole
    (m : Measurement V) : Prop where
  sendId : m.sendId.Whole 2
  sendValue : m.sendValue.Whole 8
  sendTs : m.sendTs.Whole 8

/- What fields are sent is a prefix of them all. -/
theorem sendFields_front
    {fields : List (List (BitVec 8) × Send)}
    (hWhole :
      ∀ f ∈ fields, 0 < f.1.length ∧ f.2.Whole f.1.length) :
    (sendFields fields).1 <+:
        (fields.map Prod.fst).flatten ∧
      ((sendFields fields).2 = true →
        (sendFields fields).1 =
          (fields.map Prod.fst).flatten) := by
  induction fields with
  | nil => exact ⟨List.prefix_refl _, fun _ => rfl⟩
  | cons f fields ih =>
      rw [List.forall_mem_cons] at hWhole
      rcases hWhole with ⟨⟨hPos, hSend⟩, hRest⟩
      rcases ih hRest with ⟨hPrefix, hAll⟩
      rcases f with ⟨field, o⟩
      rcases hSend with hSent | ⟨notConnected, hFailed⟩
      · have hResult : o.result.1 = .noError := by
          simp only at hSent hPos
          rw [hSent]
          cases hLength : field.length with
          | zero => omega
          | succ n => rfl
        have hTaken : o.taken field = field := by
          simp only at hSent
          rw [hSent]
          exact List.take_length
        simp only [sendFields, if_pos hResult, hTaken,
          List.map_cons, List.flatten_cons]
        refine
          ⟨(List.prefix_append_right_inj _).mpr hPrefix, ?_⟩
        intro hOk
        rw [hAll hOk]
      · have hResult : o.result.1 ≠ .noError := by
          simp only at hFailed
          rw [hFailed]
          cases notConnected with
          | true => decide
          | false => decide
        simp only [sendFields, if_neg hResult]
        exact ⟨List.nil_prefix, fun hFalse => nomatch hFalse⟩

/- The fields of a measurement are its record. -/
theorem Measurement.flatten_fields
    (id : SensorId)
    (m : Measurement V) :
    ((m.fields id).map Prod.fst).flatten =
      (m.record id).wire := by
  simp [Measurement.fields, SensorData.wire,
    Measurement.record]

theorem Measurement.Whole.fields
    {m : Measurement V}
    (h : m.Whole)
    (id : SensorId) :
    ∀ f ∈ m.fields id,
      0 < f.1.length ∧ f.2.Whole f.1.length := by
  have hSizes :
      ∀ n (b : Bytes n), b.toList.length = n :=
    fun n b => Bytes.length_toList b
  unfold Measurement.fields
  rw [List.forall_mem_cons, List.forall_mem_cons,
    List.forall_mem_singleton]
  simp only [hSizes]
  exact
    ⟨⟨by decide, h.sendId⟩, ⟨by decide, h.sendValue⟩,
      by decide, h.sendTs⟩

/-
  If no send takes only a part of its field, then what the
  node sends is the stream of its records, up to some point.
-/
theorem nodeLoop_stream
    (LOOPS : Nat)
    (id : SensorId)
    {ms : List (Measurement V)}
    (hWhole : ∀ m ∈ ms, m.Whole)
    (i : Nat) :
    (nodeLoop LOOPS id ms i).1 <+:
      sensorNodeStream (ms.map (Measurement.record id)) := by
  induction ms generalizing i with
  | nil =>
      simp only [nodeLoop]
      exact List.nil_prefix
  | cons m ms ih =>
      rw [List.forall_mem_cons] at hWhole
      have hFields := sendFields_front (hWhole.1.fields id)
      rw [m.flatten_fields id] at hFields
      rw [List.map_cons, sensorNodeStream_cons]
      simp only [nodeLoop]
      split
      · exact List.nil_prefix
      · split
        · rename_i hOk
          rw [hFields.2 hOk]
          exact (List.prefix_append_right_inj _).mpr
            (ih hWhole.2 _)
        · exact hFields.1.trans (List.prefix_append _ _)

end Loop

------------------------------------------------------------
-- Runs
------------------------------------------------------------

/- A node that was started and has got a connection. -/
structure NodeRun (V : Type) where
  LOOPS : Nat
  argv : List (List (BitVec 8))
  options : NodeOptions
  started : nodeOptions argv = some options
  measurements : List (Measurement V)

namespace NodeRun

variable {V : Type}

/- The records of the measurements. -/
def records
    (n : NodeRun V) :
    List (SensorData V) :=
  n.measurements.map (Measurement.record n.options.id)

/- The number that `i` starts with. -/
def loops
    (n : NodeRun V) :
    Nat :=
  if 1 < n.LOOPS then n.LOOPS else 1

variable [SensorValue V]

/- What the node sends. -/
def stream
    (n : NodeRun V) :
    List (BitVec 8) :=
  (nodeLoop n.LOOPS n.options.id n.measurements n.loops).1

/- The records that it sends to their ends. -/
def sentRecords
    (n : NodeRun V) :
    List (SensorData V) :=
  n.records.take (n.stream.length / 18)

theorem stream_eq
    {n : NodeRun V}
    (hWhole : ∀ m ∈ n.measurements, m.Whole) :
    n.stream =
      (sensorNodeStream n.records).take n.stream.length :=
  List.prefix_iff_eq_take.mp
    (nodeLoop_stream n.LOOPS n.options.id hWhole n.loops)

/- Each record that it sends has the id of the node. -/
theorem id_of_mem_sentRecords
    (n : NodeRun V)
    {record : SensorData V}
    (hMem : record ∈ n.sentRecords) :
    record.id = n.options.id := by
  have hRecord := List.mem_of_mem_take hMem
  unfold records at hRecord
  rcases List.mem_map.mp hRecord with ⟨m, _, rfl⟩
  rfl

end NodeRun

end SensorGateway
