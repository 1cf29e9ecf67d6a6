import SensorGateway.ConnMgr.Sockets
import SensorGateway.Gateway.EndOfStream

/-
  The sockets of the whole gateway, and the connections that
  the records in the buffer come from.

  Only a started handler inserts what a client sent, and the
  excess handler accepts connections when no handler is
  started any more.

  Key definitions include:
    * `AcceptedByExcess`

  Key theorems include:
    * `gatewaySystem_handedOver`
    * `gatewaySystem_inserted_handedOver`
    * `gatewaySystem_socketsSafe`
-/

------------------------------------------------------------
-- The Connection Manager in the Gateway
------------------------------------------------------------

namespace SensorGateway

open Foundations

variable {V : Type}
variable [SensorValue V]
variable [Preorder V]
variable [DecidableLT V]
variable {TIMEOUT : Int}
variable {MAX_CONN : Nat}
variable {cfg : DatamgrConfig V}
variable {sensorMap : List (BitVec 16 × BitVec 16)}
variable {data : Reader → SensorData V}

/- Only its own threads move the connection manager. -/
theorem gatewayStep_conn
    {s t : Gateway V TIMEOUT cfg.RUN_AVG_LENGTH}
    {a : GatewayAction}
    (hStep : gatewayStep MAX_CONN cfg sensorMap s a = some t) :
    t.conn = s.conn ∨
      ∃ a' effects,
        connStep MAX_CONN s.conn a' =
          some (t.conn, effects) := by
  cases gatewayStep_cases hStep with
  | conn a conn effects hConn hEq =>
      right
      refine ⟨a, effects, ?_⟩
      rw [hEq, (Gateway.perform_frame a.thread
        { s with conn := conn } effects).1]
      exact hConn
  | storage ok hStorage =>
      exact Or.inl (storageStep_cases hStorage).1.1
  | datamgr ok hDatamgr =>
      exact Or.inl (dataManagerStep_frame hDatamgr).1
  | main ok hMain => exact Or.inl (mainStep_buffer hMain).1

/- Once the accept loop is over, no socket is handed over. -/
theorem gatewaySystem_handedOver
    {labels : List GatewayAction}
    {s t : Gateway V TIMEOUT cfg.RUN_AVG_LENGTH}
    (hPast : s.conn.listener.pastAcceptLoop = true)
    (hRun :
      (gatewaySystem TIMEOUT MAX_CONN cfg sensorMap
          data).runFrom s labels =
        some t) :
    t.conn.handedOver = s.conn.handedOver := by
  have hKept :=
    System.invariant_from
      (gatewaySystem TIMEOUT MAX_CONN cfg sensorMap data)
      (fun u =>
        u.conn.listener.pastAcceptLoop = true ∧
          u.conn.handedOver = s.conn.handedOver)
      (by
        rintro u a v ⟨hPastU, hHanded⟩ hStep
        rcases gatewayStep_conn hStep with
          hConn | ⟨a', effects, hConn⟩
        · rw [hConn]
          exact ⟨hPastU, hHanded⟩
        · rcases connStep_handedOver hConn with
            ⟨started, hStarted, hNone⟩
          rcases hNone hPastU with ⟨hPastV, rfl⟩
          rw [hStarted, List.append_nil]
          exact ⟨hPastV, hHanded⟩)
      ⟨hPast, rfl⟩ hRun
  exact hKept.2

------------------------------------------------------------
-- The Origin of the Records
------------------------------------------------------------

/-
  In the run of `labels`, the excess handler accepted the
  connection whose socket is `client`.
-/
def AcceptedByExcess
    (M :
      System (Gateway V TIMEOUT cfg.RUN_AVG_LENGTH)
        GatewayAction)
    (labels : List GatewayAction)
    (client : Nat) : Prop :=
  ∃ before after t,
    labels = before ++ .conn (.excess true) :: after ∧
      M.run before = some t ∧
      t.conn.excess = .inAccept ∧
      t.conn.accepted = client

/- What the excess handler accepts is not handed over. -/
theorem not_handedOver_of_acceptedByExcess
    {labels : List GatewayAction}
    {s : Gateway V TIMEOUT cfg.RUN_AVG_LENGTH}
    (hRun :
      (gatewaySystem TIMEOUT MAX_CONN cfg sensorMap
          data).run labels =
        some s)
    {client : Nat}
    (hExcess :
      AcceptedByExcess
        (gatewaySystem TIMEOUT MAX_CONN cfg sensorMap data)
        labels client) :
    client ∉ s.conn.handedOver := by
  rcases hExcess with
    ⟨before, after, t, hSplit, hBefore, hPc, rfl⟩
  have hSound := gatewaySystem_sound hBefore
  rcases hSound.conn_run with ⟨connLabels, hConnRun⟩
  have hPast : t.conn.listener.pastAcceptLoop = true := by
    apply ListenerPc.pastAcceptLoop_of_behindExcess
    apply (connSystem_admitting hConnRun).excess_late
    rw [hPc]
    intro hEq
    cases hEq
  have hRest :
      (gatewaySystem TIMEOUT MAX_CONN cfg sensorMap
          data).runFrom t (.conn (.excess true) :: after) =
        some s := by
    rw [hSplit, System.run_append] at hRun
    rcases hRun with ⟨t', hBefore', hRest⟩
    rw [hBefore] at hBefore'
    cases hBefore'
    exact hRest
  rw [gatewaySystem_handedOver hPast hRest]
  -- the socket has a number that no earlier socket has
  have hHanded :=
    (connSystem_socketsOwned hConnRun).handed_once
      t.conn.accepted
  rw [if_neg (Nat.lt_irrefl _)] at hHanded
  rw [← List.count_eq_zero]
  omega

/-
  A record in the buffer is the marker of the listener, or it
  comes from a socket that was handed over.
-/
theorem gatewaySystem_inserted_handedOver
    {labels : List GatewayAction}
    {s : Gateway V TIMEOUT cfg.RUN_AVG_LENGTH}
    (hRun :
      (gatewaySystem TIMEOUT MAX_CONN cfg sensorMap
          data).run labels =
        some s) :
    ∀ e ∈ s.buf.inserted,
      e = (.connmgrListen, .endOfStream) ∨
        ∃ i client,
          e.1 = .clientHandler i ∧
            s.conn.handedOver[i]? = some client := by
  refine System.run_induction _
    (fun _ s =>
      ∀ e ∈ s.buf.inserted,
        e = (.connmgrListen, .endOfStream) ∨
          ∃ i client,
            e.1 = .clientHandler i ∧
              s.conn.handedOver[i]? = some client)
    ?_ ?_ hRun
  · intro e hMem
    cases hMem
  intro labels s a t hPrefix h hStep
  have hSound := gatewaySystem_sound hPrefix
  have hOld :
      ∀ e ∈ s.buf.inserted,
        e = (.connmgrListen, .endOfStream) ∨
          ∃ i client,
            e.1 = .clientHandler i ∧
              t.conn.handedOver[i]? = some client := by
    intro e hMem
    rcases h e hMem with hMarker | ⟨i, client, hTag, hGet⟩
    · exact Or.inl hMarker
    · refine Or.inr ⟨i, client, hTag, ?_⟩
      rcases gatewayStep_conn hStep with
        hConn | ⟨a', effects, hConn⟩
      · rw [hConn]
        exact hGet
      · rcases connStep_handedOver hConn with
          ⟨started, hStarted, _⟩
        rw [hStarted]
        exact getElem?_append_of_eq_some hGet started
  rcases gatewayStep_inserted hSound hStep with
    ⟨a', conn, effects, rfl, hConn, rfl⟩ | ⟨_, hInserted⟩
  · rcases hSound.connStep_inserted hConn with
      ⟨_, hInserted⟩ |
        ⟨w, record, _, hInserted, hWriter⟩
    · rw [hInserted]
      exact hOld
    · rw [hInserted]
      split
      · intro e hMem
        rcases List.mem_append.mp hMem with hMem | hNew
        · exact hOld e hMem
        · rw [List.mem_singleton] at hNew
          subst hNew
          rcases hWriter with
            ⟨rfl, rfl⟩ | ⟨i, handler, rest, rfl, hGet, _⟩
          · exact Or.inl rfl
          · right
            refine ⟨i, handler.client, rfl, ?_⟩
            rw [(Gateway.perform_frame a'.thread
              { s with conn := conn } effects).1]
            rcases connStep_handedOver hConn with
              ⟨started, hStarted, _⟩
            simp only
            rw [hStarted]
            apply getElem?_append_of_eq_some
            unfold ConnMgr.handedOver
            rw [List.getElem?_map, hGet]
            rfl
      · exact hOld
  · rw [hInserted]
    exact hOld

/-
  In every reachable state, the sockets are safe, and a
  record in the buffer that is not the listener's marker
  comes from a handler whose connection the excess handler
  did not accept.
-/
theorem gatewaySystem_socketsSafe
    {labels : List GatewayAction}
    {s : Gateway V TIMEOUT cfg.RUN_AVG_LENGTH}
    (hRun :
      (gatewaySystem TIMEOUT MAX_CONN cfg sensorMap
          data).run labels =
        some s) :
    s.conn.SocketsSafe MAX_CONN ∧
      ∀ e ∈ s.buf.inserted,
        e = (.connmgrListen, .endOfStream) ∨
          ∃ i handler,
            e.1 = .clientHandler i ∧
              s.conn.handlers[i]? = some handler ∧
              ¬ AcceptedByExcess
                (gatewaySystem TIMEOUT MAX_CONN cfg sensorMap
                  data)
                labels handler.client := by
  have hSound := gatewaySystem_sound hRun
  rcases hSound.conn_run with ⟨connLabels, hConnRun⟩
  refine ⟨?_, ?_⟩
  · exact (connSystem_socketsOwned hConnRun).safe
      hSound.accounted (connSystem_admitting hConnRun)
  · intro e hMem
    rcases gatewaySystem_inserted_handedOver hRun e hMem with
      hMarker | ⟨i, client, hTag, hGet⟩
    · exact Or.inl hMarker
    · right
      have hHanded := List.mem_of_getElem? hGet
      unfold ConnMgr.handedOver at hGet
      rw [List.getElem?_map, Option.map_eq_some_iff] at hGet
      rcases hGet with ⟨handler, hHandler, rfl⟩
      refine ⟨i, handler, hTag, hHandler, ?_⟩
      intro hExcess
      exact not_handedOver_of_acceptedByExcess hRun hExcess
        hHanded

/-
  A client that is closed before it sends anything, and then
  one that the excess handler rejects.
-/
def rejectedClient : List GatewayAction :=
  List.replicate 4 (.main true) ++
    List.replicate 16 (.conn (.listener true .closed)) ++
    List.replicate 9 (.conn (.excess true)) ++
    List.replicate 6 (.conn (.handler 0 true)) ++
    List.replicate 9 (.conn (.listener true .closed)) ++
    List.replicate 2 (.conn (.excess true)) ++
    List.replicate 3 (.conn (.listener true .closed))

theorem socketsSafe_rejectedClient :
    ∃ s : Gateway (Fin (2 ^ 64)) 5
        wholeDegrees.RUN_AVG_LENGTH,
      (gatewaySystem 5 1 wholeDegrees [(1, 15)]
            (fun _ => .endOfStream)).run rejectedClient =
        some s ∧
      s.conn.listener = .returned ∧
      s.conn.closed = [1, 0] ∧
      s.conn.SocketsSafe 1 := by
  have hEnd :
      ((gatewaySystem 5 1 wholeDegrees [(1, 15)]
            (fun _ => .endOfStream)).run
          rejectedClient).map
        (fun s => (s.conn.listener, s.conn.closed)) =
      some (.returned, [1, 0]) := by
    decide
  rw [Option.map_eq_some_iff] at hEnd
  rcases hEnd with ⟨s, hRun, hState⟩
  simp only [Prod.mk.injEq] at hState
  exact ⟨s, hRun, hState.1, hState.2,
    (gatewaySystem_socketsSafe hRun).1⟩

end SensorGateway
