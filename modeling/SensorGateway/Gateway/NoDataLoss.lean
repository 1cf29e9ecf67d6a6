import SensorGateway.Gateway.EndOfStream

/-
  What the storage manager and the data manager have handled
  when both have left their loops.

  Both take any record with id zero for the marker. They have
  handled all that the clients sent, and left at the marker
  of the listener, exactly if no client sent such a record.

  Key definitions include:
    * `Gateway.clientRecords`
    * `Gateway.NoDataLoss`

  Key theorems include:
    * `Gateway.Sound.stopped_at_marker`
    * `gatewaySystem_noDataLoss_iff`
    * `data_lost`
-/

------------------------------------------------------------
-- Clients
------------------------------------------------------------

namespace SensorGateway

open Foundations

/- The thread is a `client_handler`. -/
def Thread.isClientHandler : Thread → Bool
| .clientHandler _ => true
| _ => false

------------------------------------------------------------
-- Left Loops
------------------------------------------------------------

section Left

variable {V : Type}
variable [SensorValue V]
variable {TIMEOUT : Int}
variable {MAX_CONN : Nat}
variable {L : Nat}

/- The records that handlers inserted, in insertion order. -/
def Gateway.clientRecords
    (s : Gateway V TIMEOUT L) :
    List (SensorData V) :=
  (s.buf.inserted.filter
    (fun e => e.1.isClientHandler)).map Prod.snd

/-
  Both readers have handled the records of the clients, all
  and in order, and the record behind them, at which they
  stopped, is the one that the listener inserted.
-/
structure Gateway.NoDataLoss
    (s : Gateway V TIMEOUT L) : Prop where
  rows_eq : s.storage.rows = s.clientRecords
  handled_eq : s.datamgr.handled = s.clientRecords
  stopped_at :
    ∀ r, s.buf.inserted[(s.handledBy r).length]? =
      some (.connmgrListen, .endOfStream)

/- No client sends a record that looks like the marker. -/
def Gateway.NoZeroIds
    (s : Gateway V TIMEOUT L) : Prop :=
  ∀ h ∈ s.conn.handlers, ∀ record ∈ h.session,
    record.id ≠ 0

variable {s : Gateway V TIMEOUT L}

/- The records of the clients, as the buffer is written. -/
theorem Gateway.clientRecords_of_inserted
    {clients : List (Thread × SensorData V)}
    (hInserted : s.buf.inserted = clients ++ s.marker)
    (hClients : ∀ e ∈ clients, ∃ i, e.1 = .clientHandler i) :
    s.clientRecords = clients.map Prod.snd := by
  have hOwn :
      clients.filter (fun e => e.1.isClientHandler) =
        clients := by
    rw [List.filter_eq_self]
    intro e hMem
    rcases hClients e hMem with ⟨i, hTag⟩
    rw [hTag]
    rfl
  have hMarker :
      s.marker.filter (fun e => e.1.isClientHandler) = [] := by
    unfold marker
    split
    · rfl
    · rfl
  unfold clientRecords
  rw [hInserted, List.filter_append, hOwn, hMarker,
    List.append_nil]

/- A record in the buffer is a record of a session. -/
theorem Gateway.Written.exists_session
    (h : s.Written)
    {record : SensorData V}
    (hMem : record ∈ s.clientRecords) :
    ∃ handler ∈ s.conn.handlers,
      record ∈ handler.session := by
  rcases h with ⟨clients, hInserted, hClients, hTags⟩
  rw [Gateway.clientRecords_of_inserted hInserted hClients]
    at hMem
  rcases List.mem_map.mp hMem with ⟨e, hE, rfl⟩
  rcases hClients e hE with ⟨i, hTag⟩
  have hRecord : e.2 ∈ s.conn.handlerRecords i := by
    rw [← hTags i]
    exact List.mem_map.mpr
      ⟨e, List.mem_filter.mpr ⟨hE, by simp [hTag]⟩, rfl⟩
  have hSession :=
    (s.conn.handlerRecords_prefix i).subset hRecord
  unfold ConnMgr.sessionOf at hSession
  cases hHandler : s.conn.handlers[i]? with
  | none =>
      rw [hHandler] at hSession
      cases hSession
  | some handler =>
      rw [hHandler] at hSession
      exact ⟨handler, List.mem_of_getElem? hHandler, hSession⟩

/-
  A reader that has left its loop, where no client sent id
  zero, stopped at the marker of the listener: it handled
  all records of the clients, and all sessions are inserted.
-/
theorem Gateway.Sound.stopped_at_marker
    (hSound : s.Sound MAX_CONN)
    (hWritten : s.Written)
    (hIds : s.NoZeroIds)
    {r : Reader}
    (hLeft : s.phaseOf r = .left) :
    s.conn.listener = .returned ∧
      s.handledBy r = s.clientRecords := by
  have hClientIds :
      ∀ record ∈ s.clientRecords, record.id ≠ 0 := by
    intro record hMem
    rcases hWritten.exists_session hMem with
      ⟨handler, hHandler, hSession⟩
    exact hIds handler hHandler record hSession
  have hHandled := hSound.handled_eq_takeWhile hLeft
  have hBusy := (hSound.ordered r).obtained_of_left hLeft
  have hZero := (hSound.ordered r).left hLeft
  have hData : s.dataOf r ∈ s.buf.records := by
    apply (hSound.obtained_prefix r).subset
    rw [hBusy]
    simp
  rcases hWritten with ⟨clients, hInserted, hClients, hTags⟩
  have hRecords :=
    Gateway.clientRecords_of_inserted hInserted hClients
  have hSplit :
      s.buf.records =
        s.clientRecords ++ s.marker.map Prod.snd := by
    unfold SharedBuffer.records
    rw [hInserted, List.map_append, hRecords]
  -- a record with id zero is in the buffer
  have hReturned : s.conn.listener = .returned := by
    by_contra hNot
    unfold Gateway.marker at hSplit
    rw [if_neg hNot, List.map_nil, List.append_nil] at hSplit
    rw [hSplit] at hData
    exact hClientIds _ hData hZero
  refine ⟨hReturned, ?_⟩
  unfold Gateway.marker at hSplit
  rw [if_pos hReturned] at hSplit
  rw [hHandled, hSplit, List.takeWhile_append_of_pos]
  · simp
  · intro record hMem
    simpa using hClientIds record hMem

/- If nothing is lost, no client sent id zero. -/
theorem Gateway.NoDataLoss.noZeroIds
    (h : s.NoDataLoss)
    (hSound : s.Sound MAX_CONN)
    (hWritten : s.Written) :
    s.NoZeroIds := by
  have hLast := hWritten.endOfStreamLast hSound
  have hListed :
      ofTag .connmgrListen s.buf.inserted ≠ [] := by
    intro hNone
    have hMem :=
      List.mem_of_getElem? (h.stopped_at .openDb)
    have hOwn :
        SensorData.endOfStream ∈
          ofTag .connmgrListen s.buf.inserted :=
      List.mem_map.mpr
        ⟨_, List.mem_filter.mpr ⟨hMem, by simp⟩, rfl⟩
    rw [hNone] at hOwn
    cases hOwn
  rcases hLast.marker_last hListed with
    ⟨clients, hInserted, hClients, hTags⟩
  intro handler hHandler record hRecord
  rcases List.mem_iff_getElem?.mp hHandler with ⟨i, hGet⟩
  have hSession : record ∈ s.conn.sessionOf i := by
    unfold ConnMgr.sessionOf
    rw [hGet]
    exact hRecord
  rw [← hTags i] at hSession
  rcases List.mem_map.mp hSession with ⟨e, hE, rfl⟩
  rcases List.mem_filter.mp hE with ⟨hMem, hTag⟩
  rw [decide_eq_true_eq] at hTag
  have hClient : e.2 ∈ s.clientRecords := by
    unfold Gateway.clientRecords
    rw [hInserted]
    refine List.mem_map.mpr ⟨e, ?_, rfl⟩
    refine List.mem_filter.mpr
      ⟨List.mem_append_left _ hMem, ?_⟩
    rw [hTag]
    rfl
  rw [← h.rows_eq] at hClient
  exact (hSound.ordered .openDb).ids e.2 hClient

end Left

------------------------------------------------------------
-- Runs
------------------------------------------------------------

section Runs

variable {V : Type}
variable [SensorValue V]
variable [Preorder V]
variable [DecidableLT V]
variable {TIMEOUT : Int}
variable {MAX_CONN : Nat}
variable {cfg : DatamgrConfig V}
variable {sensorMap : List (BitVec 16 × BitVec 16)}
variable {data : Reader → SensorData V}

/-
  In every run with memory after which both readers have left
  their loops, nothing is lost exactly if no client sent a
  record with id zero.
-/
theorem gatewaySystem_noDataLoss_iff
    {labels : List GatewayAction}
    {s : Gateway V TIMEOUT cfg.RUN_AVG_LENGTH}
    (hAlloc :
      (gatewaySystem TIMEOUT MAX_CONN cfg sensorMap
          data).Guarded
        (AllocationSucceeds MAX_CONN) labels)
    (hRun :
      (gatewaySystem TIMEOUT MAX_CONN cfg sensorMap
          data).run labels =
        some s)
    (hLeft : ∀ r, s.phaseOf r = .left) :
    s.NoDataLoss ↔ s.NoZeroIds := by
  have hSound := gatewaySystem_sound hRun
  have hWritten := gatewaySystem_written hAlloc hRun
  constructor
  · intro h
    exact h.noZeroIds hSound hWritten
  · intro hIds
    have hStopped :=
      fun r =>
        hSound.stopped_at_marker hWritten hIds (hLeft r)
    constructor
    · exact (hStopped .openDb).2
    · exact (hStopped .dataManagerInit).2
    · intro r
      rcases hWritten with ⟨clients, hInserted, hClients, _⟩
      have hRecords :=
        Gateway.clientRecords_of_inserted hInserted hClients
      unfold Gateway.marker at hInserted
      rw [if_pos (hStopped r).1] at hInserted
      rw [(hStopped r).2, hRecords, List.length_map,
        hInserted, List.getElem?_append_right (Nat.le_refl _),
        Nat.sub_self]
      rfl

end Runs

/-
  One client that sends a record, after which both readers
  run to the end of their loops: they open their files, and
  read and handle the given number of records.
-/
def readToEnd
    (record : SensorData (Fin (2 ^ 64)))
    (reads : Nat) :
    List GatewayAction :=
  servedClient (.ofRecords [record]) 9 ++
    List.replicate (1 + 2 * reads) (.storage true) ++
    List.replicate (2 + 2 * reads) (.datamgr true)

/- A record of a sensor of the map, followed by the marker. -/
theorem noDataLoss_one_client :
    ∃ s : Gateway (Fin (2 ^ 64)) 5
        wholeDegrees.RUN_AVG_LENGTH,
      (gatewaySystem 5 1 wholeDegrees [(1, 15)]
            (fun _ => .endOfStream)).run
          (readToEnd ⟨15, 16, 1000⟩ 2) =
        some s ∧
      s.conn.handlers.map HandlerThread.session =
        [[⟨15, 16, 1000⟩]] ∧
      s.NoDataLoss := by
  have hEnd :
      ((gatewaySystem 5 1 wholeDegrees [(1, 15)]
            (fun _ => .endOfStream)).run
          (readToEnd ⟨15, 16, 1000⟩ 2)).map
        (fun s =>
          (s.conn.handlers.map HandlerThread.session,
            s.phaseOf .openDb,
            s.phaseOf .dataManagerInit)) =
      some ([[⟨15, 16, 1000⟩]], .left, .left) := by
    decide +kernel
  rw [Option.map_eq_some_iff] at hEnd
  rcases hEnd with ⟨s, hRun, hState⟩
  simp only [Prod.mk.injEq] at hState
  rcases hState with ⟨hSessions, hDb, hDm⟩
  have hLeft : ∀ r, s.phaseOf r = .left := by
    intro r
    cases r with
    | openDb => exact hDb
    | dataManagerInit => exact hDm
  have hIff :=
    gatewaySystem_noDataLoss_iff
      (guarded_of_ok (by decide)) hRun hLeft
  refine ⟨s, hRun, hSessions, hIff.mpr ?_⟩
  intro handler hHandler record hRecord
  have hSession :=
    List.mem_map_of_mem (f := HandlerThread.session) hHandler
  rw [hSessions, List.mem_singleton] at hSession
  rw [hSession, List.mem_singleton] at hRecord
  rw [hRecord]
  decide

/-
  A record with id zero: both readers leave their loops at
  it, and neither has handled it.
-/
theorem data_lost :
    ¬ ∀ (MAX_CONN : Nat)
        (sensorMap : List (BitVec 16 × BitVec 16))
        (data : Reader → SensorData (Fin (2 ^ 64)))
        (labels : List GatewayAction)
        (s : Gateway (Fin (2 ^ 64)) 5
          wholeDegrees.RUN_AVG_LENGTH),
          sensorMap ≠ [] →
          (gatewaySystem 5 MAX_CONN wholeDegrees sensorMap
              data).Guarded
            (AllocationSucceeds MAX_CONN) labels →
          (gatewaySystem 5 MAX_CONN wholeDegrees sensorMap
              data).run labels =
            some s →
          (∀ r, s.phaseOf r = .left) →
            s.NoDataLoss := by
  intro hAll
  have hEnd :
      ((gatewaySystem 5 1 wholeDegrees [(1, 15)]
            (fun _ => .endOfStream)).run
          (readToEnd ⟨0, 16, 1000⟩ 1)).map
        (fun s =>
          (s.clientRecords, s.storage.rows,
            s.phaseOf .openDb,
            s.phaseOf .dataManagerInit)) =
      some ([⟨0, 16, 1000⟩], [], .left, .left) := by
    decide
  rw [Option.map_eq_some_iff] at hEnd
  rcases hEnd with ⟨s, hRun, hState⟩
  simp only [Prod.mk.injEq] at hState
  rcases hState with ⟨hRecords, hRows, hDb, hDm⟩
  have hKept :=
    hAll 1 [(1, 15)] _ _ s (by decide)
      (guarded_of_ok (by decide)) hRun (by
        intro r
        cases r with
        | openDb => exact hDb
        | dataManagerInit => exact hDm)
  have hEq := hKept.rows_eq
  rw [hRows, hRecords] at hEq
  cases hEq

end SensorGateway
