import SensorGateway.ConnMgr.Lifetime
import SensorGateway.ConnMgr.WireFraming
import SensorGateway.Datamgr.Semantics
import SensorGateway.Gateway.Invariants

/-
  The marker is the last record of the buffer: the listener
  inserts it once, when the handlers have inserted all of
  their sessions, and nothing is inserted after it.

  Key definitions include:
    * `AllocationSucceeds`
    * `Gateway.Written`
    * `Gateway.EndOfStreamLast`

  Key theorems include:
    * `gatewaySystem_written`
    * `gatewayStep_of_returned`
    * `gatewaySystem_endOfStreamLast`
-/

------------------------------------------------------------
-- Who Wrote What
------------------------------------------------------------

namespace SensorGateway

open Foundations

variable {V : Type}
variable [SensorValue V]
variable {TIMEOUT : Int}
variable {MAX_CONN : Nat}
variable {L : Nat}

/- The step is not an insert without memory. -/
def AllocationSucceeds
    (MAX_CONN : Nat)
    (s : Gateway V TIMEOUT L) :
    GatewayAction → Prop
| .conn a =>
    ∀ conn effects w data,
      connStep MAX_CONN s.conn a = some (conn, effects) →
        ConnEffect.sbufferInsert w data false ∉ effects
| .storage ok =>
    s.storage.pc = .reinsertMarker → ok = true
| _ => True

/- The outcome of the call that a step makes. -/
def GatewayAction.ok : GatewayAction → Bool
| .conn a => a.ok
| .storage ok => ok
| .datamgr ok => ok
| .main ok => ok

/- A step whose call succeeds has the memory it needs. -/
theorem allocationSucceeds_of_ok
    (s : Gateway V TIMEOUT L)
    {a : GatewayAction}
    (hOk : a.ok = true) :
    AllocationSucceeds MAX_CONN s a := by
  cases a with
  | conn a =>
      intro conn effects w data hStep hMem
      have hConn : a.ok = true := hOk
      rcases connStep_inserts hStep with
        ⟨hNone, _⟩ | ⟨_, hEffects, _⟩ |
          ⟨i, handler, data', rest, _, _, hEffects, _⟩
      · exact hNone w data false hMem
      · rw [hEffects, hConn, List.mem_singleton] at hMem
        cases hMem
      · rw [hEffects, hConn, List.mem_singleton] at hMem
        cases hMem
  | storage ok => exact fun _ => hOk
  | datamgr ok => trivial
  | main ok => trivial

/- The insert of the listener, once it has returned. -/
def Gateway.marker
    (s : Gateway V TIMEOUT L) :
    List (Thread × SensorData V) :=
  if s.conn.listener = .returned then
    [(.connmgrListen, .endOfStream)]
  else
    []

/-
  The buffer holds what the handlers inserted, and behind it
  the marker, once the listener has returned.
-/
def Gateway.Written
    (s : Gateway V TIMEOUT L) : Prop :=
  ∃ clients,
    s.buf.inserted = clients ++ s.marker ∧
      (∀ e ∈ clients, ∃ i, e.1 = .clientHandler i) ∧
      ∀ i,
        ofTag (.clientHandler i) clients =
          s.conn.handlerRecords i

namespace Gateway.Written

variable {s t : Gateway V TIMEOUT L}

/- A step that inserts nothing. -/
theorem of_frame
    (h : s.Written)
    (hInserted : t.buf.inserted = s.buf.inserted)
    (hListener :
      t.conn.listener = .returned ↔
        s.conn.listener = .returned)
    (hRecords :
      ∀ i, t.conn.handlerRecords i = s.conn.handlerRecords i) :
    t.Written := by
  rcases h with ⟨clients, hEq, hClients, hTags⟩
  refine ⟨clients, ?_, hClients, ?_⟩
  · unfold marker at *
    rw [hInserted, hEq]
    simp only [hListener]
  · intro i
    rw [hRecords, hTags]

/- The insert of the marker. -/
theorem of_marker
    (h : s.Written)
    (hBefore : s.conn.listener ≠ .returned)
    (hAfter : t.conn.listener = .returned)
    (hInserted :
      t.buf.inserted =
        s.buf.inserted ++ [(.connmgrListen, .endOfStream)])
    (hRecords :
      ∀ i, t.conn.handlerRecords i = s.conn.handlerRecords i) :
    t.Written := by
  rcases h with ⟨clients, hEq, hClients, hTags⟩
  refine ⟨clients, ?_, hClients, ?_⟩
  · unfold marker at *
    rw [if_neg hBefore, List.append_nil] at hEq
    rw [if_pos hAfter, hInserted, hEq]
  · intro i
    rw [hRecords, hTags]

/- The insert of a handler. -/
theorem of_handler
    (h : s.Written)
    {i : Nat}
    {data : SensorData V}
    (hBefore : s.conn.listener ≠ .returned)
    (hAfter : t.conn.listener ≠ .returned)
    (hInserted :
      t.buf.inserted =
        s.buf.inserted ++ [(.clientHandler i, data)])
    (hRecords :
      ∀ j, t.conn.handlerRecords j =
        s.conn.handlerRecords j ++
          if i = j then [data] else []) :
    t.Written := by
  rcases h with ⟨clients, hEq, hClients, hTags⟩
  refine ⟨clients ++ [(.clientHandler i, data)], ?_, ?_, ?_⟩
  · unfold marker at *
    rw [if_neg hBefore, List.append_nil] at hEq
    rw [if_neg hAfter, hInserted, hEq, List.append_nil]
  · intro e hMem
    rcases List.mem_append.mp hMem with hOld | hNew
    · exact hClients e hOld
    · rw [List.mem_singleton.mp hNew]
      exact ⟨i, rfl⟩
  · intro j
    rw [ofTag_append, ofTag_singleton, hTags, hRecords]
    simp only [Thread.clientHandler.injEq]

/- A step of the connection manager. -/
theorem of_connStep
    (h : s.Written)
    (hSound : s.Sound MAX_CONN)
    {a : ConnAction}
    {conn : ConnMgr V TIMEOUT}
    {effects : List (ConnEffect V)}
    (hAlloc : AllocationSucceeds MAX_CONN s (.conn a))
    (hStep : connStep MAX_CONN s.conn a = some (conn, effects))
    (hEq :
      t =
        Gateway.perform a.thread { s with conn := conn }
          effects) :
    t.Written := by
  have hConn : t.conn = conn := by
    rw [hEq]
    exact (Gateway.perform_frame a.thread
      { s with conn := conn } effects).1
  have hInsert :
      ∀ w data,
        effects = [.sbufferInsert w data a.ok] →
          s.conn.listener ≠ .returned →
            t.buf.inserted =
              s.buf.inserted ++ [(w, data)] := by
    intro w data hEffects hListener
    have hOk : a.ok = true := by
      by_contra hNot
      rw [Bool.not_eq_true] at hNot
      apply hAlloc conn effects w data hStep
      rw [hEffects, hNot]
      exact List.mem_singleton.mpr rfl
    rcases hSound.perform_insert hListener a.thread conn w
        data a.ok with
      ⟨buf, _, hPerform, _, _, hInserted⟩
    have hBuf : t.buf = buf := by
      rw [hEq, hEffects]
      exact congrArg Gateway.buf hPerform
    rw [hBuf, hInserted, if_pos hOk]
  rcases connStep_inserts hStep with
    ⟨hNone, hRecords, hListener⟩ | ⟨hPc, hEffects, hNext⟩ |
      ⟨i, handler, data, rest, hHandler, hTodo, hEffects,
        hNext⟩
  · refine h.of_frame ?_ ?_ ?_
    · rw [hEq, Gateway.perform_of_noInsert _ _ hNone]
    · rw [hConn]
      exact hListener
    · rw [hConn]
      exact hRecords
  · have hNot : s.conn.listener ≠ .returned := by
      rw [hPc]
      intro hPc'
      cases hPc'
    refine h.of_marker hNot ?_ (hInsert _ _ hEffects hNot) ?_
    · rw [hConn, hNext]
      rfl
    · intro i
      rw [hConn, hNext]
      rfl
  · have hNot :=
      hSound.accounted.not_returned_of_insert hHandler hTodo
    refine h.of_handler hNot ?_ (hInsert _ _ hEffects hNot) ?_
    · rw [hConn, hNext]
      exact hNot
    · rw [hConn]
      apply ConnMgr.handlerRecords_of_advance hHandler hTodo
      rw [hNext]

end Gateway.Written

------------------------------------------------------------
-- The Marker
------------------------------------------------------------

/-
  The listener has inserted at most one marker, and a reader
  none. When the listener comes to its insert, no handler has
  a record left. Behind the insert, the buffer interleaves
  the sessions of the handlers, followed by the marker; and
  the buffer is freed behind the insert only. Up to then, its
  list holds just what was inserted.
-/
structure Gateway.EndOfStreamLast
    (s : Gateway V TIMEOUT L) : Prop where
  at_most_once :
    (ofTag .connmgrListen s.buf.inserted).length ≤ 1
  not_reinserted :
    ofTag .openDb s.buf.inserted = [] ∧
      ofTag .dataManagerInit s.buf.inserted = []
  after_handlers :
    s.conn.listener = .insertEndOfStream ∨
        ofTag .connmgrListen s.buf.inserted ≠ [] →
      ∀ h ∈ s.conn.handlers,
        HandlerEffect.inserts h.todo = []
  marker_last :
    ofTag .connmgrListen s.buf.inserted ≠ [] →
      ∃ clients,
        s.buf.inserted =
            clients ++ [(.connmgrListen, .endOfStream)] ∧
          (∀ e ∈ clients, ∃ i, e.1 = .clientHandler i) ∧
          ∀ i,
            ofTag (.clientHandler i) clients =
              s.conn.sessionOf i
  freed_after :
    s.main.freedBuffer = true →
      ofTag .connmgrListen s.buf.inserted ≠ []
  stored :
    s.main.freedBuffer = false →
      s.buf.buf.Holds s.buf.records

/- The inserts of a thread that is no handler. -/
theorem Gateway.Written.ofTag_eq
    {s : Gateway V TIMEOUT L}
    (h : s.Written)
    {w : Thread}
    (hNot : ∀ i, w ≠ .clientHandler i) :
    ofTag w s.buf.inserted = ofTag w s.marker := by
  rcases h with ⟨clients, hEq, hClients, _⟩
  have hNone : ofTag w clients = [] := by
    apply ofTag_eq_nil
    intro e hMem hTag
    rcases hClients e hMem with ⟨i, hI⟩
    exact hNot i (hTag ▸ hI)
  rw [hEq, ofTag_append, hNone, List.nil_append]

/- The listener has inserted its marker if it returned. -/
theorem Gateway.Written.ofTag_connmgrListen
    {s : Gateway V TIMEOUT L}
    (h : s.Written) :
    ofTag .connmgrListen s.buf.inserted =
      if s.conn.listener = .returned then
        [.endOfStream]
      else
        [] := by
  rw [h.ofTag_eq (by
    intro i hEq
    cases hEq), marker]
  split
  · rfl
  · rfl

theorem Gateway.Written.endOfStreamLast
    {s : Gateway V TIMEOUT L}
    (h : s.Written)
    (hSound : s.Sound MAX_CONN) :
    s.EndOfStreamLast := by
  have hInserted := h.ofTag_connmgrListen
  have hReturned :
      ofTag .connmgrListen s.buf.inserted ≠ [] →
        s.conn.listener = .returned := by
    intro hSome
    by_contra hNot
    rw [if_neg hNot] at hInserted
    exact hSome hInserted
  constructor
  · rw [hInserted]
    split
    · exact Nat.le_refl 1
    · exact Nat.zero_le 1
  · constructor
    · rw [h.ofTag_eq (by
        intro i hEq
        cases hEq), marker]
      split
      · rfl
      · rfl
    · rw [h.ofTag_eq (by
        intro i hEq
        cases hEq), marker]
      split
      · rfl
      · rfl
  · intro hPlace
    apply hSound.accounted.inserts_todo
    rcases hPlace with hPc | hSome
    · rw [hPc]
      rfl
    · rw [hReturned hSome]
      rfl
  · intro hSome
    have hPc := hReturned hSome
    rcases h with ⟨clients, hEq, hClients, hTags⟩
    refine ⟨clients, ?_, hClients, ?_⟩
    · rw [hEq, marker, if_pos hPc]
    · intro i
      rw [hTags]
      apply hSound.accounted.handlerRecords_eq_sessionOf
      rw [hPc]
      rfl
  · intro hFreed
    have hPc :=
      hSound.conn_joined
        (MainPc.joined_of_freedBuffer hFreed).1
    rw [hInserted, if_pos hPc]
    intro hEq
    cases hEq
  · intro hLives
    rcases hSound.buffer_refines hLives with ⟨l, hRefines⟩
    exact hRefines.holds

------------------------------------------------------------
-- Runs with Memory
------------------------------------------------------------

variable [Preorder V]
variable [DecidableLT V]
variable {cfg : DatamgrConfig V}
variable {sensorMap : List (BitVec 16 × BitVec 16)}
variable {data : Reader → SensorData V}

/- A run of calls that succeed is within a guard on these. -/
theorem guarded_of_all_ok
    {G :
      Gateway V TIMEOUT cfg.RUN_AVG_LENGTH →
        GatewayAction → Prop}
    (hGuard : ∀ s a, a.ok = true → G s a)
    {labels : List GatewayAction}
    (hOk : labels.all GatewayAction.ok = true) :
    (gatewaySystem TIMEOUT MAX_CONN cfg sensorMap
        data).Guarded
      G labels := by
  apply System.guarded_of_forall
  intro a hMem s
  exact hGuard s a (List.all_eq_true.mp hOk a hMem)

/- So it has the memory it needs. -/
theorem guarded_of_ok
    {labels : List GatewayAction}
    (hOk : labels.all GatewayAction.ok = true) :
    (gatewaySystem TIMEOUT MAX_CONN cfg sensorMap
        data).Guarded
      (AllocationSucceeds MAX_CONN) labels :=
  guarded_of_all_ok (fun s _ => allocationSucceeds_of_ok s)
    hOk

/- Only the connection manager inserts. -/
theorem gatewayStep_inserted
    {s t : Gateway V TIMEOUT cfg.RUN_AVG_LENGTH}
    (hSound : s.Sound MAX_CONN)
    {a : GatewayAction}
    (hStep : gatewayStep MAX_CONN cfg sensorMap s a = some t) :
    (∃ a' conn effects,
      a = .conn a' ∧
        connStep MAX_CONN s.conn a' = some (conn, effects) ∧
        t =
          Gateway.perform a'.thread { s with conn := conn }
            effects) ∨
    (t.conn = s.conn ∧
      t.buf.inserted = s.buf.inserted) := by
  cases gatewayStep_cases hStep with
  | conn a conn effects hConn hEq =>
      exact Or.inl ⟨a, conn, effects, rfl, hConn, hEq⟩
  | storage ok hStorage =>
      rcases (storageStep_cases hStorage).1 with
        ⟨hConn, _, _, hRuns⟩
      rcases hSound.main_of_storage hRuns with
        ⟨_, _, l, hRefines⟩
      have hMove :=
        storageStep_move hRefines hSound.storage_counted.1
          hStorage
      exact Or.inr ⟨hConn, (hMove.refines hRefines).1⟩
  | datamgr ok hDatamgr =>
      rcases dataManagerStep_frame hDatamgr with
        ⟨hConn, _, _, hRuns⟩
      rcases hSound.main_of_datamgr hRuns with
        ⟨_, _, l, hRefines⟩
      have hMove := dataManagerStep_move hRefines hDatamgr
      exact Or.inr ⟨hConn, (hMove.refines hRefines).1⟩
  | main ok hMain =>
      rcases mainStep_buffer hMain with ⟨hConn, hInserted, _⟩
      exact Or.inr ⟨hConn, hInserted⟩

/- In every run with memory, the buffer is so written. -/
theorem gatewaySystem_written
    {labels : List GatewayAction}
    {s : Gateway V TIMEOUT cfg.RUN_AVG_LENGTH}
    (hAlloc :
      (gatewaySystem TIMEOUT MAX_CONN cfg sensorMap
          data).Guarded
        (AllocationSucceeds MAX_CONN) labels)
    (hRun :
      (gatewaySystem TIMEOUT MAX_CONN cfg sensorMap
          data).run labels =
        some s) :
    s.Written := by
  refine System.invariant_of_guarded_step _ _
    Gateway.Written ?_ ?_ hAlloc hRun
  · exact ⟨[], rfl, by simp, fun _ => rfl⟩
  · intro before s a t hBefore h hAlloc hStep
    have hSound := gatewaySystem_sound hBefore
    rcases gatewayStep_inserted hSound hStep with
      ⟨a', conn, effects, rfl, hConn, hEq⟩ |
        ⟨hConn, hInserted⟩
    · exact h.of_connStep hSound hAlloc hConn hEq
    · refine h.of_frame hInserted ?_ ?_
      · rw [hConn]
      · intro i
        rw [hConn]

/- Once the listener has returned, nothing is inserted. -/
theorem gatewayStep_of_returned
    {s t : Gateway V TIMEOUT cfg.RUN_AVG_LENGTH}
    (hSound : s.Sound MAX_CONN)
    (hReturned : s.conn.listener = .returned)
    {a : GatewayAction}
    (hStep : gatewayStep MAX_CONN cfg sensorMap s a = some t) :
    t.conn.listener = .returned ∧
      t.buf.inserted = s.buf.inserted := by
  rcases gatewayStep_inserted hSound hStep with
    ⟨a', conn, effects, rfl, hConn, rfl⟩ |
      ⟨hConn, hInserted⟩
  · rcases (hSound.connStep_buffer hConn).2.1 hReturned with
      ⟨hBuf, hListener⟩
    rw [hBuf, (Gateway.perform_frame _ _ _).1]
    exact ⟨hListener, rfl⟩
  · rw [hConn]
    exact ⟨hReturned, hInserted⟩

/-
  In every run with memory, the marker is the last record:
  so it is in every state reached, and however the run goes
  on from a state with a marker, nothing is inserted, and the
  list of the buffer stays as it is until it is freed.
-/
theorem gatewaySystem_endOfStreamLast
    {labels : List GatewayAction}
    {s : Gateway V TIMEOUT cfg.RUN_AVG_LENGTH}
    (hAlloc :
      (gatewaySystem TIMEOUT MAX_CONN cfg sensorMap
          data).Guarded
        (AllocationSucceeds MAX_CONN) labels)
    (hRun :
      (gatewaySystem TIMEOUT MAX_CONN cfg sensorMap
          data).run labels =
        some s) :
    s.EndOfStreamLast ∧
      (ofTag .connmgrListen s.buf.inserted ≠ [] →
        ∀ more t,
          (gatewaySystem TIMEOUT MAX_CONN cfg sensorMap
              data).runFrom s more =
            some t →
          t.buf.inserted = s.buf.inserted ∧
            (t.main.freedBuffer = false →
              t.buf.buf.Holds s.buf.records)) := by
  have hWritten := gatewaySystem_written hAlloc hRun
  have hSound := gatewaySystem_sound hRun
  refine ⟨hWritten.endOfStreamLast hSound, ?_⟩
  intro hSome more t hMore
  have hReturned : s.conn.listener = .returned := by
    by_contra hNot
    have hInserted := hWritten.ofTag_connmgrListen
    rw [if_neg hNot] at hInserted
    exact hSome hInserted
  have hKeep :=
    System.invariant_from _
      (fun u : Gateway V TIMEOUT cfg.RUN_AVG_LENGTH =>
        u.Sound MAX_CONN ∧
          u.conn.listener = .returned ∧
          u.buf.inserted = s.buf.inserted)
      (by
        intro u a v hU hStep
        rcases hU with ⟨hSoundU, hReturnedU, hInsertedU⟩
        rcases gatewayStep_of_returned hSoundU hReturnedU
            hStep with
          ⟨hReturnedV, hInsertedV⟩
        exact ⟨hSoundU.of_gatewayStep hStep, hReturnedV,
          hInsertedV.trans hInsertedU⟩)
      ⟨hSound, hReturned, rfl⟩ hMore
  refine ⟨hKeep.2.2, ?_⟩
  intro hLives
  rcases hKeep.1.buffer_refines hLives with ⟨l, hRefines⟩
  have hRecords : t.buf.records = s.buf.records :=
    congrArg (List.map Prod.snd) hKeep.2.2
  rw [← hRecords]
  exact hRefines.holds

/-
  The connection of a client that sends records, each field
  received at once and in time, and then closes.
-/
def HandlerInput.ofRecords
    (records : List (SensorData V)) :
    HandlerInput where
  recvs :=
    segments (wholeSizes records.length)
      (sensorNodeStream records)
  clock := fun _ => 0
  data := zeroBytes

/-
  The listener and its handler serve one client, from the
  start of the threads to the insert of the marker; the
  handler takes the given number of steps.
-/
def servedClient
    (input : HandlerInput)
    (steps : Nat) :
    List GatewayAction :=
  List.replicate 4 (.main true) ++
    List.replicate 16 (.conn (.listener true input)) ++
    List.replicate steps (.conn (.handler 0 true)) ++
    List.replicate 9 (.conn (.listener true input)) ++
    List.replicate 2 (.conn (.excess true)) ++
    List.replicate 3 (.conn (.listener true input))

def sampleRecord : SensorData (Fin (2 ^ 64)) :=
  ⟨15, SensorValue.ofBits 16, 1000⟩

/- A client that sends a record before it closes. -/
theorem endOfStreamLast_one_client :
    ∃ s : Gateway (Fin (2 ^ 64)) 5
        wholeDegrees.RUN_AVG_LENGTH,
      (gatewaySystem 5 1 wholeDegrees [(1, 15)]
            (fun _ => .endOfStream)).run
          (servedClient (.ofRecords [sampleRecord]) 9) =
        some s ∧
      s.conn.listener = .returned ∧
      s.EndOfStreamLast ∧
      s.buf.buf.Holds [sampleRecord, .endOfStream] ∧
      ∀ more t,
        (gatewaySystem 5 1 wholeDegrees [(1, 15)]
              (fun _ => .endOfStream)).runFrom s more =
            some t →
          t.main.freedBuffer = false →
            t.buf.buf.Holds
              [sampleRecord, .endOfStream] := by
  have hEnd :
      ((gatewaySystem 5 1 wholeDegrees [(1, 15)]
            (fun _ => .endOfStream)).run
          (servedClient (.ofRecords [sampleRecord]) 9)).map
        (fun s =>
          (s.conn.listener, s.main.freedBuffer,
            s.buf.inserted)) =
      some
        (.returned, false,
          [(.clientHandler 0, sampleRecord),
            (.connmgrListen, .endOfStream)]) := by
    decide +kernel
  rw [Option.map_eq_some_iff] at hEnd
  rcases hEnd with ⟨s, hRun, hState⟩
  simp only [Prod.mk.injEq] at hState
  rcases hState with ⟨hListener, hLives, hInserted⟩
  rcases gatewaySystem_endOfStreamLast
      (guarded_of_ok (by decide)) hRun with
    ⟨hLast, hMore⟩
  have hRecords :
      s.buf.records = [sampleRecord, .endOfStream] :=
    congrArg (List.map Prod.snd) hInserted
  have hMarker :
      ofTag .connmgrListen s.buf.inserted ≠ [] := by
    rw [hInserted]
    decide
  have hStored := hLast.stored hLives
  rw [hRecords] at hStored hMore
  exact ⟨s, hRun, hListener, hLast, hStored,
    fun more t hRunMore => (hMore hMarker more t hRunMore).2⟩

end SensorGateway
