import SensorGateway.Gateway.Moves

/-
  What holds in every reachable state of the gateway,
  whatever fails: the connection manager is in a state of its
  own system, `main` is behind the threads that it joins, the
  buffer lives until `main` frees it, and each reader has
  handled what it got, up to a first marker.

  Key definitions include:
    * `Gateway.Ordered`
    * `Gateway.Sound`

  Key theorems include:
    * `Gateway.Ordered.of_move`
    * `Gateway.Sound.handled_eq_takeWhile`
    * `gatewaySystem_sound`
-/

------------------------------------------------------------
-- Readers
------------------------------------------------------------

namespace SensorGateway

open Foundations

section Readers

variable {V : Type}
variable [SensorValue V]
variable {TIMEOUT : Int}
variable {L : Nat}

/-
  A reader has handled what it got, except for the record in
  its hands; it handles no record with id zero, and it leaves
  its loop with one.
-/
structure Gateway.Ordered
    (s : Gateway V TIMEOUT L)
    (r : Reader) : Prop where
  ids : ∀ record ∈ s.handledBy r, record.id ≠ 0
  waiting :
    s.phaseOf r = .waiting →
      s.obtainedBy r = s.handledBy r
  busy :
    s.phaseOf r ≠ .waiting →
      s.obtainedBy r = s.handledBy r ++ [s.dataOf r]
  left : s.phaseOf r = .left → (s.dataOf r).id = 0

namespace Gateway.Ordered

variable {s t : Gateway V TIMEOUT L}
variable {r : Reader}

/- A reader that has got nothing yet. -/
theorem of_start
    (hPhase : s.phaseOf r = .waiting)
    (hObtained : s.obtainedBy r = [])
    (hHandled : s.handledBy r = []) :
    s.Ordered r := by
  constructor
  · rw [hHandled]
    intro record hMem
    cases hMem
  · intro _
    rw [hObtained, hHandled]
  · intro hNot
    exact absurd hPhase hNot
  · intro hLeft
    rw [hPhase] at hLeft
    cases hLeft

/- What a reader got that has left its loop. -/
theorem obtained_of_left
    (h : s.Ordered r)
    (hLeft : s.phaseOf r = .left) :
    s.obtainedBy r = s.handledBy r ++ [s.dataOf r] := by
  apply h.busy
  rw [hLeft]
  intro hEq
  cases hEq

/- A step that does not concern the reader. -/
theorem of_frame
    (h : s.Ordered r)
    (hReaders : t.buf.readers r = s.buf.readers r)
    (hPhase : t.phaseOf r = s.phaseOf r)
    (hHandled : t.handledBy r = s.handledBy r) :
    t.Ordered r := by
  have hObtained : t.obtainedBy r = s.obtainedBy r := by
    unfold obtainedBy
    rw [hReaders]
  have hData : t.dataOf r = s.dataOf r := by
    unfold dataOf
    rw [hReaders]
  constructor
  · rw [hHandled]
    exact h.ids
  · rw [hPhase, hObtained, hHandled]
    exact h.waiting
  · rw [hPhase, hObtained, hHandled, hData]
    exact h.busy
  · rw [hPhase, hData]
    exact h.left

/- A move of the reader itself. -/
theorem of_move
    {l : BroadcastLog Reader (SensorData V)}
    (h : s.Ordered r)
    (hRefines : s.buf.Refines l)
    (hMove : ReaderMove s t r) :
    t.Ordered r := by
  cases hMove with
  | quiet hBuf hPhase hHandled =>
      exact h.of_frame (by rw [hBuf]) hPhase hHandled
  | got hWaiting hRead hPhase hHandled =>
      have hNew :
          t.obtainedBy r =
            s.obtainedBy r ++ [t.dataOf r] :=
        (SharedBuffer.read_success_of_refines hRefines
          hRead).2.2.2
      constructor
      · rw [hHandled]
        exact h.ids
      · intro hPhase'
        rw [hPhase] at hPhase'
        cases hPhase'
      · intro _
        rw [hNew, h.waiting hWaiting, hHandled]
      · intro hPhase'
        rw [hPhase] at hPhase'
        cases hPhase'
  | handled hHolding hId hBuf hPhase hHandled =>
      have hObtained : t.obtainedBy r = s.obtainedBy r := by
        unfold obtainedBy
        rw [hBuf]
      have hBusy :=
        h.busy (by
          rw [hHolding]
          intro hEq
          cases hEq)
      constructor
      · rw [hHandled]
        intro record hMem
        rcases List.mem_append.mp hMem with hOld | hNew
        · exact h.ids record hOld
        · rw [List.mem_singleton.mp hNew]
          exact hId
      · intro _
        rw [hObtained, hBusy, hHandled]
      · intro hNot
        exact absurd hPhase hNot
      · intro hPhase'
        rw [hPhase] at hPhase'
        cases hPhase'
  | stopped hHolding hId hBuf hPhase hHandled =>
      have hObtained : t.obtainedBy r = s.obtainedBy r := by
        unfold obtainedBy
        rw [hBuf]
      have hData : t.dataOf r = s.dataOf r := by
        unfold dataOf
        rw [hBuf]
      have hBusy :=
        h.busy (by
          rw [hHolding]
          intro hEq
          cases hEq)
      constructor
      · rw [hHandled]
        exact h.ids
      · intro hPhase'
        rw [hPhase] at hPhase'
        cases hPhase'
      · intro _
        rw [hObtained, hBusy, hHandled, hData]
      · intro _
        rw [hData]
        exact hId

end Gateway.Ordered

/- A move of one reader leaves the others where they are. -/
theorem ReaderMove.readers_of_ne
    {s t : Gateway V TIMEOUT L}
    {r r' : Reader}
    {l : BroadcastLog Reader (SensorData V)}
    (hRefines : s.buf.Refines l)
    (hMove : ReaderMove s t r)
    (hNe : r' ≠ r) :
    t.buf.readers r' = s.buf.readers r' := by
  cases hMove with
  | quiet hBuf hPhase hHandled => rw [hBuf]
  | handled hHolding hId hBuf hPhase hHandled => rw [hBuf]
  | stopped hHolding hId hBuf hPhase hHandled => rw [hBuf]
  | got hWaiting hRead hPhase hHandled =>
      exact
        (SharedBuffer.read_success_of_refines hRefines
          hRead).2.2.1 r' hNe

/- A move of a reader keeps the buffer and its inserts. -/
theorem ReaderMove.refines
    {s t : Gateway V TIMEOUT L}
    {r : Reader}
    {l : BroadcastLog Reader (SensorData V)}
    (hRefines : s.buf.Refines l)
    (hMove : ReaderMove s t r) :
    t.buf.inserted = s.buf.inserted ∧
      ∃ l', t.buf.Refines l' := by
  cases hMove with
  | quiet hBuf hPhase hHandled =>
      rw [hBuf]
      exact ⟨rfl, l, hRefines⟩
  | handled hHolding hId hBuf hPhase hHandled =>
      rw [hBuf]
      exact ⟨rfl, l, hRefines⟩
  | stopped hHolding hId hBuf hPhase hHandled =>
      rw [hBuf]
      exact ⟨rfl, l, hRefines⟩
  | got hWaiting hRead hPhase hHandled =>
      rcases SharedBuffer.read_success_of_refines hRefines
          hRead with
        ⟨hRefines', hInserted, _⟩
      exact ⟨hInserted, hRefines'⟩

end Readers

------------------------------------------------------------
-- Soundness
------------------------------------------------------------

section Soundness

variable {V : Type}
variable [SensorValue V]
variable {TIMEOUT : Int}
variable {MAX_CONN : Nat}
variable {L : Nat}

/- What holds in every reachable state. -/
structure Gateway.Sound
    (MAX_CONN : Nat)
    (s : Gateway V TIMEOUT L) : Prop where
  conn_run :
    ∃ labels,
      (connSystem V TIMEOUT MAX_CONN).run labels =
        some s.conn
  conn_joined :
    s.main.joinedConnmgr = true →
      s.conn.listener = .returned
  storage_unstarted :
    s.main.startsSensorDb = true →
      s.storage.pc = .notStarted
  storage_joined :
    s.main.joinedSensorDb = true →
      s.storage.pc = .returned
  storage_counted :
    s.storage.pc ≠ .reinsertMarker ∧
      (s.storage.pc.phase ≠ .left →
        s.storage.eosCount = 0)
  datamgr_unstarted :
    s.main.startsDatamgr = true →
      s.datamgr.pc = .notStarted
  datamgr_joined :
    s.main.joinedDatamgr = true →
      s.datamgr.pc = .returned
  buffer_refines :
    s.main.freedBuffer = false → ∃ l, s.buf.Refines l
  obtained_prefix :
    ∀ r, s.obtainedBy r <+: s.buf.records
  ordered : ∀ r, s.Ordered r

namespace MainPc

/- The buffer is freed after all the joins. -/
theorem joined_of_freedBuffer
    {pc : MainPc}
    (hFreed : pc.freedBuffer = true) :
    pc.joinedConnmgr = true ∧ pc.joinedSensorDb = true ∧
      pc.joinedDatamgr = true := by
  cases pc with
  | endLogProcess => exact ⟨rfl, rfl, rfl⟩
  | returned => exact ⟨rfl, rfl, rfl⟩
  | _ => cases hFreed

end MainPc

namespace Gateway.Sound

variable {s t : Gateway V TIMEOUT L}

/- The counters of the connection manager are right. -/
theorem accounted
    (h : s.Sound MAX_CONN) :
    s.conn.Accounted MAX_CONN := by
  rcases h.conn_run with ⟨labels, hRun⟩
  exact connSystem_accounted hRun

/- While the listener runs, the buffer lives. -/
theorem refines_of_listener
    (h : s.Sound MAX_CONN)
    (hListener : s.conn.listener ≠ .returned) :
    ∃ l, s.buf.Refines l := by
  apply h.buffer_refines
  by_contra hNot
  rw [Bool.not_eq_false] at hNot
  exact hListener
    (h.conn_joined (MainPc.joined_of_freedBuffer hNot).1)

/- While the storage manager runs, `main` waits for it. -/
theorem main_of_storage
    (h : s.Sound MAX_CONN)
    (hRuns :
      s.storage.pc ≠ .notStarted ∧
        s.storage.pc ≠ .returned) :
    s.main.startsSensorDb = false ∧
      s.main.joinedSensorDb = false ∧
      ∃ l, s.buf.Refines l := by
  have hNotJoined : ¬ s.main.joinedSensorDb = true := by
    intro hJoined
    exact hRuns.2 (h.storage_joined hJoined)
  refine ⟨?_, by simpa using hNotJoined, ?_⟩
  · by_contra hNot
    rw [Bool.not_eq_false] at hNot
    exact hRuns.1 (h.storage_unstarted hNot)
  · apply h.buffer_refines
    by_contra hNot
    rw [Bool.not_eq_false] at hNot
    exact hNotJoined (MainPc.joined_of_freedBuffer hNot).2.1

/- While the data manager runs, `main` waits for it. -/
theorem main_of_datamgr
    (h : s.Sound MAX_CONN)
    (hRuns :
      s.datamgr.pc ≠ .notStarted ∧
        s.datamgr.pc ≠ .returned) :
    s.main.startsDatamgr = false ∧
      s.main.joinedDatamgr = false ∧
      ∃ l, s.buf.Refines l := by
  have hNotJoined : ¬ s.main.joinedDatamgr = true := by
    intro hJoined
    exact hRuns.2 (h.datamgr_joined hJoined)
  refine ⟨?_, by simpa using hNotJoined, ?_⟩
  · by_contra hNot
    rw [Bool.not_eq_false] at hNot
    exact hRuns.1 (h.datamgr_unstarted hNot)
  · apply h.buffer_refines
    by_contra hNot
    rw [Bool.not_eq_false] at hNot
    exact hNotJoined (MainPc.joined_of_freedBuffer hNot).2.2

/- What a reader got is a prefix of a represented buffer. -/
theorem prefix_of_refines
    {l : BroadcastLog Reader (SensorData V)}
    (hRefines : s.buf.Refines l)
    (r : Reader) :
    s.obtainedBy r <+: s.buf.records := by
  unfold obtainedBy
  rw [hRefines.obtained_eq r, hRefines.records_eq]
  exact l.obtained_prefix r

/-
  A reader that has left its loop has handled all records
  before the first one with id zero.
-/
theorem handled_eq_takeWhile
    (h : s.Sound MAX_CONN)
    {r : Reader}
    (hLeft : s.phaseOf r = .left) :
    s.handledBy r =
      s.buf.records.takeWhile
        (fun record => record.id ≠ 0) := by
  have hBusy := (h.ordered r).obtained_of_left hLeft
  have hId := (h.ordered r).left hLeft
  rcases h.obtained_prefix r with ⟨rest, hRecords⟩
  rw [← hRecords, hBusy, List.append_assoc,
    List.takeWhile_append_of_pos]
  · simp [hId]
  · intro record hMem
    simpa using (h.ordered r).ids record hMem

theorem start
    (data : Reader → SensorData V) :
    (Gateway.start data : Gateway V TIMEOUT L).Sound
      MAX_CONN where
  conn_run := ⟨[], rfl⟩
  conn_joined := by
    intro hJoined
    cases hJoined
  storage_unstarted := fun _ => rfl
  storage_joined := by
    intro hJoined
    cases hJoined
  storage_counted := by
    refine ⟨?_, fun _ => rfl⟩
    intro hPc
    cases hPc
  datamgr_unstarted := fun _ => rfl
  datamgr_joined := by
    intro hJoined
    cases hJoined
  buffer_refines := fun _ =>
    ⟨_, SharedBuffer.start_refines data⟩
  obtained_prefix := fun _ => List.prefix_refl []
  ordered := by
    intro r
    cases r with
    | openDb => exact Gateway.Ordered.of_start rfl rfl rfl
    | dataManagerInit =>
        exact Gateway.Ordered.of_start rfl rfl rfl

/- The storage manager counts its first marker to one. -/
theorem storage_counted_of_step
    (h : s.Sound MAX_CONN)
    {ok : Bool}
    (hStep : storageStep s ok = some t)
    (hMove : ReaderMove s t .openDb) :
    t.storage.pc ≠ .reinsertMarker ∧
      (t.storage.pc.phase ≠ .left →
        t.storage.eosCount = 0) := by
  rcases h.storage_counted with ⟨hReinsert, hCount⟩
  rcases (storageStep_cases hStep).2 with
    hPc | ⟨_, hPhase, hPc, _, hEos⟩ | ⟨hPc, rfl⟩ |
      ⟨hPc, _, _, hStorage⟩ | ⟨hPc, _, _, hStorage⟩
  · exact absurd hPc hReinsert
  · rw [hPhase, hEos]
    exact ⟨hPc, hCount⟩
  · have hZero : s.storage.eosCount = 0 := by
      apply hCount
      rw [hPc]
      intro hEq
      cases hEq
    unfold Gateway.readBuffer
    split
    · refine ⟨hReinsert, fun _ => hZero⟩
    · split
      · refine ⟨?_, fun _ => hZero⟩
        intro hEq
        cases hEq
      · refine ⟨?_, fun _ => hZero⟩
        intro hEq
        cases hEq
  · rw [hStorage]
    refine ⟨?_, ?_⟩
    · intro hEq
      cases hEq
    · intro _
      apply hCount
      rw [hPc]
      intro hEq
      cases hEq
  · have hZero : s.storage.eosCount = 0 := by
      apply hCount
      rw [hPc]
      intro hEq
      cases hEq
    rw [hStorage, hZero]
    refine ⟨?_, ?_⟩
    · intro hEq
      cases hEq
    · intro hNot
      exact absurd rfl hNot

theorem of_storageStep
    (h : s.Sound MAX_CONN)
    {ok : Bool}
    (hStep : storageStep s ok = some t) :
    t.Sound MAX_CONN := by
  rcases (storageStep_cases hStep).1 with
    ⟨hConn, hDatamgr, hMain, hRuns⟩
  rcases h.main_of_storage hRuns with
    ⟨hNotStarts, hNotJoined, l, hRefines⟩
  have hMove :=
    storageStep_move hRefines h.storage_counted.1 hStep
  rcases hMove.refines hRefines with
    ⟨hInserted, l', hRefines'⟩
  constructor
  · rw [hConn]
    exact h.conn_run
  · rw [hConn, hMain]
    exact h.conn_joined
  · rw [hMain, hNotStarts]
    intro hStarts
    cases hStarts
  · rw [hMain, hNotJoined]
    intro hJoined
    cases hJoined
  · exact h.storage_counted_of_step hStep hMove
  · rw [hMain, hDatamgr]
    exact h.datamgr_unstarted
  · rw [hMain, hDatamgr]
    exact h.datamgr_joined
  · exact fun _ => ⟨l', hRefines'⟩
  · exact prefix_of_refines hRefines'
  · intro r
    cases r with
    | openDb => exact (h.ordered .openDb).of_move hRefines hMove
    | dataManagerInit =>
        refine (h.ordered .dataManagerInit).of_frame ?_ ?_ ?_
        · apply hMove.readers_of_ne hRefines
          intro hEq
          cases hEq
        · simp only [phaseOf, hDatamgr]
        · simp only [handledBy, hDatamgr]

theorem of_mainStep
    (h : s.Sound MAX_CONN)
    {ok : Bool}
    (hStep : mainStep s ok = some t) :
    t.Sound MAX_CONN := by
  rcases mainStep_buffer hStep with
    ⟨hConn, hInserted, hReaders, hFreed⟩
  rcases mainStep_storage hStep with ⟨hRows, hEos, hDb⟩
  rcases mainStep_datamgr hStep with
    ⟨hMemory, hHandled, hDm⟩
  rcases mainStep_joins hStep with
    ⟨hJoinConn, hJoinDb, hJoinDm⟩
  constructor
  · rw [hConn]
    exact h.conn_run
  · intro hJoined
    rw [hConn]
    rcases hJoinConn hJoined with hBefore | hNow
    · exact h.conn_joined hBefore
    · exact hNow
  · intro hStarts
    rcases hDb with ⟨hPc, hBefore⟩ | ⟨_, hNot, _⟩
    · rw [hPc]
      exact h.storage_unstarted (hBefore hStarts)
    · rw [hNot] at hStarts
      cases hStarts
  · intro hJoined
    rcases hDb with ⟨hPc, _⟩ | ⟨_, _, hNot, _⟩
    · rw [hPc]
      rcases hJoinDb hJoined with hBefore | hNow
      · exact h.storage_joined hBefore
      · exact hNow
    · rw [hNot] at hJoined
      cases hJoined
  · rcases h.storage_counted with ⟨hReinsert, hCount⟩
    rw [hEos]
    rcases hDb with ⟨hPc, _⟩ | ⟨hStarts, _, _, hPc⟩
    · rw [hPc]
      exact ⟨hReinsert, hCount⟩
    · rw [hPc]
      refine ⟨?_, ?_⟩
      · intro hEq
        cases hEq
      · intro _
        apply hCount
        rw [h.storage_unstarted hStarts]
        intro hEq
        cases hEq
  · intro hStarts
    rcases hDm with ⟨hPc, hBefore⟩ | ⟨_, hNot, _⟩
    · rw [hPc]
      exact h.datamgr_unstarted (hBefore hStarts)
    · rw [hNot] at hStarts
      cases hStarts
  · intro hJoined
    rcases hDm with ⟨hPc, _⟩ | ⟨_, _, hNot, _⟩
    · rw [hPc]
      rcases hJoinDm hJoined with hBefore | hNow
      · exact h.datamgr_joined hBefore
      · exact hNow
    · rw [hNot] at hJoined
      cases hJoined
  · intro hLives
    rcases hFreed hLives with ⟨hBefore, hBuf⟩
    rw [hBuf]
    exact h.buffer_refines hBefore
  · intro r
    unfold obtainedBy SharedBuffer.records
    rw [hReaders, hInserted]
    exact h.obtained_prefix r
  · intro r
    cases r with
    | openDb =>
        refine (h.ordered .openDb).of_frame
          (by rw [hReaders]) ?_ hRows
        simp only [phaseOf]
        rcases hDb with ⟨hPc, _⟩ | ⟨hStarts, _, _, hPc⟩
        · rw [hPc]
        · rw [hPc, h.storage_unstarted hStarts]
          rfl
    | dataManagerInit =>
        refine (h.ordered .dataManagerInit).of_frame
          (by rw [hReaders]) ?_ hHandled
        simp only [phaseOf]
        rcases hDm with ⟨hPc, _⟩ | ⟨hStarts, _, _, hPc⟩
        · rw [hPc]
        · rw [hPc, h.datamgr_unstarted hStarts]
          rfl

/- An insert while the listener runs goes through. -/
theorem perform_insert
    (h : s.Sound MAX_CONN)
    (hListener : s.conn.listener ≠ .returned)
    (th : Thread)
    (conn : ConnMgr V TIMEOUT)
    (w : Thread)
    (data : SensorData V)
    (mallocOk : Bool) :
    ∃ buf l,
      Gateway.perform th { s with conn := conn }
          [.sbufferInsert w data mallocOk] =
        { s with conn := conn, buf := buf } ∧
      buf.Refines l ∧
      buf.readers = s.buf.readers ∧
      buf.inserted =
        if mallocOk then
          s.buf.inserted ++ [(w, data)]
        else
          s.buf.inserted := by
  rcases h.refines_of_listener hListener with ⟨l, hRefines⟩
  exact Gateway.insert_of_refines
    (s := { s with conn := conn }) hRefines w data mallocOk

/-
  A step of the connection manager leaves the buffer as it
  is, or it inserts a record while the listener runs.
-/
theorem connStep_buffer
    (h : s.Sound MAX_CONN)
    {a : ConnAction}
    {conn : ConnMgr V TIMEOUT}
    {effects : List (ConnEffect V)}
    (hStep : connStep MAX_CONN s.conn a = some (conn, effects)) :
    let t := Gateway.perform a.thread { s with conn := conn }
      effects
    t.buf.readers = s.buf.readers ∧
      (s.conn.listener = .returned →
        t.buf = s.buf ∧ conn.listener = .returned) ∧
      (s.conn.listener ≠ .returned →
        ∃ l, t.buf.Refines l) ∧
      s.buf.records <+: t.buf.records := by
  have hInsert :
      ∀ w data ok,
        effects = [.sbufferInsert w data ok] →
          s.conn.listener ≠ .returned →
            ∃ buf l,
              Gateway.perform a.thread { s with conn := conn }
                  effects =
                { s with conn := conn, buf := buf } ∧
              buf.Refines l ∧
              buf.readers = s.buf.readers ∧
              s.buf.records <+: buf.records := by
    intro w data ok hEffects hListener
    rcases h.perform_insert hListener a.thread conn w data
        ok with
      ⟨buf, l', hEq, hRefines', hReaders, hInserted⟩
    refine ⟨buf, l', ?_, hRefines', hReaders, ?_⟩
    · rw [hEffects]
      exact hEq
    · unfold SharedBuffer.records
      rw [hInserted]
      cases ok with
      | false => exact List.prefix_refl _
      | true =>
          rw [if_pos rfl, List.map_append]
          exact List.prefix_append _ _
  rcases connStep_inserts hStep with
    ⟨hNone, _, hListener⟩ | ⟨hPc, hEffects, _⟩ |
      ⟨i, handler, data, rest, hHandler, hTodo, hEffects, _⟩
  · have hBuf :=
      Gateway.perform_of_noInsert a.thread
        { s with conn := conn } hNone
    intro t
    have hSame : t.buf = s.buf := hBuf
    rw [hSame]
    refine ⟨rfl, ?_, h.refines_of_listener,
      List.prefix_refl _⟩
    intro hReturned
    exact ⟨rfl, hListener.mpr hReturned⟩
  · have hNot : s.conn.listener ≠ .returned := by
      rw [hPc]
      intro hEq
      cases hEq
    rcases hInsert _ _ _ hEffects hNot with
      ⟨buf, l, hEq, hRefines, hReaders, hRecords⟩
    simp only [hEq]
    exact ⟨hReaders, fun hReturned => absurd hReturned hNot,
      fun _ => ⟨l, hRefines⟩, hRecords⟩
  · have hNot :=
      h.accounted.not_returned_of_insert hHandler hTodo
    rcases hInsert _ _ _ hEffects hNot with
      ⟨buf, l, hEq, hRefines, hReaders, hRecords⟩
    simp only [hEq]
    exact ⟨hReaders, fun hReturned => absurd hReturned hNot,
      fun _ => ⟨l, hRefines⟩, hRecords⟩

/-
  What a step of the connection manager adds to the buffer:
  nothing, or a record for which there is memory, either the
  marker or the next record of a handler.
-/
theorem connStep_inserted
    (h : s.Sound MAX_CONN)
    {a : ConnAction}
    {conn : ConnMgr V TIMEOUT}
    {effects : List (ConnEffect V)}
    (hStep : connStep MAX_CONN s.conn a = some (conn, effects)) :
    let t := Gateway.perform a.thread { s with conn := conn }
      effects
    (NoInsert effects ∧ t.buf.inserted = s.buf.inserted) ∨
      ∃ w data,
        effects = [.sbufferInsert w data a.ok] ∧
          t.buf.inserted =
            (if a.ok then s.buf.inserted ++ [(w, data)]
              else s.buf.inserted) ∧
          (w = .connmgrListen ∧ data = .endOfStream ∨
            ∃ i handler rest,
              w = .clientHandler i ∧
                s.conn.handlers[i]? = some handler ∧
                handler.todo = .sbufferInsert data :: rest) := by
  have hInsert :
      ∀ w data,
        effects = [.sbufferInsert w data a.ok] →
          s.conn.listener ≠ .returned →
            (Gateway.perform a.thread { s with conn := conn }
                effects).buf.inserted =
              if a.ok then s.buf.inserted ++ [(w, data)]
              else s.buf.inserted := by
    intro w data hEffects hListener
    rcases h.perform_insert hListener a.thread conn w data
        a.ok with
      ⟨buf, _, hEq, _, _, hInserted⟩
    rw [hEffects, hEq]
    exact hInserted
  rcases connStep_inserts hStep with
    ⟨hNone, _⟩ | ⟨hPc, hEffects, _⟩ |
      ⟨i, handler, data, rest, hHandler, hTodo, hEffects, _⟩
  · left
    refine ⟨hNone, ?_⟩
    rw [Gateway.perform_of_noInsert _ _ hNone]
  · right
    have hNot : s.conn.listener ≠ .returned := by
      rw [hPc]
      intro hEq
      cases hEq
    exact ⟨_, _, hEffects, hInsert _ _ hEffects hNot,
      Or.inl ⟨rfl, rfl⟩⟩
  · right
    have hNot :=
      h.accounted.not_returned_of_insert hHandler hTodo
    exact ⟨_, _, hEffects, hInsert _ _ hEffects hNot,
      Or.inr ⟨i, handler, rest, rfl, hHandler, hTodo⟩⟩

theorem of_connStep
    (h : s.Sound MAX_CONN)
    {a : ConnAction}
    {conn : ConnMgr V TIMEOUT}
    {effects : List (ConnEffect V)}
    (hStep : connStep MAX_CONN s.conn a = some (conn, effects))
    (hEq :
      t =
        Gateway.perform a.thread { s with conn := conn }
          effects) :
    t.Sound MAX_CONN := by
  rcases h.connStep_buffer hStep with
    ⟨hReaders, hReturned, hRuns, hRecords⟩
  rcases Gateway.perform_frame a.thread
      { s with conn := conn } effects with
    ⟨hConn, hStorage, hDatamgr, hMain⟩
  rw [← hEq] at *
  simp only at hConn hStorage hDatamgr hMain
  constructor
  · rcases h.conn_run with ⟨labels, hRun⟩
    refine ⟨labels ++ [a], ?_⟩
    rw [hConn]
    exact (System.run_snoc _ labels a conn).mpr
      ⟨s.conn, hRun, connSystem_step.mpr ⟨effects, hStep⟩⟩
  · intro hJoined
    rw [hMain] at hJoined
    rw [hConn]
    exact (hReturned (h.conn_joined hJoined)).2
  · rw [hMain, hStorage]
    exact h.storage_unstarted
  · rw [hMain, hStorage]
    exact h.storage_joined
  · rw [hStorage]
    exact h.storage_counted
  · rw [hMain, hDatamgr]
    exact h.datamgr_unstarted
  · rw [hMain, hDatamgr]
    exact h.datamgr_joined
  · intro hLives
    rw [hMain] at hLives
    by_cases hListener : s.conn.listener = .returned
    · rw [(hReturned hListener).1]
      exact h.buffer_refines hLives
    · exact hRuns hListener
  · intro r
    unfold obtainedBy
    rw [hReaders]
    exact (h.obtained_prefix r).trans hRecords
  · intro r
    refine (h.ordered r).of_frame (by rw [hReaders]) ?_ ?_
    · cases r with
      | openDb => simp only [phaseOf, hStorage]
      | dataManagerInit => simp only [phaseOf, hDatamgr]
    · cases r with
      | openDb => simp only [handledBy, hStorage]
      | dataManagerInit => simp only [handledBy, hDatamgr]

variable [Preorder V]
variable [DecidableLT V]

theorem of_dataManagerStep
    {cfg : DatamgrConfig V}
    {sensorMap : List (BitVec 16 × BitVec 16)}
    {s t : Gateway V TIMEOUT cfg.RUN_AVG_LENGTH}
    (h : s.Sound MAX_CONN)
    {ok : Bool}
    (hStep : dataManagerStep cfg sensorMap s ok = some t) :
    t.Sound MAX_CONN := by
  rcases dataManagerStep_frame hStep with
    ⟨hConn, hStorage, hMain, hRuns⟩
  rcases h.main_of_datamgr hRuns with
    ⟨hNotStarts, hNotJoined, l, hRefines⟩
  have hMove := dataManagerStep_move hRefines hStep
  rcases hMove.refines hRefines with
    ⟨hInserted, l', hRefines'⟩
  constructor
  · rw [hConn]
    exact h.conn_run
  · rw [hConn, hMain]
    exact h.conn_joined
  · rw [hMain, hStorage]
    exact h.storage_unstarted
  · rw [hMain, hStorage]
    exact h.storage_joined
  · rw [hStorage]
    exact h.storage_counted
  · rw [hMain, hNotStarts]
    intro hStarts
    cases hStarts
  · rw [hMain, hNotJoined]
    intro hJoined
    cases hJoined
  · exact fun _ => ⟨l', hRefines'⟩
  · exact prefix_of_refines hRefines'
  · intro r
    cases r with
    | dataManagerInit =>
        exact (h.ordered .dataManagerInit).of_move hRefines
          hMove
    | openDb =>
        refine (h.ordered .openDb).of_frame ?_ ?_ ?_
        · apply hMove.readers_of_ne hRefines
          intro hEq
          cases hEq
        · simp only [phaseOf, hStorage]
        · simp only [handledBy, hStorage]

/- Every step of the gateway keeps what is sound. -/
theorem of_gatewayStep
    {cfg : DatamgrConfig V}
    {sensorMap : List (BitVec 16 × BitVec 16)}
    {s t : Gateway V TIMEOUT cfg.RUN_AVG_LENGTH}
    (h : s.Sound MAX_CONN)
    {a : GatewayAction}
    (hStep : gatewayStep MAX_CONN cfg sensorMap s a = some t) :
    t.Sound MAX_CONN := by
  cases gatewayStep_cases hStep with
  | conn a conn effects hConn hEq =>
      exact h.of_connStep hConn hEq
  | storage ok hStorage => exact h.of_storageStep hStorage
  | datamgr ok hDatamgr =>
      exact h.of_dataManagerStep hDatamgr
  | main ok hMain => exact h.of_mainStep hMain

end Gateway.Sound

variable [Preorder V]
variable [DecidableLT V]

/- Every reachable state is sound, whatever fails. -/
theorem gatewaySystem_sound
    {cfg : DatamgrConfig V}
    {sensorMap : List (BitVec 16 × BitVec 16)}
    {data : Reader → SensorData V}
    {labels : List GatewayAction}
    {s : Gateway V TIMEOUT cfg.RUN_AVG_LENGTH}
    (hRun :
      (gatewaySystem TIMEOUT MAX_CONN cfg sensorMap
          data).run labels =
        some s) :
    s.Sound MAX_CONN :=
  System.invariant_of_step _ (Gateway.Sound MAX_CONN)
    (Gateway.Sound.start data)
    (fun _ _ _ h hStep => h.of_gatewayStep hStep) hRun

end Soundness

end SensorGateway
