import SensorGateway.Datamgr.Memory
import SensorGateway.Gateway.Independence
import SensorGateway.Sbuffer.Queue

/-
  The memory of the gateway over whole runs. The buffer has
  one node for each record that was inserted, until `main`
  frees it, and the data manager has what its map takes, from
  the loader to its end. In the end nothing is left, and
  nothing is freed twice.

  Key definitions include:
    * `Sbuffer.Stores`
    * `Gateway.Stored`

  Key theorems include:
    * `SharedBuffer.insert_of_stores`
    * `Gateway.Stored.of_gatewayStep`
    * `gatewaySystem_stored`
    * `gatewaySystem_memory`
-/

------------------------------------------------------------
-- The Buffer
------------------------------------------------------------

namespace SensorGateway

open Foundations

section Buffer

variable {ω ι V : Type}

/-
  The buffer has a node for each of the records, in order,
  and no other memory.
-/
def Sbuffer.Stores
    (b : Sbuffer V)
    (records : List (SensorData V)) : Prop :=
  ∃ nodes,
    b.Represents nodes ∧
      b.heap.Owns (nodes.map Prod.fst) ∧
      nodes.map Prod.snd = records

theorem Sbuffer.fresh_stores :
    (Sbuffer.fresh : Sbuffer V).Stores [] :=
  ⟨[], Sbuffer.fresh_represents, Heap.Owns.empty, rfl⟩

/- An insert goes through, with memory or without. -/
theorem SharedBuffer.insert_of_stores
    {s : SharedBuffer ω ι V}
    (h : s.buf.Stores s.records)
    (w : ω)
    (data : SensorData V)
    (mallocOk : Bool) :
    ∃ ret t,
      s.insert w data mallocOk = .ok (ret, t) ∧
        t.buf.Stores t.records := by
  rcases h with ⟨nodes, hRep, hOwns, hRecords⟩
  cases mallocOk with
  | false =>
      refine ⟨.failure, s, ?_, nodes, hRep, hOwns, hRecords⟩
      simp [insert, sbufferInsert_of_malloc_failure hRep]
  | true =>
      rcases sbufferInsert_of_represents hRep data with
        ⟨b, hInsert, hRep', hOwns'⟩
      refine
        ⟨.success,
          { s with
              buf := b
              inserted := s.inserted ++ [(w, data)] },
          ?_, _, hRep', ?_, ?_⟩
      · simp [insert, hInsert]
      · rw [List.map_append]
        exact hOwns' _ hOwns
      · rw [List.map_append, hRecords]
        simp [records]

/- A read leaves the list and what was inserted. -/
theorem SharedBuffer.read_keeps
    [DecidableEq ι]
    {s t : SharedBuffer ω ι V}
    {i : ι}
    {ret : SbufferRet}
    (hRead : s.read i = .ok (ret, t)) :
    t.buf = s.buf ∧ t.inserted = s.inserted := by
  unfold read at hRead
  rcases Fault.bind_eq_ok.mp hRead with ⟨_, _, hReturn⟩
  cases hReturn
  exact ⟨rfl, rfl⟩

/- `sbuffer_free` leaves nothing. -/
theorem sbufferFree_of_stores
    {b : Sbuffer V}
    {records : List (SensorData V)}
    (h : b.Stores records) :
    ∃ b' : Sbuffer V,
      sbufferFree b = .ok b' ∧ b'.buffer = .freed ∧
        b'.heap.Owns [] := by
  rcases h with ⟨nodes, hRep, hOwns, _⟩
  rcases sbufferFree_of_represents hRep hOwns with
    ⟨b', hFree, hBuffer, _, hOwns'⟩
  exact ⟨b', hFree, hBuffer, hOwns'⟩

end Buffer

------------------------------------------------------------
-- The Invariant
------------------------------------------------------------

section Invariant

variable {V : Type}
variable [SensorValue V]
variable {TIMEOUT : Int}
variable {MAX_CONN : Nat}
variable {cfg : DatamgrConfig V}
variable {sensorMap : List (BitVec 16 × BitVec 16)}

/-
  What the gateway has allocated: a node of the buffer for
  each record, until `main` frees it, and the list of the data
  manager, with its entries, from the loader to its end.
-/
structure Gateway.Stored
    (cfg : DatamgrConfig V)
    (sensorMap : List (BitVec 16 × BitVec 16))
    (s : Gateway V TIMEOUT cfg.RUN_AVG_LENGTH) : Prop where
  buffer_stores :
    s.main.freedBuffer = false →
      s.buf.buf.Stores s.buf.records
  buffer_freed :
    s.main.freedBuffer = true →
      s.buf.buf.buffer = .freed ∧ s.buf.buf.heap.Owns []
  list_unloaded :
    s.datamgr.pc.loads = true →
      s.datamgr.memory = DataManager.start.memory
  list_allocated :
    s.datamgr.pc.holdsList = true →
      s.datamgr.memory.Allocated sensorMap.length
        (List.range sensorMap.length)
  list_settled :
    s.datamgr.pc = .returned →
      s.datamgr.memory.Settled sensorMap.length
        (List.range sensorMap.length)

namespace Gateway.Stored

variable {s t : Gateway V TIMEOUT cfg.RUN_AVG_LENGTH}

theorem start
    (data : Reader → SensorData V) :
    (Gateway.start data :
        Gateway V TIMEOUT cfg.RUN_AVG_LENGTH).Stored
      cfg sensorMap := by
  constructor
  · exact fun _ => Sbuffer.fresh_stores
  · intro hFreed
    cases hFreed
  · exact fun _ => rfl
  · intro hHolds
    cases hHolds
  · intro hReturned
    cases hReturned

/- A step that leaves the data manager where it is. -/
theorem of_buffer
    (h : s.Stored cfg sensorMap)
    (hDatamgr : t.datamgr = s.datamgr)
    (hMain : t.main.freedBuffer = s.main.freedBuffer)
    (hStores :
      s.main.freedBuffer = false →
        t.buf.buf.Stores t.buf.records)
    (hFreed :
      s.main.freedBuffer = true → t.buf.buf = s.buf.buf) :
    t.Stored cfg sensorMap := by
  constructor
  · rw [hMain]
    exact hStores
  · rw [hMain]
    intro hEnd
    rw [hFreed hEnd]
    exact h.buffer_freed hEnd
  · rw [hDatamgr]
    exact h.list_unloaded
  · rw [hDatamgr]
    exact h.list_allocated
  · rw [hDatamgr]
    exact h.list_settled

/- A step that leaves the buffer as it is. -/
theorem of_list
    (h : s.Stored cfg sensorMap)
    (hBuf : t.buf.buf = s.buf.buf)
    (hRecords : t.buf.records = s.buf.records)
    (hMain : t.main.freedBuffer = s.main.freedBuffer)
    (hUnloaded :
      t.datamgr.pc.loads = true →
        t.datamgr.memory = DataManager.start.memory)
    (hAllocated :
      t.datamgr.pc.holdsList = true →
        t.datamgr.memory.Allocated sensorMap.length
          (List.range sensorMap.length))
    (hSettled :
      t.datamgr.pc = .returned →
        t.datamgr.memory.Settled sensorMap.length
          (List.range sensorMap.length)) :
    t.Stored cfg sensorMap := by
  refine ⟨?_, ?_, hUnloaded, hAllocated, hSettled⟩
  · rw [hMain, hBuf, hRecords]
    exact h.buffer_stores
  · rw [hMain, hBuf]
    exact h.buffer_freed

theorem of_connStep
    (h : s.Stored cfg sensorMap)
    (hSound : s.Sound MAX_CONN)
    {a : ConnAction}
    {conn : ConnMgr V TIMEOUT}
    {effects : List (ConnEffect V)}
    (hStep : connStep MAX_CONN s.conn a = some (conn, effects))
    (hEq :
      t =
        Gateway.perform a.thread { s with conn := conn }
          effects) :
    t.Stored cfg sensorMap := by
  rcases Gateway.perform_frame a.thread
      { s with conn := conn } effects with
    ⟨_, _, hDatamgr, hMain⟩
  rw [← hEq] at hDatamgr hMain
  have hInsert :
      ∀ w data,
        effects = [.sbufferInsert w data a.ok] →
          s.conn.listener ≠ .returned →
            t.Stored cfg sensorMap := by
    intro w data hEffects hListener
    have hNotFreed : s.main.freedBuffer = false := by
      by_contra hNot
      rw [Bool.not_eq_false] at hNot
      exact hListener
        (hSound.conn_joined
          (MainPc.joined_of_freedBuffer hNot).1)
    rcases SharedBuffer.insert_of_stores
        (h.buffer_stores hNotFreed) w data a.ok with
      ⟨ret, buf, hInsert, hStores⟩
    have hBuf : t.buf = buf := by
      rw [hEq, hEffects]
      simp only [Gateway.perform, Gateway.insert, hInsert]
    refine h.of_buffer hDatamgr (by rw [hMain]) ?_ ?_
    · rw [hBuf]
      exact fun _ => hStores
    · rw [hNotFreed]
      intro hFreed
      cases hFreed
  rcases connStep_inserts hStep with
    ⟨hNone, _, _⟩ | ⟨hPc, hEffects, _⟩ |
      ⟨i, handler, data, rest, hHandler, hTodo, hEffects, _⟩
  · have hBuf :=
      Gateway.perform_of_noInsert a.thread
        { s with conn := conn } hNone
    rw [← hEq] at hBuf
    refine h.of_buffer hDatamgr (by rw [hMain]) ?_ ?_
    · rw [hBuf]
      exact h.buffer_stores
    · rw [hBuf]
      exact fun _ => rfl
  · apply hInsert _ _ hEffects
    rw [hPc]
    intro hReturned
    cases hReturned
  · exact hInsert _ _ hEffects
      (hSound.accounted.not_returned_of_insert hHandler hTodo)

/- A step that moves a reader on in its loop. -/
theorem buffer_of_move
    {L : Nat}
    {s t : Gateway V TIMEOUT L}
    {r : Reader}
    (hMove : ReaderMove s t r) :
    t.buf.buf = s.buf.buf ∧ t.buf.records = s.buf.records := by
  have hSame :
      t.buf = s.buf →
        t.buf.buf = s.buf.buf ∧
          t.buf.records = s.buf.records := by
    intro hBuf
    rw [hBuf]
    exact ⟨rfl, rfl⟩
  cases hMove with
  | quiet hBuf _ _ => exact hSame hBuf
  | handled _ _ hBuf _ _ => exact hSame hBuf
  | stopped _ _ hBuf _ _ => exact hSame hBuf
  | got _ hRead _ _ =>
      rcases SharedBuffer.read_keeps hRead with
        ⟨hBuf, hInserted⟩
      refine ⟨hBuf, ?_⟩
      unfold SharedBuffer.records
      rw [hInserted]

theorem of_storageStep
    (h : s.Stored cfg sensorMap)
    (hSound : s.Sound MAX_CONN)
    {ok : Bool}
    (hStep : storageStep s ok = some t) :
    t.Stored cfg sensorMap := by
  rcases (storageStep_cases hStep).1 with
    ⟨_, hDatamgr, hMain, hRuns⟩
  rcases hSound.main_of_storage hRuns with
    ⟨_, _, l, hRefines⟩
  rcases buffer_of_move
      (storageStep_move hRefines hSound.storage_counted.1
        hStep) with
    ⟨hBuf, hRecords⟩
  refine h.of_list hBuf hRecords (by rw [hMain]) ?_ ?_ ?_
  · rw [hDatamgr]
    exact h.list_unloaded
  · rw [hDatamgr]
    exact h.list_allocated
  · rw [hDatamgr]
    exact h.list_settled

/- `main` frees the buffer, or it is freed already. -/
theorem mainStep_frees
    {L : Nat}
    {s t : Gateway V TIMEOUT L}
    {ok : Bool}
    (hStep : mainStep s ok = some t)
    (hFreed : t.main.freedBuffer = true) :
    (s.main.freedBuffer = true ∧ t.buf.buf = s.buf.buf) ∨
      (s.main.freedBuffer = false ∧
        sbufferFree s.buf.buf = .ok t.buf.buf) := by
  unfold mainStep at hStep
  cases hPc : s.main
  all_goals
    simp only [hPc] at hStep
    grind

theorem of_mainStep
    (h : s.Stored cfg sensorMap)
    (hSound : s.Sound MAX_CONN)
    {ok : Bool}
    (hStep : mainStep s ok = some t) :
    t.Stored cfg sensorMap := by
  rcases mainStep_buffer hStep with
    ⟨_, hInserted, _, hAlive⟩
  rcases mainStep_datamgr hStep with ⟨hMemory, _, hPc⟩
  have hRecords : t.buf.records = s.buf.records := by
    unfold SharedBuffer.records
    rw [hInserted]
  constructor
  · intro hNotFreed
    rcases hAlive hNotFreed with ⟨hBefore, hBuf⟩
    rw [hBuf]
    exact h.buffer_stores hBefore
  · intro hFreed
    rcases mainStep_frees hStep hFreed with
      ⟨hBefore, hBuf⟩ | ⟨hBefore, hFree⟩
    · rw [hBuf]
      exact h.buffer_freed hBefore
    · rcases sbufferFree_of_stores
          (h.buffer_stores hBefore) with
        ⟨b, hFree', hEnd⟩
      rw [hFree] at hFree'
      injection hFree' with hEq
      rw [hEq]
      exact hEnd
  · rw [hMemory]
    intro hLoads
    rcases hPc with ⟨hSame, _⟩ | ⟨hStarts, _⟩
    · rw [hSame] at hLoads
      exact h.list_unloaded hLoads
    · apply h.list_unloaded
      rw [hSound.datamgr_unstarted hStarts]
      rfl
  · rw [hMemory]
    intro hHolds
    rcases hPc with ⟨hSame, _⟩ | ⟨_, _, _, hOpen⟩
    · rw [hSame] at hHolds
      exact h.list_allocated hHolds
    · rw [hOpen] at hHolds
      cases hHolds
  · rw [hMemory]
    intro hReturned
    rcases hPc with ⟨hSame, _⟩ | ⟨_, _, _, hOpen⟩
    · rw [hSame] at hReturned
      exact h.list_settled hReturned
    · rw [hOpen] at hReturned
      cases hReturned

section Managing

variable [Preorder V]
variable [DecidableLT V]

/- What the data manager leaves when it frees its list. -/
theorem dataManagerStep_frees
    {ok : Bool}
    (hStep : dataManagerStep cfg sensorMap s ok = some t)
    (hPc : s.datamgr.pc = .freeList)
    (hReturned : t.datamgr.pc = .returned) :
    datamgrFree s.datamgr.memory = .ok t.datamgr.memory := by
  simp only [dataManagerStep, hPc] at hStep
  split at hStep
  · cases hStep
    rw [Gateway.endWith, hPc] at hReturned
    cases hReturned
  · rename_i memory hFree
    cases hStep
    exact hFree

theorem of_dataManagerStep
    (h : s.Stored cfg sensorMap)
    (hSound : s.Sound MAX_CONN)
    {ok : Bool}
    (hStep : dataManagerStep cfg sensorMap s ok = some t) :
    t.Stored cfg sensorMap := by
  rcases dataManagerStep_frame hStep with
    ⟨_, _, hMain, hRuns⟩
  rcases hSound.main_of_datamgr hRuns with
    ⟨_, _, l, hRefines⟩
  rcases buffer_of_move
      (dataManagerStep_move hRefines hStep) with
    ⟨hBuf, hRecords⟩
  -- a thread that has its list and goes on with it
  have hHeld :
      t.datamgr.pc.holdsList = true →
        t.datamgr.memory.Allocated sensorMap.length
            (List.range sensorMap.length) →
          t.Stored cfg sensorMap := by
    intro hHolds hAllocated
    refine h.of_list hBuf hRecords (by rw [hMain]) ?_
      (fun _ => hAllocated) ?_
    · intro hLoads
      cases hPc : t.datamgr.pc
      all_goals
        rw [hPc] at hLoads hHolds
        simp [DataManagerPc.loads, DataManagerPc.holdsList]
          at hLoads hHolds
    · intro hReturned
      rw [hReturned] at hHolds
      cases hHolds
  cases dataManagerStep_cases hStep with
  | ended f hEq =>
      rw [hEq]
      exact ⟨h.buffer_stores, h.buffer_freed,
        h.list_unloaded, h.list_allocated, h.list_settled⟩
  | opened hPc hEq =>
      have hBefore := h.list_unloaded (by rw [hPc]; rfl)
      refine h.of_list hBuf hRecords (by rw [hMain]) ?_ ?_ ?_
      · rw [hEq]
        exact fun _ => hBefore
      · rw [hEq]
        intro hHolds
        cases hHolds
      · rw [hEq]
        intro hReturned
        cases hReturned
  | loaded memory hPc hLoad hEq =>
      apply hHeld
      · rw [hEq]
        rfl
      · rw [hEq]
        exact loadMap_allocated cfg hLoad
  | read hPc hEq =>
      have hBefore := h.list_allocated (by rw [hPc]; rfl)
      rcases readBuffer_of_refines hRefines .dataManagerInit
          (fun s => s.datamgrAt .readBuffer)
          (fun s => s.datamgrAt .handleRecord) with
        hRead | ⟨buf, _, hNext⟩
      · rw [hEq, hRead] at hHeld ⊢
        exact hHeld rfl hBefore
      · rw [hEq, hNext] at hHeld ⊢
        exact hHeld rfl hBefore
  | handled memory msgs hPc hId hHandle hEq =>
      have hBefore := h.list_allocated (by rw [hPc]; rfl)
      apply hHeld
      · rw [hEq]
        rfl
      · rw [hEq]
        exact handleRecord_allocated cfg hBefore hHandle
  | stopped hPc hId hEq =>
      have hBefore := h.list_allocated (by rw [hPc]; rfl)
      rw [hEq] at hHeld ⊢
      exact hHeld rfl hBefore
  | printed hPc hEq =>
      have hBefore := h.list_allocated (by rw [hPc]; rfl)
      rw [hEq] at hHeld ⊢
      exact hHeld rfl hBefore
  | freed memory hPc hEq =>
      have hHolds : s.datamgr.pc.holdsList = true := by
        rw [hPc]
        rfl
      have hFree :=
        dataManagerStep_frees hStep hPc (by rw [hEq])
      refine h.of_list hBuf hRecords (by rw [hMain]) ?_ ?_ ?_
      · rw [hEq]
        intro hLoads
        cases hLoads
      · rw [hEq]
        intro hHolds
        cases hHolds
      · exact fun _ =>
          datamgrFree_settled (h.list_allocated hHolds) hFree

/- Every step of the gateway keeps count of the memory. -/
theorem of_gatewayStep
    (h : s.Stored cfg sensorMap)
    (hSound : s.Sound MAX_CONN)
    {a : GatewayAction}
    (hStep : gatewayStep MAX_CONN cfg sensorMap s a = some t) :
    t.Stored cfg sensorMap := by
  cases gatewayStep_cases hStep with
  | conn a conn effects hConn hEq =>
      exact h.of_connStep hSound hConn hEq
  | storage ok hStorage => exact h.of_storageStep hSound hStorage
  | datamgr ok hDatamgr =>
      exact h.of_dataManagerStep hSound hDatamgr
  | main ok hMain => exact h.of_mainStep hSound hMain

end Managing

end Gateway.Stored

end Invariant

------------------------------------------------------------
-- Runs of the Gateway
------------------------------------------------------------

section Runs

variable {V : Type}
variable [SensorValue V]
variable [Preorder V]
variable [DecidableLT V]
variable {TIMEOUT : Int}
variable {MAX_CONN : Nat}
variable {cfg : DatamgrConfig V}
variable {sensorMap : List (BitVec 16 × BitVec 16)}
variable {data : Reader → SensorData V}
variable {labels : List GatewayAction}
variable {s : Gateway V TIMEOUT cfg.RUN_AVG_LENGTH}

/- In every run, that is all that is allocated. -/
theorem gatewaySystem_stored
    (hRun :
      (gatewaySystem TIMEOUT MAX_CONN cfg sensorMap
          data).run labels =
        some s) :
    s.Stored cfg sensorMap := by
  refine System.run_induction _
    (fun _ s => s.Stored cfg sensorMap)
    (Gateway.Stored.start data) ?_ hRun
  intro before s a t hBefore h hStep
  exact h.of_gatewayStep (gatewaySystem_sound hBefore) hStep

/-
  The memory of a run in which the loader has memory for the
  map. The buffer has a node for each record that was
  inserted, and the list of the data manager has one with an
  entry for each line of its map. When `main` has returned,
  the buffer is freed, and the data manager has freed each
  node and each entry once.
-/
theorem gatewaySystem_memory
    (hRun :
      (gatewaySystem TIMEOUT MAX_CONN cfg sensorMap
          data).run labels =
        some s) :
    (s.main.freedBuffer = false →
      s.buf.buf.Stores s.buf.records) ∧
    (s.datamgr.pc.holdsList = true →
      s.datamgr.memory.Allocated sensorMap.length
        (List.range sensorMap.length)) ∧
    (s.main = .returned →
      s.buf.buf.buffer = .freed ∧ s.buf.buf.heap.Owns [] ∧
        s.datamgr.memory.Settled sensorMap.length
          (List.range sensorMap.length)) := by
  have h := gatewaySystem_stored hRun
  have hSound := gatewaySystem_sound hRun
  refine ⟨h.buffer_stores, h.list_allocated, ?_⟩
  intro hMain
  rcases h.buffer_freed (by rw [hMain]; rfl) with
    ⟨hBuffer, hOwns⟩
  exact ⟨hBuffer, hOwns, h.list_settled
    (hSound.datamgr_joined (by rw [hMain]; rfl))⟩

end Runs

/-
  The gateway serves a client that sends one record, both
  readers come to the marker, and `main` joins its threads.
-/
def servedToTheEnd : List GatewayAction :=
  servedClient
      (.ofRecords (V := Fin (2 ^ 64))
        [⟨15, SensorValue.ofBits 60, 1000⟩]) 9 ++
    List.replicate 9 (.storage true) ++
    List.replicate 8 (.datamgr true) ++
    List.replicate 6 (.main true)

theorem memory_one_client :
    ∃ s : Gateway (Fin (2 ^ 64)) 5
        wholeDegrees.RUN_AVG_LENGTH,
      (gatewaySystem 5 1 wholeDegrees [(1, 15)]
            (fun _ => .endOfStream)).run servedToTheEnd =
        some s ∧
      s.main = .returned ∧ s.buf.records.length = 2 ∧
      s.buf.buf.heap.Owns [] ∧
      s.datamgr.memory.Settled 1 [0] := by
  have hEnd :
      ((gatewaySystem (V := Fin (2 ^ 64)) 5 1 wholeDegrees
            [(1, 15)] (fun _ => .endOfStream)).run
          servedToTheEnd).map
        (fun s =>
          (s.main, s.buf.records.length)) =
      some (.returned, 2) := by
    decide +kernel
  rw [Option.map_eq_some_iff] at hEnd
  rcases hEnd with ⟨s, hRun, hState⟩
  simp only [Prod.mk.injEq] at hState
  rcases hState with ⟨hMain, hLength⟩
  rcases (gatewaySystem_memory hRun).2.2 hMain with
    ⟨_, hOwns, hSettled⟩
  exact ⟨s, hRun, hMain, hLength, hOwns, hSettled⟩

end SensorGateway
