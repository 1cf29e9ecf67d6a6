import SensorGateway.ConnMgr.Sessions
import SensorGateway.Foundations.Interleaving
import SensorGateway.Gateway.System

/-
  What one step of the gateway does, as the other threads see
  it: how a reader moves on in its loop, what the connection
  manager inserts, and what `main` waits for.

  Key definitions include:
    * `ReaderMove`
    * `DataManagerMove`
    * `GatewayMove`

  Key theorems include:
    * `storageStep_cases`
    * `storageStep_move`
    * `mainStep_buffer`
    * `mainStep_joins`
    * `dataManagerStep_cases`
    * `dataManagerStep_move`
    * `Gateway.perform_of_noInsert`
    * `Gateway.insert_of_refines`
    * `gatewayStep_cases`
-/

------------------------------------------------------------
-- Moves of a Reader
------------------------------------------------------------

namespace SensorGateway

open Foundations

section Moves

variable {V : Type}
variable [SensorValue V]
variable {TIMEOUT : Int}
variable {L : Nat}

/- How a step moves the reader `r` in its loop. -/
inductive ReaderMove
    (s t : Gateway V TIMEOUT L)
    (r : Reader) : Prop where
  | quiet
      (hBuf : t.buf = s.buf)
      (hPhase : t.phaseOf r = s.phaseOf r)
      (hHandled : t.handledBy r = s.handledBy r)
  | got
      (hWaiting : s.phaseOf r = .waiting)
      (hRead : s.buf.read r = .ok (.success, t.buf))
      (hPhase : t.phaseOf r = .holding)
      (hHandled : t.handledBy r = s.handledBy r)
  | handled
      (hHolding : s.phaseOf r = .holding)
      (hId : (s.dataOf r).id ≠ 0)
      (hBuf : t.buf = s.buf)
      (hPhase : t.phaseOf r = .waiting)
      (hHandled :
        t.handledBy r = s.handledBy r ++ [s.dataOf r])
  | stopped
      (hHolding : s.phaseOf r = .holding)
      (hId : (s.dataOf r).id = 0)
      (hBuf : t.buf = s.buf)
      (hPhase : t.phaseOf r = .left)
      (hHandled : t.handledBy r = s.handledBy r)

/- A read of a represented buffer: one of two goes on. -/
theorem readBuffer_of_refines
    {s : Gateway V TIMEOUT L}
    {l : BroadcastLog Reader (SensorData V)}
    (hRefines : s.buf.Refines l)
    (r : Reader)
    (again next :
      Gateway V TIMEOUT L → Gateway V TIMEOUT L) :
    s.readBuffer r again next = again s ∨
      ∃ buf,
        s.buf.read r = .ok (.success, buf) ∧
          s.readBuffer r again next =
            next { s with buf := buf } := by
  unfold Gateway.readBuffer
  rcases SharedBuffer.read_goes_through hRefines r with
    ⟨_, hRead⟩ | ⟨_, buf, _, hRead, _⟩
  · left
    rw [hRead]
    rfl
  · right
    refine ⟨buf, hRead, ?_⟩
    rw [hRead]
    rfl

/-
  A step of the storage manager, up to what it logs: it moves
  in its loop, or it inserts a marker again.
-/
theorem storageStep_cases
    {s t : Gateway V TIMEOUT L}
    {ok : Bool}
    (hStep : storageStep s ok = some t) :
    (t.conn = s.conn ∧ t.datamgr = s.datamgr ∧
      t.main = s.main ∧ s.storage.pc ≠ .notStarted ∧
      s.storage.pc ≠ .returned) ∧
    (s.storage.pc = .reinsertMarker ∨
      (t.buf = s.buf ∧
        t.storage.pc.phase = s.storage.pc.phase ∧
        t.storage.pc ≠ .reinsertMarker ∧
        t.storage.rows = s.storage.rows ∧
        t.storage.eosCount = s.storage.eosCount) ∨
      (s.storage.pc = .readBuffer ∧
        t =
          s.readBuffer .openDb
            (fun s => s.storageAt .readBuffer)
            (fun s => s.storageAt .handleRecord)) ∨
      (s.storage.pc = .handleRecord ∧
        (s.dataOf .openDb).id ≠ 0 ∧ t.buf = s.buf ∧
        t.storage =
          { s.storage with
              pc := .readBuffer
              rows :=
                s.storage.rows ++ [s.dataOf .openDb] }) ∨
      (s.storage.pc = .handleRecord ∧
        (s.dataOf .openDb).id = 0 ∧ t.buf = s.buf ∧
        t.storage =
          { s.storage with
              pc :=
                if s.storage.eosCount + 1 < 1 then
                  .reinsertMarker
                else
                  .logClosing
              eosCount := s.storage.eosCount + 1 })) := by
  unfold storageStep at hStep
  cases hPc : s.storage.pc
  all_goals
    simp only [hPc] at hStep
    grind

/- The lines of the data manager are left as they are. -/
theorem storageStep_log
    {s t : Gateway V TIMEOUT L}
    {ok : Bool}
    (hStep : storageStep s ok = some t) :
    ofTag .dataManagerInit t.log =
      ofTag .dataManagerInit s.log := by
  unfold storageStep at hStep
  cases hPc : s.storage.pc
  all_goals
    simp only [hPc] at hStep
    grind [ofTag_append, ofTag_singleton]

/- Unless it inserts, the storage manager moves on. -/
theorem storageStep_move
    {s t : Gateway V TIMEOUT L}
    {ok : Bool}
    {l : BroadcastLog Reader (SensorData V)}
    (hRefines : s.buf.Refines l)
    (hReinsert : s.storage.pc ≠ .reinsertMarker)
    (hStep : storageStep s ok = some t) :
    ReaderMove s t .openDb := by
  rcases (storageStep_cases hStep).2 with
    hPc | ⟨hBuf, hPhase, _, hRows, _⟩ | ⟨hPc, rfl⟩ |
      ⟨hPc, hId, hBuf, hStorage⟩ |
      ⟨hPc, hId, hBuf, hStorage⟩
  · exact absurd hPc hReinsert
  · exact .quiet hBuf hPhase hRows
  · have hWaiting : s.phaseOf .openDb = .waiting := by
      simp [Gateway.phaseOf, hPc, OpenDbPc.phase]
    rcases readBuffer_of_refines hRefines .openDb
        (fun s => s.storageAt .readBuffer)
        (fun s => s.storageAt .handleRecord) with
      hEq | ⟨buf, hRead, hEq⟩
    · rw [hEq]
      exact .quiet rfl hWaiting.symm rfl
    · rw [hEq]
      exact .got hWaiting hRead rfl rfl
  · refine .handled ?_ hId hBuf ?_ ?_
    · simp [Gateway.phaseOf, hPc, OpenDbPc.phase]
    · simp [Gateway.phaseOf, hStorage, OpenDbPc.phase]
    · simp [Gateway.handledBy, hStorage]
  · refine .stopped ?_ hId hBuf ?_ ?_
    · simp [Gateway.phaseOf, hPc, OpenDbPc.phase]
    · simp only [Gateway.phaseOf, hStorage]
      split
      · rfl
      · rfl
    · simp [Gateway.handledBy, hStorage]

/- `main` inserts and reads nothing; it frees the buffer. -/
theorem mainStep_buffer
    {s t : Gateway V TIMEOUT L}
    {ok : Bool}
    (hStep : mainStep s ok = some t) :
    t.conn = s.conn ∧
      t.buf.inserted = s.buf.inserted ∧
      t.buf.readers = s.buf.readers ∧
      (t.main.freedBuffer = false →
        s.main.freedBuffer = false ∧ t.buf = s.buf) := by
  unfold mainStep at hStep
  cases hPc : s.main
  all_goals
    simp only [hPc] at hStep
    grind

/- `main` starts the storage manager at most once. -/
theorem mainStep_storage
    {s t : Gateway V TIMEOUT L}
    {ok : Bool}
    (hStep : mainStep s ok = some t) :
    t.storage.rows = s.storage.rows ∧
      t.storage.eosCount = s.storage.eosCount ∧
      ((t.storage.pc = s.storage.pc ∧
          (t.main.startsSensorDb = true →
            s.main.startsSensorDb = true)) ∨
        (s.main.startsSensorDb = true ∧
          t.main.startsSensorDb = false ∧
          t.main.joinedSensorDb = false ∧
          t.storage.pc = .openFile)) := by
  unfold mainStep at hStep
  cases hPc : s.main
  all_goals
    simp only [hPc] at hStep
    grind

/- `main` starts the data manager at most once. -/
theorem mainStep_datamgr
    {s t : Gateway V TIMEOUT L}
    {ok : Bool}
    (hStep : mainStep s ok = some t) :
    t.datamgr.memory = s.datamgr.memory ∧
      t.datamgr.handled = s.datamgr.handled ∧
      ((t.datamgr.pc = s.datamgr.pc ∧
          (t.main.startsDatamgr = true →
            s.main.startsDatamgr = true)) ∨
        (s.main.startsDatamgr = true ∧
          t.main.startsDatamgr = false ∧
          t.main.joinedDatamgr = false ∧
          t.datamgr.pc = .openMap)) := by
  unfold mainStep at hStep
  cases hPc : s.main
  all_goals
    simp only [hPc] at hStep
    grind

/- The lines of the data manager are left as they are. -/
theorem mainStep_log
    {s t : Gateway V TIMEOUT L}
    {ok : Bool}
    (hStep : mainStep s ok = some t) :
    ofTag .dataManagerInit t.log =
      ofTag .dataManagerInit s.log := by
  unfold mainStep at hStep
  cases hPc : s.main
  all_goals
    simp only [hPc] at hStep
    grind [ofTag_append, ofTag_singleton]

/- `main` waits for the end of each of its threads. -/
theorem mainStep_joins
    {s t : Gateway V TIMEOUT L}
    {ok : Bool}
    (hStep : mainStep s ok = some t) :
    (t.main.joinedConnmgr = true →
      s.main.joinedConnmgr = true ∨
        s.conn.listener = .returned) ∧
    (t.main.joinedSensorDb = true →
      s.main.joinedSensorDb = true ∨
        s.storage.pc = .returned) ∧
    (t.main.joinedDatamgr = true →
      s.main.joinedDatamgr = true ∨
        s.datamgr.pc = .returned) := by
  unfold mainStep at hStep
  cases hPc : s.main
  all_goals
    simp only [hPc] at hStep
    grind

variable [Preorder V]
variable [DecidableLT V]

/- What a step of the data manager can be. -/
inductive DataManagerMove
    (cfg : DatamgrConfig V)
    (sensorMap : List (BitVec 16 × BitVec 16))
    (s t : Gateway V TIMEOUT cfg.RUN_AVG_LENGTH) : Prop where
  | ended
      (f : Fault)
      (hEq : t = s.endWith f)
  | opened
      (hPc : s.datamgr.pc = .openMap)
      (hEq :
        t =
          (s.writeLog .dataManagerInit
              (.text "Sensor map opened\n")).datamgrAt
            .loadMap)
  | loaded
      (memory : Datamgr V cfg.RUN_AVG_LENGTH)
      (hPc : s.datamgr.pc = .loadMap)
      (hLoad : loadMap cfg sensorMap = .ok memory)
      (hEq :
        t =
          { s.writeLog .dataManagerInit
              (.text "Sensor mapping process complete\n") with
              datamgr :=
                { s.datamgr with
                    pc := .readBuffer, memory := memory } })
  | read
      (hPc : s.datamgr.pc = .readBuffer)
      (hEq :
        t =
          s.readBuffer .dataManagerInit
            (fun s => s.datamgrAt .readBuffer)
            (fun s => s.datamgrAt .handleRecord))
  | handled
      (memory : Datamgr V cfg.RUN_AVG_LENGTH)
      (msgs : List (LogMsg V))
      (hPc : s.datamgr.pc = .handleRecord)
      (hId : (s.dataOf .dataManagerInit).id ≠ 0)
      (hHandle :
        handleRecord cfg s.datamgr.memory
            (s.dataOf .dataManagerInit) =
          .ok (memory, msgs))
      (hEq :
        t =
          { s with
              datamgr :=
                { pc := .readBuffer
                  memory := memory
                  handled :=
                    s.datamgr.handled ++
                      [s.dataOf .dataManagerInit] }
              log :=
                s.log ++
                  msgs.map
                    (fun msg =>
                      (Thread.dataManagerInit, msg)) })
  | stopped
      (hPc : s.datamgr.pc = .handleRecord)
      (hId : (s.dataOf .dataManagerInit).id = 0)
      (hEq : t = s.datamgrAt .printSensors)
  | printed
      (hPc : s.datamgr.pc = .printSensors)
      (hEq : t = s.datamgrAt .freeList)
  | freed
      (memory : Datamgr V cfg.RUN_AVG_LENGTH)
      (hPc : s.datamgr.pc = .freeList)
      (hEq :
        t =
          { s with
              datamgr :=
                { s.datamgr with
                    pc := .returned, memory := memory } })

/- Every step of the data manager is one of these. -/
theorem dataManagerStep_cases
    {cfg : DatamgrConfig V}
    {sensorMap : List (BitVec 16 × BitVec 16)}
    {s t : Gateway V TIMEOUT cfg.RUN_AVG_LENGTH}
    {ok : Bool}
    (hStep : dataManagerStep cfg sensorMap s ok = some t) :
    DataManagerMove cfg sensorMap s t := by
  unfold dataManagerStep at hStep
  cases hPc : s.datamgr.pc with
  | notStarted =>
      rw [hPc] at hStep
      cases hStep
  | openMap =>
      simp only [hPc] at hStep
      split at hStep
      · exact .opened hPc (Option.some.inj hStep).symm
      · exact .ended _ (Option.some.inj hStep).symm
  | loadMap =>
      simp only [hPc] at hStep
      split at hStep
      · exact .ended _ (Option.some.inj hStep).symm
      · rename_i memory hLoad
        exact .loaded memory hPc hLoad
          (Option.some.inj hStep).symm
  | readBuffer =>
      simp only [hPc] at hStep
      exact .read hPc (Option.some.inj hStep).symm
  | handleRecord =>
      simp only [hPc] at hStep
      split at hStep
      · rename_i hId
        exact .stopped hPc hId (Option.some.inj hStep).symm
      · rename_i hId
        split at hStep
        · exact .ended _ (Option.some.inj hStep).symm
        · rename_i memory msgs hHandle
          exact .handled memory msgs hPc hId hHandle
            (Option.some.inj hStep).symm
  | printSensors =>
      simp only [hPc] at hStep
      split at hStep
      · exact .ended _ (Option.some.inj hStep).symm
      · exact .printed hPc (Option.some.inj hStep).symm
  | freeList =>
      simp only [hPc] at hStep
      split at hStep
      · exact .ended _ (Option.some.inj hStep).symm
      · rename_i memory hFree
        exact .freed memory hPc (Option.some.inj hStep).symm
  | returned =>
      rw [hPc] at hStep
      cases hStep

/- A step of the data manager changes no other thread. -/
theorem dataManagerStep_frame
    {cfg : DatamgrConfig V}
    {sensorMap : List (BitVec 16 × BitVec 16)}
    {s t : Gateway V TIMEOUT cfg.RUN_AVG_LENGTH}
    {ok : Bool}
    (hStep : dataManagerStep cfg sensorMap s ok = some t) :
    t.conn = s.conn ∧ t.storage = s.storage ∧
      t.main = s.main ∧ s.datamgr.pc ≠ .notStarted ∧
      s.datamgr.pc ≠ .returned := by
  unfold dataManagerStep at hStep
  cases hPc : s.datamgr.pc
  all_goals
    simp only [hPc] at hStep
    grind

/- The data manager moves on in its loop. -/
theorem dataManagerStep_move
    {cfg : DatamgrConfig V}
    {sensorMap : List (BitVec 16 × BitVec 16)}
    {s t : Gateway V TIMEOUT cfg.RUN_AVG_LENGTH}
    {ok : Bool}
    {l : BroadcastLog Reader (SensorData V)}
    (hRefines : s.buf.Refines l)
    (hStep : dataManagerStep cfg sensorMap s ok = some t) :
    ReaderMove s t .dataManagerInit := by
  have hPhase :
      ∀ pc, s.datamgr.pc = pc →
        s.phaseOf .dataManagerInit = pc.phase := by
    intro pc hPc
    simp [Gateway.phaseOf, hPc]
  cases dataManagerStep_cases hStep with
  | ended f hEq =>
      rw [hEq]
      exact .quiet rfl rfl rfl
  | opened hPc hEq =>
      rw [hEq]
      exact .quiet rfl (hPhase _ hPc).symm rfl
  | loaded memory hPc hLoad hEq =>
      rw [hEq]
      exact .quiet rfl (hPhase _ hPc).symm rfl
  | read hPc hEq =>
      rcases readBuffer_of_refines hRefines .dataManagerInit
          (fun s => s.datamgrAt .readBuffer)
          (fun s => s.datamgrAt .handleRecord) with
        hRead | ⟨buf, hRead, hNext⟩
      · rw [hEq, hRead]
        exact .quiet rfl (hPhase _ hPc).symm rfl
      · rw [hEq, hNext]
        exact .got (hPhase _ hPc) hRead rfl rfl
  | handled memory msgs hPc hId hHandle hEq =>
      rw [hEq]
      exact .handled (hPhase _ hPc) hId rfl rfl rfl
  | stopped hPc hId hEq =>
      rw [hEq]
      exact .stopped (hPhase _ hPc) hId rfl rfl rfl
  | printed hPc hEq =>
      rw [hEq]
      exact .quiet rfl (hPhase _ hPc).symm rfl
  | freed memory hPc hEq =>
      rw [hEq]
      exact .quiet rfl (hPhase _ hPc).symm rfl

end Moves

------------------------------------------------------------
-- Effects of the Connection Manager
------------------------------------------------------------

section Effects

variable {V : Type}
variable [SensorValue V]
variable {TIMEOUT : Int}
variable {L : Nat}

/- The lines among its effects. -/
def ConnEffect.lines
    {V : Type}
    (effects : List (ConnEffect V)) :
    List (LogMsg V) :=
  effects.filterMap (fun
    | .log msg => some msg
    | _ => none)

/- Its effects change only the buffer and the log. -/
theorem Gateway.perform_frame
    (th : Thread)
    (s : Gateway V TIMEOUT L)
    (effects : List (ConnEffect V)) :
    (perform th s effects).conn = s.conn ∧
      (perform th s effects).storage = s.storage ∧
      (perform th s effects).datamgr = s.datamgr ∧
      (perform th s effects).main = s.main := by
  fun_induction perform th s effects with
  | case1 s => exact ⟨rfl, rfl, rfl, rfl⟩
  | case2 s msg effects ih => exact ih
  | case3 s w data mallocOk effects ih =>
      have hInsert :
          (s.insert w data mallocOk).conn = s.conn ∧
            (s.insert w data mallocOk).storage = s.storage ∧
            (s.insert w data mallocOk).datamgr = s.datamgr ∧
            (s.insert w data mallocOk).main = s.main := by
        unfold insert
        split
        · exact ⟨rfl, rfl, rfl, rfl⟩
        · exact ⟨rfl, rfl, rfl, rfl⟩
      rcases ih with ⟨hConn, hStorage, hDatamgr, hMain⟩
      rw [hConn, hStorage, hDatamgr, hMain]
      exact hInsert
  | case4 s effects ih => exact ih

/- Without an insert, the buffer stays as it is. -/
theorem Gateway.perform_of_noInsert
    (th : Thread)
    (s : Gateway V TIMEOUT L)
    {effects : List (ConnEffect V)}
    (hNone : NoInsert effects) :
    (perform th s effects).buf = s.buf := by
  fun_induction perform th s effects with
  | case1 s => rfl
  | case2 s msg effects ih =>
      refine ih ?_
      intro w data ok hMem
      exact hNone w data ok (List.mem_cons_of_mem _ hMem)
  | case3 s w data mallocOk effects ih =>
      exact absurd (List.mem_cons_self ..)
        (hNone w data mallocOk)
  | case4 s effects ih =>
      refine ih ?_
      intro w data ok hMem
      exact hNone w data ok (List.mem_cons_of_mem _ hMem)

/- What a thread adds to the log. -/
theorem Gateway.perform_log
    (th : Thread)
    (s : Gateway V TIMEOUT L)
    (effects : List (ConnEffect V)) :
    (perform th s effects).log =
      s.log ++
        (ConnEffect.lines effects).map (fun msg => (th, msg)) := by
  fun_induction perform th s effects with
  | case1 s => simp [ConnEffect.lines]
  | case2 s msg effects ih =>
      rw [ih]
      simp [writeLog, ConnEffect.lines]
  | case3 s w data mallocOk effects ih =>
      have hLog : (s.insert w data mallocOk).log = s.log := by
        unfold insert
        split
        · rfl
        · rfl
      rw [ih, hLog]
      rfl
  | case4 s effects ih =>
      rw [ih]
      rfl

/- What a thread logs is logged by no other thread. -/
theorem Gateway.perform_log_of_ne
    (th : Thread)
    (s : Gateway V TIMEOUT L)
    (effects : List (ConnEffect V))
    {w : Thread}
    (hNe : th ≠ w) :
    ofTag w (perform th s effects).log = ofTag w s.log := by
  have hNone :
      ofTag w
          ((ConnEffect.lines effects).map
            (fun msg => (th, msg))) =
        [] := by
    apply ofTag_eq_nil
    intro e hMem hTag
    rcases List.mem_map.mp hMem with ⟨msg, _, rfl⟩
    exact hNe hTag
  rw [perform_log, ofTag_append, hNone, List.append_nil]

/- An insert into a represented buffer goes through. -/
theorem Gateway.insert_of_refines
    {s : Gateway V TIMEOUT L}
    {l : BroadcastLog Reader (SensorData V)}
    (hRefines : s.buf.Refines l)
    (w : Thread)
    (data : SensorData V)
    (mallocOk : Bool) :
    ∃ buf l',
      s.insert w data mallocOk = { s with buf := buf } ∧
        buf.Refines l' ∧
        buf.readers = s.buf.readers ∧
        buf.inserted =
          if mallocOk then
            s.buf.inserted ++ [(w, data)]
          else
            s.buf.inserted := by
  rcases SharedBuffer.insert_goes_through hRefines w data
      mallocOk with
    ⟨ret, buf, l', hInsert, hRefines', _, hReaders,
      hInserted⟩
  refine ⟨buf, l', ?_, hRefines', hReaders, hInserted⟩
  unfold insert
  rw [hInsert]

end Effects

------------------------------------------------------------
-- Steps of the Gateway
------------------------------------------------------------

section Steps

variable {V : Type}
variable [SensorValue V]
variable [Preorder V]
variable [DecidableLT V]
variable {TIMEOUT : Int}
variable {MAX_CONN : Nat}

/- The thread that takes a step of the gateway. -/
inductive GatewayMove
    (MAX_CONN : Nat)
    (cfg : DatamgrConfig V)
    (sensorMap : List (BitVec 16 × BitVec 16))
    (s t : Gateway V TIMEOUT cfg.RUN_AVG_LENGTH) :
    GatewayAction → Prop where
  | conn
      (a : ConnAction)
      (conn : ConnMgr V TIMEOUT)
      (effects : List (ConnEffect V))
      (hStep :
        connStep MAX_CONN s.conn a = some (conn, effects))
      (hEq :
        t =
          Gateway.perform a.thread { s with conn := conn }
            effects) :
      GatewayMove MAX_CONN cfg sensorMap s t (.conn a)
  | storage
      (ok : Bool)
      (hStep : storageStep s ok = some t) :
      GatewayMove MAX_CONN cfg sensorMap s t (.storage ok)
  | datamgr
      (ok : Bool)
      (hStep : dataManagerStep cfg sensorMap s ok = some t) :
      GatewayMove MAX_CONN cfg sensorMap s t (.datamgr ok)
  | main
      (ok : Bool)
      (hStep : mainStep s ok = some t) :
      GatewayMove MAX_CONN cfg sensorMap s t (.main ok)

/- A step of the gateway is a step of one thread. -/
theorem gatewayStep_cases
    {cfg : DatamgrConfig V}
    {sensorMap : List (BitVec 16 × BitVec 16)}
    {s t : Gateway V TIMEOUT cfg.RUN_AVG_LENGTH}
    {a : GatewayAction}
    (hStep : gatewayStep MAX_CONN cfg sensorMap s a = some t) :
    GatewayMove MAX_CONN cfg sensorMap s t a := by
  unfold gatewayStep at hStep
  split at hStep
  · cases hStep
  · cases a with
    | conn a =>
        simp only at hStep
        split at hStep
        · cases hStep
        · rw [Option.map_eq_some_iff] at hStep
          rcases hStep with ⟨⟨conn, effects⟩, hConn, rfl⟩
          exact .conn a conn effects hConn rfl
    | storage ok => exact .storage ok hStep
    | datamgr ok => exact .datamgr ok hStep
    | main ok => exact .main ok hStep

end Steps

end SensorGateway
