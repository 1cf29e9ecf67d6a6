import SensorGateway.ConnMgr.Completion
import SensorGateway.Foundations.Simulation
import SensorGateway.Gateway.EndOfStream
import SensorGateway.Gateway.Memory

/-
  The shutdown of the gateway. From the return of the
  listener on, no thread waits for the network, and no reader
  finds the buffer empty, since it has not read the marker
  yet. So each step leaves less to do, and one of them can be
  taken until `main` returns or a failed call ends the
  process, provided that the threads that are joined have
  been created.

  Key definitions include:
    * `Gateway.remaining`
    * `ThreadsCreated`
    * `Gateway.ReadersExist`
    * `Gateway.ShuttingDown`
    * `FatalCallSucceeds`
    * `KeepsLifetime`

  Key theorems include:
    * `gatewayStep_remaining`
    * `gatewaySystem_settling`
    * `gatewayStep_ended`
    * `gatewaySystem_ended_iff`
    * `gatewaySystem_shutsDown`
-/

------------------------------------------------------------
-- What Is Left To Do
------------------------------------------------------------

namespace SensorGateway

open Foundations

/- A bound on the steps of `open_db`, up to its reads. -/
def OpenDbPc.stepsLeft : OpenDbPc → Nat
| .notStarted => 0
| .openFile => 9
| .readBuffer => 7
| .handleRecord => 8
| .reinsertMarker => 6
| .logClosing => 5
| .flushFile => 4
| .closeFile => 3
| .logClosed => 2
| .returned => 0

/- A bound on those of `data_manager_init`. -/
def DataManagerPc.stepsLeft : DataManagerPc → Nat
| .notStarted => 0
| .openMap => 8
| .loadMap => 7
| .readBuffer => 5
| .handleRecord => 6
| .printSensors => 4
| .freeList => 3
| .returned => 0

/- A bound on those of `main`, and of what it starts. -/
def MainPc.stepsLeft : MainPc → Nat
| .createConnmgr => 30
| .createSensorDb => 29
| .createDatamgr => 18
| .logWaiting => 8
| .joinConnmgr => 7
| .joinSensorDb => 6
| .joinDatamgr => 5
| .logJoined => 4
| .sbufferFree => 3
| .endLogProcess => 2
| .returned => 0

section Remaining

variable {V : Type}
variable [SensorValue V]
variable {TIMEOUT : Int}
variable {L : Nat}

namespace Gateway

/- How many records a reader has not got yet. -/
def unread
    (s : Gateway V TIMEOUT L)
    (r : Reader) : Nat :=
  s.buf.records.length - (s.obtainedBy r).length

/- One, for the end of the process. -/
def endLeft
    (s : Gateway V TIMEOUT L) : Nat :=
  if s.ended = none then 1 else 0

/- A bound on the steps that are left once it shuts down. -/
def remaining
    (s : Gateway V TIMEOUT L) : Nat :=
  s.conn.handlersLeft + s.main.stepsLeft +
    s.storage.pc.stepsLeft + s.datamgr.pc.stepsLeft +
    2 * s.unread .openDb + 2 * s.unread .dataManagerInit +
    s.endLeft

/- The process has ended, or `main` has returned. -/
def Over
    (s : Gateway V TIMEOUT L) : Prop :=
  s.ended ≠ none ∨ s.main = .returned

end Gateway

end Remaining

------------------------------------------------------------
-- The Connection Manager
------------------------------------------------------------

section Connections

variable {V : Type}
variable [SensorValue V]
variable {TIMEOUT : Int}
variable {MAX_CONN : Nat}

/- The join of the excess handler is done. -/
@[grind] def ListenerPc.joinedExcess : ListenerPc → Bool
| .logShutdown => true
| .insertEndOfStream => true
| .returned => true
| _ => false

@[simp] theorem ListenerPc.joinedExcess_signal
    (pc : ListenerPc) :
    pc.signal.joinedExcess = pc.joinedExcess := by
  cases pc with
  | blocked woken => rfl
  | _ => rfl

/- Behind the join, the excess handler takes no step. -/
theorem connSystem_excessTerminated
    {labels : List ConnAction}
    {s : ConnMgr V TIMEOUT}
    (hRun :
      (connSystem V TIMEOUT MAX_CONN).run labels = some s) :
    s.listener.joinedExcess = true →
      s.excess = .terminated := by
  refine System.invariant_of_step _
    (fun s : ConnMgr V TIMEOUT =>
      s.listener.joinedExcess = true →
        s.excess = .terminated)
    ?_ ?_ hRun
  · intro hJoined
    cases hJoined
  intro s a t h hStep hJoined
  rcases connSystem_step.mp hStep with ⟨effects, hStep⟩
  cases a with
  | listener ok input =>
      unfold connStep listenerStep at hStep
      cases hPc : s.listener
      all_goals
        simp only [hPc] at hStep h
        grind
  | excess ok =>
      have hListener := (excessStep_counters hStep).2.2.1
      rw [hListener] at hJoined
      unfold connStep excessStep at hStep
      simp only [h hJoined] at hStep
      cases hStep
  | handler i ok =>
      rcases handlerStep_listener hStep with
        ⟨_, hExcess, hListener⟩
      rw [ListenerPc.eq_of_signal _
        ListenerPc.joinedExcess_signal hListener] at hJoined
      rw [hExcess]
      exact h hJoined

/- Behind its return, only the handlers take steps. -/
theorem connStep_handlersLeft
    {s t : ConnMgr V TIMEOUT}
    (hReturned : s.listener = .returned)
    (hExcess : s.excess = .terminated)
    {a : ConnAction}
    {effects : List (ConnEffect V)}
    (hStep : connStep MAX_CONN s a = some (t, effects)) :
    t.handlersLeft < s.handlersLeft := by
  cases a with
  | listener ok input =>
      unfold connStep listenerStep at hStep
      simp only [hReturned] at hStep
      cases hStep
  | excess ok =>
      unfold connStep excessStep at hStep
      simp only [hExcess] at hStep
      cases hStep
  | handler i ok => exact handlerStep_handlersLeft hStep

end Connections

------------------------------------------------------------
-- What One Step Leaves
------------------------------------------------------------

section Steps

variable {V : Type}
variable [SensorValue V]
variable {TIMEOUT : Int}

section Reading

variable {L : Nat}
variable {s t : Gateway V TIMEOUT L}

theorem Gateway.endLeft_of_running
    (hRunning : s.ended = none) :
    s.endLeft = 1 :=
  if_pos hRunning

theorem Gateway.endLeft_of_ended
    (hEnded : s.ended ≠ none) :
    s.endLeft = 0 :=
  if_neg hEnded

theorem Gateway.endLeft_le
    (s : Gateway V TIMEOUT L) :
    s.endLeft ≤ 1 := by
  unfold endLeft
  split <;> omega

/- What is unread depends on the records and the reader. -/
theorem Gateway.unread_congr
    {r : Reader}
    (hRecords : t.buf.records = s.buf.records)
    (hReaders : t.buf.readers r = s.buf.readers r) :
    t.unread r = s.unread r := by
  unfold unread obtainedBy
  rw [hRecords, hReaders]

/- A reader that has not got all records gets the next one. -/
theorem readBuffer_of_unread
    {l : BroadcastLog Reader (SensorData V)}
    (hRefines : s.buf.Refines l)
    {r : Reader}
    (hMore : s.obtainedBy r ≠ s.buf.records)
    (again next :
      Gateway V TIMEOUT L → Gateway V TIMEOUT L) :
    ∃ buf,
      s.readBuffer r again next =
          next { s with buf := buf } ∧
        buf.records = s.buf.records ∧
        (∀ r', r' ≠ r →
          buf.readers r' = s.buf.readers r') ∧
        s.buf.records.length -
            (buf.readers r).obtained.length + 1 =
          s.unread r := by
  rcases SharedBuffer.read_goes_through hRefines r with
    ⟨hAll, _⟩ |
      ⟨_, buf, l', hRead, _, _, hInserted, hOthers,
        hObtained⟩
  · exact absurd hAll hMore
  · have hPrefix : s.obtainedBy r <+: s.buf.records := by
      unfold Gateway.obtainedBy
      rw [hRefines.obtained_eq r, hRefines.records_eq]
      exact l.obtained_prefix r
    have hLt :
        (s.obtainedBy r).length < s.buf.records.length := by
      refine Nat.lt_of_le_of_ne hPrefix.length_le ?_
      intro hLength
      exact hMore (hPrefix.eq_of_length hLength)
    refine ⟨buf, ?_, ?_, hOthers, ?_⟩
    · unfold Gateway.readBuffer
      rw [hRead]
      rfl
    · unfold SharedBuffer.records
      rw [hInserted]
    · rw [hObtained, List.length_append,
        List.length_singleton]
      unfold Gateway.unread
      unfold Gateway.obtainedBy at *
      omega

/- Apart from its read, the storage manager moves on. -/
theorem storageStep_quiet
    (hRead : s.storage.pc ≠ .readBuffer)
    (hReinsert : s.storage.pc ≠ .reinsertMarker)
    {ok : Bool}
    (hStep : storageStep s ok = some t) :
    t.buf = s.buf ∧
      ((t.ended ≠ none ∧
          t.storage.pc.stepsLeft = s.storage.pc.stepsLeft) ∨
        (t.ended = s.ended ∧
          t.storage.pc.stepsLeft <
            s.storage.pc.stepsLeft)) := by
  unfold storageStep at hStep
  cases hPc : s.storage.pc
  all_goals
    simp only [hPc] at hStep
    grind [OpenDbPc.stepsLeft]

/- A step of the storage manager leaves less to do. -/
theorem storageStep_remaining
    {l : BroadcastLog Reader (SensorData V)}
    (hRefines : s.buf.Refines l)
    (hRunning : s.ended = none)
    (hReinsert : s.storage.pc ≠ .reinsertMarker)
    (hMore :
      s.storage.pc = .readBuffer →
        s.obtainedBy .openDb ≠ s.buf.records)
    {ok : Bool}
    (hStep : storageStep s ok = some t) :
    t.unread .dataManagerInit = s.unread .dataManagerInit ∧
      t.storage.pc.stepsLeft + 2 * t.unread .openDb +
          t.endLeft <
        s.storage.pc.stepsLeft + 2 * s.unread .openDb +
          s.endLeft := by
  have hBefore := Gateway.endLeft_of_running hRunning
  have hAfter := t.endLeft_le
  by_cases hRead : s.storage.pc = .readBuffer
  · rcases readBuffer_of_unread hRefines (hMore hRead)
        (fun s => s.storageAt .readBuffer)
        (fun s => s.storageAt .handleRecord) with
      ⟨buf, hNext, hRecords, hOthers, hUnread⟩
    simp only [storageStep, hRead, hNext] at hStep
    cases hStep
    refine ⟨?_, ?_⟩
    · apply Gateway.unread_congr
      · exact hRecords
      · exact hOthers _ (by decide)
    · have hLess :
          Gateway.unread
              (Gateway.storageAt { s with buf := buf }
                .handleRecord)
              .openDb + 1 =
            s.unread .openDb := by
        rw [← hUnread, ← hRecords]
        rfl
      have hPc :
          (Gateway.storageAt { s with buf := buf }
              .handleRecord).storage.pc.stepsLeft = 8 := rfl
      have hPcBefore : s.storage.pc.stepsLeft = 7 := by
        rw [hRead]
        rfl
      omega
  · rcases storageStep_quiet hRead hReinsert hStep with
      ⟨hBuf, hCases⟩
    have hSame : ∀ r, t.unread r = s.unread r := by
      intro r
      apply Gateway.unread_congr
      · rw [hBuf]
      · rw [hBuf]
    refine ⟨hSame _, ?_⟩
    rw [hSame]
    rcases hCases with ⟨hEnded, hPc⟩ | ⟨hEnded, hPc⟩
    · have hNone := Gateway.endLeft_of_ended hEnded
      omega
    · have hSameEnd : t.endLeft = s.endLeft := by
        unfold Gateway.endLeft
        rw [hEnded]
      omega

/- So does a step of `main`, with what it starts. -/
theorem mainStep_remaining
    (hRunning : s.ended = none)
    {ok : Bool}
    (hStep : mainStep s ok = some t) :
    t.main.stepsLeft + t.storage.pc.stepsLeft +
        t.datamgr.pc.stepsLeft + t.endLeft <
      s.main.stepsLeft + s.storage.pc.stepsLeft +
        s.datamgr.pc.stepsLeft + s.endLeft := by
  have hBefore := Gateway.endLeft_of_running hRunning
  unfold mainStep at hStep
  cases hPc : s.main
  all_goals
    simp only [hPc] at hStep
    grind [MainPc.stepsLeft, OpenDbPc.stepsLeft,
      DataManagerPc.stepsLeft, Gateway.endLeft]

end Reading

section Managing

variable [Preorder V]
variable [DecidableLT V]
variable {cfg : DatamgrConfig V}
variable {sensorMap : List (BitVec 16 × BitVec 16)}
variable {s t : Gateway V TIMEOUT cfg.RUN_AVG_LENGTH}

/- A step of the data manager leaves less to do. -/
theorem dataManagerStep_remaining
    {l : BroadcastLog Reader (SensorData V)}
    (hRefines : s.buf.Refines l)
    (hRunning : s.ended = none)
    (hMore :
      s.datamgr.pc = .readBuffer →
        s.obtainedBy .dataManagerInit ≠ s.buf.records)
    {ok : Bool}
    (hStep : dataManagerStep cfg sensorMap s ok = some t) :
    t.unread .openDb = s.unread .openDb ∧
      t.datamgr.pc.stepsLeft +
          2 * t.unread .dataManagerInit + t.endLeft <
        s.datamgr.pc.stepsLeft +
          2 * s.unread .dataManagerInit + s.endLeft := by
  have hBefore := Gateway.endLeft_of_running hRunning
  have hAfter := t.endLeft_le
  have hSame :
      t.buf = s.buf → ∀ r, t.unread r = s.unread r := by
    intro hBuf r
    apply Gateway.unread_congr
    · rw [hBuf]
    · rw [hBuf]
  -- all moves but the read and the end go on elsewhere
  have hQuiet :
      ∀ pc pc' : DataManagerPc,
        s.datamgr.pc = pc → t.datamgr.pc = pc' →
          pc'.stepsLeft < pc.stepsLeft → t.buf = s.buf →
            t.unread .openDb = s.unread .openDb ∧
              t.datamgr.pc.stepsLeft +
                  2 * t.unread .dataManagerInit +
                  t.endLeft <
                s.datamgr.pc.stepsLeft +
                  2 * s.unread .dataManagerInit +
                  s.endLeft := by
    intro pc pc' hPc hPc' hLess hBuf
    refine ⟨hSame hBuf _, ?_⟩
    rw [hSame hBuf, hPc, hPc']
    omega
  cases dataManagerStep_cases hStep with
  | ended f hEq =>
      have hBuf : t.buf = s.buf := by
        rw [hEq]
        rfl
      have hNone : t.endLeft = 0 := by
        apply Gateway.endLeft_of_ended
        rw [hEq]
        exact Option.some_ne_none f
      have hPc : t.datamgr.pc = s.datamgr.pc := by
        rw [hEq]
        rfl
      refine ⟨hSame hBuf _, ?_⟩
      rw [hSame hBuf, hPc]
      omega
  | read hPc hEq =>
      rcases readBuffer_of_unread hRefines (hMore hPc)
          (fun s => s.datamgrAt .readBuffer)
          (fun s => s.datamgrAt .handleRecord) with
        ⟨buf, hNext, hRecords, hOthers, hUnread⟩
      rw [hNext] at hEq
      refine ⟨?_, ?_⟩
      · apply Gateway.unread_congr
        · rw [hEq]
          exact hRecords
        · rw [hEq]
          exact hOthers _ (by decide)
      · have hLess :
            t.unread .dataManagerInit + 1 =
              s.unread .dataManagerInit := by
          rw [← hUnread, ← hRecords, hEq]
          rfl
        have hAt : t.datamgr.pc.stepsLeft = 6 := by
          rw [hEq]
          rfl
        have hWas : s.datamgr.pc.stepsLeft = 5 := by
          rw [hPc]
          rfl
        omega
  | opened hPc hEq =>
      exact hQuiet _ .loadMap hPc (by rw [hEq]; rfl)
        (by decide) (by rw [hEq]; rfl)
  | loaded memory hPc hLoad hEq =>
      exact hQuiet _ .readBuffer hPc (by rw [hEq])
        (by decide) (by rw [hEq]; rfl)
  | handled memory msgs hPc hId hHandle hEq =>
      exact hQuiet _ .readBuffer hPc (by rw [hEq])
        (by decide) (by rw [hEq])
  | stopped hPc hId hEq =>
      exact hQuiet _ .printSensors hPc (by rw [hEq]; rfl)
        (by decide) (by rw [hEq]; rfl)
  | printed hPc hEq =>
      exact hQuiet _ .freeList hPc (by rw [hEq]; rfl)
        (by decide) (by rw [hEq]; rfl)
  | freed memory hPc hEq =>
      exact hQuiet _ .returned hPc (by rw [hEq])
        (by decide) (by rw [hEq])

end Managing

end Steps

------------------------------------------------------------
-- Threads that Exist
------------------------------------------------------------

section Threads

variable {V : Type}
variable [SensorValue V]
variable {TIMEOUT : Int}
variable {MAX_CONN : Nat}

/-
  The step is not a `pthread_create` that fails without being
  noticed.
-/
def ThreadsCreated
    {L : Nat}
    (s : Gateway V TIMEOUT L) :
    GatewayAction → Prop
| .conn a => ExcessCreated s.conn a
| .main ok =>
    s.main = .createSensorDb ∨ s.main = .createDatamgr →
      ok = true
| _ => True

theorem threadsCreated_of_ok
    {L : Nat}
    {a : GatewayAction}
    (hOk : a.ok = true)
    (s : Gateway V TIMEOUT L) :
    ThreadsCreated s a := by
  cases a with
  | conn a => exact fun _ => ConnMgr.ne_listener_of_ok hOk
  | main ok => exact fun _ => hOk
  | _ => trivial

/- The readers that `main` has created by now exist. -/
structure Gateway.ReadersExist
    {L : Nat}
    (s : Gateway V TIMEOUT L) : Prop where
  storage :
    s.main.startsSensorDb = false →
      s.storage.pc ≠ .notStarted
  datamgr :
    s.main.startsDatamgr = false →
      s.datamgr.pc ≠ .notStarted

/- No reader goes back to where it was not created. -/
theorem storageStep_exists
    {L : Nat}
    {s t : Gateway V TIMEOUT L}
    {ok : Bool}
    (hStep : storageStep s ok = some t) :
    t.storage.pc ≠ .notStarted := by
  unfold storageStep at hStep
  cases hPc : s.storage.pc
  all_goals
    simp only [hPc] at hStep
    grind

/- `main` leaves no reader behind. -/
theorem mainStep_exists
    {L : Nat}
    {s t : Gateway V TIMEOUT L}
    (h : s.ReadersExist)
    {ok : Bool}
    (hCreated : ThreadsCreated s (.main ok))
    (hStep : mainStep s ok = some t) :
    t.ReadersExist := by
  rcases h with ⟨hStorage, hDatamgr⟩
  unfold ThreadsCreated at hCreated
  unfold mainStep at hStep
  cases hPc : s.main
  all_goals
    simp only [hPc] at hStep hStorage hDatamgr hCreated
    constructor
    all_goals grind

variable [Preorder V]
variable [DecidableLT V]
variable {cfg : DatamgrConfig V}
variable {sensorMap : List (BitVec 16 × BitVec 16)}
variable {s t : Gateway V TIMEOUT cfg.RUN_AVG_LENGTH}

theorem dataManagerStep_exists
    {ok : Bool}
    (hStep : dataManagerStep cfg sensorMap s ok = some t) :
    t.datamgr.pc ≠ .notStarted := by
  unfold dataManagerStep at hStep
  cases hPc : s.datamgr.pc
  all_goals
    simp only [hPc] at hStep
    grind

theorem Gateway.ReadersExist.of_gatewayStep
    (h : s.ReadersExist)
    {a : GatewayAction}
    (hCreated : ThreadsCreated s a)
    (hStep : gatewayStep MAX_CONN cfg sensorMap s a = some t) :
    t.ReadersExist := by
  cases gatewayStep_cases hStep with
  | conn a conn effects hConn hEq =>
      rcases Gateway.perform_frame a.thread
          { s with conn := conn } effects with
        ⟨_, hStorage, hDatamgr, hMain⟩
      rw [hEq]
      constructor
      · rw [hStorage, hMain]
        exact h.storage
      · rw [hDatamgr, hMain]
        exact h.datamgr
  | storage ok hStorage =>
      rcases (storageStep_cases hStorage).1 with
        ⟨_, hDatamgr, hMain, _⟩
      refine ⟨fun _ => storageStep_exists hStorage, ?_⟩
      rw [hDatamgr, hMain]
      exact h.datamgr
  | datamgr ok hDatamgr =>
      rcases dataManagerStep_frame hDatamgr with
        ⟨_, hStorage, hMain, _⟩
      refine ⟨?_, fun _ => dataManagerStep_exists hDatamgr⟩
      rw [hStorage, hMain]
      exact h.storage
  | main ok hMain => exact mainStep_exists h hCreated hMain

/- Where no creation fails unnoticed, they all exist. -/
theorem gatewaySystem_readersExist
    {data : Reader → SensorData V}
    {labels : List GatewayAction}
    (hCreated :
      (gatewaySystem TIMEOUT MAX_CONN cfg sensorMap
          data).Guarded
        ThreadsCreated labels)
    (hRun :
      (gatewaySystem TIMEOUT MAX_CONN cfg sensorMap
          data).run labels =
        some s) :
    s.ReadersExist := by
  refine System.invariant_of_guarded_step _ _
    (fun s : Gateway V TIMEOUT cfg.RUN_AVG_LENGTH =>
      s.ReadersExist)
    ⟨Bool.noConfusion, Bool.noConfusion⟩ ?_ hCreated hRun
  intro _ s a t _ h hGuard hStep
  exact h.of_gatewayStep hGuard hStep

end Threads

------------------------------------------------------------
-- Shutting Down
------------------------------------------------------------

section Shutdown

variable {V : Type}
variable [SensorValue V]
variable {TIMEOUT : Int}
variable {MAX_CONN : Nat}

/-
  The listener has returned, and a record with id zero is in
  the buffer.
-/
structure Gateway.ShuttingDown
    {L : Nat}
    (MAX_CONN : Nat)
    (s : Gateway V TIMEOUT L) : Prop where
  sound : s.Sound MAX_CONN
  returned : s.conn.listener = .returned
  marked : ∃ record ∈ s.buf.records, record.id = 0

/- A reader in its loop has not got the marker yet. -/
theorem Gateway.ShuttingDown.unread
    {L : Nat}
    {s : Gateway V TIMEOUT L}
    (h : s.ShuttingDown MAX_CONN)
    {r : Reader}
    (hWaiting : s.phaseOf r = .waiting) :
    s.obtainedBy r ≠ s.buf.records := by
  have hOrdered := h.sound.ordered r
  rcases h.marked with ⟨marker, hMem, hId⟩
  intro hAll
  rw [← hAll, hOrdered.waiting hWaiting] at hMem
  exact hOrdered.ids marker hMem hId

variable [Preorder V]
variable [DecidableLT V]
variable {cfg : DatamgrConfig V}
variable {sensorMap : List (BitVec 16 × BitVec 16)}
variable {s t : Gateway V TIMEOUT cfg.RUN_AVG_LENGTH}

theorem Gateway.ShuttingDown.of_gatewayStep
    (h : s.ShuttingDown MAX_CONN)
    {a : GatewayAction}
    (hStep : gatewayStep MAX_CONN cfg sensorMap s a = some t) :
    t.ShuttingDown MAX_CONN := by
  rcases gatewayStep_of_returned h.sound h.returned hStep with
    ⟨hReturned, hInserted⟩
  refine ⟨h.sound.of_gatewayStep hStep, hReturned, ?_⟩
  unfold SharedBuffer.records
  rw [hInserted]
  exact h.marked

/- A step is taken by a process that runs. -/
theorem gatewayStep_running
    {a : GatewayAction}
    (hStep : gatewayStep MAX_CONN cfg sensorMap s a = some t) :
    s.ended = none := by
  by_contra hEnded
  unfold gatewayStep at hStep
  rw [if_pos (Or.inl hEnded)] at hStep
  cases hStep

/- While it shuts down, every step leaves less to do. -/
theorem gatewayStep_remaining
    (h : s.ShuttingDown MAX_CONN)
    {a : GatewayAction}
    (hStep : gatewayStep MAX_CONN cfg sensorMap s a = some t) :
    t.remaining < s.remaining := by
  have hRunning := gatewayStep_running hStep
  have hBefore := Gateway.endLeft_of_running hRunning
  unfold Gateway.remaining
  cases gatewayStep_cases hStep with
  | conn a conn effects hConn hEq =>
      rcases h.sound.conn_run with ⟨labels, hRun⟩
      have hExcess :=
        connSystem_excessTerminated hRun
          (by rw [h.returned]; rfl)
      have hLess :=
        connStep_handlersLeft h.returned hExcess hConn
      rcases Gateway.perform_frame a.thread
          { s with conn := conn } effects with
        ⟨hConnEq, hStorage, hDatamgr, hMain⟩
      have hBuf := (h.sound.connStep_buffer hConn).2.1
        h.returned
      rw [← hEq] at hConnEq hStorage hDatamgr hMain hBuf
      have hUnread : ∀ r, t.unread r = s.unread r := by
        intro r
        apply Gateway.unread_congr
        · rw [hBuf.1]
        · rw [hBuf.1]
      have hEnd := t.endLeft_le
      rw [hUnread, hUnread, hConnEq, hStorage, hDatamgr,
        hMain]
      simp only
      omega
  | storage ok hStorage =>
      rcases (storageStep_cases hStorage).1 with
        ⟨hConn, hDatamgr, hMain, hRuns⟩
      rcases h.sound.main_of_storage hRuns with
        ⟨_, _, l, hRefines⟩
      rcases storageStep_remaining hRefines hRunning
          h.sound.storage_counted.1
          (fun hPc => h.unread (by
            simp [Gateway.phaseOf, hPc, OpenDbPc.phase]))
          hStorage with
        ⟨hOther, hLess⟩
      rw [hConn, hDatamgr, hMain, hOther]
      omega
  | datamgr ok hDatamgr =>
      rcases dataManagerStep_frame hDatamgr with
        ⟨hConn, hStorage, hMain, hRuns⟩
      rcases h.sound.main_of_datamgr hRuns with
        ⟨_, _, l, hRefines⟩
      rcases dataManagerStep_remaining hRefines hRunning
          (fun hPc => h.unread (by
            simp [Gateway.phaseOf, hPc,
              DataManagerPc.phase]))
          hDatamgr with
        ⟨hOther, hLess⟩
      rw [hConn, hStorage, hMain, hOther]
      omega
  | main ok hMain =>
      rcases mainStep_buffer hMain with
        ⟨hConn, hInserted, hReaders, _⟩
      have hUnread : ∀ r, t.unread r = s.unread r := by
        intro r
        apply Gateway.unread_congr
        · unfold SharedBuffer.records
          rw [hInserted]
        · rw [hReaders]
      have hLess := mainStep_remaining hRunning hMain
      rw [hUnread, hUnread, hConn]
      omega

/- A storage manager that runs can take a step. -/
omit [Preorder V] [DecidableLT V] in
theorem storageStep_enabled
    {L : Nat}
    {s : Gateway V TIMEOUT L}
    (hRuns :
      s.storage.pc ≠ .notStarted ∧
        s.storage.pc ≠ .returned) :
    ∃ t, storageStep s true = some t := by
  unfold storageStep
  cases hPc : s.storage.pc with
  | notStarted => exact absurd hPc hRuns.1
  | returned => exact absurd hPc hRuns.2
  | handleRecord =>
      simp only
      split
      · exact ⟨_, rfl⟩
      · exact ⟨_, rfl⟩
  | _ => exact ⟨_, rfl⟩

/- So can a data manager. -/
theorem dataManagerStep_enabled
    (hRuns :
      s.datamgr.pc ≠ .notStarted ∧
        s.datamgr.pc ≠ .returned) :
    ∃ t, dataManagerStep cfg sensorMap s true = some t := by
  unfold dataManagerStep
  cases hPc : s.datamgr.pc with
  | notStarted => exact absurd hPc hRuns.1
  | returned => exact absurd hPc hRuns.2
  | openMap => exact ⟨_, rfl⟩
  | readBuffer => exact ⟨_, rfl⟩
  | handleRecord =>
      simp only
      split
      · exact ⟨_, rfl⟩
      · split
        · exact ⟨_, rfl⟩
        · exact ⟨_, rfl⟩
  | _ =>
      simp only
      split
      · exact ⟨_, rfl⟩
      · exact ⟨_, rfl⟩

/- And `main`, where the thread that it joins has ended. -/
omit [Preorder V] [DecidableLT V] in
theorem mainStep_enabled
    {L : Nat}
    {s : Gateway V TIMEOUT L}
    (hMain : s.main ≠ .returned)
    (hConn : s.conn.listener = .returned)
    (hDb :
      s.main = .joinSensorDb → s.storage.pc = .returned)
    (hDm :
      s.main = .joinDatamgr → s.datamgr.pc = .returned) :
    ∃ t, mainStep s true = some t := by
  unfold mainStep
  cases hPc : s.main with
  | returned => exact absurd hPc hMain
  | joinConnmgr =>
      simp only
      rw [if_pos hConn]
      exact ⟨_, rfl⟩
  | joinSensorDb =>
      simp only
      rw [if_pos (hDb hPc)]
      exact ⟨_, rfl⟩
  | joinDatamgr =>
      simp only
      rw [if_pos (hDm hPc)]
      exact ⟨_, rfl⟩
  | sbufferFree =>
      simp only
      split
      · exact ⟨_, rfl⟩
      · exact ⟨_, rfl⟩
  | _ => exact ⟨_, rfl⟩

/-
  Until it is over, a call that succeeds is a step, if the
  readers that are joined exist.
-/
theorem gatewayStep_enabled
    (h : s.ShuttingDown MAX_CONN)
    (hExist : s.ReadersExist)
    (hNot : ¬s.Over) :
    ∃ a t,
      a.ok = true ∧
        gatewayStep MAX_CONN cfg sensorMap s a = some t := by
  have hGoes : ¬(s.ended ≠ none ∨ s.main = .returned) := hNot
  have hStep :
      gatewayStep MAX_CONN cfg sensorMap s (.storage true) =
            storageStep s true ∧
        gatewayStep MAX_CONN cfg sensorMap s (.datamgr true) =
            dataManagerStep cfg sensorMap s true ∧
        gatewayStep MAX_CONN cfg sensorMap s (.main true) =
          mainStep s true :=
    ⟨if_neg hGoes, if_neg hGoes, if_neg hGoes⟩
  by_cases hDb :
      s.storage.pc ≠ .notStarted ∧ s.storage.pc ≠ .returned
  · rcases storageStep_enabled hDb with ⟨t, hStorage⟩
    exact ⟨.storage true, t, rfl, hStep.1.trans hStorage⟩
  · by_cases hDm :
        s.datamgr.pc ≠ .notStarted ∧
          s.datamgr.pc ≠ .returned
    · rcases dataManagerStep_enabled hDm with ⟨t, hDatamgr⟩
      exact ⟨.datamgr true, t, rfl, hStep.2.1.trans hDatamgr⟩
    · have hDbEnded :
          s.main = .joinSensorDb → s.storage.pc = .returned := by
        intro hMain
        by_contra hRuns
        exact hDb ⟨hExist.storage (by rw [hMain]; rfl), hRuns⟩
      have hDmEnded :
          s.main = .joinDatamgr → s.datamgr.pc = .returned := by
        intro hMain
        by_contra hRuns
        exact hDm ⟨hExist.datamgr (by rw [hMain]; rfl), hRuns⟩
      rcases mainStep_enabled
          (fun hMain => hGoes (Or.inr hMain)) h.returned
          hDbEnded hDmEnded with
        ⟨t, hMain⟩
      exact ⟨.main true, t, rfl, hStep.2.2.trans hMain⟩

/-
  From the return of the listener on, the gateway settles: it
  is over, or it comes to the join of a missing thread.
-/
theorem gatewaySystem_settling
    (data : Reader → SensorData V) :
    System.Settles
      (gatewaySystem TIMEOUT MAX_CONN cfg sensorMap data)
      (Gateway.ShuttingDown MAX_CONN) (fun _ => True)
      (fun s => s.Over ∨ ¬s.ReadersExist)
      Gateway.remaining where
  keeps := fun _ _ _ h _ hStep => h.of_gatewayStep hStep
  decreases := fun _ _ _ h _ hStep =>
    gatewayStep_remaining h hStep
  enabled := by
    intro s h hNot
    rw [not_or, not_not] at hNot
    rcases gatewayStep_enabled h hNot.2 hNot.1 with
      ⟨a, t, _, hStep⟩
    exact ⟨a, t, trivial, hStep⟩

/- By calls that succeed, it comes to be over. -/
theorem gatewaySystem_settling_of_ok
    (data : Reader → SensorData V) :
    System.Settles
      (gatewaySystem TIMEOUT MAX_CONN cfg sensorMap data)
      (fun s => s.ShuttingDown MAX_CONN ∧ s.ReadersExist)
      (fun a => a.ok = true) Gateway.Over
      Gateway.remaining where
  keeps := fun _ _ _ h hOk hStep =>
    ⟨h.1.of_gatewayStep hStep,
      h.2.of_gatewayStep (threadsCreated_of_ok hOk _) hStep⟩
  decreases := fun _ _ _ h _ hStep =>
    gatewayStep_remaining h.1 hStep
  enabled := fun _ h hNot => gatewayStep_enabled h.1 h.2 hNot

end Shutdown

------------------------------------------------------------
-- Fatal Calls
------------------------------------------------------------

section Fatal

variable {V : Type}
variable [SensorValue V]
variable {TIMEOUT : Int}
variable {MAX_CONN : Nat}

/-
  The step makes no call that the code answers with `exit`
  when it fails: the server socket, the two files, the first
  thread, and the print of a map that has sensors.
-/
def FatalCallSucceeds
    {L : Nat}
    (sensorMap : List (BitVec 16 × BitVec 16))
    (s : Gateway V TIMEOUT L) :
    GatewayAction → Prop
| .conn (.listener ok _) =>
    s.conn.listener = .passiveOpen → ok = true
| .conn _ => True
| .storage ok =>
    s.storage.pc = .openFile ∨ s.storage.pc = .closeFile →
      ok = true
| .datamgr ok =>
    (s.datamgr.pc = .openMap → ok = true) ∧
      (s.datamgr.pc = .printSensors → sensorMap ≠ [])
| .main ok => s.main = .createConnmgr → ok = true

/- The process goes on if so, and it exits if not. -/
def Gateway.ExitsUnless
    {L : Nat}
    (t : Gateway V TIMEOUT L)
    (P : Prop) : Prop :=
  (P ∧ t.ended = none) ∨
    (¬P ∧ t.ended = some .processExit)

section Effects

variable {L : Nat}
variable {s t : Gateway V TIMEOUT L}

/- Only a server socket that fails makes the listener exit. -/
theorem listenerStep_exits
    {conn conn' : ConnMgr V TIMEOUT}
    {ok : Bool}
    {input : HandlerInput}
    {effects : List (ConnEffect V)}
    (hStep :
      listenerStep MAX_CONN conn ok input =
        some (conn', effects)) :
    ConnEffect.exitFailure ∉ effects ∨
      (ok = false ∧ conn.listener = .passiveOpen ∧
        effects = [.exitFailure]) := by
  unfold listenerStep at hStep
  cases hPc : conn.listener
  all_goals
    simp only [hPc] at hStep
    grind

/- The other threads of the manager do not. -/
theorem connStep_exits
    {conn conn' : ConnMgr V TIMEOUT}
    {a : ConnAction}
    {effects : List (ConnEffect V)}
    (hStep : connStep MAX_CONN conn a = some (conn', effects))
    (hOther : ∀ ok input, a ≠ .listener ok input) :
    ConnEffect.exitFailure ∉ effects := by
  cases a with
  | listener ok input => exact absurd rfl (hOther ok input)
  | excess ok =>
      unfold connStep excessStep at hStep
      cases hPc : conn.excess
      all_goals
        simp only [hPc] at hStep
        grind
  | handler i ok =>
      rcases handlerStep_cases hStep with
        ⟨_, _, _, _, _, rfl, _⟩ |
          ⟨h, e, rest, u, _, _, hPerform, _⟩
      · exact List.not_mem_nil
      · cases e
        all_goals
          simp only [ConnMgr.perform] at hPerform
          grind

/- Lines alone do not end the process. -/
theorem Gateway.perform_ended
    (th : Thread)
    (s : Gateway V TIMEOUT L)
    {effects : List (ConnEffect V)}
    (hNone : NoInsert effects)
    (hExit : ConnEffect.exitFailure ∉ effects) :
    (perform th s effects).ended = s.ended := by
  fun_induction perform th s effects with
  | case1 s => rfl
  | case2 s msg effects ih =>
      refine ih ?_ ?_
      · intro w data ok hMem
        exact hNone w data ok (List.mem_cons_of_mem _ hMem)
      · intro hMem
        exact hExit (List.mem_cons_of_mem _ hMem)
  | case3 s w data mallocOk effects ih =>
      exact absurd (List.mem_cons_self ..)
        (hNone w data mallocOk)
  | case4 s effects ih =>
      exact absurd (List.mem_cons_self ..) hExit

theorem connStep_ended
    (hSound : s.Sound MAX_CONN)
    (hRunning : s.ended = none)
    (sensorMap : List (BitVec 16 × BitVec 16))
    {a : ConnAction}
    {conn : ConnMgr V TIMEOUT}
    {effects : List (ConnEffect V)}
    (hStep : connStep MAX_CONN s.conn a = some (conn, effects)) :
    (Gateway.perform a.thread { s with conn := conn }
        effects).ExitsUnless
      (FatalCallSucceeds sensorMap s (.conn a)) := by
  have hGoes :
      ConnEffect.exitFailure ∉ effects →
        (Gateway.perform a.thread { s with conn := conn }
            effects).ended = none := by
    intro hExit
    rcases connStep_inserts hStep with
      ⟨hNone, _, _⟩ | ⟨hPc, hEffects, _⟩ |
        ⟨i, handler, data, rest, hHandler, hTodo, hEffects,
          _⟩
    · rw [Gateway.perform_ended _ _ hNone hExit]
      exact hRunning
    · have hNot : s.conn.listener ≠ .returned := by
        rw [hPc]
        intro hEq
        cases hEq
      rcases hSound.perform_insert hNot a.thread conn _ _
          a.ok with
        ⟨buf, _, hEq, _⟩
      rw [hEffects, hEq]
      exact hRunning
    · have hNot :=
        hSound.accounted.not_returned_of_insert hHandler
          hTodo
      rcases hSound.perform_insert hNot a.thread conn _ _
          a.ok with
        ⟨buf, _, hEq, _⟩
      rw [hEffects, hEq]
      exact hRunning
  cases a with
  | listener ok input =>
      rcases listenerStep_exits hStep with
        hExit | ⟨hOk, hPc, hEffects⟩
      · refine Or.inl ⟨?_, hGoes hExit⟩
        intro hPc
        by_contra hOk
        simp only [connStep, listenerStep, hPc,
          if_neg hOk] at hStep
        cases hStep
        exact hExit List.mem_cons_self
      · refine Or.inr ⟨?_, ?_⟩
        · intro hAll
          rw [hOk] at hAll
          cases hAll hPc
        · rw [hEffects]
          rfl
  | excess ok =>
      refine Or.inl ⟨trivial, hGoes (connStep_exits hStep ?_)⟩
      intro ok input hEq
      cases hEq
  | handler i ok =>
      refine Or.inl ⟨trivial, hGoes (connStep_exits hStep ?_)⟩
      intro ok input hEq
      cases hEq

theorem storageStep_ended
    {l : BroadcastLog Reader (SensorData V)}
    (hRefines : s.buf.Refines l)
    (hRunning : s.ended = none)
    (hReinsert : s.storage.pc ≠ .reinsertMarker)
    (sensorMap : List (BitVec 16 × BitVec 16))
    {ok : Bool}
    (hStep : storageStep s ok = some t) :
    t.ExitsUnless
      (FatalCallSucceeds sensorMap s (.storage ok)) := by
  by_cases hRead : s.storage.pc = .readBuffer
  · rcases readBuffer_of_refines hRefines .openDb
        (fun s => s.storageAt .readBuffer)
        (fun s => s.storageAt .handleRecord) with
      hNext | ⟨buf, _, hNext⟩
    all_goals
      simp only [storageStep, hRead, hNext] at hStep
      cases hStep
      refine Or.inl ⟨?_, hRunning⟩
      rintro (hPc | hPc)
      · rw [hRead] at hPc
        cases hPc
      · rw [hRead] at hPc
        cases hPc
  · unfold storageStep at hStep
    unfold Gateway.ExitsUnless FatalCallSucceeds
    cases hPc : s.storage.pc
    all_goals
      simp only [hPc] at hStep
      grind

theorem mainStep_ended
    (hStores :
      s.main.freedBuffer = false →
        s.buf.buf.Stores s.buf.records)
    (hRunning : s.ended = none)
    (sensorMap : List (BitVec 16 × BitVec 16))
    {ok : Bool}
    (hStep : mainStep s ok = some t) :
    t.ExitsUnless
      (FatalCallSucceeds sensorMap s (.main ok)) := by
  unfold Gateway.ExitsUnless FatalCallSucceeds
  unfold mainStep at hStep
  cases hPc : s.main with
  | sbufferFree =>
      rcases sbufferFree_of_stores
          (hStores (by rw [hPc]; rfl)) with
        ⟨b, hFree, _⟩
      simp only [hPc, hFree] at hStep
      grind
  | _ =>
      simp only [hPc] at hStep
      grind

end Effects

variable [Preorder V]
variable [DecidableLT V]
variable {cfg : DatamgrConfig V}
variable {sensorMap : List (BitVec 16 × BitVec 16)}
variable {s t : Gateway V TIMEOUT cfg.RUN_AVG_LENGTH}

/- A step is one of the connection manager, or leaves it. -/
theorem gatewayStep_connAction
    {a : GatewayAction}
    (hStep : gatewayStep MAX_CONN cfg sensorMap s a = some t) :
    (∃ a' effects,
      a = .conn a' ∧
        connStep MAX_CONN s.conn a' = some (t.conn, effects) ∧
        t =
          Gateway.perform a'.thread
            { s with conn := t.conn } effects) ∨
    ((∀ a', a ≠ .conn a') ∧ t.conn = s.conn) := by
  cases gatewayStep_cases hStep with
  | conn a conn effects hConn hEq =>
      have hSame : t.conn = conn := by
        rw [hEq]
        exact (Gateway.perform_frame a.thread
          { s with conn := conn } effects).1
      rw [hSame]
      exact Or.inl ⟨a, effects, rfl, hConn, hEq⟩
  | storage ok hStorage =>
      refine Or.inr ⟨?_, (storageStep_cases hStorage).1.1⟩
      intro a' hEq
      cases hEq
  | datamgr ok hDatamgr =>
      refine Or.inr ⟨?_, (dataManagerStep_frame hDatamgr).1⟩
      intro a' hEq
      cases hEq
  | main ok hMain =>
      refine Or.inr ⟨?_, (mainStep_buffer hMain).1⟩
      intro a' hEq
      cases hEq

theorem dataManagerStep_ended
    {l : BroadcastLog Reader (SensorData V)}
    (hRefines : s.buf.Refines l)
    (hRunning : s.ended = none)
    (hKept : s.Kept cfg sensorMap)
    {ok : Bool}
    (hStep : dataManagerStep cfg sensorMap s ok = some t) :
    t.ExitsUnless
      (FatalCallSucceeds sensorMap s (.datamgr ok)) := by
  have hGoes :
      s.datamgr.pc ≠ .openMap →
        s.datamgr.pc ≠ .printSensors →
          t.ended = none →
            t.ExitsUnless
              (FatalCallSucceeds sensorMap s
                (.datamgr ok)) := by
    intro hOpen hPrint hEnded
    exact Or.inl
      ⟨⟨fun hPc => absurd hPc hOpen,
        fun hPc => absurd hPc hPrint⟩, hEnded⟩
  unfold dataManagerStep at hStep
  cases hPc : s.datamgr.pc with
  | notStarted =>
      rw [hPc] at hStep
      cases hStep
  | returned =>
      rw [hPc] at hStep
      cases hStep
  | openMap =>
      simp only [hPc] at hStep
      cases ok with
      | true =>
          cases hStep
          refine Or.inl ⟨⟨fun _ => rfl, ?_⟩, hRunning⟩
          rw [hPc]
          intro hPrint
          cases hPrint
      | false =>
          cases hStep
          refine Or.inr ⟨?_, rfl⟩
          intro hAll
          cases hAll.1 hPc
  | loadMap =>
      rcases loadMap_holds cfg sensorMap with
        ⟨memory, hLoad, _⟩
      simp only [hPc, hLoad] at hStep
      cases hStep
      apply hGoes _ _ hRunning
      · simp [hPc]
      · simp [hPc]
  | readBuffer =>
      rcases readBuffer_of_refines hRefines .dataManagerInit
          (fun s => s.datamgrAt .readBuffer)
          (fun s => s.datamgrAt .handleRecord) with
        hNext | ⟨buf, _, hNext⟩
      all_goals
        simp only [hPc, hNext] at hStep
        cases hStep
        apply hGoes _ _ hRunning
        · simp [hPc]
        · simp [hPc]
  | handleRecord =>
      simp only [hPc] at hStep
      rcases handleRecord_of_holds cfg
          (hKept.entries (by rw [hPc]; rfl))
          (s.dataOf .dataManagerInit) with
        ⟨memory, hHandle, _⟩
      rw [hHandle] at hStep
      split at hStep
      all_goals
        cases hStep
        apply hGoes _ _ hRunning
        · simp [hPc]
        · simp [hPc]
  | printSensors =>
      have hPrint :=
        datamgrPrintSensors_of_holds
          (hKept.entries (by rw [hPc]; rfl))
      have hNil :
          (sensorEntries cfg).storeAll s.datamgr.handled
                (loadedEntries cfg sensorMap) = [] ↔
            sensorMap = [] := by
        rw [storeAll_loadedEntries]
        simp [entriesAfter]
      simp only [hNil] at hPrint
      simp only [hPc, hPrint] at hStep
      by_cases hMap : sensorMap = []
      · rw [if_pos hMap] at hStep
        cases hStep
        exact Or.inr ⟨fun hAll => hAll.2 hPc hMap, rfl⟩
      · rw [if_neg hMap] at hStep
        cases hStep
        refine Or.inl ⟨⟨?_, fun _ => hMap⟩, hRunning⟩
        simp [hPc]
  | freeList =>
      rcases datamgrFree_of_holds
          (hKept.entries (by rw [hPc]; rfl)) with
        ⟨memory, hFree, _⟩
      simp only [hPc, hFree] at hStep
      cases hStep
      apply hGoes _ _ hRunning
      · simp [hPc]
      · simp [hPc]

/-
  A step of the gateway ends the process exactly if it makes
  such a call and the call fails.
-/
theorem gatewayStep_ended
    (hSound : s.Sound MAX_CONN)
    (hKept : s.Kept cfg sensorMap)
    (hStored : s.Stored cfg sensorMap)
    (hRunning : s.ended = none)
    {a : GatewayAction}
    (hStep : gatewayStep MAX_CONN cfg sensorMap s a = some t) :
    t.ExitsUnless (FatalCallSucceeds sensorMap s a) := by
  cases gatewayStep_cases hStep with
  | conn a conn effects hConn hEq =>
      rw [hEq]
      exact connStep_ended hSound hRunning sensorMap hConn
  | storage ok hStorage =>
      rcases hSound.main_of_storage
          (storageStep_cases hStorage).1.2.2.2 with
        ⟨_, _, l, hRefines⟩
      exact storageStep_ended hRefines hRunning
        hSound.storage_counted.1 sensorMap hStorage
  | datamgr ok hDatamgr =>
      rcases hSound.main_of_datamgr
          (dataManagerStep_frame hDatamgr).2.2.2 with
        ⟨_, _, l, hRefines⟩
      exact dataManagerStep_ended hRefines hRunning hKept
        hDatamgr
  | main ok hMain =>
      exact mainStep_ended hStored.buffer_stores hRunning
        sensorMap hMain

/- So a run is cut short exactly by a fatal call that fails. -/
theorem gatewaySystem_ended
    {data : Reader → SensorData V}
    {labels : List GatewayAction}
    (hRun :
      (gatewaySystem TIMEOUT MAX_CONN cfg sensorMap
          data).run labels =
        some s) :
    s.ExitsUnless
      ((gatewaySystem TIMEOUT MAX_CONN cfg sensorMap
          data).Guarded
        (FatalCallSucceeds sensorMap) labels) := by
  refine System.run_induction _
    (fun labels s =>
      s.ExitsUnless
        ((gatewaySystem TIMEOUT MAX_CONN cfg sensorMap
            data).Guarded
          (FatalCallSucceeds sensorMap) labels))
    (Or.inl ⟨trivial, rfl⟩) ?_ hRun
  intro before s a t hBefore h hStep
  have hRunning : s.ended = none := gatewayStep_running hStep
  have hGuarded :
      (gatewaySystem TIMEOUT MAX_CONN cfg sensorMap
          data).Guarded
        (FatalCallSucceeds sensorMap) before := by
    rcases h with ⟨hGuarded, _⟩ | ⟨_, hEnded⟩
    · exact hGuarded
    · rw [hRunning] at hEnded
      cases hEnded
  have hHere :=
    gatewayStep_ended (gatewaySystem_sound hBefore)
      (gatewaySystem_kept hBefore)
      (gatewaySystem_stored hBefore) hRunning hStep
  unfold Gateway.ExitsUnless
  rw [System.guarded_snoc _ _ hBefore,
    and_iff_right hGuarded]
  exact hHere

/-
  No thread uses the server or the mutex beyond its life, as
  far as the connection manager has to do with it.
-/
def KeepsLifetime
    {L : Nat}
    (s : Gateway V TIMEOUT L) :
    GatewayAction → Prop
| .conn a => WithinLifetime s.conn a
| _ => True

instance
    {L : Nat}
    (s : Gateway V TIMEOUT L)
    (a : GatewayAction) :
    Decidable (KeepsLifetime s a) :=
  match a with
  | .conn a => inferInstanceAs (Decidable (WithinLifetime _ a))
  | .storage _ => inferInstanceAs (Decidable True)
  | .datamgr _ => inferInstanceAs (Decidable True)
  | .main _ => inferInstanceAs (Decidable True)

/- The shared objects are used while they exist. -/
theorem gatewaySystem_lifetimeSafe
    {data : Reader → SensorData V}
    {labels : List GatewayAction}
    (hKeeps :
      (gatewaySystem TIMEOUT MAX_CONN cfg sensorMap
          data).Guarded
        KeepsLifetime labels)
    (hRun :
      (gatewaySystem TIMEOUT MAX_CONN cfg sensorMap
          data).run labels =
        some s) :
    s.conn.LifetimeSafe := by
  refine System.invariant_of_guarded_step _ _
    (fun s : Gateway V TIMEOUT cfg.RUN_AVG_LENGTH =>
      s.conn.LifetimeSafe)
    ConnMgr.LifetimeSafe.start ?_ hKeeps hRun
  intro before s a t hBefore h hGuard hStep
  rcases gatewayStep_connAction hStep with
    ⟨a', effects, rfl, hConn, _⟩ | ⟨_, hConn⟩
  · have hSound := gatewaySystem_sound hBefore
    rcases hSound.conn_run with ⟨connLabels, hConnRun⟩
    exact h.of_connStep hSound.accounted
      (connSystem_phased hConnRun) hGuard hConn
  · rw [hConn]
    exact h

/-
  No run that keeps to the life of the server and the mutex
  goes wrong with a pointer, or fails an assertion. The
  process ends before the return of `main` exactly if a fatal
  call failed, and then by `exit`.
-/
theorem gatewaySystem_ended_iff
    {data : Reader → SensorData V}
    {labels : List GatewayAction}
    (hKeeps :
      (gatewaySystem TIMEOUT MAX_CONN cfg sensorMap
          data).Guarded
        KeepsLifetime labels)
    (hRun :
      (gatewaySystem TIMEOUT MAX_CONN cfg sensorMap
          data).run labels =
        some s) :
    (s.conn.server.usedAfterFree = false ∧
        s.conn.connMutex.usedAfterDestroy = false) ∧
      (s.ended = none ∨ s.ended = some .processExit) ∧
      (s.ended = none ↔
        (gatewaySystem TIMEOUT MAX_CONN cfg sensorMap
            data).Guarded
          (FatalCallSucceeds sensorMap) labels) := by
  have hSafe := gatewaySystem_lifetimeSafe hKeeps hRun
  refine ⟨⟨hSafe.server_unused, hSafe.mutex_unused⟩, ?_⟩
  rcases gatewaySystem_ended hRun with
    ⟨hGuarded, hEnded⟩ | ⟨hNot, hEnded⟩
  · exact ⟨Or.inl hEnded, fun _ => hGuarded, fun _ => hEnded⟩
  · refine ⟨Or.inr hEnded, ?_, fun hGuarded =>
      absurd hGuarded hNot⟩
    intro hNone
    rw [hNone] at hEnded
    cases hEnded

end Fatal

/- A gateway with an empty map, which can not be printed. -/
theorem ended_empty_map :
    ∃ s : Gateway (Fin (2 ^ 64)) 5
        wholeDegrees.RUN_AVG_LENGTH,
      (gatewaySystem 5 1 wholeDegrees []
            (fun _ => .endOfStream)).run
          (servedClient .closed 6 ++
            List.replicate 5 (.datamgr true)) =
        some s ∧
      s.ended = some .processExit ∧
      ¬(gatewaySystem 5 1 wholeDegrees []
            (fun _ => .endOfStream)).Guarded
          (FatalCallSucceeds [])
          (servedClient .closed 6 ++
            List.replicate 5 (.datamgr true)) := by
  have hEnd :
      ((gatewaySystem (V := Fin (2 ^ 64)) 5 1 wholeDegrees []
            (fun _ => .endOfStream)).run
          (servedClient .closed 6 ++
            List.replicate 5 (.datamgr true))).map
        (fun s => s.ended) =
      some (some .processExit) := by
    decide +kernel
  rw [Option.map_eq_some_iff] at hEnd
  rcases hEnd with ⟨s, hRun, hEnded⟩
  refine ⟨s, hRun, hEnded, ?_⟩
  have hKeeps :
      (gatewaySystem (V := Fin (2 ^ 64)) 5 1 wholeDegrees []
            (fun _ => .endOfStream)).Guarded
          KeepsLifetime
          (servedClient .closed 6 ++
            List.replicate 5 (.datamgr true)) := by
    have hChecked :
        ((gatewaySystem (V := Fin (2 ^ 64)) 5 1 wholeDegrees
              [] (fun _ => .endOfStream)).checkedRunFrom
            KeepsLifetime (.start (fun _ => .endOfStream))
            (servedClient .closed 6 ++
              List.replicate 5 (.datamgr true))).isSome =
          true := by
      decide +kernel
    rcases Option.isSome_iff_exists.mp hChecked with
      ⟨t, hChecked⟩
    exact System.guardedFrom_of_checkedRunFrom _ _ hChecked
  intro hGuarded
  rw [(gatewaySystem_ended_iff hKeeps hRun).2.2.mpr
    hGuarded] at hEnded
  cases hEnded

------------------------------------------------------------
-- The End of a Run
------------------------------------------------------------

section Ending

variable {V : Type}
variable [SensorValue V]
variable [Preorder V]
variable [DecidableLT V]
variable {TIMEOUT : Int}
variable {MAX_CONN : Nat}
variable {cfg : DatamgrConfig V}
variable {sensorMap : List (BitVec 16 × BitVec 16)}
variable {data : Reader → SensorData V}
variable {labels : List GatewayAction}
variable {s : Gateway V TIMEOUT cfg.RUN_AVG_LENGTH}

/- With memory, the listener has returned with its marker. -/
theorem gatewaySystem_shuttingDown
    (hAlloc :
      (gatewaySystem TIMEOUT MAX_CONN cfg sensorMap
          data).Guarded
        (AllocationSucceeds MAX_CONN) labels)
    (hRun :
      (gatewaySystem TIMEOUT MAX_CONN cfg sensorMap
          data).run labels =
        some s)
    (hReturned : s.conn.listener = .returned) :
    s.ShuttingDown MAX_CONN := by
  refine ⟨gatewaySystem_sound hRun, hReturned,
    .endOfStream, ?_, rfl⟩
  have hMarker :=
    (gatewaySystem_written hAlloc hRun).ofTag_connmgrListen
  rw [if_pos hReturned] at hMarker
  have hMem :
      SensorData.endOfStream ∈
        ofTag .connmgrListen s.buf.inserted := by
    rw [hMarker]
    exact List.mem_singleton_self _
  rcases List.mem_map.mp hMem with ⟨e, hInserted, hData⟩
  rw [← hData]
  exact List.mem_map_of_mem (List.mem_of_mem_filter hInserted)

/-
  From the return of the listener on, the gateway comes to its
  end, however its threads take turns: the steps that are left
  are limited, and until it is over there is one, unless the
  creation of a thread has failed unnoticed. If no fatal call
  fails, it is over when `main` returns.
-/
theorem gatewaySystem_shutsDown
    (hAlloc :
      (gatewaySystem TIMEOUT MAX_CONN cfg sensorMap
          data).Guarded
        (AllocationSucceeds MAX_CONN) labels)
    (hRun :
      (gatewaySystem TIMEOUT MAX_CONN cfg sensorMap
          data).run labels =
        some s)
    (hReturned : s.conn.listener = .returned) :
    (∀ more t,
      (gatewaySystem TIMEOUT MAX_CONN cfg sensorMap
          data).runFrom s more = some t →
        more.length ≤ s.remaining ∧
          ((gatewaySystem TIMEOUT MAX_CONN cfg sensorMap
                data).Guarded
              ThreadsCreated (labels ++ more) →
            t.Over ∨
              ∃ a u,
                gatewayStep MAX_CONN cfg sensorMap t a =
                  some u)) ∧
    ((gatewaySystem TIMEOUT MAX_CONN cfg sensorMap
          data).Guarded
        ThreadsCreated labels →
      ∃ more t,
        (∀ a ∈ more, a.ok = true) ∧
          (gatewaySystem TIMEOUT MAX_CONN cfg sensorMap
              data).runFrom s more = some t ∧
          t.Over) ∧
    (∀ more t,
      (gatewaySystem TIMEOUT MAX_CONN cfg sensorMap
          data).runFrom s more = some t →
        t.Over →
          (gatewaySystem TIMEOUT MAX_CONN cfg sensorMap
              data).Guarded
            (FatalCallSucceeds sensorMap)
            (labels ++ more) →
          t.main = .returned ∧ t.ended = none) := by
  have hStart :=
    gatewaySystem_shuttingDown hAlloc hRun hReturned
  have hRuns :
      ∀ more t,
        (gatewaySystem TIMEOUT MAX_CONN cfg sensorMap
            data).runFrom s more = some t →
          (gatewaySystem TIMEOUT MAX_CONN cfg sensorMap
              data).run (labels ++ more) = some t :=
    fun more t hMore =>
      (System.run_append _ labels more t).mpr
        ⟨s, hRun, hMore⟩
  refine ⟨?_, ?_, ?_⟩
  · intro more t hMore
    rcases (gatewaySystem_settling data).progress hStart
        (fun _ _ => trivial) hMore with
      ⟨hLength, hNext⟩
    refine ⟨hLength, fun hCreated => ?_⟩
    have hExist :=
      gatewaySystem_readersExist hCreated (hRuns more t hMore)
    rcases hNext with (hOver | hMissing) | ⟨a, u, _, hStep⟩
    · exact Or.inl hOver
    · exact absurd hExist hMissing
    · exact Or.inr ⟨a, u, hStep⟩
  · intro hCreated
    exact (gatewaySystem_settling_of_ok data).finishes
      ⟨hStart, gatewaySystem_readersExist hCreated hRun⟩
  · intro more t hMore hOver hGuarded
    have hEnded := gatewaySystem_ended (hRuns more t hMore)
    rcases hEnded with ⟨_, hNone⟩ | ⟨hNot, _⟩
    · exact ⟨hOver.resolve_left (fun hSome => hSome hNone),
        hNone⟩
    · exact absurd hGuarded hNot

end Ending

/- A client that is closed before it sends anything. -/
theorem shutsDown_one_client :
    ∃ s t : Gateway (Fin (2 ^ 64)) 5
        wholeDegrees.RUN_AVG_LENGTH,
      ∃ more,
        (gatewaySystem 5 1 wholeDegrees [(1, 15)]
              (fun _ => .endOfStream)).run
            (servedClient .closed 6) =
          some s ∧
        s.remaining = 29 ∧
        (gatewaySystem 5 1 wholeDegrees [(1, 15)]
              (fun _ => .endOfStream)).runFrom s more =
          some t ∧
        more.length ≤ 29 ∧ t.Over := by
  have hState :
      ((gatewaySystem (V := Fin (2 ^ 64)) 5 1 wholeDegrees
            [(1, 15)] (fun _ => .endOfStream)).run
          (servedClient .closed 6)).map
        (fun s => (s.conn.listener, s.remaining)) =
      some (.returned, 29) := by
    decide +kernel
  rw [Option.map_eq_some_iff] at hState
  rcases hState with ⟨s, hRun, hEq⟩
  simp only [Prod.mk.injEq] at hEq
  rcases hEq with ⟨hReturned, hRemaining⟩
  rcases gatewaySystem_shutsDown (guarded_of_ok (by decide))
      hRun hReturned with
    ⟨hBound, hEnds, _⟩
  have hCreated :
      (gatewaySystem (V := Fin (2 ^ 64)) 5 1 wholeDegrees
            [(1, 15)] (fun _ => .endOfStream)).Guarded
          ThreadsCreated (servedClient .closed 6) :=
    guarded_of_all_ok
      (fun s _ hOk => threadsCreated_of_ok hOk s) (by decide)
  rcases hEnds hCreated with ⟨more, t, _, hMore, hOver⟩
  refine ⟨s, t, more, hRun, hRemaining, hMore, ?_, hOver⟩
  rw [← hRemaining]
  exact (hBound more t hMore).1

end SensorGateway
