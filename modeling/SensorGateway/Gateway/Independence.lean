import SensorGateway.Datamgr.Semantics
import SensorGateway.Gateway.NoDataLoss

/-
  Sensors do not disturb each other: if each client sends
  records of one sensor and no two clients share one, then
  how the clients are interleaved changes neither the entries
  of the data manager nor what it reports on any sensor.

  Key definitions include:
    * `Gateway.sensorReports`
    * `Gateway.Kept`
    * `Gateway.OneSensorEach`

  Key theorems include:
    * `gatewaySystem_kept`
    * `Gateway.filter_clientRecords`
    * `gatewaySystem_independence`
-/

------------------------------------------------------------
-- The Memory of the Data Manager
------------------------------------------------------------

namespace SensorGateway

open Foundations

section Memory

variable {V : Type}
variable [SensorValue V]
variable {TIMEOUT : Int}

/- What the data manager reported on sensors, in order. -/
def Gateway.sensorReports
    {L : Nat}
    (s : Gateway V TIMEOUT L) :
    List (LogMsg V) :=
  (ofTag .dataManagerInit s.log).filter
    (fun msg => msg.reportedSensor.isSome)

/- A text of the data manager reports on no sensor. -/
theorem Gateway.sensorReports_writeLog
    {L : Nat}
    (s : Gateway V TIMEOUT L)
    (msg : String) :
    (s.writeLog .dataManagerInit (.text msg)).sensorReports =
      s.sensorReports := by
  simp [sensorReports, writeLog, ofTag_singleton,
    LogMsg.reportedSensor]

variable [Preorder V]
variable [DecidableLT V]
variable {cfg : DatamgrConfig V}
variable {sensorMap : List (BitVec 16 × BitVec 16)}

/-
  While it has its list, the data manager keeps the entries
  that its records make of the map; and it has reported what
  they give reason to.
-/
structure Gateway.Kept
    (cfg : DatamgrConfig V)
    (sensorMap : List (BitVec 16 × BitVec 16))
    (s : Gateway V TIMEOUT cfg.RUN_AVG_LENGTH) : Prop where
  unhandled :
    s.datamgr.pc.loads = true → s.datamgr.handled = []
  entries :
    s.datamgr.pc.holdsList = true →
      s.datamgr.memory.Holds
        ((sensorEntries cfg).storeAll s.datamgr.handled
          (loadedEntries cfg sensorMap))
  reports :
    s.sensorReports =
      entriesLog cfg (loadedEntries cfg sensorMap)
        s.datamgr.handled

namespace Gateway.Kept

variable {s t : Gateway V TIMEOUT cfg.RUN_AVG_LENGTH}

/- A step after which the data manager is as before. -/
theorem of_frame
    (h : s.Kept cfg sensorMap)
    (hMemory : t.datamgr.memory = s.datamgr.memory)
    (hHandled : t.datamgr.handled = s.datamgr.handled)
    (hLoads :
      t.datamgr.pc.loads = true → s.datamgr.pc.loads = true)
    (hHolds :
      t.datamgr.pc.holdsList = true →
        s.datamgr.pc.holdsList = true)
    (hReports : t.sensorReports = s.sensorReports) :
    t.Kept cfg sensorMap := by
  constructor
  · rw [hHandled]
    exact fun hPc => h.unhandled (hLoads hPc)
  · rw [hHandled, hMemory]
    exact fun hPc => h.entries (hHolds hPc)
  · rw [hHandled, hReports]
    exact h.reports

/- A record that is handled. -/
theorem of_handled
    (h : s.Kept cfg sensorMap)
    (hPc : s.datamgr.pc.holdsList = true)
    {record : SensorData V}
    {memory : Datamgr V cfg.RUN_AVG_LENGTH}
    {msgs : List (LogMsg V)}
    (hHandle :
      handleRecord cfg s.datamgr.memory record =
        .ok (memory, msgs))
    (hDatamgr :
      t.datamgr =
        { pc := .readBuffer
          memory := memory
          handled := s.datamgr.handled ++ [record] })
    (hLog :
      t.log =
        s.log ++
          msgs.map (fun msg => (Thread.dataManagerInit, msg))) :
    t.Kept cfg sensorMap := by
  rcases handleRecord_of_holds cfg (h.entries hPc) record with
    ⟨memory', hHandle', hHolds⟩
  rw [hHandle] at hHandle'
  injection hHandle' with hPair
  injection hPair with hMemory hMsgs
  have hTag :
      ofTag .dataManagerInit
          (msgs.map
            (fun msg => (Thread.dataManagerInit, msg))) =
        msgs := by
    simp [ofTag, List.filter_map, Function.comp_def]
  have hAll :
      msgs.filter (fun msg => msg.reportedSensor.isSome) =
        msgs := by
    rw [List.filter_eq_self]
    intro msg hMem
    rw [hMsgs] at hMem
    rw [reportedSensor_of_recordReport cfg _ record msg _
      hMem]
    · rfl
    · intro e hFound
      have hKey := List.find?_some hFound
      rw [decide_eq_true_eq] at hKey
      exact hKey
  constructor
  · rw [hDatamgr]
    intro hLoads
    cases hLoads
  · intro _
    rw [hDatamgr, hMemory]
    have hStore :
        (sensorEntries cfg).storeAll
            (s.datamgr.handled ++ [record])
            (loadedEntries cfg sensorMap) =
          (sensorEntries cfg).store record
            ((sensorEntries cfg).storeAll s.datamgr.handled
              (loadedEntries cfg sensorMap)) := by
      simp [KeyedFold.storeAll]
    simp only
    rw [hStore]
    exact hHolds
  · have hReports := h.reports
    unfold sensorReports at *
    unfold entriesLog at *
    rw [hLog, ofTag_append, hTag, List.filter_append, hAll,
      hReports, hDatamgr, KeyedFold.reports_concat, hMsgs]
    rfl

theorem of_dataManagerStep
    (h : s.Kept cfg sensorMap)
    {ok : Bool}
    (hStep : dataManagerStep cfg sensorMap s ok = some t) :
    t.Kept cfg sensorMap := by
  cases dataManagerStep_cases hStep with
  | ended f hEq =>
      rw [hEq]
      exact h.of_frame rfl rfl id id rfl
  | opened hPc hEq =>
      rw [hEq]
      refine h.of_frame rfl rfl ?_ ?_
        (sensorReports_writeLog s _)
      · rw [hPc]
        exact fun _ => rfl
      · intro hHolds
        cases hHolds
  | loaded memory hPc hLoad hEq =>
      have hNone : s.datamgr.handled = [] := by
        apply h.unhandled
        rw [hPc]
        rfl
      rcases loadMap_holds cfg sensorMap with
        ⟨memory', hLoad', hHolds⟩
      rw [hLoad] at hLoad'
      injection hLoad' with hMemory
      rw [hEq]
      constructor
      · intro hLoads
        cases hLoads
      · intro _
        simp only
        rw [hMemory, hNone]
        exact hHolds
      · have hReports := h.reports
        rw [← sensorReports_writeLog s
          "Sensor mapping process complete\n"] at hReports
        exact hReports
  | read hPc hEq =>
      have hHolds : s.datamgr.pc.holdsList = true := by
        rw [hPc]
        rfl
      rw [hEq]
      unfold Gateway.readBuffer
      split
      · exact h.of_frame rfl rfl id id rfl
      · split
        · refine h.of_frame rfl rfl ?_ (fun _ => hHolds) rfl
          intro hLoads
          cases hLoads
        · refine h.of_frame rfl rfl ?_ (fun _ => hHolds) rfl
          intro hLoads
          cases hLoads
  | handled memory msgs hPc hId hHandle hEq =>
      refine h.of_handled ?_ hHandle ?_ ?_
      · rw [hPc]
        rfl
      · rw [hEq]
      · rw [hEq]
  | stopped hPc hId hEq =>
      rw [hEq]
      refine h.of_frame rfl rfl ?_ ?_ rfl
      · intro hLoads
        cases hLoads
      · rw [hPc]
        exact fun _ => rfl
  | printed hPc hEq =>
      rw [hEq]
      refine h.of_frame rfl rfl ?_ ?_ rfl
      · intro hLoads
        cases hLoads
      · rw [hPc]
        exact fun _ => rfl
  | freed memory hPc hEq =>
      rw [hEq]
      constructor
      · intro hLoads
        cases hLoads
      · intro hHolds
        cases hHolds
      · exact h.reports

/- Every step of the gateway keeps the entries. -/
theorem of_gatewayStep
    {MAX_CONN : Nat}
    (h : s.Kept cfg sensorMap)
    (hSound : s.Sound MAX_CONN)
    {a : GatewayAction}
    (hStep : gatewayStep MAX_CONN cfg sensorMap s a = some t) :
    t.Kept cfg sensorMap := by
  cases gatewayStep_cases hStep with
  | conn a conn effects hConn hEq =>
      have hDatamgr : t.datamgr = s.datamgr := by
        rw [hEq]
        exact (Gateway.perform_frame a.thread
          { s with conn := conn } effects).2.2.1
      refine h.of_frame (by rw [hDatamgr])
        (by rw [hDatamgr]) ?_ ?_ ?_
      · rw [hDatamgr]
        exact id
      · rw [hDatamgr]
        exact id
      · unfold sensorReports
        rw [hEq, Gateway.perform_log_of_ne]
        cases a with
        | listener ok input =>
            intro hThread
            cases hThread
        | excess ok =>
            intro hThread
            cases hThread
        | handler i ok =>
            intro hThread
            cases hThread
  | storage ok hStorage =>
      have hDatamgr := (storageStep_cases hStorage).1.2.1
      refine h.of_frame (by rw [hDatamgr])
        (by rw [hDatamgr]) ?_ ?_ ?_
      · rw [hDatamgr]
        exact id
      · rw [hDatamgr]
        exact id
      · unfold sensorReports
        rw [storageStep_log hStorage]
  | datamgr ok hDatamgr => exact h.of_dataManagerStep hDatamgr
  | main ok hMain =>
      rcases mainStep_datamgr hMain with
        ⟨hMemory, hHandled, hPc⟩
      refine h.of_frame hMemory hHandled ?_ ?_ ?_
      · intro hLoads
        rcases hPc with ⟨hSame, _⟩ | ⟨hStarts, _⟩
        · rw [← hSame]
          exact hLoads
        · rw [hSound.datamgr_unstarted hStarts]
          rfl
      · intro hHolds
        rcases hPc with ⟨hSame, _⟩ | ⟨_, _, _, hOpen⟩
        · rw [← hSame]
          exact hHolds
        · rw [hOpen] at hHolds
          cases hHolds
      · unfold sensorReports
        rw [mainStep_log hMain]

end Gateway.Kept

/- In every run, the entries are as the records made them. -/
theorem gatewaySystem_kept
    {MAX_CONN : Nat}
    {data : Reader → SensorData V}
    {labels : List GatewayAction}
    {s : Gateway V TIMEOUT cfg.RUN_AVG_LENGTH}
    (hRun :
      (gatewaySystem TIMEOUT MAX_CONN cfg sensorMap
          data).run labels =
        some s) :
    s.Kept cfg sensorMap := by
  have hBoth :=
    System.invariant_of_step _
      (fun s : Gateway V TIMEOUT cfg.RUN_AVG_LENGTH =>
        s.Sound MAX_CONN ∧ s.Kept cfg sensorMap)
      ⟨Gateway.Sound.start data, by
        constructor
        · exact fun _ => rfl
        · intro hHolds
          cases hHolds
        · rfl⟩
      (fun _ _ _ h hStep =>
        ⟨h.1.of_gatewayStep hStep,
          h.2.of_gatewayStep h.1 hStep⟩)
      hRun
  exact hBoth.2

end Memory

------------------------------------------------------------
-- Sessions of One Sensor
------------------------------------------------------------

section Sessions

variable {V : Type}
variable [SensorValue V]
variable {TIMEOUT : Int}
variable {MAX_CONN : Nat}
variable {L : Nat}

/-
  The records of each session carry one id, which is not
  zero, and no two sessions share an id.
-/
structure OneSensorEach
    (sessions : List (List (SensorData V))) : Prop where
  one_id :
    ∀ session ∈ sessions,
      ∃ id : SensorId,
        id ≠ 0 ∧ ∀ record ∈ session, record.id = id
  distinct :
    sessions.Pairwise
      (fun xs ys => ∀ x ∈ xs, ∀ y ∈ ys, x.id ≠ y.id)

/- The sessions of the handlers, in the order of starts. -/
def Gateway.sessions
    (s : Gateway V TIMEOUT L) :
    List (List (SensorData V)) :=
  s.conn.handlers.map HandlerThread.session

omit [SensorValue V] in
/- The order of the sessions does not matter. -/
theorem OneSensorEach.of_perm
    {xs ys : List (List (SensorData V))}
    (h : OneSensorEach xs)
    (hPerm : xs.Perm ys) :
    OneSensorEach ys := by
  constructor
  · intro session hMem
    exact h.one_id session (hPerm.mem_iff.mpr hMem)
  · refine hPerm.pairwise h.distinct ?_
    intro xs ys hNe x hx y hy hEq
    exact hNe y hy x hx hEq.symm

omit [SensorValue V] in
/- Sessions at different places share no id. -/
theorem OneSensorEach.ne_of_ne
    {sessions : List (List (SensorData V))}
    (h : OneSensorEach sessions)
    {i j : Nat}
    {xs ys : List (SensorData V)}
    (hXs : sessions[i]? = some xs)
    (hYs : sessions[j]? = some ys)
    (hNe : i ≠ j) :
    ∀ x ∈ xs, ∀ y ∈ ys, x.id ≠ y.id := by
  rcases List.getElem?_eq_some_iff.mp hXs with ⟨hI, rfl⟩
  rcases List.getElem?_eq_some_iff.mp hYs with ⟨hJ, rfl⟩
  have hPairs := List.pairwise_iff_getElem.mp h.distinct
  rcases Nat.lt_or_gt_of_ne hNe with hLt | hLt
  · exact hPairs i j hI hJ hLt
  · intro x hx y hy hEq
    exact hPairs j i hJ hI hLt y hy x hx hEq.symm

/- What a thread inserts into the buffer, from end to end. -/
def Gateway.threadSession
    (s : Gateway V TIMEOUT L) :
    Thread → List (SensorData V)
| .clientHandler i => (s.sessions[i]?).getD []
| _ => []

variable {s : Gateway V TIMEOUT L}

/- The records of the clients interleave the sessions. -/
theorem Gateway.Written.isInterleaving
    (h : s.Written)
    (hSound : s.Sound MAX_CONN)
    (hReturned : s.conn.listener = .returned) :
    IsInterleaving s.threadSession s.clientRecords := by
  rcases h with ⟨clients, hInserted, hClients, hTags⟩
  refine ⟨clients, ?_, ?_⟩
  · exact
      (Gateway.clientRecords_of_inserted hInserted
        hClients).symm
  · intro w
    cases w with
    | clientHandler i =>
        rw [hTags i,
          hSound.accounted.handlerRecords_eq_sessionOf (by
            rw [hReturned]
            rfl)]
        rw [threadSession, sessions, ConnMgr.sessionOf,
          List.getElem?_map]
        cases s.conn.handlers[i]? with
        | none => rfl
        | some handler => rfl
    | _ =>
        apply ofTag_eq_nil
        intro e hMem hTag
        rcases hClients e hMem with ⟨i, hI⟩
        rw [hTag] at hI
        cases hI

/- The records with the id of a session are the session. -/
theorem Gateway.filter_clientRecords
    (hInterleaving :
      IsInterleaving s.threadSession s.clientRecords)
    (hOne : OneSensorEach s.sessions)
    {session : List (SensorData V)}
    (hSession : session ∈ s.sessions)
    {record : SensorData V}
    (hRecord : record ∈ session) :
    ofSensor record.id s.clientRecords = session := by
  rcases List.mem_iff_getElem?.mp hSession with ⟨i, hGet⟩
  have hOwn :
      s.threadSession (.clientHandler i) = session := by
    simp [threadSession, hGet]
  rw [← hOwn]
  apply hInterleaving.filter_eq
  · intro x hx
    rw [hOwn] at hx
    rcases hOne.one_id session hSession with
      ⟨id, _, hId⟩
    rw [hId x hx, hId record hRecord]
    exact decide_eq_true rfl
  · intro w hNe x hx
    cases w with
    | clientHandler j =>
        have hIndex : j ≠ i := by
          intro hEq
          exact hNe (congrArg Thread.clientHandler hEq)
        rw [threadSession] at hx
        cases hOther : s.sessions[j]? with
        | none =>
            rw [hOther] at hx
            cases hx
        | some other =>
            rw [hOther] at hx
            exact decide_eq_false
              (hOne.ne_of_ne hOther hGet hIndex x hx record
                hRecord)
    | _ => cases hx

/- Without a session of the sensor, it has no record. -/
theorem Gateway.filter_clientRecords_eq_nil
    (hWritten : s.Written)
    {id : SensorId}
    (hNone :
      ∀ session ∈ s.sessions, ∀ record ∈ session,
        record.id ≠ id) :
    ofSensor id s.clientRecords = [] := by
  unfold ofSensor
  rw [List.filter_eq_nil_iff]
  intro record hMem
  rcases hWritten.exists_session hMem with
    ⟨handler, hHandler, hRecord⟩
  simpa using
    hNone handler.session (List.mem_map_of_mem hHandler)
      record hRecord

/-
  The same sessions in two runs: each sensor has the same
  records in the same order.
-/
theorem Gateway.ofSensor_clientRecords
    {s₁ s₂ : Gateway V TIMEOUT L}
    (h₁ : s₁.Written)
    (h₂ : s₂.Written)
    (hInterleaving₁ :
      IsInterleaving s₁.threadSession s₁.clientRecords)
    (hInterleaving₂ :
      IsInterleaving s₂.threadSession s₂.clientRecords)
    (hOne : OneSensorEach s₁.sessions)
    (hPerm : s₁.sessions.Perm s₂.sessions)
    (id : SensorId) :
    ofSensor id s₁.clientRecords =
      ofSensor id s₂.clientRecords := by
  by_cases hSome :
      ∃ session ∈ s₁.sessions, ∃ record ∈ session,
        record.id = id
  · rcases hSome with
      ⟨session, hSession, record, hRecord, rfl⟩
    rw [Gateway.filter_clientRecords hInterleaving₁ hOne
        hSession hRecord,
      Gateway.filter_clientRecords hInterleaving₂
        (hOne.of_perm hPerm) (hPerm.mem_iff.mp hSession)
        hRecord]
  · have hNone :
        ∀ session ∈ s₁.sessions, ∀ record ∈ session,
          record.id ≠ id := by
      intro session hSession record hRecord hEq
      exact hSome ⟨session, hSession, record, hRecord, hEq⟩
    have hNone₂ :
        ∀ session ∈ s₂.sessions, ∀ record ∈ session,
          record.id ≠ id := by
      intro session hSession
      exact hNone session (hPerm.mem_iff.mpr hSession)
    rw [Gateway.filter_clientRecords_eq_nil h₁ hNone,
      Gateway.filter_clientRecords_eq_nil h₂ hNone₂]

/- Sessions with ids other than zero send no marker. -/
theorem OneSensorEach.noZeroIds
    (h : OneSensorEach s.sessions) :
    s.NoZeroIds := by
  intro handler hHandler record hRecord
  rcases h.one_id handler.session
      (List.mem_map_of_mem hHandler) with
    ⟨id, hId, hAll⟩
  rw [hAll record hRecord]
  exact hId

end Sessions

------------------------------------------------------------
-- Two Runs
------------------------------------------------------------

section TwoRuns

variable {V : Type}
variable [SensorValue V]
variable [Preorder V]
variable [DecidableLT V]
variable {TIMEOUT : Int}
variable {cfg : DatamgrConfig V}
variable {sensorMap : List (BitVec 16 × BitVec 16)}

/- The reports of the data manager on a sensor, in order. -/
def Gateway.reportsOn
    {L : Nat}
    (s : Gateway V TIMEOUT L)
    (id : SensorId) :
    List (LogMsg V) :=
  (ofTag .dataManagerInit s.log).filter
    (fun msg => msg.reportedSensor = some id)

/- The reports on a sensor, by the records of the sensor. -/
theorem Gateway.Kept.reportsOn_eq
    {s : Gateway V TIMEOUT cfg.RUN_AVG_LENGTH}
    (h : s.Kept cfg sensorMap)
    (id : SensorId) :
    s.reportsOn id =
      entriesLog cfg (loadedEntries cfg sensorMap)
        (ofSensor id s.datamgr.handled) := by
  have hSub :
      s.reportsOn id =
        s.sensorReports.filter
          (fun msg => msg.reportedSensor = some id) := by
    unfold reportsOn sensorReports
    rw [List.filter_filter]
    apply List.filter_congr
    intro msg _
    cases msg.reportedSensor with
    | none => rfl
    | some sensor => simp
  rw [hSub, h.reports]
  exact
    (sensorEntries cfg).filter_reports (recordReport cfg)
      LogMsg.reportedSensor
      (fun found record msg hFound hMem =>
        reportedSensor_of_recordReport cfg found record msg
          hFound hMem)
      (loadedEntries cfg sensorMap) s.datamgr.handled id

/-
  Two runs with the same map, and with the same sessions in
  any order and interleaving: the data manager ends with the
  same entries and has reported the same on each sensor.
-/
theorem gatewaySystem_independence
    {MAX_CONN₁ MAX_CONN₂ : Nat}
    {data₁ data₂ : Reader → SensorData V}
    {labels₁ labels₂ : List GatewayAction}
    {s₁ s₂ : Gateway V TIMEOUT cfg.RUN_AVG_LENGTH}
    (hAlloc₁ :
      (gatewaySystem TIMEOUT MAX_CONN₁ cfg sensorMap
          data₁).Guarded
        (AllocationSucceeds MAX_CONN₁) labels₁)
    (hAlloc₂ :
      (gatewaySystem TIMEOUT MAX_CONN₂ cfg sensorMap
          data₂).Guarded
        (AllocationSucceeds MAX_CONN₂) labels₂)
    (hRun₁ :
      (gatewaySystem TIMEOUT MAX_CONN₁ cfg sensorMap
          data₁).run labels₁ =
        some s₁)
    (hRun₂ :
      (gatewaySystem TIMEOUT MAX_CONN₂ cfg sensorMap
          data₂).run labels₂ =
        some s₂)
    (hLeft₁ : s₁.phaseOf .dataManagerInit = .left)
    (hLeft₂ : s₂.phaseOf .dataManagerInit = .left)
    (hSessions : s₁.sessions.Perm s₂.sessions)
    (hOne : OneSensorEach s₁.sessions) :
    (∃ entries,
      (s₁.datamgr.pc.holdsList = true →
        s₁.datamgr.memory.Holds entries) ∧
      (s₂.datamgr.pc.holdsList = true →
        s₂.datamgr.memory.Holds entries)) ∧
    ∀ id, s₁.reportsOn id = s₂.reportsOn id := by
  have hSound₁ := gatewaySystem_sound hRun₁
  have hSound₂ := gatewaySystem_sound hRun₂
  have hWritten₁ := gatewaySystem_written hAlloc₁ hRun₁
  have hWritten₂ := gatewaySystem_written hAlloc₂ hRun₂
  have hKept₁ := gatewaySystem_kept hRun₁
  have hKept₂ := gatewaySystem_kept hRun₂
  rcases hSound₁.stopped_at_marker hWritten₁ hOne.noZeroIds
      hLeft₁ with
    ⟨hReturned₁, hHandled₁⟩
  rcases hSound₂.stopped_at_marker hWritten₂
      (hOne.of_perm hSessions).noZeroIds hLeft₂ with
    ⟨hReturned₂, hHandled₂⟩
  have hSame :
      ∀ id,
        ofSensor id s₁.datamgr.handled =
          ofSensor id s₂.datamgr.handled := by
    intro id
    have hEq :=
      Gateway.ofSensor_clientRecords hWritten₁ hWritten₂
        (hWritten₁.isInterleaving hSound₁ hReturned₁)
        (hWritten₂.isInterleaving hSound₂ hReturned₂)
        hOne hSessions id
    rw [← hHandled₁, ← hHandled₂] at hEq
    exact hEq
  constructor
  · refine
      ⟨(sensorEntries cfg).storeAll s₁.datamgr.handled
        (loadedEntries cfg sensorMap), hKept₁.entries, ?_⟩
    rw [(sensorEntries cfg).storeAll_congr hSame]
    exact hKept₂.entries
  · intro id
    rw [hKept₁.reportsOn_eq, hKept₂.reportsOn_eq, hSame]

end TwoRuns

/-
  Two clients that send one record each; the handler `first`
  is through before the handler `second` starts.
-/
def twoClients
    (first second : Nat) :
    List GatewayAction :=
  let inputA : HandlerInput :=
    .ofRecords (V := Fin (2 ^ 64))
      [⟨15, SensorValue.ofBits 60, 1000⟩]
  let inputB : HandlerInput :=
    .ofRecords (V := Fin (2 ^ 64))
      [⟨21, SensorValue.ofBits 5, 1001⟩]
  List.replicate 4 (.main true) ++
    List.replicate 12 (.conn (.listener true inputA)) ++
    List.replicate 13 (.conn (.listener true inputB)) ++
    List.replicate 9 (.conn (.handler first true)) ++
    List.replicate 9 (.conn (.handler second true)) ++
    List.replicate 9 (.conn (.listener true inputB)) ++
    List.replicate 2 (.conn (.excess true)) ++
    List.replicate 3 (.conn (.listener true inputB)) ++
    List.replicate 8 (.datamgr true)

/- The gateway with a map of the two sensors. -/
def twoSensors :
    System
      (Gateway (Fin (2 ^ 64)) 5 wholeDegrees.RUN_AVG_LENGTH)
      GatewayAction :=
  gatewaySystem 5 2 wholeDegrees [(1, 15), (2, 21)]
    (fun _ => .endOfStream)

/- The records of the two clients in both orders. -/
theorem independence_two_clients :
    ∃ s₁ s₂,
      (twoSensors.run (twoClients 0 1) = some s₁ ∧
        twoSensors.run (twoClients 1 0) = some s₂) ∧
      (s₁.clientRecords =
          [⟨15, 60, 1000⟩, ⟨21, 5, 1001⟩] ∧
        s₂.clientRecords =
          [⟨21, 5, 1001⟩, ⟨15, 60, 1000⟩]) ∧
      (∃ entries,
        (s₁.datamgr.pc.holdsList = true →
          s₁.datamgr.memory.Holds entries) ∧
        (s₂.datamgr.pc.holdsList = true →
          s₂.datamgr.memory.Holds entries)) ∧
      ∀ id, s₁.reportsOn id = s₂.reportsOn id := by
  have hEnd₁ :
      (twoSensors.run (twoClients 0 1)).map
          (fun s =>
            (s.clientRecords, s.sessions,
              s.phaseOf .dataManagerInit)) =
        some
          ([⟨15, 60, 1000⟩, ⟨21, 5, 1001⟩],
            [[⟨15, 60, 1000⟩], [⟨21, 5, 1001⟩]], .left) := by
    decide +kernel
  have hEnd₂ :
      (twoSensors.run (twoClients 1 0)).map
          (fun s =>
            (s.clientRecords, s.sessions,
              s.phaseOf .dataManagerInit)) =
        some
          ([⟨21, 5, 1001⟩, ⟨15, 60, 1000⟩],
            [[⟨15, 60, 1000⟩], [⟨21, 5, 1001⟩]], .left) := by
    decide +kernel
  rw [Option.map_eq_some_iff] at hEnd₁ hEnd₂
  rcases hEnd₁ with ⟨s₁, hRun₁, hState₁⟩
  rcases hEnd₂ with ⟨s₂, hRun₂, hState₂⟩
  simp only [Prod.mk.injEq] at hState₁ hState₂
  rcases hState₁ with ⟨hRecords₁, hSessions₁, hLeft₁⟩
  rcases hState₂ with ⟨hRecords₂, hSessions₂, hLeft₂⟩
  refine ⟨s₁, s₂, ⟨hRun₁, hRun₂⟩, ⟨hRecords₁, hRecords₂⟩,
    gatewaySystem_independence
      (guarded_of_ok (by decide)) (guarded_of_ok (by decide))
      hRun₁ hRun₂ hLeft₁ hLeft₂ ?_ ?_⟩
  · rw [hSessions₁, hSessions₂]
  · rw [hSessions₁]
    constructor
    · intro session hMem
      simp only [List.mem_cons, List.not_mem_nil, or_false]
        at hMem
      rcases hMem with rfl | rfl
      · exact ⟨15, by decide, by simp⟩
      · exact ⟨21, by decide, by simp⟩
    · simp

end SensorGateway
