import SensorGateway.Foundations.Population
import SensorGateway.Gateway.NoDataLoss

/-
  The lines that report on insertions, and the records that
  the handlers insert.

  A handler reports each of its insertions by a line with the
  id that it remembers from its first receive, whatever the
  record holds and whatever `sbuffer_insert` returns. So the
  lines agree with the buffer in runs in which each inserted
  record has memory and the remembered id.

  Key definitions include:
    * `HandlerEffect.owed`
    * `Reports`
    * `HandlerThread.remembered`
    * `InsertsRememberedId`
    * `Gateway.insertionLines`
    * `Gateway.insertedRecords`

  Key theorems include:
    * `clientHandler_reports`
    * `HandlerThread.owed_advance`
    * `gatewaySystem_insertionLog`
    * `insertionLog_disagrees`
-/

------------------------------------------------------------
-- The Line Behind an Insertion
------------------------------------------------------------

namespace SensorGateway

open Foundations

section Effects

variable {V : Type}

namespace HandlerEffect

/- The line that comes next, if it reports an insertion. -/
def owed :
    List (HandlerEffect V) → Option SensorId
| .log (.dataInsert id) :: _ => some id
| _ => none

/- The record that is inserted next. -/
def nextInsert :
    List (HandlerEffect V) → Option (SensorData V)
| .sbufferInsert data :: _ => some data
| _ => none

/- The effect is an insertion. -/
def isInsert :
    HandlerEffect V → Bool
| .sbufferInsert _ => true
| _ => false

/- The id that the effect logs as that of the connection. -/
def opens :
    HandlerEffect V → Option SensorId
| .log (.sensorConnection id) => some id
| _ => none

/- The id that the connection was last logged with. -/
def remembered
    (opened : Option SensorId)
    (effects : List (HandlerEffect V)) :
    Option SensorId :=
  effects.foldl (fun opened e => e.opens.or opened) opened

end HandlerEffect

/-
  A line on an insertion comes right behind the insertion,
  and only there, with the id of the connection.
-/
def Reports :
    Option SensorId → List (HandlerEffect V) → Prop
| _, [] => True
| opened, e :: rest =>
    HandlerEffect.owed rest =
        (if e.isInsert then opened else none) ∧
      Reports (e.opens.or opened) rest

/- What is left to do continues what is done. -/
theorem Reports.of_append
    {opened : Option SensorId}
    {done todo : List (HandlerEffect V)}
    (hReports : Reports opened (done ++ todo)) :
    Reports (HandlerEffect.remembered opened done) todo := by
  induction done generalizing opened with
  | nil => exact hReports
  | cons e done ih => exact ih hReports.2

variable [SensorValue V]

theorem clientHandler_reports
    (TIMEOUT : Int)
    (input : HandlerInput) :
    let effects := clientHandler (V := V) TIMEOUT input
    HandlerEffect.owed effects = none ∧
      Reports none effects := by
  apply clientHandler_induction
    (P := fun opened effects =>
      HandlerEffect.owed effects = none ∧
        Reports opened effects)
  · exact fun _ => ⟨rfl, trivial⟩
  · intro opened exit
    refine ⟨?_, rfl, rfl, rfl, rfl, rfl, trivial⟩
    unfold clientClosing
    split
    · rfl
    · split
      · rfl
      · rfl
  · exact fun _ _ hRest => ⟨rfl, hRest⟩
  · exact fun _ _ _ hRest => ⟨rfl, rfl, hRest⟩

namespace HandlerThread

variable {TIMEOUT : Int}

/- The id that the handler logged its connection with. -/
def remembered
    (t : HandlerThread V TIMEOUT) :
    Option SensorId :=
  HandlerEffect.remembered none t.done

theorem owed_start
    (client : Nat)
    (input : HandlerInput) :
    HandlerEffect.owed
        (start client input : HandlerThread V TIMEOUT).todo =
      none :=
  (clientHandler_reports TIMEOUT input).1

/- Only an insertion is followed by a line on it. -/
theorem owed_advance
    (t : HandlerThread V TIMEOUT)
    {e : HandlerEffect V}
    {rest : List (HandlerEffect V)}
    (hTodo : t.todo = e :: rest) :
    HandlerEffect.owed t.advance.todo =
      if e.isInsert then t.remembered else none := by
  have hReports := (clientHandler_reports (V := V) TIMEOUT
    t.input).2
  rw [← t.trace_eq] at hReports
  have hTail := hReports.of_append
  rw [hTodo] at hTail
  have hAdvance : t.advance.todo = rest := by
    simp [advance, hTodo]
  rw [hAdvance]
  exact hTail.1

end HandlerThread

end Effects

------------------------------------------------------------
-- Lines and Records
------------------------------------------------------------

section Counts

variable {V : Type}
variable {TIMEOUT : Int}
variable {MAX_CONN : Nat}
variable {L : Nat}

/- The line 'Data insertion from sensor `X` succeeded'. -/
@[grind] def LogMsg.reportsInsertion
    (X : SensorId) :
    LogMsg V → Bool
| .dataInsert id => id == X
| _ => false

variable [SensorValue V]

/- The lines on insertions from sensor `X` in the log. -/
@[grind] def Gateway.insertionLines
    (s : Gateway V TIMEOUT L)
    (X : SensorId) : Nat :=
  s.log.countP (fun e => e.2.reportsInsertion X)

/- The records with id `X` that handlers inserted. -/
def Gateway.insertedRecords
    (s : Gateway V TIMEOUT L)
    (X : SensorId) : Nat :=
  s.buf.inserted.countP
    (fun e => e.1.isClientHandler && e.2.id == X)

/- The handler still owes a line on sensor `X`. -/
def HandlerThread.owes
    (X : SensorId)
    (t : HandlerThread V TIMEOUT) : Bool :=
  HandlerEffect.owed t.todo == some X

/- The handlers between an insertion from `X` and its line. -/
def Gateway.owedLines
    (s : Gateway V TIMEOUT L)
    (X : SensorId) : Nat :=
  s.conn.handlers.countP (HandlerThread.owes X)

/-
  The condition on a step. A handler inserts a record that
  there is memory for, and that carries the id which the
  connection was logged with.
-/
def InsertsRememberedId
    (s : Gateway V TIMEOUT L) :
    GatewayAction → Prop
| .conn (.handler i ok) =>
    ∀ h ∈ s.conn.handlers[i]?,
      ∀ data ∈ HandlerEffect.nextInsert h.todo,
        ok = true ∧ h.remembered = some data.id
| _ => True

instance
    (s : Gateway V TIMEOUT L)
    (a : GatewayAction) :
    Decidable (InsertsRememberedId s a) :=
  match a with
  | .conn (.handler _ _) =>
      inferInstanceAs (Decidable (∀ h ∈ _, ∀ data ∈ _, _))
  | .conn (.listener _ _) => inferInstanceAs (Decidable True)
  | .conn (.excess _) => inferInstanceAs (Decidable True)
  | .storage _ => inferInstanceAs (Decidable True)
  | .datamgr _ => inferInstanceAs (Decidable True)
  | .main _ => inferInstanceAs (Decidable True)

/- The lines of the listener are on other matters. -/
theorem listenerStep_lines
    {s t : ConnMgr V TIMEOUT}
    {ok : Bool}
    {input : HandlerInput}
    {effects : List (ConnEffect V)}
    (hStep :
      listenerStep MAX_CONN s ok input =
        some (t, effects))
    (X : SensorId) :
    (ConnEffect.lines effects).countP
        (LogMsg.reportsInsertion X) = 0 := by
  unfold listenerStep at hStep
  cases hPc : s.listener
  all_goals
    simp only [hPc] at hStep
    grind [ConnEffect.lines]

/- So are those of the excess handler. -/
theorem excessStep_lines
    {s t : ConnMgr V TIMEOUT}
    {ok : Bool}
    {effects : List (ConnEffect V)}
    (hStep :
      excessStep MAX_CONN s ok = some (t, effects))
    (X : SensorId) :
    (ConnEffect.lines effects).countP
        (LogMsg.reportsInsertion X) = 0 := by
  unfold excessStep at hStep
  cases hPc : s.excess
  all_goals
    simp only [hPc] at hStep
    grind [ConnEffect.lines]

/- The storage manager does not report on insertions. -/
theorem storageStep_insertionLines
    {s t : Gateway V TIMEOUT L}
    {ok : Bool}
    (hStep : storageStep s ok = some t)
    (X : SensorId) :
    t.insertionLines X = s.insertionLines X := by
  unfold storageStep at hStep
  cases hPc : s.storage.pc
  all_goals
    simp only [hPc] at hStep
    grind

/- Nor does `main`. -/
theorem mainStep_insertionLines
    {s t : Gateway V TIMEOUT L}
    {ok : Bool}
    (hStep : mainStep s ok = some t)
    (X : SensorId) :
    t.insertionLines X = s.insertionLines X := by
  unfold mainStep at hStep
  cases hPc : s.main
  all_goals
    simp only [hPc] at hStep
    grind

section Reader

variable [Preorder V]
variable [DecidableLT V]

omit [SensorValue V] in
/- The messages on a record are on other matters. -/
theorem handleRecord_insertionLines
    {cfg : DatamgrConfig V}
    {memory memory' : Datamgr V cfg.RUN_AVG_LENGTH}
    {record : SensorData V}
    {msgs : List (LogMsg V)}
    (hHandle :
      handleRecord cfg memory record = .ok (memory', msgs))
    (X : SensorId) :
    msgs.countP (LogMsg.reportsInsertion X) = 0 := by
  unfold handleRecord at hHandle
  cases hScan :
      scanLoop memory record.id
        (memory.dataList.heap.next + 1) 0 with
  | error f =>
      rw [hScan] at hHandle
      cases hHandle
  | ok tmp =>
      rw [hScan] at hHandle
      simp only [bind, Except.bind, pure, Except.pure]
        at hHandle
      split at hHandle
      · cases hHandle
        rfl
      · split at hHandle
        · cases hHandle
        · split at hHandle
          · cases hHandle
          · simp only [Except.ok.injEq, Prod.mk.injEq]
              at hHandle
            rw [← hHandle.2]
            unfold temperatureReport
            split
            · rfl
            · split
              · rfl
              · rfl

/- Nor does the data manager. -/
theorem dataManagerStep_insertionLines
    {cfg : DatamgrConfig V}
    {sensorMap : List (BitVec 16 × BitVec 16)}
    {s t : Gateway V TIMEOUT cfg.RUN_AVG_LENGTH}
    {ok : Bool}
    (hStep : dataManagerStep cfg sensorMap s ok = some t)
    (X : SensorId) :
    t.insertionLines X = s.insertionLines X := by
  unfold Gateway.insertionLines
  cases dataManagerStep_cases hStep with
  | ended f hEq =>
      rw [hEq]
      rfl
  | opened hPc hEq =>
      rw [hEq]
      simp [Gateway.writeLog, Gateway.datamgrAt,
        LogMsg.reportsInsertion]
  | loaded memory hPc hLoad hEq =>
      rw [hEq]
      simp [Gateway.writeLog, LogMsg.reportsInsertion]
  | read hPc hEq =>
      rw [hEq]
      unfold Gateway.readBuffer
      split
      · rfl
      · split
        · rfl
        · rfl
  | handled memory msgs hPc hId hHandle hEq =>
      have hNone := handleRecord_insertionLines hHandle X
      rw [hEq]
      simp only
      rw [List.countP_append, List.countP_map]
      exact Nat.add_eq_left.mpr hNone
  | stopped hPc hId hEq =>
      rw [hEq]
      rfl
  | printed hPc hEq =>
      rw [hEq]
      rfl
  | freed memory hPc hEq =>
      rw [hEq]

end Reader

------------------------------------------------------------
-- The Agreement
------------------------------------------------------------

/-
  The lines on sensor `X`, with those that handlers still
  owe, are as many as the records that handlers inserted.
-/
def Gateway.LinesAgree
    (s : Gateway V TIMEOUT L)
    (X : SensorId) : Prop :=
  s.insertionLines X + s.owedLines X = s.insertedRecords X

/- The lines that a step of the connection manager adds. -/
theorem Gateway.insertionLines_perform
    (th : Thread)
    (s : Gateway V TIMEOUT L)
    (conn : ConnMgr V TIMEOUT)
    (effects : List (ConnEffect V))
    (X : SensorId) :
    (Gateway.perform th { s with conn := conn }
        effects).insertionLines X =
      s.insertionLines X +
        (ConnEffect.lines effects).countP
          (LogMsg.reportsInsertion X) := by
  unfold insertionLines
  rw [perform_log, List.countP_append, List.countP_map]
  rfl

/- A handler that starts owes no line. -/
theorem countP_owes_start
    (handlers : List (HandlerThread V TIMEOUT))
    (client : Nat)
    (input : HandlerInput)
    (X : SensorId) :
    (handlers ++ [HandlerThread.start client input]).countP
        (HandlerThread.owes X) =
      handlers.countP (HandlerThread.owes X) := by
  have hOwes :
      HandlerThread.owes X
          (HandlerThread.start client input :
            HandlerThread V TIMEOUT) =
        false := by
    rw [HandlerThread.owes, HandlerThread.owed_start]
    rfl
  rw [List.countP_append, List.countP_singleton, hOwes]
  rfl

omit [SensorValue V] in
/- What an effect of handler `i` does outside of it. -/
def HandlerEffect.outside
    (i : Nat)
    (ok : Bool) :
    HandlerEffect V → List (ConnEffect V)
| .log msg => [.log msg]
| .sbufferInsert data =>
    [.sbufferInsert (.clientHandler i) data ok]
| _ => []

theorem perform_effects
    {s u : ConnMgr V TIMEOUT}
    {i : Nat}
    {h : HandlerThread V TIMEOUT}
    {ok : Bool}
    {e : HandlerEffect V}
    {effects : List (ConnEffect V)}
    (hPerform : s.perform i h ok e = some (u, effects)) :
    effects = e.outside i ok := by
  cases e
  all_goals
    simp only [ConnMgr.perform] at hPerform
    grind [HandlerEffect.outside]

/- The lines among the effects of a handler. -/
theorem perform_lines
    {s u : ConnMgr V TIMEOUT}
    {i : Nat}
    {h : HandlerThread V TIMEOUT}
    {ok : Bool}
    {e : HandlerEffect V}
    {effects : List (ConnEffect V)}
    (hPerform : s.perform i h ok e = some (u, effects))
    (rest : List (HandlerEffect V))
    (X : SensorId) :
    (ConnEffect.lines effects).countP
        (LogMsg.reportsInsertion X) =
      (HandlerEffect.owed (e :: rest) == some X).toNat := by
  rw [perform_effects hPerform]
  cases e with
  | log msg =>
      cases msg with
      | dataInsert id =>
          have hReports :
              (LogMsg.dataInsert id : LogMsg V).reportsInsertion
                  X =
                (some id == some X) := rfl
          cases hEq : some id == some X with
          | false =>
              rw [hEq] at hReports
              simp [ConnEffect.lines, HandlerEffect.outside,
                HandlerEffect.owed, hReports, hEq]
          | true =>
              rw [hEq] at hReports
              simp [ConnEffect.lines, HandlerEffect.outside,
                HandlerEffect.owed, hReports, hEq]
      | _ => rfl
  | _ => rfl

/-
  A handler that moves on pays the line that it owes; after
  an insertion it owes one with the remembered id.
-/
theorem countP_owes_advance
    {handlers : List (HandlerThread V TIMEOUT)}
    {i : Nat}
    {h : HandlerThread V TIMEOUT}
    {e : HandlerEffect V}
    {rest : List (HandlerEffect V)}
    (hHandler : handlers[i]? = some h)
    (hTodo : h.todo = e :: rest)
    (X : SensorId) :
    (HandlerEffect.owed (e :: rest) == some X).toNat +
        (handlers.set i h.advance).countP
          (HandlerThread.owes X) =
      handlers.countP (HandlerThread.owes X) +
        (e.isInsert && h.remembered == some X).toNat := by
  have hAdd :=
    countP_set_add (b := h.advance)
      (HandlerThread.owes X) hHandler
  have hBefore :
      HandlerThread.owes X h =
        (HandlerEffect.owed (e :: rest) == some X) := by
    rw [HandlerThread.owes, hTodo]
  have hAfter :
      HandlerThread.owes X h.advance =
        (e.isInsert && h.remembered == some X) := by
    rw [HandlerThread.owes, h.owed_advance hTodo]
    cases e.isInsert with
    | false => rfl
    | true => rfl
  rw [hBefore, hAfter] at hAdd
  omega

/- A handler that reads the counter owes what it owed. -/
theorem countP_owes_load
    {handlers : List (HandlerThread V TIMEOUT)}
    {i : Nat}
    {h : HandlerThread V TIMEOUT}
    (hHandler : handlers[i]? = some h)
    (terminations : Nat)
    (X : SensorId) :
    (handlers.set i (h.load terminations)).countP
        (HandlerThread.owes X) =
      handlers.countP (HandlerThread.owes X) := by
  have hAdd :=
    countP_set_add (b := h.load terminations)
      (HandlerThread.owes X) hHandler
  have hSame :
      HandlerThread.owes X (h.load terminations) =
        HandlerThread.owes X h := rfl
  rw [hSame] at hAdd
  omega

/- The lines and the debts of one step of a handler. -/
theorem Gateway.lines_of_handlerStep
    {s : Gateway V TIMEOUT L}
    {i : Nat}
    {ok : Bool}
    {conn : ConnMgr V TIMEOUT}
    {effects : List (ConnEffect V)}
    (hStep :
      handlerStep s.conn i ok = some (conn, effects))
    (X : SensorId) :
    let t :=
      Gateway.perform (.clientHandler i)
        { s with conn := conn } effects
    ∃ h e rest,
      s.conn.handlers[i]? = some h ∧
        h.todo = e :: rest ∧
        t.insertionLines X + t.owedLines X =
          s.insertionLines X + s.owedLines X +
            (e.isInsert && h.remembered == some X).toNat ∧
        effects = e.outside i ok := by
  rcases handlerStep_cases hStep with
    ⟨h, rest, hHandler, hTodo, _, rfl, rfl⟩ |
      ⟨h, e, rest, u, hHandler, hTodo, hPerform, rfl⟩
  · refine ⟨h, .countTermination, rest, hHandler, hTodo, ?_,
      rfl⟩
    have hOwes :=
      countP_owes_load hHandler s.conn.connTerminations X
    rw [Gateway.insertionLines_perform]
    unfold owedLines
    rw [(Gateway.perform_frame (.clientHandler i)
      { s with conn := _ } []).1]
    simp only
    rw [hOwes]
    rfl
  · refine ⟨h, e, rest, hHandler, hTodo, ?_,
      perform_effects hPerform⟩
    have hLines := perform_lines hPerform rest X
    have hOwes := countP_owes_advance hHandler hTodo X
    rw [Gateway.insertionLines_perform, hLines]
    unfold owedLines
    rw [(Gateway.perform_frame (.clientHandler i)
      { s with conn := _ } effects).1]
    simp only
    rw [(perform_counters hPerform).1]
    omega

/-
  A step of a handler: if it inserts a record, it comes to
  owe a line with the id of the record.
-/
theorem Gateway.LinesAgree.of_handlerStep
    {s : Gateway V TIMEOUT L}
    {X : SensorId}
    (hAgree : s.LinesAgree X)
    (hSound : s.Sound MAX_CONN)
    {i : Nat}
    {ok : Bool}
    (hGuard : InsertsRememberedId s (.conn (.handler i ok)))
    {conn : ConnMgr V TIMEOUT}
    {effects : List (ConnEffect V)}
    (hStep :
      handlerStep s.conn i ok = some (conn, effects)) :
    (Gateway.perform (.clientHandler i)
        { s with conn := conn } effects).LinesAgree X := by
  have hInserted :=
    hSound.connStep_inserted (a := .handler i ok) hStep
  rcases Gateway.lines_of_handlerStep hStep X with
    ⟨h, e, rest, hHandler, hTodo, hLines, hEffects⟩
  unfold LinesAgree at hAgree ⊢
  rw [hLines, hAgree]
  unfold insertedRecords
  rcases hInserted with
    ⟨hNone, hSame⟩ | ⟨w, data, hInsert, hNew, _⟩
  · have hNot : e.isInsert = false := by
      cases e with
      | sbufferInsert data =>
          exact absurd (List.mem_singleton.mpr rfl)
            (hEffects ▸ hNone (.clientHandler i) data ok)
      | _ => rfl
    have hKept :
        (Gateway.perform (.clientHandler i)
            { s with conn := conn } effects).buf.inserted =
          s.buf.inserted := hSame
    rw [hKept, hNot]
    rfl
  · have hData : e = .sbufferInsert data ∧
        w = .clientHandler i := by
      rw [hEffects] at hInsert
      cases e with
      | sbufferInsert data' =>
          have hSame :
              ConnEffect.sbufferInsert (.clientHandler i)
                  data' ok =
                ConnEffect.sbufferInsert w data ok :=
            (List.cons.inj hInsert).1
          cases hSame
          exact ⟨rfl, rfl⟩
      | log msg => cases hInsert
      | _ => cases hInsert
    rcases hData with ⟨rfl, rfl⟩
    have hNext :
        data ∈ HandlerEffect.nextInsert h.todo := by
      rw [hTodo]
      rfl
    rcases hGuard h hHandler data hNext with
      ⟨rfl, hRemembered⟩
    have hGrown :
        (Gateway.perform (.clientHandler i)
            { s with conn := conn } effects).buf.inserted =
          s.buf.inserted ++ [(.clientHandler i, data)] := hNew
    rw [hGrown, List.countP_append, List.countP_singleton,
      hRemembered]
    have hTag :
        ((Thread.clientHandler i).isClientHandler &&
            data.id == X) =
          (some data.id == some X) := rfl
    rw [hTag]
    cases some data.id == some X with
    | false => rfl
    | true => rfl

/- The other threads of the connection manager. -/
theorem Gateway.LinesAgree.of_managerStep
    {s : Gateway V TIMEOUT L}
    {X : SensorId}
    (hAgree : s.LinesAgree X)
    (hSound : s.Sound MAX_CONN)
    {a : ConnAction}
    {conn : ConnMgr V TIMEOUT}
    {effects : List (ConnEffect V)}
    (hStep :
      connStep MAX_CONN s.conn a = some (conn, effects))
    (hOther : ∀ i ok, a ≠ .handler i ok) :
    (Gateway.perform a.thread { s with conn := conn }
        effects).LinesAgree X := by
  -- a record that is inserted now is the marker
  have hManager :
      (ConnEffect.lines effects).countP
            (LogMsg.reportsInsertion X) = 0 ∧
        conn.handlers.countP (HandlerThread.owes X) =
          s.conn.handlers.countP (HandlerThread.owes X) ∧
        ∀ i data ok,
          ConnEffect.sbufferInsert (.clientHandler i) data
            ok ∉ effects := by
    cases a with
    | listener ok input =>
        refine ⟨listenerStep_lines hStep X, ?_, ?_⟩
        · rcases (listenerStep_counters hStep).2 with
            ⟨_, _, hH, _⟩ | ⟨_, _, _, hH, _⟩ |
              ⟨client, _, _, _, hH, _⟩ |
              ⟨client, _, _, _, hH, _⟩
          · rw [hH]
          · rw [hH]
          · rw [hH, countP_owes_start]
          · rw [hH]
        · intro i data ok' hMem
          rcases listenerStep_inserts hStep with
            ⟨hNone, _⟩ | ⟨_, hEffects, _⟩
          · exact hNone _ _ _ hMem
          · rw [hEffects, List.mem_singleton] at hMem
            cases hMem
    | excess ok =>
        refine ⟨excessStep_lines hStep X, ?_, ?_⟩
        · rw [(excessStep_counters hStep).2.2.2]
        · intro i data ok' hMem
          exact excessStep_inserts hStep _ _ _ hMem
    | handler i ok => exact absurd rfl (hOther i ok)
  rcases hManager with ⟨hLines, hOwed, hNoHandler⟩
  unfold LinesAgree at hAgree ⊢
  rw [Gateway.insertionLines_perform, hLines]
  unfold owedLines insertedRecords at hAgree ⊢
  rw [(Gateway.perform_frame a.thread
    { s with conn := conn } effects).1]
  simp only
  rw [hOwed, Nat.add_zero, hAgree]
  rcases hSound.connStep_inserted hStep with
    ⟨_, hSame⟩ | ⟨w, data, hEffects, hNew, hWriter⟩
  · rw [hSame]
  · rw [hNew]
    split
    · rcases hWriter with
        ⟨rfl, _⟩ | ⟨i, handler, rest, rfl, _⟩
      · rw [List.countP_append]
        rfl
      · rw [hEffects] at hNoHandler
        exact absurd (List.mem_singleton.mpr rfl)
          (hNoHandler i data a.ok)
    · rfl

end Counts

------------------------------------------------------------
-- Runs
------------------------------------------------------------

section Runs

variable {V : Type}
variable [SensorValue V]
variable [Preorder V]
variable [DecidableLT V]
variable {TIMEOUT : Int}
variable {MAX_CONN : Nat}
variable {cfg : DatamgrConfig V}
variable {sensorMap : List (BitVec 16 × BitVec 16)}
variable {data : Reader → SensorData V}

/- Every step within the condition keeps the agreement. -/
theorem Gateway.LinesAgree.of_gatewayStep
    {s t : Gateway V TIMEOUT cfg.RUN_AVG_LENGTH}
    {X : SensorId}
    (hAgree : s.LinesAgree X)
    (hSound : s.Sound MAX_CONN)
    {a : GatewayAction}
    (hGuard : InsertsRememberedId s a)
    (hStep : gatewayStep MAX_CONN cfg sensorMap s a = some t) :
    t.LinesAgree X := by
  have hOther :
      t.insertionLines X = s.insertionLines X →
        t.conn = s.conn →
          t.buf.inserted = s.buf.inserted →
            t.LinesAgree X := by
    intro hLines hConn hInserted
    unfold LinesAgree owedLines insertedRecords at *
    rw [hLines, hConn, hInserted]
    exact hAgree
  have hKept :
      (∀ a', a ≠ .conn a') →
        t.conn = s.conn ∧
          t.buf.inserted = s.buf.inserted := by
    intro hNot
    rcases gatewayStep_inserted hSound hStep with
      ⟨a', _, _, hEq, _⟩ | hFrame
    · exact absurd hEq (hNot a')
    · exact hFrame
  cases gatewayStep_cases hStep with
  | conn a conn effects hConn hEq =>
      rw [hEq]
      cases a with
      | listener ok input =>
          exact hAgree.of_managerStep hSound hConn nofun
      | excess ok =>
          exact hAgree.of_managerStep hSound hConn nofun
      | handler i ok =>
          exact hAgree.of_handlerStep hSound hGuard hConn
  | storage ok hStorage =>
      rcases hKept nofun with ⟨hConn, hInserted⟩
      exact hOther (storageStep_insertionLines hStorage X)
        hConn hInserted
  | datamgr ok hDatamgr =>
      rcases hKept nofun with ⟨hConn, hInserted⟩
      exact hOther
        (dataManagerStep_insertionLines hDatamgr X) hConn
        hInserted
  | main ok hMain =>
      rcases hKept nofun with ⟨hConn, hInserted⟩
      exact hOther (mainStep_insertionLines hMain X) hConn
        hInserted

/-
  In a run whose steps all meet the condition, whenever no
  handler is between an insertion and its line, the lines on
  each sensor are as many as the records with its id that
  handlers inserted.
-/
theorem gatewaySystem_insertionLog
    {labels : List GatewayAction}
    {s : Gateway V TIMEOUT cfg.RUN_AVG_LENGTH}
    (hGuard :
      (gatewaySystem TIMEOUT MAX_CONN cfg sensorMap
          data).Guarded
        InsertsRememberedId labels)
    (hRun :
      (gatewaySystem TIMEOUT MAX_CONN cfg sensorMap
          data).run labels =
        some s)
    (hBetween :
      ∀ h ∈ s.conn.handlers,
        HandlerEffect.owed h.todo = none) :
    ∀ X, s.insertionLines X = s.insertedRecords X := by
  intro X
  have hAgree : s.LinesAgree X := by
    refine System.invariant_of_guarded_step _ _
      (fun s => s.LinesAgree X) rfl ?_ hGuard hRun
    intro before s a t hBefore hAgree hInserts hStep
    exact hAgree.of_gatewayStep (gatewaySystem_sound hBefore)
      hInserts hStep
  have hNone : s.owedLines X = 0 := by
    unfold Gateway.owedLines
    rw [List.countP_eq_zero]
    intro h hMem
    rw [HandlerThread.owes, hBetween h hMem]
    simp
  unfold Gateway.LinesAgree at hAgree
  rw [hNone] at hAgree
  exact hAgree

end Runs

/-
  One client that sends records, up to the return of the
  listener; the handler takes the given number of steps.
-/
def recordClient
    (records : List (SensorData (Fin (2 ^ 64))))
    (steps : Nat) :
    List GatewayAction :=
  servedClient (.ofRecords records) steps

/- A client that sends a record. -/
theorem insertionLog_one_client :
    ∃ s : Gateway (Fin (2 ^ 64)) 5
        wholeDegrees.RUN_AVG_LENGTH,
      (gatewaySystem 5 1 wholeDegrees [(1, 15)]
            (fun _ => .endOfStream)).run
          (recordClient [⟨15, 16, 1000⟩] 9) =
        some s ∧
      s.insertedRecords 15 = 1 ∧
      ∀ X, s.insertionLines X = s.insertedRecords X := by
  have hEnd :
      ((gatewaySystem 5 1 wholeDegrees [(1, 15)]
            (fun _ => .endOfStream)).run
          (recordClient [⟨15, 16, 1000⟩] 9)).map
        (fun s =>
          (s.conn.handlers.map
              (fun h => HandlerEffect.owed h.todo),
            s.insertedRecords 15)) =
      some ([none], 1) := by
    decide +kernel
  rw [Option.map_eq_some_iff] at hEnd
  rcases hEnd with ⟨s, hRun, hState⟩
  simp only [Prod.mk.injEq] at hState
  rcases hState with ⟨hOwed, hInserted⟩
  refine ⟨s, hRun, hInserted,
    gatewaySystem_insertionLog ?_ hRun ?_⟩
  · have hChecked :
        ((gatewaySystem 5 1 wholeDegrees [(1, 15)]
              (fun _ => .endOfStream)).checkedRunFrom
            InsertsRememberedId
            (.start (fun _ => .endOfStream))
            (recordClient [⟨15, 16, 1000⟩] 9)).isSome =
          true := by
      decide +kernel
    rcases Option.isSome_iff_exists.mp hChecked with
      ⟨t, hChecked⟩
    exact System.guardedFrom_of_checkedRunFrom _ _ hChecked
  · intro h hMem
    have hOne :=
      List.mem_map_of_mem
        (f := fun h => HandlerEffect.owed h.todo) hMem
    rw [hOwed] at hOne
    exact List.mem_singleton.mp hOne

/-
  A client that sends records with two ids: both are reported
  with the first one.
-/
theorem insertionLog_disagrees :
    ¬ ∀ (MAX_CONN : Nat)
        (sensorMap : List (BitVec 16 × BitVec 16))
        (data : Reader → SensorData (Fin (2 ^ 64)))
        (labels : List GatewayAction)
        (s : Gateway (Fin (2 ^ 64)) 5
          wholeDegrees.RUN_AVG_LENGTH),
          (gatewaySystem 5 MAX_CONN wholeDegrees sensorMap
              data).run labels =
            some s →
          (∀ h ∈ s.conn.handlers,
            HandlerEffect.owed h.todo = none) →
            ∀ X,
              s.insertionLines X = s.insertedRecords X := by
  intro hAll
  have hEnd :
      ((gatewaySystem 5 1 wholeDegrees [(1, 15)]
            (fun _ => .endOfStream)).run
          (recordClient
            [⟨15, 16, 1000⟩, ⟨21, 16, 1000⟩] 11)).map
        (fun s =>
          (s.conn.handlers.map
              (fun h => HandlerEffect.owed h.todo),
            s.insertionLines 15, s.insertedRecords 15)) =
      some ([none], 2, 1) := by
    decide +kernel
  rw [Option.map_eq_some_iff] at hEnd
  rcases hEnd with ⟨s, hRun, hState⟩
  simp only [Prod.mk.injEq] at hState
  rcases hState with ⟨hOwed, hLines, hInserted⟩
  have hEq :=
    hAll 1 [(1, 15)] _ _ s hRun (by
      intro h hMem
      have hOne :=
        List.mem_map_of_mem
          (f := fun h => HandlerEffect.owed h.todo) hMem
      rw [hOwed] at hOne
      exact List.mem_singleton.mp hOne) 15
  rw [hLines, hInserted] at hEq
  cases hEq

end SensorGateway
