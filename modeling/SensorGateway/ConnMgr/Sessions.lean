import SensorGateway.ConnMgr.Accounting

/-
  What the connection manager inserts into the buffer: each
  handler the records of its session, in order, and the
  listener one marker, after all of them.

  Key definitions include:
    * `HandlerThread.session`
    * `ConnMgr.handlerRecords`
    * `ConnMgr.sessionOf`

  Key theorems include:
    * `connStep_inserts`
    * `ConnMgr.Accounted.handlerRecords_eq_sessionOf`
-/

------------------------------------------------------------
-- Sessions
------------------------------------------------------------

namespace SensorGateway

open Foundations

variable {V : Type}
variable [SensorValue V]
variable {TIMEOUT : Int}

/- The records that a handler inserts from start to end. -/
def HandlerThread.session
    (t : HandlerThread V TIMEOUT) :
    List (SensorData V) :=
  HandlerEffect.inserts (clientHandler TIMEOUT t.input)

/- The session is what was inserted and what is left. -/
theorem HandlerThread.session_eq
    (t : HandlerThread V TIMEOUT) :
    t.session =
      HandlerEffect.inserts t.done ++
        HandlerEffect.inserts t.todo := by
  unfold session
  rw [← t.trace_eq, HandlerEffect.inserts_append]

/- An effect that inserts is added to what was inserted. -/
theorem HandlerThread.inserts_done_advance
    (t : HandlerThread V TIMEOUT)
    {e : HandlerEffect V}
    {rest : List (HandlerEffect V)}
    (hTodo : t.todo = e :: rest) :
    HandlerEffect.inserts t.advance.done =
      HandlerEffect.inserts t.done ++
        HandlerEffect.inserts [e] := by
  simp [advance, hTodo]

namespace ConnMgr

/- The records that handler `i` inserted so far. -/
def handlerRecords
    (s : ConnMgr V TIMEOUT)
    (i : Nat) :
    List (SensorData V) :=
  match s.handlers[i]? with
  | none => []
  | some h => HandlerEffect.inserts h.done

/- The session of handler `i`. -/
def sessionOf
    (s : ConnMgr V TIMEOUT)
    (i : Nat) :
    List (SensorData V) :=
  match s.handlers[i]? with
  | none => []
  | some h => h.session

/- What the handlers inserted depends on them alone. -/
theorem handlerRecords_congr
    {s t : ConnMgr V TIMEOUT}
    (hHandlers : t.handlers = s.handlers)
    (i : Nat) :
    t.handlerRecords i = s.handlerRecords i := by
  unfold handlerRecords
  rw [hHandlers]

/- A handler that starts has inserted nothing. -/
theorem handlerRecords_of_start
    {s t : ConnMgr V TIMEOUT}
    {client : Nat}
    {input : HandlerInput}
    (hHandlers :
      t.handlers = s.handlers ++ [.start client input])
    (i : Nat) :
    t.handlerRecords i = s.handlerRecords i := by
  unfold handlerRecords
  rw [hHandlers]
  by_cases hLt : i < s.handlers.length
  · rw [List.getElem?_append_left hLt]
  · rw [List.getElem?_eq_none (l := s.handlers) (by omega),
      List.getElem?_append_right (by omega)]
    by_cases hEq : i - s.handlers.length = 0
    · rw [hEq]
      rfl
    · rw [List.getElem?_eq_none (by
        rw [List.length_singleton]
        omega)]

/- Reading the counter is no insert. -/
theorem handlerRecords_load
    {s : ConnMgr V TIMEOUT}
    {i : Nat}
    {h : HandlerThread V TIMEOUT}
    (hHandler : s.handlers[i]? = some h)
    (terminations : Nat)
    (j : Nat) :
    ConnMgr.handlerRecords
        { s with
            handlers :=
              s.handlers.set i (h.load terminations) } j =
      s.handlerRecords j := by
  unfold handlerRecords
  rw [List.getElem?_set]
  by_cases hEq : i = j
  · subst hEq
    have hLt := (List.getElem?_eq_some_iff.mp hHandler).1
    simp only [hLt, if_true, hHandler]
    rfl
  · simp [hEq]

/- The effect of one handler is the effect of no other. -/
theorem handlerRecords_of_advance
    {s t : ConnMgr V TIMEOUT}
    {i : Nat}
    {h : HandlerThread V TIMEOUT}
    {e : HandlerEffect V}
    {rest : List (HandlerEffect V)}
    (hHandler : s.handlers[i]? = some h)
    (hTodo : h.todo = e :: rest)
    (hHandlers : t.handlers = s.handlers.set i h.advance)
    (j : Nat) :
    t.handlerRecords j =
      s.handlerRecords j ++
        (if i = j then HandlerEffect.inserts [e] else []) := by
  unfold handlerRecords
  rw [hHandlers, List.getElem?_set]
  by_cases hEq : i = j
  · subst hEq
    have hLt : i < s.handlers.length :=
      (List.getElem?_eq_some_iff.mp hHandler).1
    simp only [hLt, if_true, hHandler]
    exact h.inserts_done_advance hTodo
  · simp [hEq]

end ConnMgr

------------------------------------------------------------
-- What One Step Inserts
------------------------------------------------------------

variable {MAX_CONN : Nat}

/- The outcome of the call that a step makes. -/
def ConnAction.ok : ConnAction → Bool
| .listener ok _ => ok
| .excess ok => ok
| .handler _ ok => ok

/- None of the effects is an insert. -/
def NoInsert
    (effects : List (ConnEffect V)) : Prop :=
  ∀ w data mallocOk,
    ConnEffect.sbufferInsert w data mallocOk ∉ effects

/- The listener inserts in one place only. -/
theorem listenerStep_inserts
    {s t : ConnMgr V TIMEOUT}
    {ok : Bool}
    {input : HandlerInput}
    {effects : List (ConnEffect V)}
    (hStep :
      listenerStep MAX_CONN s ok input =
        some (t, effects)) :
    (NoInsert effects ∧
      s.listener ≠ .returned ∧ t.listener ≠ .returned) ∨
    (s.listener = .insertEndOfStream ∧
      effects =
        [.sbufferInsert .connmgrListen .endOfStream ok] ∧
      t = s.listenAt .returned) := by
  unfold listenerStep at hStep
  unfold NoInsert
  cases hPc : s.listener
  all_goals
    simp only [hPc] at hStep
    grind

/- The excess handler never inserts. -/
theorem excessStep_inserts
    {s t : ConnMgr V TIMEOUT}
    {ok : Bool}
    {effects : List (ConnEffect V)}
    (hStep :
      excessStep MAX_CONN s ok = some (t, effects)) :
    NoInsert effects := by
  unfold excessStep at hStep
  unfold NoInsert
  cases hPc : s.excess
  all_goals
    simp only [hPc] at hStep
    grind

/- A handler inserts by the effects that are inserts. -/
theorem perform_inserts
    {s u : ConnMgr V TIMEOUT}
    {i : Nat}
    {h : HandlerThread V TIMEOUT}
    {ok : Bool}
    {e : HandlerEffect V}
    {effects : List (ConnEffect V)}
    (hPerform : s.perform i h ok e = some (u, effects)) :
    (NoInsert effects ∧ HandlerEffect.inserts [e] = []) ∨
    (∃ data,
      e = .sbufferInsert data ∧ u = s ∧
        effects =
          [.sbufferInsert (.clientHandler i) data ok]) := by
  unfold NoInsert
  cases e with
  | sbufferInsert data =>
      right
      simp only [ConnMgr.perform, Option.some.injEq,
        Prod.mk.injEq] at hPerform
      exact ⟨data, rfl, hPerform.1.symm, hPerform.2.symm⟩
  | _ =>
      left
      simp only [ConnMgr.perform] at hPerform
      refine ⟨?_, rfl⟩
      grind

/-
  A step of the connection manager inserts nothing, or the
  marker, or the next record of a handler.
-/
theorem connStep_inserts
    {s t : ConnMgr V TIMEOUT}
    {a : ConnAction}
    {effects : List (ConnEffect V)}
    (hStep : connStep MAX_CONN s a = some (t, effects)) :
    (NoInsert effects ∧
      (∀ i, t.handlerRecords i = s.handlerRecords i) ∧
      (t.listener = .returned ↔ s.listener = .returned)) ∨
    (s.listener = .insertEndOfStream ∧
      effects =
        [.sbufferInsert .connmgrListen .endOfStream a.ok] ∧
      t = s.listenAt .returned) ∨
    (∃ i h data rest,
      s.handlers[i]? = some h ∧
        h.todo = .sbufferInsert data :: rest ∧
        effects =
          [.sbufferInsert (.clientHandler i) data a.ok] ∧
        t =
          { s with
              handlers := s.handlers.set i h.advance }) := by
  cases a with
  | listener ok input =>
      rcases listenerStep_inserts hStep with
        ⟨hNone, hS, hT⟩ | ⟨hPc, hEffects, hEq⟩
      · refine Or.inl ⟨hNone, ?_, ?_⟩
        · intro i
          rcases listenerStep_handlers hStep with
            hH | ⟨client, hH⟩
          · exact ConnMgr.handlerRecords_congr hH i
          · exact ConnMgr.handlerRecords_of_start hH i
        · simp [hS, hT]
      · exact Or.inr (Or.inl ⟨hPc, hEffects, hEq⟩)
  | excess ok =>
      rcases excessStep_counters hStep with
        ⟨_, _, hListener, hHandlers⟩
      refine Or.inl ⟨excessStep_inserts hStep, ?_, ?_⟩
      · exact ConnMgr.handlerRecords_congr hHandlers
      · rw [hListener]
  | handler i ok =>
      rcases handlerStep_cases hStep with
        ⟨h, rest, hHandler, _, _, rfl, rfl⟩ |
          ⟨h, e, rest, u, hHandler, hTodo, hPerform, rfl⟩
      · exact Or.inl
          ⟨fun _ _ _ => List.not_mem_nil,
            ConnMgr.handlerRecords_load hHandler _, Iff.rfl⟩
      rcases perform_counters hPerform with
        ⟨hHandlers, _, _, hListener⟩
      rcases perform_inserts hPerform with
        ⟨hNone, hInserts⟩ | ⟨data, rfl, rfl, hEffects⟩
      · refine Or.inl ⟨hNone, ?_, ?_⟩
        · intro j
          have hRecords :=
            ConnMgr.handlerRecords_of_advance
              (t :=
                { u with
                    handlers :=
                      s.handlers.set i h.advance })
              hHandler hTodo rfl j
          rw [hHandlers, hRecords, hInserts]
          simp
        · rcases hListener with hEq | hEq
          · simp only [hEq]
          · simp only [hEq]
            cases s.listener with
            | blocked woken => simp [ListenerPc.signal]
            | _ => simp [ListenerPc.signal]
      · exact Or.inr (Or.inr
          ⟨i, h, data, rest, hHandler, hTodo, hEffects, rfl⟩)

------------------------------------------------------------
-- After the Wait
------------------------------------------------------------

/- After the wait, no handler has a record left. -/
theorem ConnMgr.Accounted.inserts_todo
    {s : ConnMgr V TIMEOUT}
    (h : s.Accounted MAX_CONN)
    (hPast : s.listener.pastWait = true) :
    ∀ handler ∈ s.handlers,
      HandlerEffect.inserts handler.todo = [] := by
  intro handler hMem
  exact handler.inserts_todo_of_finished
    (h.all_finished hPast handler hMem)

/- A handler with a record left keeps the listener waiting. -/
theorem ConnMgr.Accounted.not_returned_of_insert
    {s : ConnMgr V TIMEOUT}
    (h : s.Accounted MAX_CONN)
    {i : Nat}
    {handler : HandlerThread V TIMEOUT}
    {data : SensorData V}
    {rest : List (HandlerEffect V)}
    (hHandler : s.handlers[i]? = some handler)
    (hTodo : handler.todo = .sbufferInsert data :: rest) :
    s.listener ≠ .returned := by
  intro hReturned
  have hPast : s.listener.pastWait = true := by
    rw [hReturned]
    rfl
  have hNone :=
    h.inserts_todo hPast handler
      (List.mem_of_getElem? hHandler)
  rw [hTodo] at hNone
  cases hNone

/- After the wait, the handlers inserted their sessions. -/
theorem ConnMgr.Accounted.handlerRecords_eq_sessionOf
    {s : ConnMgr V TIMEOUT}
    (h : s.Accounted MAX_CONN)
    (hPast : s.listener.pastWait = true)
    (i : Nat) :
    s.handlerRecords i = s.sessionOf i := by
  unfold ConnMgr.handlerRecords ConnMgr.sessionOf
  cases hHandler : s.handlers[i]? with
  | none => rfl
  | some handler =>
      have hNone :=
        h.inserts_todo hPast handler
          (List.mem_of_getElem? hHandler)
      simp [handler.session_eq, hNone]

/- What was inserted is a part of the session. -/
theorem ConnMgr.handlerRecords_prefix
    (s : ConnMgr V TIMEOUT)
    (i : Nat) :
    s.handlerRecords i <+: s.sessionOf i := by
  unfold handlerRecords sessionOf
  cases s.handlers[i]? with
  | none => exact List.prefix_refl []
  | some handler =>
      simp only
      rw [handler.session_eq]
      exact List.prefix_append _ _

end SensorGateway
