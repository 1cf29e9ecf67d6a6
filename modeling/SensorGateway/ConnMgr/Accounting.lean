import SensorGateway.Foundations.Population
import SensorGateway.ConnMgr.System
import Mathlib.Data.List.Count

/-
  What `conn_counter` and `conn_terminations` count.

  The counter is the number of started handlers exactly if
  `pthread_create` never failed: the error path does not take
  the count of the client back. The terminations are those of
  the handlers that have finished, if no two counts overlap;
  else one of them is lost.

  Key definitions include:
    * `ConnMgr.Accounted`
    * `NoFailedCreate`
    * `KeepsAccounts`
    * `ConnMgr.AccountsAgree`

  Key theorems include:
    * `connSystem_accounted`
    * `ConnMgr.Accounted.all_finished`
    * `connSystem_accountsAgree_iff`
    * `accounts_disagree`
-/

------------------------------------------------------------
-- The Counting Invariant
------------------------------------------------------------

namespace SensorGateway

open Foundations

variable {V : Type}
variable [SensorValue V]
variable {TIMEOUT : Int}
variable {MAX_CONN : Nat}

/-
  What the counters count in every reachable state, whatever
  fails: the counter may exceed the started handlers, and it
  never exceeds `MAX_CONN`; the terminations may fall short
  of the finished handlers, as what a handler has read may.
-/
structure ConnMgr.Accounted
    (MAX_CONN : Nat)
    (s : ConnMgr V TIMEOUT) : Prop where
  terminations_le :
    s.connTerminations ≤
      s.handlers.countP HandlerThread.finished
  loaded_le :
    ∀ h ∈ s.handlers, ∀ n,
      h.loaded = some n →
        n ≤ s.handlers.countP HandlerThread.finished
  started_le :
    s.handlers.length + s.listener.pending.toNat ≤
      s.connCounter
  counter_le : s.connCounter ≤ MAX_CONN
  counter_full :
    s.listener.pastAcceptLoop = true →
      MAX_CONN ≤ s.connCounter
  terminations_full :
    s.listener.pastWait = true →
      MAX_CONN ≤ s.connTerminations

/- A handler that starts has not finished. -/
theorem countP_finished_start
    (handlers : List (HandlerThread V TIMEOUT))
    (client : Nat)
    (input : HandlerInput) :
    (handlers ++ [HandlerThread.start client input]).countP
        HandlerThread.finished =
      handlers.countP HandlerThread.finished := by
  rw [List.countP_append]
  rfl

/- The handlers that finish by an effect: at most this one. -/
theorem countP_finished_advance
    {handlers : List (HandlerThread V TIMEOUT)}
    {i : Nat}
    {h : HandlerThread V TIMEOUT}
    {e : HandlerEffect V}
    {rest : List (HandlerEffect V)}
    (hHandler : handlers[i]? = some h)
    (hTodo : h.todo = e :: rest) :
    (handlers.set i h.advance).countP
        HandlerThread.finished =
      handlers.countP HandlerThread.finished +
        e.isCount.toNat := by
  have hFinished := HandlerThread.finished_advance h hTodo
  cases hCount : e.isCount with
  | false =>
      rw [hCount, Bool.or_false] at hFinished
      exact countP_set_of_eq hHandler hFinished
  | true =>
      -- a handler that still counts has not finished
      have hNot : h.finished = false := by
        cases e with
        | countTermination =>
            exact HandlerThread.not_finished_of_todo h hTodo
        | _ => cases hCount
      rw [hCount, Bool.or_true] at hFinished
      exact countP_set_of_enter hHandler hNot hFinished

namespace ConnMgr.Accounted

theorem start :
    (ConnMgr.start : ConnMgr V TIMEOUT).Accounted
      MAX_CONN where
  terminations_le := Nat.le_refl 0
  loaded_le := List.forall_mem_nil _
  started_le := Nat.le_refl 0
  counter_le := Nat.zero_le _
  counter_full := by
    intro hPast
    cases hPast
  terminations_full := by
    intro hPast
    cases hPast

theorem of_listenerStep
    {s t : ConnMgr V TIMEOUT}
    {ok : Bool}
    {input : HandlerInput}
    {effects : List (ConnEffect V)}
    (h : s.Accounted MAX_CONN)
    (hStep :
      listenerStep MAX_CONN s ok input =
        some (t, effects)) :
    t.Accounted MAX_CONN := by
  rcases listenerStep_counters hStep with
    ⟨hTerminations, hCounters⟩
  rcases listenerStep_phases hStep with
    ⟨hKeep, hLoop, hWait⟩
  have hLe := h.counter_le
  have hStarted := h.started_le
  have hFull :
      MAX_CONN ≤ s.connCounter →
        s.connCounter ≤ t.connCounter := by
    intro _
    rcases hCounters with hEq | hEq | ⟨_, hEq⟩ | ⟨_, hEq⟩
    · exact hEq.2.1.ge
    · omega
    · exact hEq.2.2.1.ge
    · exact hEq.2.2.1.ge
  have hHandlers := listenerStep_handlers hStep
  have hFinished :
      t.handlers.countP HandlerThread.finished =
        s.handlers.countP HandlerThread.finished := by
    rcases hHandlers with hEq | ⟨client, hEq⟩
    · rw [hEq]
    · rw [hEq, countP_finished_start]
  constructor
  · rw [hTerminations, hFinished]
    exact h.terminations_le
  · rw [hFinished]
    rcases hHandlers with hEq | ⟨client, hEq⟩
    · rw [hEq]
      exact h.loaded_le
    · rw [hEq]
      intro handler hMem n hLoaded
      rcases List.mem_append.mp hMem with hOld | hNew
      · exact h.loaded_le handler hOld n hLoaded
      · rw [List.mem_singleton.mp hNew] at hLoaded
        cases hLoaded
  · rcases hCounters with
      ⟨_, hC, hH, hP⟩ | ⟨_, hP, hC, hH, hP'⟩ |
        ⟨client, hPc, _, hC, hH, hP⟩ |
        ⟨client, hPc, _, hC, hH, hP⟩
    · rw [hC, hH, hP]
      exact hStarted
    · rw [hP] at hStarted
      rw [hC, hH, hP']
      simpa using hStarted
    · rw [hPc] at hStarted
      rw [hC, hH, hP, List.length_append]
      exact hStarted
    · rw [hC, hH, hP]
      exact Nat.le_trans (Nat.le_add_right _ _) hStarted
  · rcases hCounters with hEq | hEq | ⟨_, hEq⟩ | ⟨_, hEq⟩
    · rw [hEq.2.1]
      exact hLe
    · omega
    · rw [hEq.2.2.1]
      exact hLe
    · rw [hEq.2.2.1]
      exact hLe
  · intro hPast
    have hEnough : MAX_CONN ≤ s.connCounter := by
      rcases hLoop hPast with hBefore | hNow
      · exact h.counter_full hBefore
      · exact hNow
    exact Nat.le_trans hEnough (hFull hEnough)
  · intro hPast
    rw [hTerminations]
    rcases hWait hPast with hBefore | hNow
    · exact h.terminations_full hBefore
    · exact hNow

theorem of_excessStep
    {s t : ConnMgr V TIMEOUT}
    {ok : Bool}
    {effects : List (ConnEffect V)}
    (h : s.Accounted MAX_CONN)
    (hStep :
      excessStep MAX_CONN s ok = some (t, effects)) :
    t.Accounted MAX_CONN := by
  rcases excessStep_counters hStep with
    ⟨hCounter, hTerminations, hListener, hHandlers⟩
  constructor
  · rw [hTerminations, hHandlers]
    exact h.terminations_le
  · rw [hHandlers]
    exact h.loaded_le
  · rw [hHandlers, hListener, hCounter]
    exact h.started_le
  · rw [hCounter]
    exact h.counter_le
  · rw [hListener, hCounter]
    exact h.counter_full
  · rw [hListener, hTerminations]
    exact h.terminations_full

/- When the wait is over, all the handlers have finished. -/
theorem all_finished
    {s : ConnMgr V TIMEOUT}
    (h : s.Accounted MAX_CONN)
    (hPast : s.listener.pastWait = true) :
    ∀ handler ∈ s.handlers, handler.finished = true := by
  rw [← List.countP_eq_length]
  have hTerminations := h.terminations_full hPast
  have hEnough := h.terminations_le
  have hStarted := h.started_le
  have hLe := h.counter_le
  have hCount :=
    List.countP_le_length (p := HandlerThread.finished)
      (l := s.handlers)
  omega

/- Reading the counter finishes no handler. -/
theorem countP_finished_load
    {handlers : List (HandlerThread V TIMEOUT)}
    {i : Nat}
    {h : HandlerThread V TIMEOUT}
    (hHandler : handlers[i]? = some h)
    (terminations : Nat) :
    (handlers.set i (h.load terminations)).countP
        HandlerThread.finished =
      handlers.countP HandlerThread.finished :=
  countP_set_of_eq hHandler (h.finished_load terminations)

theorem of_handlerStep
    {s t : ConnMgr V TIMEOUT}
    {i : Nat}
    {ok : Bool}
    {effects : List (ConnEffect V)}
    (h : s.Accounted MAX_CONN)
    (hStep : handlerStep s i ok = some (t, effects)) :
    t.Accounted MAX_CONN := by
  rcases handlerStep_cases hStep with
    ⟨handler, rest, hHandler, hTodo, _, _, rfl⟩ |
      ⟨handler, e, rest, u, hHandler, hTodo, hPerform, rfl⟩
  · have hFinished :=
      countP_finished_load hHandler s.connTerminations
    constructor
    · simp only [hFinished]
      exact h.terminations_le
    · simp only [hFinished]
      intro handler' hMem n hLoaded
      rcases List.mem_or_eq_of_mem_set hMem with hOld | hNew
      · exact h.loaded_le handler' hOld n hLoaded
      · rw [hNew, handler.loaded_load hTodo] at hLoaded
        cases hLoaded
        exact h.terminations_le
    · simp only [List.length_set]
      exact h.started_le
    · exact h.counter_le
    · exact h.counter_full
    · exact h.terminations_full
  · rcases perform_counters hPerform with
      ⟨hHandlers, hCounter, hTerminations, hListener⟩
    have hMember := List.mem_of_getElem? hHandler
    have hFinished := countP_finished_advance hHandler hTodo
    have hPending :=
      ListenerPc.eq_of_signal _ ListenerPc.pending_signal
        hListener
    have hLoop :=
      ListenerPc.eq_of_signal _
        ListenerPc.pastAcceptLoop_signal hListener
    have hWait :=
      ListenerPc.eq_of_signal _ ListenerPc.pastWait_signal
        hListener
    constructor
    · simp only [hHandlers, hFinished]
      have hEnough := h.terminations_le
      rcases hTerminations with
        ⟨_, hSame, _⟩ | ⟨n, rfl, hLoaded, rfl⟩
      · rw [hSame]
        exact Nat.le_trans hEnough (Nat.le_add_right _ _)
      · have hLe := h.loaded_le handler hMember n hLoaded
        exact Nat.succ_le_succ hLe
    · simp only [hHandlers, hFinished]
      intro handler' hMem n hLoaded
      rcases List.mem_or_eq_of_mem_set hMem with hOld | hNew
      · exact Nat.le_trans
          (h.loaded_le handler' hOld n hLoaded)
          (Nat.le_add_right _ _)
      · rw [hNew] at hLoaded
        cases hLoaded
    · simp only [List.length_set]
      rw [hHandlers, hPending, hCounter]
      exact h.started_le
    · simp only
      rw [hCounter]
      exact h.counter_le
    · simp only
      rw [hLoop, hCounter]
      exact h.counter_full
    · simp only
      rw [hWait]
      intro hPast
      rcases hTerminations with
        ⟨_, hSame, _⟩ | ⟨n, rfl, _, _⟩
      · rw [hSame]
        exact h.terminations_full hPast
      · -- behind the wait, nobody has a count to do
        have hNot := handler.not_finished_of_todo hTodo
        rw [h.all_finished hPast handler hMember] at hNot
        cases hNot

end ConnMgr.Accounted

/- The counting invariant holds in every reachable state. -/
theorem connSystem_accounted
    {labels : List ConnAction}
    {s : ConnMgr V TIMEOUT}
    (hRun :
      (connSystem V TIMEOUT MAX_CONN).run labels =
        some s) :
    s.Accounted MAX_CONN := by
  refine System.invariant_of_step _ _
    ConnMgr.Accounted.start ?_ hRun
  intro s a t h hStep
  rcases connSystem_step.mp hStep with ⟨effects, hStep⟩
  cases a with
  | listener ok input => exact h.of_listenerStep hStep
  | excess ok => exact h.of_excessStep hStep
  | handler i ok => exact h.of_handlerStep hStep

------------------------------------------------------------
-- Failed Thread Creations
------------------------------------------------------------

/- The step is not a `pthread_create` of a handler failing. -/
def NoFailedCreate
    (s : ConnMgr V TIMEOUT)
    (a : ConnAction) : Prop :=
  ∀ client input,
    s.listener = .createHandler client →
      a ≠ .listener false input

/-
  The step keeps the accounts. It is no failed creation of a
  handler; and if it ends a `conn_terminations++`, no other
  count came in between, and it is not the last one that is
  missing while the listener, who has seen it missing, is not
  yet asleep.
-/
structure KeepsAccounts
    (MAX_CONN : Nat)
    (s : ConnMgr V TIMEOUT)
    (a : ConnAction) : Prop where
  created : NoFailedCreate s a
  current :
    ∀ i ok h n,
      a = .handler i ok →
        s.handlers[i]? = some h →
          h.loaded = some n → n = s.connTerminations
  heard :
    ∀ i ok h n,
      a = .handler i ok →
        s.handlers[i]? = some h →
          h.loaded = some n →
            n + 1 = MAX_CONN → s.listener ≠ .condWait

/-
  The counters agree with the handlers: outside of the call
  of `pthread_create`, they count the started ones and the
  finished ones, and once the loop has ended and all of them
  have finished, the wait for the terminations can end: none
  is missing, and the listener does not sleep without a
  wake-up, and is not about to.
-/
structure ConnMgr.AccountsAgree
    (MAX_CONN : Nat)
    (s : ConnMgr V TIMEOUT) : Prop where
  counter_eq :
    s.listener.pending = false →
      s.connCounter = s.handlers.length
  terminations_eq :
    s.connTerminations =
      s.handlers.countP HandlerThread.finished
  wait_can_end :
    s.listener.pastAcceptLoop = true →
      (∀ h ∈ s.handlers, h.finished = true) →
        s.connTerminations = MAX_CONN ∧
          s.listener.waiting = false

/- Clients that are counted but have no started handler. -/
def ConnMgr.unstarted
    (s : ConnMgr V TIMEOUT) : Int :=
  s.connCounter - s.handlers.length -
    s.listener.pending.toNat

/- A step that is a failed creation. -/
theorem not_noFailedCreate
    {s : ConnMgr V TIMEOUT}
    {a : ConnAction} :
    ¬ NoFailedCreate s a ↔
      ∃ client input,
        s.listener = .createHandler client ∧
          a = .listener false input := by
  simp [NoFailedCreate]

/- A failed creation leaves one more client unstarted. -/
theorem connStep_unstarted_of_failed
    {s t : ConnMgr V TIMEOUT}
    {a : ConnAction}
    {effects : List (ConnEffect V)}
    (hStep : connStep MAX_CONN s a = some (t, effects))
    (hFailed : ¬ NoFailedCreate s a) :
    t.unstarted = s.unstarted + 1 ∧
      t.listener.pending = false := by
  rcases not_noFailedCreate.mp hFailed with
    ⟨client, input, hPc, rfl⟩
  unfold ConnMgr.unstarted
  rcases (listenerStep_counters hStep).2 with
    ⟨hNot, _⟩ | ⟨_, hP, _⟩ | ⟨_, _, hOk, _⟩ |
      ⟨_, _, _, hC, hH, hP⟩
  · exact absurd hPc (hNot client)
  · rw [hPc] at hP
    cases hP
  · cases hOk
  · rw [hC, hH, hP, hPc]
    refine ⟨?_, rfl⟩
    simp [ListenerPc.pending]

/- All other steps leave as many unstarted as before. -/
theorem connStep_unstarted
    {s t : ConnMgr V TIMEOUT}
    {a : ConnAction}
    {effects : List (ConnEffect V)}
    (hStep : connStep MAX_CONN s a = some (t, effects))
    (hGuard : NoFailedCreate s a) :
    t.unstarted = s.unstarted := by
  unfold ConnMgr.unstarted
  cases a with
  | listener ok input =>
      rcases (listenerStep_counters hStep).2 with
        ⟨_, hC, hH, hP⟩ | ⟨_, hP, hC, hH, hP'⟩ |
          ⟨client, hPc, _, hC, hH, hP⟩ |
          ⟨client, hPc, hOk, _⟩
      · rw [hC, hH, hP]
      · rw [hC, hH, hP, hP']
        simp only [Nat.cast_add, Bool.toNat_true,
          Bool.toNat_false]
        omega
      · rw [hC, hH, hP, hPc, List.length_append]
        simp only [ListenerPc.pending, Nat.cast_add,
          Bool.toNat_true, Bool.toNat_false,
          List.length_singleton]
        omega
      · rw [hOk] at hGuard
        exact absurd rfl (hGuard client input hPc)
  | excess ok =>
      rcases excessStep_counters hStep with
        ⟨hCounter, _, hListener, hHandlers⟩
      rw [hCounter, hListener, hHandlers]
  | handler i ok =>
      rcases handlerStep_cases hStep with
        ⟨handler, rest, _, _, _, _, rfl⟩ |
          ⟨handler, e, rest, u, hHandler, hTodo, hPerform,
            rfl⟩
      · simp only [List.length_set]
      · rcases perform_counters hPerform with
          ⟨hHandlers, hCounter, _, hListener⟩
        have hPending :=
          ListenerPc.eq_of_signal _
            ListenerPc.pending_signal hListener
        simp only [List.length_set]
        rw [hCounter, hHandlers, hPending]

/-
  No client is unstarted, no termination is lost, and while
  the listener waits, some are missing.
-/
structure ConnMgr.Exact
    (MAX_CONN : Nat)
    (s : ConnMgr V TIMEOUT) : Prop where
  started : s.unstarted = 0
  terminations_eq :
    s.connTerminations =
      s.handlers.countP HandlerThread.finished
  missing :
    s.listener.waiting = true →
      s.connTerminations < MAX_CONN

/- The listener waits only if terminations are missing. -/
theorem listenerStep_waits
    {s t : ConnMgr V TIMEOUT}
    {ok : Bool}
    {input : HandlerInput}
    {effects : List (ConnEffect V)}
    (hStep :
      listenerStep MAX_CONN s ok input =
        some (t, effects))
    (hWaits : t.listener.waiting = true) :
    s.listener.waiting = true ∨
      s.connTerminations < MAX_CONN := by
  unfold listenerStep at hStep
  cases hPc : s.listener
  all_goals
    simp only [hPc] at hStep
    grind

/- A handler that has read the counter ends its count. -/
theorem handlerStep_of_loaded
    {s t : ConnMgr V TIMEOUT}
    {i n : Nat}
    {ok : Bool}
    {h : HandlerThread V TIMEOUT}
    {effects : List (ConnEffect V)}
    (hHandler : s.handlers[i]? = some h)
    (hLoaded : h.loaded = some n)
    (hStep : handlerStep s i ok = some (t, effects)) :
    t =
        { s.countTermination n with
            handlers := s.handlers.set i h.advance } ∧
      t.handlers.countP HandlerThread.finished =
        s.handlers.countP HandlerThread.finished + 1 := by
  rcases h.todo_of_loaded hLoaded with ⟨rest, hTodo⟩
  have hFinished := countP_finished_advance hHandler hTodo
  have hEq :
      t =
        { s.countTermination n with
            handlers := s.handlers.set i h.advance } := by
    simp [handlerStep, hHandler, hTodo, hLoaded,
      ConnMgr.perform] at hStep
    exact hStep.1.symm
  rw [hEq]
  exact ⟨rfl, hFinished⟩

/- Any other step of a handler leaves the counters alone. -/
theorem handlerStep_of_not_loaded
    {s t : ConnMgr V TIMEOUT}
    {i : Nat}
    {ok : Bool}
    {effects : List (ConnEffect V)}
    (hNot :
      ∀ h n, s.handlers[i]? = some h → h.loaded ≠ some n)
    (hStep : handlerStep s i ok = some (t, effects)) :
    t.connTerminations = s.connTerminations ∧
      t.listener = s.listener ∧
      t.handlers.countP HandlerThread.finished =
        s.handlers.countP HandlerThread.finished := by
  rcases handlerStep_cases hStep with
    ⟨h, rest, hHandler, _, _, _, rfl⟩ |
      ⟨h, e, rest, u, hHandler, hTodo, hPerform, rfl⟩
  · exact ⟨rfl, rfl,
      ConnMgr.Accounted.countP_finished_load hHandler _⟩
  · rcases perform_counters hPerform with
      ⟨hHandlers, _, hTerminations, _⟩
    have hFinished := countP_finished_advance hHandler hTodo
    rcases hTerminations with
      ⟨hOther, hSame, hListener⟩ | ⟨n, _, hLoaded, _⟩
    · rw [hOther] at hFinished
      refine ⟨hSame, hListener, ?_⟩
      simp only [hHandlers]
      exact hFinished
    · exact absurd hLoaded (hNot h n hHandler)

namespace ConnMgr.Exact

/- Exact accounts agree. -/
theorem agree
    {s : ConnMgr V TIMEOUT}
    (h : s.Exact MAX_CONN)
    (hAccounted : s.Accounted MAX_CONN) :
    s.AccountsAgree MAX_CONN := by
  have hStarted := h.started
  unfold ConnMgr.unstarted at hStarted
  refine ⟨?_, h.terminations_eq, ?_⟩
  · intro hPending
    rw [hPending] at hStarted
    simp only [Bool.toNat_false] at hStarted
    omega
  · intro hPast hAll
    have hLe := hAccounted.counter_le
    have hFull := hAccounted.counter_full hPast
    have hPending : s.listener.pending = false := by
      cases hPc : s.listener
      all_goals
        rw [hPc] at hPast
        first
        | rfl
        | cases hPast
    rw [hPending] at hStarted
    simp only [Bool.toNat_false] at hStarted
    have hCount : s.connTerminations = s.handlers.length := by
      rw [h.terminations_eq]
      exact List.countP_eq_length.mpr hAll
    have hEnough : s.connTerminations = MAX_CONN := by
      omega
    refine ⟨hEnough, ?_⟩
    by_contra hWaits
    have hMissing := h.missing (by simpa using hWaits)
    omega

/- Steps that keep the accounts keep them exact. -/
theorem of_connStep
    {s t : ConnMgr V TIMEOUT}
    {a : ConnAction}
    {effects : List (ConnEffect V)}
    (h : s.Exact MAX_CONN)
    (hAccounted : s.Accounted MAX_CONN)
    (hGuard : KeepsAccounts MAX_CONN s a)
    (hStep : connStep MAX_CONN s a = some (t, effects)) :
    t.Exact MAX_CONN := by
  have hStarted : t.unstarted = 0 :=
    (connStep_unstarted hStep hGuard.created).trans h.started
  cases a with
  | listener ok input =>
      rcases listenerStep_counters hStep with
        ⟨hTerminations, hCounters⟩
      refine ⟨hStarted, ?_, ?_⟩
      · rw [hTerminations, h.terminations_eq]
        rcases hCounters with
          hEq | hEq | ⟨_, hEq⟩ | ⟨_, hEq⟩
        · rw [hEq.2.2.1]
        · rw [hEq.2.2.2.1]
        · rw [hEq.2.2.2.1, countP_finished_start]
        · rw [hEq.2.2.2.1]
      · intro hWaits
        rw [hTerminations]
        rcases listenerStep_waits hStep hWaits with
          hBefore | hMissing
        · exact h.missing hBefore
        · exact hMissing
  | excess ok =>
      rcases excessStep_counters hStep with
        ⟨_, hTerminations, hListener, hHandlers⟩
      refine ⟨hStarted, ?_, ?_⟩
      · rw [hTerminations, hHandlers]
        exact h.terminations_eq
      · rw [hListener, hTerminations]
        exact h.missing
  | handler i ok =>
      by_cases hCounts :
          ∃ h n,
            s.handlers[i]? = some h ∧ h.loaded = some n
      · rcases hCounts with ⟨handler, n, hHandler, hLoaded⟩
        rcases handlerStep_of_loaded hHandler hLoaded
            hStep with
          ⟨hEq, hFinished⟩
        have hCurrent :=
          hGuard.current i ok handler n rfl hHandler hLoaded
        have hHeard :=
          hGuard.heard i ok handler n rfl hHandler hLoaded
        refine ⟨hStarted, ?_, ?_⟩
        · rw [hFinished, ← h.terminations_eq, ← hCurrent,
            hEq]
          rfl
        · have hListener :
              t.listener =
                if n + 1 = s.connCounter then
                  s.listener.signal
                else
                  s.listener := by
            rw [hEq]
            rfl
          intro hWaits
          have hWaited : s.listener.waiting = true := by
            rw [hListener] at hWaits
            split at hWaits
            · exact ListenerPc.waiting_of_signal hWaits
            · exact hWaits
          have hMissing := h.missing hWaited
          have hLe := hAccounted.counter_le
          have hFull := hAccounted.counter_full
            (ListenerPc.pastAcceptLoop_of_waiting hWaited)
          have hNotLast : n + 1 ≠ MAX_CONN := by
            -- the last count wakes a listener that sleeps
            intro hLast
            rw [hListener, if_pos (by omega),
              ListenerPc.waiting_signal (hHeard hLast)]
              at hWaits
            cases hWaits
          rw [hEq]
          simp only [ConnMgr.countTermination]
          omega
      · have hNot :
            ∀ h n,
              s.handlers[i]? = some h →
                h.loaded ≠ some n :=
          fun h n hHandler hLoaded =>
            hCounts ⟨h, n, hHandler, hLoaded⟩
        rcases handlerStep_of_not_loaded hNot hStep with
          ⟨hTerminations, hListener, hFinished⟩
        refine ⟨hStarted, ?_, ?_⟩
        · rw [hTerminations, hFinished]
          exact h.terminations_eq
        · rw [hListener, hTerminations]
          exact h.missing

/- Behind any other step, the accounts do not agree. -/
theorem not_agree
    {s t : ConnMgr V TIMEOUT}
    {a : ConnAction}
    {effects : List (ConnEffect V)}
    (h : s.Exact MAX_CONN)
    (hAccounted : s.Accounted MAX_CONN)
    (hGuard : ¬ KeepsAccounts MAX_CONN s a)
    (hStep : connStep MAX_CONN s a = some (t, effects)) :
    ¬ t.AccountsAgree MAX_CONN := by
  intro hAgree
  have hStarted := h.started
  have hTerminationsEq := h.terminations_eq
  by_cases hCreated : NoFailedCreate s a
  · apply hGuard
    have hCurrent :
        ∀ i ok handler n,
          a = .handler i ok →
            s.handlers[i]? = some handler →
              handler.loaded = some n →
                n = s.connTerminations := by
      intro i ok handler n hAction hHandler hLoaded
      subst hAction
      rcases handlerStep_of_loaded hHandler hLoaded hStep with
        ⟨hEq, hFinished⟩
      have hAfter := hAgree.terminations_eq
      rw [hFinished, ← hTerminationsEq, hEq] at hAfter
      exact Nat.succ_injective hAfter
    refine ⟨hCreated, hCurrent, ?_⟩
    intro i ok handler n hAction hHandler hLoaded hLast hPc
    have hNow := hCurrent i ok handler n hAction hHandler
      hLoaded
    subst hAction
    rcases handlerStep_of_loaded hHandler hLoaded hStep with
      ⟨hEq, hFinished⟩
    have hAsleep : t.listener = .condWait := by
      rw [hEq]
      simp only [ConnMgr.countTermination, hPc]
      split
      · rfl
      · rfl
    have hLength : t.handlers.length = s.handlers.length := by
      rw [hEq]
      exact List.length_set
    have hLe := hAccounted.counter_le
    have hRoom := hAccounted.started_le
    have hCount :=
      List.countP_le_length (p := HandlerThread.finished)
        (l := t.handlers)
    have hAll : ∀ h ∈ t.handlers, h.finished = true := by
      rw [← List.countP_eq_length]
      omega
    have hAwake :=
      (hAgree.wait_can_end (by rw [hAsleep]; rfl) hAll).2
    rw [hAsleep] at hAwake
    cases hAwake
  · rcases connStep_unstarted_of_failed hStep hCreated with
      ⟨hUnstarted, hPending⟩
    have hCounter := hAgree.counter_eq hPending
    rw [hStarted] at hUnstarted
    unfold ConnMgr.unstarted at hUnstarted
    rw [hPending, hCounter] at hUnstarted
    simp at hUnstarted

end ConnMgr.Exact

/-
  In a run, the counters agree in every state on the way
  exactly if all its steps keep the accounts.
-/
theorem connSystem_accountsAgree_iff
    {labels : List ConnAction}
    {s : ConnMgr V TIMEOUT}
    (hRun :
      (connSystem V TIMEOUT MAX_CONN).run labels =
        some s) :
    (∀ before after t,
        labels = before ++ after →
          (connSystem V TIMEOUT MAX_CONN).run before =
              some t →
            t.AccountsAgree MAX_CONN) ↔
      (connSystem V TIMEOUT MAX_CONN).Guarded
        (KeepsAccounts MAX_CONN) labels := by
  refine System.always_iff_guarded _ (KeepsAccounts MAX_CONN)
    (fun s => s.Exact MAX_CONN) _ ?_ ?_ ?_ ?_ hRun
  · exact ⟨rfl, rfl, Bool.noConfusion⟩
  · intro before s a t hBefore h hGuard hStep
    rcases connSystem_step.mp hStep with ⟨effects, hStep⟩
    exact h.of_connStep (connSystem_accounted hBefore) hGuard
      hStep
  · intro before s hBefore h
    exact h.agree (connSystem_accounted hBefore)
  · intro before s a t hBefore h hGuard hStep
    rcases connSystem_step.mp hStep with ⟨effects, hStep⟩
    exact h.not_agree (connSystem_accounted hBefore) hGuard
      hStep

/- The listener up to the creation of its first handler. -/
def firstClient
    (created : Bool) :
    List ConnAction :=
  List.replicate 10 (.listener true .silent) ++
    [.listener created .silent]

/- A first handler that is created. -/
theorem accountsAgree_first_client :
    ∃ s : ConnMgr (BitVec 64) 5,
      (connSystem (BitVec 64) 5 1).run (firstClient true) =
          some s ∧
        ((∀ before after t,
            firstClient true = before ++ after →
              (connSystem (BitVec 64) 5 1).run before =
                  some t →
                t.AccountsAgree 1) ↔
          (connSystem (BitVec 64) 5 1).Guarded
            (KeepsAccounts 1) (firstClient true)) :=
  ⟨_, rfl, connSystem_accountsAgree_iff rfl⟩

/-
  A first handler that cannot be created: one client is
  counted, no handler is started.
-/
theorem accounts_disagree :
    ¬ ∀ (MAX_CONN : Nat)
        (labels : List ConnAction)
        (s : ConnMgr (BitVec 64) 5),
          (connSystem (BitVec 64) 5 MAX_CONN).run labels =
              some s →
            s.AccountsAgree MAX_CONN := by
  intro hAll
  have hAgree := hAll 1 (firstClient false) _ rfl
  have hCounter := hAgree.counter_eq rfl
  revert hCounter
  decide

/-
  An `accept` that fails, after which the listener unlocks
  the mutex of the handler that counts: another handler reads
  the same counter, and of the two terminations one is lost.
-/
def lostTermination : List ConnAction :=
  List.replicate 23 (.listener true .closed) ++
    [.listener false .closed, .listener true .closed] ++
    List.replicate 4 (.handler 0 true) ++
    List.replicate 2 (.listener true .closed) ++
    List.replicate 4 (.handler 1 true) ++
    [.handler 0 true, .handler 1 true]

example :
    ((connSystem (BitVec 64) 5 3).run lostTermination).map
        (fun s =>
          (s.connTerminations,
            s.handlers.map HandlerThread.finished)) =
      some (1, [true, true]) := by
  decide +kernel

end SensorGateway
