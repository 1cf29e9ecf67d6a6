import SensorGateway.ConnMgr.Accounting
import SensorGateway.ConnMgr.Sections

/-
  The wake-up of the listener from its wait for the
  terminations.

  A handler signals when the terminations reach
  `conn_counter`, the listener waits until they reach
  `MAX_CONN`. As long as no call fails, `conn_mutex` keeps
  the handlers out between the listener's test and its
  sleep, and the counter is `MAX_CONN` when it sleeps.

  Key definitions include:
    * `CallsSucceed`
    * `ConnMgr.NoLostWakeup`

  Key theorems include:
    * `ConnMgr.NoLostWakeup.of_handlerStep`
    * `connSystem_noLostWakeup`
-/

------------------------------------------------------------
-- Places of the Wait
------------------------------------------------------------

namespace SensorGateway

open Foundations

namespace ListenerPc

/- A call of the accept loop has failed. -/
@[grind] def onErrorPath : ListenerPc → Bool
| .logFailedWait => true
| .logFailedCreate _ => true
| .closeFailed _ => true
| _ => false

/- A `continue` is on an error path. -/
theorem continues_of_onErrorPath
    {pc : ListenerPc}
    (hNoError : pc.onErrorPath = false) :
    pc.continues = false := by
  cases pc with
  | logFailedWait => cases hNoError
  | closeFailed client => cases hNoError
  | _ => rfl

@[simp] theorem onErrorPath_signal
    (pc : ListenerPc) :
    pc.signal.onErrorPath = pc.onErrorPath := by
  cases pc with
  | blocked woken => rfl
  | _ => rfl

end ListenerPc

variable {V : Type}
variable [SensorValue V]
variable {TIMEOUT : Int}
variable {MAX_CONN : Nat}

------------------------------------------------------------
-- The Wake-Up
------------------------------------------------------------

/-
  The step is not an `accept` or a `pthread_create` of the
  accept loop failing.
-/
def CallsSucceed
    (s : ConnMgr V TIMEOUT)
    (a : ConnAction) : Prop :=
  (s.listener = .waitForConnection ∨
      ∃ client, s.listener = .createHandler client) →
    ∀ input, a ≠ .listener false input

/-
  No wake-up of the listener is lost: while it waits without
  one, terminations are missing. No termination is lost
  either: what a handler has read is still what is there.
-/
structure ConnMgr.NoLostWakeup
    (MAX_CONN : Nat)
    (s : ConnMgr V TIMEOUT) : Prop where
  no_error : s.listener.onErrorPath = false
  excludes : s.connMutex.Excludes s.inside
  current :
    ∀ (i : Nat) h n,
      s.handlers[i]? = some h →
        h.loaded = some n → n = s.connTerminations
  missing :
    s.listener.waiting = true →
      s.connTerminations < MAX_CONN

/- Where all calls succeed, no error path is taken. -/
theorem listenerStep_noError
    {s t : ConnMgr V TIMEOUT}
    {ok : Bool}
    {input : HandlerInput}
    {effects : List (ConnEffect V)}
    (hNoError : s.listener.onErrorPath = false)
    (hGuard : CallsSucceed s (.listener ok input))
    (hStep :
      listenerStep MAX_CONN s ok input =
        some (t, effects)) :
    t.listener.onErrorPath = false := by
  have hOk :
      (s.listener = .waitForConnection ∨
          ∃ client, s.listener = .createHandler client) →
        ok = true := by
    intro hPc
    by_contra hNot
    have hFalse : ok = false := by
      simpa using hNot
    exact hGuard hPc input (by rw [hFalse])
  unfold listenerStep at hStep
  cases hPc : s.listener
  all_goals
    simp only [hPc] at hStep hNoError hOk
    grind

namespace ConnMgr.NoLostWakeup

theorem of_listenerStep
    {s t : ConnMgr V TIMEOUT}
    {ok : Bool}
    {input : HandlerInput}
    {effects : List (ConnEffect V)}
    (h : s.NoLostWakeup MAX_CONN)
    (hGuard : CallsSucceed s (.listener ok input))
    (hStep :
      listenerStep MAX_CONN s ok input =
        some (t, effects)) :
    t.NoLostWakeup MAX_CONN := by
  have hTerminations := (listenerStep_counters hStep).1
  constructor
  · exact listenerStep_noError h.no_error hGuard hStep
  · exact ConnMgr.excludes_of_listenerStep h.excludes
      (ListenerPc.continues_of_onErrorPath h.no_error) hStep
  · intro i handler n hHandler hLoaded
    rw [hTerminations]
    rcases listenerStep_handlers hStep with
      hEq | ⟨client, hEq⟩
    · rw [hEq] at hHandler
      exact h.current i handler n hHandler hLoaded
    · rw [hEq, List.getElem?_append] at hHandler
      split at hHandler
      · exact h.current i handler n hHandler hLoaded
      · have hStart :=
          List.mem_singleton.mp
            (List.mem_of_getElem? hHandler)
        rw [hStart] at hLoaded
        cases hLoaded
  · intro hWaits
    rw [hTerminations]
    rcases listenerStep_waits hStep hWaits with
      hBefore | hMissing
    · exact h.missing hBefore
    · exact hMissing

theorem of_excessStep
    {s t : ConnMgr V TIMEOUT}
    {ok : Bool}
    {effects : List (ConnEffect V)}
    (h : s.NoLostWakeup MAX_CONN)
    (hStep :
      excessStep MAX_CONN s ok = some (t, effects)) :
    t.NoLostWakeup MAX_CONN := by
  rcases excessStep_counters hStep with
    ⟨_, hTerminations, hListener, hHandlers⟩
  constructor
  · rw [hListener]
    exact h.no_error
  · exact ConnMgr.excludes_of_excessStep h.excludes hStep
  · rw [hHandlers, hTerminations]
    exact h.current
  · rw [hListener, hTerminations]
    exact h.missing

/- While a handler holds the mutex, the listener does not. -/
theorem not_condWait_of_inSection
    {s : ConnMgr V TIMEOUT}
    (h : s.NoLostWakeup MAX_CONN)
    (hPhased : s.Phased)
    {i : Nat}
    {handler : HandlerThread V TIMEOUT}
    (hHandler : s.handlers[i]? = some handler)
    (hSection : handler.inSection = true) :
    s.listener ≠ .condWait := by
  intro hPc
  have hAlive : s.connMutex.destroyed = false := by
    rw [hPhased.mutex_eq, hPc]
    rfl
  have hListener : s.inside .connmgrListen := by
    simp [ConnMgr.inside, hPc, ListenerPc.inSection]
  have hThread : s.inside (.clientHandler i) :=
    ⟨handler, hHandler, hSection⟩
  have hEq :=
    h.excludes.eq_of_inside hAlive hListener hThread
  cases hEq

/- While a handler counts, no other one does. -/
theorem eq_of_loaded
    {s : ConnMgr V TIMEOUT}
    (h : s.NoLostWakeup MAX_CONN)
    (hAccounted : s.Accounted MAX_CONN)
    (hPhased : s.Phased)
    {i j : Nat}
    {m n : Nat}
    {handler handler' : HandlerThread V TIMEOUT}
    (hHandler : s.handlers[i]? = some handler)
    (hLoaded : handler.loaded = some m)
    (hHandler' : s.handlers[j]? = some handler')
    (hLoaded' : handler'.loaded = some n) :
    i = j := by
  rcases handler.todo_of_loaded hLoaded with ⟨rest, hTodo⟩
  rcases handler'.todo_of_loaded hLoaded' with
    ⟨rest', hTodo'⟩
  have hInside : s.inside (.clientHandler i) :=
    ⟨handler, hHandler, by
      rw [HandlerThread.inSection, hTodo]
      rfl⟩
  have hInside' : s.inside (.clientHandler j) :=
    ⟨handler', hHandler', by
      rw [HandlerThread.inSection, hTodo']
      rfl⟩
  have hAlive : s.connMutex.destroyed = false := by
    -- behind the wait, no handler has a count to do
    by_contra hDestroyed
    rw [Bool.not_eq_false, hPhased.mutex_eq] at hDestroyed
    have hFinished :=
      hAccounted.all_finished
        (ListenerPc.pastWait_of_mutexDestroyed hDestroyed)
        handler (List.mem_of_getElem? hHandler)
    rw [handler.not_finished_of_todo hTodo] at hFinished
    cases hFinished
  have hEq := h.excludes.eq_of_inside hAlive hInside hInside'
  injection hEq

/-
  A handler counts while it holds the mutex, so the listener
  is not about to sleep then; and if the listener sleeps,
  the last of all terminations comes with the signal.
-/
theorem of_handlerStep
    {s t : ConnMgr V TIMEOUT}
    {i : Nat}
    {ok : Bool}
    {effects : List (ConnEffect V)}
    (h : s.NoLostWakeup MAX_CONN)
    (hAccounted : s.Accounted MAX_CONN)
    (hPhased : s.Phased)
    (hStep : handlerStep s i ok = some (t, effects)) :
    t.NoLostWakeup MAX_CONN := by
  have hExcludes :=
    ConnMgr.excludes_of_handlerStep h.excludes hStep
  rcases handlerStep_cases hStep with
    ⟨handler, rest, hHandler, hTodo, _, _, rfl⟩ |
      ⟨handler, e, rest, u, hHandler, hTodo, hPerform, rfl⟩
  · refine ⟨h.no_error, hExcludes, ?_, h.missing⟩
    intro j handler' n hHandler' hLoaded
    have hLt := (List.getElem?_eq_some_iff.mp hHandler).1
    by_cases hIndex : i = j
    · simp only [← hIndex, List.getElem?_set_self hLt]
        at hHandler'
      cases hHandler'
      rw [handler.loaded_load hTodo] at hLoaded
      cases hLoaded
      rfl
    · simp only [List.getElem?_set_ne hIndex] at hHandler'
      exact h.current j handler' n hHandler' hLoaded
  · rcases perform_counters hPerform with
      ⟨hHandlers, _, hTerminations, hListener⟩
    have hLt := (List.getElem?_eq_some_iff.mp hHandler).1
    have hOthers :
        ∀ j handler' n,
          (u.handlers.set i handler.advance)[j]? =
              some handler' →
            handler'.loaded = some n →
              i ≠ j ∧ s.handlers[j]? = some handler' := by
      intro j handler' n hHandler' hLoaded
      rw [hHandlers] at hHandler'
      by_cases hIndex : i = j
      · rw [← hIndex, List.getElem?_set_self hLt]
          at hHandler'
        cases hHandler'
        cases hLoaded
      · rw [List.getElem?_set_ne hIndex] at hHandler'
        exact ⟨hIndex, hHandler'⟩
    refine ⟨?_, hExcludes, ?_, ?_⟩
    · simp only
      rw [ListenerPc.eq_of_signal _
        ListenerPc.onErrorPath_signal hListener]
      exact h.no_error
    · intro j handler' n hHandler' hLoaded
      rcases hOthers j handler' n hHandler' hLoaded with
        ⟨hNe, hBefore⟩
      rcases hTerminations with
        ⟨_, hSame, _⟩ | ⟨m, _, hCounts, _⟩
      · rw [hSame]
        exact h.current j handler' n hBefore hLoaded
      · exact absurd
          (h.eq_of_loaded hAccounted hPhased hHandler hCounts
            hBefore hLoaded) hNe
    · simp only
      intro hWaits
      have hWaited : s.listener.waiting = true := by
        rcases hListener with hEq | hEq
        · rw [← hEq]
          exact hWaits
        · apply ListenerPc.waiting_of_signal
          rw [← hEq]
          exact hWaits
      have hMissing := h.missing hWaited
      rcases hTerminations with
        ⟨_, hSame, _⟩ | ⟨n, rfl, hCounts, rfl⟩
      · rw [hSame]
        exact hMissing
      · have hNow := h.current i handler n hHandler hCounts
        have hLe := hAccounted.counter_le
        have hGe := hAccounted.counter_full
          (ListenerPc.pastAcceptLoop_of_waiting hWaited)
        have hAsleep :=
          h.not_condWait_of_inSection hPhased hHandler (by
            rw [HandlerThread.inSection, hTodo]
            rfl)
        have hNotAll : n + 1 ≠ s.connCounter := by
          intro hAll
          simp only [ConnMgr.countTermination, hAll,
            if_true] at hWaits
          rw [ListenerPc.waiting_signal hAsleep] at hWaits
          cases hWaits
        simp only [ConnMgr.countTermination]
        omega

theorem start :
    (ConnMgr.start : ConnMgr V TIMEOUT).NoLostWakeup
      MAX_CONN where
  no_error := rfl
  excludes := ConnMgr.excludes_start
  current := by
    intro i handler n hHandler
    cases hHandler
  missing := by
    intro hWaits
    cases hWaits

/-
  Where the mutex keeps all others out, a step that is no
  failed creation keeps the accounts.
-/
theorem keepsAccounts
    {s : ConnMgr V TIMEOUT}
    (h : s.NoLostWakeup MAX_CONN)
    (hPhased : s.Phased)
    {a : ConnAction}
    (hCreated : NoFailedCreate s a) :
    KeepsAccounts MAX_CONN s a := by
  refine ⟨hCreated, ?_, ?_⟩
  · intro i _ handler n _ hHandler hLoaded
    exact h.current i handler n hHandler hLoaded
  · intro i _ handler n _ hHandler hLoaded _
    rcases handler.todo_of_loaded hLoaded with ⟨rest, hTodo⟩
    apply h.not_condWait_of_inSection hPhased hHandler
    rw [HandlerThread.inSection, hTodo]
    rfl

end ConnMgr.NoLostWakeup

/- A step keeps it, if it is no call that fails. -/
theorem ConnMgr.NoLostWakeup.of_connStep
    {s t : ConnMgr V TIMEOUT}
    {a : ConnAction}
    {effects : List (ConnEffect V)}
    (h : s.NoLostWakeup MAX_CONN)
    (hAccounted : s.Accounted MAX_CONN)
    (hPhased : s.Phased)
    (hSucceed : CallsSucceed s a)
    (hStep : connStep MAX_CONN s a = some (t, effects)) :
    t.NoLostWakeup MAX_CONN := by
  cases a with
  | listener ok input => exact h.of_listenerStep hSucceed hStep
  | excess ok => exact h.of_excessStep hStep
  | handler i ok =>
      exact h.of_handlerStep hAccounted hPhased hStep

/-
  If all calls of the accept loop succeed, the listener is in
  no reachable state asleep without a wake-up when all the
  terminations are there.
-/
theorem connSystem_noLostWakeup
    (labels : List ConnAction)
    {s : ConnMgr V TIMEOUT}
    (hGuard :
      (connSystem V TIMEOUT MAX_CONN).Guarded CallsSucceed
        labels)
    (hRun :
      (connSystem V TIMEOUT MAX_CONN).run labels =
        some s) :
    ¬ (s.listener = .blocked false ∧
      s.connTerminations = MAX_CONN) := by
  have hInvariant : s.NoLostWakeup MAX_CONN := by
    refine System.invariant_of_guarded_step _ _ _
      ConnMgr.NoLostWakeup.start ?_ hGuard hRun
    intro before s a t hBefore h hSucceed hStep
    rcases connSystem_step.mp hStep with ⟨effects, hStep⟩
    exact h.of_connStep (connSystem_accounted hBefore)
      (connSystem_phased hBefore) hSucceed hStep
  rintro ⟨hPc, hAll⟩
  have hMissing := hInvariant.missing (by
    rw [hPc]
    rfl)
  omega

/- The listener asleep until its only client terminates. -/
theorem noLostWakeup_one_client :
    ∃ s : ConnMgr (BitVec 64) 5,
      (connSystem (BitVec 64) 5 1).run
            (List.replicate 16 (.listener true .silent)) =
          some s ∧
        s.listener = .blocked false ∧
          ¬ (s.listener = .blocked false ∧
            s.connTerminations = 1) := by
  refine ⟨_, rfl, rfl, connSystem_noLostWakeup
    (List.replicate 16 (.listener true .silent)) ?_ rfl⟩
  apply System.guarded_of_forall
  intro a hMem s _ input hEq
  rw [List.eq_of_mem_replicate hMem] at hEq
  cases hEq

end SensorGateway
