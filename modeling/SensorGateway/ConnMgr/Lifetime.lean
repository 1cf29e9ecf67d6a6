import SensorGateway.ConnMgr.Accounting
import SensorGateway.ConnMgr.Phases

/-
  The end of the server socket and of `conn_mutex`.

  The listener closes the server and destroys the mutex while
  the excess handler may be anywhere in its loop, and tells
  it to stop only afterwards. Neither object is used after
  its end as long as no thread is on its way to a use when
  the object ends, and no new use is begun after that.

  Key definitions include:
    * `WithinLifetime`
    * `ConnMgr.LifetimeSafe`

  Key theorems include:
    * `connSystem_lifetime`
    * `lifetime_violated`
-/

------------------------------------------------------------
-- The Condition on Steps
------------------------------------------------------------

namespace SensorGateway

open Foundations

variable {V : Type}
variable [SensorValue V]
variable {TIMEOUT : Int}
variable {MAX_CONN : Nat}

/-
  The condition on a step. The listener closes the server
  when the excess handler is not about to call `accept`, and
  destroys the mutex when nobody is about to lock or unlock
  it. The excess handler does not pass its stop check when
  the server is closed, nor gets a client when the mutex is
  destroyed.
-/
def WithinLifetime
    (s : ConnMgr V TIMEOUT) :
    ConnAction → Prop
| .listener _ _ =>
    (s.listener = .closeServer →
        s.excess ≠ .callAccept) ∧
      (s.listener = .destroyMutex →
        s.excess.usesMutex = false ∧
          ∀ h ∈ s.handlers, h.inSection = false)
| .excess ok =>
    (s.excess = .checkStop →
        s.server.status = .freed →
          s.stopExcessHandler = true) ∧
      (s.excess = .inAccept →
        s.connMutex.destroyed = true → ok = false)
| .handler _ _ => True

instance
    (s : ConnMgr V TIMEOUT)
    (a : ConnAction) :
    Decidable (WithinLifetime s a) :=
  match a with
  | .listener _ _ => inferInstanceAs (Decidable (_ ∧ _))
  | .excess _ => inferInstanceAs (Decidable (_ ∧ _))
  | .handler _ _ => inferInstanceAs (Decidable True)

/-
  No object was used after its end, and no thread is on its
  way to such a use.
-/
structure ConnMgr.LifetimeSafe
    (s : ConnMgr V TIMEOUT) : Prop where
  server_unused : s.server.usedAfterFree = false
  mutex_unused : s.connMutex.usedAfterDestroy = false
  excess_off_server :
    s.server.status = .freed → s.excess ≠ .callAccept
  excess_off_mutex :
    s.connMutex.destroyed = true →
      s.excess.usesMutex = false
  handlers_off_mutex :
    s.connMutex.destroyed = true →
      ∀ h ∈ s.handlers, h.inSection = false

/- A server that is not freed is not marked by a use. -/
theorem ServerSocket.use_of_ne_freed
    {server : ServerSocket}
    (hStatus : server.status ≠ .freed) :
    server.use = server := by
  unfold use
  rw [if_neg hStatus]

------------------------------------------------------------
-- The Invariant
------------------------------------------------------------

attribute [grind →] Mutex.lock_usedAfterDestroy
attribute [grind =] Mutex.unlock_usedAfterDestroy
attribute [grind =] ServerSocket.use_of_ne_freed
attribute [grind] ExcessPc.usesMutex

/- The listener uses the objects only before their ends. -/
theorem listenerStep_unused
    {s t : ConnMgr V TIMEOUT}
    {ok : Bool}
    {input : HandlerInput}
    {effects : List (ConnEffect V)}
    (hPhased : s.Phased)
    (hStep :
      listenerStep MAX_CONN s ok input =
        some (t, effects)) :
    t.server.usedAfterFree = s.server.usedAfterFree ∧
      t.connMutex.usedAfterDestroy =
        s.connMutex.usedAfterDestroy := by
  rcases hPhased with ⟨hServer, hMutex, _⟩
  unfold listenerStep at hStep
  cases hPc : s.listener
  all_goals
    simp only [hPc] at hStep hServer hMutex
    simp only [ListenerPc.serverStatus] at hServer
    simp only [ListenerPc.mutexDestroyed] at hMutex
    grind [ServerSocket.close, ServerSocket.passiveOpen,
      Mutex.destroy]

/- It ends them with its own two steps for that. -/
theorem listenerStep_ends
    {s t : ConnMgr V TIMEOUT}
    {ok : Bool}
    {input : HandlerInput}
    {effects : List (ConnEffect V)}
    (hPhased : s.Phased)
    (hStep :
      listenerStep MAX_CONN s ok input =
        some (t, effects)) :
    (t.server.status = .freed →
        t.excess = s.excess ∧
          (s.server.status = .freed ∨
            s.listener = .closeServer)) ∧
      (t.connMutex.destroyed = true →
        t.excess = s.excess ∧ t.handlers = s.handlers ∧
          (s.connMutex.destroyed = true ∨
            s.listener = .destroyMutex)) := by
  rcases hPhased with ⟨hServer, hMutex, _⟩
  unfold listenerStep at hStep
  cases hPc : s.listener
  all_goals
    simp only [hPc] at hStep hServer hMutex
    simp only [ListenerPc.serverStatus] at hServer
    simp only [ListenerPc.mutexDestroyed] at hMutex
    grind [Mutex.destroy]

/-
  The excess handler uses the server at its call of `accept`,
  and the mutex at its lock and unlock.
-/
theorem excessStep_unused
    {s t : ConnMgr V TIMEOUT}
    {ok : Bool}
    {effects : List (ConnEffect V)}
    (hServer :
      s.server.status = .freed → s.excess ≠ .callAccept)
    (hMutex :
      s.connMutex.destroyed = true →
        s.excess.usesMutex = false)
    (hStep :
      excessStep MAX_CONN s ok = some (t, effects)) :
    t.server.usedAfterFree = s.server.usedAfterFree ∧
      t.connMutex.usedAfterDestroy =
        s.connMutex.usedAfterDestroy := by
  unfold excessStep at hStep
  cases hPc : s.excess
  all_goals
    simp only [hPc] at hStep hServer hMutex
    grind

/- It comes to these places from its check and its accept. -/
theorem excessStep_enters
    {s t : ConnMgr V TIMEOUT}
    {ok : Bool}
    {effects : List (ConnEffect V)}
    (hStep :
      excessStep MAX_CONN s ok = some (t, effects)) :
    (t.excess = .callAccept →
        s.excess = .checkStop ∧
          s.stopExcessHandler = false) ∧
      (t.excess.usesMutex = true →
        s.excess.usesMutex = true ∨
          (s.excess = .inAccept ∧ ok = true)) := by
  unfold excessStep at hStep
  cases hPc : s.excess
  all_goals
    simp only [hPc] at hStep
    grind

namespace ConnMgr.LifetimeSafe

theorem start :
    (ConnMgr.start : ConnMgr V TIMEOUT).LifetimeSafe where
  server_unused := rfl
  mutex_unused := rfl
  excess_off_server := by
    intro hFreed
    cases hFreed
  excess_off_mutex := by
    intro hDestroyed
    cases hDestroyed
  handlers_off_mutex := by
    intro hDestroyed
    cases hDestroyed

theorem of_listenerStep
    {s t : ConnMgr V TIMEOUT}
    {ok : Bool}
    {input : HandlerInput}
    {effects : List (ConnEffect V)}
    (h : s.LifetimeSafe)
    (hPhased : s.Phased)
    (hGuard : WithinLifetime s (.listener ok input))
    (hStep :
      listenerStep MAX_CONN s ok input =
        some (t, effects)) :
    t.LifetimeSafe := by
  rcases listenerStep_unused hPhased hStep with
    ⟨hServer, hMutex⟩
  rcases listenerStep_ends hPhased hStep with
    ⟨hClose, hDestroy⟩
  constructor
  · rw [hServer]
    exact h.server_unused
  · rw [hMutex]
    exact h.mutex_unused
  · intro hFreed
    rcases hClose hFreed with ⟨hExcess, hBefore | hNow⟩
    · rw [hExcess]
      exact h.excess_off_server hBefore
    · rw [hExcess]
      exact hGuard.1 hNow
  · intro hDestroyed
    rcases hDestroy hDestroyed with
      ⟨hExcess, _, hBefore | hNow⟩
    · rw [hExcess]
      exact h.excess_off_mutex hBefore
    · rw [hExcess]
      exact (hGuard.2 hNow).1
  · intro hDestroyed
    rcases hDestroy hDestroyed with
      ⟨_, hHandlers, hBefore | hNow⟩
    · rw [hHandlers]
      exact h.handlers_off_mutex hBefore
    · rw [hHandlers]
      exact (hGuard.2 hNow).2

theorem of_excessStep
    {s t : ConnMgr V TIMEOUT}
    {ok : Bool}
    {effects : List (ConnEffect V)}
    (h : s.LifetimeSafe)
    (hGuard : WithinLifetime s (.excess ok))
    (hStep :
      excessStep MAX_CONN s ok = some (t, effects)) :
    t.LifetimeSafe := by
  rcases excessStep_shared hStep with ⟨hServer, hMutex, _⟩
  rcases excessStep_unused h.excess_off_server
      h.excess_off_mutex hStep with
    ⟨hServerUnused, hMutexUnused⟩
  rcases excessStep_enters hStep with ⟨hCalls, hUses⟩
  constructor
  · rw [hServerUnused]
    exact h.server_unused
  · rw [hMutexUnused]
    exact h.mutex_unused
  · rw [hServer]
    intro hFreed hPc
    rcases hCalls hPc with ⟨hCheck, hStop⟩
    rw [hGuard.1 hCheck hFreed] at hStop
    cases hStop
  · rw [hMutex]
    intro hDestroyed
    by_contra hNot
    rw [Bool.not_eq_false] at hNot
    rcases hUses hNot with hBefore | ⟨hAccept, hOk⟩
    · rw [h.excess_off_mutex hDestroyed] at hBefore
      cases hBefore
    · rw [hGuard.2 hAccept hDestroyed] at hOk
      cases hOk
  · rw [hMutex, (excessStep_counters hStep).2.2.2]
    exact h.handlers_off_mutex

/- A handler that takes a step finds the mutex alive. -/
theorem alive_of_handler
    {s : ConnMgr V TIMEOUT}
    (h : s.LifetimeSafe)
    (hAccounted : s.Accounted MAX_CONN)
    (hPhased : s.Phased)
    {i : Nat}
    {handler : HandlerThread V TIMEOUT}
    {e : HandlerEffect V}
    {rest : List (HandlerEffect V)}
    (hHandler : s.handlers[i]? = some handler)
    (hTodo : handler.todo = e :: rest) :
    s.connMutex.destroyed = false := by
  by_contra hNot
  have hDestroyed : s.connMutex.destroyed = true := by
    simpa using hNot
  have hMem := List.mem_of_getElem? hHandler
  have hOutside := h.handlers_off_mutex hDestroyed _ hMem
  have hPastWait : s.listener.pastWait = true := by
    apply ListenerPc.pastWait_of_mutexDestroyed
    rw [← hPhased.mutex_eq]
    exact hDestroyed
  have hFinished := hAccounted.all_finished hPastWait _ hMem
  rcases handler.todo_of_finished hFinished with
    hUnlock | hNil
  · rw [HandlerThread.inSection, hUnlock] at hOutside
    cases hOutside
  · rw [hTodo] at hNil
    cases hNil

theorem of_handlerStep
    {s t : ConnMgr V TIMEOUT}
    {i : Nat}
    {ok : Bool}
    {effects : List (ConnEffect V)}
    (h : s.LifetimeSafe)
    (hAccounted : s.Accounted MAX_CONN)
    (hPhased : s.Phased)
    (hStep : handlerStep s i ok = some (t, effects)) :
    t.LifetimeSafe := by
  rcases handlerStep_cases hStep with
    ⟨handler, rest, hHandler, hTodo, _, _, rfl⟩ |
      ⟨handler, e, rest, u, hHandler, hTodo, hPerform, rfl⟩
  · have hAlive :=
      h.alive_of_handler hAccounted hPhased hHandler hTodo
    refine ⟨h.server_unused, h.mutex_unused,
      h.excess_off_server, h.excess_off_mutex, ?_⟩
    intro hDestroyed
    rw [hAlive] at hDestroyed
    cases hDestroyed
  have hAlive :=
    h.alive_of_handler hAccounted hPhased hHandler hTodo
  rcases perform_shared hPerform with
    ⟨hServer, hMutex, _, hExcess⟩
  have hUnused :
      u.connMutex.usedAfterDestroy =
        s.connMutex.usedAfterDestroy := by
    cases e
    all_goals
      simp only [ConnMgr.perform] at hPerform
      grind [ConnMgr.countTermination]
  constructor
  · simp only
    rw [hServer]
    exact h.server_unused
  · simp only
    rw [hUnused]
    exact h.mutex_unused
  · simp only
    rw [hServer, hExcess]
    exact h.excess_off_server
  · simp only
    rw [hMutex, hAlive]
    intro hDestroyed
    cases hDestroyed
  · simp only
    rw [hMutex, hAlive]
    intro hDestroyed
    cases hDestroyed

end ConnMgr.LifetimeSafe

------------------------------------------------------------
-- Runs
------------------------------------------------------------

/- A step within the condition keeps the objects. -/
theorem ConnMgr.LifetimeSafe.of_connStep
    {s t : ConnMgr V TIMEOUT}
    {a : ConnAction}
    {effects : List (ConnEffect V)}
    (h : s.LifetimeSafe)
    (hAccounted : s.Accounted MAX_CONN)
    (hPhased : s.Phased)
    (hWithin : WithinLifetime s a)
    (hStep : connStep MAX_CONN s a = some (t, effects)) :
    t.LifetimeSafe := by
  cases a with
  | listener ok input =>
      exact h.of_listenerStep hPhased hWithin hStep
  | excess ok => exact h.of_excessStep hWithin hStep
  | handler i ok =>
      exact h.of_handlerStep hAccounted hPhased hStep

/-
  In a run whose steps all meet the condition, the server is
  not used after it is freed, and `conn_mutex` is neither
  locked nor unlocked after it is destroyed.
-/
theorem connSystem_lifetime
    (MAX_CONN : Nat)
    (labels : List ConnAction)
    {s : ConnMgr V TIMEOUT}
    (hGuard :
      (connSystem V TIMEOUT MAX_CONN).Guarded WithinLifetime
        labels)
    (hRun :
      (connSystem V TIMEOUT MAX_CONN).run labels =
        some s) :
    s.server.usedAfterFree = false ∧
      s.connMutex.usedAfterDestroy = false := by
  have hSafe : s.LifetimeSafe := by
    refine System.invariant_of_guarded_step _ _ _
      ConnMgr.LifetimeSafe.start ?_ hGuard hRun
    intro before s a t hBefore h hWithin hStep
    rcases connSystem_step.mp hStep with ⟨effects, hStep⟩
    exact h.of_connStep (connSystem_accounted hBefore)
      (connSystem_phased hBefore) hWithin hStep
  exact ⟨hSafe.server_unused, hSafe.mutex_unused⟩

/-
  One client that comes and goes, up to the place where the
  listener is about to close the server.
-/
def oneClient : List ConnAction :=
  List.replicate 16 (.listener true .closed) ++
    List.replicate 6 (.handler 0 true) ++
    List.replicate 4 (.listener true .closed)

/-
  A shutdown within the lifetimes: the listener runs to its
  end of the socket and the mutex and sets the flag while the
  excess handler has not reached its stop check.
-/
theorem lifetime_quiet_shutdown :
    ∃ s : ConnMgr (BitVec 64) 5,
      (connSystem (BitVec 64) 5 1).run
            (oneClient ++
              List.replicate 4 (.listener true .closed)) =
          some s ∧
        s.listener = .setStopAgain ∧
          s.server.usedAfterFree = false ∧
            s.connMutex.usedAfterDestroy = false := by
  refine ⟨_, rfl, rfl, connSystem_lifetime 1
    (oneClient ++ List.replicate 4 (.listener true .closed))
    ?_ rfl⟩
  exact System.guardedFrom_of_checkedRunFrom _ _ rfl

/-
  The excess handler passes its stop check, the listener
  closes the server, and the excess handler uses it.
-/
theorem lifetime_violated :
    ¬ ∀ (MAX_CONN : Nat)
        (labels : List ConnAction)
        (s : ConnMgr (BitVec 64) 5),
          (connSystem (BitVec 64) 5 MAX_CONN).run labels =
              some s →
            s.server.usedAfterFree = false ∧
              s.connMutex.usedAfterDestroy = false := by
  intro hAll
  have hUnused :=
    hAll 1
      (oneClient ++
        [.excess true, .listener true .closed,
          .excess true]) _ rfl
  have hServer := hUnused.1
  revert hServer
  decide

end SensorGateway
