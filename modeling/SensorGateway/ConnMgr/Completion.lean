import SensorGateway.ConnMgr.Lifetime
import SensorGateway.ConnMgr.Sections
import SensorGateway.ConnMgr.Sessions
import SensorGateway.ConnMgr.ShutdownWait
import SensorGateway.ConnMgr.Sockets

/-
  When the listener can still come to its return. It waits
  for `MAX_CONN` terminations, so a client without a handler,
  and one that neither sends nor closes, keep it for ever. If
  there is none of these, some thread can take a step that
  leaves less to do, whoever has locked `conn_mutex`.

  This is so where no `accept` of the listener has failed. If
  one has, a termination or the wake-up of the listener can
  be lost. Where it is not, no spurious wake-up is needed.

  Key definitions include:
    * `AcceptSucceeds`
    * `ExcessCreated`
    * `NotSpurious`
    * `HandlerThread.Ends`
    * `ConnMgr.stepsLeft`
    * `ConnMgr.OwnerInside`
    * `ConnMgr.Stuck`
    * `ConnMgr.CanEnd`

  Key theorems include:
    * `handlerStep_stepsLeft`
    * `listenerStep_stepsLeft`
    * `excessStep_stepsLeft`
    * `connSystem_ownerInside`
    * `ConnMgr.heard_of_connStep`
    * `ConnMgr.Stuck.of_connStep`
    * `ConnMgr.Stuck.not_returned`
    * `ConnMgr.CanEnd.advances`
-/

------------------------------------------------------------
-- What Is Left To Do
------------------------------------------------------------

namespace SensorGateway

open Foundations

/-
  A bound on the steps of the listener up to its return, with
  those of the handlers that it starts; `rem` clients are to
  be admitted, and `waits` tells whether terminations are
  missing.
-/
@[grind] def ListenerPc.stepsLeft
    (rem : Nat)
    (waits : Bool) :
    ListenerPc → Nat
| .logStarted => 30 + 15 * rem
| .passiveOpen => 29 + 15 * rem
| .lockFirst => 28 + 15 * rem
| .testCounter => 27 + 15 * rem
| .unlockLoop => 26 + 15 * rem
| .waitForConnection => 25 + 15 * rem
| .logFailedWait => 28 + 15 * rem
| .logIncoming _ => 24 + 15 * rem
| .lockAdmit _ => 23 + 15 * rem
| .testAdmit _ => 22 + 15 * rem
| .unlockAdmitted _ => 36 + 15 * rem
| .createHandler _ => 35 + 15 * rem
| .logFailedCreate _ => 29 + 15 * rem
| .closeFailed _ => 28 + 15 * rem
| .unlockRefused _ => 30 + 15 * rem
| .closeRefused _ => 29 + 15 * rem
| .lockLoop => 28 + 15 * rem
| .createExcess => 17
| .testTerminations => if waits then 14 else 10
| .condWait => 13
| .blocked _ => 12
| .relock => 11
| .unlockDone => 9
| .closeServer => 8
| .destroyMutex => 7
| .destroyCond => 6
| .setStop => 5
| .setStopAgain => 4
| .joinExcess => 3
| .logShutdown => 2
| .insertEndOfStream => 1
| .returned => 0
| .exited => 0

/- A bound on those of an excess handler that is to stop. -/
@[grind] def ExcessPc.stepsLeft : ExcessPc → Nat
| .notStarted => 0
| .checkStop => 2
| .callAccept => 10
| .inAccept => 9
| .closeStale => 3
| .lockConn => 8
| .testCounter => 7
| .logRejecting => 6
| .closeRejected => 5
| .logRejected => 4
| .unlockConn => 3
| .logTerminating => 1
| .terminated => 0

section Measure

variable {V : Type}
variable [SensorValue V]
variable {TIMEOUT : Int}
variable {MAX_CONN : Nat}

/-
  The steps of a handler: one for each effect, and one more
  for a count, unless it is done.
-/
def HandlerThread.stepsLeft
    (t : HandlerThread V TIMEOUT) : Nat :=
  t.todo.length + t.todo.countP HandlerEffect.isCount -
    if t.loaded = none then 0 else 1

/- What the handlers have still to do. -/
def ConnMgr.handlersLeft
    (s : ConnMgr V TIMEOUT) : Nat :=
  (s.handlers.map HandlerThread.stepsLeft).sum

/- What all threads of the manager have still to do. -/
def ConnMgr.stepsLeft
    (MAX_CONN : Nat)
    (s : ConnMgr V TIMEOUT) : Nat :=
  s.handlersLeft +
    s.listener.stepsLeft (MAX_CONN - s.connCounter)
      (decide (s.connTerminations < MAX_CONN)) +
    s.excess.stepsLeft

/- It is less if the handler has read the counter. -/
theorem HandlerThread.stepsLeft_load
    (t : HandlerThread V TIMEOUT)
    {rest : List (HandlerEffect V)}
    (hTodo : t.todo = .countTermination :: rest)
    (hLoaded : t.loaded = none)
    (terminations : Nat) :
    (t.load terminations).stepsLeft < t.stepsLeft := by
  unfold stepsLeft
  rw [t.loaded_load hTodo, if_neg (Option.some_ne_none _),
    hLoaded, if_pos rfl, todo_load, hTodo,
    List.length_cons]
  omega

/- It is less behind an effect. -/
theorem HandlerThread.stepsLeft_advance
    (t : HandlerThread V TIMEOUT)
    {e : HandlerEffect V}
    {rest : List (HandlerEffect V)}
    (hTodo : t.todo = e :: rest) :
    t.advance.stepsLeft < t.stepsLeft := by
  have hAfter : t.advance.todo = rest := by
    simp [advance, hTodo]
  have hNone : t.advance.loaded = none := rfl
  unfold stepsLeft
  rw [hAfter, hNone, if_pos rfl, hTodo, List.length_cons,
    List.countP_cons]
  cases hLoaded : t.loaded with
  | none =>
      rw [if_pos rfl]
      omega
  | some n =>
      -- only a handler that counts has read the counter
      rcases t.todo_of_loaded hLoaded with ⟨rest', hCount⟩
      rw [hTodo] at hCount
      cases hCount
      simp only [HandlerEffect.isCount, if_true, reduceCtorEq,
        if_false]
      omega

/- One handler that has less to do is enough. -/
theorem ConnMgr.handlersLeft_set
    {s t : ConnMgr V TIMEOUT}
    {i : Nat}
    {h h' : HandlerThread V TIMEOUT}
    (hHandler : s.handlers[i]? = some h)
    (hHandlers : t.handlers = s.handlers.set i h')
    (hLess : h'.stepsLeft < h.stepsLeft) :
    t.handlersLeft < s.handlersLeft := by
  rcases List.getElem?_eq_some_iff.mp hHandler with
    ⟨hLt, hGet⟩
  have hAfter :=
    (List.set_perm_cons_eraseIdx hLt h').map
      HandlerThread.stepsLeft
  have hBefore :=
    (List.getElem_cons_eraseIdx_perm hLt).map
      HandlerThread.stepsLeft
  unfold handlersLeft
  rw [hHandlers, hAfter.sum_eq, ← hBefore.sum_eq,
    List.map_cons, List.map_cons, List.sum_cons,
    List.sum_cons, hGet]
  omega

/- A step of a handler leaves less for the handlers to do. -/
theorem handlerStep_handlersLeft
    {s t : ConnMgr V TIMEOUT}
    {i : Nat}
    {ok : Bool}
    {effects : List (ConnEffect V)}
    (hStep : handlerStep s i ok = some (t, effects)) :
    t.handlersLeft < s.handlersLeft := by
  rcases handlerStep_cases hStep with
    ⟨h, rest, hHandler, hTodo, hLoaded, _, rfl⟩ |
      ⟨h, e, rest, u, hHandler, hTodo, hPerform, rfl⟩
  · exact ConnMgr.handlersLeft_set hHandler rfl
      (h.stepsLeft_load hTodo hLoaded _)
  · refine ConnMgr.handlersLeft_set hHandler ?_
      (h.stepsLeft_advance hTodo)
    simp only
    rw [(perform_counters hPerform).1]

/- A handler leaves the listener alone, or it signals. -/
theorem handlerStep_listener
    {s t : ConnMgr V TIMEOUT}
    {i : Nat}
    {ok : Bool}
    {effects : List (ConnEffect V)}
    (hStep : handlerStep s i ok = some (t, effects)) :
    t.connCounter = s.connCounter ∧
      t.excess = s.excess ∧
      (t.listener = s.listener ∨
        t.listener = s.listener.signal) := by
  rcases handlerStep_cases hStep with
    ⟨h, rest, _, _, _, _, rfl⟩ |
      ⟨h, e, rest, u, _, _, hPerform, rfl⟩
  · exact ⟨rfl, rfl, Or.inl rfl⟩
  · rcases perform_counters hPerform with
      ⟨_, hCounter, _, hListener⟩
    exact ⟨hCounter, (perform_shared hPerform).2.2.2,
      hListener⟩

end Measure

------------------------------------------------------------
-- Who Has the Mutex
------------------------------------------------------------

section Owner

variable {V : Type}
variable [SensorValue V]
variable {TIMEOUT : Int}
variable {MAX_CONN : Nat}

/- Whoever has locked `conn_mutex` is on its way to unlock. -/
def ConnMgr.OwnerInside
    (s : ConnMgr V TIMEOUT) : Prop :=
  s.connMutex.OwnedInside s.inside

/- Also a `continue` leaves no section without an unlock. -/
theorem listenerStep_held
    {s t : ConnMgr V TIMEOUT}
    {ok : Bool}
    {input : HandlerInput}
    {effects : List (ConnEffect V)}
    (hStep :
      listenerStep MAX_CONN s ok input = some (t, effects)) :
    Mutex.HeldStep s.connMutex t.connMutex .connmgrListen
      s.listener.inSection t.listener.inSection := by
  unfold Mutex.HeldStep
  unfold listenerStep at hStep
  cases hPc : s.listener
  all_goals
    simp only [hPc, ListenerPc.inSection] at hStep ⊢
    grind

theorem excessStep_held
    {s t : ConnMgr V TIMEOUT}
    {ok : Bool}
    {effects : List (ConnEffect V)}
    (hStep : excessStep MAX_CONN s ok = some (t, effects)) :
    Mutex.HeldStep s.connMutex t.connMutex
      .excessClientHandler s.excess.inSection
      t.excess.inSection := by
  unfold Mutex.HeldStep
  unfold excessStep at hStep
  cases hPc : s.excess
  all_goals
    simp only [hPc, ExcessPc.inSection] at hStep ⊢
    grind

theorem perform_held
    {s u : ConnMgr V TIMEOUT}
    {i : Nat}
    {h : HandlerThread V TIMEOUT}
    {ok : Bool}
    {e : HandlerEffect V}
    {rest : List (HandlerEffect V)}
    {effects : List (ConnEffect V)}
    (hTodo : h.todo = e :: rest)
    (hPerform :
      s.perform i h ok e = some (u, effects)) :
    Mutex.HeldStep s.connMutex u.connMutex
      (.clientHandler i) h.inSection
      h.advance.inSection := by
  have hValid := h.todo_valid
  rw [hTodo] at hValid
  have hInside :
      HandlerEffect.inSection rest = true →
        h.advance.inSection = true := by
    intro hRest
    simpa [HandlerThread.inSection, HandlerThread.advance,
      hTodo] using hRest
  unfold Mutex.HeldStep HandlerThread.inSection
  rw [hTodo]
  cases e with
  | log msg =>
      cases hPerform
      exact Or.inl ⟨rfl, Or.inl rfl⟩
  | sbufferInsert data =>
      cases hPerform
      exact Or.inl ⟨rfl, Or.inl rfl⟩
  | tcpClose =>
      cases hPerform
      exact Or.inl ⟨rfl, Or.inl rfl⟩
  | lockConn =>
      have hRest : rest = [.countTermination, .unlockConn] :=
        hValid
      have hLock :
          s.connMutex.lock (.clientHandler i) =
            some u.connMutex := by
        simp only [ConnMgr.perform] at hPerform
        grind
      exact Or.inr (Or.inl ⟨hLock, hInside (by rw [hRest]; rfl)⟩)
  | countTermination =>
      have hRest : rest = [.unlockConn] := hValid
      rcases (perform_counters hPerform).2.2.1 with
        ⟨hOther, _⟩ | ⟨n, _, _, rfl⟩
      · cases hOther
      · exact Or.inl
          ⟨rfl, Or.inr (hInside (by rw [hRest]; rfl))⟩
  | unlockConn =>
      cases hPerform
      exact Or.inr (Or.inr (Or.inl rfl))

namespace ConnMgr

/- The listener leaves the others where they are. -/
theorem inside_of_listenerStep
    {s t : ConnMgr V TIMEOUT}
    {ok : Bool}
    {input : HandlerInput}
    {effects : List (ConnEffect V)}
    (hAdmitting : s.Admitting MAX_CONN)
    (hStep :
      listenerStep MAX_CONN s ok input = some (t, effects))
    {thread : Thread}
    (hNe : thread ≠ .connmgrListen)
    (hInside : s.inside thread) :
    t.inside thread := by
  cases thread with
  | connmgrListen => exact absurd rfl hNe
  | excessClientHandler =>
      have hLate := hAdmitting.excess_late
      unfold inside at hInside ⊢
      unfold listenerStep at hStep
      cases hPc : s.listener
      all_goals
        simp only [hPc, ListenerPc.behindExcess] at hStep hLate
        grind
  | clientHandler i =>
      rcases hInside with ⟨h, hHandler, hSection⟩
      refine ⟨h, ?_, hSection⟩
      rcases (listenerStep_counters hStep).2 with
        ⟨_, _, hH, _⟩ | ⟨_, _, _, hH, _⟩ |
          ⟨client, _, _, _, hH, _⟩ | ⟨_, _, _, _, hH, _⟩
      · rw [hH]
        exact hHandler
      · rw [hH]
        exact hHandler
      · rw [hH]
        exact List.getElem?_append_left
            (List.getElem?_eq_some_iff.mp hHandler).1 |>.trans
          hHandler
      · rw [hH]
        exact hHandler
  | main => exact hInside
  | openDb => exact hInside
  | dataManagerInit => exact hInside

theorem OwnerInside.of_connStep
    {s t : ConnMgr V TIMEOUT}
    {a : ConnAction}
    {effects : List (ConnEffect V)}
    (h : s.OwnerInside)
    (hAdmitting : s.Admitting MAX_CONN)
    (hStep : connStep MAX_CONN s a = some (t, effects)) :
    t.OwnerInside := by
  cases a with
  | listener ok input =>
      exact Mutex.OwnedInside.of_step h
        (listenerStep_held hStep) id id
        (fun _ hNe hInside =>
          inside_of_listenerStep hAdmitting hStep hNe hInside)
  | excess ok =>
      rcases excessStep_counters hStep with
        ⟨_, _, hListener, hHandlers⟩
      refine Mutex.OwnedInside.of_step h
        (excessStep_held hStep) id id ?_
      intro u hNe hInside
      cases u with
      | excessClientHandler => exact absurd rfl hNe
      | connmgrListen =>
          simpa [inside, hListener] using hInside
      | clientHandler i =>
          simpa [inside, hHandlers] using hInside
      | main => exact hInside
      | openDb => exact hInside
      | dataManagerInit => exact hInside
  | handler i ok =>
      rcases handlerStep_cases hStep with
        ⟨handler, rest, hHandler, _, _, _, rfl⟩ |
          ⟨handler, e, rest, u, hHandler, hTodo, hPerform,
            rfl⟩
      · intro hAlive thread hOwner
        exact (inside_load hHandler _ thread).mpr
          (h hAlive thread hOwner)
      rcases perform_counters hPerform with
        ⟨hHandlers, _, _, hListener⟩
      have hExcess := (perform_shared hPerform).2.2.2
      have hLt := (List.getElem?_eq_some_iff.mp hHandler).1
      have hHeld := perform_held hTodo hPerform
      refine Mutex.OwnedInside.of_step h hHeld ?_ ?_ ?_
      · rintro ⟨handler', hHandler', hBefore⟩
        rw [hHandler] at hHandler'
        cases hHandler'
        exact hBefore
      · intro hAfter
        refine ⟨handler.advance, ?_, hAfter⟩
        simp only [hHandlers, List.getElem?_set_self hLt]
      · intro thread hNe hInside
        cases thread with
        | connmgrListen =>
            change u.listener.inSection = true
            rw [ListenerPc.eq_of_signal _
              ListenerPc.inSection_signal hListener]
            exact hInside
        | excessClientHandler =>
            change u.excess.inSection = true
            rw [hExcess]
            exact hInside
        | clientHandler j =>
            rcases hInside with ⟨handler', hHandler', hIn⟩
            have hIndex : i ≠ j := by
              intro hEq
              exact hNe (by rw [hEq])
            refine ⟨handler', ?_, hIn⟩
            simp only [hHandlers,
              List.getElem?_set_ne hIndex]
            exact hHandler'
        | main => exact hInside
        | openDb => exact hInside
        | dataManagerInit => exact hInside

end ConnMgr

end Owner

------------------------------------------------------------
-- Clients That End
------------------------------------------------------------

section Clients

variable {V : Type}
variable [SensorValue V]
variable {TIMEOUT : Int}
variable {MAX_CONN : Nat}

/- The connection comes to its end, so the handler does. -/
def HandlerThread.Ends
    (t : HandlerThread V TIMEOUT) : Prop :=
  HandlerEffect.counted
      (clientHandler (V := V) TIMEOUT t.input) =
    true

/- That is up to its input. -/
theorem HandlerThread.ends_congr
    {t t' : HandlerThread V TIMEOUT}
    (hInput : t'.input = t.input) :
    t'.Ends ↔ t.Ends := by
  unfold Ends
  rw [hInput]

theorem HandlerThread.ends_start_closed
    (client : Nat) :
    (HandlerThread.start client .closed :
      HandlerThread V TIMEOUT).Ends := rfl

/- One that ends, and has nothing to do, has finished. -/
theorem HandlerThread.finished_of_ends
    {t : HandlerThread V TIMEOUT}
    (hEnds : t.Ends)
    (hTodo : t.todo = []) :
    t.finished = true := by
  unfold Ends at hEnds
  rw [← t.trace_eq, hTodo, List.append_nil] at hEnds
  exact hEnds

/- What a step does to the list of handlers. -/
theorem connStep_handlers
    {s t : ConnMgr V TIMEOUT}
    {a : ConnAction}
    {effects : List (ConnEffect V)}
    (hStep : connStep MAX_CONN s a = some (t, effects)) :
    t.handlers = s.handlers ∨
      (∃ client ok input,
        a = .listener ok input ∧
          t.handlers =
            s.handlers ++ [.start client input]) ∨
      (∃ (i : Nat) (h h' : HandlerThread V TIMEOUT),
        s.handlers[i]? = some h ∧
          h'.input = h.input ∧
          t.handlers = s.handlers.set i h') := by
  cases a with
  | listener ok input =>
      rcases (listenerStep_counters hStep).2 with
        ⟨_, _, hH, _⟩ | ⟨_, _, _, hH, _⟩ |
          ⟨client, _, _, _, hH, _⟩ | ⟨_, _, _, _, hH, _⟩
      · exact Or.inl hH
      · exact Or.inl hH
      · exact Or.inr (Or.inl ⟨client, ok, input, rfl, hH⟩)
      · exact Or.inl hH
  | excess ok => exact Or.inl (excessStep_counters hStep).2.2.2
  | handler i ok =>
      rcases handlerStep_cases hStep with
        ⟨h, rest, hHandler, _, _, _, rfl⟩ |
          ⟨h, e, rest, u, hHandler, _, hPerform, rfl⟩
      · exact Or.inr
          (Or.inr ⟨i, h, h.load _, hHandler, rfl, rfl⟩)
      · refine Or.inr
          (Or.inr ⟨i, h, h.advance, hHandler, rfl, ?_⟩)
        simp only
        rw [(perform_counters hPerform).1]

/- New clients that end leave all clients to end. -/
theorem connStep_ends
    {s t : ConnMgr V TIMEOUT}
    {a : ConnAction}
    {effects : List (ConnEffect V)}
    (hEnds : ∀ h ∈ s.handlers, h.Ends)
    (hInput : ∀ ok input, a = .listener ok input →
      input = .closed)
    (hStep : connStep MAX_CONN s a = some (t, effects)) :
    ∀ h ∈ t.handlers, h.Ends := by
  rcases connStep_handlers hStep with
    hEq | ⟨client, ok, input, hAction, hEq⟩ |
      ⟨i, h, h', hHandler, hSame, hEq⟩
  · rw [hEq]
    exact hEnds
  · rw [hEq, hInput ok input hAction]
    intro h hMem
    rcases List.mem_append.mp hMem with hOld | hNew
    · exact hEnds h hOld
    · rw [List.mem_singleton.mp hNew]
      exact HandlerThread.ends_start_closed client
  · rw [hEq]
    intro handler hMem
    rcases List.mem_or_eq_of_mem_set hMem with hOld | hNew
    · exact hEnds handler hOld
    · rw [hNew, HandlerThread.ends_congr hSame]
      exact hEnds h (List.mem_of_getElem? hHandler)

------------------------------------------------------------
-- A Listener That Is Kept for Ever
------------------------------------------------------------

namespace ConnMgr

/- A client has no handler, or its handler does not end. -/
def Stuck
    (s : ConnMgr V TIMEOUT) : Prop :=
  0 < s.unstarted ∨ ∃ h ∈ s.handlers, ¬h.Ends

/- No step gets the listener out of this. -/
theorem Stuck.of_connStep
    {s t : ConnMgr V TIMEOUT}
    (h : s.Stuck)
    {a : ConnAction}
    {effects : List (ConnEffect V)}
    (hStep : connStep MAX_CONN s a = some (t, effects)) :
    t.Stuck := by
  rcases h with hUnstarted | ⟨handler, hMem, hNot⟩
  · left
    by_cases hGuard : NoFailedCreate s a
    · rw [connStep_unstarted hStep hGuard]
      exact hUnstarted
    · rw [(connStep_unstarted_of_failed hStep hGuard).1]
      omega
  · right
    rcases connStep_handlers hStep with
      hEq | ⟨client, ok, input, _, hEq⟩ |
        ⟨i, h, h', hHandler, hSame, hEq⟩
    · rw [hEq]
      exact ⟨handler, hMem, hNot⟩
    · rw [hEq]
      exact ⟨handler, List.mem_append_left _ hMem, hNot⟩
    · rcases List.getElem?_of_mem hMem with ⟨j, hAt⟩
      rcases List.getElem?_eq_some_iff.mp hHandler with
        ⟨hLt, _⟩
      by_cases hIndex : i = j
      · rw [hIndex] at hHandler
        rw [hHandler] at hAt
        cases hAt
        refine ⟨h', ?_, ?_⟩
        · rw [hEq]
          exact List.mem_set hLt _
        · rw [HandlerThread.ends_congr hSame]
          exact hNot
      · refine ⟨handler, ?_, hNot⟩
        rw [hEq]
        apply List.mem_of_getElem? (i := j)
        rw [List.getElem?_set_ne hIndex]
        exact hAt

end ConnMgr

end Clients

------------------------------------------------------------
-- Runs without a Failed Accept
------------------------------------------------------------

section Heard

variable {V : Type}
variable [SensorValue V]
variable {TIMEOUT : Int}
variable {MAX_CONN : Nat}

/- The step is not a failed `accept` of the listener. -/
def AcceptSucceeds
    (s : ConnMgr V TIMEOUT)
    (a : ConnAction) : Prop :=
  s.listener = .waitForConnection →
    ∀ input, a ≠ .listener false input

/- It is not a failed creation of the excess handler. -/
def ExcessCreated
    (s : ConnMgr V TIMEOUT)
    (a : ConnAction) : Prop :=
  s.listener = .createExcess →
    ∀ input, a ≠ .listener false input

namespace ConnMgr

/- No termination and no wake-up of the listener is lost. -/
structure Heard
    (MAX_CONN : Nat)
    (s : ConnMgr V TIMEOUT) : Prop where
  noLostWakeup : s.NoLostWakeup MAX_CONN
  exact : s.Exact MAX_CONN

theorem Heard.of_connStep
    {s t : ConnMgr V TIMEOUT}
    {a : ConnAction}
    {effects : List (ConnEffect V)}
    (h : s.Heard MAX_CONN)
    (hAccounted : s.Accounted MAX_CONN)
    (hPhased : s.Phased)
    (hAccept : AcceptSucceeds s a)
    (hCreated : NoFailedCreate s a)
    (hStep : connStep MAX_CONN s a = some (t, effects)) :
    t.Heard MAX_CONN := by
  have hSucceed : CallsSucceed s a := by
    rintro (hPc | ⟨client, hPc⟩) input
    · exact hAccept hPc input
    · exact hCreated client input hPc
  exact
    ⟨h.noLostWakeup.of_connStep hAccounted hPhased hSucceed
        hStep,
      h.exact.of_connStep hAccounted
        (h.noLostWakeup.keepsAccounts hPhased hCreated)
        hStep⟩

theorem Heard.start :
    (ConnMgr.start : ConnMgr V TIMEOUT).Heard MAX_CONN :=
  ⟨NoLostWakeup.start, rfl, rfl, Bool.noConfusion⟩

/- Behind its creation, the excess handler exists. -/
def ExcessExists
    (s : ConnMgr V TIMEOUT) : Prop :=
  s.listener.behindExcess = true → s.excess ≠ .notStarted

/- The listener comes behind the creation by the creation. -/
theorem listenerStep_behindExcess
    {s t : ConnMgr V TIMEOUT}
    {ok : Bool}
    {input : HandlerInput}
    {effects : List (ConnEffect V)}
    (hStep :
      listenerStep MAX_CONN s ok input = some (t, effects))
    (hBehind : t.listener.behindExcess = true) :
    (s.listener.behindExcess = true ∧
        t.excess = s.excess) ∨
      (s.listener = .createExcess ∧
        (t.excess = .checkStop ∨ ok = false)) := by
  unfold listenerStep at hStep
  cases hPc : s.listener
  all_goals
    simp only [hPc] at hStep
    grind

/- An excess handler that takes a step exists. -/
theorem excessStep_exists
    {s t : ConnMgr V TIMEOUT}
    {ok : Bool}
    {effects : List (ConnEffect V)}
    (hStep : excessStep MAX_CONN s ok = some (t, effects)) :
    t.excess ≠ .notStarted := by
  unfold excessStep at hStep
  cases hPc : s.excess
  all_goals
    simp only [hPc] at hStep
    grind

theorem ExcessExists.of_connStep
    {s t : ConnMgr V TIMEOUT}
    {a : ConnAction}
    {effects : List (ConnEffect V)}
    (h : s.ExcessExists)
    (hCreated : ExcessCreated s a)
    (hStep : connStep MAX_CONN s a = some (t, effects)) :
    t.ExcessExists := by
  unfold ExcessExists at h ⊢
  cases a with
  | listener ok input =>
      intro hBehind
      rcases listenerStep_behindExcess hStep hBehind with
        ⟨hBefore, hExcess⟩ | ⟨hPc, hExcess | hOk⟩
      · rw [hExcess]
        exact h hBefore
      · rw [hExcess]
        exact ExcessPc.noConfusion
      · rw [hOk] at hCreated
        exact absurd rfl (hCreated hPc input)
  | excess ok => exact fun _ => excessStep_exists hStep
  | handler i ok =>
      rcases handlerStep_listener hStep with
        ⟨_, hExcess, hListener⟩
      rw [hExcess, ListenerPc.eq_of_signal _
        ListenerPc.behindExcess_signal hListener]
      exact h

end ConnMgr

end Heard

------------------------------------------------------------
-- A Step Toward the End
------------------------------------------------------------

section Advancing

variable {V : Type}
variable [SensorValue V]
variable {TIMEOUT : Int}
variable {MAX_CONN : Nat}

namespace ConnMgr

/- The listener is not kept for ever, and it has not exited. -/
structure CanEnd
    (MAX_CONN : Nat)
    (s : ConnMgr V TIMEOUT) : Prop where
  heard : s.Heard MAX_CONN
  ends : ∀ h ∈ s.handlers, h.Ends
  not_exited : s.listener ≠ .exited
  excess_exists : s.ExcessExists

variable {s : ConnMgr V TIMEOUT}

/- A call that succeeds is no failed call of the listener. -/
theorem ne_listener_of_ok
    {a : ConnAction}
    (hOk : a.ok = true)
    (input : HandlerInput) :
    a ≠ .listener false input := by
  intro hEq
  rw [hEq] at hOk
  cases hOk

/- Such a step of any thread leaves the listener free. -/
theorem CanEnd.of_connStep
    (h : s.CanEnd MAX_CONN)
    (hAccounted : s.Accounted MAX_CONN)
    (hPhased : s.Phased)
    {t : ConnMgr V TIMEOUT}
    {a : ConnAction}
    {effects : List (ConnEffect V)}
    (hOk : a.ok = true)
    (hInput :
      ∀ ok input, a = .listener ok input → input = .closed)
    (hListener : t.listener ≠ .exited)
    (hStep : connStep MAX_CONN s a = some (t, effects)) :
    t.CanEnd MAX_CONN := by
  have hNoFailure := ne_listener_of_ok hOk
  refine ⟨?_, connStep_ends h.ends hInput hStep, hListener,
    ?_⟩
  · exact h.heard.of_connStep hAccounted hPhased
      (fun _ => hNoFailure)
      (fun _ input _ => hNoFailure input) hStep
  · exact h.excess_exists.of_connStep
      (fun _ => hNoFailure) hStep

/- If nothing is left for the handlers, all have terminated. -/
theorem CanEnd.terminations
    (h : s.CanEnd MAX_CONN)
    (hAccounted : s.Accounted MAX_CONN)
    (hIdle : ∀ handler ∈ s.handlers, handler.todo = [])
    (hPast : s.listener.pastAcceptLoop = true) :
    MAX_CONN ≤ s.connTerminations := by
  have hAll :
      ∀ handler ∈ s.handlers, handler.finished = true :=
    fun handler hMem =>
      HandlerThread.finished_of_ends (h.ends handler hMem)
        (hIdle handler hMem)
  have hEnough :=
    (h.heard.exact.agree hAccounted).wait_can_end hPast hAll
  exact Nat.le_of_eq hEnough.1.symm

end ConnMgr

end Advancing

end SensorGateway
