import SensorGateway.ConnMgr.Phases

/-
  The sections of the connection manager's threads: the
  places between a lock and an unlock of `conn_mutex`.

  The handlers and the excess handler are alone in their
  sections. So is the listener, as long as it does not take
  one of the `continue`s of its accept loop, which leads back
  into a section without a lock.

  Key definitions include:
    * `ListenerPc.inSection`
    * `ListenerPc.continues`
    * `ConnMgr.inside`

  Key theorems include:
    * `listenerStep_mutex`
    * `excessStep_mutex`
    * `perform_mutex`
    * `ConnMgr.excludes_of_listenerStep`
    * `ConnMgr.excludes_of_excessStep`
    * `ConnMgr.excludes_of_handlerStep`
-/

------------------------------------------------------------
-- Places in the Sections
------------------------------------------------------------

namespace SensorGateway

open Foundations

namespace ListenerPc

/- The listener is between a lock and an unlock. -/
@[grind] def inSection : ListenerPc → Bool
| .testCounter => true
| .unlockLoop => true
| .testAdmit _ => true
| .unlockAdmitted _ => true
| .unlockRefused _ => true
| .createExcess => true
| .testTerminations => true
| .condWait => true
| .unlockDone => true
| _ => false

/- The next statement ends in a `continue`. -/
@[grind] def continues : ListenerPc → Bool
| .logFailedWait => true
| .closeFailed _ => true
| _ => false

@[simp] theorem inSection_signal
    (pc : ListenerPc) :
    pc.signal.inSection = pc.inSection := by
  cases pc with
  | blocked woken => rfl
  | _ => rfl

end ListenerPc

/- The excess handler is between its lock and its unlock. -/
@[grind] def ExcessPc.inSection : ExcessPc → Bool
| .testCounter => true
| .logRejecting => true
| .closeRejected => true
| .logRejected => true
| .unlockConn => true
| _ => false

variable {V : Type}
variable [SensorValue V]
variable {TIMEOUT : Int}
variable {MAX_CONN : Nat}

/- The threads that are between a lock and an unlock. -/
def ConnMgr.inside
    (s : ConnMgr V TIMEOUT) :
    Thread → Prop
| .connmgrListen => s.listener.inSection = true
| .excessClientHandler => s.excess.inSection = true
| .clientHandler i =>
    ∃ h, s.handlers[i]? = some h ∧ h.inSection = true
| _ => False

/- When the listener is started, nobody is inside. -/
theorem ConnMgr.excludes_start :
    (ConnMgr.start : ConnMgr V TIMEOUT).connMutex.Excludes
      (ConnMgr.start : ConnMgr V TIMEOUT).inside := by
  intro _ thread hInside
  cases thread with
  | clientHandler i =>
      rcases hInside with ⟨handler, hHandler, _⟩
      cases hHandler
  | _ => cases hInside

/- A handler that reads the counter stays where it is. -/
theorem ConnMgr.inside_load
    {s : ConnMgr V TIMEOUT}
    {i : Nat}
    {h : HandlerThread V TIMEOUT}
    (hHandler : s.handlers[i]? = some h)
    (terminations : Nat)
    (thread : Thread) :
    ConnMgr.inside
        { s with
            handlers :=
              s.handlers.set i (h.load terminations) }
        thread ↔
      s.inside thread := by
  cases thread with
  | clientHandler j =>
      have hLt := (List.getElem?_eq_some_iff.mp hHandler).1
      simp only [ConnMgr.inside]
      by_cases hIndex : i = j
      · rw [← hIndex, List.getElem?_set_self hLt, hHandler]
        simp
      · rw [List.getElem?_set_ne hIndex]
  | _ => exact Iff.rfl

------------------------------------------------------------
-- Locks and Unlocks
------------------------------------------------------------

/-
  How the listener uses the mutex, unless it takes a
  `continue`: it enters its sections by a lock and leaves
  them by an unlock, until it destroys the mutex.
-/
theorem listenerStep_mutex
    {s t : ConnMgr V TIMEOUT}
    {ok : Bool}
    {input : HandlerInput}
    {effects : List (ConnEffect V)}
    (hLoop : s.listener.continues = false)
    (hStep :
      listenerStep MAX_CONN s ok input =
        some (t, effects)) :
    Mutex.SectionStep s.connMutex t.connMutex .connmgrListen
        s.listener.inSection t.listener.inSection ∨
      t.connMutex = s.connMutex.destroy := by
  unfold Mutex.SectionStep
  unfold listenerStep at hStep
  cases hPc : s.listener
  all_goals
    simp only [hPc] at hStep hLoop
    grind

/- The listener lets no other thread into a section. -/
theorem listenerStep_inside
    {s t : ConnMgr V TIMEOUT}
    {ok : Bool}
    {input : HandlerInput}
    {effects : List (ConnEffect V)}
    (hStep :
      listenerStep MAX_CONN s ok input =
        some (t, effects))
    {thread : Thread}
    (hNe : thread ≠ .connmgrListen)
    (hInside : t.inside thread) :
    s.inside thread := by
  have hExcess :
      t.excess = s.excess ∨ t.excess = .checkStop := by
    unfold listenerStep at hStep
    cases hPc : s.listener
    all_goals
      simp only [hPc] at hStep
      grind
  have hHandlers := listenerStep_handlers hStep
  cases thread with
  | connmgrListen => exact absurd rfl hNe
  | excessClientHandler =>
      rcases hExcess with hEq | hEq
      · simpa [ConnMgr.inside, hEq] using hInside
      · simp [ConnMgr.inside, hEq, ExcessPc.inSection]
          at hInside
  | clientHandler i =>
      rcases hHandlers with hEq | ⟨client, hEq⟩
      · simpa [ConnMgr.inside, hEq] using hInside
      · rcases hInside with ⟨h, hHandler, hSection⟩
        rw [hEq, List.getElem?_append] at hHandler
        split at hHandler
        · exact ⟨h, hHandler, hSection⟩
        · have hStart : HandlerThread.start client input = h := by
            exact List.mem_singleton.mp
              (List.mem_of_getElem? hHandler) |>.symm
          rw [← hStart, HandlerThread.inSection_start]
            at hSection
          cases hSection
  | main => exact hInside
  | openDb => exact hInside
  | dataManagerInit => exact hInside

/- The excess handler keeps to the mutex in the same way. -/
theorem excessStep_mutex
    {s t : ConnMgr V TIMEOUT}
    {ok : Bool}
    {effects : List (ConnEffect V)}
    (hStep :
      excessStep MAX_CONN s ok = some (t, effects)) :
    Mutex.SectionStep s.connMutex t.connMutex
      .excessClientHandler s.excess.inSection
      t.excess.inSection := by
  unfold Mutex.SectionStep
  unfold excessStep at hStep
  cases hPc : s.excess
  all_goals
    simp only [hPc] at hStep
    grind

/- So do the handlers. -/
theorem perform_mutex
    {s u : ConnMgr V TIMEOUT}
    {i : Nat}
    {h : HandlerThread V TIMEOUT}
    {ok : Bool}
    {e : HandlerEffect V}
    {rest : List (HandlerEffect V)}
    {effects : List (ConnEffect V)}
    (hTodo : h.todo = e :: rest)
    (hPerform :
      s.perform i h ok e = some (u, effects)) :
    Mutex.SectionStep s.connMutex u.connMutex
      (.clientHandler i) h.inSection
      h.advance.inSection := by
  have hBefore :
      h.inSection = HandlerEffect.inSection (e :: rest) := by
    rw [HandlerThread.inSection, hTodo]
  have hOutside :
      e ≠ .lockConn → e ≠ .countTermination →
        h.advance.inSection = false := by
    intro hLock hCount
    by_contra hNot
    have hInside : h.advance.inSection = true := by
      simpa using hNot
    rcases h.inSection_of_advance hTodo hInside with
      hEq | hEq
    · exact hLock hEq
    · exact hCount hEq
  rw [hBefore]
  cases e with
  | log msg =>
      rw [hOutside (by simp) (by simp)]
      cases hPerform
      exact Or.inl ⟨rfl, rfl⟩
  | sbufferInsert data =>
      rw [hOutside (by simp) (by simp)]
      cases hPerform
      exact Or.inl ⟨rfl, rfl⟩
  | tcpClose =>
      rw [hOutside (by simp) (by simp)]
      cases hPerform
      exact Or.inl ⟨rfl, rfl⟩
  | lockConn =>
      simp only [ConnMgr.perform] at hPerform
      refine Or.inr (Or.inl ?_)
      grind
  | countTermination =>
      have hValid := h.todo_valid
      rw [hTodo] at hValid
      have hRest : rest = [.unlockConn] := hValid
      simp only [ConnMgr.perform] at hPerform
      rw [Option.map_eq_some_iff] at hPerform
      rcases hPerform with ⟨n, _, hEq⟩
      cases hEq
      refine Or.inl ⟨rfl, ?_⟩
      simp [HandlerThread.inSection, HandlerThread.advance,
        hTodo, hRest, HandlerEffect.inSection]
  | unlockConn =>
      rw [hOutside (by simp) (by simp)]
      cases hPerform
      exact Or.inr (Or.inr ⟨rfl, rfl, rfl⟩)

------------------------------------------------------------
-- Mutual Exclusion
------------------------------------------------------------

namespace ConnMgr

theorem excludes_of_listenerStep
    {s t : ConnMgr V TIMEOUT}
    {ok : Bool}
    {input : HandlerInput}
    {effects : List (ConnEffect V)}
    (h : s.connMutex.Excludes s.inside)
    (hLoop : s.listener.continues = false)
    (hStep :
      listenerStep MAX_CONN s ok input =
        some (t, effects)) :
    t.connMutex.Excludes t.inside := by
  rcases listenerStep_mutex hLoop hStep with
    hSection | hDestroy
  · exact h.of_step hSection id id
      (fun _ hNe hInside =>
        listenerStep_inside hStep hNe hInside)
  · rw [hDestroy]
    exact Mutex.Excludes.of_destroy

theorem excludes_of_excessStep
    {s t : ConnMgr V TIMEOUT}
    {ok : Bool}
    {effects : List (ConnEffect V)}
    (h : s.connMutex.Excludes s.inside)
    (hStep :
      excessStep MAX_CONN s ok = some (t, effects)) :
    t.connMutex.Excludes t.inside := by
  rcases excessStep_counters hStep with
    ⟨_, _, hListener, hHandlers⟩
  refine h.of_step (excessStep_mutex hStep) id id ?_
  intro u hNe hInside
  cases u with
  | excessClientHandler => exact absurd rfl hNe
  | connmgrListen =>
      simpa [inside, hListener] using hInside
  | clientHandler i =>
      simpa [inside, hHandlers] using hInside
  | main => exact hInside
  | openDb => exact hInside
  | dataManagerInit => exact hInside

theorem excludes_of_handlerStep
    {s t : ConnMgr V TIMEOUT}
    {i : Nat}
    {ok : Bool}
    {effects : List (ConnEffect V)}
    (h : s.connMutex.Excludes s.inside)
    (hStep : handlerStep s i ok = some (t, effects)) :
    t.connMutex.Excludes t.inside := by
  rcases handlerStep_cases hStep with
    ⟨handler, rest, hHandler, _, _, _, rfl⟩ |
      ⟨handler, e, rest, u, hHandler, hTodo, hPerform, rfl⟩
  · exact h.of_stay
      (fun thread => (inside_load hHandler _ thread).mp)
  rcases perform_counters hPerform with
    ⟨hHandlers, _, _, hListener⟩
  have hExcess := (perform_shared hPerform).2.2.2
  rcases List.getElem?_eq_some_iff.mp hHandler with
    ⟨hLt, _⟩
  have hSection := perform_mutex hTodo hPerform
  refine h.of_step hSection ?_ ?_ ?_
  · intro hBefore
    exact ⟨handler, hHandler, hBefore⟩
  · rintro ⟨handler', hHandler', hAfter⟩
    simp only [hHandlers, List.getElem?_set_self hLt]
      at hHandler'
    cases hHandler'
    exact hAfter
  · intro thread hNe hInside
    cases thread with
    | connmgrListen =>
        change u.listener.inSection = true at hInside
        rw [ListenerPc.eq_of_signal _
          ListenerPc.inSection_signal hListener] at hInside
        exact hInside
    | excessClientHandler =>
        change u.excess.inSection = true at hInside
        rw [hExcess] at hInside
        exact hInside
    | clientHandler j =>
        rcases hInside with ⟨handler', hHandler', hIn⟩
        have hIndex : i ≠ j := by
          intro hEq
          exact hNe (by rw [hEq])
        simp only [hHandlers, List.getElem?_set_ne hIndex]
          at hHandler'
        exact ⟨handler', hHandler', hIn⟩
    | main => exact hInside
    | openDb => exact hInside
    | dataManagerInit => exact hInside

end ConnMgr

end SensorGateway
