import SensorGateway.ConnMgr.Accounting
import SensorGateway.Foundations.Population

/-
  The accepted sockets and the threads that own them.

  A socket that `tcp_wait_for_connection` delivers is at any
  time in the variable of the thread that accepted it, or in
  the hands of the one handler that it was given to, or it is
  closed. So none is lost, and none is closed twice.

  Key definitions include:
    * `ClosesOnce`
    * `ConnMgr.Admitting`
    * `ConnMgr.managerHolds`
    * `ConnMgr.SocketsOwned`
    * `ConnMgr.SocketsSafe`

  Key theorems include:
    * `clientHandler_closesOnce`
    * `connSystem_admitting`
    * `listenerStep_sockets`
    * `excessStep_sockets`
    * `connSystem_socketsOwned`
    * `ConnMgr.SocketsOwned.safe`
-/

------------------------------------------------------------
-- The Socket of a Handler
------------------------------------------------------------

namespace SensorGateway

open Foundations

section HandlerSocket

variable {V : Type}

/- The effect closes the socket. -/
def HandlerEffect.isClose :
    HandlerEffect V → Bool
| .tcpClose => true
| _ => false

/-
  The socket is closed once, behind all insertions, and the
  termination is counted after that; `closed` tells whether
  it is closed already.
-/
def ClosesOnce :
    Bool → List (HandlerEffect V) → Prop
| _, [] => True
| closed, .log _ :: rest => ClosesOnce closed rest
| closed, .sbufferInsert _ :: rest =>
    closed = false ∧ ClosesOnce closed rest
| closed, .tcpClose :: rest =>
    closed = false ∧ ClosesOnce true rest
| closed, .lockConn :: rest => ClosesOnce closed rest
| closed, .countTermination :: rest =>
    closed = true ∧ ClosesOnce closed rest
| closed, .unlockConn :: rest => ClosesOnce closed rest

/- What is done tells whether the socket is closed. -/
theorem ClosesOnce.of_append
    {closed : Bool}
    {done todo : List (HandlerEffect V)}
    (hOnce : ClosesOnce closed (done ++ todo)) :
    let now := closed || done.any HandlerEffect.isClose
    ClosesOnce now todo ∧
      (HandlerEffect.counted done = true → now = true) := by
  induction done generalizing closed with
  | nil => exact ⟨by simpa using hOnce, fun h => nomatch h⟩
  | cons e done ih =>
      cases e with
      | log msg => exact ih hOnce
      | sbufferInsert data => exact ih hOnce.2
      | lockConn => exact ih hOnce
      | unlockConn => exact ih hOnce
      | tcpClose =>
          simpa [HandlerEffect.isClose,
            HandlerEffect.counted, HandlerEffect.isCount]
            using ih hOnce.2
      | countTermination =>
          rcases hOnce with ⟨hClosed, hOnce⟩
          subst hClosed
          simpa using (ih hOnce).1

variable [SensorValue V]

/- A handler closes its socket at most once. -/
theorem clientHandler_closesOnce
    (TIMEOUT : Int)
    (input : HandlerInput) :
    ClosesOnce false
      (clientHandler (V := V) TIMEOUT input) := by
  apply clientHandler_induction
    (P := fun _ effects => ClosesOnce false effects)
  · exact fun _ => trivial
  · exact fun _ exit => ⟨rfl, rfl, trivial⟩
  · exact fun _ _ hRest => hRest
  · exact fun _ _ _ hRest => ⟨rfl, hRest⟩

namespace HandlerThread

variable {TIMEOUT : Int}

/- The handler has closed its socket. -/
def closed
    (t : HandlerThread V TIMEOUT) : Bool :=
  t.done.any HandlerEffect.isClose

theorem closesOnce
    (t : HandlerThread V TIMEOUT) :
    ClosesOnce t.closed t.todo ∧
      (t.finished = true → t.closed = true) := by
  have hOnce := clientHandler_closesOnce (V := V) TIMEOUT
    t.input
  rw [← t.trace_eq] at hOnce
  exact hOnce.of_append

/- A handler that has the close to do has not closed. -/
theorem not_closed_of_todo
    (t : HandlerThread V TIMEOUT)
    {rest : List (HandlerEffect V)}
    (hTodo : t.todo = .tcpClose :: rest) :
    t.closed = false := by
  have hOnce := t.closesOnce.1
  rw [hTodo] at hOnce
  exact hOnce.1

/- A handler that has finished has closed its socket. -/
theorem closed_of_finished
    (t : HandlerThread V TIMEOUT)
    (hFinished : t.finished = true) :
    t.closed = true :=
  t.closesOnce.2 hFinished

theorem closed_advance
    (t : HandlerThread V TIMEOUT)
    {e : HandlerEffect V}
    {rest : List (HandlerEffect V)}
    (hTodo : t.todo = e :: rest) :
    t.advance.closed = (t.closed || e.isClose) := by
  simp [closed, advance, hTodo]

end HandlerThread

end HandlerSocket

------------------------------------------------------------
-- Admission
------------------------------------------------------------

namespace ListenerPc

/- The accepted socket that the listener still has to use. -/
@[grind] def client : ListenerPc → Option Nat
| .logIncoming client => some client
| .lockAdmit client => some client
| .testAdmit client => some client
| .unlockAdmitted client => some client
| .createHandler client => some client
| .logFailedCreate client => some client
| .closeFailed client => some client
| .unlockRefused client => some client
| .closeRefused client => some client
| _ => none

/- The listener is in an iteration that may admit a client. -/
@[grind] def admits : ListenerPc → Bool
| .unlockLoop => true
| .waitForConnection => true
| .logIncoming _ => true
| .lockAdmit _ => true
| .testAdmit _ => true
| _ => false

/- The listener is in the `else` branch of its loop. -/
@[grind] def refuses : ListenerPc → Bool
| .unlockRefused _ => true
| .closeRefused _ => true
| _ => false

/- The call that creates the excess handler is done. -/
@[grind] def behindExcess : ListenerPc → Bool
| .createExcess => false
| pc => pc.pastAcceptLoop

theorem pastAcceptLoop_of_behindExcess
    {pc : ListenerPc}
    (hBehind : pc.behindExcess = true) :
    pc.pastAcceptLoop = true := by
  cases pc
  all_goals
    first
    | rfl
    | cases hBehind

@[simp] theorem client_signal
    (pc : ListenerPc) :
    pc.signal.client = pc.client := by
  cases pc with
  | blocked woken => rfl
  | _ => rfl

@[simp] theorem admits_signal
    (pc : ListenerPc) :
    pc.signal.admits = pc.admits := by
  cases pc with
  | blocked woken => rfl
  | _ => rfl

@[simp] theorem behindExcess_signal
    (pc : ListenerPc) :
    pc.signal.behindExcess = pc.behindExcess := by
  cases pc with
  | blocked woken => rfl
  | _ => rfl

@[simp] theorem refuses_signal
    (pc : ListenerPc) :
    pc.signal.refuses = pc.refuses := by
  cases pc with
  | blocked woken => rfl
  | _ => rfl

end ListenerPc

/- The excess handler has a client in its variable. -/
@[grind] def ExcessPc.holdsClient : ExcessPc → Bool
| .lockConn => true
| .testCounter => true
| .logRejecting => true
| .closeRejected => true
| _ => false

section Admission

variable {V : Type}
variable [SensorValue V]
variable {TIMEOUT : Int}
variable {MAX_CONN : Nat}

/-
  Who accepts a connection, and when. While the listener may
  admit a client, there is room for it; so it never refuses
  one. The excess handler runs when the accept loop is over,
  and holds a client from an accept to its rejection.
-/
structure ConnMgr.Admitting
    (MAX_CONN : Nat)
    (s : ConnMgr V TIMEOUT) : Prop where
  room :
    s.listener.admits = true → s.connCounter < MAX_CONN
  not_refusing : s.listener.refuses = false
  excess_late :
    s.excess ≠ .notStarted →
      s.listener.behindExcess = true
  excess_client :
    s.excessClient.isSome = s.excess.holdsClient

/- A handler touches no socket but its own. -/
theorem perform_sockets
    {s u : ConnMgr V TIMEOUT}
    {i : Nat}
    {h : HandlerThread V TIMEOUT}
    {ok : Bool}
    {e : HandlerEffect V}
    {effects : List (ConnEffect V)}
    (hPerform : s.perform i h ok e = some (u, effects)) :
    u.accepted = s.accepted ∧
      u.excess = s.excess ∧
      u.excessClient = s.excessClient ∧
      u.closed =
        if e.isClose then s.closed ++ [h.client]
        else s.closed := by
  cases e
  all_goals
    simp only [ConnMgr.perform] at hPerform
    grind [ConnMgr.countTermination, HandlerEffect.isClose]

namespace ConnMgr.Admitting

theorem of_listenerStep
    {s t : ConnMgr V TIMEOUT}
    {ok : Bool}
    {input : HandlerInput}
    {effects : List (ConnEffect V)}
    (h : s.Admitting MAX_CONN)
    (hStep :
      listenerStep MAX_CONN s ok input =
        some (t, effects)) :
    t.Admitting MAX_CONN := by
  rcases h with ⟨hRoom, hRefuses, hLate, hClient⟩
  unfold listenerStep at hStep
  cases hPc : s.listener
  all_goals
    simp only [hPc, ListenerPc.admits, ListenerPc.refuses,
      ListenerPc.behindExcess, ListenerPc.pastAcceptLoop]
      at hStep hRoom hRefuses hLate
    constructor
    all_goals grind

theorem of_excessStep
    {s t : ConnMgr V TIMEOUT}
    {ok : Bool}
    {effects : List (ConnEffect V)}
    (h : s.Admitting MAX_CONN)
    (hAccounted : s.Accounted MAX_CONN)
    (hStep :
      excessStep MAX_CONN s ok = some (t, effects)) :
    t.Admitting MAX_CONN := by
  rcases excessStep_counters hStep with
    ⟨hCounter, _, hListener, _⟩
  have hFull :
      s.excess ≠ .notStarted → MAX_CONN ≤ s.connCounter :=
    fun hStarted =>
      hAccounted.counter_full
        (ListenerPc.pastAcceptLoop_of_behindExcess
          (h.excess_late hStarted))
  constructor
  · rw [hListener, hCounter]
    exact h.room
  · rw [hListener]
    exact h.not_refusing
  · rw [hListener]
    intro _
    apply h.excess_late
    intro hPc
    simp [excessStep, hPc] at hStep
  · have hClient := h.excess_client
    unfold excessStep at hStep
    cases hPc : s.excess
    all_goals
      simp only [hPc, ExcessPc.holdsClient] at hStep hClient hFull
      grind

theorem of_handlerStep
    {s t : ConnMgr V TIMEOUT}
    {i : Nat}
    {ok : Bool}
    {effects : List (ConnEffect V)}
    (h : s.Admitting MAX_CONN)
    (hStep : handlerStep s i ok = some (t, effects)) :
    t.Admitting MAX_CONN := by
  rcases handlerStep_cases hStep with
    ⟨handler, rest, _, _, _, _, rfl⟩ |
      ⟨handler, e, rest, u, _, _, hPerform, rfl⟩
  · exact ⟨h.room, h.not_refusing, h.excess_late,
      h.excess_client⟩
  rcases perform_counters hPerform with
    ⟨_, hCounter, _, hListener⟩
  rcases perform_sockets hPerform with
    ⟨_, hExcess, hClient, _⟩
  constructor
  · simp only
    rw [ListenerPc.eq_of_signal _ ListenerPc.admits_signal
      hListener, hCounter]
    exact h.room
  · simp only
    rw [ListenerPc.eq_of_signal _ ListenerPc.refuses_signal
      hListener]
    exact h.not_refusing
  · simp only
    rw [ListenerPc.eq_of_signal _
      ListenerPc.behindExcess_signal hListener, hExcess]
    exact h.excess_late
  · simp only
    rw [hClient, hExcess]
    exact h.excess_client

end ConnMgr.Admitting

/- The excess handler is alive behind the accept loop only. -/
theorem connSystem_admitting
    {labels : List ConnAction}
    {s : ConnMgr V TIMEOUT}
    (hRun :
      (connSystem V TIMEOUT MAX_CONN).run labels =
        some s) :
    s.Admitting MAX_CONN := by
  refine System.run_induction _
    (fun _ s => s.Admitting MAX_CONN)
    ⟨nofun, rfl, fun h => absurd rfl h, rfl⟩ ?_ hRun
  intro labels s a t hPrefix h hStep
  rcases connSystem_step.mp hStep with ⟨effects, hStep⟩
  cases a with
  | listener ok input => exact h.of_listenerStep hStep
  | excess ok =>
      exact h.of_excessStep (connSystem_accounted hPrefix)
        hStep
  | handler i ok => exact h.of_handlerStep hStep

end Admission

------------------------------------------------------------
-- Moves of Sockets
------------------------------------------------------------

section Moves

variable {V : Type}
variable [SensorValue V]
variable {TIMEOUT : Int}
variable {MAX_CONN : Nat}

/-
  The sockets in the variables of the two threads that accept
  connections, as long as these threads own them.
-/
def ConnMgr.managerHolds
    (s : ConnMgr V TIMEOUT) :
    List Nat :=
  s.listener.client.toList ++ s.excessClient.toList

/- What a step of the two threads does to the sockets. -/
inductive SocketMove
    (s t : ConnMgr V TIMEOUT) : Prop where
  | keep
      (hAccepted : t.accepted = s.accepted)
      (hClosed : t.closed = s.closed)
      (hHandlers : t.handlers = s.handlers)
      (hHolds : s.managerHolds.Perm t.managerHolds)
  | accept
      (hAccepted : t.accepted = s.accepted + 1)
      (hClosed : t.closed = s.closed)
      (hHandlers : t.handlers = s.handlers)
      (hHolds :
        (s.accepted :: s.managerHolds).Perm t.managerHolds)
  | handOver
      (client : Nat)
      (input : HandlerInput)
      (hAccepted : t.accepted = s.accepted)
      (hClosed : t.closed = s.closed)
      (hHandlers :
        t.handlers = s.handlers ++ [.start client input])
      (hHolds :
        s.managerHolds.Perm (client :: t.managerHolds))
  | close
      (client : Nat)
      (hAccepted : t.accepted = s.accepted)
      (hClosed : t.closed = s.closed ++ [client])
      (hHandlers : t.handlers = s.handlers)
      (hHolds :
        s.managerHolds.Perm (client :: t.managerHolds))

/- The listener owns what it accepted until it gives it on. -/
theorem listenerStep_sockets
    {s t : ConnMgr V TIMEOUT}
    {ok : Bool}
    {input : HandlerInput}
    {effects : List (ConnEffect V)}
    (hStep :
      listenerStep MAX_CONN s ok input =
        some (t, effects)) :
    t.excessClient = s.excessClient ∧
      ((t.accepted = s.accepted ∧ t.closed = s.closed ∧
          t.handlers = s.handlers ∧
          t.listener.client = s.listener.client) ∨
        (t.accepted = s.accepted + 1 ∧ t.closed = s.closed ∧
          t.handlers = s.handlers ∧
          s.listener.client = none ∧
          t.listener.client = some s.accepted) ∨
        (∃ client,
          t.accepted = s.accepted ∧ t.closed = s.closed ∧
            t.handlers =
              s.handlers ++ [.start client input] ∧
            s.listener.client = some client ∧
            t.listener.client = none) ∨
        (∃ client,
          t.accepted = s.accepted ∧
            t.closed = s.closed ++ [client] ∧
            t.handlers = s.handlers ∧
            s.listener.client = some client ∧
            t.listener.client = none)) := by
  unfold listenerStep at hStep
  cases hPc : s.listener
  all_goals
    simp only [hPc, ListenerPc.client] at hStep ⊢
    grind

theorem SocketMove.of_listenerStep
    {s t : ConnMgr V TIMEOUT}
    {ok : Bool}
    {input : HandlerInput}
    {effects : List (ConnEffect V)}
    (hStep :
      listenerStep MAX_CONN s ok input =
        some (t, effects)) :
    SocketMove s t := by
  rcases listenerStep_sockets hStep with
    ⟨hExcess, hKeep | hAccept | ⟨client, hHand⟩ |
      ⟨client, hClose⟩⟩
  · rcases hKeep with ⟨hAcc, hClosed, hHandlers, hClient⟩
    refine .keep hAcc hClosed hHandlers ?_
    unfold ConnMgr.managerHolds
    rw [hExcess, hClient]
  · rcases hAccept with
      ⟨hAcc, hClosed, hHandlers, hBefore, hAfter⟩
    refine .accept hAcc hClosed hHandlers ?_
    unfold ConnMgr.managerHolds
    rw [hExcess, hBefore, hAfter]
    exact List.Perm.refl _
  · rcases hHand with
      ⟨hAcc, hClosed, hHandlers, hBefore, hAfter⟩
    refine .handOver client input hAcc hClosed hHandlers ?_
    unfold ConnMgr.managerHolds
    rw [hExcess, hBefore, hAfter]
    exact List.Perm.refl _
  · rcases hClose with
      ⟨hAcc, hClosed, hHandlers, hBefore, hAfter⟩
    refine .close client hAcc hClosed hHandlers ?_
    unfold ConnMgr.managerHolds
    rw [hExcess, hBefore, hAfter]
    exact List.Perm.refl _

/- So does the excess handler. -/
theorem excessStep_sockets
    {s t : ConnMgr V TIMEOUT}
    {ok : Bool}
    {effects : List (ConnEffect V)}
    (h : s.Admitting MAX_CONN)
    (hStep :
      excessStep MAX_CONN s ok = some (t, effects)) :
    (t.accepted = s.accepted ∧ t.closed = s.closed ∧
        t.excessClient = s.excessClient) ∨
      (t.accepted = s.accepted + 1 ∧ t.closed = s.closed ∧
        s.excessClient = none ∧
        t.excessClient = some s.accepted) ∨
      (∃ client,
        t.accepted = s.accepted ∧
          t.closed = s.closed ++ [client] ∧
          s.excessClient = some client ∧
          t.excessClient = none) := by
  have hClient := h.excess_client
  unfold excessStep at hStep
  cases hPc : s.excess
  all_goals
    simp only [hPc, ExcessPc.holdsClient] at hStep hClient
    grind [Option.isSome_eq_false_iff, Option.isNone_iff_eq_none]

theorem SocketMove.of_excessStep
    {s t : ConnMgr V TIMEOUT}
    {ok : Bool}
    {effects : List (ConnEffect V)}
    (h : s.Admitting MAX_CONN)
    (hStep :
      excessStep MAX_CONN s ok = some (t, effects)) :
    SocketMove s t := by
  rcases excessStep_counters hStep with
    ⟨_, _, hListener, hHandlers⟩
  rcases excessStep_sockets h hStep with
    ⟨hAcc, hClosed, hClient⟩ |
      ⟨hAcc, hClosed, hBefore, hAfter⟩ |
      ⟨client, hAcc, hClosed, hBefore, hAfter⟩
  · refine .keep hAcc hClosed hHandlers ?_
    unfold ConnMgr.managerHolds
    rw [hListener, hClient]
  · refine .accept hAcc hClosed hHandlers ?_
    unfold ConnMgr.managerHolds
    rw [hListener, hBefore, hAfter]
    rw [Option.toList_none, List.append_nil]
    exact
      (List.perm_append_singleton s.accepted
        s.listener.client.toList).symm
  · refine .close client hAcc hClosed hHandlers ?_
    unfold ConnMgr.managerHolds
    rw [hListener, hBefore, hAfter]
    rw [Option.toList_none, List.append_nil]
    exact
      List.perm_append_singleton client
        s.listener.client.toList

end Moves

------------------------------------------------------------
-- The Owners of the Sockets
------------------------------------------------------------

section Owners

variable {V : Type}
variable [SensorValue V]
variable {TIMEOUT : Int}
variable {MAX_CONN : Nat}

/- The sockets that were given to handlers. -/
def ConnMgr.handedOver
    (s : ConnMgr V TIMEOUT) :
    List Nat :=
  s.handlers.map HandlerThread.client

/- The handler was given the socket and has not closed it. -/
def HandlerThread.holds
    (client : Nat)
    (t : HandlerThread V TIMEOUT) : Bool :=
  t.client == client && !t.closed

/- The number of handlers that hold a socket. -/
def ConnMgr.handlersHolding
    (s : ConnMgr V TIMEOUT)
    (client : Nat) : Nat :=
  s.handlers.countP (HandlerThread.holds client)

/-
  Each accepted socket is closed once or has one owner, and
  is given to one handler at most.
-/
structure ConnMgr.SocketsOwned
    (s : ConnMgr V TIMEOUT) : Prop where
  owned_once :
    ∀ client,
      s.closed.count client + s.handlersHolding client +
          s.managerHolds.count client =
        if client < s.accepted then 1 else 0
  handed_once :
    ∀ client,
      s.handedOver.count client +
          s.managerHolds.count client ≤
        if client < s.accepted then 1 else 0

/- A handler that starts holds its socket. -/
theorem countP_holds_start
    (handlers : List (HandlerThread V TIMEOUT))
    (started : Nat)
    (input : HandlerInput)
    (client : Nat) :
    (handlers ++
          [HandlerThread.start started input]).countP
        (HandlerThread.holds client) =
      handlers.countP (HandlerThread.holds client) +
        [started].count client := by
  have hHolds :
      HandlerThread.holds client
          (HandlerThread.start started input :
            HandlerThread V TIMEOUT) =
        (started == client) := by
    simp [HandlerThread.holds, HandlerThread.start,
      HandlerThread.closed]
  rw [List.countP_append, List.countP_singleton, hHolds,
    List.count_singleton]

/- A handler that closes its socket does not hold it. -/
theorem countP_holds_advance
    {handlers : List (HandlerThread V TIMEOUT)}
    {i : Nat}
    {h : HandlerThread V TIMEOUT}
    {e : HandlerEffect V}
    {rest : List (HandlerEffect V)}
    (hHandler : handlers[i]? = some h)
    (hTodo : h.todo = e :: rest)
    (client : Nat) :
    (handlers.set i h.advance).countP
          (HandlerThread.holds client) +
        (if e.isClose then [h.client].count client else 0) =
      handlers.countP (HandlerThread.holds client) := by
  have hAdd :=
    countP_set_add (b := h.advance)
      (HandlerThread.holds client) hHandler
  have hAdvance :
      HandlerThread.holds client h.advance =
        (h.client == client && !(h.closed || e.isClose)) := by
    rw [← h.closed_advance hTodo]
    rfl
  have hBefore :
      HandlerThread.holds client h =
        (h.client == client && !h.closed) := rfl
  rw [hAdvance, hBefore] at hAdd
  cases hClose : e.isClose with
  | false =>
      rw [hClose, Bool.or_false] at hAdd
      simp only [Bool.false_eq_true, if_false]
      omega
  | true =>
      have hOpen : h.closed = false := by
        cases e with
        | tcpClose => exact h.not_closed_of_todo hTodo
        | _ => cases hClose
      rw [hClose, hOpen] at hAdd
      rw [if_pos rfl, List.count_singleton]
      cases hEq : h.client == client with
      | false =>
          rw [hEq] at hAdd
          exact hAdd
      | true =>
          rw [hEq] at hAdd
          exact hAdd

namespace ConnMgr.SocketsOwned

/- The two threads pass the ownership on. -/
theorem of_move
    {s t : ConnMgr V TIMEOUT}
    (h : s.SocketsOwned)
    (hMove : SocketMove s t) :
    t.SocketsOwned := by
  cases hMove with
  | keep hAccepted hClosed hHandlers hHolds =>
      constructor
      · intro client
        have hOwned := h.owned_once client
        unfold handlersHolding at hOwned ⊢
        rw [hAccepted, hClosed, hHandlers,
          ← hHolds.count_eq]
        exact hOwned
      · intro client
        have hHanded := h.handed_once client
        unfold handedOver at hHanded ⊢
        rw [hAccepted, hHandlers, ← hHolds.count_eq]
        exact hHanded
  | accept hAccepted hClosed hHandlers hHolds =>
      -- the new number is above all sockets so far
      have hNew :
          ∀ client,
            (if client < s.accepted + 1 then 1 else 0) =
              (if client < s.accepted then 1 else 0) +
                if s.accepted = client then 1 else 0 := by
        intro client
        split
        · split
          · split
            · omega
            · rfl
          · split
            · rfl
            · omega
        · split
          · omega
          · split
            · omega
            · rfl
      constructor
      · intro client
        have hOwned := h.owned_once client
        unfold handlersHolding at hOwned ⊢
        rw [hAccepted, hClosed, hHandlers,
          ← hHolds.count_eq, List.count_cons, hNew]
        simp only [beq_iff_eq]
        omega
      · intro client
        have hHanded := h.handed_once client
        unfold handedOver at hHanded ⊢
        rw [hAccepted, hHandlers, ← hHolds.count_eq,
          List.count_cons, hNew]
        simp only [beq_iff_eq]
        omega
  | handOver started input hAccepted hClosed hHandlers
      hHolds =>
      constructor
      · intro client
        have hOwned := h.owned_once client
        unfold handlersHolding at hOwned ⊢
        rw [hHolds.count_eq, List.count_cons] at hOwned
        rw [hAccepted, hClosed, hHandlers,
          countP_holds_start, List.count_singleton]
        omega
      · intro client
        have hHanded := h.handed_once client
        unfold handedOver at hHanded ⊢
        rw [hHolds.count_eq, List.count_cons] at hHanded
        have hOne :
            [(HandlerThread.start started input :
                HandlerThread V TIMEOUT)].map
              HandlerThread.client = [started] := rfl
        rw [hAccepted, hHandlers, List.map_append,
          List.count_append, hOne, List.count_singleton]
        omega
  | close done hAccepted hClosed hHandlers hHolds =>
      constructor
      · intro client
        have hOwned := h.owned_once client
        unfold handlersHolding at hOwned ⊢
        rw [hHolds.count_eq, List.count_cons] at hOwned
        rw [hAccepted, hClosed, hHandlers,
          List.count_append, List.count_singleton]
        omega
      · intro client
        have hHanded := h.handed_once client
        unfold handedOver at hHanded ⊢
        rw [hHolds.count_eq, List.count_cons] at hHanded
        rw [hAccepted, hHandlers]
        omega

/- A handler gives up its socket by closing it. -/
theorem of_handlerStep
    {s t : ConnMgr V TIMEOUT}
    {i : Nat}
    {ok : Bool}
    {effects : List (ConnEffect V)}
    (h : s.SocketsOwned)
    (hStep : handlerStep s i ok = some (t, effects)) :
    t.SocketsOwned := by
  rcases handlerStep_cases hStep with
    ⟨handler, rest, hHandler, _, _, _, rfl⟩ |
      ⟨handler, e, rest, u, hHandler, hTodo, hPerform, rfl⟩
  · constructor
    · intro client
      have hHolds :=
        countP_set_of_eq
          (b := handler.load s.connTerminations)
          (p := HandlerThread.holds client) hHandler rfl
      have hOwned := h.owned_once client
      unfold handlersHolding at hOwned ⊢
      rw [hHolds]
      exact hOwned
    · intro client
      have hMap :
          (s.handlers.set i
              (handler.load s.connTerminations)).map
              HandlerThread.client =
            s.handlers.map HandlerThread.client :=
        map_set_of_eq hHandler rfl
      have hHanded := h.handed_once client
      unfold handedOver at hHanded ⊢
      rw [hMap]
      exact hHanded
  rcases perform_counters hPerform with
    ⟨hHandlers, _, _, hListener⟩
  rcases perform_sockets hPerform with
    ⟨hAccepted, _, hExcess, hClosed⟩
  have hClient :=
    ListenerPc.eq_of_signal _ ListenerPc.client_signal
      hListener
  constructor
  · intro client
    have hOwned := h.owned_once client
    have hHolds :=
      countP_holds_advance hHandler hTodo client
    unfold handlersHolding managerHolds at hOwned ⊢
    simp only
    rw [hHandlers, hAccepted, hClient, hExcess, hClosed]
    cases hClose : e.isClose with
    | false =>
        rw [hClose] at hHolds
        simp only [Bool.false_eq_true, if_false] at hHolds ⊢
        omega
    | true =>
        rw [hClose] at hHolds
        simp only [if_true, List.count_append]
          at hHolds hOwned ⊢
        omega
  · intro client
    have hHanded := h.handed_once client
    have hMap :
        (u.handlers.set i handler.advance).map
            HandlerThread.client =
          s.handlers.map HandlerThread.client := by
      rw [hHandlers]
      exact map_set_of_eq hHandler rfl
    unfold handedOver managerHolds at hHanded ⊢
    simp only
    rw [hMap, hAccepted, hClient, hExcess]
    exact hHanded

end ConnMgr.SocketsOwned

/- In every reachable state all sockets have their owners. -/
theorem connSystem_socketsOwned
    {labels : List ConnAction}
    {s : ConnMgr V TIMEOUT}
    (hRun :
      (connSystem V TIMEOUT MAX_CONN).run labels =
        some s) :
    s.SocketsOwned := by
  refine System.run_induction _
    (fun _ s => s.SocketsOwned)
    ⟨fun _ => rfl, fun _ => Nat.le_refl 0⟩ ?_ hRun
  intro labels s a t hPrefix h hStep
  rcases connSystem_step.mp hStep with ⟨effects, hStep⟩
  cases a with
  | listener ok input =>
      exact h.of_move (.of_listenerStep hStep)
  | excess ok =>
      exact h.of_move
        (.of_excessStep (connSystem_admitting hPrefix) hStep)
  | handler i ok => exact h.of_handlerStep hStep

/-
  The listener, the excess handler and all handlers have
  finished; a thread that was not created has nothing to do.
-/
structure ConnMgr.AllFinished
    (s : ConnMgr V TIMEOUT) : Prop where
  listener :
    s.listener = .returned ∨ s.listener = .exited
  excess : s.excess = .terminated ∨ s.excess = .notStarted
  handlers : ∀ h ∈ s.handlers, h.finished = true

/- In the end, each socket is closed exactly once. -/
theorem ConnMgr.SocketsOwned.closed_of_allFinished
    {s : ConnMgr V TIMEOUT}
    (h : s.SocketsOwned)
    (hAdmitting : s.Admitting MAX_CONN)
    (hFinished : s.AllFinished)
    {client : Nat}
    (hAccepted : client < s.accepted) :
    s.closed.count client = 1 := by
  have hListener : s.listener.client = none := by
    rcases hFinished.listener with hPc | hPc
    · rw [hPc]
      rfl
    · rw [hPc]
      rfl
  have hExcess : s.excessClient = none := by
    rw [← Option.isNone_iff_eq_none,
      ← Option.isSome_eq_false_iff,
      hAdmitting.excess_client]
    rcases hFinished.excess with hPc | hPc
    · rw [hPc]
      rfl
    · rw [hPc]
      rfl
  have hHolds : s.managerHolds = [] := by
    unfold ConnMgr.managerHolds
    rw [hListener, hExcess]
    rfl
  have hHandlers : s.handlersHolding client = 0 := by
    unfold ConnMgr.handlersHolding
    rw [List.countP_eq_zero]
    intro handler hMem
    have hClosed :=
      handler.closed_of_finished
        (hFinished.handlers handler hMem)
    simp [HandlerThread.holds, hClosed]
  have hOwned := h.owned_once client
  rw [hHolds, hHandlers, if_pos hAccepted] at hOwned
  exact hOwned

/-
  Admission and ownership. At most `MAX_CONN` handlers are
  started, and the listener never comes to its `else` branch.
  Each accepted socket is closed once or has one owner; so no
  thread loses one by accepting another, and the variable of
  the excess handler is empty when it does. No two handlers
  get the same socket, and in the end each socket is closed
  exactly once, by its handler if it was handed over.
-/
structure ConnMgr.SocketsSafe
    (MAX_CONN : Nat)
    (s : ConnMgr V TIMEOUT) : Prop where
  handlers_le : s.handlers.length ≤ MAX_CONN
  not_refusing : s.listener.refuses = false
  owned_once :
    ∀ client < s.accepted,
      s.closed.count client + s.handlersHolding client +
          s.managerHolds.count client =
        1
  accepts_empty :
    s.excess = .inAccept → s.excessClient = none
  handed_once : s.handedOver.Nodup
  closed_once :
    s.AllFinished →
      ∀ client < s.accepted,
        s.closed.count client = 1 ∧
          (client ∈ s.handedOver →
            ∃ h ∈ s.handlers,
              h.client = client ∧ h.closed = true)

theorem ConnMgr.SocketsOwned.safe
    {s : ConnMgr V TIMEOUT}
    (h : s.SocketsOwned)
    (hAccounted : s.Accounted MAX_CONN)
    (hAdmitting : s.Admitting MAX_CONN) :
    s.SocketsSafe MAX_CONN := by
  constructor
  · have hStarted := hAccounted.started_le
    have hLe := hAccounted.counter_le
    omega
  · exact hAdmitting.not_refusing
  · intro client hAccepted
    have hOwned := h.owned_once client
    rw [if_pos hAccepted] at hOwned
    exact hOwned
  · intro hPc
    have hClient := hAdmitting.excess_client
    rw [hPc] at hClient
    rw [← Option.isNone_iff_eq_none,
      ← Option.isSome_eq_false_iff]
    exact hClient
  · rw [List.nodup_iff_count_le_one]
    intro client
    have hHanded := h.handed_once client
    split at hHanded
    · omega
    · omega
  · intro hFinished client hAccepted
    refine ⟨h.closed_of_allFinished hAdmitting hFinished
      hAccepted, ?_⟩
    intro hHanded
    rcases List.mem_map.mp hHanded with
      ⟨handler, hMem, hClient⟩
    exact ⟨handler, hMem, hClient,
      handler.closed_of_finished
        (hFinished.handlers handler hMem)⟩

/-
  Sockets are handed over one after the other, and none any
  more once the accept loop is over.
-/
theorem connStep_handedOver
    {s t : ConnMgr V TIMEOUT}
    {a : ConnAction}
    {effects : List (ConnEffect V)}
    (hStep : connStep MAX_CONN s a = some (t, effects)) :
    ∃ started,
      t.handedOver = s.handedOver ++ started ∧
        (s.listener.pastAcceptLoop = true →
          t.listener.pastAcceptLoop = true ∧
            started = []) := by
  unfold ConnMgr.handedOver
  cases a with
  | listener ok input =>
      have hPhases := (listenerStep_phases hStep).1
      have hSame :
          t.handlers = s.handlers →
            t.handlers.map HandlerThread.client =
              s.handlers.map HandlerThread.client ++ [] := by
        intro hEq
        rw [hEq, List.append_nil]
      rcases (listenerStep_counters hStep).2 with
        ⟨_, _, hH, _⟩ | ⟨_, _, _, hH, _⟩ |
          ⟨client, hPc, _, _, hH, _⟩ |
          ⟨client, _, _, _, hH, _⟩
      · exact ⟨[], hSame hH,
          fun hPast => ⟨(hPhases hPast).1, rfl⟩⟩
      · exact ⟨[], hSame hH,
          fun hPast => ⟨(hPhases hPast).1, rfl⟩⟩
      · refine ⟨[client], ?_, ?_⟩
        · rw [hH, List.map_append]
          rfl
        · rw [hPc]
          intro hPast
          cases hPast
      · exact ⟨[], hSame hH,
          fun hPast => ⟨(hPhases hPast).1, rfl⟩⟩
  | excess ok =>
      rcases excessStep_counters hStep with
        ⟨_, _, hListener, hHandlers⟩
      refine ⟨[], ?_, ?_⟩
      · rw [hHandlers, List.append_nil]
      · rw [hListener]
        exact fun hPast => ⟨hPast, rfl⟩
  | handler i ok =>
      rcases handlerStep_cases hStep with
        ⟨handler, rest, hHandler, _, _, _, rfl⟩ |
          ⟨handler, e, rest, u, hHandler, _, hPerform, rfl⟩
      · refine ⟨[], ?_, fun hPast => ⟨hPast, rfl⟩⟩
        rw [List.append_nil]
        exact map_set_of_eq hHandler rfl
      rcases perform_counters hPerform with
        ⟨hHandlers, _, _, hListener⟩
      refine ⟨[], ?_, ?_⟩
      · simp only
        rw [hHandlers, List.append_nil]
        exact map_set_of_eq hHandler rfl
      · simp only
        rw [ListenerPc.eq_of_signal _
          ListenerPc.pastAcceptLoop_signal hListener]
        exact fun hPast => ⟨hPast, trivial⟩

end Owners

end SensorGateway
