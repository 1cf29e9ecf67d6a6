import SensorGateway.ConnMgr.ClientHandler
import SensorGateway.Foundations.Mutex

/-
  The state of the connection manager: what the threads of
  `connmgr.c` share, and where each of them is.

  The threads are the listener, the excess handler and one
  handler for each admitted client. A place in a thread is
  named after the call or the test that it does next.

  Key definitions include:
    * `Thread`
    * `ServerSocket`
    * `ListenerPc`
    * `ExcessPc`
    * `HandlerThread`
    * `ConnMgr`

  Key theorems include:
    * `HandlerThread.todo_of_finished`
    * `HandlerThread.inserts_todo_of_finished`
    * `HandlerThread.finished_advance`
    * `HandlerThread.not_finished_of_todo`
-/

------------------------------------------------------------
-- Threads
------------------------------------------------------------

namespace SensorGateway

open Foundations

/-
  The threads of the gateway: those that `main` starts, and
  those that the listener starts in turn.
-/
inductive Thread where
  | main
  | connmgrListen
  | openDb
  | dataManagerInit
  | excessClientHandler
  | clientHandler (i : Nat)
deriving DecidableEq, Repr

------------------------------------------------------------
-- Shared Objects
------------------------------------------------------------

/- The life of the object behind `server`. -/
inductive SocketStatus where
  | unopened
  | opened
  | freed
deriving DecidableEq, Repr

/-
  The server socket. The mark `usedAfterFree` records that a
  thread read the object after `tcp_close` freed it.
-/
structure ServerSocket where
  status : SocketStatus
  usedAfterFree : Bool
deriving DecidableEq, Repr

namespace ServerSocket

/- Before `tcp_passive_open`. -/
def unopened : ServerSocket where
  status := .unopened
  usedAfterFree := false

/- A thread reads the object. -/
def use
    (server : ServerSocket) :
    ServerSocket :=
  if server.status = .freed then
    { server with usedAfterFree := true }
  else
    server

/- `tcp_passive_open`, when it succeeds. -/
def passiveOpen
    (server : ServerSocket) :
    ServerSocket :=
  { server with status := .opened }

/- `tcp_close(&server)`. -/
def close
    (server : ServerSocket) :
    ServerSocket :=
  { server.use with status := .freed }

end ServerSocket

------------------------------------------------------------
-- Places in the Threads
------------------------------------------------------------

/-
  What `connmgr_listen` does next; `client` is the socket it
  accepted last. In `blocked`, it sleeps on `conn_cond`, and
  `woken` tells whether a wake-up was delivered to it.
-/
inductive ListenerPc where
  | logStarted
  | passiveOpen
  | lockFirst
  | testCounter
  | unlockLoop
  | waitForConnection
  | logFailedWait
  | logIncoming (client : Nat)
  | lockAdmit (client : Nat)
  | testAdmit (client : Nat)
  | unlockAdmitted (client : Nat)
  | createHandler (client : Nat)
  | logFailedCreate (client : Nat)
  | closeFailed (client : Nat)
  | unlockRefused (client : Nat)
  | closeRefused (client : Nat)
  | lockLoop
  | createExcess
  | testTerminations
  | condWait
  | blocked (woken : Bool)
  | relock
  | unlockDone
  | closeServer
  | destroyMutex
  | destroyCond
  | setStop
  | setStopAgain
  | joinExcess
  | logShutdown
  | insertEndOfStream
  | returned
  | exited
deriving DecidableEq, Repr

namespace ListenerPc

/- `pthread_cond_signal(&conn_cond)`: only a waiter hears. -/
def signal : ListenerPc → ListenerPc
| .blocked _ => .blocked true
| pc => pc

/-
  The accept loop has counted a client whose thread is not
  created yet.
-/
@[grind] def pending : ListenerPc → Bool
| .unlockAdmitted _ => true
| .createHandler _ => true
| _ => false

/- The accept loop has ended. -/
@[grind] def pastAcceptLoop : ListenerPc → Bool
| .createExcess => true
| .testTerminations => true
| .condWait => true
| .blocked _ => true
| .relock => true
| .unlockDone => true
| .closeServer => true
| .destroyMutex => true
| .destroyCond => true
| .setStop => true
| .setStopAgain => true
| .joinExcess => true
| .logShutdown => true
| .insertEndOfStream => true
| .returned => true
| _ => false

/- The wait for the terminations has ended. -/
@[grind] def pastWait : ListenerPc → Bool
| .unlockDone => true
| .closeServer => true
| .destroyMutex => true
| .destroyCond => true
| .setStop => true
| .setStopAgain => true
| .joinExcess => true
| .logShutdown => true
| .insertEndOfStream => true
| .returned => true
| _ => false

/-
  The listener has found terminations missing, and no wake-up
  was delivered to it since.
-/
@[grind] def waiting : ListenerPc → Bool
| .condWait => true
| .blocked false => true
| _ => false

/- Who waits is past the accept loop. -/
theorem pastAcceptLoop_of_waiting
    {pc : ListenerPc}
    (hWaiting : pc.waiting = true) :
    pc.pastAcceptLoop = true := by
  cases pc with
  | condWait => rfl
  | blocked woken => rfl
  | _ => cases hWaiting

/- A signal ends the wait, if the listener sleeps already. -/
theorem waiting_signal
    {pc : ListenerPc}
    (hPc : pc ≠ .condWait) :
    pc.signal.waiting = false := by
  cases pc with
  | condWait => exact absurd rfl hPc
  | blocked woken => rfl
  | _ => rfl

/- A signal does not make the listener wait. -/
theorem waiting_of_signal
    {pc : ListenerPc}
    (hWaiting : pc.signal.waiting = true) :
    pc.waiting = true := by
  cases pc with
  | blocked woken => cases hWaiting
  | _ => exact hWaiting

/- What the signal does not change. -/
theorem eq_of_signal
    {α : Type}
    (f : ListenerPc → α)
    (hSignal : ∀ pc, f pc.signal = f pc)
    {pc pc' : ListenerPc}
    (hPc : pc' = pc ∨ pc' = pc.signal) :
    f pc' = f pc := by
  rcases hPc with hEq | hEq
  · rw [hEq]
  · rw [hEq, hSignal]

@[simp] theorem pending_signal
    (pc : ListenerPc) :
    pc.signal.pending = pc.pending := by
  cases pc with
  | blocked woken => rfl
  | _ => rfl

@[simp] theorem pastAcceptLoop_signal
    (pc : ListenerPc) :
    pc.signal.pastAcceptLoop = pc.pastAcceptLoop := by
  cases pc with
  | blocked woken => rfl
  | _ => rfl

@[simp] theorem pastWait_signal
    (pc : ListenerPc) :
    pc.signal.pastWait = pc.pastWait := by
  cases pc with
  | blocked woken => rfl
  | _ => rfl

end ListenerPc

/- What `excess_client_handler` does next. -/
inductive ExcessPc where
  | notStarted
  | checkStop
  | callAccept
  | inAccept
  | closeStale
  | lockConn
  | testCounter
  | logRejecting
  | closeRejected
  | logRejected
  | unlockConn
  | logTerminating
  | terminated
deriving DecidableEq, Repr

/- The thread is about to lock or unlock `conn_mutex`. -/
def ExcessPc.usesMutex : ExcessPc → Bool
| .lockConn => true
| .testCounter => true
| .logRejecting => true
| .closeRejected => true
| .logRejected => true
| .unlockConn => true
| _ => false

------------------------------------------------------------
-- Handlers
------------------------------------------------------------

section Handlers

variable {V : Type}
variable [SensorValue V]

/-
  A started `client_handler` and its socket. What it did and
  what it has still to do make up what it does for its input.
  In `conn_terminations++`, `loaded` is the value that it has
  read and is about to add one to.
-/
structure HandlerThread
    (V : Type)
    [SensorValue V]
    (TIMEOUT : Int) where
  client : Nat
  input : HandlerInput
  done : List (HandlerEffect V)
  todo : List (HandlerEffect V)
  loaded : Option Nat
  trace_eq : done ++ todo = clientHandler TIMEOUT input
  loaded_at :
    loaded ≠ none → HandlerEffect.countsNext todo = true

namespace HandlerThread

variable {TIMEOUT : Int}

/- A handler at its first statement. -/
def start
    (client : Nat)
    (input : HandlerInput) :
    HandlerThread V TIMEOUT where
  client := client
  input := input
  done := []
  todo := clientHandler TIMEOUT input
  loaded := none
  trace_eq := rfl
  loaded_at := fun hLoaded => absurd rfl hLoaded

/- The handler after its next effect. -/
def advance
    (t : HandlerThread V TIMEOUT) :
    HandlerThread V TIMEOUT where
  client := t.client
  input := t.input
  done := t.done ++ t.todo.take 1
  todo := t.todo.drop 1
  loaded := none
  trace_eq := by
    rw [List.append_assoc, List.take_append_drop]
    exact t.trace_eq
  loaded_at := fun hLoaded => absurd rfl hLoaded

/- The handler that counts has read `conn_terminations`. -/
def load
    (t : HandlerThread V TIMEOUT)
    (terminations : Nat) :
    HandlerThread V TIMEOUT where
  client := t.client
  input := t.input
  done := t.done
  todo := t.todo
  loaded :=
    if HandlerEffect.countsNext t.todo then
      some terminations
    else
      none
  trace_eq := t.trace_eq
  loaded_at := by
    intro hLoaded
    by_contra hNot
    exact hLoaded (if_neg hNot)

/-
  The handler has finished: it has counted its termination,
  and only the unlock of `conn_mutex` may be left.
-/
def finished
    (t : HandlerThread V TIMEOUT) : Bool :=
  HandlerEffect.counted t.done

/- The handler is between its lock and its unlock. -/
def inSection
    (t : HandlerThread V TIMEOUT) : Bool :=
  HandlerEffect.inSection t.todo

/- Reading the counter is no effect yet. -/
@[simp] theorem finished_load
    (t : HandlerThread V TIMEOUT)
    (terminations : Nat) :
    (t.load terminations).finished = t.finished := rfl

@[simp] theorem inSection_load
    (t : HandlerThread V TIMEOUT)
    (terminations : Nat) :
    (t.load terminations).inSection = t.inSection := rfl

@[simp] theorem todo_load
    (t : HandlerThread V TIMEOUT)
    (terminations : Nat) :
    (t.load terminations).todo = t.todo := rfl

/- A handler that counts holds what it read. -/
theorem loaded_load
    (t : HandlerThread V TIMEOUT)
    {rest : List (HandlerEffect V)}
    (hTodo : t.todo = .countTermination :: rest)
    (terminations : Nat) :
    (t.load terminations).loaded = some terminations := by
  simp [load, hTodo, HandlerEffect.countsNext]

/- A handler that has read the counter is about to write. -/
theorem todo_of_loaded
    (t : HandlerThread V TIMEOUT)
    {terminations : Nat}
    (hLoaded : t.loaded = some terminations) :
    ∃ rest, t.todo = .countTermination :: rest := by
  have hNext := t.loaded_at (by simp [hLoaded])
  cases hTodo : t.todo with
  | nil =>
      rw [hTodo] at hNext
      cases hNext
  | cons e rest =>
      rw [hTodo] at hNext
      cases e with
      | countTermination => exact ⟨rest, rfl⟩
      | _ => cases hNext

/- What a handler has to do is always the end of a course. -/
theorem todo_valid
    (t : HandlerThread V TIMEOUT) :
    ValidTail t.todo := by
  apply ValidTail.of_append t.done
  rw [t.trace_eq]
  exact (clientHandler_validTail TIMEOUT t.input).2

/- A count that is done leaves at most the unlock. -/
theorem todo_of_finished
    (t : HandlerThread V TIMEOUT)
    (hFinished : t.finished = true) :
    t.todo = [.unlockConn] ∨ t.todo = [] := by
  refine ValidTail.of_counted t.done ?_ hFinished
  rw [t.trace_eq]
  exact (clientHandler_validTail TIMEOUT t.input).2

/- A handler does not start between its lock and unlock. -/
theorem inSection_start
    (client : Nat)
    (input : HandlerInput) :
    (start client input : HandlerThread V TIMEOUT).inSection =
      false :=
  (clientHandler_validTail TIMEOUT input).1

/- Only the lock leads into the section. -/
theorem inSection_of_advance
    (t : HandlerThread V TIMEOUT)
    {e : HandlerEffect V}
    {rest : List (HandlerEffect V)}
    (hTodo : t.todo = e :: rest)
    (hInside : t.advance.inSection = true) :
    e = .lockConn ∨ e = .countTermination := by
  have hValid := t.todo_valid
  rw [hTodo] at hValid
  have hRest : HandlerEffect.inSection rest = true := by
    simpa [inSection, advance, hTodo] using hInside
  cases e with
  | log msg =>
      rw [hValid.1] at hRest
      cases hRest
  | sbufferInsert data =>
      rw [hValid.1] at hRest
      cases hRest
  | tcpClose =>
      have hEq : rest = _ := hValid
      rw [hEq] at hRest
      cases hRest
  | lockConn => exact Or.inl rfl
  | countTermination => exact Or.inr rfl
  | unlockConn =>
      have hEq : rest = [] := hValid
      rw [hEq] at hRest
      cases hRest

/- A handler that has the count to do has not finished. -/
theorem not_finished_of_todo
    (t : HandlerThread V TIMEOUT)
    {rest : List (HandlerEffect V)}
    (hTodo : t.todo = .countTermination :: rest) :
    t.finished = false := by
  by_contra hNot
  have hFinished : t.finished = true := by
    simpa using hNot
  rcases t.todo_of_finished hFinished with hLeft | hLeft
  · rw [hTodo] at hLeft
    cases hLeft
  · rw [hTodo] at hLeft
    cases hLeft

/- An effect finishes a handler if it is the count. -/
theorem finished_advance
    (t : HandlerThread V TIMEOUT)
    {e : HandlerEffect V}
    {rest : List (HandlerEffect V)}
    (hTodo : t.todo = e :: rest) :
    t.advance.finished = (t.finished || e.isCount) := by
  simp [finished, advance, hTodo, HandlerEffect.counted]

/- A handler that has finished inserts nothing any more. -/
theorem inserts_todo_of_finished
    (t : HandlerThread V TIMEOUT)
    (hFinished : t.finished = true) :
    HandlerEffect.inserts t.todo = [] := by
  rcases t.todo_of_finished hFinished with hTodo | hTodo
  · rw [hTodo]
    rfl
  · rw [hTodo]
    rfl

end HandlerThread

end Handlers

------------------------------------------------------------
-- The Connection Manager
------------------------------------------------------------

/-
  What the threads of `connmgr.c` share, and where they are.
  Accepted sockets are numbered in the order of `accept`;
  `closed` lists those given to `tcp_close`, in order.
-/
structure ConnMgr
    (V : Type)
    [SensorValue V]
    (TIMEOUT : Int) where
  connMutex : Mutex Thread
  connCounter : Nat
  connTerminations : Nat
  stopExcessHandler : Bool
  server : ServerSocket
  accepted : Nat
  closed : List Nat
  listener : ListenerPc
  excess : ExcessPc
  excessClient : Option Nat
  handlers : List (HandlerThread V TIMEOUT)

/- The connection manager when the listener is started. -/
def ConnMgr.start
    {V : Type}
    [SensorValue V]
    {TIMEOUT : Int} :
    ConnMgr V TIMEOUT where
  connMutex := .unlocked
  connCounter := 0
  connTerminations := 0
  stopExcessHandler := false
  server := .unopened
  accepted := 0
  closed := []
  listener := .logStarted
  excess := .notStarted
  excessClient := none
  handlers := []

/-
  What the connection manager does to the rest of the
  gateway: a line for the log, a call of `sbuffer_insert` and
  the outcome of its `malloc`, or the end of the process.
-/
inductive ConnEffect (V : Type) where
  | log (msg : LogMsg V)
  | sbufferInsert
      (writer : Thread)
      (data : SensorData V)
      (mallocOk : Bool)
  | exitFailure

end SensorGateway
