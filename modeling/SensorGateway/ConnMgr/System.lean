import SensorGateway.ConnMgr.Threads
import SensorGateway.Foundations.System

/-
  The connection manager as a system of threads: the steps of
  `connmgr_listen`, `excess_client_handler` and the handlers,
  in any interleaving.

  A step is one call or one test of one thread. The
  `conn_terminations++` of `client_handler` is two: it reads
  the counter, and it writes it back, with the test behind it
  and the signal. After a failed accept, `conn_mutex` does not
  keep other handlers from coming in between. Since
  `socket_mutex` is taken by the excess handler only, it has
  no part in the model.

  The identifier of a thread whose `pthread_create` failed is
  not initialised, and joining it is undefined. There is no
  step for such a join here: nothing is said of what follows.

  Key definitions include:
    * `listenerStep`
    * `excessStep`
    * `handlerStep`
    * `connSystem`

  Key theorems include:
    * `listenerStep_counters`
    * `excessStep_counters`
    * `handlerStep_cases`
-/

------------------------------------------------------------
-- Steps
------------------------------------------------------------

namespace SensorGateway

open Foundations

variable {V : Type}
variable [SensorValue V]
variable {TIMEOUT : Int}

/- A step of the manager and what it does to the gateway. -/
abbrev ConnOutcome
    (V : Type)
    [SensorValue V]
    (TIMEOUT : Int) :=
  ConnMgr V TIMEOUT × List (ConnEffect V)

namespace ConnMgr

/- A thread locks `conn_mutex`, if it is free. -/
@[grind] def lock
    (s : ConnMgr V TIMEOUT)
    (t : Thread) :
    Option (ConnMgr V TIMEOUT) :=
  (s.connMutex.lock t).map
    (fun m => { s with connMutex := m })

/- A thread unlocks `conn_mutex`. -/
@[grind] def unlock
    (s : ConnMgr V TIMEOUT) :
    ConnMgr V TIMEOUT :=
  { s with connMutex := s.connMutex.unlock }

/- `tcp_close` on an accepted socket. -/
@[grind] def tcpClose
    (s : ConnMgr V TIMEOUT)
    (client : Nat) :
    ConnMgr V TIMEOUT :=
  { s with closed := s.closed ++ [client] }

/- The listener goes on at `pc`. -/
@[grind] def listenAt
    (s : ConnMgr V TIMEOUT)
    (pc : ListenerPc) :
    ConnMgr V TIMEOUT :=
  { s with listener := pc }

/- The excess handler goes on at `pc`. -/
@[grind] def excessAt
    (s : ConnMgr V TIMEOUT)
    (pc : ExcessPc) :
    ConnMgr V TIMEOUT :=
  { s with excess := pc }

end ConnMgr

/-
  One step of `connmgr_listen`. Where it makes a call that
  can fail, `ok` is the outcome of the call; `input` is what
  the connection of a new handler does to it.
-/
def listenerStep
    (MAX_CONN : Nat)
    (s : ConnMgr V TIMEOUT)
    (ok : Bool)
    (input : HandlerInput) :
    Option (ConnOutcome V TIMEOUT) :=
  match s.listener with
  | .logStarted =>
      some
        (s.listenAt .passiveOpen,
          [.log (.text "Test server is started\n")])
  | .passiveOpen =>
      if ok then
        some
          ({ s with
              server := s.server.passiveOpen
              listener := .lockFirst }, [])
      else
        some (s.listenAt .exited, [.exitFailure])
  | .lockFirst =>
      (s.lock .connmgrListen).map
        (fun s => (s.listenAt .testCounter, []))
  | .testCounter =>
      if s.connCounter < MAX_CONN then
        some (s.listenAt .unlockLoop, [])
      else
        some (s.listenAt .createExcess, [])
  | .unlockLoop =>
      some (s.unlock.listenAt .waitForConnection, [])
  | .waitForConnection =>
      if ok then
        some
          ({ s with
              server := s.server.use
              accepted := s.accepted + 1
              listener := .logIncoming s.accepted }, [])
      else
        some
          ({ s with
              server := s.server.use
              listener := .logFailedWait }, [])
  | .logFailedWait =>
      -- `continue` does not lock `conn_mutex` again
      some
        (s.listenAt .testCounter,
          [.log (.text "Failed to wait for connection\n")])
  | .logIncoming client =>
      some
        (s.listenAt (.lockAdmit client),
          [.log (.text "Incoming client connection\n")])
  | .lockAdmit client =>
      (s.lock .connmgrListen).map
        (fun s => (s.listenAt (.testAdmit client), []))
  | .testAdmit client =>
      if s.connCounter < MAX_CONN then
        some
          ({ s with
              connCounter := s.connCounter + 1
              listener := .unlockAdmitted client }, [])
      else
        some (s.listenAt (.unlockRefused client), [])
  | .unlockAdmitted client =>
      some (s.unlock.listenAt (.createHandler client), [])
  | .createHandler client =>
      if ok then
        some
          ({ s with
              handlers := s.handlers ++ [.start client input]
              listener := .lockLoop }, [])
      else
        some (s.listenAt (.logFailedCreate client), [])
  | .logFailedCreate client =>
      some
        (s.listenAt (.closeFailed client),
          [.log (.text "failed to create client thread\n")])
  | .closeFailed client =>
      -- `continue`, and `conn_counter` stays as it is
      some ((s.tcpClose client).listenAt .testCounter, [])
  | .unlockRefused client =>
      some (s.unlock.listenAt (.closeRefused client), [])
  | .closeRefused client =>
      some ((s.tcpClose client).listenAt .lockLoop, [])
  | .lockLoop =>
      (s.lock .connmgrListen).map
        (fun s => (s.listenAt .testCounter, []))
  | .createExcess =>
      -- the result of this `pthread_create` is ignored
      if ok then
        some
          ({ s with
              excess := .checkStop
              listener := .testTerminations }, [])
      else
        some (s.listenAt .testTerminations, [])
  | .testTerminations =>
      if s.connTerminations < MAX_CONN then
        some (s.listenAt .condWait, [])
      else
        some (s.listenAt .unlockDone, [])
  | .condWait =>
      some (s.unlock.listenAt (.blocked false), [])
  | .blocked _ =>
      -- also without a wake-up: `pthread_cond_wait` may
      -- return spuriously
      some (s.listenAt .relock, [])
  | .relock =>
      (s.lock .connmgrListen).map
        (fun s => (s.listenAt .testTerminations, []))
  | .unlockDone =>
      some (s.unlock.listenAt .closeServer, [])
  | .closeServer =>
      -- `server` is not NULL here, so `tcp_close` succeeds
      some
        ({ s with
            server := s.server.close
            listener := .destroyMutex }, [])
  | .destroyMutex =>
      some
        ({ s with
            connMutex := s.connMutex.destroy
            listener := .destroyCond }, [])
  | .destroyCond => some (s.listenAt .setStop, [])
  | .setStop =>
      some
        ({ s with
            stopExcessHandler := true
            listener := .setStopAgain }, [])
  | .setStopAgain =>
      some
        ({ s with
            stopExcessHandler := true
            listener := .joinExcess }, [])
  | .joinExcess =>
      -- undefined if the thread was not created
      if s.excess = .terminated then
        some (s.listenAt .logShutdown, [])
      else
        none
  | .logShutdown =>
      some
        (s.listenAt .insertEndOfStream,
          [.log (.text "Test server is shutting down\n")])
  | .insertEndOfStream =>
      some
        (s.listenAt .returned,
          [.sbufferInsert .connmgrListen .endOfStream ok])
  | .returned => none
  | .exited => none

/-
  One step of `excess_client_handler`; `ok` is the outcome of
  `accept`. The server is read when the call is made, not
  while it blocks; on a freed socket, whose cookie was
  cleared, the call fails at once.
-/
def excessStep
    (MAX_CONN : Nat)
    (s : ConnMgr V TIMEOUT)
    (ok : Bool) :
    Option (ConnOutcome V TIMEOUT) :=
  match s.excess with
  | .notStarted => none
  | .checkStop =>
      if s.stopExcessHandler then
        some (s.excessAt .logTerminating, [])
      else
        some (s.excessAt .callAccept, [])
  | .callAccept =>
      if s.server.status = .opened then
        some
          ({ s with
              server := s.server.use
              excess := .inAccept }, [])
      else
        some
          ({ s with
              server := s.server.use
              excess := .closeStale }, [])
  | .inAccept =>
      if ok then
        some
          ({ s with
              accepted := s.accepted + 1
              excessClient := some s.accepted
              excess := .lockConn }, [])
      else
        some (s.excessAt .closeStale, [])
  | .closeStale =>
      match s.excessClient with
      | none => some (s.excessAt .checkStop, [])
      | some client =>
          some
            ({ s with
                closed := s.closed ++ [client]
                excessClient := none
                excess := .checkStop }, [])
  | .lockConn =>
      (s.lock .excessClientHandler).map
        (fun s => (s.excessAt .testCounter, []))
  | .testCounter =>
      if MAX_CONN ≤ s.connCounter then
        some (s.excessAt .logRejecting, [])
      else
        some (s.excessAt .unlockConn, [])
  | .logRejecting =>
      some
        (s.excessAt .closeRejected,
          [.log (.text "Rejecting excess client connection\n")])
  | .closeRejected =>
      match s.excessClient with
      | none => some (s.excessAt .logRejected, [])
      | some client =>
          some
            ({ s with
                closed := s.closed ++ [client]
                excessClient := none
                excess := .logRejected }, [])
  | .logRejected =>
      some
        (s.excessAt .unlockConn,
          [.log (.text "Closed excess client socket\n")])
  | .unlockConn =>
      some (s.unlock.excessAt .checkStop, [])
  | .logTerminating =>
      some
        (s.excessAt .terminated,
          [.log
            (.text "Excess client handler terminating\n")])
  | .terminated => none

namespace ConnMgr

/-
  The end of `conn_terminations++` by a handler that has read
  `terminations`, and the signal if all the admitted clients
  are counted now.
-/
def countTermination
    (s : ConnMgr V TIMEOUT)
    (terminations : Nat) :
    ConnMgr V TIMEOUT :=
  { s with
      connTerminations := terminations + 1
      listener :=
        if terminations + 1 = s.connCounter then
          s.listener.signal
        else
          s.listener }

/- What one effect of handler `i` does; `ok` is a `malloc`. -/
def perform
    (s : ConnMgr V TIMEOUT)
    (i : Nat)
    (t : HandlerThread V TIMEOUT)
    (ok : Bool) :
    HandlerEffect V → Option (ConnOutcome V TIMEOUT)
| .log msg => some (s, [.log msg])
| .sbufferInsert data =>
    some (s, [.sbufferInsert (.clientHandler i) data ok])
| .tcpClose => some (s.tcpClose t.client, [])
| .lockConn =>
    (s.lock (.clientHandler i)).map (fun s => (s, []))
| .countTermination =>
    t.loaded.map (fun n => (s.countTermination n, []))
| .unlockConn => some (s.unlock, [])

end ConnMgr

/-
  One step of handler `i`: the next of its effects, or the
  first half of a count.
-/
def handlerStep
    (s : ConnMgr V TIMEOUT)
    (i : Nat)
    (ok : Bool) :
    Option (ConnOutcome V TIMEOUT) :=
  match s.handlers[i]? with
  | none => none
  | some t =>
      match t.todo with
      | [] => none
      | e :: _ =>
          if e.isCount = true ∧ t.loaded = none then
            some
              ({ s with
                  handlers :=
                    s.handlers.set i
                      (t.load s.connTerminations) }, [])
          else
            (s.perform i t ok e).map
              (fun (s, effects) =>
                ({ s with
                    handlers := s.handlers.set i t.advance },
                  effects))

/- A step names its thread and the outcome of its call. -/
inductive ConnAction where
  | listener (ok : Bool) (input : HandlerInput)
  | excess (ok : Bool)
  | handler (i : Nat) (ok : Bool)

/- One step of one thread of the connection manager. -/
def connStep
    (MAX_CONN : Nat)
    (s : ConnMgr V TIMEOUT) :
    ConnAction → Option (ConnOutcome V TIMEOUT)
| .listener ok input => listenerStep MAX_CONN s ok input
| .excess ok => excessStep MAX_CONN s ok
| .handler i ok => handlerStep s i ok

/- The connection manager, from the start of the listener. -/
def connSystem
    (V : Type)
    [SensorValue V]
    (TIMEOUT : Int)
    (MAX_CONN : Nat) :
    System (ConnMgr V TIMEOUT) ConnAction where
  init := .start
  step := fun s a => (connStep MAX_CONN s a).map Prod.fst

------------------------------------------------------------
-- What One Step Does
------------------------------------------------------------

attribute [grind =] Option.map_eq_some_iff

/- A step of the system is a step of one of its threads. -/
theorem connSystem_step
    {MAX_CONN : Nat}
    {s t : ConnMgr V TIMEOUT}
    {a : ConnAction} :
    (connSystem V TIMEOUT MAX_CONN).step s a = some t ↔
      ∃ effects, connStep MAX_CONN s a = some (t, effects) := by
  unfold connSystem
  rw [Option.map_eq_some_iff]
  constructor
  · rintro ⟨⟨u, effects⟩, hStep, rfl⟩
    exact ⟨effects, hStep⟩
  · rintro ⟨effects, hStep⟩
    exact ⟨⟨t, effects⟩, hStep, rfl⟩

section ListenerSteps

variable {MAX_CONN : Nat}
variable {s t : ConnMgr V TIMEOUT}
variable {ok : Bool}
variable {input : HandlerInput}
variable {effects : List (ConnEffect V)}

/-
  The listener changes the counter and the list of handlers
  in three places: it counts a client, it starts the handler
  of the client that is counted, or it fails to do so.
-/
theorem listenerStep_counters
    (hStep :
      listenerStep MAX_CONN s ok input = some (t, effects)) :
    t.connTerminations = s.connTerminations ∧
      (((∀ client, s.listener ≠ .createHandler client) ∧
          t.connCounter = s.connCounter ∧
          t.handlers = s.handlers ∧
          t.listener.pending = s.listener.pending) ∨
        (s.connCounter < MAX_CONN ∧
          s.listener.pending = false ∧
          t.connCounter = s.connCounter + 1 ∧
          t.handlers = s.handlers ∧
          t.listener.pending = true) ∨
        (∃ client,
          s.listener = .createHandler client ∧
            ok = true ∧
            t.connCounter = s.connCounter ∧
            t.handlers =
              s.handlers ++ [.start client input] ∧
            t.listener.pending = false) ∨
        (∃ client,
          s.listener = .createHandler client ∧
            ok = false ∧
            t.connCounter = s.connCounter ∧
            t.handlers = s.handlers ∧
            t.listener.pending = false)) := by
  unfold listenerStep at hStep
  cases hPc : s.listener
  all_goals
    simp only [hPc] at hStep
    grind

/- It starts a handler, or it leaves the handlers alone. -/
theorem listenerStep_handlers
    (hStep :
      listenerStep MAX_CONN s ok input = some (t, effects)) :
    t.handlers = s.handlers ∨
      ∃ client,
        t.handlers =
          s.handlers ++ [.start client input] := by
  rcases (listenerStep_counters hStep).2 with
    hEq | hEq | ⟨client, hEq⟩ | ⟨_, hEq⟩
  · exact Or.inl hEq.2.2.1
  · exact Or.inl hEq.2.2.2.1
  · exact Or.inr ⟨client, hEq.2.2.2.1⟩
  · exact Or.inl hEq.2.2.2.1

/-
  The accept loop ends when enough clients are counted, and
  the wait ends when enough terminations are counted; after
  that, the listener starts no handler.
-/
theorem listenerStep_phases
    (hStep :
      listenerStep MAX_CONN s ok input = some (t, effects)) :
    (s.listener.pastAcceptLoop = true →
        t.listener.pastAcceptLoop = true ∧
          t.handlers = s.handlers) ∧
      (t.listener.pastAcceptLoop = true →
        s.listener.pastAcceptLoop = true ∨
          MAX_CONN ≤ s.connCounter) ∧
      (t.listener.pastWait = true →
        s.listener.pastWait = true ∨
          MAX_CONN ≤ s.connTerminations) := by
  unfold listenerStep at hStep
  cases hPc : s.listener
  all_goals
    simp only [hPc] at hStep
    grind

end ListenerSteps

/- The excess handler changes none of the counters. -/
theorem excessStep_counters
    {MAX_CONN : Nat}
    {s t : ConnMgr V TIMEOUT}
    {ok : Bool}
    {effects : List (ConnEffect V)}
    (hStep :
      excessStep MAX_CONN s ok = some (t, effects)) :
    t.connCounter = s.connCounter ∧
      t.connTerminations = s.connTerminations ∧
      t.listener = s.listener ∧
      t.handlers = s.handlers := by
  unfold excessStep at hStep
  cases hPc : s.excess
  all_goals
    simp only [hPc] at hStep
    grind

/-
  A handler reads the counter that it adds to, or it performs
  the next of its effects.
-/
theorem handlerStep_cases
    {s t : ConnMgr V TIMEOUT}
    {i : Nat}
    {ok : Bool}
    {effects : List (ConnEffect V)}
    (hStep : handlerStep s i ok = some (t, effects)) :
    (∃ h rest,
      s.handlers[i]? = some h ∧
        h.todo = .countTermination :: rest ∧
        h.loaded = none ∧
        effects = [] ∧
        t =
          { s with
              handlers :=
                s.handlers.set i
                  (h.load s.connTerminations) }) ∨
    (∃ h e rest u,
      s.handlers[i]? = some h ∧
        h.todo = e :: rest ∧
        s.perform i h ok e = some (u, effects) ∧
        t =
          { u with
              handlers := u.handlers.set i h.advance }) := by
  unfold handlerStep at hStep
  cases hHandler : s.handlers[i]? with
  | none =>
      rw [hHandler] at hStep
      cases hStep
  | some h =>
      rw [hHandler] at hStep
      cases hTodo : h.todo with
      | nil =>
          simp only [hTodo] at hStep
          cases hStep
      | cons e rest =>
          simp only [hTodo] at hStep
          split at hStep
          · rename_i hLoad
            cases hStep
            cases e with
            | countTermination =>
                exact Or.inl
                  ⟨h, rest, rfl, hTodo, hLoad.2, rfl, rfl⟩
            | _ => cases hLoad.1
          · rw [Option.map_eq_some_iff] at hStep
            rcases hStep with ⟨⟨u, effects'⟩, hPerform, hEq⟩
            rcases hEq with ⟨rfl, rfl⟩
            exact Or.inr
              ⟨h, e, rest, u, rfl, hTodo, hPerform, rfl⟩

/-
  Of the counters, an effect changes only its own: it writes
  back what the handler has read, and one more.
-/
theorem perform_counters
    {s u : ConnMgr V TIMEOUT}
    {i : Nat}
    {h : HandlerThread V TIMEOUT}
    {ok : Bool}
    {e : HandlerEffect V}
    {effects : List (ConnEffect V)}
    (hPerform : s.perform i h ok e = some (u, effects)) :
    u.handlers = s.handlers ∧
      u.connCounter = s.connCounter ∧
      ((e.isCount = false ∧
          u.connTerminations = s.connTerminations ∧
          u.listener = s.listener) ∨
        ∃ n,
          e = .countTermination ∧
            h.loaded = some n ∧
            u = s.countTermination n) ∧
      (u.listener = s.listener ∨
        u.listener = s.listener.signal) := by
  cases e
  all_goals
    simp only [ConnMgr.perform] at hPerform
    grind [ConnMgr.countTermination, HandlerEffect.isCount]

end SensorGateway
