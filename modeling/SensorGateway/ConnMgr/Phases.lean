import SensorGateway.ConnMgr.System

/-
  The listener as the owner of the shared objects: in every
  reachable state, its place alone tells whether the server
  is open, whether `conn_mutex` is destroyed and whether the
  excess handler was told to stop.

  Key definitions include:
    * `ListenerPc.serverStatus`
    * `ListenerPc.mutexDestroyed`
    * `ListenerPc.stopSet`
    * `ConnMgr.Phased`

  Key theorems include:
    * `connSystem_phased`
-/

------------------------------------------------------------
-- Places and Phases
------------------------------------------------------------

namespace SensorGateway

open Foundations

namespace ListenerPc

/- The server is open from `passiveOpen` to `closeServer`. -/
@[grind] def serverStatus : ListenerPc → SocketStatus
| .logStarted => .unopened
| .passiveOpen => .unopened
| .exited => .unopened
| .destroyMutex => .freed
| .destroyCond => .freed
| .setStop => .freed
| .setStopAgain => .freed
| .joinExcess => .freed
| .logShutdown => .freed
| .insertEndOfStream => .freed
| .returned => .freed
| _ => .opened

/- The mutex is destroyed right after the server is closed. -/
@[grind] def mutexDestroyed : ListenerPc → Bool
| .destroyCond => true
| .setStop => true
| .setStopAgain => true
| .joinExcess => true
| .logShutdown => true
| .insertEndOfStream => true
| .returned => true
| _ => false

/- The flag for the excess handler is set last of all. -/
@[grind] def stopSet : ListenerPc → Bool
| .setStopAgain => true
| .joinExcess => true
| .logShutdown => true
| .insertEndOfStream => true
| .returned => true
| _ => false

@[simp] theorem serverStatus_signal
    (pc : ListenerPc) :
    pc.signal.serverStatus = pc.serverStatus := by
  cases pc with
  | blocked woken => rfl
  | _ => rfl

@[simp] theorem mutexDestroyed_signal
    (pc : ListenerPc) :
    pc.signal.mutexDestroyed = pc.mutexDestroyed := by
  cases pc with
  | blocked woken => rfl
  | _ => rfl

@[simp] theorem stopSet_signal
    (pc : ListenerPc) :
    pc.signal.stopSet = pc.stopSet := by
  cases pc with
  | blocked woken => rfl
  | _ => rfl

/- The mutex is destroyed after the wait only. -/
theorem pastWait_of_mutexDestroyed
    {pc : ListenerPc}
    (hDestroyed : pc.mutexDestroyed = true) :
    pc.pastWait = true := by
  cases pc
  all_goals
    first
    | rfl
    | cases hDestroyed

end ListenerPc

namespace ServerSocket

@[simp, grind =] theorem status_use
    (server : ServerSocket) :
    server.use.status = server.status := by
  unfold use
  split
  · rfl
  · rfl

@[simp, grind =] theorem status_close
    (server : ServerSocket) :
    server.close.status = .freed := rfl

@[simp, grind =] theorem status_passiveOpen
    (server : ServerSocket) :
    server.passiveOpen.status = .opened := rfl

end ServerSocket

------------------------------------------------------------
-- The Phase Invariant
------------------------------------------------------------

variable {V : Type}
variable [SensorValue V]
variable {TIMEOUT : Int}
variable {MAX_CONN : Nat}

/- The shared objects are as the listener's place tells. -/
structure ConnMgr.Phased
    (s : ConnMgr V TIMEOUT) : Prop where
  server_eq : s.server.status = s.listener.serverStatus
  mutex_eq :
    s.connMutex.destroyed = s.listener.mutexDestroyed
  stop_eq : s.stopExcessHandler = s.listener.stopSet

attribute [grind →] Mutex.lock_destroyed
attribute [grind =] Mutex.unlock_destroyed

namespace ConnMgr.Phased

theorem of_listenerStep
    {s t : ConnMgr V TIMEOUT}
    {ok : Bool}
    {input : HandlerInput}
    {effects : List (ConnEffect V)}
    (h : s.Phased)
    (hStep :
      listenerStep MAX_CONN s ok input =
        some (t, effects)) :
    t.Phased := by
  rcases h with ⟨hServer, hMutex, hStop⟩
  unfold listenerStep at hStep
  cases hPc : s.listener
  all_goals
    simp only [hPc] at hStep hServer hMutex hStop
    constructor
    all_goals grind [Mutex.destroy]

end ConnMgr.Phased

/- The excess handler leaves the phase as it is. -/
theorem excessStep_shared
    {s t : ConnMgr V TIMEOUT}
    {ok : Bool}
    {effects : List (ConnEffect V)}
    (hStep :
      excessStep MAX_CONN s ok = some (t, effects)) :
    t.server.status = s.server.status ∧
      t.connMutex.destroyed = s.connMutex.destroyed ∧
      t.stopExcessHandler = s.stopExcessHandler := by
  unfold excessStep at hStep
  cases hPc : s.excess
  all_goals
    simp only [hPc] at hStep
    grind

/- So do the handlers; they do not use the server at all. -/
theorem perform_shared
    {s u : ConnMgr V TIMEOUT}
    {i : Nat}
    {h : HandlerThread V TIMEOUT}
    {ok : Bool}
    {e : HandlerEffect V}
    {effects : List (ConnEffect V)}
    (hPerform : s.perform i h ok e = some (u, effects)) :
    u.server = s.server ∧
      u.connMutex.destroyed = s.connMutex.destroyed ∧
      u.stopExcessHandler = s.stopExcessHandler ∧
      u.excess = s.excess := by
  cases e
  all_goals
    simp only [ConnMgr.perform] at hPerform
    grind [ConnMgr.countTermination]

/- The phase invariant holds in every reachable state. -/
theorem connSystem_phased
    {labels : List ConnAction}
    {s : ConnMgr V TIMEOUT}
    (hRun :
      (connSystem V TIMEOUT MAX_CONN).run labels =
        some s) :
    s.Phased := by
  refine System.invariant_of_step _ ConnMgr.Phased
    ⟨rfl, rfl, rfl⟩ ?_ hRun
  intro s a t h hStep
  rcases connSystem_step.mp hStep with ⟨effects, hStep⟩
  cases a with
  | listener ok input => exact h.of_listenerStep hStep
  | excess ok =>
      rcases excessStep_shared hStep with
        ⟨hServer, hMutex, hStop⟩
      have hListener := (excessStep_counters hStep).2.2.1
      constructor
      · rw [hServer, hListener]
        exact h.server_eq
      · rw [hMutex, hListener]
        exact h.mutex_eq
      · rw [hStop, hListener]
        exact h.stop_eq
  | handler i ok =>
      rcases handlerStep_cases hStep with
        ⟨handler, rest, _, _, _, _, rfl⟩ |
          ⟨handler, e, rest, u, _, _, hPerform, rfl⟩
      · exact ⟨h.server_eq, h.mutex_eq, h.stop_eq⟩
      · rcases perform_shared hPerform with
          ⟨hServer, hMutex, hStop, _⟩
        have hListener := (perform_counters hPerform).2.2.2
        constructor
        · simp only
          rw [hServer, h.server_eq]
          exact (ListenerPc.eq_of_signal _
            ListenerPc.serverStatus_signal hListener).symm
        · simp only
          rw [hMutex, h.mutex_eq]
          exact (ListenerPc.eq_of_signal _
            ListenerPc.mutexDestroyed_signal hListener).symm
        · simp only
          rw [hStop, h.stop_eq]
          exact (ListenerPc.eq_of_signal _
            ListenerPc.stopSet_signal hListener).symm

end SensorGateway
