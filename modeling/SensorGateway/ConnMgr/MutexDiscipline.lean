import SensorGateway.ConnMgr.Sections

/-
  How `connmgr_listen` uses `conn_mutex`.

  It keeps to the rules of a mutex exactly as long as it does
  not take one of the `continue`s of its accept loop: these
  lead back to the loop condition, and from there to an
  unlock, without the lock that the normal path makes.

  Key definitions include:
    * `ListenerPc.needsMutex`
    * `ListenerPc.locksMutex`
    * `ConnMgr.MutexDiscipline`
    * `NoContinue`

  Key theorems include:
    * `listenerStep_owned`
    * `connSystem_mutexDiscipline_iff`
    * `mutexDiscipline_broken`
-/

------------------------------------------------------------
-- The Discipline
------------------------------------------------------------

namespace SensorGateway

open Foundations

namespace ListenerPc

/-
  The listener evaluates a condition that `conn_mutex`
  protects, unlocks it, or calls `pthread_cond_wait`.
-/
@[grind] def needsMutex : ListenerPc → Bool
| .testCounter => true
| .testTerminations => true
| .unlockLoop => true
| .unlockAdmitted _ => true
| .unlockRefused _ => true
| .unlockDone => true
| .condWait => true
| _ => false

/- The listener locks `conn_mutex`. -/
@[grind] def locksMutex : ListenerPc → Bool
| .lockFirst => true
| .lockAdmit _ => true
| .lockLoop => true
| .relock => true
| _ => false

/- The mutex is needed inside of the sections only. -/
theorem inSection_of_needsMutex
    {pc : ListenerPc}
    (hNeeds : pc.needsMutex = true) :
    pc.inSection = true ∧ pc.mutexDestroyed = false := by
  cases pc
  all_goals
    first
    | exact ⟨rfl, rfl⟩
    | cases hNeeds

/- It is locked outside of them. -/
theorem not_inSection_of_locksMutex
    {pc : ListenerPc}
    (hLocks : pc.locksMutex = true) :
    pc.inSection = false := by
  cases pc
  all_goals
    first
    | rfl
    | cases hLocks

/- So are the `continue`s. -/
theorem not_inSection_of_continues
    {pc : ListenerPc}
    (hContinues : pc.continues = true) :
    pc.inSection = false := by
  cases pc
  all_goals
    first
    | rfl
    | cases hContinues

end ListenerPc

variable {V : Type}
variable [SensorValue V]
variable {TIMEOUT : Int}
variable {MAX_CONN : Nat}

/-
  The listener holds `conn_mutex` where it needs it, and does
  not hold it where it locks it.
-/
structure ConnMgr.MutexDiscipline
    (s : ConnMgr V TIMEOUT) : Prop where
  held :
    s.listener.needsMutex = true →
      s.connMutex.owner = some .connmgrListen
  free :
    s.listener.locksMutex = true →
      s.connMutex.owner ≠ some .connmgrListen

/- The step is not a `continue` of the accept loop. -/
def NoContinue
    (s : ConnMgr V TIMEOUT)
    (a : ConnAction) : Prop :=
  s.listener.continues = true →
    ∀ ok input, a ≠ .listener ok input

------------------------------------------------------------
-- The Owner of the Mutex
------------------------------------------------------------

/-
  Each thread is alone in its sections, and the listener is
  in one if it owns the mutex.
-/
structure ConnMgr.Disciplined
    (s : ConnMgr V TIMEOUT) : Prop where
  excludes : s.connMutex.Excludes s.inside
  owned :
    s.connMutex.owner = some .connmgrListen →
      s.listener.inSection = true

/- The listener enters its sections when it gets the mutex. -/
theorem listenerStep_owned
    {s t : ConnMgr V TIMEOUT}
    {ok : Bool}
    {input : HandlerInput}
    {effects : List (ConnEffect V)}
    (hOwned :
      s.connMutex.owner = some .connmgrListen →
        s.listener.inSection = true)
    (hAlive :
      s.connMutex.destroyed = s.listener.mutexDestroyed)
    (hStep :
      listenerStep MAX_CONN s ok input =
        some (t, effects)) :
    t.connMutex.owner = some .connmgrListen →
      t.listener.inSection = true := by
  unfold listenerStep at hStep
  cases hPc : s.listener
  all_goals
    simp only [hPc, ListenerPc.inSection,
      ListenerPc.mutexDestroyed] at hStep hOwned hAlive
    grind [Mutex.lock_eq_some, Mutex.unlock, Mutex.destroy]

/- A `continue` leads to the loop condition and no further. -/
theorem listenerStep_of_continues
    {s t : ConnMgr V TIMEOUT}
    {ok : Bool}
    {input : HandlerInput}
    {effects : List (ConnEffect V)}
    (hContinues : s.listener.continues = true)
    (hStep :
      listenerStep MAX_CONN s ok input =
        some (t, effects)) :
    t.listener = .testCounter ∧
      t.connMutex = s.connMutex := by
  unfold listenerStep at hStep
  cases hPc : s.listener
  all_goals
    simp only [hPc] at hStep hContinues
    grind

namespace ConnMgr.Disciplined

/- Who is not in a section does not own the mutex. -/
theorem not_owned
    {s : ConnMgr V TIMEOUT}
    (h : s.Disciplined)
    (hOutside : s.listener.inSection = false) :
    s.connMutex.owner ≠ some .connmgrListen := by
  intro hOwner
  rw [h.owned hOwner] at hOutside
  cases hOutside

theorem mutexDiscipline
    {s : ConnMgr V TIMEOUT}
    (h : s.Disciplined)
    (hPhased : s.Phased) :
    s.MutexDiscipline := by
  constructor
  · intro hNeeds
    rcases ListenerPc.inSection_of_needsMutex hNeeds with
      ⟨hSection, hAlive⟩
    apply h.excludes
    · rw [hPhased.mutex_eq]
      exact hAlive
    · exact hSection
  · intro hLocks
    exact h.not_owned
      (ListenerPc.not_inSection_of_locksMutex hLocks)

theorem of_connStep
    {s t : ConnMgr V TIMEOUT}
    {a : ConnAction}
    {effects : List (ConnEffect V)}
    (h : s.Disciplined)
    (hPhased : s.Phased)
    (hGuard : NoContinue s a)
    (hStep : connStep MAX_CONN s a = some (t, effects)) :
    t.Disciplined := by
  cases a with
  | listener ok input =>
      have hLoop : s.listener.continues = false := by
        by_contra hNot
        rw [Bool.not_eq_false] at hNot
        exact hGuard hNot ok input rfl
      exact
        ⟨excludes_of_listenerStep h.excludes hLoop hStep,
          listenerStep_owned h.owned hPhased.mutex_eq hStep⟩
  | excess ok =>
      refine
        ⟨excludes_of_excessStep h.excludes hStep, ?_⟩
      rw [(excessStep_counters hStep).2.2.1]
      intro hOwner
      apply h.owned
      exact (excessStep_mutex hStep).owner_of_ne
        (by simp) hOwner
  | handler i ok =>
      refine
        ⟨excludes_of_handlerStep h.excludes hStep, ?_⟩
      rcases handlerStep_cases hStep with
        ⟨handler, rest, _, _, _, _, rfl⟩ |
          ⟨handler, e, rest, u, _, hTodo, hPerform, rfl⟩
      · exact h.owned
      · intro hOwner
        have hSection := perform_mutex hTodo hPerform
        have hBefore :=
          h.owned (hSection.owner_of_ne (by simp) hOwner)
        simp only
        rw [ListenerPc.eq_of_signal _
          ListenerPc.inSection_signal
          (perform_counters hPerform).2.2.2]
        exact hBefore

end ConnMgr.Disciplined

------------------------------------------------------------
-- Runs
------------------------------------------------------------

/-
  In a run, the listener keeps to the discipline in every
  state on the way exactly if it never takes a `continue`.
-/
theorem connSystem_mutexDiscipline_iff
    {labels : List ConnAction}
    {s : ConnMgr V TIMEOUT}
    (hRun :
      (connSystem V TIMEOUT MAX_CONN).run labels =
        some s) :
    (∀ before after t,
        labels = before ++ after →
          (connSystem V TIMEOUT MAX_CONN).run before =
              some t →
            t.MutexDiscipline) ↔
      (connSystem V TIMEOUT MAX_CONN).Guarded NoContinue
        labels := by
  refine System.always_iff_guarded _ NoContinue
    ConnMgr.Disciplined _ ?_ ?_ ?_ ?_ hRun
  · refine ⟨ConnMgr.excludes_start, ?_⟩
    intro hOwner
    cases hOwner
  · intro before s a t hBefore h hGuard hStep
    rcases connSystem_step.mp hStep with ⟨effects, hStep⟩
    exact h.of_connStep (connSystem_phased hBefore) hGuard
      hStep
  · intro before s hBefore h
    exact h.mutexDiscipline (connSystem_phased hBefore)
  · intro before s a t _ h hContinue hStep hDiscipline
    -- behind the `continue`, the condition is evaluated
    -- without the mutex
    simp only [NoContinue, not_forall, ne_eq,
      not_not] at hContinue
    rcases hContinue with ⟨hPc, ok, input, rfl⟩
    rcases connSystem_step.mp hStep with ⟨effects, hStep⟩
    rcases listenerStep_of_continues hPc hStep with
      ⟨hTest, hMutex⟩
    have hOwner := hDiscipline.held (by
      rw [hTest]
      rfl)
    rw [hMutex] at hOwner
    exact h.not_owned
      (ListenerPc.not_inSection_of_continues hPc) hOwner

/- The listener whose first `accept` succeeds or not. -/
def firstAccept
    (accepted : Bool) :
    List ConnAction :=
  List.replicate 5 (.listener true .silent) ++
    [.listener accepted .silent, .listener true .silent]

/- A first `accept` that succeeds. -/
theorem mutexDiscipline_first_accept :
    ∃ s : ConnMgr (BitVec 64) 5,
      (connSystem (BitVec 64) 5 1).run (firstAccept true) =
          some s ∧
        ((∀ before after t,
            firstAccept true = before ++ after →
              (connSystem (BitVec 64) 5 1).run before =
                  some t →
                t.MutexDiscipline) ↔
          (connSystem (BitVec 64) 5 1).Guarded NoContinue
            (firstAccept true)) :=
  ⟨_, rfl, connSystem_mutexDiscipline_iff rfl⟩

/-
  A first `accept` that fails: the loop condition is
  evaluated without the mutex.
-/
theorem mutexDiscipline_broken :
    ¬ ∀ (MAX_CONN : Nat)
        (labels : List ConnAction)
        (s : ConnMgr (BitVec 64) 5),
          (connSystem (BitVec 64) 5 MAX_CONN).run labels =
              some s →
            s.MutexDiscipline := by
  intro hAll
  have hDiscipline := hAll 1 (firstAccept false) _ rfl
  have hOwner := hDiscipline.held rfl
  cases hOwner

end SensorGateway
