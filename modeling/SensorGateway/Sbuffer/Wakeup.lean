import SensorGateway.Foundations.Monitor
import SensorGateway.Sbuffer.Queue

/-
  The threads at the buffer: producers in `sbuffer_insert`
  and consumers in `sbuffer_remove`, who wait on `cond_var`
  while the buffer is empty.

  The code between `pthread_mutex_lock`, `pthread_cond_wait`
  and `pthread_mutex_unlock` is one step. A consumer that is
  signalled has to take its turn for the mutex like those who
  just arrive, and then looks at the buffer again.

  Key definitions include:
    * `ConsumerPc`
    * `condSignal`
    * `wakeupSystem`
    * `Wakeup.monitor`

  Key theorems include:
    * `condSignal_simulates`
    * `Wakeup.Covers.of_step`
    * `wakeupSystem_noLostWakeup`
-/

------------------------------------------------------------
-- Producers and Consumers
------------------------------------------------------------

namespace SensorGateway

open Foundations

variable {V : Type}

/- A producer outside of `sbuffer_insert`, or inside. -/
inductive ProducerPc (V : Type) where
  | outside
  | inserting (data : SensorData V)

/-
  A consumer outside of `sbuffer_remove`, at its start,
  unsignalled in `pthread_cond_wait`, or back from there and
  about to lock the mutex again.
-/
inductive ConsumerPc where
  | outside
  | entering
  | blocked
  | woken
deriving DecidableEq

namespace ConsumerPc

/- Inside of `sbuffer_remove`, and not blocked. -/
def active : ConsumerPc → Bool
| .entering => true
| .woken => true
| _ => false

def isBlocked : ConsumerPc → Bool
| .blocked => true
| _ => false

end ConsumerPc

structure Wakeup (V : Type) where
  buf : Sbuffer V
  fault : Option Fault
  producers : List (ProducerPc V)
  consumers : List ConsumerPc

/- All threads are outside, behind `sbuffer_init`. -/
def Wakeup.start
    (producers consumers : Nat) :
    Wakeup V where
  buf := Sbuffer.fresh
  fault := none
  producers := List.replicate producers .outside
  consumers := List.replicate consumers .outside

/-
  `pthread_cond_signal`. One of the threads that wait, which
  is `target`, wakes up; without any it has no effect.
-/
def condSignal
    (consumers : List ConsumerPc)
    (target : Nat) :
    Option (List ConsumerPc) :=
  if .blocked ∈ consumers then
    match consumers[target]? with
    | some .blocked => some (consumers.set target .woken)
    | _ => none
  else
    some consumers

/-
  The steps: the calls of the functions, what they do under
  the mutex, and the wake-ups that nobody signalled. The flag
  is the outcome of `malloc`.
-/
inductive WakeupLabel (V : Type) where
  | callInsert (producer : Nat) (data : SensorData V)
  | insert (producer : Nat) (mallocOk : Bool) (target : Nat)
  | callRemove (consumer : Nat)
  | remove (consumer : Nat) (data : SensorData V)
  | wake (consumer : Nat)

/- Behind a fault there are no steps. -/
def wakeupStep
    (s : Wakeup V)
    (l : WakeupLabel V) :
    Option (Wakeup V) :=
  if s.fault.isSome then
    none
  else
    match l with
    | .callInsert p data =>
        match s.producers[p]? with
        | some .outside =>
            some
              { s with
                  producers :=
                    s.producers.set p (.inserting data) }
        | _ => none
    | .insert p mallocOk target =>
        match s.producers[p]? with
        | some (.inserting data) =>
            match sbufferInsert s.buf data mallocOk with
            | .error f => some { s with fault := some f }
            | .ok (.success, buf) =>
                (condSignal s.consumers target).map
                  (fun consumers =>
                    { s with
                        buf := buf
                        producers :=
                          s.producers.set p .outside
                        consumers := consumers })
            | .ok (_, buf) =>
                -- it returns before the signal
                some
                  { s with
                      buf := buf
                      producers :=
                        s.producers.set p .outside }
        | _ => none
    | .callRemove c =>
        match s.consumers[c]? with
        | some .outside =>
            some
              { s with
                  consumers := s.consumers.set c .entering }
        | _ => none
    | .remove c data =>
        match s.consumers[c]? with
        | some pc =>
            if pc.active then
              match sbufferRemove s.buf data with
              | .error f => some { s with fault := some f }
              | .ok none =>
                  -- `pthread_cond_wait` unlocks the mutex
                  some
                    { s with
                        consumers :=
                          s.consumers.set c .blocked }
              | .ok (some (_, _, buf)) =>
                  some
                    { s with
                        buf := buf
                        consumers :=
                          s.consumers.set c .outside }
            else
              none
        | none => none
    | .wake c =>
        match s.consumers[c]? with
        | some .blocked =>
            some
              { s with
                  consumers := s.consumers.set c .woken }
        | _ => none

def wakeupSystem
    (V : Type)
    (producers consumers : Nat) :
    System (Wakeup V) (WakeupLabel V) where
  init := .start producers consumers
  step := wakeupStep

------------------------------------------------------------
-- The Monitor of the Buffer
------------------------------------------------------------

/- A buffer with so many records, and its consumers. -/
def monitorOf
    (records : Nat)
    (consumers : List ConsumerPc) :
    Monitor where
  tokens := records
  active := consumers.countP ConsumerPc.active
  blocked := consumers.countP ConsumerPc.isBlocked

section Simulation

variable {consumers consumers' : List ConsumerPc}
variable {c n : Nat}
variable {pc : ConsumerPc}

/-
  The consumers that a signal leaves, as a deposit of the
  monitor.
-/
theorem condSignal_simulates
    {target : Nat}
    (hSignal :
      condSignal consumers target = some consumers')
    (n : Nat) :
    Monitor.Step (monitorOf n consumers)
      (monitorOf (n + 1) consumers') := by
  unfold condSignal at hSignal
  unfold monitorOf
  split at hSignal
  · -- some consumer waits, and one of them is woken
    split at hSignal
    · rename_i hGet
      cases hSignal
      rw [countP_set_of_enter (p := ConsumerPc.active) hGet
          rfl rfl,
        ← countP_set_of_leave (p := ConsumerPc.isBlocked)
          (b := ConsumerPc.woken) hGet rfl rfl]
      exact .signal _ _ _
    · cases hSignal
  · -- nobody waits
    rename_i hNone
    cases hSignal
    have hZero :
        consumers.countP ConsumerPc.isBlocked = 0 := by
      rw [List.countP_eq_zero]
      intro pc hMem hBlocked
      cases pc with
      | blocked => exact hNone hMem
      | outside => cases hBlocked
      | entering => cases hBlocked
      | woken => cases hBlocked
    rw [hZero]
    exact .deposit _ _

/- A consumer calls `sbuffer_remove`. -/
theorem enter_simulates
    (hGet : consumers[c]? = some .outside) :
    Monitor.Step (monitorOf n consumers)
      (monitorOf n (consumers.set c .entering)) := by
  unfold monitorOf
  rw [countP_set_of_enter (p := ConsumerPc.active) hGet rfl
      rfl,
    countP_set_of_eq (p := ConsumerPc.isBlocked)
      (b := ConsumerPc.entering) hGet rfl]
  exact .enter _ _ _

/- A consumer that is active leaves with a record. -/
theorem take_simulates
    (hGet : consumers[c]? = some pc)
    (hActive : pc.active = true) :
    Monitor.Step (monitorOf (n + 1) consumers)
      (monitorOf n (consumers.set c .outside)) := by
  have hNot : pc.isBlocked = false := by
    cases pc with
    | blocked => cases hActive
    | outside => rfl
    | entering => rfl
    | woken => rfl
  unfold monitorOf
  rw [← countP_set_of_leave (p := ConsumerPc.active)
      (b := ConsumerPc.outside) hGet hActive rfl,
    countP_set_of_eq (p := ConsumerPc.isBlocked)
      (b := ConsumerPc.outside) hGet hNot.symm]
  exact .take _ _ _

/- A consumer that is active finds nothing, and waits. -/
theorem block_simulates
    (hGet : consumers[c]? = some pc)
    (hActive : pc.active = true) :
    Monitor.Step (monitorOf 0 consumers)
      (monitorOf 0 (consumers.set c .blocked)) := by
  have hNot : pc.isBlocked = false := by
    cases pc with
    | blocked => cases hActive
    | outside => rfl
    | entering => rfl
    | woken => rfl
  unfold monitorOf
  rw [← countP_set_of_leave (p := ConsumerPc.active)
      (b := ConsumerPc.blocked) hGet hActive rfl,
    countP_set_of_enter (p := ConsumerPc.isBlocked) hGet hNot
      rfl]
  exact .block _ _

/- A consumer stops waiting without a signal. -/
theorem wake_simulates
    (hGet : consumers[c]? = some .blocked) :
    Monitor.Step (monitorOf n consumers)
      (monitorOf n (consumers.set c .woken)) := by
  unfold monitorOf
  rw [countP_set_of_enter (p := ConsumerPc.active) hGet rfl
      rfl,
    ← countP_set_of_leave (p := ConsumerPc.isBlocked)
      (b := ConsumerPc.woken) hGet rfl rfl]
  exact .wake _ _ _

end Simulation

------------------------------------------------------------
-- No Wake-up is Lost
------------------------------------------------------------

namespace Wakeup

/- The buffer is intact, and its monitor is covered. -/
structure Covers
    (s : Wakeup V)
    (nodes : List (Nat × SensorData V)) : Prop where
  no_fault : s.fault = none
  represents : s.buf.Represents nodes
  covered : (monitorOf nodes.length s.consumers).Covered

namespace Covers

/- Nobody waits at the start. -/
theorem start
    (producers consumers : Nat) :
    (Wakeup.start producers consumers : Wakeup V).Covers
      [] where
  no_fault := rfl
  represents := Sbuffer.fresh_represents
  covered := by
    intro _
    exact Nat.zero_le _

variable {s t : Wakeup V}
variable {nodes : List (Nat × SensorData V)}
variable {l : WakeupLabel V}

/- A step of the consumers only. -/
theorem of_consumers
    (h : s.Covers nodes)
    {consumers : List ConsumerPc}
    (hStep :
      Monitor.Step (monitorOf nodes.length s.consumers)
        (monitorOf nodes.length consumers)) :
    Covers { s with consumers := consumers } nodes :=
  ⟨h.no_fault, h.represents, h.covered.of_step hStep⟩

/- Each step is one of the monitor, or it does not see it. -/
theorem of_step
    (h : s.Covers nodes)
    (hStep : wakeupStep s l = some t) :
    ∃ nodes', t.Covers nodes' := by
  have hGo : ¬ s.fault.isSome = true := by
    rw [h.no_fault]
    simp
  unfold wakeupStep at hStep
  rw [if_neg hGo] at hStep
  cases l with
  | callInsert p data =>
      simp only at hStep
      split at hStep
      · cases hStep
        exact ⟨nodes, h.no_fault, h.represents, h.covered⟩
      · cases hStep
  | insert p mallocOk target =>
      simp only at hStep
      split at hStep
      · rename_i data hGet
        cases mallocOk with
        | false =>
            simp only [
              sbufferInsert_of_malloc_failure h.represents,
              Option.some.injEq] at hStep
            subst hStep
            exact ⟨nodes, h.no_fault, h.represents, h.covered⟩
        | true =>
            rcases sbufferInsert_of_represents h.represents
                data with
              ⟨buf, hInsert, hRep, _⟩
            simp only [hInsert, Option.map_eq_some_iff]
              at hStep
            rcases hStep with ⟨consumers, hSignal, rfl⟩
            refine ⟨_, h.no_fault, hRep, ?_⟩
            rw [List.length_append, List.length_singleton]
            exact h.covered.of_step
              (condSignal_simulates hSignal _)
      · cases hStep
  | callRemove c =>
      simp only at hStep
      split at hStep
      · rename_i hGet
        cases hStep
        exact ⟨nodes, h.of_consumers (enter_simulates hGet)⟩
      · cases hStep
  | remove c data =>
      simp only at hStep
      split at hStep
      · rename_i pc hGet
        split at hStep
        · rename_i hActive
          cases nodes with
          | nil =>
              simp only [
                sbufferRemove_of_empty h.represents,
                Option.some.injEq] at hStep
              subst hStep
              exact ⟨[],
                h.of_consumers (block_simulates hGet hActive)⟩
          | cons node rest =>
              rcases node with ⟨a, x⟩
              simp only [
                sbufferRemove_of_represents h.represents,
                Option.some.injEq] at hStep
              subst hStep
              exact ⟨rest, h.no_fault, h.represents.drop,
                h.covered.of_step
                  (take_simulates hGet hActive)⟩
        · cases hStep
      · cases hStep
  | wake c =>
      simp only at hStep
      split at hStep
      · rename_i hGet
        cases hStep
        exact ⟨nodes, h.of_consumers (wake_simulates hGet)⟩
      · cases hStep

end Covers

/-
  While a consumer is blocked, there are at most as many
  records as consumers that will look at the buffer. So no
  record waits for a consumer that nobody wakes.
-/
structure NoLostWakeup
    (s : Wakeup V)
    (nodes : List (Nat × SensorData V)) : Prop where
  records_le :
    .blocked ∈ s.consumers →
      nodes.length ≤ s.consumers.countP ConsumerPc.active
  active_of_records :
    .blocked ∈ s.consumers → nodes ≠ [] →
      ∃ pc ∈ s.consumers, pc.active = true

theorem Covers.noLostWakeup
    {s : Wakeup V}
    {nodes : List (Nat × SensorData V)}
    (h : s.Covers nodes) :
    s.NoLostWakeup nodes := by
  have hBlocked :
      .blocked ∈ s.consumers →
        0 < (monitorOf nodes.length s.consumers).blocked := by
    intro hMem
    exact List.countP_pos_iff.mpr ⟨_, hMem, rfl⟩
  constructor
  · intro hMem
    exact h.covered (hBlocked hMem)
  · intro hMem hSome
    have hActive :=
      h.covered.active_pos (hBlocked hMem)
        (List.length_pos_of_ne_nil hSome)
    exact List.countP_pos_iff.mp hActive

end Wakeup

/-
  In every interleaving of any number of producers and of
  consumers, no wake-up of the buffer is lost.
-/
theorem wakeupSystem_noLostWakeup
    (producers consumers : Nat)
    (labels : List (WakeupLabel V))
    {s : Wakeup V}
    (hRun :
      (wakeupSystem V producers consumers).run labels =
        some s) :
    s.fault = none ∧
      ∃ nodes,
        s.buf.Represents nodes ∧ s.NoLostWakeup nodes := by
  have hCovers : ∃ nodes, s.Covers nodes := by
    refine System.invariant_of_step _
      (fun s => ∃ nodes, s.Covers nodes)
      ⟨[], Wakeup.Covers.start producers consumers⟩ ?_ hRun
    rintro s l t ⟨nodes, h⟩ hStep
    exact h.of_step hStep
  rcases hCovers with ⟨nodes, h⟩
  exact ⟨h.no_fault, nodes, h.represents, h.noLostWakeup⟩

/-
  Two consumers wait, one is signalled, and a newcomer takes
  the record before it.
-/
def overtaking : List (WakeupLabel (BitVec 64)) :=
  [.callRemove 0, .remove 0 ⟨0, 0, 0⟩,
    .callRemove 1, .remove 1 ⟨0, 0, 0⟩,
    .callInsert 0 ⟨1, 2, 3⟩, .callRemove 2,
    .insert 0 true 1, .remove 2 ⟨0, 0, 0⟩,
    .remove 1 ⟨0, 0, 0⟩]

theorem noLostWakeup_overtaking :
    ∃ s : Wakeup (BitVec 64),
      (wakeupSystem (BitVec 64) 1 3).run overtaking =
          some s ∧
        s.consumers = [.blocked, .blocked, .outside] ∧
        ∃ nodes, s.NoLostWakeup nodes := by
  have hRun := wakeupSystem_noLostWakeup (V := BitVec 64) 1 3
    overtaking rfl
  rcases hRun with ⟨_, nodes, _, h⟩
  exact ⟨_, rfl, rfl, nodes, h⟩

end SensorGateway
