import Mathlib.Data.Option.Basic

/-
  A mutex of the default kind: who has locked it, whether it
  is destroyed, and whether it was used after that.

  Threads that lock the mutex when they enter a section and
  unlock it when they leave are alone in their sections. If
  they only unlock it when they leave, its owner is in one.

  Key definitions include:
    * `Mutex`
    * `Mutex.lock`
    * `Mutex.unlock`
    * `Mutex.Excludes`
    * `Mutex.SectionStep`
    * `Mutex.OwnedInside`
    * `Mutex.HeldStep`

  Key theorems include:
    * `Mutex.SectionStep.owner_of_ne`
    * `Mutex.Excludes.eq_of_inside`
    * `Mutex.Excludes.of_stay`
    * `Mutex.Excludes.of_lock`
    * `Mutex.Excludes.of_unlock`
    * `Mutex.Excludes.of_step`
    * `Mutex.OwnedInside.of_step`
-/

------------------------------------------------------------
-- Mutexes
------------------------------------------------------------

namespace Foundations

/-
  A mutex for the threads `ι`. The mark `usedAfterDestroy`
  records that it was locked or unlocked when it was
  destroyed already; such a call has no other effect here.
-/
structure Mutex (ι : Type) where
  owner : Option ι
  destroyed : Bool
  usedAfterDestroy : Bool

namespace Mutex

variable {ι : Type}

/- A mutex that nobody has locked. -/
def unlocked : Mutex ι where
  owner := none
  destroyed := false
  usedAfterDestroy := false

/- A thread locks the mutex; it blocks if there is an owner. -/
def lock
    (m : Mutex ι)
    (t : ι) :
    Option (Mutex ι) :=
  if m.destroyed then
    some { m with usedAfterDestroy := true }
  else
    match m.owner with
    | none => some { m with owner := some t }
    | some _ => none

/- The mutex does not check who unlocks it. -/
def unlock
    (m : Mutex ι) :
    Mutex ι :=
  if m.destroyed then
    { m with usedAfterDestroy := true }
  else
    { m with owner := none }

/- The mutex is destroyed, whoever has locked it. -/
def destroy
    (m : Mutex ι) :
    Mutex ι :=
  { m with destroyed := true }

/- A lock that goes through on a mutex that still exists. -/
theorem lock_eq_some
    {m m' : Mutex ι}
    {t : ι}
    (hLock : m.lock t = some m')
    (hAlive : m.destroyed = false) :
    m.owner = none ∧ m' = { m with owner := some t } := by
  unfold lock at hLock
  cases hOwner : m.owner with
  | none =>
      simp only [hAlive, hOwner] at hLock
      rw [hAlive]
      exact ⟨rfl, (Option.some.inj hLock).symm⟩
  | some u =>
      simp [hAlive, hOwner] at hLock

@[simp] theorem lock_destroyed
    {m m' : Mutex ι}
    {t : ι}
    (hLock : m.lock t = some m') :
    m'.destroyed = m.destroyed := by
  cases hAlive : m.destroyed with
  | false =>
      rw [(lock_eq_some hLock hAlive).2, hAlive]
  | true =>
      simp only [lock, hAlive, if_true,
        Option.some.injEq] at hLock
      rw [← hLock]

theorem unlock_of_alive
    {m : Mutex ι}
    (hAlive : m.destroyed = false) :
    m.unlock = { m with owner := none } := by
  simp [unlock, hAlive]

@[simp] theorem unlock_destroyed
    (m : Mutex ι) :
    m.unlock.destroyed = m.destroyed := by
  unfold unlock
  split
  · rfl
  · rfl

/- No use marks the mutex while it exists. -/
theorem lock_usedAfterDestroy
    {m m' : Mutex ι}
    {t : ι}
    (hLock : m.lock t = some m')
    (hAlive : m.destroyed = false) :
    m'.usedAfterDestroy = m.usedAfterDestroy := by
  rw [(lock_eq_some hLock hAlive).2]

theorem unlock_usedAfterDestroy
    {m : Mutex ι}
    (hAlive : m.destroyed = false) :
    m.unlock.usedAfterDestroy = m.usedAfterDestroy := by
  rw [unlock_of_alive hAlive]

------------------------------------------------------------
-- Mutual Exclusion
------------------------------------------------------------

/-
  Until the mutex is destroyed, a thread inside of a section
  is its owner.
-/
def Excludes
    (m : Mutex ι)
    (inside : ι → Prop) : Prop :=
  m.destroyed = false →
    ∀ t, inside t → m.owner = some t

/-
  What a step of thread `t` may do to the mutex, where the
  flags tell whether `t` is inside of a section: leave both
  alone, lock the mutex, or leave the section and unlock it.
-/
def SectionStep
    (m m' : Mutex ι)
    (t : ι)
    (before after : Bool) : Prop :=
  (m' = m ∧ after = before) ∨
    m.lock t = some m' ∨
    (before = true ∧ after = false ∧ m' = m.unlock)

/- A step of one thread makes no other thread the owner. -/
theorem SectionStep.owner_of_ne
    {m m' : Mutex ι}
    {t u : ι}
    {before after : Bool}
    (hStep : SectionStep m m' t before after)
    (hNe : u ≠ t)
    (hOwner : m'.owner = some u) :
    m.owner = some u := by
  rcases hStep with ⟨hSame, _⟩ | hLock | ⟨_, _, hUnlock⟩
  · rw [← hSame]
    exact hOwner
  · cases hAlive : m.destroyed with
    | false =>
        rw [(lock_eq_some hLock hAlive).2] at hOwner
        exact absurd (Option.some.inj hOwner) hNe.symm
    | true =>
        simp only [lock, hAlive, if_true,
          Option.some.injEq] at hLock
        rw [← hLock] at hOwner
        exact hOwner
  · rw [hUnlock] at hOwner
    cases hAlive : m.destroyed with
    | false =>
        rw [unlock_of_alive hAlive] at hOwner
        cases hOwner
    | true =>
        simp only [unlock, hAlive, if_true] at hOwner
        exact hOwner

namespace Excludes

variable {m m' : Mutex ι}
variable {inside inside' : ι → Prop}

/- Two threads are not inside of sections together. -/
theorem eq_of_inside
    (h : m.Excludes inside)
    (hAlive : m.destroyed = false)
    {t u : ι}
    (hT : inside t)
    (hU : inside u) :
    t = u := by
  have hOwnerT := h hAlive t hT
  have hOwnerU := h hAlive u hU
  rw [hOwnerT] at hOwnerU
  exact Option.some.inj hOwnerU

/- Steps that do not enter a section. -/
theorem of_stay
    (h : m.Excludes inside)
    (hInside : ∀ t, inside' t → inside t) :
    m.Excludes inside' := by
  intro hAlive t hT
  exact h hAlive t (hInside t hT)

/- A thread that has locked the mutex enters a section. -/
theorem of_lock
    (h : m.Excludes inside)
    {t : ι}
    (hLock : m.lock t = some m')
    (hInside : ∀ u, u ≠ t → inside' u → inside u) :
    m'.Excludes inside' := by
  intro hAlive u hU
  rw [lock_destroyed hLock] at hAlive
  rcases lock_eq_some hLock hAlive with ⟨hFree, rfl⟩
  by_cases hEq : u = t
  · rw [hEq]
  · have hOwner := h hAlive u (hInside u hEq hU)
    rw [hFree] at hOwner
    cases hOwner

/- A thread inside of a section leaves it by the unlock. -/
theorem of_unlock
    (h : m.Excludes inside)
    {t : ι}
    (hT : inside t)
    (hLeft : ¬ inside' t)
    (hInside : ∀ u, inside' u → inside u) :
    m.unlock.Excludes inside' := by
  intro hAlive u hU
  rw [unlock_destroyed] at hAlive
  have hEq := h.eq_of_inside hAlive (hInside u hU) hT
  rw [hEq] at hU
  exact absurd hU hLeft

/- After the mutex is destroyed, nothing is promised. -/
theorem of_destroy :
    m.destroy.Excludes inside := by
  intro hAlive
  cases hAlive

/-
  A step keeps the exclusion, if it is a section step of one
  thread and lets the other threads into no section.
-/
theorem of_step
    (h : m.Excludes inside)
    {t : ι}
    {before after : Bool}
    (hStep : SectionStep m m' t before after)
    (hBefore : before = true → inside t)
    (hAfter : inside' t → after = true)
    (hOthers : ∀ u, u ≠ t → inside' u → inside u) :
    m'.Excludes inside' := by
  rcases hStep with
    ⟨hSame, hStay⟩ | hLock | ⟨hInside, hLeft, hUnlock⟩
  · rw [hSame]
    apply h.of_stay
    intro u hU
    by_cases hEq : u = t
    · rw [hEq] at hU ⊢
      exact hBefore (hStay ▸ hAfter hU)
    · exact hOthers u hEq hU
  · exact h.of_lock hLock hOthers
  · rw [hUnlock]
    apply h.of_unlock (hBefore hInside)
    · intro hStill
      rw [hAfter hStill] at hLeft
      cases hLeft
    · intro u hU
      by_cases hEq : u = t
      · rw [hEq]
        exact hBefore hInside
      · exact hOthers u hEq hU

end Excludes

------------------------------------------------------------
-- Owners That Can Leave
------------------------------------------------------------

/-
  Until the mutex is destroyed, its owner is inside of a
  section, and so on its way to an unlock.
-/
def OwnedInside
    (m : Mutex ι)
    (inside : ι → Prop) : Prop :=
  m.destroyed = false →
    ∀ t, m.owner = some t → inside t

/-
  What a step of thread `t` may do to the mutex, so that its
  owner stays inside: it does not leave a section without an
  unlock. It may enter one without a lock, and unlock what it
  has not locked.
-/
def HeldStep
    (m m' : Mutex ι)
    (t : ι)
    (before after : Bool) : Prop :=
  (m' = m ∧ (before = false ∨ after = true)) ∨
    (m.lock t = some m' ∧ after = true) ∨
    m' = m.unlock ∨ m' = m.destroy

/- Such a step keeps the owner inside. -/
theorem OwnedInside.of_step
    {m m' : Mutex ι}
    {inside inside' : ι → Prop}
    (h : m.OwnedInside inside)
    {t : ι}
    {before after : Bool}
    (hStep : HeldStep m m' t before after)
    (hBefore : inside t → before = true)
    (hAfter : after = true → inside' t)
    (hOthers : ∀ u, u ≠ t → inside u → inside' u) :
    m'.OwnedInside inside' := by
  intro hAlive u hOwner
  rcases hStep with
    ⟨hSame, hStay⟩ | ⟨hLock, hEntered⟩ | hUnlock | hDestroy
  · rw [hSame] at hAlive hOwner
    have hInside := h hAlive u hOwner
    by_cases hEq : u = t
    · rw [hEq] at hInside ⊢
      apply hAfter
      apply hStay.resolve_left
      rw [hBefore hInside]
      exact Bool.noConfusion
    · exact hOthers u hEq hInside
  · rw [lock_destroyed hLock] at hAlive
    rw [(lock_eq_some hLock hAlive).2] at hOwner
    rw [← Option.some.inj hOwner]
    exact hAfter hEntered
  · rw [hUnlock, unlock_destroyed] at hAlive
    rw [hUnlock, unlock_of_alive hAlive] at hOwner
    cases hOwner
  · rw [hDestroy] at hAlive
    cases hAlive

end Mutex

end Foundations
