import Mathlib.Data.List.Induction

/-
  Labelled transition systems with an executable partial
  step, their finite runs, and the induction rules that
  carry an invariant from one step to whole runs.

  Key definitions include:
    * `System`
    * `System.runFrom`
    * `System.run`
    * `System.Guarded`

  Key theorems include:
    * `System.runFrom_append`
    * `System.run_snoc`
    * `System.run_induction`
    * `System.invariant_from`
    * `System.invariant_of_step`
    * `System.invariant_of_guarded_step`
    * `System.always_iff_guarded`
-/

------------------------------------------------------------
-- Systems and Runs
------------------------------------------------------------

namespace Foundations

/-
  A system is an initial state and a partial step function
  on labels. A label that is not enabled has no successor.
-/
structure System (σ α : Type) where
  init : σ
  step : σ → α → Option σ

namespace System

variable {σ α : Type}

/- Take the labelled steps in order, if all are enabled. -/
def runFrom
    (M : System σ α)
    (s : σ) :
    List α → Option σ
| [] => some s
| a :: as => (M.step s a).bind (fun t => M.runFrom t as)

/- The run of a list of labels from the initial state. -/
def run
    (M : System σ α)
    (as : List α) :
    Option σ :=
  M.runFrom M.init as

/-
  Every step of the run from `s` meets the guard in the
  state in which it is taken.
-/
def GuardedFrom
    (M : System σ α)
    (G : σ → α → Prop)
    (s : σ) :
    List α → Prop
| [] => True
| a :: as =>
    G s a ∧
      ∀ t, M.step s a = some t → M.GuardedFrom G t as

/- Every step of the run of `as` meets the guard. -/
def Guarded
    (M : System σ α)
    (G : σ → α → Prop)
    (as : List α) : Prop :=
  M.GuardedFrom G M.init as

/- A run splits after any prefix of its labels. -/
theorem runFrom_append
    (M : System σ α)
    (s : σ)
    (as bs : List α) :
    M.runFrom s (as ++ bs) =
      (M.runFrom s as).bind (fun t => M.runFrom t bs) := by
  induction as generalizing s with
  | nil => rfl
  | cons a as ih =>
      simp only [List.cons_append, runFrom]
      cases M.step s a with
      | none => rfl
      | some t => simpa using ih t

/- The last step of a nonempty run. -/
theorem runFrom_snoc
    (M : System σ α)
    (s : σ)
    (as : List α)
    (a : α) :
    M.runFrom s (as ++ [a]) =
      (M.runFrom s as).bind (fun t => M.step t a) := by
  rw [runFrom_append]
  congr
  funext t
  simp [runFrom]

/- The last step of a nonempty run from the start. -/
theorem run_snoc
    (M : System σ α)
    (as : List α)
    (a : α)
    (s : σ) :
    M.run (as ++ [a]) = some s ↔
      ∃ t, M.run as = some t ∧ M.step t a = some s := by
  unfold run
  rw [runFrom_snoc, Option.bind_eq_some_iff]

/- A run continues a run. -/
theorem run_append
    (M : System σ α)
    (as bs : List α)
    (s : σ) :
    M.run (as ++ bs) = some s ↔
      ∃ t, M.run as = some t ∧
        M.runFrom t bs = some s := by
  unfold run
  rw [runFrom_append, Option.bind_eq_some_iff]

/- A guard on a run is a guard on each prefix and step. -/
theorem guardedFrom_append
    (M : System σ α)
    (G : σ → α → Prop)
    (s : σ)
    (as bs : List α) :
    M.GuardedFrom G s (as ++ bs) ↔
      M.GuardedFrom G s as ∧
        ∀ t, M.runFrom s as = some t →
          M.GuardedFrom G t bs := by
  induction as generalizing s with
  | nil => simp [GuardedFrom, runFrom]
  | cons a as ih =>
      simp only [List.cons_append, GuardedFrom, runFrom]
      cases hStep : M.step s a with
      | none => simp
      | some t =>
          simp only [Option.some.injEq, forall_eq',
            Option.bind_some, ih t]
          exact and_assoc.symm

/- A guard on a run, step by step. -/
theorem guardedFrom_iff
    (M : System σ α)
    (G : σ → α → Prop)
    (s : σ)
    (as : List α) :
    M.GuardedFrom G s as ↔
      ∀ before a after t,
        as = before ++ a :: after →
          M.runFrom s before = some t → G t a := by
  constructor
  · intro hGuard before a after t hSplit hRun
    subst hSplit
    have hRest :=
      ((M.guardedFrom_append G s before (a :: after)).mp
        hGuard).2 t hRun
    exact hRest.1
  · intro hAll
    induction as generalizing s with
    | nil => trivial
    | cons a as ih =>
        refine ⟨hAll [] a as s rfl rfl, ?_⟩
        intro t hStep
        apply ih t
        intro before b after u hSplit hRun
        apply hAll (a :: before) b after u
        · rw [hSplit]
          rfl
        · simpa [runFrom, hStep] using hRun

/- The guard on a run that is one step longer. -/
theorem guarded_snoc
    (M : System σ α)
    (G : σ → α → Prop)
    {as : List α}
    {s : σ}
    (hRun : M.run as = some s)
    (a : α) :
    M.Guarded G (as ++ [a]) ↔ M.Guarded G as ∧ G s a := by
  unfold Guarded run at *
  rw [guardedFrom_append, hRun]
  simp [GuardedFrom]

/- A guard that some labels meet in every state. -/
theorem guarded_of_forall
    (M : System σ α)
    (G : σ → α → Prop)
    {as : List α}
    (hAll : ∀ a ∈ as, ∀ s, G s a) :
    M.Guarded G as := by
  refine (M.guardedFrom_iff G M.init as).mpr ?_
  intro before a after t hSplit _
  apply hAll
  simp [hSplit]

/- Run the labels, checking the guard at every step. -/
def checkedRunFrom
    (M : System σ α)
    (G : σ → α → Prop)
    [∀ s a, Decidable (G s a)]
    (s : σ) :
    List α → Option σ
| [] => some s
| a :: as =>
    if G s a then
      (M.step s a).bind (fun t => M.checkedRunFrom G t as)
    else
      none

/- A checked run is a run that meets the guard. -/
theorem guardedFrom_of_checkedRunFrom
    (M : System σ α)
    (G : σ → α → Prop)
    [∀ s a, Decidable (G s a)]
    {s t : σ}
    {as : List α}
    (hRun : M.checkedRunFrom G s as = some t) :
    M.GuardedFrom G s as := by
  induction as generalizing s with
  | nil => trivial
  | cons a as ih =>
      rw [checkedRunFrom] at hRun
      split at hRun
      · rename_i hHere
        rw [Option.bind_eq_some_iff] at hRun
        rcases hRun with ⟨u, hStep, hRest⟩
        refine ⟨hHere, ?_⟩
        intro v hStep'
        rw [hStep] at hStep'
        cases hStep'
        exact ih hRest
      · cases hRun

end System

------------------------------------------------------------
-- Invariant Rules
------------------------------------------------------------

namespace System

variable {σ α : Type}

/-
  Induction over runs, for properties of the labels taken
  so far together with the state they lead to.
-/
theorem run_induction
    (M : System σ α)
    (P : List α → σ → Prop)
    (hInit : P [] M.init)
    (hStep :
      ∀ as s a t,
        M.run as = some s → P as s →
          M.step s a = some t → P (as ++ [a]) t)
    {as : List α}
    {s : σ}
    (hRun : M.run as = some s) :
    P as s := by
  induction as using List.reverseRecOn generalizing s with
  | nil =>
      have hEq : M.init = s := by
        simpa [run, runFrom] using hRun
      exact hEq ▸ hInit
  | append_singleton as a ih =>
      rcases (M.run_snoc as a s).mp hRun with
        ⟨t, hPrefix, hLast⟩
      exact hStep as t a s hPrefix (ih hPrefix) hLast

/- A property kept by every step holds all along a run. -/
theorem invariant_from
    (M : System σ α)
    (P : σ → Prop)
    (hStep : ∀ s a t, P s → M.step s a = some t → P t)
    {as : List α}
    {s t : σ}
    (hStart : P s)
    (hRun : M.runFrom s as = some t) :
    P t := by
  induction as generalizing s with
  | nil =>
      have hEq : s = t := by
        simpa [runFrom] using hRun
      exact hEq ▸ hStart
  | cons a as ih =>
      rw [runFrom, Option.bind_eq_some_iff] at hRun
      rcases hRun with ⟨u, hFirst, hRest⟩
      exact ih (hStep s a u hStart hFirst) hRest

/- The same rule for the runs from the initial state. -/
theorem invariant_of_step
    (M : System σ α)
    (P : σ → Prop)
    (hInit : P M.init)
    (hStep : ∀ s a t, P s → M.step s a = some t → P t)
    {as : List α}
    {s : σ}
    (hRun : M.run as = some s) :
    P s :=
  M.invariant_from P hStep hInit hRun

/-
  A property kept by every step that meets the guard holds
  after every run all of whose steps meet it.
-/
theorem invariant_of_guarded_step
    (M : System σ α)
    (G : σ → α → Prop)
    (P : σ → Prop)
    (hInit : P M.init)
    (hStep :
      ∀ as s a t,
        M.run as = some s → P s → G s a →
          M.step s a = some t → P t)
    {as : List α}
    {s : σ}
    (hGuard : M.Guarded G as)
    (hRun : M.run as = some s) :
    P s := by
  have hAll :
      M.Guarded G as → P s :=
    M.run_induction
      (fun as s => M.Guarded G as → P s)
      (fun _ => hInit)
      (by
        intro as s a t hPrefix ih hLast hGuard
        rcases (M.guarded_snoc G hPrefix a).mp hGuard with
          ⟨hBefore, hHere⟩
        exact hStep as s a t hPrefix (ih hBefore) hHere hLast)
      hRun
  exact hAll hGuard

/-
  A property holds in all states of a run exactly if all its
  steps meet the guard, where the steps that meet it keep an
  invariant with the property, and any other step leads to a
  state without the property.
-/
theorem always_iff_guarded
    (M : System σ α)
    (G : σ → α → Prop)
    (I P : σ → Prop)
    (hInit : I M.init)
    (hStep :
      ∀ as s a t,
        M.run as = some s → I s → G s a →
          M.step s a = some t → I t)
    (hHolds : ∀ as s, M.run as = some s → I s → P s)
    (hBreaks :
      ∀ as s a t,
        M.run as = some s → I s → ¬ G s a →
          M.step s a = some t → ¬ P t)
    {as : List α}
    {s : σ}
    (hRun : M.run as = some s) :
    (∀ before after t,
        as = before ++ after →
          M.run before = some t → P t) ↔
      M.Guarded G as := by
  constructor
  · refine M.run_induction
      (fun as _ =>
        (∀ before after t,
            as = before ++ after →
              M.run before = some t → P t) →
          M.Guarded G as)
      ?_ ?_ hRun
    · intro _
      trivial
    · intro as s a t hPrefix ih hLast hAll
      have hGuard : M.Guarded G as := by
        apply ih
        intro before after u hSplit hBefore
        apply hAll before (after ++ [a]) u _ hBefore
        rw [hSplit, List.append_assoc]
      rw [M.guarded_snoc G hPrefix a]
      refine ⟨hGuard, ?_⟩
      by_contra hNot
      have hInvariant : I s :=
        M.invariant_of_guarded_step G I hInit hStep hGuard
          hPrefix
      apply hBreaks as s a t hPrefix hInvariant hNot hLast
      apply hAll (as ++ [a]) [] t (by simp)
      exact (M.run_snoc as a t).mpr ⟨s, hPrefix, hLast⟩
  · intro hGuard before after t hSplit hBefore
    unfold Guarded at hGuard
    rw [hSplit] at hGuard
    have hGuardBefore :=
      ((M.guardedFrom_append G M.init before after).mp
        hGuard).1
    exact hHolds before t hBefore
      (M.invariant_of_guarded_step G I hInit hStep
        hGuardBefore hBefore)

end System

end Foundations
