import SensorGateway.Foundations.System

/-
  One system simulates another one: a step of the one is
  matched by some steps of the other one, which may be none.
  Whole runs are then matched, and a guard on the steps of
  the one is a guard on the steps that match them.

  A second rule is for systems that cannot run forever: where
  some steps make a measure smaller, and one of them can be
  taken until the end, there is no way but to the end.

  Key definitions include:
    * `System.Simulates`
    * `System.Settles`

  Key theorems include:
    * `System.Simulates.run`
    * `System.Settles.length_le`
    * `System.Settles.progress`
    * `System.reaches_of_decreasing`
    * `System.Settles.finishes`
-/

------------------------------------------------------------
-- Simulation
------------------------------------------------------------

namespace Foundations

namespace System

variable {σ τ α β : Type}

/-
  `N` simulates the allowed steps of `M` through a relation
  of their states. A step meets the guard `G` exactly if the
  steps that match it meet the guard `H`.
-/
structure Simulates
    (N : System τ β)
    (M : System σ α)
    (R : σ → τ → Prop)
    (Allowed G : σ → α → Prop)
    (H : τ → β → Prop) : Prop where
  init : R M.init N.init
  step :
    ∀ s u a t, R s u → Allowed s a → M.step s a = some t →
      ∃ bs v, N.runFrom u bs = some v ∧ R t v ∧
        (N.GuardedFrom H u bs ↔ G s a)

/- Runs of allowed steps are matched by runs. -/
theorem Simulates.run
    {N : System τ β}
    {M : System σ α}
    {R : σ → τ → Prop}
    {Allowed G : σ → α → Prop}
    {H : τ → β → Prop}
    (h : Simulates N M R Allowed G H)
    {as : List α}
    {s : σ}
    (hAllowed : M.Guarded Allowed as)
    (hRun : M.run as = some s) :
    ∃ bs u, N.run bs = some u ∧ R s u ∧
      (N.Guarded H bs ↔ M.Guarded G as) := by
  refine M.run_induction
    (fun as s =>
      M.Guarded Allowed as →
        ∃ bs u, N.run bs = some u ∧ R s u ∧
          (N.Guarded H bs ↔ M.Guarded G as))
    ?_ ?_ hRun hAllowed
  · intro _
    exact ⟨[], N.init, rfl, h.init, Iff.rfl⟩
  · intro as s a t hBefore ih hStep hAllowed
    rw [M.guarded_snoc Allowed hBefore a] at hAllowed
    rcases ih hAllowed.1 with ⟨bs, u, hRunN, hR, hGuard⟩
    rcases h.step s u a t hR hAllowed.2 hStep with
      ⟨more, v, hMore, hR', hHere⟩
    refine ⟨bs ++ more, v, ?_, hR', ?_⟩
    · exact (N.run_append bs more v).mpr ⟨u, hRunN, hMore⟩
    · rw [M.guarded_snoc G hBefore a, ← hGuard, ← hHere]
      have hRunN' : N.runFrom N.init bs = some u := hRunN
      unfold Guarded
      rw [N.guardedFrom_append, hRunN']
      simp

------------------------------------------------------------
-- Reaching an End
------------------------------------------------------------

/-
  If in every state of the invariant there is a step of some
  kind, within a guard, that keeps it and makes a measure
  smaller, such steps lead to the end.
-/
theorem reaches_of_decreasing
    {M : System σ α}
    {P Final : σ → Prop}
    {Inner : α → Prop}
    {G : σ → α → Prop}
    {measure : σ → Nat}
    (hNext :
      ∀ s, P s → ¬Final s →
        ∃ a t, Inner a ∧ G s a ∧ M.step s a = some t ∧
          P t ∧ measure t < measure s)
    {s : σ}
    (hP : P s) :
    ∃ as t,
      (∀ a ∈ as, Inner a) ∧ M.GuardedFrom G s as ∧
        M.runFrom s as = some t ∧ P t ∧ Final t := by
  induction hMeasure : measure s using Nat.strongRecOn
    generalizing s with
  | ind n ih =>
      by_cases hFinal : Final s
      · exact
          ⟨[], s, List.forall_mem_nil _, trivial, rfl, hP,
            hFinal⟩
      · rcases hNext s hP hFinal with
          ⟨a, t, hInner, hGuard, hStep, hPt, hLess⟩
        rcases ih (measure t) (hMeasure ▸ hLess) hPt rfl with
          ⟨as, u, hAll, hGuards, hRun, hPu, hEnd⟩
        refine ⟨a :: as, u, ?_, ⟨hGuard, ?_⟩, ?_, hPu, hEnd⟩
        · exact List.forall_mem_cons.mpr ⟨hInner, hAll⟩
        · intro t' hStep'
          rw [hStep] at hStep'
          cases hStep'
          exact hGuards
        · rw [runFrom, hStep]
          exact hRun

/-
  In the states of an invariant, the steps of some kind make
  the measure smaller, and before the end there is one.
-/
structure Settles
    (M : System σ α)
    (P : σ → Prop)
    (Inner : α → Prop)
    (Final : σ → Prop)
    (measure : σ → Nat) : Prop where
  keeps :
    ∀ s a t, P s → Inner a → M.step s a = some t → P t
  decreases :
    ∀ s a t, P s → Inner a → M.step s a = some t →
      measure t < measure s
  enabled :
    ∀ s, P s → ¬Final s →
      ∃ a t, Inner a ∧ M.step s a = some t

variable {M : System σ α}
variable {P Final : σ → Prop}
variable {Inner : α → Prop}
variable {measure : σ → Nat}

/- There are no more such steps than the measure says. -/
theorem Settles.length_le
    (h : Settles M P Inner Final measure)
    {as : List α}
    {s t : σ}
    (hP : P s)
    (hInner : ∀ a ∈ as, Inner a)
    (hRun : M.runFrom s as = some t) :
    P t ∧ as.length + measure t ≤ measure s := by
  induction as generalizing s with
  | nil =>
      have hEq : s = t := by
        simpa [runFrom] using hRun
      subst hEq
      exact ⟨hP, Nat.le_of_eq (Nat.zero_add _)⟩
  | cons a as ih =>
      rw [List.forall_mem_cons] at hInner
      rw [runFrom, Option.bind_eq_some_iff] at hRun
      rcases hRun with ⟨u, hStep, hRest⟩
      have hLess := h.decreases s a u hP hInner.1 hStep
      rcases ih (h.keeps s a u hP hInner.1 hStep) hInner.2
          hRest with
        ⟨hPt, hLength⟩
      refine ⟨hPt, ?_⟩
      rw [List.length_cons]
      omega

/-
  However such steps are taken, they are at the end, or one
  of them can be taken, and their number is limited.
-/
theorem Settles.progress
    (h : Settles M P Inner Final measure)
    {as : List α}
    {s t : σ}
    (hP : P s)
    (hInner : ∀ a ∈ as, Inner a)
    (hRun : M.runFrom s as = some t) :
    as.length ≤ measure s ∧
      (Final t ∨ ∃ a u, Inner a ∧ M.step t a = some u) := by
  rcases h.length_le hP hInner hRun with ⟨hPt, hLength⟩
  refine ⟨Nat.le_of_add_right_le hLength, ?_⟩
  by_cases hFinal : Final t
  · exact .inl hFinal
  · exact .inr (h.enabled t hPt hFinal)

/- From each state, such steps lead to the end. -/
theorem Settles.finishes
    (h : Settles M P Inner Final measure)
    {s : σ}
    (hP : P s) :
    ∃ as t,
      (∀ a ∈ as, Inner a) ∧ M.runFrom s as = some t ∧
        Final t := by
  have hNext :
      ∀ s, P s → ¬Final s →
        ∃ a t, Inner a ∧ True ∧ M.step s a = some t ∧ P t ∧
          measure t < measure s := by
    intro s hP hFinal
    rcases h.enabled s hP hFinal with ⟨a, t, hInner, hStep⟩
    exact ⟨a, t, hInner, trivial, hStep,
      h.keeps s a t hP hInner hStep,
      h.decreases s a t hP hInner hStep⟩
  rcases reaches_of_decreasing (G := fun _ _ => True) hNext
      hP with
    ⟨as, t, hAll, _, hRun, _, hFinal⟩
  exact ⟨as, t, hAll, hRun, hFinal⟩

end System

end Foundations
