import Mathlib.Data.List.Basic

/-
  Interleavings of sequences. An item carries the tag of the
  sequence that it comes from, and the items with one tag are
  that sequence, in order.

  Key definitions include:
    * `ofTag`
    * `IsInterleaving`

  Key theorems include:
    * `ofTag_append`
    * `IsInterleaving.filter_eq`
-/

------------------------------------------------------------
-- Tagged Items
------------------------------------------------------------

namespace Foundations

variable {ι α : Type}
variable [DecidableEq ι]

/- The items with a tag, in order. -/
def ofTag
    (i : ι)
    (tagged : List (ι × α)) :
    List α :=
  (tagged.filter (fun x => x.1 = i)).map Prod.snd

@[simp] theorem ofTag_append
    (i : ι)
    (xs ys : List (ι × α)) :
    ofTag i (xs ++ ys) = ofTag i xs ++ ofTag i ys := by
  simp [ofTag]

theorem ofTag_singleton
    (i j : ι)
    (a : α) :
    ofTag i [(j, a)] = if j = i then [a] else [] := by
  unfold ofTag
  by_cases hEq : j = i
  · simp [hEq]
  · simp [hEq]

/- A tag that no item carries has no items. -/
theorem ofTag_eq_nil
    {i : ι}
    {tagged : List (ι × α)}
    (hNone : ∀ x ∈ tagged, x.1 ≠ i) :
    ofTag i tagged = [] := by
  unfold ofTag
  rw [List.map_eq_nil_iff, List.filter_eq_nil_iff]
  intro x hx
  simpa using hNone x hx

------------------------------------------------------------
-- Interleavings
------------------------------------------------------------

/- The items can be tagged such that each tag has its list. -/
def IsInterleaving
    (f : ι → List α)
    (out : List α) : Prop :=
  ∃ tagged : List (ι × α),
    tagged.map Prod.snd = out ∧ ∀ i, ofTag i tagged = f i

namespace IsInterleaving

variable {f : ι → List α}
variable {out : List α}

/-
  If a property holds of the items of one sequence only, the
  items with the property are that sequence, in its order.
-/
theorem filter_eq
    (h : IsInterleaving f out)
    (p : α → Bool)
    (i : ι)
    (hOwn : ∀ a ∈ f i, p a = true)
    (hOther : ∀ j, j ≠ i → ∀ a ∈ f j, p a = false) :
    out.filter p = f i := by
  rcases h with ⟨tagged, rfl, hTags⟩
  have hSame :
      ∀ x ∈ tagged, p x.2 = decide (x.1 = i) := by
    intro x hx
    have hMem : x.2 ∈ f x.1 := by
      rw [← hTags x.1]
      exact List.mem_map.mpr
        ⟨x, List.mem_filter.mpr ⟨hx, by simp⟩, rfl⟩
    by_cases hEq : x.1 = i
    · rw [hEq] at hMem
      rw [hOwn x.2 hMem, hEq]
      exact (decide_eq_true rfl).symm
    · rw [hOther x.1 hEq x.2 hMem]
      exact (decide_eq_false hEq).symm
  rw [List.filter_map, ← hTags i, ofTag]
  congr 1
  exact List.filter_congr hSame

end IsInterleaving

end Foundations
