import Mathlib.Data.List.ReduceOption
import SensorGateway.Foundations.Interleaving
import SensorGateway.Foundations.Population

/-
  Items that are dealt out to workers. A worker takes an item
  into its empty hand, and finishes it later. Different
  workers may finish in any order.

  Each item is finished exactly once, or still in a hand, and
  each worker finishes its items in the order of the deal.

  Key definitions include:
    * `Dealing`
    * `Dealing.Step`
    * `Dealing.Balanced`

  Key theorems include:
    * `Dealing.Balanced.of_step`
    * `Dealing.Balanced.perm_of_empty`
    * `Dealing.Balanced.sublist`
-/

------------------------------------------------------------
-- Dealings
------------------------------------------------------------

namespace Foundations

/-
  The items that were taken, in order, the hands of the
  workers, and the finished items with their workers.
-/
structure Dealing (α : Type) where
  dealt : List α
  hands : List (Option α)
  done : List (Nat × α)

namespace Dealing

variable {α : Type}

inductive Step : Dealing α → Dealing α → Prop where
  | take
      {d : Dealing α}
      {i : Nat}
      (x : α)
      (hEmpty : d.hands[i]? = some none) :
      Step d
        ⟨d.dealt ++ [x], d.hands.set i (some x), d.done⟩
  | finish
      {d : Dealing α}
      {i : Nat}
      {x : α}
      (hHand : d.hands[i]? = some (some x)) :
      Step d
        ⟨d.dealt, d.hands.set i none, d.done ++ [(i, x)]⟩

/- The item in a worker's hand, if there is one. -/
def inHand
    (d : Dealing α)
    (i : Nat) :
    List α :=
  d.hands[i]?.join.toList

/-
  The finished items and those in hands are the dealt ones,
  and each worker has its own in the order of the deal.
-/
structure Balanced
    (d : Dealing α) : Prop where
  perm :
    (d.done.map Prod.snd ++ d.hands.reduceOption).Perm
      d.dealt
  order :
    ∀ i, (ofTag i d.done ++ d.inHand i).Sublist d.dealt

namespace Balanced

variable {d d' : Dealing α}

/- At the start, all hands are empty. -/
theorem start
    {hands : List (Option α)}
    (hEmpty : ∀ x ∈ hands, x = none) :
    (⟨[], hands, []⟩ : Dealing α).Balanced where
  perm := by
    have hNone : hands.reduceOption = [] := by
      apply List.filterMap_eq_nil_iff.mpr
      intro x hMem
      exact hEmpty x hMem
    simp [hNone]
  order := by
    intro i
    have hNone : hands[i]?.join = none := by
      cases hGet : hands[i]? with
      | none => rfl
      | some x =>
          exact hEmpty x (List.mem_of_getElem? hGet)
    simp [ofTag, inHand, hNone]

/- The hand of the worker that moves, and of another one. -/
theorem inHand_set_self
    {hands : List (Option α)}
    {i : Nat}
    {x : Option α}
    (hGet : hands[i]? = some x)
    (y : Option α)
    (dealt : List α)
    (done : List (Nat × α)) :
    inHand ⟨dealt, hands.set i y, done⟩ i = y.toList := by
  rcases List.getElem?_eq_some_iff.mp hGet with ⟨hLt, _⟩
  unfold inHand
  rw [List.getElem?_set_self hLt]
  rfl

theorem inHand_set_of_ne
    {hands : List (Option α)}
    {i j : Nat}
    (hNe : i ≠ j)
    (y : Option α)
    (dealt : List α)
    (done : List (Nat × α)) :
    inHand ⟨dealt, hands.set i y, done⟩ j =
      inHand ⟨dealt, hands, done⟩ j := by
  unfold inHand
  rw [List.getElem?_set_ne hNe]

theorem of_step
    (h : d.Balanced)
    (hStep : Step d d') :
    d'.Balanced := by
  rcases d with ⟨dealt, hands, done⟩
  cases hStep with
  | take x hEmpty =>
      rename_i i
      have hPerm :
          ((hands.set i (some x)).reduceOption ++ []).Perm
            (hands.reduceOption ++ [x]) :=
        filterMap_set_perm id hEmpty
      rw [List.append_nil] at hPerm
      constructor
      · -- the item joins the hands and the dealt ones
        have hBefore := h.perm.append_right [x]
        rw [List.append_assoc] at hBefore
        exact (hPerm.append_left _).trans hBefore
      · intro j
        have hOrder := h.order j
        by_cases hEq : i = j
        · subst hEq
          rw [inHand_set_self hEmpty]
          have hHand :
              inHand ⟨dealt, hands, done⟩ i = [] := by
            unfold inHand
            rw [hEmpty]
            rfl
          rw [hHand, List.append_nil] at hOrder
          exact hOrder.append (List.Sublist.refl _)
        · rw [inHand_set_of_ne hEq]
          exact hOrder.trans (List.sublist_append_left _ _)
  | finish hHand =>
      rename_i i x
      have hPerm :
          ((hands.set i none).reduceOption ++ [x]).Perm
            (hands.reduceOption ++ []) :=
        filterMap_set_perm id hHand
      rw [List.append_nil] at hPerm
      constructor
      · -- the item goes from its hand to the finished ones
        refine List.Perm.trans ?_ h.perm
        rw [List.map_append, List.append_assoc]
        exact
          (List.perm_append_comm.trans hPerm).append_left _
      · intro j
        have hOrder := h.order j
        rw [ofTag_append, ofTag_singleton]
        by_cases hEq : i = j
        · subst hEq
          rw [inHand_set_self hHand, if_pos rfl]
          have hItem :
              inHand ⟨dealt, hands, done⟩ i = [x] := by
            unfold inHand
            rw [hHand]
            rfl
          rw [hItem] at hOrder
          simpa using hOrder
        · rw [inHand_set_of_ne hEq, if_neg hEq,
            List.append_nil]
          exact hOrder

/- With empty hands, the finished items are the dealt ones. -/
theorem perm_of_empty
    (h : d.Balanced)
    (hEmpty : ∀ x ∈ d.hands, x = none) :
    (d.done.map Prod.snd).Perm d.dealt := by
  have hPerm := h.perm
  have hNone : d.hands.reduceOption = [] :=
    List.filterMap_eq_nil_iff.mpr hEmpty
  rw [hNone, List.append_nil] at hPerm
  exact hPerm

/- A worker finishes its items in the order of the deal. -/
theorem sublist
    (h : d.Balanced)
    (i : Nat) :
    (ofTag i d.done).Sublist d.dealt :=
  (List.sublist_append_left _ _).trans (h.order i)

end Balanced

end Dealing

end Foundations
