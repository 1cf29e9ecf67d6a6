import Mathlib.Data.List.Count
import Mathlib.Data.List.Forall2

/-
  A population of threads, kept as a list in which one thread
  at a time moves on, and how many of its threads have a
  property.

  Key theorems include:
    * `countP_set_add`
    * `countP_set_of_eq`
    * `countP_set_of_leave`
    * `countP_eq_add`
    * `map_set_of_eq`
    * `filterMap_set_perm`
    * `getElem?_append_of_eq_some`
    * `forall₂_set`
    * `forall₂_getElem?`
-/

------------------------------------------------------------
-- Counting
------------------------------------------------------------

namespace Foundations

variable {α β : Type}
variable {l : List α}
variable {i : Nat}
variable {a b : α}

/- One thread moves from `a` to `b`. -/
theorem countP_set_add
    (p : α → Bool)
    (hGet : l[i]? = some a) :
    (l.set i b).countP p + (p a).toNat =
      l.countP p + (p b).toNat := by
  induction l generalizing i with
  | nil => cases hGet
  | cons x l ih =>
      cases i with
      | zero =>
          rw [List.getElem?_cons_zero, Option.some.injEq]
            at hGet
          subst hGet
          rw [List.set_cons_zero, List.countP_cons,
            List.countP_cons]
          have hToNat :
              ∀ y, (if p y = true then 1 else 0) =
                (p y).toNat := by
            intro y
            cases p y with
            | false => rfl
            | true => rfl
          rw [hToNat, hToNat]
          omega
      | succ i =>
          rw [List.getElem?_cons_succ] at hGet
          rw [List.set_cons_succ, List.countP_cons,
            List.countP_cons]
          have hRest := ih hGet
          omega

/- A move that does not concern the property. -/
theorem countP_set_of_eq
    {p : α → Bool}
    (hGet : l[i]? = some a)
    (hEq : p b = p a) :
    (l.set i b).countP p = l.countP p := by
  have hAdd := countP_set_add (b := b) p hGet
  rw [hEq] at hAdd
  omega

/- A move out of the property. -/
theorem countP_set_of_leave
    {p : α → Bool}
    (hGet : l[i]? = some a)
    (hBefore : p a = true)
    (hAfter : p b = false) :
    (l.set i b).countP p + 1 = l.countP p := by
  have hAdd := countP_set_add (b := b) p hGet
  rw [hBefore, hAfter] at hAdd
  exact hAdd

/- A move into the property. -/
theorem countP_set_of_enter
    {p : α → Bool}
    (hGet : l[i]? = some a)
    (hBefore : p a = false)
    (hAfter : p b = true) :
    (l.set i b).countP p = l.countP p + 1 := by
  have hAdd := countP_set_add (b := b) p hGet
  rw [hBefore, hAfter] at hAdd
  exact hAdd

/- Two properties that divide a third one between them. -/
theorem countP_eq_add
    {p q r : α → Bool}
    (hSplit :
      ∀ a ∈ l, (p a).toNat = (q a).toNat + (r a).toNat) :
    l.countP p = l.countP q + l.countP r := by
  induction l with
  | nil => rfl
  | cons x l ih =>
      have hHead := hSplit x List.mem_cons_self
      have hRest :=
        ih (fun a hMem =>
          hSplit a (List.mem_cons_of_mem x hMem))
      have hToNat :
          ∀ b : Bool, (if b = true then 1 else 0) = b.toNat := by
        intro b
        cases b with
        | false => rfl
        | true => rfl
      simp only [List.countP_cons, hToNat]
      omega

/- A move that an observation does not see. -/
theorem map_set_of_eq
    {f : α → β}
    (hGet : l[i]? = some a)
    (hEq : f b = f a) :
    (l.set i b).map f = l.map f := by
  have hMap : (l.map f)[i]? = some (f a) := by
    rw [List.getElem?_map, hGet]
    rfl
  rcases List.getElem?_eq_some_iff.mp hMap with ⟨hLt, hGet'⟩
  rw [List.map_set, hEq, ← hGet', List.set_getElem_self]

/- A thread that holds the same as before changes nothing. -/
theorem filterMap_set_of_eq
    {f : α → Option β}
    (hGet : l[i]? = some a)
    (hEq : f b = f a) :
    (l.set i b).filterMap f = l.filterMap f := by
  have hMap : ∀ l : List α, l.filterMap f = (l.map f).filterMap id := by
    intro l
    rw [List.filterMap_map]
    rfl
  rw [hMap, hMap, map_set_of_eq hGet hEq]

/-
  What the threads hold, when one of them moves on. The order
  of what they hold together says nothing.
-/
theorem filterMap_set_perm
    (f : α → Option β)
    (hGet : l[i]? = some a) :
    ((l.set i b).filterMap f ++ (f a).toList).Perm
      (l.filterMap f ++ (f b).toList) := by
  classical
  rw [List.perm_iff_count]
  intro y
  -- each item `y` is counted by the threads that hold it
  have hHeld :
      ∀ l : List α,
        (l.filterMap f).count y =
          l.countP (fun x => f x == some y) := by
    intro l
    exact List.count_filterMap
  have hOne :
      ∀ x,
        (f x).toList.count y =
          (f x == some y).toNat := by
    intro x
    cases f x with
    | none => rfl
    | some z =>
        by_cases hEq : z = y
        · simp [hEq]
        · simp [hEq, beq_false_of_ne hEq]
  rw [List.count_append, List.count_append, hHeld, hHeld,
    hOne, hOne]
  exact countP_set_add _ hGet

/- A thread of a population that grows at its end. -/
theorem getElem?_append_of_eq_some
    (hGet : l[i]? = some a)
    (started : List α) :
    (l ++ started)[i]? = some a := by
  rcases List.getElem?_eq_some_iff.mp hGet with ⟨hLt, _⟩
  rw [List.getElem?_append_left hLt]
  exact hGet

------------------------------------------------------------
-- Two Populations
------------------------------------------------------------

section Related

variable {R : α → β → Prop}
variable {as : List α}
variable {bs : List β}

theorem forall₂_replicate
    {a : α}
    {b : β}
    (hRel : R a b)
    (n : Nat) :
    List.Forall₂ R (List.replicate n a)
      (List.replicate n b) := by
  induction n with
  | zero => exact .nil
  | succ n ih => exact .cons hRel ih

/- The same thread moves on in both populations. -/
theorem forall₂_set
    (h : List.Forall₂ R as bs)
    {a : α}
    {b : β}
    (hRel : R a b)
    (i : Nat) :
    List.Forall₂ R (as.set i a) (bs.set i b) := by
  induction h generalizing i with
  | nil => exact .nil
  | cons hHead hTail ih =>
      cases i with
      | zero => exact .cons hRel hTail
      | succ i => exact .cons hHead (ih i)

/- A thread of the one is a thread of the other one. -/
theorem forall₂_getElem?
    (h : List.Forall₂ R as bs)
    {b : β}
    (hGet : bs[i]? = some b) :
    ∃ a, as[i]? = some a ∧ R a b := by
  induction h generalizing i with
  | nil => cases hGet
  | @cons a b' as bs hHead hTail ih =>
      cases i with
      | zero =>
          cases hGet
          exact ⟨a, rfl, hHead⟩
      | succ i =>
          rw [List.getElem?_cons_succ] at hGet ⊢
          exact ih hGet

theorem forall₂_mem_right
    (h : List.Forall₂ R as bs)
    {b : β}
    (hMem : b ∈ bs) :
    ∃ a ∈ as, R a b := by
  rcases List.mem_iff_getElem?.mp hMem with ⟨i, hGet⟩
  rcases forall₂_getElem? h hGet with ⟨a, hGet', hRel⟩
  exact ⟨a, List.mem_of_getElem? hGet', hRel⟩

theorem forall₂_mem_left
    (h : List.Forall₂ R as bs)
    {a : α}
    (hMem : a ∈ as) :
    ∃ b ∈ bs, R a b :=
  forall₂_mem_right h.flip hMem

end Related

end Foundations
