import SensorGateway.Dplist.History

/-
  References to nodes: what a reference leads to stays the
  same until a call removes its node, whatever else happens
  to the list.

  Addresses are never handed out again, so a reference to a
  removed node leads to nothing for ever.

  Key theorems include:
    * `dplGetElementAtReference_of_represents`
    * `DplistMemory.Follows.reference`
    * `dplistCalls_references`
-/

------------------------------------------------------------
-- Looking up a Reference
------------------------------------------------------------

namespace SensorGateway

open Foundations

variable {E : Type}
variable {elementCopy elementFree : Bool}
variable {m : DplistMemory E}
variable {nodes : List (Nat × Option E)}

/- The loop finds the node with the address, if it is there. -/
theorem dplGetElementAtReferenceLoop_of_linked
    {heap : Heap (DplistNode E)}
    {prev : Option Nat}
    (hLinked :
      Segment.Linked DplistNode.mk heap.cell prev nodes none)
    {fuel : Nat}
    (hFuel : nodes.length < fuel)
    (r : Nat) :
    dplGetElementAtReferenceLoop heap (some r) fuel
        (Segment.first nodes none) =
      .ok
        ((nodes.find?
          (fun node => node.1 = r)).bind Prod.snd) := by
  induction nodes generalizing prev fuel with
  | nil =>
      cases fuel with
      | zero => cases hFuel
      | succ fuel => rfl
  | cons node nodes ih =>
      rcases node with ⟨a, x⟩
      rcases hLinked with ⟨hCell, hRest⟩
      cases fuel with
      | zero => cases hFuel
      | succ fuel =>
          have hNext :=
            ih hRest (Nat.lt_of_succ_lt_succ hFuel)
          rw [dplGetElementAtReferenceLoop,
            Segment.first_cons,
            if_neg (Option.some_ne_none _),
            heap.read_of_cell hCell, Fault.ok_bind,
            List.find?_cons]
          by_cases hEq : a = r
          · simp [hEq]
          · simp only [Option.some.injEq, hEq, if_false,
              decide_false]
            exact hNext

/- The element at a reference is the one of its node. -/
theorem dplGetElementAtReference_of_represents
    (hRep : m.Represents elementCopy elementFree nodes)
    (r : Nat) :
    dplGetElementAtReference m (some r) =
      .ok
        ((nodes.find?
          (fun node => node.1 = r)).bind Prod.snd) := by
  have hFuel : nodes.length < m.heap.next + 1 :=
    Nat.lt_succ_of_le hRep.chain.length_le_next
  simp only [dplGetElementAtReference, hRep.list_eq,
    reduceCtorEq, if_false]
  exact dplGetElementAtReferenceLoop_of_linked
    hRep.chain.linked hFuel r

/- A reference to a node of the list leads to its element. -/
theorem dplGetElementAtReference_of_mem
    (hRep : m.Represents elementCopy elementFree nodes)
    {r : Nat}
    {x : Option E}
    (hMem : (r, x) ∈ nodes) :
    dplGetElementAtReference m (some r) = .ok x := by
  rcases List.mem_iff_append.mp hMem with ⟨xs, ys, hSplit⟩
  have hNodup := hRep.chain.nodup
  rw [dplGetElementAtReference_of_represents hRep]
  subst hSplit
  rw [List.map_append, List.map_cons, List.nodup_middle,
    List.nodup_cons, List.mem_append, not_or] at hNodup
  have hBefore :
      xs.find? (fun node => node.1 = r) = none := by
    rw [List.find?_eq_none]
    intro node hNode hEq
    have hIn := List.mem_map_of_mem (f := Prod.fst) hNode
    rw [of_decide_eq_true hEq] at hIn
    exact hNodup.1.1 hIn
  simp [List.find?_append, hBefore]

/- A reference to no node of the list leads to nothing. -/
theorem dplGetElementAtReference_of_not_mem
    (hRep : m.Represents elementCopy elementFree nodes)
    {r : Nat}
    (hNot : r ∉ nodes.map Prod.fst) :
    dplGetElementAtReference m (some r) = .ok none := by
  have hNone :
      nodes.find? (fun node => node.1 = r) = none := by
    rw [List.find?_eq_none]
    intro node hNode hEq
    have hIn := List.mem_map_of_mem (f := Prod.fst) hNode
    rw [of_decide_eq_true hEq] at hIn
    exact hNot hIn
  rw [dplGetElementAtReference_of_represents hRep, hNone,
    Option.bind_none]

------------------------------------------------------------
-- References in a Run
------------------------------------------------------------

/-
  A reference to a node that was ever inserted leads to its
  element, unless a call has removed the node.
-/
theorem DplistMemory.Follows.reference
    {r : DplistRecord E}
    (h : m.Follows elementCopy elementFree r)
    (hComplete : r.Complete)
    {a : Nat}
    {x : Option E}
    (hMem : (a, x) ∈ r.inserted) :
    dplGetElementAtReference m (some a) =
      .ok
        (if a ∈ r.removedNodes.map Prod.fst then
          none
        else
          x) := by
  by_cases hRemoved : a ∈ r.removedNodes.map Prod.fst
  · rw [if_pos hRemoved]
    rw [← h.freed_eq] at hRemoved
    exact dplGetElementAtReference_of_not_mem
      h.owned.represents
      (h.owned.owns.not_mem_of_mem_freed hRemoved)
  · rw [if_neg hRemoved]
    apply dplGetElementAtReference_of_mem h.owned.represents
    rw [← hComplete.split.mem_iff, List.mem_append] at hMem
    rcases hMem with hMem | hMem
    · exact absurd (List.mem_map_of_mem hMem) hRemoved
    · exact hMem

/-
  In a list that any calls have led to, and that is not empty,
  the reference at any index is the one of the node there,
  and it leads to the element at that index. It goes on to do
  so, whatever calls follow, until one of them removes that
  node, and from then on it leads to NULL.
-/
theorem dplistCalls_references
    (elementCopy elementFree : Bool)
    {calls : List (DplistCall E)}
    (hNonempty :
      (DplistRecord.ofCalls elementCopy calls).nodes ≠ [])
    (index : Int) :
    ∃ m a x,
      (dplistCalls E elementCopy elementFree).run calls =
          some m ∧
      dplSize m =
        .ok
          (DplistRecord.ofCalls elementCopy
            calls).nodes.length ∧
      ClampedList.getAt
          (DplistRecord.ofCalls elementCopy calls).nodes
          index =
        some (a, x) ∧
      dplGetReferenceAtIndex m index = .ok (some a) ∧
      dplGetElementAtIndex m index = .ok x ∧
      dplGetElementAtReference m (some a) = .ok x ∧
      ∀ more, ∃ m',
        (dplistCalls E elementCopy elementFree).runFrom m
            more =
          some m' ∧
        dplGetElementAtReference m' (some a) =
          .ok
            (if a ∈
                (DplistRecord.ofCalls elementCopy
                  (calls ++ more)).removedNodes.map
                  Prod.fst then
              none
            else
              x) := by
  rcases dplistCalls_follows elementCopy elementFree calls
    with
    ⟨m, hRun, h⟩
  have hComplete :=
    DplistRecord.ofCalls_complete elementCopy calls
  have hRep := h.owned.represents
  rcases ClampedList.exists_split_clamped hNonempty index
    with
    ⟨xs, ⟨a, x⟩, ys, hSplit, hIndex⟩
  have hGet :
      ClampedList.getAt
          (DplistRecord.ofCalls elementCopy calls).nodes
          index =
        some (a, x) := by
    rw [hSplit] at hIndex ⊢
    exact ClampedList.getAt_split hIndex
  have hMem :
      (a, x) ∈
        (DplistRecord.ofCalls elementCopy calls).nodes := by
    rw [hSplit]
    simp
  have hInserted :=
    hComplete.split.subset
      (List.mem_append_right _ hMem)
  refine ⟨m, a, x, hRun, dplSize_of_represents hRep, hGet,
    dplGetReferenceAtIndex_of_represents hRep hSplit hIndex,
    ?_, dplGetElementAtReference_of_mem hRep hMem, ?_⟩
  · rw [dplGetElementAtIndex_of_represents hRep,
      ClampedList.getAt_map, hGet]
    rfl
  · intro more
    rcases h.calls more with ⟨m', hRun', h'⟩
    rw [← DplistRecord.ofCalls_append] at h'
    refine ⟨m', hRun', h'.reference ?_ ?_⟩
    · exact DplistRecord.ofCalls_complete elementCopy
        (calls ++ more)
    · rw [DplistRecord.ofCalls_append]
      exact DplistRecord.inserted_subset elementCopy _ more
        hInserted

/-
  Two elements are inserted at the front, so the reference at
  the end is the one of the first insert. An insert does not
  touch it, and the removal at the end ends it.
-/
theorem references_two_inserts :
    (DplistRecord.ofCalls true
          [DplistCall.insert (some 7) none 0 false true,
            .insert (some 9) none 0 false true]).nodes ≠
        [] ∧
      ∃ m,
        (dplistCalls Nat true true).run
            [DplistCall.insert (some 7) none 0 false true,
              .insert (some 9) none 0 false true] =
          some m ∧
        dplGetReferenceAtIndex m 5 = .ok (some 0) ∧
        dplGetElementAtIndex m 5 = .ok (some 7) ∧
        (∃ m',
          (dplistCalls Nat true true).runFrom m
              [.insert (some 3) none 1 false true,
                .remove 0 true] =
            some m' ∧
          dplGetElementAtReference m' (some 0) =
            .ok (some 7)) ∧
        ∃ m',
          (dplistCalls Nat true true).runFrom m
              [.remove 9 false] =
            some m' ∧
          dplGetElementAtReference m' (some 0) =
            .ok none := by
  have hNonempty :
      (DplistRecord.ofCalls true
          [DplistCall.insert (some 7) none 0 false true,
            .insert (some 9) none 0 false true]).nodes ≠
        [] := by
    decide
  rcases dplistCalls_references true true hNonempty 5 with
    ⟨m, a, x, hRun, _, hGet, hReference, hElement, _,
      hAfter⟩
  have hFound :
      ClampedList.getAt
          (DplistRecord.ofCalls true
            [DplistCall.insert (some 7) none 0 false true,
              .insert (some 9) none 0 false true]).nodes
          5 =
        some (0, some 7) := rfl
  rw [hFound] at hGet
  cases hGet
  exact ⟨hNonempty, m, hRun, hReference, hElement,
    hAfter [.insert (some 3) none 1 false true,
      .remove 0 true],
    hAfter [.remove 9 false]⟩

end SensorGateway
