import SensorGateway.Dplist.History

/-
  Who frees what of a list: every node of a history is freed
  exactly once, and `element_free` gets the elements of those
  nodes that were removed or freed with `free_element`.

  What was inserted and removed is the record of the calls,
  and the memory follows the record.

  Key definitions include:
    * `DplistMemory.KeepsElements`
    * `DplistMemory.Settled`

  Key theorems include:
    * `DplistMemory.Follows.keepsElements`
    * `DplistMemory.Follows.free`
    * `dplistHistory_ownership`
-/

------------------------------------------------------------
-- The End of a History
------------------------------------------------------------

namespace SensorGateway

open Foundations

variable {E : Type}
variable {elementCopy elementFree : Bool}
variable {m : DplistMemory E}
variable {r : DplistRecord E}

/- `element_free` never got an element that the list holds. -/
def DplistMemory.KeepsElements
    (m : DplistMemory E) : Prop :=
  ∀ index e,
    dplGetElementAtIndex m index = .ok (some e) →
      e ∉ m.passedElements

/-
  The end of a history with the record `r`. Each inserted
  node was removed, and freed once, the elements passed on
  are those of the nodes that were removed with
  `free_element`, each of them once, and the caller's list
  pointer is NULL.
-/
structure DplistMemory.Settled
    (m : DplistMemory E)
    (elementFree : Bool)
    (r : DplistRecord E) : Prop where
  freed_once :
    ∀ node ∈ r.inserted, m.heap.freed.count node.1 = 1
  freed_eq : m.heap.freed = r.removedNodes.map Prod.fst
  all_removed : r.removedNodes.Perm r.inserted
  passed_eq :
    m.passedElements =
      if elementFree then r.releasedElements else []
  passed_once : m.passedElements.Nodup
  list_null : m.list = none

namespace DplistMemory

/- What is passed on was held by nodes that were removed. -/
theorem passedElements_sublist
    (hPassed :
      m.passedElements =
        if elementFree then r.releasedElements else []) :
    m.passedElements.Sublist
      (heldElements r.removedNodes) := by
  rw [hPassed]
  cases elementFree with
  | false => exact List.nil_sublist _
  | true => exact r.releasedElements_sublist

/- The nodes of the list keep their elements. -/
theorem Follows.keepsElements
    (h : m.Follows elementCopy elementFree r)
    (hComplete : r.Complete)
    (hDistinct : (heldElements r.inserted).Nodup) :
    m.KeepsElements := by
  intro index e hGet hPassed
  have hNodup :
      (heldElements (r.removedNodes ++ r.nodes)).Nodup :=
    (heldElements_perm hComplete.split).nodup_iff.mpr
      hDistinct
  rw [heldElements_append] at hNodup
  have hHeld : e ∈ heldElements r.nodes := by
    rw [dplGetElementAtIndex_of_represents
      h.owned.represents, Except.ok.injEq,
      ClampedList.getAt] at hGet
    unfold heldElements
    rw [List.reduceOption_mem_iff]
    exact List.mem_of_getElem?
      (Option.join_eq_some_iff.mp hGet)
  have hReleased :=
    (passedElements_sublist h.passed_eq).subset hPassed
  exact (List.nodup_append.mp hNodup).2.2 e hReleased e hHeld
    rfl

/- The elements of all nodes, if the flags say so. -/
theorem freedElements_reduceOption
    (elementFree freeElement : Bool)
    (nodes : List (Nat × Option E)) :
    (freedElements elementFree freeElement
        nodes).reduceOption =
      if freeElement && elementFree then
        heldElements nodes
      else
        [] := by
  unfold freedElements heldElements
  cases freeElement && elementFree with
  | false => rfl
  | true =>
      rw [if_pos rfl, if_pos rfl]
      induction nodes with
      | nil => rfl
      | cons node nodes ih =>
          rcases node with ⟨a, x⟩
          cases x with
          | none => exact ih
          | some e => exact congrArg (e :: ·) ih

/- `dpl_free` ends the history of a list. -/
theorem Follows.free
    (h : m.Follows elementCopy elementFree r)
    (hComplete : r.Complete)
    (hDistinct : (heldElements r.inserted).Nodup)
    (freeElement : Bool) :
    ∃ m',
      dplFree m freeElement = .ok m' ∧
        m'.Settled elementFree (r.free freeElement) := by
  rcases dplFree_of_represents h.owned.represents freeElement
    with
    ⟨heap, hFree, _, hFreed⟩
  have hFreedEq :
      heap.freed =
        (r.free freeElement).removedNodes.map Prod.fst := by
    rw [hFreed, h.freed_eq, DplistRecord.removedNodes_free,
      List.map_append]
  have hAll :
      (r.free freeElement).removedNodes.Perm r.inserted := by
    rw [DplistRecord.removedNodes_free]
    exact hComplete.split
  let m' : DplistMemory E :=
    { heap := heap
      list := none
      elementFreed :=
        m.elementFreed ++
          freedElements elementFree freeElement r.nodes }
  have hReleased :
      (r.free freeElement).releasedElements =
        r.releasedElements ++
          if freeElement then heldElements r.nodes else [] :=
    DplistRecord.releasedElements_of_removed rfl
  have hPassed :
      m'.passedElements =
        if elementFree then
          (r.free freeElement).releasedElements
        else
          [] := by
    have hBefore := h.passed_eq
    unfold passedElements at hBefore ⊢
    rw [List.reduceOption_append, hBefore,
      freedElements_reduceOption, hReleased]
    cases elementFree with
    | false => simp
    | true => simp
  refine ⟨m', hFree, ?_, hFreedEq, hAll, hPassed, ?_, rfl⟩
  · intro node hMem
    change heap.freed.count node.1 = 1
    rw [hFreedEq, (hAll.map Prod.fst).count_eq,
      hComplete.numbers]
    apply List.count_eq_one_of_mem List.nodup_range
    rw [← hComplete.numbers]
    exact List.mem_map_of_mem hMem
  · apply (passedElements_sublist hPassed).nodup
    rw [(heldElements_perm hAll).nodup_iff]
    exact hDistinct

end DplistMemory

------------------------------------------------------------
-- Ownership
------------------------------------------------------------

/-
  In every history of inserts and removals with any indices,
  flags and outcomes of `malloc`, and distinct elements, no
  call faults: the list consists of the nodes that the calls
  left in it, and `element_free` never gets an element that
  the list holds. `dpl_free` then leaves each inserted node
  freed exactly once, and the elements of the nodes that were
  removed or freed with `free_element` given to
  `element_free`, if it is set, each exactly once. The nodes
  hold the elements that the calls stored, which are the
  copies where the calls made them.
-/
theorem dplistHistory_ownership
    (elementCopy elementFree : Bool)
    (calls : List (DplistCall E))
    (freeElement : Bool)
    (hDistinct :
      (calls.filterMap
        (DplistCall.stored elementCopy)).Nodup) :
    heldElements
        (DplistRecord.ofCalls elementCopy calls).inserted =
      calls.filterMap (DplistCall.stored elementCopy) ∧
    ∃ m m',
      (dplistCalls E elementCopy elementFree).run calls =
          some m ∧
        m.Follows elementCopy elementFree
          (.ofCalls elementCopy calls) ∧
        m.KeepsElements ∧
        dplFree m freeElement = .ok m' ∧
        m'.Settled elementFree
          ((DplistRecord.ofCalls elementCopy calls).free
            freeElement) := by
  have hHeld :=
    DplistRecord.heldElements_ofCalls elementCopy calls
  have hComplete :=
    DplistRecord.ofCalls_complete elementCopy calls
  rcases dplistCalls_follows elementCopy elementFree calls
    with
    ⟨m, hRun, h⟩
  rw [← hHeld] at hDistinct
  rcases h.free hComplete hDistinct freeElement with
    ⟨m', hFree, hSettled⟩
  exact ⟨hHeld, m, m', hRun, h,
    h.keepsElements hComplete hDistinct, hFree, hSettled⟩

/-
  A copy and a NULL element are inserted, one of them is
  removed with its element, and the list is freed.
-/
theorem ownership_of_copy :
    ([DplistCall.insert (some 7) (some 8) 0 true true,
          .insert none none 5 false true,
          .insert (some 9) none 1 false true,
          .remove 0 true].filterMap
        (DplistCall.stored true)).Nodup ∧
      heldElements
          (DplistRecord.ofCalls true
            [DplistCall.insert (some 7) (some 8) 0 true
                true,
              .insert none none 5 false true,
              .insert (some 9) none 1 false true,
              .remove 0 true]).inserted =
        [8, 9] ∧
      ∃ m m',
        (dplistCalls Nat true true).run
            [DplistCall.insert (some 7) (some 8) 0 true true,
              .insert none none 5 false true,
              .insert (some 9) none 1 false true,
              .remove 0 true] =
            some m ∧
          m.passedElements = [8] ∧
          m.KeepsElements ∧
          dplFree m true = .ok m' ∧
          m'.passedElements = [8, 9] ∧
          m'.list = none := by
  refine ⟨by decide, ?_⟩
  rcases dplistHistory_ownership true true
      [DplistCall.insert (some 7) (some 8) 0 true true,
        .insert none none 5 false true,
        .insert (some 9) none 1 false true,
        .remove 0 true]
      true (by decide) with
    ⟨hHeld, m, m', hRun, h, hKeeps, hFree, hSettled⟩
  exact ⟨hHeld, m, m', hRun, h.passed_eq, hKeeps, hFree,
    hSettled.passed_eq, hSettled.list_null⟩

end SensorGateway
