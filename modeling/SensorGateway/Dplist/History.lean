import SensorGateway.Dplist.Record
import SensorGateway.Dplist.Refinement

/-
  Histories of a list: calls in any order, with any outcomes
  of `malloc`, and what they do to the nodes in memory.

  A call changes the links of nodes, allocates one node, or
  frees one. Which node it is follows from the calls alone,
  so the memory of every history follows its record.

  Key definitions include:
    * `Relinks`
    * `DplistMemory.Owned`
    * `dplistCalls`
    * `DplistMemory.Follows`

  Key theorems include:
    * `dplInsertAtIndex_relinks`
    * `dplRemoveAtIndex_relinks`
    * `DplistMemory.Follows.call`
    * `dplistCalls_follows`
-/

------------------------------------------------------------
-- Changing Links Only
------------------------------------------------------------

namespace SensorGateway

open Foundations

variable {E : Type}

/-
  The heaps have the same nodes with the same elements, and
  perhaps other links.
-/
structure Relinks
    (h h' : Heap (DplistNode E)) : Prop where
  next_eq : h'.next = h.next
  freed_eq : h'.freed = h.freed
  element_eq :
    ∀ a,
      (h'.cell a).map DplistNode.element =
        (h.cell a).map DplistNode.element

namespace Relinks

variable {h h' h'' : Heap (DplistNode E)}

theorem refl
    (h : Heap (DplistNode E)) :
    Relinks h h :=
  ⟨rfl, rfl, fun _ => rfl⟩

theorem trans
    (hFirst : Relinks h h')
    (hSecond : Relinks h' h'') :
    Relinks h h'' where
  next_eq := hSecond.next_eq.trans hFirst.next_eq
  freed_eq := hSecond.freed_eq.trans hFirst.freed_eq
  element_eq := fun a =>
    (hSecond.element_eq a).trans (hFirst.element_eq a)

/- The same addresses are live. -/
theorem isSome_eq
    (hRelinks : Relinks h h')
    (a : Nat) :
    (h'.cell a).isSome = (h.cell a).isSome := by
  have hEq :=
    congrArg Option.isSome (hRelinks.element_eq a)
  simpa using hEq

/- A node is overwritten with other links. -/
theorem put
    {a : Nat}
    {node node' : DplistNode E}
    (hCell : h.cell a = some node)
    (hElement : node'.element = node.element) :
    Relinks h (h.put a node') where
  next_eq := rfl
  freed_eq := rfl
  element_eq := by
    intro b
    by_cases hEq : b = a
    · subst hEq
      rw [Heap.put_cell_self _ _ hCell, hCell,
        Option.map_some, Option.map_some, hElement]
    · rw [Heap.put_cell_of_ne _ _ hEq]

theorem of_setPrev
    {p link : Option Nat}
    (hSet : setPrev h p link = .ok h') :
    Relinks h h' := by
  rcases Fault.bind_eq_ok.mp hSet with ⟨node, hRead, hWrite⟩
  rcases Heap.read_eq_ok.mp hRead with ⟨a, rfl, hCell⟩
  rw [Heap.write_of_cell _ _ hCell] at hWrite
  cases hWrite
  exact put hCell rfl

theorem of_setNext
    {p link : Option Nat}
    (hSet : setNext h p link = .ok h') :
    Relinks h h' := by
  rcases Fault.bind_eq_ok.mp hSet with ⟨node, hRead, hWrite⟩
  rcases Heap.read_eq_ok.mp hRead with ⟨a, rfl, hCell⟩
  rw [Heap.write_of_cell _ _ hCell] at hWrite
  cases hWrite
  exact put hCell rfl

theorem of_setPrevUnlessNull
    {p link : Option Nat}
    (hSet : setPrevUnlessNull h p link = .ok h') :
    Relinks h h' := by
  unfold setPrevUnlessNull at hSet
  split at hSet
  · cases hSet
    exact refl h
  · exact of_setPrev hSet

theorem of_setNextUnlessNull
    {p link : Option Nat}
    (hSet : setNextUnlessNull h p link = .ok h') :
    Relinks h h' := by
  unfold setNextUnlessNull at hSet
  split at hSet
  · cases hSet
    exact refl h
  · exact of_setNext hSet

end Relinks

------------------------------------------------------------
-- What a Call Does to the Heap
------------------------------------------------------------

variable {m m' : DplistMemory E}

/- An insert allocates one node, and changes links. -/
theorem dplInsertAtIndex_relinks
    {element copied : Option E}
    {index : Int}
    {insertCopy : Bool}
    (hInsert :
      dplInsertAtIndex m element copied index insertCopy
          true =
        .ok (true, m')) :
    ∃ list p n,
      m.list = some list ∧
        Relinks
          (m.heap.alloc
            ⟨p, n,
              storedElement insertCopy list.elementCopy
                element copied⟩)
          m'.heap := by
  unfold dplInsertAtIndex at hInsert
  cases hList : m.list with
  | none => simp [hList] at hInsert
  | some list =>
      simp only [hList, Bool.not_true, Bool.false_eq_true,
        if_false] at hInsert
      cases hHead : list.head with
      | none =>
          simp only [hHead] at hInsert
          cases hInsert
          exact ⟨list, none, none, rfl, Relinks.refl _⟩
      | some head =>
          simp only [hHead] at hInsert
          split at hInsert
          · -- in front of the head
            rcases Fault.bind_eq_ok.mp hInsert with
              ⟨heap, hSet, hReturn⟩
            cases hReturn
            exact ⟨list, none, some head, rfl,
              Relinks.of_setPrev hSet⟩
          · rcases Fault.bind_eq_ok.mp hInsert with
              ⟨refAtIndex, hRef, hInsert⟩
            split at hInsert
            · cases hInsert
            · rcases Fault.bind_eq_ok.mp hInsert with
                ⟨node, hRead, hInsert⟩
              rcases Fault.bind_eq_ok.mp hInsert with
                ⟨size, hSize, hInsert⟩
              split at hInsert
              · -- between two nodes
                rcases Fault.bind_eq_ok.mp hInsert with
                  ⟨heap₁, hSet₁, hInsert⟩
                rcases Fault.bind_eq_ok.mp hInsert with
                  ⟨heap₂, hSet₂, hReturn⟩
                cases hReturn
                exact ⟨list, node.prev, refAtIndex, rfl,
                  (Relinks.of_setNext hSet₁).trans
                    (Relinks.of_setPrev hSet₂)⟩
              · split at hInsert
                · cases hInsert
                · -- behind the last node
                  rcases Fault.bind_eq_ok.mp hInsert with
                    ⟨heap, hSet, hReturn⟩
                  cases hReturn
                  exact ⟨list, refAtIndex, none, rfl,
                    Relinks.of_setNext hSet⟩

/- A removal changes links, and frees one node. -/
theorem dplRemoveAtIndex_relinks
    {list : Dplist}
    {head : Nat}
    {index : Int}
    {freeElement : Bool}
    (hList : m.list = some list)
    (hHead : list.head = some head)
    (hRemove :
      dplRemoveAtIndex m index freeElement = .ok m') :
    ∃ a node heap,
      Relinks m.heap heap ∧
        heap.cell a = some node ∧
        m'.heap = heap.drop a ∧
        m'.elementFreed =
          callElementFree list.elementFree freeElement
            m.elementFreed node.element := by
  have hFreed :
      ∀ {h h' : Heap (DplistNode E)} {a : Nat},
        h.free (some a) = .ok h' →
          (∃ node, h.cell a = some node) ∧ h' = h.drop a := by
    intro h h' a hFree
    cases hCell : h.cell a with
    | none => simp [Heap.free, hCell] at hFree
    | some node =>
        rw [h.free_of_cell hCell] at hFree
        cases hFree
        exact ⟨⟨node, rfl⟩, rfl⟩
  unfold dplRemoveAtIndex at hRemove
  simp only [hList, hHead] at hRemove
  split at hRemove
  · -- the head is removed
    rcases Fault.bind_eq_ok.mp hRemove with
      ⟨curr, hRead, hRemove⟩
    rcases Fault.bind_eq_ok.mp hRemove with
      ⟨heap, hSet, hRemove⟩
    rcases Fault.bind_eq_ok.mp hRemove with
      ⟨heap', hFree, hReturn⟩
    cases hReturn
    rcases hFreed hFree with ⟨⟨node, hCell⟩, rfl⟩
    have hRelinks := Relinks.of_setPrevUnlessNull hSet
    rcases Heap.read_eq_ok.mp hRead with ⟨_, hSame, hCurr⟩
    cases hSame
    have hElement := hRelinks.element_eq head
    rw [hCell, hCurr] at hElement
    refine ⟨head, node, heap, hRelinks, hCell, rfl, ?_⟩
    rw [Option.map_some, Option.map_some,
      Option.some.injEq] at hElement
    rw [hElement]
  · rcases Fault.bind_eq_ok.mp hRemove with
      ⟨curr, hWalk, hRemove⟩
    rcases Fault.bind_eq_ok.mp hRemove with
      ⟨node, hRead, hRemove⟩
    rcases Fault.bind_eq_ok.mp hRemove with
      ⟨heap₁, hSet₁, hRemove⟩
    rcases Fault.bind_eq_ok.mp hRemove with
      ⟨node₁, hRead₁, hRemove⟩
    rcases Fault.bind_eq_ok.mp hRemove with
      ⟨heap₂, hSet₂, hRemove⟩
    rcases Fault.bind_eq_ok.mp hRemove with
      ⟨node₂, hRead₂, hRemove⟩
    rcases Fault.bind_eq_ok.mp hRemove with
      ⟨heap₃, hFree, hReturn⟩
    cases hReturn
    rcases hFreed hFree with ⟨_, rfl⟩
    rcases Heap.read_eq_ok.mp hRead₂ with ⟨_, hSame, hCell⟩
    cases hSame
    exact ⟨curr, node₂, heap₂,
      (Relinks.of_setNextUnlessNull hSet₁).trans
        (Relinks.of_setPrevUnlessNull hSet₂),
      hCell, rfl, rfl⟩

------------------------------------------------------------
-- Owned Lists
------------------------------------------------------------

variable {elementCopy elementFree : Bool}
variable {nodes : List (Nat × Option E)}

/- The live nodes are those of the list. -/
structure DplistMemory.Owned
    (m : DplistMemory E)
    (elementCopy elementFree : Bool)
    (nodes : List (Nat × Option E)) : Prop where
  represents : m.Represents elementCopy elementFree nodes
  owns : m.heap.Owns (nodes.map Prod.fst)

/- An insert into an owned list. -/
theorem DplistMemory.Owned.insert
    (h : m.Owned elementCopy elementFree nodes)
    (element copied : Option E)
    (index : Int)
    (insertCopy : Bool) :
    ∃ m',
      dplInsertAtIndex m element copied index insertCopy
          true =
        .ok (true, m') ∧
      m'.Owned elementCopy elementFree
        (ClampedList.insertAt nodes index
          (m.heap.next,
            storedElement insertCopy elementCopy element
              copied)) ∧
      m'.heap.next = m.heap.next + 1 ∧
      m'.heap.freed = m.heap.freed ∧
      m'.elementFreed = m.elementFreed := by
  rcases dplInsertAtIndex_of_represents h.represents element
      copied index insertCopy with
    ⟨m', hInsert, hRep, hPassed⟩
  rcases dplInsertAtIndex_relinks hInsert with
    ⟨list, p, n, _, hRelinks⟩
  refine ⟨m', hInsert, ⟨hRep, ?_⟩, hRelinks.next_eq,
    hRelinks.freed_eq, hPassed⟩
  have hOwns :=
    (h.owns.alloc _).congr hRelinks.next_eq
      hRelinks.freed_eq hRelinks.isSome_eq
  apply hOwns.of_perm
  rw [ClampedList.map_insertAt]
  exact (List.perm_append_singleton _ _).trans
    (insertAt_perm _ _ _).symm

/- A removal from an owned list that is not empty. -/
theorem DplistMemory.Owned.remove
    {xs ys : List (Nat × Option E)}
    {b : Nat}
    {z : Option E}
    (h :
      m.Owned elementCopy elementFree (xs ++ (b, z) :: ys))
    {index : Int}
    (hIndex :
      xs.length =
        clampIndex index
          ((xs ++ (b, z) :: ys).length - 1))
    (freeElement : Bool) :
    ∃ m',
      dplRemoveAtIndex m index freeElement = .ok m' ∧
      m'.Owned elementCopy elementFree (xs ++ ys) ∧
      m'.heap.next = m.heap.next ∧
      m'.heap.freed = m.heap.freed ++ [b] ∧
      m'.elementFreed =
        callElementFree elementFree freeElement
          m.elementFreed z := by
  rcases dplRemoveAtIndex_of_split h.represents hIndex
      freeElement with
    ⟨m', hRemove, hRep, hPassed⟩
  have hNe : xs ++ (b, z) :: ys ≠ [] := by
    simp
  rcases first_of_ne_nil hNe with ⟨head, hHead⟩
  have hFirst := hHead [] none
  rw [List.append_nil] at hFirst
  rcases dplRemoveAtIndex_relinks h.represents.list_eq
      hFirst hRemove with
    ⟨a, node, heap, hRelinks, hCell, hHeap, _⟩
  have hOwns :=
    h.owns.congr hRelinks.next_eq hRelinks.freed_eq
      hRelinks.isSome_eq
  -- the freed node is the one that left the list
  have hSame : a = b := by
    have hLive := (hOwns.live a).mp (by rw [hCell]; rfl)
    have hDead : a ∉ (xs ++ ys).map Prod.fst := by
      intro hMem
      rcases Segment.exists_cell_of_mem
          hRep.chain.linked hMem with
        ⟨node', hCell'⟩
      rw [hHeap] at hCell'
      simp [Heap.drop] at hCell'
    simp only [List.map_append, List.map_cons,
      List.mem_append, List.mem_cons, not_or]
      at hLive hDead
    rcases hLive with hLive | hLive | hLive
    · exact absurd hLive hDead.1
    · exact hLive
    · exact absurd hLive hDead.2
  subst hSame
  have hMiddle :
      ((xs ++ (a, z) :: ys).map Prod.fst).Perm
        (a :: (xs ++ ys).map Prod.fst) := by
    rw [List.map_append, List.map_append, List.map_cons]
    exact List.perm_middle
  refine ⟨m', hRemove, ⟨hRep, ?_⟩, ?_, ?_, hPassed⟩
  · rw [hHeap]
    exact (hOwns.of_perm hMiddle).drop
  · rw [hHeap]
    exact hRelinks.next_eq
  · rw [hHeap, Heap.drop, hRelinks.freed_eq]

------------------------------------------------------------
-- Calls
------------------------------------------------------------

/- The call on the list in memory. -/
def dplistCall
    (m : DplistMemory E) :
    DplistCall E → Option (DplistMemory E)
| .insert element copied index insertCopy mallocOk =>
    (dplInsertAtIndex m element copied index insertCopy
      mallocOk).toOption.map Prod.snd
| .remove index freeElement =>
    (dplRemoveAtIndex m index freeElement).toOption

/- Calls in any order on a list that was just created. -/
def dplistCalls
    (E : Type)
    (elementCopy elementFree : Bool) :
    System (DplistMemory E) (DplistCall E) where
  init := (dplistSystem E elementCopy elementFree).init
  step := dplistCall

/- A list that was just created is owned. -/
theorem dplistCalls_init_owned
    (elementCopy elementFree : Bool) :
    (dplistCalls E elementCopy elementFree).init.Owned
      elementCopy elementFree [] where
  represents := ⟨rfl, Chain.nil _⟩
  owns := Heap.Owns.empty

------------------------------------------------------------
-- The Memory Follows the Record
------------------------------------------------------------

/- The elements, without NULL, given to `element_free`. -/
def DplistMemory.passedElements
    (m : DplistMemory E) :
    List E :=
  m.elementFreed.reduceOption

/-
  The list in memory consists of the nodes of the record, the
  nodes that were removed are those that are freed, in order,
  and `element_free` got what was to be released.
-/
structure DplistMemory.Follows
    (m : DplistMemory E)
    (elementCopy elementFree : Bool)
    (r : DplistRecord E) : Prop where
  owned : m.Owned elementCopy elementFree r.nodes
  next_eq : m.heap.next = r.inserted.length
  freed_eq : m.heap.freed = r.removedNodes.map Prod.fst
  passed_eq :
    m.passedElements =
      if elementFree then r.releasedElements else []

namespace DplistMemory.Follows

variable {r : DplistRecord E}

/- A list that was just created. -/
theorem init
    (elementCopy elementFree : Bool) :
    (dplistCalls E elementCopy elementFree).init.Follows
      elementCopy elementFree .empty where
  owned := dplistCalls_init_owned elementCopy elementFree
  next_eq := rfl
  freed_eq := rfl
  passed_eq := by
    cases elementFree with
    | false => rfl
    | true => rfl

/- An insert. -/
theorem insert
    (h : m.Follows elementCopy elementFree r)
    (element copied : Option E)
    (index : Int)
    (insertCopy : Bool) :
    ∃ m',
      dplInsertAtIndex m element copied index insertCopy
          true =
        .ok (true, m') ∧
      m'.Follows elementCopy elementFree
        (r.insert index
          (storedElement insertCopy elementCopy element
            copied)) := by
  rcases h.owned.insert element copied index insertCopy with
    ⟨m', hInsert, hOwned, hNext, hFreed, hPassed⟩
  refine ⟨m', hInsert, ?_, ?_, ?_, ?_⟩
  · rw [h.next_eq] at hOwned
    exact hOwned
  · rw [hNext, h.next_eq]
    simp [DplistRecord.insert]
  · rw [hFreed, h.freed_eq,
      DplistRecord.removedNodes_insert]
  · unfold passedElements
    rw [hPassed]
    exact h.passed_eq

/- What a removal passes on is what it releases. -/
theorem passed_of_remove
    (hBefore :
      m.passedElements =
        if elementFree then r.releasedElements else [])
    {r' : DplistRecord E}
    {b : Nat}
    {z : Option E}
    {freeElement : Bool}
    (hRemoved :
      r'.removed =
        r.removed ++
          [(b, z)].map (fun node => (node, freeElement)))
    (hPassed :
      m'.elementFreed =
        callElementFree elementFree freeElement
          m.elementFreed z) :
    m'.passedElements =
      if elementFree then r'.releasedElements else [] := by
  rw [DplistRecord.releasedElements_of_removed hRemoved,
    heldElements_singleton]
  unfold passedElements at hBefore ⊢
  rw [hPassed]
  unfold callElementFree
  cases elementFree with
  | false =>
      rw [Bool.and_false]
      exact hBefore
  | true =>
      rw [Bool.and_true]
      cases freeElement with
      | false => simpa using hBefore
      | true =>
          simp only [if_true] at hBefore ⊢
          rw [List.reduceOption_append, hBefore]
          cases z with
          | none => rfl
          | some e => rfl

/- A removal. -/
theorem remove
    (h : m.Follows elementCopy elementFree r)
    (index : Int)
    (freeElement : Bool) :
    ∃ m',
      dplRemoveAtIndex m index freeElement = .ok m' ∧
      m'.Follows elementCopy elementFree
        (r.remove index freeElement) := by
  by_cases hNil : r.nodes = []
  · refine ⟨m, ?_, ?_⟩
    · have hList := h.owned.represents.list_eq
      rw [hNil] at hList
      simp [dplRemoveAtIndex, hList]
    · rw [DplistRecord.remove_of_nil hNil]
      exact h
  · rcases ClampedList.exists_split_clamped hNil index with
      ⟨xs, ⟨b, z⟩, ys, hSplit, hIndex⟩
    have hOwned := h.owned
    rw [hSplit] at hIndex hOwned
    rcases hOwned.remove hIndex freeElement with
      ⟨m', hRemove, hOwned', hNext, hFreed, hPassed⟩
    have hGet :
        ClampedList.getAt r.nodes index = some (b, z) := by
      rw [hSplit]
      exact ClampedList.getAt_split hIndex
    refine ⟨m', hRemove, ?_, ?_, ?_, ?_⟩
    · have hRest :
          (r.remove index freeElement).nodes = xs ++ ys := by
        simp only [DplistRecord.remove]
        rw [hSplit, ClampedList.removeAt_split xs ys hIndex]
      rw [hRest]
      exact hOwned'
    · exact hNext.trans h.next_eq
    · rw [hFreed, h.freed_eq,
        DplistRecord.removedNodes_remove, hGet,
        List.map_append]
      rfl
    · refine passed_of_remove (b := b) h.passed_eq ?_ hPassed
      simp only [DplistRecord.remove, hGet]
      rfl

/- No call faults, and each does what it means. -/
theorem call
    (h : m.Follows elementCopy elementFree r)
    (c : DplistCall E) :
    ∃ m',
      dplistCall m c = some m' ∧
        m'.Follows elementCopy elementFree
          (r.call elementCopy c) := by
  cases c with
  | insert element copied index insertCopy mallocOk =>
      cases mallocOk with
      | false =>
          refine ⟨m, ?_, h⟩
          simp [dplistCall, dplInsertAtIndex,
            h.owned.represents.list_eq, Except.toOption]
      | true =>
          rcases h.insert element copied index insertCopy with
            ⟨m', hInsert, h'⟩
          refine ⟨m', ?_, h'⟩
          simp [dplistCall, hInsert, Except.toOption]
  | remove index freeElement =>
      rcases h.remove index freeElement with
        ⟨m', hRemove, h'⟩
      refine ⟨m', ?_, h'⟩
      simp [dplistCall, hRemove, Except.toOption]

/- The same along any calls. -/
theorem calls
    (h : m.Follows elementCopy elementFree r)
    (calls : List (DplistCall E)) :
    ∃ m',
      (dplistCalls E elementCopy elementFree).runFrom m
          calls = some m' ∧
        m'.Follows elementCopy elementFree
          (calls.foldl (DplistRecord.call elementCopy) r) := by
  induction calls generalizing m r with
  | nil => exact ⟨m, rfl, h⟩
  | cons c calls ih =>
      rcases h.call c with ⟨m₁, hCall, h₁⟩
      rcases ih h₁ with ⟨m', hRun, h'⟩
      refine ⟨m', ?_, h'⟩
      rw [System.runFrom]
      simpa [dplistCalls, hCall] using hRun

end DplistMemory.Follows

/- Every history leads to a memory that follows its record. -/
theorem dplistCalls_follows
    (elementCopy elementFree : Bool)
    (calls : List (DplistCall E)) :
    ∃ m,
      (dplistCalls E elementCopy elementFree).run calls =
          some m ∧
        m.Follows elementCopy elementFree
          (.ofCalls elementCopy calls) :=
  (DplistMemory.Follows.init elementCopy elementFree).calls
    calls

end SensorGateway
