import SensorGateway.Dplist.Basic
import SensorGateway.Foundations.ClampedList
import SensorGateway.Foundations.System

/-
  The doubly linked list refines a list of elements whose
  positions are clamped.

  Key definitions include:
    * `DplistMemory.Represents`
    * `DplistAction`
    * `dplistSystem`

  Key theorems include:
    * `dplSize_of_represents`
    * `dplGetReferenceAtIndex_of_represents`
    * `dplGetElementAtIndex_of_represents`
    * `dplInsertAtIndex_of_represents`
    * `dplRemoveAtIndex_of_represents`
    * `dplFree_of_represents`
    * `dplistSystem_refines`
-/

------------------------------------------------------------
-- Represented Lists
------------------------------------------------------------

namespace SensorGateway

open Foundations

variable {E : Type}

/-
  The list holds the elements of `nodes`, in order, at the
  addresses of `nodes`.
-/
structure DplistMemory.Represents
    (m : DplistMemory E)
    (elementCopy elementFree : Bool)
    (nodes : List (Nat × Option E)) : Prop where
  list_eq :
    m.list =
      some
        { head := Segment.first nodes none
          elementCopy := elementCopy
          elementFree := elementFree }
  chain :
    Chain DplistNode.mk m.heap (Segment.first nodes none)
      nodes

variable {elementCopy elementFree : Bool}
variable {m : DplistMemory E}
variable {nodes : List (Nat × Option E)}

------------------------------------------------------------
-- Storing Links
------------------------------------------------------------

theorem setPrev_of_cell
    {heap : Heap (DplistNode E)}
    {a : Nat}
    {node : DplistNode E}
    (hCell : heap.cell a = some node)
    (link : Option Nat) :
    setPrev heap (some a) link =
      .ok (heap.put a { node with prev := link }) := by
  simp [setPrev, heap.read_of_cell hCell,
    heap.write_of_cell _ hCell]

theorem setNext_of_cell
    {heap : Heap (DplistNode E)}
    {a : Nat}
    {node : DplistNode E}
    (hCell : heap.cell a = some node)
    (link : Option Nat) :
    setNext heap (some a) link =
      .ok (heap.put a { node with next := link }) := by
  simp [setNext, heap.read_of_cell hCell,
    heap.write_of_cell _ hCell]

------------------------------------------------------------
-- Traversals
------------------------------------------------------------

/- The size loop counts the rest of the list. -/
theorem dplSizeLoop_of_linked
    {heap : Heap (DplistNode E)}
    {prev : Option Nat}
    (hLinked :
      Segment.Linked DplistNode.mk heap.cell prev nodes none)
    {fuel : Nat}
    (hFuel : nodes.length < fuel)
    (size : Int) :
    dplSizeLoop heap fuel (Segment.first nodes none) size =
      .ok (size + nodes.length) := by
  induction nodes generalizing prev fuel size with
  | nil =>
      cases fuel with
      | zero => cases hFuel
      | succ fuel => simp [dplSizeLoop]
  | cons node nodes ih =>
      rcases node with ⟨a, x⟩
      rcases hLinked with ⟨hCell, hRest⟩
      cases fuel with
      | zero => cases hFuel
      | succ fuel =>
          have hFuel' : nodes.length < fuel := by
            simpa using hFuel
          have hIh := ih hRest hFuel' (size + 1)
          simp only [dplSizeLoop, Segment.first_cons,
            reduceCtorEq, if_false, heap.read_of_cell hCell,
            Fault.ok_bind]
          rw [hIh, List.length_cons]
          congr 1
          omega

/- `dpl_size` is the length. -/
theorem dplSize_of_represents
    (hRep : m.Represents elementCopy elementFree nodes) :
    dplSize m = .ok nodes.length := by
  have hFuel : nodes.length < m.heap.next + 1 :=
    Nat.lt_succ_of_le hRep.chain.length_le_next
  have hLoop :=
    dplSizeLoop_of_linked hRep.chain.linked hFuel 0
  simp only [dplSize, hRep.list_eq]
  rw [hLoop, Int.zero_add]

/- The walk stops at the clamped position. -/
theorem dplWalk_of_linked
    {heap : Heap (DplistNode E)}
    {before rest : List (Nat × Option E)}
    {a : Nat}
    {x : Option E}
    {index : Int}
    {fuel : Nat}
    (hLinked :
      Segment.Linked DplistNode.mk heap.cell none
        (before ++ (a, x) :: rest) none)
    (hIndex : (before.length : Int) ≤ index)
    (hFuel : rest.length < fuel)
    {xs ys : List (Nat × Option E)}
    {b : Nat}
    {y : Option E}
    (hSplit :
      before ++ (a, x) :: rest = xs ++ (b, y) :: ys)
    (hStop :
      xs.length =
        clampIndex index (before.length + rest.length)) :
    dplWalk heap index fuel a before.length = .ok b := by
  have hCell := Segment.cell_of_linked hLinked
  induction rest generalizing before a x fuel with
  | nil =>
      cases fuel with
      | zero => cases hFuel
      | succ fuel =>
          have hLength : before.length = xs.length := by
            rw [hStop, clampIndex, List.length_nil]
            omega
          rcases List.append_inj hSplit hLength with
            ⟨_, hCons⟩
          cases hCons
          simp [dplWalk, heap.read_of_cell hCell]
  | cons next rest ih =>
      rcases next with ⟨c, z⟩
      cases fuel with
      | zero => cases hFuel
      | succ fuel =>
          simp only [dplWalk, heap.read_of_cell hCell,
            Fault.ok_bind, Segment.first_cons]
          by_cases hMore : (before.length : Int) < index
          · rw [if_pos hMore]
            have hAssoc :
                before ++ (a, x) :: (c, z) :: rest =
                  (before ++ [(a, x)]) ++ (c, z) :: rest := by
              simp
            have hCount :
                ((before ++ [(a, x)]).length : Int) =
                  before.length + 1 := by
              simp
            rw [hAssoc] at hLinked hSplit
            rw [← hCount]
            apply ih hLinked _ _ hSplit _
              (Segment.cell_of_linked hLinked)
            · rw [hCount]
              omega
            · simpa using hFuel
            · rw [hStop]
              congr 1
              simp only [List.length_append,
                List.length_cons, List.length_nil]
              omega
          · rw [if_neg hMore]
            have hLength : before.length = xs.length := by
              rw [hStop, clampIndex, List.length_cons]
              omega
            rcases List.append_inj hSplit hLength with
              ⟨_, hCons⟩
            cases hCons
            rfl

/- The walk from the head of a list. -/
theorem dplWalk_of_represents
    {a : Nat}
    {x : Option E}
    {rest : List (Nat × Option E)}
    (hRep :
      m.Represents elementCopy elementFree ((a, x) :: rest))
    {xs ys : List (Nat × Option E)}
    {b : Nat}
    {y : Option E}
    (hSplit : (a, x) :: rest = xs ++ (b, y) :: ys)
    {index : Int}
    (hPos : 0 < index)
    (hIndex : xs.length = clampIndex index rest.length) :
    dplWalk m.heap index (m.heap.next + 1) a 0 = .ok b := by
  have hFuel : rest.length < m.heap.next + 1 := by
    have hLe := hRep.chain.length_le_next
    simp only [List.length_cons] at hLe
    omega
  have hStart :
      (([] : List (Nat × Option E)).length : Int) ≤
        index := by
    simp only [List.length_nil]
    omega
  apply dplWalk_of_linked hRep.chain.linked hStart hFuel
    hSplit
  rw [hIndex, List.length_nil, Nat.zero_add]

/- The reference at an index is the node found there. -/
theorem dplGetReferenceAtIndex_of_represents
    (hRep : m.Represents elementCopy elementFree nodes)
    {xs ys : List (Nat × Option E)}
    {b : Nat}
    {y : Option E}
    (hSplit : nodes = xs ++ (b, y) :: ys)
    {index : Int}
    (hIndex :
      xs.length = clampIndex index (nodes.length - 1)) :
    dplGetReferenceAtIndex m index = .ok (some b) := by
  cases nodes with
  | nil => simp at hSplit
  | cons node rest =>
      rcases node with ⟨a, x⟩
      simp only [dplGetReferenceAtIndex, hRep.list_eq,
        Segment.first_cons]
      by_cases hFront : index ≤ 0
      · rw [clampIndex_of_nonpos hFront,
          List.length_eq_zero_iff] at hIndex
        subst hIndex
        cases hSplit
        rw [if_pos hFront]
      · rw [List.length_cons, Nat.add_sub_cancel] at hIndex
        rw [if_neg hFront,
          dplWalk_of_represents hRep hSplit (by omega)
            hIndex]
        rfl

/- A list without nodes has no reference. -/
theorem dplGetReferenceAtIndex_of_empty
    (hRep : m.Represents elementCopy elementFree [])
    (index : Int) :
    dplGetReferenceAtIndex m index = .ok none := by
  simp [dplGetReferenceAtIndex, hRep.list_eq]

/- The element at an index is the one found there. -/
theorem dplGetElementAtIndex_of_represents
    (hRep : m.Represents elementCopy elementFree nodes)
    (index : Int) :
    dplGetElementAtIndex m index =
      .ok
        (ClampedList.getAt (nodes.map Prod.snd)
          index).join := by
  by_cases hNil : nodes = []
  · subst hNil
    simp [dplGetElementAtIndex,
      dplGetReferenceAtIndex_of_empty hRep,
      ClampedList.getAt_nil]
  · rcases ClampedList.exists_split_clamped hNil index with
      ⟨xs, ⟨b, y⟩, ys, hSplit, hIndex⟩
    have hReference :=
      dplGetReferenceAtIndex_of_represents hRep hSplit hIndex
    have hGet : ClampedList.getAt nodes index = some (b, y) := by
      rw [hSplit] at hIndex ⊢
      exact ClampedList.getAt_split hIndex
    have hLinked := hRep.chain.linked
    rw [hSplit] at hLinked
    have hCell := Segment.cell_of_linked hLinked
    rw [ClampedList.getAt_map, hGet]
    simp [dplGetElementAtIndex, hReference,
      m.heap.read_of_cell hCell]

------------------------------------------------------------
-- Updates
------------------------------------------------------------

/- The last node of a segment gets another next link. -/
theorem setNextUnlessNull_of_linked
    {heap : Heap (DplistNode E)}
    {xs : List (Nat × Option E)}
    {nxt : Option Nat}
    (hLinked :
      Segment.Linked DplistNode.mk heap.cell none xs nxt)
    (hNodup : (xs.map Prod.fst).Nodup)
    (link : Option Nat) :
    ∃ heap',
      setNextUnlessNull heap (Segment.last none xs) link =
        .ok heap' ∧
      Segment.Linked DplistNode.mk heap'.cell none xs link ∧
      ∀ b, b ∉ xs.map Prod.fst →
        heap'.cell b = heap.cell b := by
  rcases List.eq_nil_or_concat' xs with
    hNil | ⟨xs', ⟨p, y⟩, hEq⟩
  · subst hNil
    exact ⟨heap, rfl, trivial, fun _ _ => rfl⟩
  · subst hEq
    have hCell := Segment.cell_of_linked hLinked
    have hSet := setNext_of_cell hCell link
    rw [List.map_append, List.nodup_append] at hNodup
    rw [Segment.last_concat]
    refine ⟨_, hSet, ?_, ?_⟩
    · apply Segment.linked_setNext hLinked
      · exact heap.put_cell_self _ hCell
      · intro b hb
        apply heap.put_cell_of_ne
        exact hNodup.2.2 b hb p (by simp)
    · intro b hb
      apply heap.put_cell_of_ne
      intro hEq
      apply hb
      simp [hEq]

/- The first node of a segment gets another prev link. -/
theorem setPrevUnlessNull_of_linked
    {heap : Heap (DplistNode E)}
    {ys : List (Nat × Option E)}
    {prev : Option Nat}
    (hLinked :
      Segment.Linked DplistNode.mk heap.cell prev ys none)
    (hNodup : (ys.map Prod.fst).Nodup)
    (link : Option Nat) :
    ∃ heap',
      setPrevUnlessNull heap (Segment.first ys none) link =
        .ok heap' ∧
      Segment.Linked DplistNode.mk heap'.cell link ys none ∧
      ∀ b, b ∉ ys.map Prod.fst →
        heap'.cell b = heap.cell b := by
  cases ys with
  | nil => exact ⟨heap, rfl, trivial, fun _ _ => rfl⟩
  | cons node ys =>
      rcases node with ⟨q, y⟩
      have hCell := hLinked.1
      have hSet := setPrev_of_cell hCell link
      rw [List.map_cons, List.nodup_cons] at hNodup
      refine ⟨_, hSet, ?_, ?_⟩
      · apply Segment.linked_setPrev hLinked
        · exact heap.put_cell_self _ hCell
        · intro b hb
          apply heap.put_cell_of_ne
          intro hEq
          exact hNodup.1 (hEq ▸ hb)
      · intro b hb
        apply heap.put_cell_of_ne
        intro hEq
        apply hb
        simp [hEq]

/-
  Both neighbours of a gap are redirected: the part before it
  to `next`, the part behind it to `prev`.
-/
theorem relink_of_linked
    {heap : Heap (DplistNode E)}
    {xs ys : List (Nat × Option E)}
    {nxt prev : Option Nat}
    (hXs :
      Segment.Linked DplistNode.mk heap.cell none xs nxt)
    (hYs :
      Segment.Linked DplistNode.mk heap.cell prev ys none)
    (hNodup : ((xs ++ ys).map Prod.fst).Nodup)
    (nxt' prev' : Option Nat) :
    ∃ heap₁ heap₂,
      setNextUnlessNull heap (Segment.last none xs) nxt' =
        .ok heap₁ ∧
      setPrevUnlessNull heap₁ (Segment.first ys none)
          prev' =
        .ok heap₂ ∧
      Segment.Linked DplistNode.mk heap₂.cell none xs nxt' ∧
      Segment.Linked DplistNode.mk heap₂.cell prev' ys
        none ∧
      (∀ b, b ∉ xs.map Prod.fst →
        heap₁.cell b = heap.cell b) ∧
      ∀ b, b ∉ (xs ++ ys).map Prod.fst →
        heap₂.cell b = heap.cell b := by
  rw [List.map_append] at hNodup ⊢
  rcases List.nodup_append.mp hNodup with
    ⟨hNodupXs, hNodupYs, hDisjoint⟩
  rcases setNextUnlessNull_of_linked hXs hNodupXs nxt' with
    ⟨heap₁, hSet₁, hXs₁, hFrame₁⟩
  have hYs₁ :
      Segment.Linked DplistNode.mk heap₁.cell prev ys
        none := by
    apply Segment.linked_congr _ hYs
    intro b hb
    apply hFrame₁
    intro hXsMem
    exact hDisjoint b hXsMem b hb rfl
  rcases setPrevUnlessNull_of_linked hYs₁ hNodupYs prev' with
    ⟨heap₂, hSet₂, hYs₂, hFrame₂⟩
  refine
    ⟨heap₁, heap₂, hSet₁, hSet₂, ?_, hYs₂, hFrame₁, ?_⟩
  · apply Segment.linked_congr _ hXs₁
    intro b hb
    apply hFrame₂
    intro hYsMem
    exact hDisjoint b hb b hYsMem rfl
  · intro b hb
    rw [List.mem_append, not_or] at hb
    rw [hFrame₂ b hb.2, hFrame₁ b hb.1]

/-
  A new node in a gap: it is allocated with its links, and
  its neighbours are redirected to it.
-/
theorem insertNode_of_chain
    {heap : Heap (DplistNode E)}
    {head : Option Nat}
    (xs ys : List (Nat × Option E))
    (hChain : Chain DplistNode.mk heap head (xs ++ ys))
    (x : Option E) :
    ∃ heap₁ heap₂,
      setNextUnlessNull
          (heap.alloc
            ⟨Segment.last none xs, Segment.first ys none, x⟩)
          (Segment.last none xs) (some heap.next) =
        .ok heap₁ ∧
      setPrevUnlessNull heap₁ (Segment.first ys none)
          (some heap.next) =
        .ok heap₂ ∧
      Chain DplistNode.mk heap₂
        (Segment.first (xs ++ (heap.next, x) :: ys) none)
        (xs ++ (heap.next, x) :: ys) := by
  have hFresh := hChain.next_not_mem
  rcases (Segment.linked_append _ _ _ _).mp hChain.linked
    with ⟨hXs, hYs⟩
  have hAlloc :
      ∀ b ∈ (xs ++ ys).map Prod.fst,
        (heap.alloc
          ⟨Segment.last none xs, Segment.first ys none,
            x⟩).cell b =
          heap.cell b := by
    intro b hb
    apply heap.alloc_cell_of_ne
    intro hEq
    exact hFresh (hEq ▸ hb)
  rw [List.map_append] at hAlloc
  rcases relink_of_linked
      (Segment.linked_congr
        (fun b hb => hAlloc b (List.mem_append_left _ hb))
        hXs)
      (Segment.linked_congr
        (fun b hb => hAlloc b (List.mem_append_right _ hb))
        hYs)
      hChain.nodup (some heap.next) (some heap.next) with
    ⟨heap₁, heap₂, hSet₁, hSet₂, hXs₂, hYs₂, _, hFrame⟩
  refine ⟨heap₁, heap₂, hSet₁, hSet₂, ?_⟩
  apply Chain.of_parts hXs₂ _ hYs₂ hFresh hChain.nodup
  rw [hFrame _ hFresh]
  exact heap.alloc_cell_new _

/- A list that starts with a node starts at its address. -/
theorem first_of_ne_nil
    {xs : List (Nat × Option E)}
    (hNe : xs ≠ []) :
    ∃ head, ∀ ys nxt,
      Segment.first (xs ++ ys) nxt = some head := by
  cases xs with
  | nil => exact absurd rfl hNe
  | cons x xs => exact ⟨x.1, fun _ _ => rfl⟩

/- The insert in front of the node that `index` refers to. -/
theorem dplInsertAtIndex_middle
    {xs ys : List (Nat × Option E)}
    {b : Nat}
    {z : Option E}
    (hRep :
      m.Represents elementCopy elementFree
        (xs ++ (b, z) :: ys))
    {index : Int}
    (hPos : 0 < index)
    (hIndex : index = xs.length)
    (element copied : Option E)
    (insertCopy : Bool) :
    ∃ m',
      dplInsertAtIndex m element copied index insertCopy
          true =
        .ok (true, m') ∧
      m'.Represents elementCopy elementFree
        (xs ++
          (m.heap.next,
            storedElement insertCopy elementCopy element
              copied) :: (b, z) :: ys) ∧
      m'.elementFreed = m.elementFreed := by
  have hSize := dplSize_of_represents hRep
  have hClamp :
      xs.length =
        clampIndex index
          ((xs ++ (b, z) :: ys).length - 1) := by
    rw [hIndex, clampIndex_natCast]
    rw [List.length_append, List.length_cons]
    omega
  have hReference :=
    dplGetReferenceAtIndex_of_represents hRep rfl hClamp
  have hCell := Segment.cell_of_linked hRep.chain.linked
  have hBelow :
      index < ((xs ++ (b, z) :: ys).length : Int) := by
    rw [hIndex, List.length_append, List.length_cons]
    omega
  have hNe : xs ≠ [] := by
    intro hNil
    rw [hNil, List.length_nil] at hIndex
    omega
  have hPrev : Segment.last none xs ≠ none := by
    rw [ne_eq, Segment.last_none_iff]
    exact hNe
  rcases first_of_ne_nil hNe with ⟨head, hHead⟩
  have hList := hRep.list_eq
  rw [hHead] at hList
  rcases insertNode_of_chain xs ((b, z) :: ys) hRep.chain
      (storedElement insertCopy elementCopy element
        copied) with
    ⟨heap₁, heap₂, hSet₁, hSet₂, hChain⟩
  rw [setNextUnlessNull, if_neg hPrev] at hSet₁
  have hSet₂' :
      setPrev heap₁ (some b) (some m.heap.next) =
        .ok heap₂ := hSet₂
  simp only [Segment.first_cons] at hSet₁
  refine ⟨{ m with heap := heap₂ }, ?_, ⟨?_, hChain⟩, rfl⟩
  · simp only [dplInsertAtIndex, hList, Bool.not_true,
      Bool.false_eq_true, if_false, hReference,
      Fault.ok_bind, reduceCtorEq, m.heap.read_of_cell hCell,
      hSize, if_pos hBelow, if_neg (Int.not_le.mpr hPos), hSet₁,
      hSet₂', Fault.pure_eq_ok]
  · rw [hHead]
    exact hList

/- The insert behind the last node. -/
theorem dplInsertAtIndex_back
    (hRep : m.Represents elementCopy elementFree nodes)
    (hNe : nodes ≠ [])
    {index : Int}
    (hIndex : (nodes.length : Int) ≤ index)
    (element copied : Option E)
    (insertCopy : Bool) :
    ∃ m',
      dplInsertAtIndex m element copied index insertCopy
          true =
        .ok (true, m') ∧
      m'.Represents elementCopy elementFree
        (nodes ++
          [(m.heap.next,
            storedElement insertCopy elementCopy element
              copied)]) ∧
      m'.elementFreed = m.elementFreed := by
  have hLength := List.length_pos_iff.mpr hNe
  have hPos : 0 < index := by
    omega
  have hSize := dplSize_of_represents hRep
  rcases first_of_ne_nil hNe with ⟨head, hHead⟩
  have hList := hRep.list_eq
  have hHead' := hHead [] none
  rw [List.append_nil] at hHead'
  rw [hHead'] at hList
  rcases insertNode_of_chain nodes []
      (by
        rw [List.append_nil]
        exact hRep.chain)
      (storedElement insertCopy elementCopy element
        copied) with
    ⟨heap₁, heap₂, hSet₁, hSet₂, hChain⟩
  cases hSet₂
  rcases List.eq_nil_or_concat' nodes with
    hNil | ⟨xs, ⟨b, z⟩, hEq⟩
  · exact absurd hNil hNe
  · have hClamp :
        xs.length = clampIndex index (nodes.length - 1) := by
      rw [hEq, List.length_append, List.length_singleton]
        at hIndex ⊢
      rw [clampIndex]
      omega
    have hReference :=
      dplGetReferenceAtIndex_of_represents hRep hEq hClamp
    have hLinked := hRep.chain.linked
    rw [hEq] at hLinked
    have hCell := Segment.cell_of_linked hLinked
    have hLast : Segment.last none nodes = some b := by
      rw [hEq, Segment.last_concat]
    rw [hLast] at hSet₁
    have hSet₁' :
        setNext
            (m.heap.alloc
              ⟨some b, none,
                storedElement insertCopy elementCopy element
              copied⟩)
            (some b) (some m.heap.next) =
          .ok heap₁ := hSet₁
    refine
      ⟨{ m with heap := heap₁ }, ?_, ⟨?_, hChain⟩, rfl⟩
    · simp only [dplInsertAtIndex, hList, Bool.not_true,
        Bool.false_eq_true, if_false, hReference,
        Fault.ok_bind, reduceCtorEq,
        m.heap.read_of_cell hCell, hSize,
        if_neg (Int.not_lt.mpr hIndex),
        if_neg (Int.not_le.mpr hPos), Segment.first_nil,
        ne_eq, not_true_eq_false, hSet₁',
        Fault.pure_eq_ok]
    · rw [hHead]
      exact hList

/- The insert in front of all nodes. -/
theorem dplInsertAtIndex_front
    (hRep : m.Represents elementCopy elementFree nodes)
    {index : Int}
    (hIndex : nodes = [] ∨ index ≤ 0)
    (element copied : Option E)
    (insertCopy : Bool) :
    ∃ m',
      dplInsertAtIndex m element copied index insertCopy
          true =
        .ok (true, m') ∧
      m'.Represents elementCopy elementFree
        ((m.heap.next,
          storedElement insertCopy elementCopy element
              copied) :: nodes) ∧
      m'.elementFreed = m.elementFreed := by
  have hList := hRep.list_eq
  rcases insertNode_of_chain [] nodes hRep.chain
      (storedElement insertCopy elementCopy element
        copied) with
    ⟨heap₁, heap₂, hSet₁, hSet₂, hChain⟩
  cases hSet₁
  refine
    ⟨{ m with
        heap := heap₂
        list := some
          { head := some m.heap.next
            elementCopy := elementCopy
            elementFree := elementFree } },
      ?_, ⟨rfl, hChain⟩, rfl⟩
  cases nodes with
  | nil =>
      cases hSet₂
      simp only [dplInsertAtIndex, hList, Bool.not_true,
        Bool.false_eq_true, if_false, Segment.first_nil,
        Segment.last_nil]
  | cons node rest =>
      have hFront : index ≤ 0 := by
        simpa using hIndex
      rcases node with ⟨q, y⟩
      have hSet₂' :
          setPrev
              (m.heap.alloc
                ⟨none, some q,
                  storedElement insertCopy elementCopy element
              copied⟩)
              (some q) (some m.heap.next) =
            .ok heap₂ := hSet₂
      simp only [dplInsertAtIndex, hList, Bool.not_true,
        Bool.false_eq_true, if_false, Segment.first_cons,
        if_pos hFront, hSet₂', Fault.ok_bind,
        Fault.pure_eq_ok]

/- An insert puts the element at the clamped position. -/
theorem dplInsertAtIndex_of_represents
    (hRep : m.Represents elementCopy elementFree nodes)
    (element copied : Option E)
    (index : Int)
    (insertCopy : Bool) :
    ∃ m',
      dplInsertAtIndex m element copied index insertCopy
          true =
        .ok (true, m') ∧
      m'.Represents elementCopy elementFree
        (ClampedList.insertAt nodes index
          (m.heap.next,
            storedElement insertCopy elementCopy element
              copied)) ∧
      m'.elementFreed = m.elementFreed := by
  by_cases hFront : nodes = [] ∨ index ≤ 0
  · have hAt :
        ∀ x, ClampedList.insertAt nodes index x =
          x :: nodes := by
      intro x
      apply ClampedList.insertAt_split [] nodes
      rcases hFront with hNil | hIndex
      · rw [hNil]
        exact (Nat.le_zero.mp (clampIndex_le index 0)).symm
      · rw [clampIndex_of_nonpos hIndex]
        rfl
    rw [hAt]
    exact dplInsertAtIndex_front hRep hFront element copied
      insertCopy
  · rw [not_or] at hFront
    by_cases hBack : (nodes.length : Int) ≤ index
    · have hAt :
          ∀ x, ClampedList.insertAt nodes index x =
            nodes ++ [x] := by
        intro x
        have hEnd :
            nodes.length =
              clampIndex index (nodes ++ []).length := by
          rw [List.append_nil, clampIndex]
          omega
        have hSplit :=
          ClampedList.insertAt_split nodes [] hEnd x
        rwa [List.append_nil] at hSplit
      rw [hAt]
      exact dplInsertAtIndex_back hRep hFront.1 hBack element
        copied insertCopy
    · have hLt : index.toNat < nodes.length := by
        omega
      rcases ClampedList.exists_split nodes hLt with
        ⟨xs, ⟨b, z⟩, ys, hSplit, hLength⟩
      subst hSplit
      have hIndex : index = xs.length := by
        omega
      rw [ClampedList.insertAt_split xs _ (by
        rw [hIndex, clampIndex_natCast]
        rw [List.length_append]
        omega)]
      exact dplInsertAtIndex_middle hRep (by omega) hIndex
        element copied insertCopy

/-
  A node leaves a chain: its neighbours are redirected to
  each other, and then it is freed.
-/
theorem removeNode_of_chain
    {heap : Heap (DplistNode E)}
    {head : Option Nat}
    {xs ys : List (Nat × Option E)}
    {b : Nat}
    {z : Option E}
    (hChain :
      Chain DplistNode.mk heap head (xs ++ (b, z) :: ys)) :
    ∃ heap₁ heap₂,
      setNextUnlessNull heap (Segment.last none xs)
          (Segment.first ys none) =
        .ok heap₁ ∧
      setPrevUnlessNull heap₁ (Segment.first ys none)
          (Segment.last none xs) =
        .ok heap₂ ∧
      heap₁.cell b = heap.cell b ∧
      heap₂.cell b = heap.cell b ∧
      Chain DplistNode.mk (heap₂.drop b)
        (Segment.first (xs ++ ys) none) (xs ++ ys) := by
  rcases (Segment.linked_append _ _ _ _).mp hChain.linked
    with ⟨hXs, _, hYs⟩
  have hNodup := hChain.nodup
  rw [List.map_append, List.map_cons, List.nodup_middle,
    List.nodup_cons, ← List.map_append] at hNodup
  rcases relink_of_linked hXs hYs hNodup.2
      (Segment.first ys none) (Segment.last none xs) with
    ⟨heap₁, heap₂, hSet₁, hSet₂, hXs₂, hYs₂, hFrame₁,
      hFrame₂⟩
  refine ⟨heap₁, heap₂, hSet₁, hSet₂, ?_,
    hFrame₂ b hNodup.1, rfl, ?_, hNodup.2⟩
  · apply hFrame₁
    intro hMem
    apply hNodup.1
    rw [List.map_append]
    exact List.mem_append_left _ hMem
  · have hLinked :
        Segment.Linked DplistNode.mk heap₂.cell none
          (xs ++ ys) none :=
      (Segment.linked_append _ _ _ _).mpr ⟨hXs₂, hYs₂⟩
    apply Segment.linked_congr _ hLinked
    intro c hc
    apply heap₂.drop_cell_of_ne
    intro hEq
    exact hNodup.1 (hEq ▸ hc)

/- A removal deletes the node at the clamped position. -/
theorem dplRemoveAtIndex_of_split
    {xs ys : List (Nat × Option E)}
    {b : Nat}
    {z : Option E}
    (hRep :
      m.Represents elementCopy elementFree
        (xs ++ (b, z) :: ys))
    {index : Int}
    (hIndex :
      xs.length =
        clampIndex index
          ((xs ++ (b, z) :: ys).length - 1))
    (freeElement : Bool) :
    ∃ m',
      dplRemoveAtIndex m index freeElement = .ok m' ∧
      m'.Represents elementCopy elementFree (xs ++ ys) ∧
      m'.elementFreed =
        callElementFree elementFree freeElement
          m.elementFreed z := by
  rcases removeNode_of_chain hRep.chain with
    ⟨heap₁, heap₂, hSet₁, hSet₂, hCell₁, hCell₂, hChain⟩
  have hCell := Segment.cell_of_linked hRep.chain.linked
  rw [hCell] at hCell₁ hCell₂
  refine
    ⟨{ heap := heap₂.drop b
       list := some
        { head := Segment.first (xs ++ ys) none
          elementCopy := elementCopy
          elementFree := elementFree }
       elementFreed :=
        callElementFree elementFree freeElement
          m.elementFreed z }, ?_, ⟨rfl, hChain⟩, rfl⟩
  by_cases hFront : index ≤ 0
  · -- the head is removed
    rw [clampIndex_of_nonpos hFront,
      List.length_eq_zero_iff] at hIndex
    subst hIndex
    cases hSet₁
    simp only [dplRemoveAtIndex, hRep.list_eq,
      Segment.first_cons, List.nil_append, if_pos hFront,
      m.heap.read_of_cell hCell, Fault.ok_bind]
    simp only [Segment.last_nil] at hSet₂
    rw [hSet₂]
    simp only [Fault.ok_bind, heap₂.free_of_cell hCell₂]
  · -- the walk finds the node
    have hHead :
        ∃ a x rest,
          xs ++ (b, z) :: ys = (a, x) :: rest ∧
            Segment.first (xs ++ ys) none =
              if b = a then
                Segment.first ys none
              else
                some a := by
      cases xs with
      | nil => exact ⟨b, z, ys, rfl, by simp⟩
      | cons node xs =>
          rcases node with ⟨a, x⟩
          have hNe : b ≠ a := by
            intro hEq
            have hNodup := hRep.chain.nodup
            rw [hEq, List.cons_append, List.map_cons,
              List.nodup_cons] at hNodup
            apply hNodup.1
            simp
          exact ⟨a, x, _, rfl, by simp [hNe]⟩
    rcases hHead with ⟨a, x, rest, hCons, hHead⟩
    have hWalk :
        dplWalk m.heap index (m.heap.next + 1) a 0 =
          .ok b := by
      rw [hCons] at hRep hIndex
      exact dplWalk_of_represents hRep hCons.symm (by omega)
        hIndex
    have hList := hRep.list_eq
    rw [hCons, Segment.first_cons] at hList
    simp only [dplRemoveAtIndex, hList, if_neg hFront, hWalk,
      Fault.ok_bind, m.heap.read_of_cell hCell, hSet₁,
      heap₁.read_of_cell hCell₁, hSet₂,
      heap₂.read_of_cell hCell₂, heap₂.free_of_cell hCell₂,
      hHead]

/- A removal deletes the node at the clamped position. -/
theorem dplRemoveAtIndex_of_represents
    (hRep : m.Represents elementCopy elementFree nodes)
    (index : Int)
    (freeElement : Bool) :
    ∃ m',
      dplRemoveAtIndex m index freeElement = .ok m' ∧
      m'.Represents elementCopy elementFree
        (ClampedList.removeAt nodes index) := by
  by_cases hNil : nodes = []
  · subst hNil
    refine ⟨m, ?_, hRep⟩
    simp [dplRemoveAtIndex, hRep.list_eq]
  · rcases ClampedList.exists_split_clamped hNil index with
      ⟨xs, ⟨b, z⟩, ys, hSplit, hIndex⟩
    subst hSplit
    rcases dplRemoveAtIndex_of_split hRep hIndex freeElement
      with ⟨m', hRemove, hRep', _⟩
    rw [ClampedList.removeAt_split xs ys hIndex]
    exact ⟨m', hRemove, hRep'⟩

------------------------------------------------------------
-- The End of a List
------------------------------------------------------------

/- What `dpl_free` gives to `element_free`, in order. -/
def freedElements
    (elementFree freeElement : Bool)
    (nodes : List (Nat × Option E)) :
    List (Option E) :=
  if freeElement && elementFree then
    (nodes.map Prod.snd).filter Option.isSome
  else
    []

/-
  The loop frees the nodes in order, and gives their elements
  to `element_free`, except the null ones. Induction over the
  chain.
-/
theorem dplFreeLoop_of_linked
    (list : Dplist)
    (freeElement : Bool)
    {heap : Heap (DplistNode E)}
    {p : Option Nat}
    (hLinked :
      Segment.Linked DplistNode.mk heap.cell p nodes none)
    (hNodup : (nodes.map Prod.fst).Nodup)
    {fuel : Nat}
    (hFuel : nodes.length < fuel)
    (freed : List (Option E)) :
    ∃ heap',
      dplFreeLoop list freeElement fuel heap freed
          (Segment.first nodes none) =
        .ok
          (heap',
            freed ++
              freedElements list.elementFree freeElement
                nodes) ∧
      heap'.next = heap.next ∧
      heap'.freed = heap.freed ++ nodes.map Prod.fst := by
  induction nodes generalizing heap p fuel freed with
  | nil =>
      cases fuel with
      | zero => cases hFuel
      | succ fuel =>
          exact ⟨heap, by simp [dplFreeLoop, freedElements],
            rfl, by simp⟩
  | cons node nodes ih =>
      rcases node with ⟨a, x⟩
      rw [List.map_cons, List.nodup_cons] at hNodup
      cases fuel with
      | zero => cases hFuel
      | succ fuel =>
          have hCell := hLinked.1
          have hRest :
              Segment.Linked DplistNode.mk
                (heap.drop a).cell (some a) nodes none := by
            apply Segment.linked_congr _ hLinked.2
            intro c hMem
            apply Heap.drop_cell_of_ne
            intro hEq
            exact hNodup.1 (hEq ▸ hMem)
          rcases ih hRest hNodup.2
              (Nat.lt_of_succ_lt_succ hFuel)
              (if x.isSome then
                callElementFree list.elementFree freeElement
                  freed x
              else
                freed) with
            ⟨heap', hLoop, hNext, hFreed⟩
          refine ⟨heap', ?_, hNext, ?_⟩
          · simp only [dplFreeLoop, Segment.first_cons,
              reduceCtorEq, if_false,
              Heap.read_of_cell _ hCell,
              Heap.free_of_cell _ hCell, Fault.ok_bind]
            rw [hLoop]
            simp only [callElementFree, freedElements,
              List.map_cons]
            cases x with
            | none => simp
            | some y =>
                cases freeElement && list.elementFree with
                | false => simp
                | true => simp
          · rw [hFreed]
            simp [Heap.drop]

/-
  `dpl_free` frees the nodes of a list in order, and leaves no
  list.
-/
theorem dplFree_of_represents
    (hRep : m.Represents elementCopy elementFree nodes)
    (freeElement : Bool) :
    ∃ heap,
      dplFree m freeElement =
        .ok
          { heap := heap
            list := none
            elementFreed :=
              m.elementFreed ++
                freedElements elementFree freeElement
                  nodes } ∧
      heap.next = m.heap.next ∧
      heap.freed = m.heap.freed ++ nodes.map Prod.fst := by
  have hFuel : nodes.length < m.heap.next + 1 :=
    Nat.lt_succ_of_le hRep.chain.length_le_next
  rcases dplFreeLoop_of_linked
      { head := Segment.first nodes none
        elementCopy := elementCopy
        elementFree := elementFree }
      freeElement hRep.chain.linked hRep.chain.nodup hFuel
      m.elementFreed with
    ⟨heap, hLoop, hNext, hFreed⟩
  refine ⟨heap, ?_, hNext, hFreed⟩
  simp only [dplFree, hRep.list_eq, hLoop, Fault.ok_bind]

------------------------------------------------------------
-- Links in Both Directions
------------------------------------------------------------

/- The head of a list has no previous node. -/
theorem DplistMemory.Represents.prev_of_head
    (hRep : m.Represents elementCopy elementFree nodes)
    {a : Nat}
    (hHead : Segment.first nodes none = some a) :
    ∃ node,
      m.heap.cell a = some node ∧ node.prev = none := by
  cases nodes with
  | nil => cases hHead
  | cons entry rest =>
      rcases entry with ⟨b, x⟩
      cases hHead
      exact ⟨_, hRep.chain.linked.1, rfl⟩

/- The next node of a node has that node as its previous. -/
theorem DplistMemory.Represents.prev_of_next
    (hRep : m.Represents elementCopy elementFree nodes)
    {a b : Nat}
    {node : DplistNode E}
    (hMem : a ∈ nodes.map Prod.fst)
    (hCell : m.heap.cell a = some node)
    (hNext : node.next = some b) :
    ∃ node',
      m.heap.cell b = some node' ∧
        node'.prev = some a := by
  rcases List.mem_map.mp hMem with ⟨⟨a', x⟩, hPair, rfl⟩
  rcases List.mem_iff_append.mp hPair with
    ⟨xs, ys, hSplit⟩
  subst hSplit
  have hLinked := hRep.chain.linked
  rw [Segment.cell_of_linked hLinked] at hCell
  cases hCell
  cases ys with
  | nil => cases hNext
  | cons entry ys =>
      rcases entry with ⟨c, y⟩
      cases hNext
      rw [Segment.linked_append] at hLinked
      exact ⟨_, hLinked.2.2.1, rfl⟩

------------------------------------------------------------
-- Runs of Inserts and Removals
------------------------------------------------------------

/- A call that changes the list, with its arguments. -/
inductive DplistAction (E : Type) where
  | insert
      (element copied : Option E)
      (index : Int)
      (insertCopy : Bool)
  | remove (index : Int) (freeElement : Bool)

/- The call on the list in memory. -/
def dplistStep
    (m : DplistMemory E) :
    DplistAction E → Option (DplistMemory E)
| .insert element copied index insertCopy =>
    (dplInsertAtIndex m element copied index insertCopy
      true).toOption.map Prod.snd
| .remove index freeElement =>
    (dplRemoveAtIndex m index freeElement).toOption

/- What the call means for the list of elements. -/
def dplistAbstractStep
    (elementCopy : Bool)
    (elements : List (Option E)) :
    DplistAction E → List (Option E)
| .insert element copied index insertCopy =>
    ClampedList.insertAt elements index
      (storedElement insertCopy elementCopy element copied)
| .remove index _ => ClampedList.removeAt elements index

/- Calls in any order on a list that was just created. -/
def dplistSystem
    (E : Type)
    (elementCopy elementFree : Bool) :
    System (DplistMemory E) (DplistAction E) where
  init :=
    { heap := Heap.empty
      list := some
        { head := none
          elementCopy := elementCopy
          elementFree := elementFree }
      elementFreed := [] }
  step := dplistStep

/- The runs start with what `dpl_create` returns. -/
theorem dplistSystem_init
    (elementCopy elementFree : Bool) :
    dplCreate elementCopy elementFree true =
      .ok (dplistSystem E elementCopy elementFree).init :=
  rfl

/- One call, on the list in memory and on its elements. -/
theorem dplistStep_refines
    (hRep : m.Represents elementCopy elementFree nodes)
    (a : DplistAction E) :
    ∃ m' nodes',
      dplistStep m a = some m' ∧
        m'.Represents elementCopy elementFree nodes' ∧
        nodes'.map Prod.snd =
          dplistAbstractStep elementCopy
            (nodes.map Prod.snd) a := by
  cases a with
  | insert element copied index insertCopy =>
      rcases dplInsertAtIndex_of_represents hRep element
          copied index insertCopy with
        ⟨m', hInsert, hRep', _⟩
      refine ⟨m', _, ?_, hRep', ?_⟩
      · simp [dplistStep, hInsert, Except.toOption]
      · exact ClampedList.map_insertAt _ _ _ _
  | remove index freeElement =>
      rcases dplRemoveAtIndex_of_represents hRep index
          freeElement with
        ⟨m', hRemove, hRep'⟩
      refine ⟨m', _, ?_, hRep', ?_⟩
      · simp [dplistStep, hRemove, Except.toOption]
      · exact ClampedList.map_removeAt _ _ _

/- No call of any run faults, and the refinement holds. -/
theorem dplistSystem_represents
    (elementCopy elementFree : Bool)
    (actions : List (DplistAction E)) :
    ∃ m nodes,
      (dplistSystem E elementCopy elementFree).run actions =
          some m ∧
        m.Represents elementCopy elementFree nodes ∧
        nodes.map Prod.snd =
          actions.foldl (dplistAbstractStep elementCopy)
            [] := by
  induction actions using List.reverseRecOn with
  | nil => exact ⟨_, [], rfl, ⟨rfl, Chain.nil _⟩, rfl⟩
  | append_singleton actions a ih =>
      rcases ih with ⟨m, nodes, hRun, hRep, hElements⟩
      rcases dplistStep_refines hRep a with
        ⟨m', nodes', hStep, hRep', hElements'⟩
      refine ⟨m', nodes', ?_, hRep', ?_⟩
      · exact (System.run_snoc _ actions a m').mpr
          ⟨m, hRun, hStep⟩
      · rw [List.foldl_append, ← hElements]
        exact hElements'

/-
  After any calls with any indices, none of which faults, the
  nodes form one list with links in both directions, which
  ends in NULL and repeats no address; its elements are those
  of the abstract list; and the queries agree with it.
-/
theorem dplistSystem_refines
    (elementCopy elementFree : Bool)
    (actions : List (DplistAction E)) :
    ∃ m nodes head,
      (dplistSystem E elementCopy elementFree).run actions =
          some m ∧
        m.list = some ⟨head, elementCopy, elementFree⟩ ∧
        Chain DplistNode.mk m.heap head nodes ∧
        (∀ a, head = some a →
          ∃ node,
            m.heap.cell a = some node ∧
              node.prev = none) ∧
        (∀ a b node,
          a ∈ nodes.map Prod.fst →
            m.heap.cell a = some node →
              node.next = some b →
                ∃ node',
                  m.heap.cell b = some node' ∧
                    node'.prev = some a) ∧
        nodes.map Prod.snd =
          actions.foldl (dplistAbstractStep elementCopy)
            [] ∧
        dplSize m =
          .ok
            (actions.foldl (dplistAbstractStep elementCopy)
              []).length ∧
        ∀ index,
          dplGetElementAtIndex m index =
            .ok
              (ClampedList.getAt
                (actions.foldl
                  (dplistAbstractStep elementCopy) [])
                index).join := by
  rcases dplistSystem_represents elementCopy elementFree
      actions with
    ⟨m, nodes, hRun, hRep, hElements⟩
  refine ⟨m, nodes, _, hRun, hRep.list_eq, hRep.chain, ?_,
    ?_, hElements, ?_, ?_⟩
  · intro a hHead
    exact hRep.prev_of_head hHead
  · intro a b node hMem hCell hNext
    exact hRep.prev_of_next hMem hCell hNext
  · rw [dplSize_of_represents hRep, ← hElements,
      List.length_map]
  · intro index
    rw [← hElements]
    exact dplGetElementAtIndex_of_represents hRep index

end SensorGateway
