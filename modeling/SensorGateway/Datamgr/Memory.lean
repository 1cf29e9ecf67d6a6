import SensorGateway.Datamgr.Init
import SensorGateway.Dplist.History

/-
  The memory of the data manager from its first allocation to
  its end, with any outcomes of `malloc` in the loader: it
  allocates an entry for each pair of the map, and a node for
  each entry that gets one. The records allocate nothing. The
  end frees each node once, and each entry that has a node;
  an entry without a node is never freed.

  Key definitions include:
    * `Datamgr.Allocated`
    * `Datamgr.Settled`
    * `LoaderMallocs.stored`

  Key theorems include:
    * `loadEntriesWith_allocated`
    * `handleRecord_allocated`
    * `datamgrFree_settled`
    * `dataManagerInit_settled`
-/

------------------------------------------------------------
-- Counting Allocations
------------------------------------------------------------

namespace SensorGateway

open Foundations

section Counting

variable {V : Type}
variable {L : Nat}

/-
  There were `n` allocations of entries, and one of a node for
  each of the entries `stored`, to which the nodes of the list
  point, the last one first. Nothing was freed.
-/
structure Datamgr.Allocated
    (s : Datamgr V L)
    (n : Nat)
    (stored : List Nat) : Prop where
  nodes_next : s.dataList.heap.next = stored.length
  nodes_freed : s.dataList.heap.freed = []
  passed : s.dataList.elementFreed = []
  pointers :
    ∃ nodes,
      s.dataList.Represents true true nodes ∧
        nodes.map Prod.snd = (stored.map some).reverse
  elements_next : s.elements.next = n
  elements_freed : s.elements.freed = []

/-
  There is no list. Of the nodes for the entries `stored`,
  each was freed once. Of the `n` entries, those were freed
  once, and no other one was.
-/
structure Datamgr.Settled
    (s : Datamgr V L)
    (n : Nat)
    (stored : List Nat) : Prop where
  list_null : s.dataList.list = none
  nodes_next : s.dataList.heap.next = stored.length
  nodes_once :
    s.dataList.heap.freed.Perm (List.range stored.length)
  elements_next : s.elements.next = n
  elements_once : s.elements.freed.Perm stored

/- The entries of `n` pairs that get a node. -/
def LoaderMallocs.stored
    (mallocs : LoaderMallocs)
    (n : Nat) : List Nat :=
  storedItems mallocs.entry (List.range n)

theorem LoaderMallocs.succeed_stored
    (n : Nat) :
    LoaderMallocs.succeed.stored n = List.range n :=
  storedItems_succeed _

/- They are as many as the pairs that get a node. -/
theorem LoaderMallocs.length_stored
    {α : Type}
    (mallocs : LoaderMallocs)
    (xs : List α) :
    (mallocs.stored xs.length).length =
      (storedItems mallocs.entry xs).length := by
  have hLengths :
      ∀ (entry : Nat → EntryMallocs) (ys : List Nat),
        ys.length = xs.length →
          (storedItems entry ys).length =
            (storedItems entry xs).length := by
    induction xs with
    | nil =>
        intro entry ys hLength
        rw [List.length_eq_zero_iff.mp hLength]
        rfl
    | cons x xs ih =>
        intro entry ys hLength
        cases ys with
        | nil => cases hLength
        | cons y ys =>
            have hRest :=
              ih (fun i => entry (i + 1)) ys
                (Nat.succ.inj hLength)
            rw [storedItems, storedItems]
            split
            · exact congrArg (· + 1) hRest
            · exact hRest
  exact hLengths _ _ List.length_range

/- Distinct addresses of a heap, as many as were handed out. -/
theorem perm_range_of_nodup
    {addresses : List Nat}
    {n : Nat}
    (hNodup : addresses.Nodup)
    (hLength : addresses.length = n)
    (hLt : ∀ a ∈ addresses, a < n) :
    addresses.Perm (List.range n) := by
  have hSubset : addresses ⊆ List.range n := by
    intro a hMem
    exact List.mem_range.mpr (hLt a hMem)
  apply (hNodup.subperm hSubset).perm_of_length_le
  rw [List.length_range, hLength]

end Counting

------------------------------------------------------------
-- The Loader and the Records
------------------------------------------------------------

section Allocating

variable {V : Type}
variable (cfg : DatamgrConfig V)
variable {s s' : Datamgr V cfg.RUN_AVG_LENGTH}
variable {n : Nat}
variable {stored : List Nat}

/- A pair of the map takes an entry, and a node if it can. -/
theorem loadEntryWith_allocated
    (h : s.Allocated n stored)
    {mallocs : EntryMallocs}
    {roomID sensorID : BitVec 16}
    (hEntry :
      loadEntryWith cfg mallocs s roomID sensorID =
        .ok s') :
    s'.Allocated (n + 1)
      (if mallocs.listNode then stored ++ [n] else stored) := by
  rcases h.pointers with ⟨nodes, hRep, hPointers⟩
  unfold loadEntryWith at hEntry
  split at hEntry
  · cases hNode : mallocs.listNode with
    | false =>
        simp only [hNode, dplInsertAtIndex, hRep.list_eq,
          Bool.not_false, if_true, Fault.ok_bind,
          Fault.pure_eq_ok] at hEntry
        cases hEntry
        exact
          ⟨h.nodes_next, h.nodes_freed, h.passed,
            ⟨nodes, hRep, hPointers⟩,
            congrArg (· + 1) h.elements_next,
            h.elements_freed⟩
    | true =>
        rcases dplInsertAtIndex_front hRep
            (Or.inr (Int.le_refl 0)) (some s.elements.next)
            none false with
          ⟨dataList, hInsert, hRep', hPassed⟩
        rcases dplInsertAtIndex_relinks hInsert with
          ⟨list, p, q, _, hRelinks⟩
        simp only [hNode, hInsert, Fault.ok_bind,
          Fault.pure_eq_ok] at hEntry
        cases hEntry
        refine ⟨?_, hRelinks.freed_eq.trans h.nodes_freed,
          hPassed.trans h.passed, ⟨_, hRep', ?_⟩,
          congrArg (· + 1) h.elements_next,
          h.elements_freed⟩
        · rw [if_pos rfl, List.length_append]
          exact hRelinks.next_eq.trans
            (congrArg (· + 1) h.nodes_next)
        · rw [if_pos rfl, List.map_cons, hPointers,
            h.elements_next]
          simp [storedElement]
  · cases hEntry

/- The loader takes an entry for each pair. -/
theorem loadEntriesWith_allocated
    {mallocs : Nat → EntryMallocs}
    (h : s.Allocated n stored)
    {pairs : List (BitVec 16 × BitVec 16)}
    (hLoad : loadEntriesWith cfg mallocs s pairs = .ok s') :
    s'.Allocated (n + pairs.length)
      (stored ++
        storedItems mallocs
          (List.range' n pairs.length)) := by
  induction pairs generalizing mallocs s n stored with
  | nil =>
      cases hLoad
      rw [List.length_nil, List.range'_zero, storedItems,
        List.append_nil]
      exact h
  | cons pair pairs ih =>
      rw [loadEntriesWith] at hLoad
      rcases Fault.bind_eq_ok.mp hLoad with
        ⟨s₁, hEntry, hRest⟩
      have hAll :=
        ih (loadEntryWith_allocated cfg h hEntry) hRest
      rw [List.length_cons, List.range'_succ, storedItems,
        Nat.add_comm pairs.length, ← Nat.add_assoc]
      split
      · rename_i hNode
        rw [if_pos hNode, List.append_assoc,
          List.singleton_append] at hAll
        exact hAll
      · rename_i hNode
        rw [if_neg hNode] at hAll
        exact hAll

/- The same for the whole loader. -/
theorem loadMapWith_allocated
    {mallocs : LoaderMallocs}
    {pairs : List (BitVec 16 × BitVec 16)}
    (hLoad : loadMapWith cfg mallocs pairs = .ok s) :
    s.Allocated pairs.length
      (mallocs.stored pairs.length) := by
  rw [loadMapWith] at hLoad
  rcases Fault.bind_eq_ok.mp hLoad with
    ⟨dataList, hCreate, hRest⟩
  cases hMemory : mallocs.dplCreate with
  | false =>
      rw [hMemory] at hCreate
      cases hCreate
  | true =>
      rw [hMemory] at hCreate
      cases hCreate
      have hCreated :
          Datamgr.Allocated
            (V := V) (L := cfg.RUN_AVG_LENGTH)
            { dataList := (dplistSystem Nat true true).init
              elements := Heap.empty } 0 [] :=
        ⟨rfl, rfl, rfl, ⟨[], ⟨rfl, Chain.nil _⟩, rfl⟩, rfl,
          rfl⟩
      have hAll :=
        loadEntriesWith_allocated cfg hCreated hRest
      rw [Nat.zero_add, List.nil_append,
        ← List.range_eq_range'] at hAll
      exact hAll

theorem loadMap_allocated
    {pairs : List (BitVec 16 × BitVec 16)}
    (hLoad : loadMap cfg pairs = .ok s) :
    s.Allocated pairs.length (List.range pairs.length) := by
  rw [← LoaderMallocs.succeed_stored]
  exact loadMapWith_allocated cfg hLoad

variable [Preorder V]
variable [DecidableLT V]

/- A record takes none. -/
theorem handleRecord_allocated
    (h : s.Allocated n stored)
    {record : SensorData V}
    {msgs : List (LogMsg V)}
    (hHandle : handleRecord cfg s record = .ok (s', msgs)) :
    s'.Allocated n stored := by
  unfold handleRecord at hHandle
  rcases Fault.bind_eq_ok.mp hHandle with
    ⟨tmp, _, hFound⟩
  split at hFound
  · cases hFound
    exact h
  · rcases Fault.bind_eq_ok.mp hFound with ⟨e, _, hStore⟩
    rcases Fault.bind_eq_ok.mp hStore with
      ⟨elements, hWrite, hReturn⟩
    cases hReturn
    rcases Heap.write_eq_ok hWrite with ⟨a, _, rfl⟩
    exact
      ⟨h.nodes_next, h.nodes_freed, h.passed, h.pointers,
        h.elements_next, h.elements_freed⟩

theorem datamgrLoop_allocated
    (h : s.Allocated n stored)
    {records : List (SensorData V)}
    {msgs : List (LogMsg V)}
    (hLoop : datamgrLoop cfg s records = .ok (s', msgs)) :
    s'.Allocated n stored := by
  induction records generalizing s msgs with
  | nil =>
      cases hLoop
      exact h
  | cons record records ih =>
      rw [datamgrLoop] at hLoop
      split at hLoop
      · cases hLoop
        exact h
      · rcases Fault.bind_eq_ok.mp hLoop with
          ⟨⟨s₁, first⟩, hHandle, hRest⟩
        rcases Fault.bind_eq_ok.mp hRest with
          ⟨⟨s₂, rest⟩, hLater, hReturn⟩
        cases hReturn
        exact ih (handleRecord_allocated cfg h hHandle)
          hLater

end Allocating

------------------------------------------------------------
-- The End of the List
------------------------------------------------------------

section Ending

variable {V : Type}
variable {L : Nat}
variable {s s' : Datamgr V L}
variable {n : Nat}
variable {stored : List Nat}

/- `element_free` frees what it is called on. -/
theorem freeElements_freed
    {elements elements' : Heap (ListElement V L)}
    {pointers : List Nat}
    (hFree :
      freeElements elements (pointers.map some) =
        .ok elements') :
    elements'.next = elements.next ∧
      elements'.freed = elements.freed ++ pointers := by
  induction pointers generalizing elements with
  | nil =>
      cases hFree
      exact ⟨rfl, (List.append_nil _).symm⟩
  | cons p pointers ih =>
      rw [List.map_cons, freeElements,
        if_neg (Option.some_ne_none _)] at hFree
      rcases Fault.bind_eq_ok.mp hFree with
        ⟨dropped, hDrop, hRest⟩
      rcases ih hRest with ⟨hNext, hFreed⟩
      rw [Heap.free_eq_ok hDrop] at hNext hFreed
      refine ⟨hNext, ?_⟩
      rw [hFreed, Heap.drop, List.append_assoc]
      rfl

/- `datamgr_free` frees the nodes, and what they point to. -/
theorem datamgrFree_settled
    (h : s.Allocated n stored)
    (hEnd : datamgrFree s = .ok s') :
    s'.Settled n stored := by
  rcases h.pointers with ⟨nodes, hRep, hPointers⟩
  have hLength : nodes.length = stored.length := by
    have hMap := congrArg List.length hPointers
    simpa using hMap
  have hList : s.dataList.list ≠ none := by
    rw [hRep.list_eq]
    exact Option.some_ne_none _
  rcases dplFree_of_represents hRep true with
    ⟨heap, hFree, hNext, hFreed⟩
  have hPassed :
      (nodes.map Prod.snd).filter Option.isSome =
        stored.reverse.map some := by
    rw [hPointers, ← List.map_reverse,
      List.filter_eq_self.mpr]
    intro x hMem
    rcases List.mem_map.mp hMem with ⟨p, _, rfl⟩
    rfl
  rw [datamgrFree, if_neg hList] at hEnd
  simp only [hFree, Fault.ok_bind, List.drop_left,
    freedElements, Bool.and_self, if_true, hPassed] at hEnd
  rcases Fault.bind_eq_ok.mp hEnd with
    ⟨elements, hElements, hReturn⟩
  cases hReturn
  rcases freeElements_freed hElements with
    ⟨hElementsNext, hElementsFreed⟩
  refine ⟨rfl, hNext.trans h.nodes_next, ?_,
    hElementsNext.trans h.elements_next, ?_⟩
  · simp only [hFreed, h.nodes_freed, List.nil_append]
    refine perm_range_of_nodup hRep.chain.nodup
      (by rw [List.length_map, hLength]) ?_
    intro a hMem
    rcases Segment.exists_cell_of_mem hRep.chain.linked
        hMem with
      ⟨node, hCell⟩
    rw [← h.nodes_next]
    exact s.dataList.heap.lt_next_of_cell hCell
  · simp only [hElementsFreed, h.elements_freed,
      List.nil_append]
    exact List.reverse_perm stored

end Ending

------------------------------------------------------------
-- The Whole Run
------------------------------------------------------------

section Run

variable {V : Type}
variable (cfg : DatamgrConfig V)
variable [Preorder V]
variable [DecidableLT V]

/- The reading loop goes through any records. -/
theorem datamgrLoop_of_any
    {s : Datamgr V cfg.RUN_AVG_LENGTH}
    {entries : List (ListElement V cfg.RUN_AVG_LENGTH)}
    (h : s.Holds entries)
    (records : List (SensorData V)) :
    ∃ s' msgs,
      datamgrLoop cfg s records = .ok (s', msgs) := by
  by_cases hMarker : ∃ record ∈ records, record.id = 0
  · rcases datamgrLoop_to_marker cfg h hMarker with
      ⟨s', hLoop, _⟩
    exact ⟨s', _, hLoop⟩
  · have hIds : ∀ record ∈ records, record.id ≠ 0 :=
      fun record hMem hId => hMarker ⟨record, hMem, hId⟩
    rcases datamgrLoop_waiting_of_holds cfg h hIds with
      ⟨s', hLoop, _⟩
    exact ⟨s', _, hLoop⟩

/-
  The memory of a run, for all outcomes of the allocations.
  If `dpl_create` has no memory, a null pointer is followed,
  and if an entry has none, the process ends.

  Otherwise the loader allocates an entry for each pair, and a
  node for those that get one. At each record they are still
  there, and nothing else is. If there are no nodes, the
  printing ends the process. If there are, the function
  returns, each node has been freed once, and so has each
  entry that had one; the other entries are lost.
-/
theorem dataManagerInit_settled
    (mallocs : LoaderMallocs)
    (contents : List (BitVec 8))
    (records : List (SensorData V))
    (hMarker : ∃ record ∈ records, record.id = 0) :
    let n := (mapPairs contents).length
    (mallocs.dplCreate = false →
      dataManagerInitWith cfg mallocs (some contents)
          records =
        .error .nullPointer) ∧
    (mallocs.dplCreate = true →
      (∃ i < n, (mallocs.entry i).listElement = false) →
        dataManagerInitWith cfg mallocs (some contents)
            records =
          .error .processExit) ∧
    (mallocs.dplCreate = true →
      (∀ i < n, (mallocs.entry i).listElement = true) →
        (∃ s₀,
          loadMapWith cfg mallocs (mapPairs contents) =
            .ok s₀ ∧
          ∀ before after,
            records = before ++ after →
              ∃ s₁ msgs,
                datamgrLoop cfg s₀ before =
                  .ok (s₁, msgs) ∧
                s₁.Allocated n (mallocs.stored n)) ∧
        (mallocs.stored n = [] →
          dataManagerInitWith cfg mallocs (some contents)
              records =
            .error .processExit) ∧
        (mallocs.stored n ≠ [] →
          ∃ s out,
            dataManagerInitWith cfg mallocs (some contents)
                records =
              .ok (s, out) ∧
            s.Settled n (mallocs.stored n))) := by
  intro n
  refine ⟨?_, ?_, ?_⟩
  · intro hCreate
    exact dataManagerInitWith_uncreated cfg hCreate contents
      records
  · intro hCreate hFails
    exact dataManagerInitWith_exits cfg hCreate hFails
      records
  · intro hCreate hElements
    rcases loadMapWith_holds cfg hCreate hElements with
      ⟨s₀, hLoad, hHolds⟩
    rcases dataManagerInitWith_of_mapPairs cfg hCreate
        hElements hMarker with
      ⟨s₀', s₁, hLoad', hLoop, hExit, hReturn⟩
    rw [hLoad] at hLoad'
    cases hLoad'
    have hAllocated := loadMapWith_allocated cfg hLoad
    have hEmpty :
        storedItems mallocs.entry (mapPairs contents) = [] ↔
          mallocs.stored n = [] := by
      rw [← List.length_eq_zero_iff,
        ← List.length_eq_zero_iff,
        LoaderMallocs.length_stored]
    refine ⟨⟨s₀, hLoad, ?_⟩, ?_, ?_⟩
    · intro before after _
      rcases datamgrLoop_of_any cfg hHolds before with
        ⟨s₂, msgs, hBefore⟩
      exact ⟨s₂, msgs, hBefore,
        datamgrLoop_allocated cfg hAllocated hBefore⟩
    · intro hNone
      exact (hExit (hEmpty.mpr hNone)).2
    · intro hSome
      rcases hReturn (fun hNil => hSome (hEmpty.mp hNil))
        with
        ⟨s, hFree, hInit, _⟩
      exact ⟨s, _, hInit,
        datamgrFree_settled
          (datamgrLoop_allocated cfg hAllocated hLoop)
          hFree⟩

end Run

/- No memory for the node of the first pair. -/
def firstNodeFails : LoaderMallocs where
  dplCreate := true
  entry := fun i =>
    { listElement := true, listNode := i ≠ 0 }

/-
  The map with the lines `1 15` and `2 21`, and one record:
  the entry of the first line is lost.
-/
theorem dataManagerInit_settled_lost_entry :
    ∃ s out,
      dataManagerInitWith wholeDegrees firstNodeFails
          (some [49, 32, 49, 53, 10, 50, 32, 50, 49, 10])
          [⟨15, 60, 1000⟩, SensorData.endOfStream] =
        .ok (s, out) ∧
      s.Settled 2 [1] := by
  have hPairs :
      mapPairs [49, 32, 49, 53, 10, 50, 32, 50, 49, 10] =
        [(1, 15), (2, 21)] := by
    decide
  have hRun :=
    dataManagerInit_settled wholeDegrees firstNodeFails
      [49, 32, 49, 53, 10, 50, 32, 50, 49, 10]
      [⟨15, 60, 1000⟩, SensorData.endOfStream]
      ⟨SensorData.endOfStream, by simp, rfl⟩
  rw [hPairs] at hRun
  exact (hRun.2.2 rfl (fun _ _ => rfl)).2.2
    (List.cons_ne_nil _ _)

end SensorGateway
