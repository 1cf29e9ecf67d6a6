import SensorGateway.Datamgr.Basic
import SensorGateway.Dplist.Refinement
import SensorGateway.Foundations.KeyedFold

/-
  The data manager on its list of entries: what the loader,
  the scan and the handling of a record do to the entries
  that the list in memory holds.

  Key definitions include:
    * `Datamgr.HoldsAt`
    * `Datamgr.Lists`
    * `Datamgr.Holds`
    * `sensorEntries`
    * `recordReport`
    * `entriesLog`

  Key theorems include:
    * `scanLoop_of_holdsAt`
    * `handleRecord_of_holds`
    * `loadMap_holds`
    * `datamgrLoop_of_holds`
-/

------------------------------------------------------------
-- Held Entries
------------------------------------------------------------

namespace SensorGateway

open Foundations

section Held

variable {V : Type}
variable {L : Nat}

/-
  The elements of the list are the distinct pointers of
  `cells`, in order, and each points to its entry.
-/
structure Datamgr.HoldsAt
    (s : Datamgr V L)
    (cells : List (Nat × ListElement V L)) : Prop where
  represents :
    ∃ nodes,
      s.dataList.Represents true true nodes ∧
        nodes.map Prod.snd =
          cells.map (fun c => some c.1)
  nodup : (cells.map Prod.fst).Nodup
  live : ∀ c ∈ cells, s.elements.cell c.1 = some c.2

/-
  The elements of the list are pointers to the entries of
  `cells`, in order. A pointer may be there more than once.
-/
structure Datamgr.Lists
    (s : Datamgr V L)
    (cells : List (Nat × ListElement V L)) : Prop where
  represents :
    ∃ elementCopy elementFree nodes,
      s.dataList.Represents elementCopy elementFree nodes ∧
        nodes.map Prod.snd =
          cells.map (fun c => some c.1)
  live : ∀ c ∈ cells, s.elements.cell c.1 = some c.2

/- The list holds the entries, in order. -/
def Datamgr.Holds
    (s : Datamgr V L)
    (entries : List (ListElement V L)) : Prop :=
  ∃ cells,
    s.HoldsAt cells ∧ cells.map Prod.snd = entries

variable {s : Datamgr V L}
variable {cells : List (Nat × ListElement V L)}

/- An entry is overwritten through its pointer. -/
theorem Datamgr.HoldsAt.put
    {before after : List (Nat × ListElement V L)}
    {c : Nat × ListElement V L}
    (h : s.HoldsAt (before ++ c :: after))
    (e : ListElement V L) :
    Datamgr.HoldsAt
      { s with elements := s.elements.put c.1 e }
      (before ++ (c.1, e) :: after) := by
  have hNodup := h.nodup
  rw [List.map_append, List.map_cons, List.nodup_middle,
    List.nodup_cons, List.mem_append, not_or] at hNodup
  have hOther :
      ∀ d, d ∈ before ∨ d ∈ after → d.1 ≠ c.1 := by
    intro d hd hEq
    rcases hd with hd | hd
    · apply hNodup.1.1
      rw [← hEq]
      exact List.mem_map_of_mem hd
    · apply hNodup.1.2
      rw [← hEq]
      exact List.mem_map_of_mem hd
  constructor
  · rcases h.represents with ⟨nodes, hRep, hPointers⟩
    refine ⟨nodes, hRep, ?_⟩
    simpa using hPointers
  · simpa using h.nodup
  · intro d hd
    rcases List.mem_append.mp hd with hd | hd
    · rw [Heap.put_cell_of_ne _ _ (hOther d (Or.inl hd))]
      exact h.live d (List.mem_append_left _ hd)
    · rcases List.mem_cons.mp hd with hEq | hd
      · rw [hEq]
        exact s.elements.put_cell_self _
          (h.live c (by simp))
      · rw [Heap.put_cell_of_ne _ _ (hOther d (Or.inr hd))]
        exact h.live d (by simp [hd])

theorem Datamgr.HoldsAt.lists
    (h : s.HoldsAt cells) :
    s.Lists cells where
  represents := ⟨true, true, h.represents⟩
  live := h.live

/- `dpl_size` is the number of entries. -/
theorem dplSize_of_lists
    (h : s.Lists cells) :
    dplSize s.dataList = .ok cells.length := by
  rcases h.represents with ⟨_, _, nodes, hRep, hPointers⟩
  have hLength := congrArg List.length hPointers
  rw [List.length_map, List.length_map] at hLength
  rw [dplSize_of_represents hRep, hLength]

/- The list is no longer than the scan can go. -/
theorem length_le_of_lists
    (h : s.Lists cells) :
    cells.length ≤ s.dataList.heap.next := by
  rcases h.represents with ⟨_, _, nodes, hRep, hPointers⟩
  have hLength := congrArg List.length hPointers
  rw [List.length_map, List.length_map] at hLength
  rw [← hLength]
  exact hRep.chain.length_le_next

/- The element at an index is the pointer found there. -/
theorem dplGetElementAtIndex_of_lists
    (h : s.Lists cells)
    {i : Nat}
    (hLt : i < cells.length) :
    dplGetElementAtIndex s.dataList i =
      .ok (some (cells[i]).1) := by
  rcases h.represents with ⟨_, _, nodes, hRep, hPointers⟩
  rw [dplGetElementAtIndex_of_represents hRep, hPointers,
    ClampedList.getAt, List.length_map,
    clampIndex_natCast (by omega), List.getElem?_map,
    List.getElem?_eq_getElem hLt]
  rfl

/- The same for a list of distinct pointers. -/
theorem dplSize_of_holdsAt
    (h : s.HoldsAt cells) :
    dplSize s.dataList = .ok cells.length :=
  dplSize_of_lists h.lists

theorem length_le_of_holdsAt
    (h : s.HoldsAt cells) :
    cells.length ≤ s.dataList.heap.next :=
  length_le_of_lists h.lists

theorem dplGetElementAtIndex_of_holdsAt
    (h : s.HoldsAt cells)
    {i : Nat}
    (hLt : i < cells.length) :
    dplGetElementAtIndex s.dataList i =
      .ok (some (cells[i]).1) :=
  dplGetElementAtIndex_of_lists h.lists hLt

/- The scan finds the first entry of the sensor. -/
theorem scanLoop_of_holdsAt
    (h : s.HoldsAt cells)
    (id : SensorId)
    {fuel i : Nat}
    (hLe : i ≤ cells.length)
    (hFuel : cells.length < fuel + i) :
    scanLoop s id fuel i =
      .ok
        (((cells.drop i).find?
          (fun c => c.2.sensorId = id)).map Prod.fst) := by
  induction fuel generalizing i with
  | zero => omega
  | succ fuel ih =>
      rw [scanLoop, dplSize_of_holdsAt h, Fault.ok_bind]
      by_cases hLt : i < cells.length
      · have hLtInt : (i : Int) < cells.length := by
          omega
        have hLive :=
          h.live _ (List.getElem_mem hLt)
        rw [if_pos hLtInt,
          dplGetElementAtIndex_of_holdsAt h hLt,
          Fault.ok_bind, s.elements.read_of_cell hLive,
          Fault.ok_bind, List.drop_eq_getElem_cons hLt,
          List.find?_cons]
        by_cases hId : (cells[i]).2.sensorId = id
        · simp [hId]
        · have hNext := ih (i := i + 1) (by omega) (by omega)
          simp only [hId, if_false, decide_false]
          exact hNext
      · have hNotLt : ¬ (i : Int) < cells.length := by
          omega
        rw [if_neg hNotLt, List.drop_eq_nil_of_le (by omega)]
        rfl

end Held

------------------------------------------------------------
-- Storing in the Entries
------------------------------------------------------------

section Storing

variable {V : Type}
variable (cfg : DatamgrConfig V)

/- A record is stored in the entry of its sensor. -/
def sensorEntries :
    KeyedFold SensorId (SensorData V)
      (ListElement V cfg.RUN_AVG_LENGTH) where
  keyOf := SensorData.id
  entryKey := ListElement.sensorId
  step := storeRecord cfg
  entryKey_step := fun _ _ => rfl

variable [Preorder V]
variable [DecidableLT V]

/- What is logged for a record, by the entry found for it. -/
def recordReport
    (found : Option (ListElement V cfg.RUN_AVG_LENGTH))
    (record : SensorData V) :
    List (LogMsg V) :=
  match found with
  | none => [.invalidSensor record.id]
  | some e =>
      temperatureReport cfg e.sensorId
        (cfg.getRunningAvg
          (storeValue cfg e.windowRunningAvg record.value))

/- What is logged for a record reports on its sensor. -/
theorem reportedSensor_of_recordReport
    (found : Option (ListElement V cfg.RUN_AVG_LENGTH))
    (record : SensorData V)
    (msg : LogMsg V)
    (hFound :
      ∀ e, found = some e → e.sensorId = record.id)
    (hMem : msg ∈ recordReport cfg found record) :
    msg.reportedSensor = some record.id := by
  unfold recordReport at hMem
  cases found with
  | none =>
      rw [List.mem_singleton.mp hMem]
      rfl
  | some e =>
      have hId := hFound e rfl
      simp only [temperatureReport] at hMem
      split at hMem
      · rw [List.mem_singleton.mp hMem, ← hId]
        rfl
      · split at hMem
        · rw [List.mem_singleton.mp hMem, ← hId]
          rfl
        · cases hMem

/- What is logged for records, one after the other. -/
def entriesLog
    (entries : List (ListElement V cfg.RUN_AVG_LENGTH))
    (records : List (SensorData V)) :
    List (LogMsg V) :=
  (sensorEntries cfg).reports (recordReport cfg) entries
    records

variable {s : Datamgr V cfg.RUN_AVG_LENGTH}
variable {entries : List (ListElement V cfg.RUN_AVG_LENGTH)}

/- A record is stored and logged as the entries tell. -/
theorem handleRecord_of_holds
    (h : s.Holds entries)
    (record : SensorData V) :
    ∃ s',
      handleRecord cfg s record =
        .ok
          (s',
            recordReport cfg
              ((sensorEntries cfg).find entries record.id)
              record) ∧
      s'.Holds ((sensorEntries cfg).store record entries) := by
  rcases h with ⟨cells, hAt, rfl⟩
  have hScan :
      scanLoop s record.id (s.dataList.heap.next + 1) 0 =
        .ok
          ((cells.find?
            (fun c => c.2.sensorId = record.id)).map
              Prod.fst) := by
    have hLe := length_le_of_holdsAt hAt
    exact scanLoop_of_holdsAt hAt record.id (i := 0)
      (by omega) (by omega)
  have hFind :
      (sensorEntries cfg).find (cells.map Prod.snd) record.id =
        (cells.find?
          (fun c => c.2.sensorId = record.id)).map
            Prod.snd := by
    unfold KeyedFold.find
    rw [List.find?_map]
    rfl
  rw [handleRecord, hScan, Fault.ok_bind, hFind]
  cases hFound :
      cells.find? (fun c => c.2.sensorId = record.id) with
  | none =>
      refine ⟨s, rfl, cells, hAt, ?_⟩
      rw [KeyedFold.store_of_not_mem]
      intro e he
      rcases List.mem_map.mp he with ⟨c, hc, rfl⟩
      have hNot := List.find?_eq_none.mp hFound c hc
      simpa [sensorEntries] using hNot
  | some c =>
      rcases List.find?_eq_some_iff_append.mp hFound with
        ⟨hId, before, after, hSplit, hBefore⟩
      rw [decide_eq_true_eq] at hId
      subst hSplit
      have hLive := hAt.live c (by simp)
      refine
        ⟨{ s with
            elements :=
              s.elements.put c.1
                (storeRecord cfg c.2 record) },
          ?_, _, hAt.put (storeRecord cfg c.2 record), ?_⟩
      · simp only [Option.map_some, reduceCtorEq, if_false,
          s.elements.read_of_cell hLive, Fault.ok_bind,
          s.elements.write_of_cell _ hLive]
        rfl
      · rw [List.map_append, List.map_append,
          KeyedFold.store_append]
        · simp [KeyedFold.store, sensorEntries, hId]
        · intro e he
          rcases List.mem_map.mp he with ⟨d, hd, rfl⟩
          simpa [sensorEntries] using hBefore d hd

/- The reading loop handles all records that come first. -/
theorem datamgrLoop_append_of_holds
    (h : s.Holds entries)
    {records : List (SensorData V)}
    (hIds : ∀ record ∈ records, record.id ≠ 0) :
    ∃ s',
      (∀ rest t msgs,
        datamgrLoop cfg s' rest = .ok (t, msgs) →
          datamgrLoop cfg s (records ++ rest) =
            .ok (t, entriesLog cfg entries records ++ msgs)) ∧
      s'.Holds
        ((sensorEntries cfg).storeAll records entries) := by
  induction records generalizing s entries with
  | nil =>
      refine ⟨s, ?_, h⟩
      intro rest t msgs hRest
      exact hRest
  | cons record records ih =>
      have hId := hIds record (by simp)
      rcases handleRecord_of_holds cfg h record with
        ⟨s₁, hHandle, h₁⟩
      rcases ih h₁ (fun r hr =>
          hIds r (List.mem_cons_of_mem _ hr)) with
        ⟨s₂, hLoop, h₂⟩
      refine ⟨s₂, ?_, h₂⟩
      intro rest t msgs hRest
      rw [List.cons_append, datamgrLoop, if_neg hId]
      simp only [hHandle, Fault.ok_bind,
        hLoop rest t msgs hRest, Fault.pure_eq_ok]
      rw [← List.append_assoc]
      rfl

/- The reading loop handles all records up to the marker. -/
theorem datamgrLoop_of_holds
    (h : s.Holds entries)
    {records : List (SensorData V)}
    (hIds : ∀ record ∈ records, record.id ≠ 0)
    {marker : SensorData V}
    (hMarker : marker.id = 0) :
    ∃ s',
      datamgrLoop cfg s (records ++ [marker]) =
        .ok (s', entriesLog cfg entries records) ∧
      s'.Holds
        ((sensorEntries cfg).storeAll records entries) := by
  rcases datamgrLoop_append_of_holds cfg h hIds with
    ⟨s', hLoop, h'⟩
  have hEnd : datamgrLoop cfg s' [marker] = .ok (s', []) := by
    rw [datamgrLoop, if_pos hMarker]
  refine ⟨s', ?_, h'⟩
  rw [hLoop [marker] s' [] hEnd, List.append_nil]

/- Behind the records, it waits for the next one. -/
theorem datamgrLoop_waiting_of_holds
    (h : s.Holds entries)
    {records : List (SensorData V)}
    (hIds : ∀ record ∈ records, record.id ≠ 0) :
    ∃ s',
      datamgrLoop cfg s records =
        .ok (s', entriesLog cfg entries records) ∧
      s'.Holds
        ((sensorEntries cfg).storeAll records entries) := by
  rcases datamgrLoop_append_of_holds cfg h hIds with
    ⟨s', hLoop, h'⟩
  have hEnd := hLoop [] s' [] rfl
  rw [List.append_nil, List.append_nil] at hEnd
  exact ⟨s', hEnd, h'⟩

end Storing

------------------------------------------------------------
-- The Loaded Map
------------------------------------------------------------

section Loading

variable {V : Type}
variable (cfg : DatamgrConfig V)

/- The entries that the loader makes of the pairs. -/
def loadedEntries
    (pairs : List (BitVec 16 × BitVec 16)) :
    List (ListElement V cfg.RUN_AVG_LENGTH) :=
  (pairs.map (fun p => loadedElement cfg p.1 p.2)).reverse

/- The items of the iterations that get a node. -/
def storedItems
    {α : Type} :
    (Nat → EntryMallocs) → List α → List α
| _, [] => []
| mallocs, x :: xs =>
    if (mallocs 0).listNode then
      x :: storedItems (fun i => mallocs (i + 1)) xs
    else
      storedItems (fun i => mallocs (i + 1)) xs

/- With memory for all nodes, all items are stored. -/
theorem storedItems_succeed
    {α : Type}
    (xs : List α) :
    storedItems LoaderMallocs.succeed.entry xs = xs := by
  induction xs with
  | nil => rfl
  | cons x xs ih => exact congrArg (x :: ·) ih

/- An entry without a node is not in the list. -/
theorem loadEntryWith_lost
    {s : Datamgr V cfg.RUN_AVG_LENGTH}
    {entries : List (ListElement V cfg.RUN_AVG_LENGTH)}
    (h : s.Holds entries)
    {mallocs : EntryMallocs}
    (hElement : mallocs.listElement = true)
    (hNode : mallocs.listNode = false)
    (roomID sensorID : BitVec 16) :
    ∃ s',
      loadEntryWith cfg mallocs s roomID sensorID =
          .ok s' ∧
        s'.Holds entries := by
  rcases h with ⟨cells, hAt, rfl⟩
  rcases hAt.represents with ⟨nodes, hRep, hPointers⟩
  refine
    ⟨{ s with
        elements :=
          s.elements.alloc
            (loadedElement cfg roomID sensorID) },
      ?_, cells, ⟨⟨nodes, hRep, hPointers⟩, hAt.nodup, ?_⟩,
      rfl⟩
  · simp [loadEntryWith, hElement, hNode, dplInsertAtIndex,
      hRep.list_eq]
  · intro c hc
    have hLt := s.elements.lt_next_of_cell (hAt.live c hc)
    rw [Heap.alloc_cell_of_ne _ _ (Nat.ne_of_lt hLt)]
    exact hAt.live c hc

/- Otherwise the entry is put in front. -/
theorem loadEntryWith_stored
    {s : Datamgr V cfg.RUN_AVG_LENGTH}
    {entries : List (ListElement V cfg.RUN_AVG_LENGTH)}
    (h : s.Holds entries)
    {mallocs : EntryMallocs}
    (hElement : mallocs.listElement = true)
    (hNode : mallocs.listNode = true)
    (roomID sensorID : BitVec 16) :
    ∃ s',
      loadEntryWith cfg mallocs s roomID sensorID =
          .ok s' ∧
        s'.Holds
          (loadedElement cfg roomID sensorID :: entries) := by
  rcases h with ⟨cells, hAt, rfl⟩
  rcases hAt.represents with ⟨nodes, hRep, hPointers⟩
  rcases dplInsertAtIndex_front hRep
      (Or.inr (Int.le_refl 0)) (some s.elements.next) none
      false with
    ⟨dataList, hInsert, hRep', _⟩
  have hOld :
      ∀ c ∈ cells, c.1 ≠ s.elements.next := by
    intro c hc hEq
    have hLt := s.elements.lt_next_of_cell (hAt.live c hc)
    omega
  refine
    ⟨{ dataList := dataList
       elements :=
        s.elements.alloc
          (loadedElement cfg roomID sensorID) },
      ?_,
      (s.elements.next,
        loadedElement cfg roomID sensorID) :: cells,
      ⟨⟨_, hRep', ?_⟩, ?_, ?_⟩, rfl⟩
  · simp only [loadEntryWith, hElement, hNode, if_true,
      hInsert, Fault.ok_bind, Fault.pure_eq_ok]
  · rw [List.map_cons, hPointers]
    rfl
  · rw [List.map_cons, List.nodup_cons]
    refine ⟨?_, hAt.nodup⟩
    intro hMem
    rcases List.mem_map.mp hMem with ⟨c, hc, hEq⟩
    exact hOld c hc hEq
  · intro c hc
    rcases List.mem_cons.mp hc with hEq | hc
    · rw [hEq]
      exact s.elements.alloc_cell_new _
    · rw [Heap.alloc_cell_of_ne _ _ (hOld c hc)]
      exact hAt.live c hc

/-
  One iteration that has memory for the entry: it is in front
  of the others, if it got a node.
-/
theorem loadEntryWith_of_holds
    {s : Datamgr V cfg.RUN_AVG_LENGTH}
    {entries : List (ListElement V cfg.RUN_AVG_LENGTH)}
    (h : s.Holds entries)
    {mallocs : EntryMallocs}
    (hElement : mallocs.listElement = true)
    (roomID sensorID : BitVec 16) :
    ∃ s',
      loadEntryWith cfg mallocs s roomID sensorID =
          .ok s' ∧
        s'.Holds
          (if mallocs.listNode then
            loadedElement cfg roomID sensorID :: entries
          else
            entries) := by
  cases hNode : mallocs.listNode with
  | false =>
      exact loadEntryWith_lost cfg h hElement hNode roomID
        sensorID
  | true =>
      exact loadEntryWith_stored cfg h hElement hNode roomID
        sensorID

/-
  The loader puts later pairs in front of earlier ones, and
  leaves out those that get no node.
-/
theorem loadEntriesWith_of_holds
    {mallocs : Nat → EntryMallocs}
    {s : Datamgr V cfg.RUN_AVG_LENGTH}
    {entries : List (ListElement V cfg.RUN_AVG_LENGTH)}
    (h : s.Holds entries)
    {pairs : List (BitVec 16 × BitVec 16)}
    (hElements :
      ∀ i < pairs.length, (mallocs i).listElement = true) :
    ∃ s',
      loadEntriesWith cfg mallocs s pairs = .ok s' ∧
        s'.Holds
          (loadedEntries cfg (storedItems mallocs pairs) ++
            entries) := by
  induction pairs generalizing mallocs s entries with
  | nil => exact ⟨s, rfl, h⟩
  | cons pair pairs ih =>
      rcases loadEntryWith_of_holds cfg h
          (hElements 0 (Nat.zero_lt_succ _)) pair.1 pair.2
        with
        ⟨s₁, hEntry, h₁⟩
      rcases ih h₁ (fun i hLt =>
          hElements (i + 1) (Nat.succ_lt_succ hLt)) with
        ⟨s₂, hRest, h₂⟩
      refine ⟨s₂, ?_, ?_⟩
      · rw [loadEntriesWith, hEntry, Fault.ok_bind, hRest]
      · rw [storedItems]
        split
        · rename_i hNode
          rw [if_pos hNode] at h₂
          simpa [loadedEntries] using h₂
        · rename_i hNode
          rw [if_neg hNode] at h₂
          exact h₂

/- Without memory for an entry, the process ends. -/
theorem loadEntriesWith_exits
    {mallocs : Nat → EntryMallocs}
    {s : Datamgr V cfg.RUN_AVG_LENGTH}
    {entries : List (ListElement V cfg.RUN_AVG_LENGTH)}
    (h : s.Holds entries)
    {pairs : List (BitVec 16 × BitVec 16)}
    (hFails :
      ∃ i < pairs.length,
        (mallocs i).listElement = false) :
    loadEntriesWith cfg mallocs s pairs =
      .error .processExit := by
  induction pairs generalizing mallocs s entries with
  | nil =>
      rcases hFails with ⟨i, hLt, _⟩
      exact absurd hLt (Nat.not_lt_zero i)
  | cons pair pairs ih =>
      rw [loadEntriesWith]
      cases hFirst : (mallocs 0).listElement with
      | false =>
          simp [loadEntryWith, hFirst]
          rfl
      | true =>
          rcases loadEntryWith_of_holds cfg h hFirst pair.1
              pair.2 with
            ⟨s₁, hEntry, h₁⟩
          rw [hEntry, Fault.ok_bind]
          rcases hFails with ⟨i, hLt, hFail⟩
          cases i with
          | zero =>
              rw [hFirst] at hFail
              cases hFail
          | succ i =>
              exact ih h₁
                ⟨i, Nat.lt_of_succ_lt_succ hLt, hFail⟩

/- A list that was just created has no entries. -/
theorem created_holds :
    Datamgr.Holds
      (V := V) (L := cfg.RUN_AVG_LENGTH)
      { dataList := (dplistSystem Nat true true).init
        elements := Heap.empty } [] :=
  ⟨[], ⟨⟨[], ⟨rfl, Chain.nil _⟩, rfl⟩, List.nodup_nil,
    by simp⟩, rfl⟩

/- The loader ends with an entry for each stored pair. -/
theorem loadMapWith_holds
    {mallocs : LoaderMallocs}
    (hCreate : mallocs.dplCreate = true)
    {pairs : List (BitVec 16 × BitVec 16)}
    (hElements :
      ∀ i < pairs.length,
        (mallocs.entry i).listElement = true) :
    ∃ s,
      loadMapWith cfg mallocs pairs = .ok s ∧
        s.Holds
          (loadedEntries cfg
            (storedItems mallocs.entry pairs)) := by
  rcases loadEntriesWith_of_holds cfg (created_holds cfg)
      hElements with
    ⟨s, hLoad, hHolds⟩
  refine ⟨s, ?_, ?_⟩
  · rw [loadMapWith, hCreate, dplistSystem_init,
      Fault.ok_bind]
    exact hLoad
  · rw [List.append_nil] at hHolds
    exact hHolds

/- With memory for everything, the list is created. -/
theorem loadMap_eq_loadEntries
    (pairs : List (BitVec 16 × BitVec 16)) :
    loadMap cfg pairs =
      loadEntries cfg
        { dataList := (dplistSystem Nat true true).init
          elements := Heap.empty }
        pairs :=
  rfl

theorem loadMap_holds
    (pairs : List (BitVec 16 × BitVec 16)) :
    ∃ s,
      loadMap cfg pairs = .ok s ∧
        s.Holds (loadedEntries cfg pairs) := by
  have hLoad :
      ∃ s,
        loadMapWith cfg .succeed pairs = .ok s ∧
          s.Holds
            (loadedEntries cfg
              (storedItems LoaderMallocs.succeed.entry
                pairs)) :=
    loadMapWith_holds cfg rfl (fun _ _ => rfl)
  rw [storedItems_succeed] at hLoad
  exact hLoad

end Loading

end SensorGateway
