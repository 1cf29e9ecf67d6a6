import SensorGateway.Datamgr.Semantics
import SensorGateway.Datamgr.SensorMap

/-
  `data_manager_init` as a whole: the loader on the text of
  the map, the reading loop, the printing of the sensors, and
  the end of the list.

  Key definitions include:
    * `loadFileWith`
    * `dataManagerInitWith`
    * `dataManagerInit`

  Key theorems include:
    * `loadFileWith_eq_loadEntriesWith`
    * `printLoop_of_holdsAt`
    * `freeElements_of_live`
    * `datamgrFree_of_holds`
    * `datamgrLoop_to_marker`
    * `dataManagerInitWith_of_mapPairs`
    * `dataManagerInit_returns`
-/

------------------------------------------------------------
-- The Function
------------------------------------------------------------

namespace SensorGateway

open Foundations

section Function

variable {V : Type}
variable (cfg : DatamgrConfig V)

/- The loop of the loader on the rest of the file. -/
def loadFileWith :
    (Nat → EntryMallocs) → Nat →
      Datamgr V cfg.RUN_AVG_LENGTH → List (BitVec 8) →
        Except Fault (Datamgr V cfg.RUN_AVG_LENGTH)
| _, 0, _, _ => .error .outOfFuel
| mallocs, fuel + 1, s, bytes =>
    match scanPair bytes with
    | none => .ok s
    | some ((roomID, sensorID), bytes) => do
        let s ←
          loadEntryWith cfg (mallocs 0) s roomID sensorID
        loadFileWith (fun i => mallocs (i + 1)) fuel s bytes

/- The loader puts in the pairs of the map. -/
theorem loadFileWith_eq_loadEntriesWith
    (mallocs : Nat → EntryMallocs)
    {fuel : Nat}
    (s : Datamgr V cfg.RUN_AVG_LENGTH)
    {bytes : List (BitVec 8)}
    (hFuel : bytes.length < fuel) :
    loadFileWith cfg mallocs fuel s bytes =
      loadEntriesWith cfg mallocs s (mapPairs bytes) := by
  induction fuel generalizing mallocs s bytes with
  | zero => exact absurd hFuel (Nat.not_lt_zero _)
  | succ fuel ih =>
      rw [loadFileWith, mapPairs]
      cases hScan : scanPair bytes with
      | none =>
          rw [Scanner.scanAll_of_none hScan]
          rfl
      | some item =>
          rcases item with ⟨⟨roomID, sensorID⟩, rest⟩
          have hRest :=
            scanPair_progresses _ _ _ hScan
          rw [Scanner.scanAll_of_some scanPair_progresses
            hScan, loadEntriesWith]
          simp only
          cases loadEntryWith cfg (mallocs 0) s roomID
              sensorID with
          | error f => rfl
          | ok s' => exact ih _ s' (by omega)

/- The same where all allocations succeed. -/
def loadFile
    (fuel : Nat)
    (s : Datamgr V cfg.RUN_AVG_LENGTH)
    (bytes : List (BitVec 8)) :
    Except Fault (Datamgr V cfg.RUN_AVG_LENGTH) :=
  loadFileWith cfg LoaderMallocs.succeed.entry fuel s bytes

theorem loadFile_eq_loadEntries
    {fuel : Nat}
    (s : Datamgr V cfg.RUN_AVG_LENGTH)
    {bytes : List (BitVec 8)}
    (hFuel : bytes.length < fuel) :
    loadFile cfg fuel s bytes =
      loadEntries cfg s (mapPairs bytes) :=
  loadFileWith_eq_loadEntriesWith cfg _ s hFuel

variable [Preorder V]
variable [DecidableLT V]

/- What the data manager has logged and printed. -/
structure DatamgrOutput
    (V : Type)
    (RUN_AVG_LENGTH : Nat) where
  log : List (LogMsg V)
  printed : List (ListElement V RUN_AVG_LENGTH)

/-
  `data_manager_init` with the outcomes of the allocations of
  its loader, the contents of `room_sensor.map`, if there is
  such a file, and the records of the buffer. It returns its
  memory and its output.
-/
def dataManagerInitWith
    (mallocs : LoaderMallocs)
    (sensorMap : Option (List (BitVec 8)))
    (records : List (SensorData V)) :
    Except Fault
      (Datamgr V cfg.RUN_AVG_LENGTH ×
        DatamgrOutput V cfg.RUN_AVG_LENGTH) :=
  match sensorMap with
  | none => .error .processExit
  | some contents => do
      let dataList ← dplCreate true true mallocs.dplCreate
      let s ←
        loadFileWith cfg mallocs.entry (contents.length + 1)
          { dataList := dataList, elements := Heap.empty }
          contents
      let (s, msgs) ← datamgrLoop cfg s records
      let printed ← datamgrPrintSensors s
      let s ← datamgrFree s
      .ok
        (s,
          { log :=
              [.text "Sensor map opened\n",
                .text "Sensor mapping process complete\n"] ++
                msgs
            printed := printed })

/- `data_manager_init` with memory for everything. -/
def dataManagerInit
    (sensorMap : Option (List (BitVec 8)))
    (records : List (SensorData V)) :
    Except Fault
      (Datamgr V cfg.RUN_AVG_LENGTH ×
        DatamgrOutput V cfg.RUN_AVG_LENGTH) :=
  dataManagerInitWith cfg .succeed sensorMap records

end Function

------------------------------------------------------------
-- After the Loop
------------------------------------------------------------

section Closing

variable {V : Type}
variable {L : Nat}
variable {s : Datamgr V L}
variable {cells : List (Nat × ListElement V L)}
variable {entries : List (ListElement V L)}

/- The loop prints the entries from an index on. -/
theorem printLoop_of_holdsAt
    (h : s.HoldsAt cells)
    {fuel i : Nat}
    (hLe : i ≤ cells.length)
    (hFuel : cells.length < fuel + i) :
    printLoop s fuel i =
      .ok ((cells.drop i).map Prod.snd) := by
  induction fuel generalizing i with
  | zero => omega
  | succ fuel ih =>
      rw [printLoop, dplSize_of_holdsAt h, Fault.ok_bind]
      by_cases hLt : i < cells.length
      · have hLtInt : (i : Int) < cells.length := by
          omega
        have hLive := h.live _ (List.getElem_mem hLt)
        have hNext := ih (i := i + 1) (by omega) (by omega)
        rw [if_pos hLtInt,
          dplGetElementAtIndex_of_holdsAt h hLt,
          Fault.ok_bind, if_neg (Option.some_ne_none _),
          s.elements.read_of_cell hLive, Fault.ok_bind,
          List.drop_eq_getElem_cons hLt, List.map_cons]
        have hCast : ((i : Int) + 1) = ((i + 1 : Nat) : Int) :=
          rfl
        rw [hCast, hNext]
        rfl
      · have hNotLt : ¬ (i : Int) < cells.length := by
          omega
        rw [if_neg hNotLt, List.drop_eq_nil_of_le (by omega)]
        rfl

/- All sensors are printed, unless there are none. -/
theorem datamgrPrintSensors_of_holds
    (h : s.Holds entries) :
    datamgrPrintSensors s =
      if entries = [] then
        .error .processExit
      else
        .ok entries := by
  rcases h with ⟨cells, hAt, rfl⟩
  have hList : s.dataList.list ≠ none := by
    rcases hAt.represents with ⟨nodes, hRep, _⟩
    rw [hRep.list_eq]
    exact Option.some_ne_none _
  rw [datamgrPrintSensors, dplSize_of_holdsAt hAt,
    Fault.ok_bind]
  cases cells with
  | nil => simp
  | cons cell cells =>
      have hNot :
          ¬ (s.dataList.list = none ∨
            ((cell :: cells).length : Int) = 0) := by
        rintro (hNone | hZero)
        · exact hList hNone
        · simp at hZero
          omega
      have hNe :
          ¬ (cell :: cells).map Prod.snd = [] := by
        simp
      have hLe := length_le_of_holdsAt hAt
      have hPrint :=
        printLoop_of_holdsAt (i := 0) hAt (Nat.zero_le _)
          (Nat.lt_succ_of_le hLe)
      rw [if_neg hNot, if_neg hNe]
      exact hPrint

/- Elements at distinct pointers are freed one by one. -/
theorem freeElements_of_live
    {elements : Heap (ListElement V L)}
    (hNodup : (cells.map Prod.fst).Nodup)
    (hLive : ∀ c ∈ cells, elements.cell c.1 = some c.2) :
    ∃ elements',
      freeElements elements
          (cells.map (fun c => some c.1)) =
        .ok elements' := by
  induction cells generalizing elements with
  | nil => exact ⟨elements, rfl⟩
  | cons c cells ih =>
      rw [List.map_cons, List.nodup_cons] at hNodup
      have hCell := hLive c List.mem_cons_self
      have hRest :
          ∀ d ∈ cells,
            (elements.drop c.1).cell d.1 = some d.2 := by
        intro d hMem
        have hNe : d.1 ≠ c.1 := by
          intro hEq
          apply hNodup.1
          rw [← hEq]
          exact List.mem_map_of_mem hMem
        rw [Heap.drop_cell_of_ne _ hNe]
        exact hLive d (List.mem_cons_of_mem _ hMem)
      rcases ih hNodup.2 hRest with ⟨elements', hFree⟩
      refine ⟨elements', ?_⟩
      rw [List.map_cons, freeElements,
        if_neg (Option.some_ne_none _),
        elements.free_of_cell hCell, Fault.ok_bind]
      exact hFree

/- The list is freed with its elements. -/
theorem datamgrFree_of_holds
    (h : s.Holds entries) :
    ∃ s',
      datamgrFree s = .ok s' ∧ s'.dataList.list = none := by
  rcases h with ⟨cells, hAt, rfl⟩
  rcases hAt.represents with ⟨nodes, hRep, hPointers⟩
  have hList : s.dataList.list ≠ none := by
    rw [hRep.list_eq]
    exact Option.some_ne_none _
  rcases dplFree_of_represents hRep true with
    ⟨heap, hFree, _⟩
  rcases freeElements_of_live hAt.nodup hAt.live with
    ⟨elements, hElements⟩
  have hSome :
      (nodes.map Prod.snd).filter Option.isSome =
        cells.map (fun c => some c.1) := by
    rw [hPointers, List.filter_eq_self]
    intro x hMem
    rcases List.mem_map.mp hMem with ⟨c, _, rfl⟩
    rfl
  rw [datamgrFree, if_neg hList]
  simp only [hFree, Fault.ok_bind, List.drop_left,
    freedElements, Bool.and_self, if_true, hSome, hElements]
  exact ⟨_, rfl, rfl⟩

end Closing

------------------------------------------------------------
-- The Whole Run
------------------------------------------------------------

section Run

variable {V : Type}
variable (cfg : DatamgrConfig V)

/- The records in front of the first marker. -/
def handledRecords
    (records : List (SensorData V)) :
    List (SensorData V) :=
  records.takeWhile (fun record => record.id ≠ 0)

/- The first marker is behind them. -/
theorem handledRecords_split
    {records : List (SensorData V)}
    (hMarker : ∃ record ∈ records, record.id = 0) :
    ∃ marker rest,
      records = handledRecords records ++ marker :: rest ∧
        marker.id = 0 := by
  unfold handledRecords
  induction records with
  | nil =>
      rcases hMarker with ⟨record, hMem, _⟩
      cases hMem
  | cons record records ih =>
      by_cases hId : record.id = 0
      · refine ⟨record, records, ?_, hId⟩
        rw [List.takeWhile_cons_of_neg (by simpa using hId)]
        rfl
      · rcases hMarker with ⟨marker, hMem, hZero⟩
        rcases List.mem_cons.mp hMem with rfl | hMem
        · exact absurd hZero hId
        · rcases ih ⟨marker, hMem, hZero⟩ with
            ⟨first, rest, hSplit, hFirst⟩
          refine ⟨first, rest, ?_, hFirst⟩
          rw [List.takeWhile_cons_of_pos (by simpa using hId),
            List.cons_append, ← hSplit]

theorem handledRecords_ids
    {records : List (SensorData V)}
    {record : SensorData V}
    (hMem : record ∈ handledRecords records) :
    record.id ≠ 0 := by
  unfold handledRecords at hMem
  induction records with
  | nil => cases hMem
  | cons r records ih =>
      rw [List.takeWhile_cons] at hMem
      split at hMem
      · rename_i hId
        rcases List.mem_cons.mp hMem with rfl | hMem
        · exact of_decide_eq_true hId
        · exact ih hMem
      · cases hMem

variable [Preorder V]
variable [DecidableLT V]

/- The loop stops at the first marker. -/
theorem datamgrLoop_to_marker
    {s : Datamgr V cfg.RUN_AVG_LENGTH}
    {entries : List (ListElement V cfg.RUN_AVG_LENGTH)}
    (h : s.Holds entries)
    {records : List (SensorData V)}
    (hMarker : ∃ record ∈ records, record.id = 0) :
    ∃ s',
      datamgrLoop cfg s records =
        .ok
          (s',
            entriesLog cfg entries
              (handledRecords records)) ∧
      s'.Holds
        ((sensorEntries cfg).storeAll
          (handledRecords records) entries) := by
  rcases datamgrLoop_append_of_holds cfg h
      (fun _ => handledRecords_ids) with
    ⟨s', hLoop, h'⟩
  rcases handledRecords_split hMarker with
    ⟨marker, rest, hSplit, hId⟩
  have hEnd :
      datamgrLoop cfg s' (marker :: rest) =
        .ok (s', []) := by
    rw [datamgrLoop, if_pos hId]
  have hAll := hLoop (marker :: rest) s' [] hEnd
  rw [← hSplit, List.append_nil] at hAll
  exact ⟨s', hAll, h'⟩

/- The function in terms of the loader on the pairs. -/
theorem dataManagerInitWith_eq
    (mallocs : LoaderMallocs)
    (contents : List (BitVec 8))
    (records : List (SensorData V)) :
    dataManagerInitWith cfg mallocs (some contents) records =
      (do
        let s ← loadMapWith cfg mallocs (mapPairs contents)
        let (s, msgs) ← datamgrLoop cfg s records
        let printed ← datamgrPrintSensors s
        let s ← datamgrFree s
        .ok
          (s,
            { log :=
                [.text "Sensor map opened\n",
                  .text
                    "Sensor mapping process complete\n"] ++
                  msgs
              printed := printed })) := by
  rw [dataManagerInitWith, loadMapWith]
  cases dplCreate (E := Nat) true true mallocs.dplCreate with
  | error fault => rfl
  | ok dataList =>
      simp only [Fault.ok_bind]
      rw [loadFileWith_eq_loadEntriesWith cfg _ _
        (Nat.lt_succ_self _)]

/- No list can be created: it is written to all the same. -/
theorem dataManagerInitWith_uncreated
    {mallocs : LoaderMallocs}
    (hCreate : mallocs.dplCreate = false)
    (contents : List (BitVec 8))
    (records : List (SensorData V)) :
    dataManagerInitWith cfg mallocs (some contents) records =
      .error .nullPointer := by
  rw [dataManagerInitWith, hCreate]
  rfl

/- Without memory for an entry, the process ends. -/
theorem dataManagerInitWith_exits
    {mallocs : LoaderMallocs}
    (hCreate : mallocs.dplCreate = true)
    {contents : List (BitVec 8)}
    (hFails :
      ∃ i < (mapPairs contents).length,
        (mallocs.entry i).listElement = false)
    (records : List (SensorData V)) :
    dataManagerInitWith cfg mallocs (some contents) records =
      .error .processExit := by
  rw [dataManagerInitWith_eq, loadMapWith, hCreate,
    dplistSystem_init, Fault.ok_bind,
    loadEntriesWith_exits cfg (created_holds cfg) hFails]
  rfl

/-
  If pairs of the map got a node, the data manager logs and
  prints what their entries tell, and frees its list. If none
  did, it handles the records, and then the printing ends the
  process.
-/
theorem dataManagerInitWith_of_mapPairs
    {mallocs : LoaderMallocs}
    (hCreate : mallocs.dplCreate = true)
    {contents : List (BitVec 8)}
    (hElements :
      ∀ i < (mapPairs contents).length,
        (mallocs.entry i).listElement = true)
    {records : List (SensorData V)}
    (hMarker : ∃ record ∈ records, record.id = 0) :
    ∃ s₀ s₁,
      loadMapWith cfg mallocs (mapPairs contents) =
        .ok s₀ ∧
      datamgrLoop cfg s₀ records =
        .ok
          (s₁,
            entriesLog cfg
              (loadedEntries cfg
                (storedItems mallocs.entry
                  (mapPairs contents)))
              (handledRecords records)) ∧
      (storedItems mallocs.entry (mapPairs contents) = [] →
        datamgrPrintSensors s₁ = .error .processExit ∧
        dataManagerInitWith cfg mallocs (some contents)
            records =
          .error .processExit) ∧
      (storedItems mallocs.entry (mapPairs contents) ≠ [] →
        ∃ s,
          datamgrFree s₁ = .ok s ∧
          dataManagerInitWith cfg mallocs (some contents)
              records =
            .ok
              (s,
                { log :=
                    [.text "Sensor map opened\n",
                      .text
                        "Sensor mapping process complete\n"
                    ] ++
                      entriesLog cfg
                        (loadedEntries cfg
                          (storedItems mallocs.entry
                            (mapPairs contents)))
                        (handledRecords records)
                  printed :=
                    entriesAfter cfg
                      (storedItems mallocs.entry
                        (mapPairs contents))
                      (handledRecords records) }) ∧
          s.dataList.list = none) := by
  rcases loadMapWith_holds cfg hCreate hElements with
    ⟨s₀, hLoad, hHolds₀⟩
  rcases datamgrLoop_to_marker cfg hHolds₀ hMarker with
    ⟨s₁, hLoop, hHolds₁⟩
  rw [storeAll_loadedEntries] at hHolds₁
  have hPrint := datamgrPrintSensors_of_holds hHolds₁
  rcases datamgrFree_of_holds hHolds₁ with
    ⟨s₂, hFree, hNull⟩
  have hEmpty :
      entriesAfter cfg
          (storedItems mallocs.entry (mapPairs contents))
          (handledRecords records) = [] ↔
        storedItems mallocs.entry (mapPairs contents) =
          [] := by
    rw [← List.length_eq_zero_iff,
      ← List.length_eq_zero_iff]
    simp [entriesAfter]
  refine ⟨s₀, s₁, hLoad, hLoop, ?_, ?_⟩
  · intro hNil
    rw [if_pos (hEmpty.mpr hNil)] at hPrint
    refine ⟨hPrint, ?_⟩
    simp only [dataManagerInitWith_eq, hLoad, hLoop, hPrint,
      Fault.ok_bind]
    rfl
  · intro hSome
    rw [if_neg (fun hNil => hSome (hEmpty.mp hNil))]
      at hPrint
    refine ⟨s₂, hFree, ?_, hNull⟩
    simp only [dataManagerInitWith_eq, hLoad, hLoop, hPrint,
      hFree, Fault.ok_bind]

/-
  With a map from which at least one pair is read, the data
  manager returns at the marker, with no list left. No error
  handler ends the process, and no null pointer is read. With
  any other map, the loader and the reading loop go through
  all the same, and then the printing of the sensors ends the
  process.
-/
theorem dataManagerInit_returns
    (contents : List (BitVec 8))
    (records : List (SensorData V))
    {marker : SensorData V}
    (hMarker : marker.id = 0) :
    (mapPairs contents ≠ [] →
      ∃ s out,
        dataManagerInit cfg (some contents)
            (records ++ [marker]) =
          .ok (s, out) ∧
        s.dataList.list = none) ∧
    (mapPairs contents = [] →
      (∃ s₀ s₁,
        loadMap cfg (mapPairs contents) = .ok s₀ ∧
        datamgrLoop cfg s₀ (records ++ [marker]) =
          .ok
            (s₁,
              entriesLog cfg []
                (handledRecords (records ++ [marker]))) ∧
        datamgrPrintSensors s₁ = .error .processExit) ∧
      dataManagerInit cfg (some contents)
          (records ++ [marker]) =
        .error .processExit) := by
  have hSome :
      ∃ record ∈ records ++ [marker], record.id = 0 :=
    ⟨marker, List.mem_append_right _ List.mem_cons_self,
      hMarker⟩
  have hElements :
      ∀ i < (mapPairs contents).length,
        (LoaderMallocs.succeed.entry i).listElement =
          true :=
    fun _ _ => rfl
  rcases dataManagerInitWith_of_mapPairs cfg rfl hElements
      hSome with
    ⟨s₀, s₁, hLoad, hLoop, hExit, hReturn⟩
  rw [storedItems_succeed] at hLoop hExit hReturn
  constructor
  · intro hPairs
    rcases hReturn hPairs with ⟨s, _, hInit, hNull⟩
    exact ⟨s, _, hInit, hNull⟩
  · intro hPairs
    rcases hExit hPairs with ⟨hPrint, hInit⟩
    refine ⟨⟨s₀, s₁, hLoad, ?_, hPrint⟩, hInit⟩
    rw [hLoop, hPairs]
    rfl

end Run

/- An empty map ends the process. -/
theorem dataManagerInit_empty_map :
    dataManagerInit wholeDegrees (some [])
        [SensorData.endOfStream] =
      .error .processExit ∧
    ¬ ∃ r,
      dataManagerInit wholeDegrees (some [])
          [SensorData.endOfStream] =
        .ok r := by
  have hExit :
      dataManagerInit wholeDegrees (some [])
          [SensorData.endOfStream] =
        .error .processExit := rfl
  refine ⟨hExit, ?_⟩
  rintro ⟨r, hReturn⟩
  rw [hExit] at hReturn
  cases hReturn

/- The map with the line `1 15`, and a record of sensor 15. -/
theorem dataManagerInit_one_line :
    mapPairs [49, 32, 49, 53, 10] = [(1, 15)] ∧
      ∃ s out,
        dataManagerInit wholeDegrees
            (some [49, 32, 49, 53, 10])
            ([⟨15, 60, 1000⟩] ++
              [SensorData.endOfStream]) =
          .ok (s, out) ∧
        s.dataList.list = none := by
  have hPairs : mapPairs [49, 32, 49, 53, 10] = [(1, 15)] := by
    decide
  have hReturns :=
    (dataManagerInit_returns wholeDegrees
      [49, 32, 49, 53, 10] [⟨15, 60, 1000⟩]
      SensorData.endOfStream_id).1
  exact ⟨hPairs, hReturns (by rw [hPairs]; simp)⟩

end SensorGateway
