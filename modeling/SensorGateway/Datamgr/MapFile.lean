import SensorGateway.Datamgr.Init
import SensorGateway.Stdio.RoundTrip

/-
  The map file that `file_creator.c` writes, its pairs as the
  loader reads them back, and the entries that the scan of
  the data manager then finds.

  Each line puts its entry in front of the list, so the last
  line of a sensor is the one that is found.

  Key definitions include:
    * `mapLine`
    * `mapText`

  Key theorems include:
    * `mapPairs_mapText`
    * `scanLoop_of_last`
    * `mapFile_lookup`
-/

------------------------------------------------------------
-- The Generator
------------------------------------------------------------

namespace SensorGateway

open Foundations

/-
  `fprintf(fp_text, "%" PRIu16 " %" PRIu16 "\n", room_id[i],
  sensor_id[i])`.
-/
def mapLine
    (pair : BitVec 16 × BitVec 16) :
    List (BitVec 8) :=
  printUnsignedShort pair.1 ++
    (text " " ++ (printUnsignedShort pair.2 ++ text "\n"))

/- The loop of the generator over its pairs. -/
def mapText
    (pairs : List (BitVec 16 × BitVec 16)) :
    List (BitVec 8) :=
  pairs.flatMap mapLine

/- A pair takes its line, but for the newline. -/
theorem scanPair_mapLine
    (pair : BitVec 16 × BitVec 16)
    {spaces : List (BitVec 8)}
    (rest : List (BitVec 8))
    (hSpaces : ∀ b ∈ spaces, isSpace b = true) :
    scanPair (spaces ++ (mapLine pair ++ rest)) =
      some (pair, text "\n" ++ rest) := by
  have hBlank : ∀ b ∈ text " ", isSpace b = true := by
    decide
  have hLine :
      mapLine pair ++ rest =
        printUnsignedShort pair.1 ++
          (text " " ++
            (printUnsignedShort pair.2 ++
              (text "\n" ++ rest))) := by
    simp only [mapLine, List.append_assoc]
  have hRoom :=
    scanUnsignedShort_print pair.1 spaces
      (text " " ++
        (printUnsignedShort pair.2 ++ (text "\n" ++ rest)))
      hSpaces
      (by
        intro b hMem
        cases hMem
        rfl)
  have hDrop :
      (text " " ++
          (printUnsignedShort pair.2 ++
            (text "\n" ++ rest))).dropWhile isSpace =
        [] ++
          (printUnsignedShort pair.2 ++
            (text "\n" ++ rest)) := by
    rw [List.dropWhile_append_of_pos hBlank]
    exact
      (scanSign_of_digits (decimal_ne_nil _)
        (isDecimalDigit_of_mem_decimal _)).2
  have hSensor :=
    scanUnsignedShort_print pair.2 [] (text "\n" ++ rest)
      (List.forall_mem_nil _)
      (by
        intro b hMem
        cases hMem
        rfl)
  rw [hLine]
  simp only [scanPair, Option.bind_eq_bind]
  rw [hRoom, Option.bind_some, hDrop, hSensor]
  rfl

theorem scanPair_of_spaces
    {spaces : List (BitVec 8)}
    (hSpaces : ∀ b ∈ spaces, isSpace b = true) :
    scanPair spaces = none := by
  have hNumber : scanUnsignedShort spaces = none := by
    simp only [scanUnsignedShort]
    rw [List.dropWhile_eq_nil_iff.mpr hSpaces]
    rfl
  simp only [scanPair, Option.bind_eq_bind]
  rw [hNumber]
  rfl

/- The pairs are read back, behind any white space. -/
theorem mapPairs_spaces_mapText
    (pairs : List (BitVec 16 × BitVec 16))
    {spaces : List (BitVec 8)}
    (hSpaces : ∀ b ∈ spaces, isSpace b = true) :
    mapPairs (spaces ++ mapText pairs) = pairs := by
  induction pairs generalizing spaces with
  | nil =>
      rw [mapText, List.flatMap_nil, List.append_nil]
      exact Scanner.scanAll_of_none
        (scanPair_of_spaces hSpaces)
  | cons pair pairs ih =>
      have hNewline : ∀ b ∈ text "\n", isSpace b = true := by
        decide
      have hScan :=
        scanPair_mapLine pair (mapText pairs) hSpaces
      have hText :
          mapText (pair :: pairs) =
            mapLine pair ++ mapText pairs :=
        List.flatMap_cons
      rw [mapPairs, hText,
        Scanner.scanAll_of_some scanPair_progresses hScan]
      congr 1
      exact ih hNewline

theorem mapPairs_mapText
    (pairs : List (BitVec 16 × BitVec 16)) :
    mapPairs (mapText pairs) = pairs := by
  exact mapPairs_spaces_mapText pairs (List.forall_mem_nil _)

/- The map of two rooms with one sensor. -/
example :
    mapPairs (mapText [(1, 15), (2, 15)]) =
      [(1, 15), (2, 15)] := by
  decide

------------------------------------------------------------
-- The Last Line Wins
------------------------------------------------------------

section Lookup

variable {V : Type}
variable (cfg : DatamgrConfig V)

/- Behind other lines, a line has its entry at their number. -/
theorem loadedEntries_split
    (before after : List (BitVec 16 × BitVec 16))
    (room sensor : BitVec 16) :
    loadedEntries cfg (before ++ (room, sensor) :: after) =
      loadedEntries cfg after ++
        loadedElement cfg room sensor ::
          loadedEntries cfg before := by
  simp [loadedEntries]

variable {s : Datamgr V cfg.RUN_AVG_LENGTH}

/- Lines of other sensors have entries of other sensors. -/
theorem find?_of_unnamed
    {cells : List (Nat × ListElement V cfg.RUN_AVG_LENGTH)}
    {pairs : List (BitVec 16 × BitVec 16)}
    {id : BitVec 16}
    (hCells :
      cells.map Prod.snd = loadedEntries cfg pairs)
    (hNone : ∀ pair ∈ pairs, pair.2 ≠ id) :
    cells.find? (fun c => c.2.sensorId = id) = none := by
  apply List.find?_eq_none.mpr
  intro c hMem hId
  have hLoaded : c.2 ∈ loadedEntries cfg pairs := by
    rw [← hCells]
    exact List.mem_map_of_mem hMem
  unfold loadedEntries at hLoaded
  rw [List.mem_reverse, List.mem_map] at hLoaded
  rcases hLoaded with ⟨pair, hPair, hEq⟩
  rw [decide_eq_true_eq, ← hEq] at hId
  exact hNone pair hPair hId

/- The scan stops at the entry of the last line. -/
theorem scanLoop_of_last
    {before after : List (BitVec 16 × BitVec 16)}
    {room id : BitVec 16}
    (h :
      s.Holds
        (loadedEntries cfg (before ++ (room, id) :: after)))
    (hLast : ∀ pair ∈ after, pair.2 ≠ id) :
    ∃ p,
      scanLoop s id (s.dataList.heap.next + 1) 0 =
        .ok (some p) ∧
      dplGetElementAtIndex s.dataList after.length =
        .ok (some p) ∧
      s.elements.cell p =
        some (loadedElement cfg room id) := by
  rcases h with ⟨cells, hAt, hEntries⟩
  rw [loadedEntries_split] at hEntries
  rcases List.map_eq_append_iff.mp hEntries with
    ⟨front, rest, rfl, hFront, hRest⟩
  rcases List.map_eq_cons_iff.mp hRest with
    ⟨c, back, rfl, hEntry, _⟩
  have hLength : front.length = after.length := by
    have hMap := congrArg List.length hFront
    simpa [loadedEntries] using hMap
  have hFind :
      (front ++ c :: back).find?
          (fun d => d.2.sensorId = id) =
        some c := by
    rw [List.find?_append,
      find?_of_unnamed cfg hFront hLast,
      Option.none_or, List.find?_cons_of_pos]
    rw [decide_eq_true_eq, hEntry]
    rfl
  have hFuel := Nat.lt_succ_of_le (length_le_of_holdsAt hAt)
  have hScan :=
    scanLoop_of_holdsAt hAt id (Nat.zero_le _) hFuel
  rw [List.drop_zero, hFind] at hScan
  have hLt : front.length < (front ++ c :: back).length := by
    simp
  have hGet := dplGetElementAtIndex_of_holdsAt hAt hLt
  rw [List.getElem_append_right (Nat.le_refl _)] at hGet
  simp only [Nat.sub_self, List.getElem_cons_zero,
    hLength] at hGet
  have hCell := hAt.live c (by simp)
  rw [hEntry] at hCell
  exact ⟨c.1, hScan, hGet, hCell⟩

/- The scan finds nothing if no line names the sensor. -/
theorem scanLoop_of_unnamed
    {pairs : List (BitVec 16 × BitVec 16)}
    {id : BitVec 16}
    (h : s.Holds (loadedEntries cfg pairs))
    (hNone : ∀ pair ∈ pairs, pair.2 ≠ id) :
    scanLoop s id (s.dataList.heap.next + 1) 0 =
      .ok none := by
  rcases h with ⟨cells, hAt, hEntries⟩
  have hFuel := Nat.lt_succ_of_le (length_le_of_holdsAt hAt)
  have hScan :=
    scanLoop_of_holdsAt hAt id (Nat.zero_le _) hFuel
  rw [List.drop_zero,
    find?_of_unnamed cfg hEntries hNone] at hScan
  exact hScan

/- A sensor that is named has a last line. -/
theorem exists_last
    {pairs : List (BitVec 16 × BitVec 16)}
    {id : BitVec 16}
    (hNamed : ∃ pair ∈ pairs, pair.2 = id) :
    ∃ before room after,
      pairs = before ++ (room, id) :: after ∧
        ∀ pair ∈ after, pair.2 ≠ id := by
  induction pairs with
  | nil =>
      rcases hNamed with ⟨pair, hMem, _⟩
      cases hMem
  | cons pair pairs ih =>
      by_cases hLater : ∃ pair ∈ pairs, pair.2 = id
      · rcases ih hLater with
          ⟨before, room, after, rfl, hLast⟩
        exact ⟨pair :: before, room, after, rfl, hLast⟩
      · have hNone : ∀ pair ∈ pairs, pair.2 ≠ id :=
          fun p hMem hId => hLater ⟨p, hMem, hId⟩
        rcases hNamed with ⟨named, hMem, hId⟩
        rcases List.mem_cons.mp hMem with rfl | hMem
        · refine ⟨[], named.1, pairs, ?_, hNone⟩
          rw [List.nil_append, ← hId]
        · exact absurd hId (hNone named hMem)

/-
  From the text of any pairs, the loader builds the list of
  their entries, the last line first. The scan for a sensor
  finds something if and only if a line names it, and that
  is the entry of the last such line.
-/
theorem mapFile_lookup
    (pairs : List (BitVec 16 × BitVec 16)) :
    ∃ dataList s,
      dplCreate true true true = .ok dataList ∧
      loadFile cfg ((mapText pairs).length + 1)
          { dataList := dataList, elements := Heap.empty }
          (mapText pairs) =
        .ok s ∧
      s.Holds
        (pairs.reverse.map fun pair =>
          { sensorId := pair.2
            roomId := pair.1
            windowRunningAvg := fun _ => cfg.seed
            lastModified := 0
            runningAvgValue := none }) ∧
      ∀ id : SensorId, ∃ found,
        scanLoop s id (s.dataList.heap.next + 1) 0 =
          .ok found ∧
        (found ≠ none ↔ ∃ pair ∈ pairs, pair.2 = id) ∧
        ∀ before room after,
          pairs = before ++ (room, id) :: after →
            (∀ pair ∈ after, pair.2 ≠ id) →
              ∃ p,
                found = some p ∧
                dplGetElementAtIndex s.dataList
                    after.length =
                  .ok (some p) ∧
                s.elements.cell p =
                  some
                    { sensorId := id
                      roomId := room
                      windowRunningAvg := fun _ => cfg.seed
                      lastModified := 0
                      runningAvgValue := none } := by
  rcases loadMap_holds cfg pairs with ⟨s, hLoad, hHolds⟩
  have hFile :=
    loadFile_eq_loadEntries cfg
      { dataList := (dplistSystem Nat true true).init
        elements := Heap.empty }
      (Nat.lt_succ_self (mapText pairs).length)
  rw [mapPairs_mapText] at hFile
  rw [loadMap_eq_loadEntries] at hLoad
  refine
    ⟨_, s, dplistSystem_init true true,
      hFile.trans hLoad, ?_, ?_⟩
  · unfold loadedEntries at hHolds
    rw [← List.map_reverse] at hHolds
    exact hHolds
  · intro id
    by_cases hNamed : ∃ pair ∈ pairs, pair.2 = id
    · rcases exists_last hNamed with
        ⟨before, room, after, hPairs, hLast⟩
      have hHolds' := hHolds
      rw [hPairs] at hHolds'
      rcases scanLoop_of_last cfg hHolds' hLast with
        ⟨p, hScan, _⟩
      refine ⟨some p, hScan, by simpa using hNamed, ?_⟩
      intro before' room' after' hPairs' hLast'
      have hHolds'' := hHolds
      rw [hPairs'] at hHolds''
      rcases scanLoop_of_last cfg hHolds'' hLast' with
        ⟨p', hScan', hIndex, hCell⟩
      rw [hScan] at hScan'
      cases hScan'
      exact ⟨p, rfl, hIndex, hCell⟩
    · have hNone : ∀ pair ∈ pairs, pair.2 ≠ id :=
        fun pair hMem hId => hNamed ⟨pair, hMem, hId⟩
      refine ⟨none, scanLoop_of_unnamed cfg hHolds hNone,
        by simpa using hNamed, ?_⟩
      intro before room after hPairs _
      exfalso
      apply hNone (room, id) _ rfl
      rw [hPairs]
      exact List.mem_append_right _ List.mem_cons_self

end Lookup

end SensorGateway
