import SensorGateway.Datamgr.Entries
import SensorGateway.Dplist.History

/-
  Two ways to look a sensor up: the scan of the data manager,
  which walks to each index anew, and one call of
  `dpl_get_index_of_element` with the `element_compare` of
  the data manager.

  Key definitions include:
    * `elementCompare`
    * `scanStop`

  Key theorems include:
    * `scanLoop_eq_scanStop`
    * `scanStop_of_lists`
    * `dplGetIndexOfElement_of_lists`
    * `scan_agrees_with_index`
-/

------------------------------------------------------------
-- Two Lookups
------------------------------------------------------------

namespace SensorGateway

open Foundations

variable {V : Type}
variable {L : Nat}

/- `element_compare` on pointers into memory. -/
def elementCompare
    (elements : Heap (ListElement V L))
    (x y : Option Nat) : Except Fault Int :=
  if x = none ∨ y = none then
    .ok 0
  else do
    let e₁ ← elements.read x
    let e₂ ← elements.read y
    if e₁.sensorId < e₂.sensorId then
      return -1
    else if e₁.sensorId > e₂.sensorId then
      return 1
    else
      return 0

/-
  The scan of the data manager once more, with the index at
  which it stops.
-/
def scanStop
    (s : Datamgr V L)
    (id : SensorId) :
    Nat → Int → Except Fault (Option (Int × Option Nat))
| 0, _ => .error .outOfFuel
| fuel + 1, i => do
    let size ← dplSize s.dataList
    if i < size then
      let tmp ← dplGetElementAtIndex s.dataList i
      let e ← s.elements.read tmp
      if e.sensorId = id then
        return some (i, tmp)
      else
        scanStop s id fuel (i + 1)
    else
      return none

/- Without the index, it is the scan. -/
theorem scanLoop_eq_scanStop
    (s : Datamgr V L)
    (id : SensorId)
    (fuel : Nat)
    (i : Int) :
    scanLoop s id fuel i =
      (scanStop s id fuel i).map
        (fun stop => stop.bind Prod.snd) := by
  induction fuel generalizing i with
  | zero => rfl
  | succ fuel ih =>
      rw [scanLoop, scanStop]
      cases dplSize s.dataList with
      | error fault => rfl
      | ok size =>
          simp only [Fault.ok_bind]
          split
          · cases dplGetElementAtIndex s.dataList i with
            | error fault => rfl
            | ok tmp =>
                simp only [Fault.ok_bind]
                cases s.elements.read tmp with
                | error fault => rfl
                | ok e =>
                    simp only [Fault.ok_bind]
                    split
                    · rfl
                    · exact ih (i + 1)
          · rfl

------------------------------------------------------------
-- Where They Stop
------------------------------------------------------------

variable {s : Datamgr V L}
variable {cells : List (Nat × ListElement V L)}

/- A search depends on the items of the list only. -/
theorem findIdx?_congr
    {α : Type}
    {p q : α → Bool}
    {xs : List α}
    (hEq : ∀ x ∈ xs, p x = q x) :
    xs.findIdx? p = xs.findIdx? q := by
  induction xs with
  | nil => rfl
  | cons x xs ih =>
      rw [List.findIdx?_cons, List.findIdx?_cons,
        hEq x List.mem_cons_self,
        ih (fun y hMem =>
          hEq y (List.mem_cons_of_mem x hMem))]

/- The first position, from `i` on, of a sensor. -/
def firstPosition
    (cells : List (Nat × ListElement V L))
    (id : SensorId)
    (i : Nat) : Option Nat :=
  ((cells.drop i).findIdx?
    (fun c => c.2.sensorId = id)).map (fun k => i + k)

theorem firstPosition_of_eq
    {id : SensorId}
    {i : Nat}
    (hLt : i < cells.length)
    (hId : (cells[i]).2.sensorId = id) :
    firstPosition cells id i = some i := by
  rw [firstPosition, List.drop_eq_getElem_cons hLt,
    List.findIdx?_cons, if_pos (by simpa using hId)]
  rfl

theorem firstPosition_of_ne
    {id : SensorId}
    {i : Nat}
    (hLt : i < cells.length)
    (hId : (cells[i]).2.sensorId ≠ id) :
    firstPosition cells id i =
      firstPosition cells id (i + 1) := by
  unfold firstPosition
  rw [List.drop_eq_getElem_cons hLt, List.findIdx?_cons,
    if_neg (by simpa using hId)]
  cases (cells.drop (i + 1)).findIdx?
      (fun c => c.2.sensorId = id) with
  | none => rfl
  | some k =>
      simp only [Option.map_some]
      congr 1
      omega

theorem firstPosition_of_length_le
    {id : SensorId}
    {i : Nat}
    (hLe : cells.length ≤ i) :
    firstPosition cells id i = none := by
  simp [firstPosition, List.drop_eq_nil_of_le hLe]

/- The first position has an entry of the sensor. -/
theorem firstPosition_eq_some
    {id : SensorId}
    {k : Nat}
    (hFirst : firstPosition cells id 0 = some k) :
    ∃ hLt : k < cells.length,
      (cells[k]).2.sensorId = id ∧
        ∀ (j : Nat) (hj : j < k),
          (cells[j]).2.sensorId ≠ id := by
  simp only [firstPosition, List.drop_zero, Nat.zero_add,
    Option.map_id', List.findIdx?_eq_some_iff_getElem,
    decide_eq_true_eq] at hFirst
  exact hFirst

/- The scan stops at the first position of the sensor. -/
theorem scanStop_of_lists
    (h : s.Lists cells)
    (id : SensorId)
    {fuel i : Nat}
    (hLe : i ≤ cells.length)
    (hFuel : cells.length < fuel + i) :
    scanStop s id fuel i =
      .ok
        ((firstPosition cells id i).map
          (fun k : Nat =>
            ((k : Int), (cells[k]?).map Prod.fst))) := by
  induction fuel generalizing i with
  | zero => omega
  | succ fuel ih =>
      rw [scanStop, dplSize_of_lists h, Fault.ok_bind]
      by_cases hLt : i < cells.length
      · have hLtInt : (i : Int) < cells.length := by
          omega
        have hLive := h.live _ (List.getElem_mem hLt)
        rw [if_pos hLtInt,
          dplGetElementAtIndex_of_lists h hLt,
          Fault.ok_bind, s.elements.read_of_cell hLive,
          Fault.ok_bind]
        by_cases hId : (cells[i]).2.sensorId = id
        · rw [if_pos hId, firstPosition_of_eq hLt hId,
            Option.map_some, List.getElem?_eq_getElem hLt]
          rfl
        · have hNext := ih (i := i + 1) (by omega) (by omega)
          rw [if_neg hId, firstPosition_of_ne hLt hId]
          exact hNext
      · have hNotLt : ¬ (i : Int) < cells.length := by
          omega
        rw [if_neg hNotLt,
          firstPosition_of_length_le (by omega)]
        rfl

/- The walk over the nodes stops at the first equal one. -/
theorem dplGetIndexLoop_of_linked
    {E : Type}
    {heap : Heap (DplistNode E)}
    {prev : Option Nat}
    {nodes : List (Nat × Option E)}
    (hLinked :
      Segment.Linked DplistNode.mk heap.cell prev nodes none)
    {compare : Option E → Option E → Except Fault Int}
    {element : Option E}
    {order : Option E → Int}
    (hCompare :
      ∀ x ∈ nodes.map Prod.snd,
        compare x element = .ok (order x))
    {fuel : Nat}
    (hFuel : nodes.length < fuel)
    (index : Int) :
    dplGetIndexLoop heap compare element fuel
        (Segment.first nodes none) index =
      .ok
        (match (nodes.map Prod.snd).findIdx?
            (fun x => order x = 0) with
        | none => -1
        | some k => index + k) := by
  induction nodes generalizing prev fuel index with
  | nil =>
      cases fuel with
      | zero => cases hFuel
      | succ fuel => rfl
  | cons node nodes ih =>
      rcases node with ⟨a, x⟩
      rcases hLinked with ⟨hCell, hRest⟩
      cases fuel with
      | zero => cases hFuel
      | succ fuel =>
          rw [List.map_cons] at hCompare
          have hNext :=
            ih hRest
              (fun y hMem =>
                hCompare y (List.mem_cons_of_mem _ hMem))
              (Nat.lt_of_succ_lt_succ hFuel) (index + 1)
          rw [dplGetIndexLoop, Segment.first_cons,
            if_neg (Option.some_ne_none _),
            heap.read_of_cell hCell, Fault.ok_bind,
            hCompare x List.mem_cons_self, Fault.ok_bind,
            List.map_cons, List.findIdx?_cons]
          by_cases hEq : order x = 0
          · simp [hEq]
          · simp only [hEq, if_false, decide_false,
              Bool.false_eq_true]
            rw [hNext]
            cases (nodes.map Prod.snd).findIdx?
                (fun x => order x = 0) with
            | none => rfl
            | some k =>
                simp only [Option.map_some]
                congr 1
                push_cast
                omega

/- How the entry behind a pointer compares with the probe. -/
def entryOrder
    (elements : Heap (ListElement V L))
    (id : SensorId)
    (x : Option Nat) : Int :=
  match x.bind elements.cell with
  | none => 0
  | some e =>
      if e.sensorId < id then
        -1
      else if e.sensorId > id then
        1
      else
        0

/- On pointers to entries, the comparison does not fault. -/
theorem elementCompare_of_cell
    {elements : Heap (ListElement V L)}
    {p q : Nat}
    {e probe : ListElement V L}
    (hElement : elements.cell p = some e)
    (hProbe : elements.cell q = some probe) :
    elementCompare elements (some p) (some q) =
      .ok (entryOrder elements probe.sensorId (some p)) := by
  simp only [elementCompare, reduceCtorEq, or_self, if_false,
    elements.read_of_cell hElement,
    elements.read_of_cell hProbe, Fault.ok_bind, entryOrder,
    Option.bind_some, hElement]
  split
  · rfl
  · split
    · rfl
    · rfl

/- Equal entries are those of one sensor. -/
theorem entryOrder_eq_zero_iff
    {elements : Heap (ListElement V L)}
    {p : Nat}
    {e : ListElement V L}
    (hElement : elements.cell p = some e)
    (id : SensorId) :
    entryOrder elements id (some p) = 0 ↔
      e.sensorId = id := by
  simp only [entryOrder, Option.bind_some, hElement]
  by_cases hLt : e.sensorId < id
  · have hNe : e.sensorId ≠ id := BitVec.ne_of_lt hLt
    simp [hLt, hNe]
  · by_cases hGt : e.sensorId > id
    · have hNe : e.sensorId ≠ id :=
        (BitVec.ne_of_lt hGt).symm
      simp [hLt, hGt, hNe]
    · have hEq : e.sensorId = id :=
        BitVec.le_antisymm (BitVec.not_lt.mp hGt)
          (BitVec.not_lt.mp hLt)
      simp [hEq]

/- The index of the first entry of the probe's sensor. -/
theorem dplGetIndexOfElement_of_lists
    (h : s.Lists cells)
    {q : Nat}
    {probe : ListElement V L}
    (hProbe : s.elements.cell q = some probe) :
    dplGetIndexOfElement s.dataList
        (elementCompare s.elements) (some q) =
      .ok
        (match firstPosition cells probe.sensorId 0 with
        | none => -1
        | some k => k) := by
  rcases h.represents with ⟨_, _, nodes, hRep, hPointers⟩
  have hCompare :
      ∀ x ∈ nodes.map Prod.snd,
        elementCompare s.elements x (some q) =
          .ok (entryOrder s.elements probe.sensorId x) := by
    intro x hMem
    rw [hPointers, List.mem_map] at hMem
    rcases hMem with ⟨c, hCell, rfl⟩
    exact elementCompare_of_cell (h.live c hCell) hProbe
  have hSame :
      (nodes.map Prod.snd).findIdx?
          (fun x =>
            entryOrder s.elements probe.sensorId x = 0) =
        firstPosition cells probe.sensorId 0 := by
    rw [hPointers, List.findIdx?_map, firstPosition,
      List.drop_zero]
    have hCells :
        cells.findIdx?
            ((fun x =>
                decide
                  (entryOrder s.elements probe.sensorId x =
                    0)) ∘
              fun c => some c.1) =
          cells.findIdx?
            (fun c => c.2.sensorId = probe.sensorId) := by
      apply findIdx?_congr
      intro c hMem
      exact decide_eq_decide.mpr
        (entryOrder_eq_zero_iff (h.live c hMem) _)
    rw [hCells]
    simp only [Nat.zero_add]
    exact Option.map_id'.symm
  have hFuel : nodes.length < s.dataList.heap.next + 1 :=
    Nat.lt_succ_of_le hRep.chain.length_le_next
  have hLoop :=
    dplGetIndexLoop_of_linked hRep.chain.linked hCompare
      hFuel 0
  rw [hSame] at hLoop
  simp only [Int.zero_add] at hLoop
  rw [← hLoop]
  simp only [dplGetIndexOfElement, hRep.list_eq]
  cases nodes with
  | nil => rfl
  | cons node nodes => rfl

------------------------------------------------------------
-- Agreement
------------------------------------------------------------

/-
  The list consists of pointers to entries, as far as
  `dpl_get_element_at_index` shows it.
-/
def Datamgr.AllElements
    (s : Datamgr V L) : Prop :=
  ∀ size i,
    dplSize s.dataList = .ok size →
      0 ≤ i → i < size →
        ∃ p e,
          dplGetElementAtIndex s.dataList i = .ok (some p) ∧
            s.elements.cell p = some e

/- Then the entries behind the pointers are listed. -/
theorem exists_lists
    {elementCopy elementFree : Bool}
    {nodes : List (Nat × Option Nat)}
    (hRep :
      s.dataList.Represents elementCopy elementFree nodes)
    (hElements : s.AllElements) :
    ∃ cells, s.Lists cells := by
  have hEach :
      ∀ x ∈ nodes.map Prod.snd,
        ∃ p e, x = some p ∧ s.elements.cell p = some e := by
    intro x hMem
    rcases List.mem_iff_getElem.mp hMem with
      ⟨i, hLt, hGet⟩
    rw [List.length_map] at hLt
    rcases hElements nodes.length i
        (dplSize_of_represents hRep) (by omega) (by omega)
      with ⟨p, e, hIndex, hCell⟩
    rw [dplGetElementAtIndex_of_represents hRep,
      ClampedList.getAt, List.length_map,
      clampIndex_natCast (by omega),
      List.getElem?_eq_getElem (by simpa using hLt), hGet,
      Except.ok.injEq, Option.join_some] at hIndex
    exact ⟨p, e, hIndex, hCell⟩
  have hAll :
      ∀ xs : List (Option Nat),
        (∀ x ∈ xs,
          ∃ p e, x = some p ∧ s.elements.cell p = some e) →
          ∃ cells : List (Nat × ListElement V L),
            xs = cells.map (fun c => some c.1) ∧
              ∀ c ∈ cells, s.elements.cell c.1 = some c.2 := by
    intro xs
    induction xs with
    | nil =>
        intro _
        exact ⟨[], rfl, fun c hMem => by cases hMem⟩
    | cons x xs ih =>
        intro hXs
        rcases hXs x List.mem_cons_self with
          ⟨p, e, rfl, hCell⟩
        rcases ih (fun y hMem =>
            hXs y (List.mem_cons_of_mem _ hMem)) with
          ⟨cells, rfl, hLive⟩
        refine ⟨(p, e) :: cells, rfl, ?_⟩
        intro c hMem
        rcases List.mem_cons.mp hMem with rfl | hMem
        · exact hCell
        · exact hLive c hMem
  rcases hAll _ hEach with ⟨cells, hPointers, hLive⟩
  exact ⟨cells, ⟨_, _, nodes, hRep, hPointers⟩, hLive⟩

/-
  The scan for a sensor and `dpl_get_index_of_element` with
  the probe at `q` agree. The scan of the data manager finds
  nothing if and only if the index is -1. Otherwise it stops
  at that index and returns the element there, which is of
  the sensor, and no smaller index has an element of the
  sensor.
-/
def Datamgr.LookupsAgree
    (s : Datamgr V L)
    (id : SensorId)
    (q : Nat) : Prop :=
  ∃ index stop,
    dplGetIndexOfElement s.dataList
        (elementCompare s.elements) (some q) =
      .ok index ∧
    scanStop s id (s.dataList.heap.next + 1) 0 =
      .ok stop ∧
    scanLoop s id (s.dataList.heap.next + 1) 0 =
      .ok (stop.bind Prod.snd) ∧
    (stop = none ↔ index = -1) ∧
    ∀ i tmp,
      stop = some (i, tmp) →
        i = index ∧
        dplGetElementAtIndex s.dataList index = .ok tmp ∧
        (∃ p e,
          tmp = some p ∧
            s.elements.cell p = some e ∧
            e.sensorId = id) ∧
        ∀ j, 0 ≤ j → j < index →
          ∃ p e,
            dplGetElementAtIndex s.dataList j =
                .ok (some p) ∧
              s.elements.cell p = some e ∧
              e.sensorId ≠ id

/-
  The lookups agree in a list that any calls have led to, if
  its elements are pointers to entries, for each sensor and
  each probe that carries its id.
-/
theorem scan_agrees_with_index
    {elementCopy elementFree : Bool}
    {calls : List (DplistCall Nat)}
    (hRun :
      (dplistCalls Nat elementCopy elementFree).run calls =
        some s.dataList)
    (hElements : s.AllElements)
    {q : Nat}
    {probe : ListElement V L}
    (hProbe : s.elements.cell q = some probe) :
    s.LookupsAgree probe.sensorId q := by
  rcases dplistCalls_follows elementCopy elementFree calls
    with
    ⟨m, hReached, hFollows⟩
  rw [hRun] at hReached
  cases hReached
  rcases exists_lists hFollows.owned.represents hElements
    with
    ⟨cells, h⟩
  have hLe := length_le_of_lists h
  have hFuel :
      cells.length < s.dataList.heap.next + 1 + 0 := by
    omega
  have hStop :=
    scanStop_of_lists h probe.sensorId (i := 0)
      (Nat.zero_le _) hFuel
  refine ⟨_, _, dplGetIndexOfElement_of_lists h hProbe,
    hStop, ?_, ?_, ?_⟩
  · rw [scanLoop_eq_scanStop]
    exact
      congrArg (Except.map (fun stop => stop.bind Prod.snd))
        hStop
  · cases firstPosition cells probe.sensorId 0 with
    | none => simp
    | some k => simp only [Option.map_some, reduceCtorEq]
  · cases hFirst :
        firstPosition cells probe.sensorId 0 with
    | none =>
        intro i tmp hStop
        cases hStop
    | some k =>
        rcases firstPosition_eq_some hFirst with
          ⟨hLt, hId, hBefore⟩
        simp only
        intro i tmp hStop
        simp only [Option.map_some, Option.some.injEq,
          Prod.mk.injEq, List.getElem?_eq_getElem hLt]
          at hStop
        rcases hStop with ⟨rfl, rfl⟩
        have hCell := h.live _ (List.getElem_mem hLt)
        refine ⟨rfl, dplGetElementAtIndex_of_lists h hLt,
          ⟨_, _, rfl, hCell, hId⟩, ?_⟩
        intro j hPos hLtIndex
        have hNat : (j.toNat : Int) = j :=
          Int.toNat_of_nonneg hPos
        have hLt' : j.toNat < k := by
          omega
        have hGet :=
          dplGetElementAtIndex_of_lists h
            (i := j.toNat) (by omega)
        rw [hNat] at hGet
        exact ⟨_, _, hGet, h.live _ (List.getElem_mem _),
          hBefore _ hLt'⟩

/- An entry of a sensor, without readings. -/
def entryOf
    (id : SensorId) :
    ListElement (BitVec 64) 5 where
  sensorId := id
  roomId := 1
  windowRunningAvg := fun _ => 0
  lastModified := 0
  runningAvgValue := none

/- Two inserts at the front. -/
def twoInserts : List (DplistCall Nat) :=
  [.insert (some 0) none 0 false true,
    .insert (some 1) none 0 false true]

/- Two entries, and a probe of the sensor of the first one. -/
theorem lookups_agree_two_entries :
    ∃ m,
      (dplistCalls Nat true true).run twoInserts = some m ∧
      Datamgr.LookupsAgree
        { dataList := m
          elements :=
            ((Heap.empty.alloc (entryOf 15)).alloc
              (entryOf 21)).alloc (entryOf 15) }
        15 2 := by
  have hReached :
      ∃ m,
        (dplistCalls Nat true true).run twoInserts = some m ∧
          dplSize m = .ok 2 ∧
          dplGetElementAtIndex m 0 = .ok (some 1) ∧
          dplGetElementAtIndex m 1 = .ok (some 0) :=
    ⟨_, rfl, rfl, rfl, rfl⟩
  rcases hReached with ⟨m, hRun, hSize, hFirst, hSecond⟩
  have hProbe :
      (((Heap.empty.alloc (entryOf 15)).alloc
          (entryOf 21)).alloc (entryOf 15)).cell 2 =
        some (entryOf 15) := rfl
  refine
    ⟨m, hRun,
      scan_agrees_with_index
        (s :=
          { dataList := m
            elements :=
              ((Heap.empty.alloc (entryOf 15)).alloc
                (entryOf 21)).alloc (entryOf 15) })
        hRun ?_ hProbe⟩
  intro size i hSize' hPos hLt
  rw [hSize] at hSize'
  cases hSize'
  have hCases : i = 0 ∨ i = 1 := by
    omega
  rcases hCases with rfl | rfl
  · exact ⟨1, entryOf 21, hFirst, rfl⟩
  · exact ⟨0, entryOf 15, hSecond, rfl⟩

end SensorGateway
