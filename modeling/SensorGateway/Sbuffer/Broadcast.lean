import SensorGateway.Foundations.BroadcastLog
import SensorGateway.Foundations.System
import SensorGateway.Sbuffer.Basic

/-
  The buffer as its writers and readers see it: a broadcast
  log. Writers insert, and each reader follows the list with
  a cursor of its own.

  `SharedBuffer` adds two histories to the buffer of the
  code: what was inserted, by whom, and what each reader got.

  Key definitions include:
    * `SharedBuffer`
    * `SharedBuffer.insert`
    * `SharedBuffer.read`
    * `SharedBuffer.Refines`
    * `bufferSystem`

  Key theorems include:
    * `SharedBuffer.insert_of_refines`
    * `SharedBuffer.read_of_refines_empty`
    * `SharedBuffer.read_of_refines_next`
    * `SharedBuffer.insert_goes_through`
    * `SharedBuffer.read_goes_through`
    * `SharedBuffer.read_success_of_refines`
    * `bufferSystem_broadcasts`
-/

------------------------------------------------------------
-- Writers and Readers
------------------------------------------------------------

namespace SensorGateway

open Foundations

/-
  A reader's node pointer and record, and the records it
  obtained with `SBUFFER_SUCCESS`.
-/
structure BufferReader (V : Type) where
  node : Option Nat
  data : SensorData V
  obtained : List (SensorData V)

/-
  The buffer, the successful inserts with their writers, and
  the readers.
-/
structure SharedBuffer (ω ι V : Type) where
  buf : Sbuffer V
  inserted : List (ω × SensorData V)
  readers : ι → BufferReader V

namespace SharedBuffer

variable {ω ι V : Type}

/- The records inserted so far, in insertion order. -/
def records
    (s : SharedBuffer ω ι V) :
    List (SensorData V) :=
  s.inserted.map Prod.snd

/- The writer `w` calls `sbuffer_insert`. -/
def insert
    (s : SharedBuffer ω ι V)
    (w : ω)
    (data : SensorData V)
    (mallocOk : Bool) :
    Except Fault (SbufferRet × SharedBuffer ω ι V) := do
  let (ret, buf) ← sbufferInsert s.buf data mallocOk
  let inserted :=
    if ret = .success then
      s.inserted ++ [(w, data)]
    else
      s.inserted
  return (ret, { s with buf := buf, inserted := inserted })

/- The reader `i` calls `sbuffer_read`. -/
def read
    [DecidableEq ι]
    (s : SharedBuffer ω ι V)
    (i : ι) :
    Except Fault (SbufferRet × SharedBuffer ω ι V) := do
  let r := s.readers i
  let (ret, node, data) ← sbufferRead s.buf r.node r.data
  let obtained :=
    if ret = .success then
      r.obtained ++ [data]
    else
      r.obtained
  let reader := { node := node, data := data,
                  obtained := obtained }
  return (ret,
    { s with readers := Function.update s.readers i reader })

/-
  After `sbuffer_init`; every cursor is null, and the
  readers' records are not initialised.
-/
def start
    (data : ι → SensorData V) :
    SharedBuffer ω ι V where
  buf := Sbuffer.fresh
  inserted := []
  readers := fun i =>
    { node := none, data := data i, obtained := [] }

end SharedBuffer

------------------------------------------------------------
-- Refinement of the Broadcast Log
------------------------------------------------------------

namespace SharedBuffer

variable {ω ι V : Type}

/-
  Cursors on the list: the reader `i` stands behind the
  nodes it has taken.
-/
def Cursors
    (s : SharedBuffer ω ι V)
    (l : BroadcastLog ι (SensorData V))
    (nodes : List (Nat × SensorData V)) : Prop :=
  ∀ i, ∃ seen unseen,
    nodes = seen ++ unseen ∧
      seen.length = l.taken i ∧
      (s.readers i).node = Segment.last none seen

/- The buffer and its histories agree with the log. -/
structure Refines
    (s : SharedBuffer ω ι V)
    (l : BroadcastLog ι (SensorData V)) : Prop where
  records_eq : s.records = l.entries
  obtained_eq : ∀ i, (s.readers i).obtained = l.obtained i
  nodes :
    ∃ nodes,
      s.buf.Represents nodes ∧
        nodes.map Prod.snd = l.entries ∧
        s.Cursors l nodes

theorem start_refines
    (data : ι → SensorData V) :
    (start data : SharedBuffer ω ι V).Refines
      BroadcastLog.empty := by
  constructor
  · rfl
  · intro i
    rfl
  · refine ⟨[], Sbuffer.fresh_represents, rfl, ?_⟩
    intro i
    exact ⟨[], [], rfl, rfl, rfl⟩

/- The list holds what was inserted. -/
theorem Refines.holds
    {s : SharedBuffer ω ι V}
    {l : BroadcastLog ι (SensorData V)}
    (h : s.Refines l) :
    s.buf.Holds s.records := by
  rcases h.nodes with ⟨nodes, hRep, hNodes, _⟩
  exact ⟨nodes, hRep, hNodes.trans h.records_eq.symm⟩

/- An insert without memory changes nothing. -/
theorem insert_of_malloc_failure
    {s : SharedBuffer ω ι V}
    {l : BroadcastLog ι (SensorData V)}
    (hRefines : s.Refines l)
    (w : ω)
    (data : SensorData V) :
    s.insert w data false = .ok (.failure, s) := by
  rcases hRefines.nodes with ⟨nodes, hRep, _, _⟩
  simp [insert, sbufferInsert_of_malloc_failure hRep]

/- An insert appends to the log. -/
theorem insert_of_refines
    {s : SharedBuffer ω ι V}
    {l : BroadcastLog ι (SensorData V)}
    (hRefines : s.Refines l)
    (w : ω)
    (data : SensorData V) :
    ∃ t : SharedBuffer ω ι V,
      s.insert w data true = .ok (.success, t) ∧
        t.Refines (l.append data) ∧
        t.inserted = s.inserted ++ [(w, data)] ∧
        t.readers = s.readers := by
  rcases hRefines.nodes with
    ⟨nodes, hRep, hNodes, hCursors⟩
  rcases sbufferInsert_of_represents hRep data with
    ⟨b, hInsert, hRep', _⟩
  refine ⟨{ s with
    buf := b
    inserted := s.inserted ++ [(w, data)] },
    ?_, ?_, rfl, rfl⟩
  · simp [insert, hInsert]
  · constructor
    · have hRecords := hRefines.records_eq
      unfold records at hRecords ⊢
      simp [BroadcastLog.append, hRecords]
    · intro i
      rw [BroadcastLog.obtained_append]
      exact hRefines.obtained_eq i
    · refine ⟨_, hRep', ?_, ?_⟩
      · simp [BroadcastLog.append, hNodes]
      · intro i
        rcases hCursors i with
          ⟨seen, unseen, hSplit, hLength, hNode⟩
        refine ⟨seen, unseen ++ [(s.buf.heap.next, data)],
          ?_, hLength, hNode⟩
        rw [hSplit, List.append_assoc]

/- An insert goes through, with or without memory. -/
theorem insert_goes_through
    {s : SharedBuffer ω ι V}
    {l : BroadcastLog ι (SensorData V)}
    (hRefines : s.Refines l)
    (w : ω)
    (data : SensorData V)
    (mallocOk : Bool) :
    ∃ ret t l',
      s.insert w data mallocOk = .ok (ret, t) ∧
        t.Refines l' ∧
        (ret = .success ↔ mallocOk = true) ∧
        t.readers = s.readers ∧
        t.inserted =
          if mallocOk then
            s.inserted ++ [(w, data)]
          else
            s.inserted := by
  cases mallocOk with
  | false =>
      exact ⟨_, s, l, insert_of_malloc_failure hRefines w data,
        hRefines, by simp, rfl, rfl⟩
  | true =>
      rcases insert_of_refines hRefines w data with
        ⟨t, hInsert, hRefines', hInserted, hReaders⟩
      exact ⟨_, t, _, hInsert, hRefines', by simp, hReaders,
        hInserted⟩

variable [DecidableEq ι]

/- A read at the end of the log changes nothing. -/
theorem read_of_refines_empty
    {s : SharedBuffer ω ι V}
    {l : BroadcastLog ι (SensorData V)}
    (hRefines : s.Refines l)
    {i : ι}
    (hNext : l.next i = none) :
    s.read i = .ok (.empty, s) := by
  rcases hRefines.nodes with
    ⟨nodes, hRep, hNodes, hCursors⟩
  rcases hCursors i with
    ⟨seen, unseen, hSplit, hLength, hNode⟩
  have hUnseen : unseen = [] := by
    have hLe := List.getElem?_eq_none_iff.mp hNext
    rw [← hNodes, hSplit, List.length_map,
      List.length_append] at hLe
    exact List.eq_nil_of_length_eq_zero (by omega)
  rw [hSplit, hUnseen, List.append_nil] at hRep
  have hRead :=
    sbufferRead_of_represents_end hRep (s.readers i).data
  rw [← hNode] at hRead
  simp [read, hRead]

/- Any other read gets the next entry of the log. -/
theorem read_of_refines_next
    {s : SharedBuffer ω ι V}
    {l : BroadcastLog ι (SensorData V)}
    (hRefines : s.Refines l)
    {i : ι}
    {x : SensorData V}
    (hNext : l.next i = some x) :
    ∃ t : SharedBuffer ω ι V,
      s.read i = .ok (.success, t) ∧
        t.Refines (l.advance i) ∧
        t.buf = s.buf ∧
        t.inserted = s.inserted ∧
        (∀ j, j ≠ i → t.readers j = s.readers j) ∧
        (t.readers i).data = x := by
  rcases hRefines.nodes with
    ⟨nodes, hRep, hNodes, hCursors⟩
  rcases hCursors i with
    ⟨seen, unseen, hSplit, hLength, hNode⟩
  rcases List.getElem?_eq_some_iff.mp hNext with
    ⟨hLt, hGet⟩
  subst hSplit
  cases unseen with
  | nil =>
      rw [← hNodes] at hLt
      simp only [List.append_nil, List.length_map] at hLt
      omega
  | cons y rest =>
      rcases y with ⟨a, d⟩
      have hData : d = x := by
        rw [← hGet]
        simp only [← hNodes, ← hLength]
        simp
      subst hData
      have hRead :=
        sbufferRead_of_represents_next hRep
          (s.readers i).data
      rw [← hNode] at hRead
      let reader : BufferReader V :=
        { node := some a, data := d,
          obtained := (s.readers i).obtained ++ [d] }
      refine ⟨{ s with
        readers := Function.update s.readers i reader },
        ?_, ?_, rfl, rfl, ?_, ?_⟩
      · simp [read, hRead, reader]
      · constructor
        · exact hRefines.records_eq
        · intro j
          by_cases hEq : j = i
          · subst hEq
            rw [l.obtained_advance_self hNext,
              ← hRefines.obtained_eq j]
            simp [reader]
          · rw [l.obtained_advance_of_ne hEq,
              ← hRefines.obtained_eq j]
            simp [hEq]
        · refine ⟨_, hRep, hNodes, ?_⟩
          intro j
          by_cases hEq : j = i
          · subst hEq
            refine ⟨seen ++ [(a, d)], rest, ?_, ?_, ?_⟩
            · simp
            · rw [l.taken_advance_self hLt]
              simp [hLength]
            · simp [reader]
          · rcases hCursors j with
              ⟨seen', unseen', hSplit', hLength', hNode'⟩
            refine ⟨seen', unseen', hSplit', ?_, ?_⟩
            · rw [l.taken_advance_of_ne hEq]
              exact hLength'
            · simpa [hEq] using hNode'
      · intro j hNe
        simp [hNe]
      · simp [reader]

/- A read goes through; it gets at most one record. -/
theorem read_goes_through
    {s : SharedBuffer ω ι V}
    {l : BroadcastLog ι (SensorData V)}
    (hRefines : s.Refines l)
    (i : ι) :
    ((s.readers i).obtained = s.records ∧
      s.read i = .ok (.empty, s)) ∨
    ((s.readers i).obtained ≠ s.records ∧
      ∃ t l',
        s.read i = .ok (.success, t) ∧
          t.Refines l' ∧
          t.buf = s.buf ∧
          t.inserted = s.inserted ∧
          (∀ j, j ≠ i → t.readers j = s.readers j) ∧
          (t.readers i).obtained =
            (s.readers i).obtained ++
              [(t.readers i).data]) := by
  have hEmpty := l.next_eq_none_iff i
  rw [← hRefines.obtained_eq i, ← hRefines.records_eq]
    at hEmpty
  cases hNext : l.next i with
  | none =>
      exact Or.inl ⟨hEmpty.mp hNext,
        read_of_refines_empty hRefines hNext⟩
  | some x =>
      rcases read_of_refines_next hRefines hNext with
        ⟨t, hRead, hRefines', hBuf, hInserted, hOther,
          hData⟩
      refine Or.inr ⟨?_, t, _, hRead, hRefines', hBuf,
        hInserted, hOther, ?_⟩
      · intro hAll
        have hNone := hEmpty.mpr hAll
        rw [hNext] at hNone
        cases hNone
      · rw [hRefines'.obtained_eq i, hData,
          l.obtained_advance_self hNext,
          hRefines.obtained_eq i]

/- What a read that succeeds has done. -/
theorem read_success_of_refines
    {s t : SharedBuffer ω ι V}
    {l : BroadcastLog ι (SensorData V)}
    (hRefines : s.Refines l)
    {i : ι}
    (hRead : s.read i = .ok (.success, t)) :
    (∃ l', t.Refines l') ∧
      t.inserted = s.inserted ∧
      (∀ j, j ≠ i → t.readers j = s.readers j) ∧
      (t.readers i).obtained =
        (s.readers i).obtained ++ [(t.readers i).data] := by
  rcases read_goes_through hRefines i with
    ⟨_, hEmpty⟩ |
      ⟨_, u, l', hBuf, hRefines', _, hInserted, hOther,
        hObtained⟩
  · rw [hRead] at hEmpty
    cases hEmpty
  · rw [hRead] at hBuf
    injection hBuf with hPair
    injection hPair with _ hEq
    subst hEq
    exact ⟨⟨l', hRefines'⟩, hInserted, hOther, hObtained⟩

end SharedBuffer

------------------------------------------------------------
-- Runs of the Buffer
------------------------------------------------------------

/- The calls of the writers and of the readers. -/
inductive BufferAction (ω ι V : Type) where
  | insert
      (w : ω)
      (data : SensorData V)
      (mallocOk : Bool)
  | read (i : ι)

section Runs

variable {ω ι V : Type}
variable [DecidableEq ι]

/- The state after a call that meets no fault. -/
def bufferStep
    (s : SharedBuffer ω ι V) :
    BufferAction ω ι V → Option (SharedBuffer ω ι V)
| .insert w data mallocOk =>
    (s.insert w data mallocOk).toOption.map Prod.snd
| .read i => (s.read i).toOption.map Prod.snd

/- All interleavings of inserts and reads, in any order. -/
def bufferSystem
    (data : ι → SensorData V) :
    System (SharedBuffer ω ι V) (BufferAction ω ι V) where
  init := SharedBuffer.start data
  step := bufferStep

/- Every call goes through and keeps the refinement. -/
theorem bufferStep_refines
    {s : SharedBuffer ω ι V}
    {l : BroadcastLog ι (SensorData V)}
    (hRefines : s.Refines l)
    (a : BufferAction ω ι V) :
    ∃ t l', bufferStep s a = some t ∧ t.Refines l' := by
  cases a with
  | insert w data mallocOk =>
      rcases SharedBuffer.insert_goes_through hRefines w data
          mallocOk with
        ⟨ret, t, l', hInsert, hRefines', _⟩
      refine ⟨t, l', ?_, hRefines'⟩
      simp [bufferStep, Except.toOption, hInsert]
  | read i =>
      rcases SharedBuffer.read_goes_through hRefines i with
        ⟨_, hRead⟩ | ⟨_, t, l', hRead, hRefines', _⟩
      · refine ⟨s, l, ?_, hRefines⟩
        simp [bufferStep, Except.toOption, hRead]
      · refine ⟨t, l', ?_, hRefines'⟩
        simp [bufferStep, Except.toOption, hRead]

/- No call of any run faults, and the refinement holds. -/
theorem bufferSystem_refines
    (data : ι → SensorData V)
    (as : List (BufferAction ω ι V)) :
    ∃ s l, (bufferSystem data).run as = some s ∧
      s.Refines l := by
  induction as using List.reverseRecOn with
  | nil =>
      exact ⟨_, _, rfl, SharedBuffer.start_refines data⟩
  | append_singleton as a ih =>
      rcases ih with ⟨s, l, hRun, hRefines⟩
      rcases bufferStep_refines hRefines a with
        ⟨t, l', hStep, hRefines'⟩
      refine ⟨t, l', ?_, hRefines'⟩
      exact ((bufferSystem data).run_snoc as a t).mpr
        ⟨s, hRun, hStep⟩

/-
  In every run, what a reader got is a prefix of what was
  inserted; a further insert only adds a record; and a
  further read either gets the reader one more record or, if
  it has them all, changes nothing at all.
-/
theorem bufferSystem_broadcasts
    (data : ι → SensorData V)
    (as : List (BufferAction ω ι V)) :
    ∃ s, (bufferSystem data).run as = some s ∧
      (∀ i, (s.readers i).obtained <+: s.records) ∧
      (∀ w d mallocOk, ∃ ret t,
        s.insert w d mallocOk = .ok (ret, t) ∧
          (ret = .success ↔ mallocOk = true) ∧
          t.readers = s.readers ∧
          t.inserted =
            if mallocOk then
              s.inserted ++ [(w, d)]
            else
              s.inserted) ∧
      (∀ i, ∃ ret t,
        s.read i = .ok (ret, t) ∧
          t.buf = s.buf ∧
          t.inserted = s.inserted ∧
          (∀ j, j ≠ i → t.readers j = s.readers j) ∧
          (ret = .empty ↔
            (s.readers i).obtained = s.records) ∧
          (ret = .empty → t.readers i = s.readers i) ∧
          (ret ≠ .empty →
            ret = .success ∧
              (t.readers i).obtained =
                (s.readers i).obtained ++
                  [(t.readers i).data])) := by
  rcases bufferSystem_refines data as with
    ⟨s, l, hRun, hRefines⟩
  refine ⟨s, hRun, ?_, ?_, ?_⟩
  · intro i
    rw [hRefines.obtained_eq i, hRefines.records_eq]
    exact l.obtained_prefix i
  · intro w d mallocOk
    rcases SharedBuffer.insert_goes_through hRefines w d
        mallocOk with
      ⟨ret, t, _, hInsert, _, hRet, hReaders, hInserted⟩
    exact ⟨ret, t, hInsert, hRet, hReaders, hInserted⟩
  · intro i
    rcases SharedBuffer.read_goes_through hRefines i with
      ⟨hAll, hRead⟩ |
        ⟨hNotAll, t, _, hRead, _, hBuf, hInserted, hOther,
          hObtained⟩
    · exact ⟨_, s, hRead, rfl, rfl, fun _ _ => rfl,
        by simp [hAll], fun _ => rfl, by simp⟩
    · exact ⟨_, t, hRead, hBuf, hInserted, hOther,
        by simp [hNotAll], by simp,
        fun _ => ⟨rfl, hObtained⟩⟩

end Runs

end SensorGateway
