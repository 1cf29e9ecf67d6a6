import SensorGateway.Plab4.Main

/-
  The readers of the fourth lab lose nothing.

  The records that were taken from the buffer are dealt out
  to the readers. There is one end-of-stream marker, which is
  behind all records; each reader that finds it puts it back
  for the others, except the last one.

  Key definitions include:
    * `Plab4.ReaderPc.held`
    * `Plab4.Relay`
    * `Plab4.Pipeline.Flow`
    * `Plab4.Pipeline.Safe`
    * `Plab4.Pipeline.Complete`

  Key theorems include:
    * `Plab4.Relay.pass`
    * `Plab4.Pipeline.Flow.of_writer`
    * `Plab4.Pipeline.Flow.of_reader`
    * `Plab4.pipelineSystem_losesNothing`
-/

------------------------------------------------------------
-- What the Threads Hold
------------------------------------------------------------

namespace SensorGateway

namespace Plab4

open Foundations

variable {V : Type}

/- An end-of-stream marker. -/
def isMarker
    (data : SensorData V) :
    Bool :=
  data.id = 0

/- The writer has not inserted its marker yet. -/
def WriterPc.away : WriterPc V → Nat
| .exited => 0
| _ => 1

/- The records that the writer still has to insert. -/
def WriterPc.unsent :
    WriterPc V → List (SensorData V)
| .read rest _ => rest
| .insert rest record => record :: rest
| .mark _ => []
| .exited => []

namespace ReaderPc

/-
  What a reader has taken from the buffer and neither put
  back nor written, as long as it has not exited.
-/
def held : ReaderPc V → Option (SensorData V)
| .remove _ => none
| .check data => some data
| .loadCount data => some data
| .storeCount data _ => some data
| .testCount data => some data
| .reinsert data => some data
| .write data => some data
| .exited _ => none

/- The record that a reader holds, if it is no marker. -/
def hand
    (pc : ReaderPc V) :
    Option (SensorData V) :=
  pc.held.filter (fun data => !isMarker data)

def holdsMarker
    (pc : ReaderPc V) :
    Bool :=
  pc.held.any isMarker

def hasExited : ReaderPc V → Bool
| .exited _ => true
| _ => false

/- With the marker, where `eos_count` is not changed yet. -/
def uncounted : ReaderPc V → Bool
| .check data => isMarker data
| .loadCount _ => true
| .storeCount _ _ => true
| _ => false

/- With the marker, where `eos_count` is changed. -/
def counted : ReaderPc V → Bool
| .testCount _ => true
| .reinsert _ => true
| _ => false

/-
  What a reader knows, where `exits` of the readers have
  exited: whether it holds a marker, the count that it has
  loaded, and that it is not the last one.
-/
def Sound
    (numReaders exits : Nat) :
    ReaderPc V → Prop
| .remove _ => True
| .check _ => True
| .loadCount data => isMarker data = true
| .storeCount data loaded =>
    isMarker data = true ∧ loaded = exits
| .testCount data => isMarker data = true
| .reinsert data =>
    isMarker data = true ∧ exits + 1 < numReaders
| .write data => isMarker data = false
| .exited data => isMarker data = true

/- A marker is no record of the deal. -/
theorem hand_eq_none
    {pc : ReaderPc V}
    (hMarker : ∀ x ∈ pc.held, isMarker x = true) :
    pc.hand = none := by
  unfold hand
  rw [Option.filter_eq_none_iff]
  intro x hMem hRecord
  rw [hMarker x hMem] at hRecord
  cases hRecord

/- Without the marker, a reader knows nothing of exits. -/
theorem Sound.of_without
    {numReaders exits exits' : Nat}
    {pc : ReaderPc V}
    (h : pc.Sound numReaders exits)
    (hUncounted : ¬ pc.uncounted = true)
    (hCounted : ¬ pc.counted = true) :
    pc.Sound numReaders exits' := by
  cases pc with
  | remove data => trivial
  | check data => trivial
  | loadCount data => exact h
  | storeCount data loaded => exact absurd rfl hUncounted
  | testCount data => exact h
  | reinsert data => exact absurd rfl hCounted
  | write data => exact h
  | exited data => exact h

/- A marker that a reader holds is counted, or not yet. -/
theorem Sound.holdsMarker_toNat
    {numReaders exits : Nat}
    {pc : ReaderPc V}
    (h : pc.Sound numReaders exits) :
    pc.holdsMarker.toNat =
      pc.uncounted.toNat + pc.counted.toNat := by
  cases pc with
  | remove data => rfl
  | check data => rfl
  | loadCount data =>
      simp [holdsMarker, held, uncounted, counted,
        show isMarker data = true from h]
  | storeCount data loaded =>
      simp [holdsMarker, held, uncounted, counted, h.1]
  | testCount data =>
      simp [holdsMarker, held, uncounted, counted,
        show isMarker data = true from h]
  | reinsert data =>
      simp [holdsMarker, held, uncounted, counted, h.1]
  | write data =>
      simp [holdsMarker, held, uncounted, counted,
        show isMarker data = false from h]
  | exited data => rfl

end ReaderPc

------------------------------------------------------------
-- The Marker
------------------------------------------------------------

/- How many readers have exited, or have the marker. -/
def exits
    (readers : List (ReaderPc V)) :
    Nat :=
  readers.countP ReaderPc.hasExited

def uncounted
    (readers : List (ReaderPc V)) :
    Nat :=
  readers.countP ReaderPc.uncounted

def counted
    (readers : List (ReaderPc V)) :
    Nat :=
  readers.countP ReaderPc.counted

/-
  Where the marker is: with the writer, if that is `away`, in
  the buffer behind the records `data`, with a reader, or gone
  with the last reader. Only who finds no record any more can
  find the marker, and exit.
-/
structure Relay
    (numReaders : Nat)
    (readers : List (ReaderPc V))
    (eosCount away : Nat)
    (data marks : List (SensorData V)) : Prop where
  length_eq : readers.length = numReaders
  sound :
    ∀ pc ∈ readers, pc.Sound numReaders (exits readers)
  count_eq : eosCount = exits readers + counted readers
  marks_eq : ∀ x ∈ marks, isMarker x = true
  marker :
    (away + marks.length + uncounted readers +
          counted readers = 1 ∧
        exits readers < numReaders) ∨
      (away + marks.length + uncounted readers +
          counted readers = 0 ∧
        exits readers = numReaders)
  records_first :
    data ≠ [] →
      exits readers = 0 ∧ uncounted readers = 0 ∧
        counted readers = 0
  writer_first : away = 1 → exits readers = 0

section Moves

variable {numReaders eosCount away : Nat}
variable {readers : List (ReaderPc V)}
variable {data marks : List (SensorData V)}
variable {i : Nat}
variable {a b : ReaderPc V}

/- What a move of one reader does to the counts. -/
theorem exits_set
    (hGet : readers[i]? = some a)
    (b : ReaderPc V) :
    exits (readers.set i b) + a.hasExited.toNat =
      exits readers + b.hasExited.toNat :=
  countP_set_add _ hGet

theorem uncounted_set
    (hGet : readers[i]? = some a)
    (b : ReaderPc V) :
    uncounted (readers.set i b) + a.uncounted.toNat =
      uncounted readers + b.uncounted.toNat :=
  countP_set_add _ hGet

theorem counted_set
    (hGet : readers[i]? = some a)
    (b : ReaderPc V) :
    counted (readers.set i b) + a.counted.toNat =
      counted readers + b.counted.toNat :=
  countP_set_add _ hGet

/- The other readers know what they knew. -/
theorem sound_set
    {exits : Nat}
    (hSound : ∀ pc ∈ readers, pc.Sound numReaders exits)
    (hB : b.Sound numReaders exits) :
    ∀ pc ∈ readers.set i b, pc.Sound numReaders exits := by
  intro pc hMem
  rcases List.mem_or_eq_of_mem_set hMem with hOld | hNew
  · exact hSound pc hOld
  · rw [hNew]
    exact hB

/- When nobody has the marker, exits do not matter. -/
theorem sound_of_without
    {exits exits' : Nat}
    (hSound : ∀ pc ∈ readers, pc.Sound numReaders exits)
    (hUncounted : uncounted readers = 0)
    (hCounted : counted readers = 0) :
    ∀ pc ∈ readers, pc.Sound numReaders exits' := by
  intro pc hMem
  exact (hSound pc hMem).of_without
    (List.countP_eq_zero.mp hUncounted pc hMem)
    (List.countP_eq_zero.mp hCounted pc hMem)

namespace Relay

/- At the start, the writer has the marker. -/
theorem start
    (hReaders : 1 ≤ numReaders)
    (garbage : Nat → SensorData V) :
    Relay numReaders
      ((List.range numReaders).map
        (fun i => ReaderPc.remove (garbage i)))
      0 1 [] [] := by
  have hNone :
      ∀ p : ReaderPc V → Bool,
        (∀ x, p (.remove x) = false) →
        ((List.range numReaders).map
            (fun i =>
              ReaderPc.remove (garbage i))).countP p = 0 := by
    intro p hFalse
    rw [List.countP_eq_zero]
    intro pc hMem hTrue
    rcases List.mem_map.mp hMem with ⟨i, _, rfl⟩
    rw [hFalse] at hTrue
    cases hTrue
  have hExits := hNone ReaderPc.hasExited (fun _ => rfl)
  have hUncounted := hNone ReaderPc.uncounted (fun _ => rfl)
  have hCounted := hNone ReaderPc.counted (fun _ => rfl)
  constructor
  · simp
  · intro pc hMem
    rcases List.mem_map.mp hMem with ⟨i, _, rfl⟩
    trivial
  · simp only [exits, counted, hExits, hCounted]
  · intro x hMem
    cases hMem
  · left
    simp only [exits, uncounted, counted, hExits, hUncounted,
      hCounted, List.length_nil]
    exact ⟨trivial, hReaders⟩
  · intro hData
    exact absurd rfl hData
  · intro _
    exact hExits

/- While the writer is away, nobody else has a marker. -/
theorem of_away
    (h : Relay numReaders readers eosCount 1 data marks) :
    marks = [] ∧ exits readers = 0 ∧
      uncounted readers = 0 ∧ counted readers = 0 := by
  have hExits := h.writer_first rfl
  rcases h.marker with ⟨hOne, _⟩ | ⟨hZero, _⟩
  · have hMarks : marks.length = 0 := by
      omega
    rw [List.length_eq_zero_iff] at hMarks
    refine ⟨hMarks, hExits, ?_, ?_⟩
    · omega
    · omega
  · omega

/- The writer inserts a record. -/
theorem append_record
    (h : Relay numReaders readers eosCount 1 data marks)
    (x : SensorData V) :
    Relay numReaders readers eosCount 1 (data ++ [x])
      marks where
  length_eq := h.length_eq
  sound := h.sound
  count_eq := h.count_eq
  marks_eq := h.marks_eq
  marker := h.marker
  records_first := fun _ => h.of_away.2
  writer_first := h.writer_first

/- The writer inserts the marker. -/
theorem send
    (h : Relay numReaders readers eosCount 1 data marks)
    {x : SensorData V}
    (hMarker : isMarker x = true) :
    Relay numReaders readers eosCount 0 data [x] where
  length_eq := h.length_eq
  sound := h.sound
  count_eq := h.count_eq
  marks_eq := by
    intro y hMem
    rw [List.mem_singleton.mp hMem]
    exact hMarker
  marker := by
    have hBefore := h.marker
    rw [h.of_away.1, List.length_nil] at hBefore
    rw [List.length_singleton]
    omega
  records_first := h.records_first
  writer_first := by
    intro hNo
    cases hNo

/- A reader goes on, and keeps what it has. -/
theorem go
    (h : Relay numReaders readers eosCount away data marks)
    (hGet : readers[i]? = some a)
    (hExited : b.hasExited = a.hasExited)
    (hUncounted : b.uncounted = a.uncounted)
    (hCounted : b.counted = a.counted)
    (hSound : b.Sound numReaders (exits readers)) :
    Relay numReaders (readers.set i b) eosCount away data
      marks := by
  have hExits : exits (readers.set i b) = exits readers :=
    countP_set_of_eq hGet hExited
  have hUncounted' :
      uncounted (readers.set i b) = uncounted readers :=
    countP_set_of_eq hGet hUncounted
  have hCounted' :
      counted (readers.set i b) = counted readers :=
    countP_set_of_eq hGet hCounted
  constructor
  · rw [List.length_set]
    exact h.length_eq
  · rw [hExits]
    exact sound_set h.sound hSound
  · rw [hExits, hCounted']
    exact h.count_eq
  · exact h.marks_eq
  · rw [hExits, hUncounted', hCounted']
    exact h.marker
  · rw [hExits, hUncounted', hCounted']
    exact h.records_first
  · rw [hExits]
    exact h.writer_first

/- The first record leaves the buffer. -/
theorem drop_record
    {x : SensorData V}
    (h :
      Relay numReaders readers eosCount away (x :: data)
        marks) :
    Relay numReaders readers eosCount away data marks where
  length_eq := h.length_eq
  sound := h.sound
  count_eq := h.count_eq
  marks_eq := h.marks_eq
  marker := h.marker
  records_first := fun _ =>
    h.records_first (List.cons_ne_nil _ _)
  writer_first := h.writer_first

/- A reader takes the marker from the buffer. -/
theorem take
    {x old : SensorData V}
    (h :
      Relay numReaders readers eosCount away [] (x :: marks))
    (hGet : readers[i]? = some (.remove old)) :
    marks = [] ∧
      Relay numReaders (readers.set i (.check x)) eosCount
        away [] [] := by
  have hX : isMarker x = true :=
    h.marks_eq x List.mem_cons_self
  have hExits := exits_set hGet (.check x)
  have hUncounted := uncounted_set hGet (.check x)
  have hCounted := counted_set hGet (.check x)
  simp only [ReaderPc.hasExited, ReaderPc.uncounted,
    ReaderPc.counted, hX, Bool.toNat_true, Bool.toNat_false,
    Nat.add_zero] at hExits hUncounted hCounted
  have hMarker := h.marker
  rw [List.length_cons] at hMarker
  have hMarks : marks.length = 0 := by
    omega
  refine ⟨List.length_eq_zero_iff.mp hMarks, ?_⟩
  constructor
  · rw [List.length_set]
    exact h.length_eq
  · rw [hExits]
    exact sound_set h.sound trivial
  · rw [hExits, hCounted]
    exact h.count_eq
  · intro y hMem
    cases hMem
  · rw [List.length_nil]
    omega
  · intro hNo
    exact absurd rfl hNo
  · rw [hExits]
    exact h.writer_first

/- A reader with the marker finds no records. -/
theorem no_records
    (h : Relay numReaders readers eosCount away data marks)
    (hSome : uncounted readers + counted readers ≠ 0) :
    data = [] := by
  by_contra hData
  have hNone := h.records_first hData
  omega

/- It loads the count of those who have exited. -/
theorem load
    {x : SensorData V}
    (h : Relay numReaders readers eosCount away data marks)
    (hGet : readers[i]? = some (.loadCount x)) :
    Relay numReaders (readers.set i (.storeCount x eosCount))
      eosCount away data marks := by
  have hX := h.sound _ (List.mem_of_getElem? hGet)
  have hCount := h.count_eq
  have hMarker := h.marker
  have hOne : 0 < uncounted readers :=
    List.countP_pos_iff.mpr
      ⟨_, List.mem_of_getElem? hGet, rfl⟩
  refine h.go (b := .storeCount x eosCount) hGet rfl rfl rfl
    ⟨hX, ?_⟩
  omega

/- A reader with the marker stores its count. -/
theorem store
    {x : SensorData V}
    {loaded : Nat}
    (h : Relay numReaders readers eosCount away data marks)
    (hGet : readers[i]? = some (.storeCount x loaded)) :
    Relay numReaders (readers.set i (.testCount x))
      (loaded + 1) away data marks := by
  rcases h.sound _ (List.mem_of_getElem? hGet) with
    ⟨hX, hLoaded⟩
  have hExits := exits_set hGet (.testCount x)
  have hUncounted := uncounted_set hGet (.testCount x)
  have hCounted := counted_set hGet (.testCount x)
  simp only [ReaderPc.hasExited, ReaderPc.uncounted,
    ReaderPc.counted, Bool.toNat_true, Bool.toNat_false,
    Nat.add_zero] at hExits hUncounted hCounted
  have hMarker := h.marker
  constructor
  · rw [List.length_set]
    exact h.length_eq
  · rw [hExits]
    exact sound_set h.sound hX
  · -- it is the only one that has the marker
    omega
  · exact h.marks_eq
  · omega
  · intro hData
    have hNone := h.records_first hData
    omega
  · rw [hExits]
    exact h.writer_first

/- A reader that is not the last one may put it back. -/
theorem test
    {x : SensorData V}
    (h : Relay numReaders readers eosCount away data marks)
    (hGet : readers[i]? = some (.testCount x))
    (hLess : eosCount < numReaders) :
    Relay numReaders (readers.set i (.reinsert x)) eosCount
      away data marks := by
  have hX := h.sound _ (List.mem_of_getElem? hGet)
  have hCount := h.count_eq
  have hOne : 0 < counted readers :=
    List.countP_pos_iff.mpr
      ⟨_, List.mem_of_getElem? hGet, rfl⟩
  refine h.go (b := .reinsert x) hGet rfl rfl rfl ⟨hX, ?_⟩
  omega

/- The counts when the reader that has the marker exits. -/
theorem exit_counts
    {x : SensorData V}
    (h : Relay numReaders readers eosCount away data marks)
    (hGet : readers[i]? = some a)
    (hCounted : a.counted = true)
    (hUncounted : a.uncounted = false)
    (hExited : a.hasExited = false)
    (hMarker : isMarker x = true) :
    away = 0 ∧ marks = [] ∧ data = [] ∧
      eosCount = exits (readers.set i (.exited x)) ∧
      uncounted (readers.set i (.exited x)) = 0 ∧
      counted (readers.set i (.exited x)) = 0 ∧
      ∀ n, ∀ pc ∈ readers.set i (.exited x),
        pc.Sound numReaders n := by
  have hExits := exits_set hGet (.exited x)
  have hUncounted' := uncounted_set hGet (.exited x)
  have hCounted' := counted_set hGet (.exited x)
  rw [hExited] at hExits
  rw [hUncounted] at hUncounted'
  rw [hCounted] at hCounted'
  simp only [ReaderPc.hasExited, ReaderPc.uncounted,
    ReaderPc.counted, Bool.toNat_true, Bool.toNat_false,
    Nat.add_zero] at hExits hUncounted' hCounted'
  have hPlace := h.marker
  have hCount := h.count_eq
  have hMarks : marks.length = 0 := by
    omega
  have hZero : uncounted (readers.set i (.exited x)) = 0 := by
    omega
  have hZero' : counted (readers.set i (.exited x)) = 0 := by
    omega
  refine ⟨?_, List.length_eq_zero_iff.mp hMarks, ?_, ?_,
    hZero, hZero', ?_⟩
  · omega
  · apply h.no_records
    omega
  · omega
  · intro n
    exact sound_of_without
      (sound_set (b := .exited x) h.sound hMarker) hZero hZero'

/- It puts the marker back for the others, and exits. -/
theorem pass
    {x : SensorData V}
    (h : Relay numReaders readers eosCount away data marks)
    (hGet : readers[i]? = some (.reinsert x)) :
    data = [] ∧ marks = [] ∧
      Relay numReaders (readers.set i (.exited x)) eosCount
        away [] [x] := by
  rcases h.sound _ (List.mem_of_getElem? hGet) with
    ⟨hX, hNotLast⟩
  rcases h.exit_counts hGet rfl rfl rfl hX with
    ⟨hAway, hMarks, hData, hCount, hUncounted, hCounted,
      hSound⟩
  have hExits := exits_set hGet (.exited x)
  simp only [ReaderPc.hasExited, Bool.toNat_true,
    Bool.toNat_false, Nat.add_zero] at hExits
  refine ⟨hData, hMarks, ?_⟩
  constructor
  · rw [List.length_set]
    exact h.length_eq
  · exact hSound _
  · rw [hCounted]
    exact hCount
  · intro y hMem
    rw [List.mem_singleton.mp hMem]
    exact hX
  · rw [List.length_singleton]
    omega
  · intro hNo
    exact absurd rfl hNo
  · omega

/- The last reader exits with the marker. -/
theorem retire
    {x : SensorData V}
    (h : Relay numReaders readers eosCount away data marks)
    (hGet : readers[i]? = some (.testCount x))
    (hLast : ¬ eosCount < numReaders) :
    Relay numReaders (readers.set i (.exited x)) eosCount
      away data marks := by
  have hX := h.sound _ (List.mem_of_getElem? hGet)
  rcases h.exit_counts hGet rfl rfl rfl hX with
    ⟨hAway, hMarks, hData, hCount, hUncounted, hCounted,
      hSound⟩
  have hLength : (readers.set i (.exited x)).length =
      numReaders := by
    rw [List.length_set]
    exact h.length_eq
  have hLe :
      exits (readers.set i (.exited x)) ≤ numReaders :=
    hLength ▸ List.countP_le_length
  constructor
  · exact hLength
  · exact hSound _
  · rw [hCounted]
    exact hCount
  · exact h.marks_eq
  · rw [hMarks, List.length_nil]
    omega
  · intro hNo
    exact absurd hData hNo
  · omega

end Relay

end Moves

------------------------------------------------------------
-- The Flow of the Records
------------------------------------------------------------

namespace Pipeline

/- The readers as workers at the records taken so far. -/
def dealing
    (s : Pipeline V)
    (removed : List (SensorData V)) :
    Dealing (SensorData V) where
  dealt := removed
  hands := s.readers.map ReaderPc.hand
  done := s.fileOut

/-
  Where everything is. The records of the input were removed,
  are in the buffer in front of the marker, or still with the
  writer.
-/
structure Flow
    (numReaders : Nat)
    (input : List (SensorData V))
    (s : Pipeline V)
    (nodes : List (Nat × SensorData V))
    (data marks removed : List (SensorData V)) : Prop where
  no_fault : s.fault = none
  represents : s.buf.Represents nodes
  queue_eq : nodes.map Prod.snd = data ++ marks
  input_eq : removed ++ data ++ s.writer.unsent = input
  balanced : (s.dealing removed).Balanced
  relay :
    Relay numReaders s.readers s.eosCount s.writer.away data
      marks

/- An insert appends a node, and changes nothing else. -/
theorem insert_of_represents
    {s : Pipeline V}
    {nodes : List (Nat × SensorData V)}
    (hRep : s.buf.Represents nodes)
    (data : SensorData V) :
    ∃ buf a,
      s.insert data = { s with buf := buf } ∧
        buf.Represents (nodes ++ [(a, data)]) := by
  rcases sbufferInsert_of_represents hRep data with
    ⟨buf, hInsert, hRep', _⟩
  refine ⟨buf, _, ?_, hRep'⟩
  simp only [insert, Plab4.sbufferInsert, hInsert]

/- A reader whose move does not change the record it holds. -/
theorem dealing_set
    {s : Pipeline V}
    {i : Nat}
    {a b : ReaderPc V}
    (hGet : s.readers[i]? = some a)
    (hHand : b.hand = a.hand)
    (removed : List (SensorData V)) :
    (s.setReader i b).dealing removed = s.dealing removed := by
  unfold dealing setReader
  simp only
  rw [map_set_of_eq hGet hHand]

/- The hand of a reader. -/
theorem dealing_hand
    {s : Pipeline V}
    {i : Nat}
    {a : ReaderPc V}
    (hGet : s.readers[i]? = some a)
    (removed : List (SensorData V)) :
    (s.dealing removed).hands[i]? = some a.hand := by
  simp only [dealing, List.getElem?_map, hGet]
  rfl

namespace Flow

variable {numReaders : Nat}
variable {input : List (SensorData V)}
variable {s t : Pipeline V}
variable {nodes : List (Nat × SensorData V)}
variable {data marks removed : List (SensorData V)}

/- At the start, everything is with the writer. -/
theorem start
    (hReaders : 1 ≤ numReaders)
    (input : List (SensorData V))
    (record : SensorData V)
    (garbage : Nat → SensorData V) :
    Flow numReaders input
      (.start numReaders input record garbage)
      [] [] [] [] where
  no_fault := rfl
  represents := Sbuffer.fresh_represents
  queue_eq := rfl
  input_eq := rfl
  balanced := by
    apply Dealing.Balanced.start
    intro x hMem
    simp only [Pipeline.start, List.map_map, List.mem_map,
      Function.comp_apply] at hMem
    rcases hMem with ⟨i, _, rfl⟩
    rfl
  relay := Relay.start hReaders garbage

/- The writer reads from its file, or is done with it. -/
theorem of_writer_local
    (h : Flow numReaders input s nodes data marks removed)
    {pc : WriterPc V}
    (hUnsent : pc.unsent = s.writer.unsent)
    (hAway : pc.away = s.writer.away) :
    Flow numReaders input { s with writer := pc } nodes data
      marks removed where
  no_fault := h.no_fault
  represents := h.represents
  queue_eq := h.queue_eq
  input_eq := by
    simp only
    rw [hUnsent]
    exact h.input_eq
  balanced := h.balanced
  relay := by
    simp only
    rw [hAway]
    exact h.relay

/- The writer keeps the flow. -/
theorem of_writer
    (h : Flow numReaders input s nodes data marks removed)
    (hStep : writerThread s = some t) :
    ∃ nodes data marks,
      Flow numReaders input t nodes data marks removed := by
  unfold writerThread at hStep
  split at hStep
  · -- `fread` gets a record
    rename_i record rest last hPc
    cases hStep
    refine ⟨nodes, data, marks, h.of_writer_local ?_ ?_⟩
    · rw [hPc]
      rfl
    · rw [hPc]
      rfl
  · -- the file is at its end
    rename_i record hPc
    cases hStep
    refine ⟨nodes, data, marks, h.of_writer_local ?_ ?_⟩
    · rw [hPc]
      rfl
    · rw [hPc]
      rfl
  · -- the record goes into the buffer
    rename_i rest record hPc
    have hRelay := h.relay
    rw [hPc] at hRelay
    have hMarks := hRelay.of_away.1
    rcases insert_of_represents h.represents record with
      ⟨buf, a, hInsert, hRep⟩
    rw [hInsert] at hStep
    cases hStep
    refine ⟨nodes ++ [(a, record)], data ++ [record], marks,
      h.no_fault, hRep, ?_, ?_, h.balanced,
      hRelay.append_record record⟩
    · rw [List.map_append, h.queue_eq, hMarks,
        List.append_nil, List.append_nil]
      rfl
    · have hInput := h.input_eq
      rw [hPc] at hInput
      simpa [WriterPc.unsent] using hInput
  · -- the marker follows all records
    rename_i record hPc
    have hRelay := h.relay
    rw [hPc] at hRelay
    have hMarks := hRelay.of_away.1
    rcases insert_of_represents h.represents
        { record with id := 0 } with
      ⟨buf, a, hInsert, hRep⟩
    rw [hInsert] at hStep
    cases hStep
    refine ⟨nodes ++ [(a, { record with id := 0 })], data,
      [{ record with id := 0 }], h.no_fault, hRep, ?_, ?_,
      h.balanced, hRelay.send rfl⟩
    · rw [List.map_append, h.queue_eq, hMarks,
        List.append_nil]
      rfl
    · have hInput := h.input_eq
      rw [hPc] at hInput
      exact hInput
  · cases hStep

section Readers

variable {i : Nat}
variable {a b : ReaderPc V}

/- A reader moves on without the buffer. -/
theorem of_setReader
    (h : Flow numReaders input s nodes data marks removed)
    (hGet : s.readers[i]? = some a)
    {eosCount : Nat}
    (hRelay :
      Relay numReaders (s.readers.set i b) eosCount
        s.writer.away data marks)
    (hHand : b.hand = a.hand) :
    Flow numReaders input
      ({ s with eosCount := eosCount }.setReader i b)
      nodes data marks removed where
  no_fault := h.no_fault
  represents := h.represents
  queue_eq := h.queue_eq
  input_eq := h.input_eq
  balanced := by
    have hSame := dealing_set hGet hHand removed
    have hBalanced := h.balanced
    rw [← hSame] at hBalanced
    exact hBalanced
  relay := hRelay

/- A removal takes the next record, or the marker. -/
theorem of_remove
    {old x : SensorData V}
    {rest : List (Nat × SensorData V)}
    {c : Nat}
    {buf : Sbuffer V}
    (hInput : ∀ x ∈ input, isMarker x = false)
    (h :
      Flow numReaders input s ((c, x) :: rest) data marks
        removed)
    (hGet : s.readers[i]? = some (.remove old))
    (hRep : buf.Represents rest) :
    ∃ data marks removed,
      Flow numReaders input
        ({ s with buf := buf }.setReader i (.check x))
        rest data marks removed := by
  have hQueue := h.queue_eq
  have hSplit := h.input_eq
  have hRelay := h.relay
  cases data with
  | cons y data =>
      -- the next record of the deal
      rw [List.map_cons, List.cons_append, List.cons.injEq]
        at hQueue
      rcases hQueue with ⟨rfl, hQueue⟩
      have hRecord : isMarker x = false := by
        apply hInput
        rw [← hSplit]
        simp
      refine ⟨data, marks, removed ++ [x], h.no_fault, hRep,
        hQueue, ?_, ?_, ?_⟩
      · rw [List.append_assoc removed]
        exact hSplit
      · have hTaken :=
          h.balanced.of_step
            (.take x (dealing_hand hGet removed))
        have hHand : (ReaderPc.check x).hand = some x := by
          simp [ReaderPc.hand, ReaderPc.held, hRecord]
        unfold dealing setReader
        simp only [List.map_set, hHand]
        exact hTaken
      · exact hRelay.drop_record.go hGet rfl hRecord rfl
          trivial
  | nil =>
      -- there are no more records, so this is the marker
      cases marks with
      | nil => cases hQueue
      | cons y marks =>
          rw [List.map_cons, List.nil_append,
            List.cons.injEq] at hQueue
          rcases hQueue with ⟨rfl, hQueue⟩
          rcases hRelay.take hGet with ⟨rfl, hRelay'⟩
          have hMarker : isMarker x = true :=
            hRelay.marks_eq x List.mem_cons_self
          refine ⟨[], [], removed, h.no_fault, hRep, hQueue,
            hSplit, ?_, hRelay'⟩
          have hHand :
              (ReaderPc.check x).hand =
                (ReaderPc.remove old).hand := by
            apply ReaderPc.hand_eq_none
            rintro y ⟨⟩
            exact hMarker
          have hSame := dealing_set hGet hHand removed
          have hBalanced := h.balanced
          rw [← hSame] at hBalanced
          exact hBalanced

/- A row is written. -/
theorem of_write
    {x : SensorData V}
    (h : Flow numReaders input s nodes data marks removed)
    (hGet : s.readers[i]? = some (.write x)) :
    Flow numReaders input
      ({ s with fileOut := s.fileOut ++ [(i, x)] }.setReader
        i (.remove x))
      nodes data marks removed where
  no_fault := h.no_fault
  represents := h.represents
  queue_eq := h.queue_eq
  input_eq := h.input_eq
  balanced := by
    have hRecord : isMarker x = false :=
      h.relay.sound _ (List.mem_of_getElem? hGet)
    have hHand : (ReaderPc.write x).hand = some x := by
      simp [ReaderPc.hand, ReaderPc.held, hRecord]
    have hHolds := dealing_hand hGet removed
    rw [hHand] at hHolds
    have hDone := h.balanced.of_step (.finish hHolds)
    unfold dealing setReader
    simp only [List.map_set]
    exact hDone
  relay := h.relay.go hGet rfl rfl rfl trivial

/- The marker goes back into the buffer. -/
theorem of_reinsert
    {x : SensorData V}
    {buf : Sbuffer V}
    {c : Nat}
    (h : Flow numReaders input s nodes data marks removed)
    (hGet : s.readers[i]? = some (.reinsert x))
    (hRep : buf.Represents (nodes ++ [(c, x)])) :
    Flow numReaders input
      ({ s with buf := buf }.setReader i (.exited x))
      (nodes ++ [(c, x)]) [] [x] removed := by
  have hMarker : isMarker x = true :=
    (h.relay.sound _ (List.mem_of_getElem? hGet)).1
  rcases h.relay.pass hGet with ⟨hData, hMarks, hRelay⟩
  constructor
  · exact h.no_fault
  · exact hRep
  · rw [List.map_append, h.queue_eq, hData, hMarks]
    rfl
  · rw [← hData]
    exact h.input_eq
  · have hHand :
        (ReaderPc.exited x).hand =
          (ReaderPc.reinsert x).hand := by
      refine (ReaderPc.hand_eq_none ?_).symm
      rintro y ⟨⟩
      exact hMarker
    have hSame := dealing_set hGet hHand removed
    have hBalanced := h.balanced
    rw [← hSame] at hBalanced
    exact hBalanced
  · exact hRelay

/- Every reader keeps the flow. -/
theorem of_reader
    (hInput : ∀ x ∈ input, isMarker x = false)
    (h : Flow numReaders input s nodes data marks removed)
    (hStep : readerThread numReaders s i = some t) :
    ∃ nodes data marks removed,
      Flow numReaders input t nodes data marks removed := by
  unfold readerThread at hStep
  split at hStep
  · cases hStep
  · -- `sbuffer_remove`
    rename_i old hGet
    cases nodes with
    | nil =>
        simp only [Plab4.sbufferRemove,
          sbufferRemove_of_empty h.represents] at hStep
        cases hStep
    | cons node rest =>
        rcases node with ⟨c, x⟩
        simp only [Plab4.sbufferRemove,
          sbufferRemove_of_represents h.represents,
          Option.some.injEq] at hStep
        subst hStep
        exact ⟨rest,
          h.of_remove hInput hGet h.represents.drop⟩
  · -- the test of the id
    rename_i x hGet
    split at hStep
    · rename_i hId
      have hMarker : isMarker x = true := decide_eq_true hId
      have hRelay :=
        h.relay.go (b := .loadCount x) hGet rfl hMarker.symm
          rfl hMarker
      cases hStep
      exact ⟨_, _, _, _, h.of_setReader hGet hRelay rfl⟩
    · rename_i hId
      have hRecord : isMarker x = false :=
        decide_eq_false hId
      have hRelay :=
        h.relay.go (b := .write x) hGet rfl hRecord.symm rfl
          hRecord
      cases hStep
      exact ⟨_, _, _, _, h.of_setReader hGet hRelay rfl⟩
  · -- the load of the count
    rename_i x hGet
    cases hStep
    exact ⟨_, _, _, _,
      h.of_setReader hGet (h.relay.load hGet) rfl⟩
  · -- the store of the count
    rename_i x loaded hGet
    cases hStep
    exact ⟨_, _, _, _,
      h.of_setReader hGet (h.relay.store hGet) rfl⟩
  · -- the test of the count
    rename_i x hGet
    split at hStep
    · rename_i hLess
      cases hStep
      exact ⟨_, _, _, _,
        h.of_setReader hGet (h.relay.test hGet hLess) rfl⟩
    · rename_i hLast
      have hMarker : isMarker x = true :=
        h.relay.sound _ (List.mem_of_getElem? hGet)
      cases hStep
      refine ⟨_, _, _, _,
        h.of_setReader hGet (h.relay.retire hGet hLast) ?_⟩
      refine (ReaderPc.hand_eq_none ?_).symm
      rintro y ⟨⟩
      exact hMarker
  · -- the marker goes back
    rename_i x hGet
    rcases insert_of_represents h.represents x with
      ⟨buf, c, hInsert, hRep⟩
    rw [hInsert] at hStep
    cases hStep
    exact ⟨_, _, _, _, h.of_reinsert hGet hRep⟩
  · -- a row
    rename_i x hGet
    cases hStep
    exact ⟨_, _, _, _, h.of_write hGet⟩
  · cases hStep

end Readers

end Flow

------------------------------------------------------------
-- Nothing is Lost
------------------------------------------------------------

/-
  There is at most one marker, and who has exited has left no
  record in the buffer.
-/
structure Safe
    (s : Pipeline V)
    (nodes : List (Nat × SensorData V)) : Prop where
  no_fault : s.fault = none
  represents : s.buf.Represents nodes
  one_marker :
    (nodes.map Prod.snd).countP isMarker +
      s.readers.countP ReaderPc.holdsMarker ≤ 1
  drained :
    (∃ x, .exited x ∈ s.readers) →
      ∀ node ∈ nodes, isMarker node.2 = true

/-
  All readers have found the marker, and the rows are those
  of the input: each record once, and the rows of one reader
  in the order of the input.
-/
structure Complete
    (input : List (SensorData V))
    (s : Pipeline V) : Prop where
  by_marker :
    ∀ pc ∈ s.readers,
      ∃ x, pc = .exited x ∧ isMarker x = true
  empty : s.buf.Represents []
  rows_perm : (s.fileOut.map Prod.snd).Perm input
  rows_order : ∀ i, (ofTag i s.fileOut).Sublist input

namespace Flow

variable {numReaders : Nat}
variable {input : List (SensorData V)}
variable {s : Pipeline V}
variable {nodes : List (Nat × SensorData V)}
variable {data marks removed : List (SensorData V)}

theorem safe
    (hInput : ∀ x ∈ input, isMarker x = false)
    (h : Flow numReaders input s nodes data marks removed) :
    s.Safe nodes := by
  have hQueue := h.queue_eq
  have hData : data.countP isMarker = 0 := by
    rw [List.countP_eq_zero]
    intro x hMem hMarker
    rw [hInput x (by rw [← h.input_eq]; simp [hMem])]
      at hMarker
    cases hMarker
  have hMarks : marks.countP isMarker = marks.length := by
    rw [List.countP_eq_length]
    exact h.relay.marks_eq
  have hHeld :
      s.readers.countP ReaderPc.holdsMarker =
        uncounted s.readers + counted s.readers := by
    apply countP_eq_add
    intro pc hMem
    exact (h.relay.sound pc hMem).holdsMarker_toNat
  constructor
  · exact h.no_fault
  · exact h.represents
  · rw [hQueue, List.countP_append, hData, hMarks, hHeld]
    have hMarker := h.relay.marker
    omega
  · rintro ⟨x, hMem⟩ node hNode
    have hExits : 0 < exits s.readers :=
      List.countP_pos_iff.mpr ⟨_, hMem, rfl⟩
    have hNone : data = [] := by
      by_contra hSome
      have hZero := (h.relay.records_first hSome).1
      omega
    rw [hNone, List.nil_append] at hQueue
    apply h.relay.marks_eq
    rw [← hQueue]
    exact List.mem_map_of_mem hNode

/- The flow when all threads have exited. -/
theorem complete
    (hReaders : 1 ≤ numReaders)
    (h : Flow numReaders input s nodes data marks removed)
    (hWriter : s.writer = .exited)
    (hExited : ∀ pc ∈ s.readers, pc.hasExited = true) :
    s.Complete input := by
  have hExits : exits s.readers = numReaders := by
    rw [← h.relay.length_eq]
    exact List.countP_eq_length.mpr hExited
  have hMarker := h.relay.marker
  have hData : data = [] := by
    by_contra hSome
    have hZero := (h.relay.records_first hSome).1
    omega
  have hMarks : marks = [] := by
    rw [← List.length_eq_zero_iff]
    omega
  have hNodes : nodes = [] := by
    rw [← List.map_eq_nil_iff (f := Prod.snd), h.queue_eq,
      hData, hMarks]
    rfl
  have hRemoved : removed = input := by
    rw [← h.input_eq, hData, hWriter, WriterPc.unsent,
      List.append_nil, List.append_nil]
  constructor
  · intro pc hMem
    have hSound := h.relay.sound pc hMem
    have hHere := hExited pc hMem
    cases pc with
    | exited x => exact ⟨x, rfl, hSound⟩
    | remove x => cases hHere
    | check x => cases hHere
    | loadCount x => cases hHere
    | storeCount x loaded => cases hHere
    | testCount x => cases hHere
    | reinsert x => cases hHere
    | write x => cases hHere
  · rw [← hNodes]
    exact h.represents
  · rw [← hRemoved]
    apply h.balanced.perm_of_empty
    intro x hMem
    rcases List.mem_map.mp hMem with ⟨pc, hPc, rfl⟩
    have hHere := hExited pc hPc
    apply ReaderPc.hand_eq_none
    intro y hHeld
    cases pc with
    | exited x => cases hHeld
    | remove x => cases hHere
    | check x => cases hHere
    | loadCount x => cases hHere
    | storeCount x loaded => cases hHere
    | testCount x => cases hHere
    | reinsert x => cases hHere
    | write x => cases hHere
  · intro i
    rw [← hRemoved]
    exact h.balanced.sublist i

end Flow

end Pipeline

/- The flow is kept by every run. -/
theorem pipelineSystem_flow
    {numReaders : Nat}
    {input : List (SensorData V)}
    {record : SensorData V}
    {garbage : Nat → SensorData V}
    {labels : List PipelineLabel}
    {s : Pipeline V}
    (hReaders : 1 ≤ numReaders)
    (hInput : ∀ x ∈ input, isMarker x = false)
    (hRun :
      (pipelineSystem numReaders input record garbage).run
          labels = some s) :
    ∃ nodes data marks removed,
      s.Flow numReaders input nodes data marks removed := by
  refine System.invariant_of_step _
    (fun s => ∃ nodes data marks removed,
      Pipeline.Flow numReaders input s nodes data marks
        removed)
    ⟨[], [], [], [],
      Pipeline.Flow.start hReaders input record garbage⟩
    ?_ hRun
  rintro s l t ⟨nodes, data, marks, removed, h⟩ hStep
  have hGo : ¬ s.fault.isSome = true := by
    rw [h.no_fault]
    simp
  simp only [pipelineSystem, pipelineStep, if_neg hGo]
    at hStep
  cases l with
  | writer =>
      rcases h.of_writer hStep with
        ⟨nodes', data', marks', h'⟩
      exact ⟨nodes', data', marks', removed, h'⟩
  | reader i => exact h.of_reader hInput hStep

/-
  For any number of readers and any input, in all states of
  all runs there is at most one marker, and no reader exits
  before the records are taken. When all threads have exited,
  the readers have written the input.
-/
theorem pipelineSystem_losesNothing
    {numReaders : Nat}
    (hReaders : 1 ≤ numReaders)
    {input : List (SensorData V)}
    (hInput : ∀ x ∈ input, x.id ≠ 0)
    (record : SensorData V)
    (garbage : Nat → SensorData V)
    (labels : List PipelineLabel)
    {s : Pipeline V}
    (hRun :
      (pipelineSystem numReaders input record garbage).run
          labels = some s) :
    (∃ nodes, s.Safe nodes) ∧
      (s.writer = .exited →
        (∀ pc ∈ s.readers, pc.hasExited = true) →
          s.Complete input) := by
  have hRecords : ∀ x ∈ input, isMarker x = false :=
    fun x hMem => decide_eq_false (hInput x hMem)
  rcases pipelineSystem_flow hReaders hRecords hRun with
    ⟨nodes, data, marks, removed, h⟩
  exact ⟨⟨nodes, h.safe hRecords⟩, h.complete hReaders⟩

/-
  Two readers, where the second one overtakes the first with
  its row, and the first one puts the marker back.
-/
def twoReaders : List PipelineLabel :=
  [.writer, .writer, .writer, .writer, .writer, .writer,
    .reader 0, .reader 1, .reader 1, .reader 1, .reader 0,
    .reader 0,
    .reader 0, .reader 0, .reader 0, .reader 0, .reader 0,
    .reader 0,
    .reader 1, .reader 1, .reader 1, .reader 1, .reader 1]

theorem losesNothing_twoReaders :
    ∃ s : Pipeline (BitVec 64),
      (pipelineSystem 2 [⟨1, 2, 3⟩, ⟨4, 5, 6⟩] ⟨0, 0, 0⟩
          (fun _ => ⟨0, 0, 0⟩)).run twoReaders = some s ∧
        s.fileOut = [(1, ⟨4, 5, 6⟩), (0, ⟨1, 2, 3⟩)] ∧
        s.Complete [⟨1, 2, 3⟩, ⟨4, 5, 6⟩] := by
  have hReaders : 1 ≤ 2 := by
    decide
  have hInput :
      ∀ x ∈ ([⟨1, 2, 3⟩, ⟨4, 5, 6⟩] :
        List (SensorData (BitVec 64))), x.id ≠ 0 := by
    decide
  have hEnd :=
    (pipelineSystem_losesNothing hReaders hInput ⟨0, 0, 0⟩
      (fun _ => ⟨0, 0, 0⟩) twoReaders rfl).2
  exact ⟨_, rfl, rfl, hEnd rfl (by decide)⟩

end Plab4

end SensorGateway
