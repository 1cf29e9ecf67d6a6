import SensorGateway.Foundations.Scanner

/-
  Streams of lines, and reading them through a buffer.

  A line ends in its only separator. A reader that takes a
  line at a time, but no more than its buffer holds, gets the
  lines of a stream one by one if all of them fit. A line
  that does not fit comes in several pieces.

  Key definitions include:
    * `IsLine`
    * `takeLine`
    * `lineScanner`
    * `readLines`

  Key theorems include:
    * `exists_line_of_flatten`
    * `readLines_flatten`
    * `length_readLines_eq_iff`
    * `exists_whole_lines`
    * `flatten_lines_inj`
-/

------------------------------------------------------------
-- Lines
------------------------------------------------------------

namespace Foundations

variable {α : Type}
variable {sep : α}

/- The only separator is at the end. -/
def IsLine
    (sep : α)
    (line : List α) : Prop :=
  ∃ body, sep ∉ body ∧ line = body ++ [sep]

theorem IsLine.ne_nil
    {line : List α}
    (h : IsLine sep line) :
    line ≠ [] := by
  rcases h with ⟨body, _, rfl⟩
  exact List.append_ne_nil_of_right_ne_nil _
    (List.cons_ne_nil _ _)

/- Text without a separator in front of a line. -/
theorem IsLine.append_left
    {front line : List α}
    (hFront : sep ∉ front)
    (h : IsLine sep line) :
    IsLine sep (front ++ line) := by
  rcases h with ⟨body, hBody, rfl⟩
  refine ⟨front ++ body, ?_, (List.append_assoc _ _ _).symm⟩
  rw [List.mem_append]
  rintro (hMem | hMem)
  · exact hFront hMem
  · exact hBody hMem

/- What is left of a line is a line, if anything is left. -/
theorem IsLine.of_append
    {front line : List α}
    (h : IsLine sep (front ++ line))
    (hSome : line ≠ []) :
    IsLine sep line := by
  rcases h with ⟨body, hBody, hEq⟩
  rcases List.append_eq_append_iff.mp hEq with
    ⟨back, hFront, hLine⟩ | ⟨back, hFront, hLine⟩
  · refine ⟨back, ?_, hLine⟩
    intro hMem
    apply hBody
    rw [hFront]
    exact List.mem_append_right _ hMem
  · have hBack : back = [] := by
      cases back with
      | nil => rfl
      | cons b back =>
          rw [List.cons_append, List.cons.injEq] at hLine
          exact absurd
            (List.append_eq_nil_iff.mp hLine.2.symm).2 hSome
    rw [hBack, List.nil_append] at hLine
    exact ⟨[], List.not_mem_nil, hLine.symm⟩

/- The text up to the first separator is determined. -/
theorem append_separator_inj
    {body body' rest rest' : List α}
    (hBody : sep ∉ body)
    (hBody' : sep ∉ body')
    (hEq : body ++ sep :: rest = body' ++ sep :: rest') :
    body = body' ∧ rest = rest' := by
  induction body generalizing body' with
  | nil =>
      cases body' with
      | nil => exact ⟨rfl, (List.cons.inj hEq).2⟩
      | cons b body' =>
          have hHead : sep = b := (List.cons.inj hEq).1
          rw [hHead] at hBody'
          exact absurd List.mem_cons_self hBody'
  | cons a body ih =>
      cases body' with
      | nil =>
          have hHead : a = sep := (List.cons.inj hEq).1
          rw [hHead] at hBody
          exact absurd List.mem_cons_self hBody
      | cons b body' =>
          have hHead : a = b := (List.cons.inj hEq).1
          have hTail := (List.cons.inj hEq).2
          rcases ih
              (fun h => hBody (List.mem_cons_of_mem _ h))
              (fun h => hBody' (List.mem_cons_of_mem _ h))
              hTail with
            ⟨hBodies, hRests⟩
          exact ⟨by rw [hHead, hBodies], hRests⟩

/-
  A text without a separator, and a separator behind it, are
  the end of one line, wherever they occur in the stream.
-/
theorem exists_line_of_flatten
    {lines : List (List α)}
    {front body back : List α}
    (hLines : ∀ line ∈ lines, IsLine sep line)
    (hBody : sep ∉ body)
    (hEq : lines.flatten = front ++ (body ++ sep :: back)) :
    ∃ line ∈ lines, body ++ [sep] <:+ line := by
  induction lines generalizing front with
  | nil =>
      rw [List.flatten_nil] at hEq
      have hNil :=
        (List.append_eq_nil_iff.mp hEq.symm).2
      exact absurd (List.append_eq_nil_iff.mp hNil).2
        (List.cons_ne_nil _ _)
  | cons line lines ih =>
      have hRest :
          ∀ line ∈ lines, IsLine sep line :=
        fun l hMem => hLines l (List.mem_cons_of_mem _ hMem)
      rw [List.flatten_cons] at hEq
      rcases List.append_eq_append_iff.mp hEq with
        ⟨front', _, hFlatten⟩ | ⟨tail, hLine, hTail⟩
      · rcases ih hRest hFlatten with ⟨l, hMem, hSuffix⟩
        exact ⟨l, List.mem_cons_of_mem _ hMem, hSuffix⟩
      · cases tail with
        | nil =>
            rcases @ih [] hRest hTail.symm with
              ⟨l, hMem, hSuffix⟩
            exact ⟨l, List.mem_cons_of_mem _ hMem, hSuffix⟩
        | cons b tail =>
            have hIsLine :
                IsLine sep (front ++ b :: tail) := by
              rw [← hLine]
              exact hLines line List.mem_cons_self
            rcases hIsLine.of_append (List.cons_ne_nil _ _) with
              ⟨body', hBody', hTailEq⟩
            rw [hTailEq, List.append_assoc,
              List.singleton_append] at hTail
            rcases append_separator_inj hBody hBody' hTail with
              ⟨hSame, _⟩
            refine ⟨line, List.mem_cons_self, front, ?_⟩
            rw [hSame, ← hTailEq, ← hLine]

------------------------------------------------------------
-- Reading Through a Buffer
------------------------------------------------------------

variable [DecidableEq α]

/-
  At most `n` items, up to a separator, which is taken too;
  and the items behind them.
-/
def takeLine
    (sep : α) :
    Nat → List α → List α × List α
| 0, input => ([], input)
| _ + 1, [] => ([], [])
| n + 1, a :: input =>
    if a = sep then
      ([a], input)
    else
      (a :: (takeLine sep n input).1,
        (takeLine sep n input).2)

/- There is a line unless the input is at its end. -/
def lineScanner
    (sep : α)
    (n : Nat) :
    Scanner α (List α) :=
  fun input =>
    if input = [] then
      none
    else
      some (takeLine sep n input)

/- The results of all reads. -/
def readLines
    (sep : α)
    (n : Nat)
    (input : List α) :
    List (List α) :=
  Scanner.scanAll (lineScanner sep n) input

/- A line that fits is read. -/
theorem takeLine_of_fits
    {body rest : List α}
    (hBody : sep ∉ body) :
    ∀ {n}, body.length < n →
      takeLine sep n (body ++ sep :: rest) =
        (body ++ [sep], rest) := by
  induction body with
  | nil =>
      intro n hFits
      cases n with
      | zero => exact absurd hFits (Nat.not_lt_zero _)
      | succ n =>
          rw [List.nil_append, takeLine, if_pos rfl]
          rfl
  | cons b body ih =>
      intro n hFits
      cases n with
      | zero => exact absurd hFits (Nat.not_lt_zero _)
      | succ n =>
          have hHead : b ≠ sep := by
            intro hEq
            rw [hEq] at hBody
            exact hBody List.mem_cons_self
          have hRest :=
            ih (fun h => hBody (List.mem_cons_of_mem _ h))
              (Nat.lt_of_succ_lt_succ hFits)
          rw [List.cons_append, takeLine, if_neg hHead, hRest]
          rfl

/- Of a longer line, as much is read as fits. -/
theorem takeLine_of_long
    {body rest : List α}
    (hBody : sep ∉ body) :
    ∀ {n}, n ≤ body.length →
      takeLine sep n (body ++ rest) =
        (body.take n, body.drop n ++ rest) := by
  induction body with
  | nil =>
      intro n hLong
      have hZero : n = 0 := Nat.le_zero.mp hLong
      rw [hZero]
      rfl
  | cons b body ih =>
      intro n hLong
      cases n with
      | zero => rfl
      | succ n =>
          have hHead : b ≠ sep := by
            intro hEq
            rw [hEq] at hBody
            exact hBody List.mem_cons_self
          have hRest :=
            ih (fun h => hBody (List.mem_cons_of_mem _ h))
              (Nat.le_of_succ_le_succ hLong)
          rw [List.cons_append, takeLine, if_neg hHead, hRest]
          rfl

/- Something is read into a buffer that is not empty. -/
theorem length_takeLine_lt
    (n : Nat) :
    ∀ {input : List α}, input ≠ [] →
      (takeLine sep (n + 1) input).2.length <
        input.length := by
  induction n with
  | zero =>
      intro input hSome
      cases input with
      | nil => exact absurd rfl hSome
      | cons a input =>
          rw [takeLine]
          split <;> exact Nat.lt_succ_self _
  | succ n ih =>
      intro input hSome
      cases input with
      | nil => exact absurd rfl hSome
      | cons a input =>
          rw [takeLine]
          split
          · exact Nat.lt_succ_self _
          · cases input with
            | nil => exact Nat.lt_succ_self _
            | cons b input =>
                have hRest := ih (List.cons_ne_nil b input)
                exact Nat.lt_succ_of_lt hRest

theorem lineScanner_progresses
    (n : Nat) :
    Scanner.Progresses (lineScanner sep (n + 1)) := by
  intro input line rest hScan
  unfold lineScanner at hScan
  split at hScan
  · cases hScan
  · rename_i hSome
    have hLess := @length_takeLine_lt _ sep _ n _ hSome
    rw [Option.some.inj hScan] at hLess
    exact hLess

/- One read, and then the others. -/
theorem readLines_of_ne_nil
    (n : Nat)
    {input : List α}
    (hSome : input ≠ []) :
    readLines sep (n + 1) input =
      (takeLine sep (n + 1) input).1 ::
        readLines sep (n + 1)
          (takeLine sep (n + 1) input).2 := by
  unfold readLines
  apply Scanner.scanAll_of_some (lineScanner_progresses n)
  unfold lineScanner
  rw [if_neg hSome]

/- A line that fits is read by itself. -/
theorem readLines_of_fits
    {n : Nat}
    {line rest : List α}
    (hLine : IsLine sep line)
    (hFits : line.length ≤ n + 1) :
    readLines sep (n + 1) (line ++ rest) =
      line :: readLines sep (n + 1) rest := by
  rcases hLine with ⟨body, hBody, rfl⟩
  rw [List.length_append, List.length_singleton] at hFits
  have hTake :=
    @takeLine_of_fits _ sep _ body rest hBody (n + 1)
      (by omega)
  rw [readLines_of_ne_nil n (by simp), List.append_assoc,
    List.singleton_append, hTake]

/- Lines that fit are read one by one. -/
theorem readLines_flatten
    {n : Nat}
    {lines : List (List α)}
    (hLines : ∀ line ∈ lines, IsLine sep line)
    (hFits : ∀ line ∈ lines, line.length ≤ n + 1) :
    readLines sep (n + 1) lines.flatten = lines := by
  induction lines with
  | nil => rfl
  | cons line lines ih =>
      rw [List.forall_mem_cons] at hLines hFits
      rw [List.flatten_cons,
        readLines_of_fits hLines.1 hFits.1,
        ih hLines.2 hFits.2]

------------------------------------------------------------
-- Long Lines
------------------------------------------------------------

/- A longer line fills the buffer, and its rest is a line. -/
theorem readLines_of_long
    {n : Nat}
    {line : List α}
    (rest : List α)
    (hLine : IsLine sep line)
    (hLong : n + 1 < line.length) :
    IsLine sep (line.drop (n + 1)) ∧
      readLines sep (n + 1) (line ++ rest) =
        line.take (n + 1) ::
          readLines sep (n + 1)
            (line.drop (n + 1) ++ rest) := by
  constructor
  · apply @IsLine.of_append _ sep (line.take (n + 1))
    · rw [List.take_append_drop]
      exact hLine
    · exact List.ne_nil_of_length_pos
        (by rw [List.length_drop]; omega)
  · have hSome : line ++ rest ≠ [] :=
      List.append_ne_nil_of_left_ne_nil hLine.ne_nil _
    rcases hLine with ⟨body, hBody, rfl⟩
    rw [List.length_append, List.length_singleton] at hLong
    have hFull : n + 1 ≤ body.length := by omega
    have hTake :=
      @takeLine_of_long _ sep _ body ([sep] ++ rest)
        hBody (n + 1) hFull
    rw [← List.append_assoc] at hTake
    rw [readLines_of_ne_nil n hSome, hTake,
      List.take_append_of_le_length hFull,
      List.drop_append_of_le_length hFull,
      List.append_assoc]

/- A line takes one read at least. -/
theorem length_readLines_lt
    {n : Nat}
    {line : List α}
    (rest : List α)
    (hLine : IsLine sep line) :
    (readLines sep (n + 1) rest).length <
      (readLines sep (n + 1) (line ++ rest)).length := by
  induction hLength : line.length using
      Nat.strongRecOn generalizing line with
  | ind length ih =>
      rcases Nat.lt_or_ge (n + 1) line.length with
        hLong | hFits
      · rcases readLines_of_long rest hLine hLong with
          ⟨hDrop, hRead⟩
        have hLess :
            (line.drop (n + 1)).length < length := by
          rw [List.length_drop]
          omega
        have hRest := ih _ hLess hDrop rfl
        rw [hRead, List.length_cons]
        omega
      · rw [readLines_of_fits hLine hFits, List.length_cons]
        exact Nat.lt_succ_self _

/- A line that does not fit takes more than one read. -/
theorem length_readLines_of_long
    {n : Nat}
    {line : List α}
    (rest : List α)
    (hLine : IsLine sep line)
    (hLong : n + 1 < line.length) :
    (readLines sep (n + 1) rest).length + 1 <
      (readLines sep (n + 1) (line ++ rest)).length := by
  rcases readLines_of_long rest hLine hLong with
    ⟨hDrop, hRead⟩
  have hRest := @length_readLines_lt _ _ _ n _ rest hDrop
  rw [hRead, List.length_cons]
  omega

theorem length_le_length_readLines
    (n : Nat)
    {lines : List (List α)}
    (hLines : ∀ line ∈ lines, IsLine sep line) :
    lines.length ≤
      (readLines sep (n + 1) lines.flatten).length := by
  induction lines with
  | nil => exact Nat.le_refl _
  | cons line lines ih =>
      rw [List.forall_mem_cons] at hLines
      rw [List.flatten_cons, List.length_cons]
      have hRest := ih hLines.2
      have hRead :=
        @length_readLines_lt _ _ _ n _ lines.flatten hLines.1
      omega

/- There are as many reads as lines if all lines fit. -/
theorem length_readLines_eq_iff
    {n : Nat}
    {lines : List (List α)}
    (hLines : ∀ line ∈ lines, IsLine sep line) :
    (readLines sep (n + 1) lines.flatten).length =
        lines.length ↔
      ∀ line ∈ lines, line.length ≤ n + 1 := by
  constructor
  · intro hLength
    induction lines with
    | nil => exact List.forall_mem_nil _
    | cons line lines ih =>
        rw [List.forall_mem_cons] at hLines ⊢
        rw [List.flatten_cons, List.length_cons] at hLength
        have hRest := length_le_length_readLines n hLines.2
        have hRead :=
          @length_readLines_lt _ _ _ n _ lines.flatten
            hLines.1
        constructor
        · apply Nat.le_of_not_lt
          intro hLong
          have hMore :=
            length_readLines_of_long lines.flatten
              hLines.1 hLong
          omega
        · exact ih hLines.2 (by omega)
  · intro hFits
    rw [readLines_flatten hLines hFits]

------------------------------------------------------------
-- Cut Streams
------------------------------------------------------------

omit [DecidableEq α] in
/-
  Where a stream of lines is cut, there are whole lines in
  front, and a part of the next line, which may be empty.
-/
theorem exists_whole_lines
    {lines : List (List α)}
    {front back : List α}
    (hEq : lines.flatten = front ++ back) :
    ∃ whole rest part,
      lines = whole ++ rest ∧
        front = whole.flatten ++ part ∧
        rest.flatten = part ++ back ∧
        ∀ line ∈ rest.head?, part.length < line.length := by
  induction lines generalizing front with
  | nil =>
      have hNil := List.append_eq_nil_iff.mp hEq.symm
      exact
        ⟨[], [], [], rfl, hNil.1, hNil.2.symm,
          fun _ hMem => nomatch hMem⟩
  | cons line lines ih =>
      rcases Nat.lt_or_ge front.length line.length with
        hPart | hWhole
      · refine ⟨[], line :: lines, front, rfl, rfl, hEq, ?_⟩
        intro other hMem
        cases hMem
        exact hPart
      · rw [List.flatten_cons] at hEq
        have hPrefix : line <+: front :=
          List.prefix_of_prefix_length_le
            ⟨lines.flatten, hEq⟩ (List.prefix_append _ _)
            hWhole
        rcases hPrefix with ⟨front', rfl⟩
        rw [List.append_assoc, List.append_cancel_left_eq]
          at hEq
        rcases ih hEq with
          ⟨whole, rest, part, hSplit, hFront, hBack, hHead⟩
        refine
          ⟨line :: whole, rest, part, ?_, ?_, hBack, hHead⟩
        · rw [hSplit, List.cons_append]
        · rw [hFront, List.flatten_cons, List.append_assoc]

omit [DecidableEq α] in
/- A stream has its lines in one way. -/
theorem flatten_lines_inj
    {lines lines' : List (List α)}
    (hLines : ∀ line ∈ lines, IsLine sep line)
    (hLines' : ∀ line ∈ lines', IsLine sep line)
    (hEq : lines.flatten = lines'.flatten) :
    lines = lines' := by
  induction lines generalizing lines' with
  | nil =>
      cases lines' with
      | nil => rfl
      | cons line' lines' =>
          rw [List.forall_mem_cons] at hLines'
          rw [List.flatten_nil, List.flatten_cons] at hEq
          have hNil := List.append_eq_nil_iff.mp hEq.symm
          exact absurd hNil.1 hLines'.1.ne_nil
  | cons line lines ih =>
      rw [List.forall_mem_cons] at hLines
      cases lines' with
      | nil =>
          rw [List.flatten_nil, List.flatten_cons] at hEq
          have hNil := List.append_eq_nil_iff.mp hEq
          exact absurd hNil.1 hLines.1.ne_nil
      | cons line' lines' =>
          rw [List.forall_mem_cons] at hLines'
          rcases hLines.1 with ⟨body, hBody, rfl⟩
          rcases hLines'.1 with ⟨body', hBody', rfl⟩
          rw [List.flatten_cons, List.flatten_cons,
            List.append_assoc, List.append_assoc,
            List.singleton_append, List.singleton_append]
            at hEq
          rcases append_separator_inj hBody hBody' hEq with
            ⟨rfl, hRest⟩
          rw [ih hLines.2 hLines'.2 hRest]

end Foundations
