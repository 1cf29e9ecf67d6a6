import SensorGateway.Foundations.Simulation
import SensorGateway.Gateway.LogBytes
import SensorGateway.Stdio.Text

/-
  The bytes in the pipe and in the log refine the model of
  numbered lines, in runs in which no call begins while
  another one is formatting. A call then takes its number in
  the model when its line is formatted.

  Key definitions include:
    * `lineNumber`
    * `IsTextOf`
    * `Streamed`
    * `LogPipe.Represents`

  Key theorems include:
    * `LogPipe.Represents.of_step`
    * `logPipeSystem_refines`
-/

------------------------------------------------------------
-- Lines and their Numbers
------------------------------------------------------------

namespace SensorGateway

open Foundations

variable {V : Type}
variable [FloatValue V]

/- The number that a line starts with. -/
def lineNumber
    (line : List (BitVec 8)) :
    Int :=
  atoi line

/- The bytes are those of the line. -/
structure IsTextOf
    (line : LogLine V)
    (bytes : List (BitVec 8)) : Prop where
  number_lt : line.1 < intMax
  fromGateway : IsGatewayMessage line.2
  written :
    ∃ now,
      bytes = writtenLine line.1 now (sentString line.2)

namespace IsTextOf

variable {line : LogLine V}
variable {bytes : List (BitVec 8)}

theorem number_lt_int
    (h : IsTextOf line bytes) :
    (line.1 : Int) < 2 ^ 31 := by
  have hLt := h.number_lt
  unfold intMax at hLt
  omega

theorem isPipeMessage
    (h : IsTextOf line bytes) :
    IsPipeMessage bytes := by
  rcases h.written with ⟨now, rfl⟩
  exact isPipeMessage_writtenLine h.fromGateway
    (Int.natCast_nonneg _) h.number_lt_int now

theorem eq_head
    (h : IsTextOf line bytes) :
    ∃ now,
      bytes = lineHead line.1 now ++ sentString line.2 := by
  rcases h.written with ⟨now, rfl⟩
  exact
    ⟨now,
      h.fromGateway.writtenLine_eq (Int.natCast_nonneg _)
        h.number_lt_int now⟩

/- The line has room in the buffer of the log process. -/
theorem length_lt
    (h : IsTextOf line bytes) :
    bytes.length < BUFFER_SIZE := by
  rcases h.eq_head with ⟨now, rfl⟩
  have hNumber :=
    length_printSigned_int_le (Int.natCast_nonneg line.1)
      h.number_lt_int
  have hMessage := h.fromGateway.sentString_ends.2.1
  rw [List.length_append, length_lineHead]
  unfold BUFFER_SIZE
  omega

/- The number of the line is read off its text. -/
theorem lineNumber_eq
    (h : IsTextOf line bytes) :
    lineNumber bytes = line.1 := by
  rcases h.eq_head with ⟨now, rfl⟩
  have hLt := h.number_lt_int
  have hSign :
      printSigned (line.1 : Int) = decimal line.1 := by
    unfold printSigned printSign
    rw [decide_eq_false (Int.not_lt.mpr
      (Int.natCast_nonneg _)), Int.natAbs_natCast]
    rfl
  unfold lineNumber lineHead
  rw [hSign, List.append_assoc]
  apply atoi_decimal_append_of_lt (by omega)
  intro b hMem
  cases hMem
  rfl

end IsTextOf

------------------------------------------------------------
-- The Stream
------------------------------------------------------------

/-
  The bytes in the file and in the pipe are the texts of the
  lines, one after the other. The lines that are in the file
  to their ends are `logged`; of the first one of the others,
  a part may be in the file.
-/
def Streamed
    (logged queued : List (LogLine V))
    (logFile pipe : List (BitVec 8)) : Prop :=
  ∃ loggedTexts queuedTexts part,
    List.Forall₂ IsTextOf logged loggedTexts ∧
      List.Forall₂ IsTextOf queued queuedTexts ∧
      logFile = loggedTexts.flatten ++ part ∧
      queuedTexts.flatten = part ++ pipe ∧
      ∀ text ∈ queuedTexts.head?, part.length < text.length

namespace Streamed

variable {logged queued : List (LogLine V)}
variable {logFile pipe : List (BitVec 8)}

theorem nil :
    Streamed ([] : List (LogLine V)) [] [] [] :=
  ⟨[], [], [], .nil, .nil, rfl, rfl, fun _ hMem => nomatch hMem⟩

/- A line is written at once. -/
theorem write
    (h : Streamed logged queued logFile pipe)
    {line : LogLine V}
    {bytes : List (BitVec 8)}
    (hText : IsTextOf line bytes) :
    Streamed logged (queued ++ [line]) logFile
      (pipe ++ bytes) := by
  rcases h with
    ⟨loggedTexts, queuedTexts, part, hLogged, hQueued, hFile,
      hPipe, hPart⟩
  refine
    ⟨loggedTexts, queuedTexts ++ [bytes], part, hLogged,
      List.rel_append hQueued (.cons hText .nil), hFile, ?_,
      ?_⟩
  · rw [List.flatten_append, hPipe, List.flatten_singleton,
      List.append_assoc]
  · cases queuedTexts with
    | nil =>
        have hNil := List.append_eq_nil_iff.mp hPipe.symm
        have hSome :=
          List.length_pos_of_ne_nil
            hText.isPipeMessage.isLine.ne_nil
        intro text hMem
        cases hMem
        rw [hNil.1]
        exact hSome
    | cons text texts => exact hPart

/- What is read is in the file; some lines may be complete. -/
theorem read
    {chunk rest : List (BitVec 8)}
    (h : Streamed logged queued logFile (chunk ++ rest)) :
    ∃ done waiting,
      queued = done ++ waiting ∧
        Streamed (logged ++ done) waiting (logFile ++ chunk)
          rest := by
  rcases h with
    ⟨loggedTexts, queuedTexts, part, hLogged, hQueued, hFile,
      hPipe, hPart⟩
  rw [← List.append_assoc] at hPipe
  rcases exists_whole_lines hPipe with
    ⟨whole, texts, part', hSplit, hFront, hBack, hPart'⟩
  rw [hSplit] at hQueued
  refine
    ⟨queued.take whole.length, queued.drop whole.length,
      (List.take_append_drop _ _).symm,
      loggedTexts ++ whole, texts, part', ?_, ?_, ?_, hBack,
      hPart'⟩
  · exact List.rel_append hLogged
      (List.forall₂_take_append _ _ _ hQueued)
  · exact List.forall₂_drop_append _ _ _ hQueued
  · rw [hFile, List.append_assoc, hFront,
      List.flatten_append, List.append_assoc]

/- The log process copies what it reads. -/
theorem copies
    {chunk rest : List (BitVec 8)}
    (h : Streamed logged queued logFile (chunk ++ rest)) :
    cString chunk = chunk ∧ chunk ≠ dataFileClosed := by
  rcases h with
    ⟨loggedTexts, queuedTexts, part, hLogged, hQueued, hFile,
      hPipe, _⟩
  have hMessages :
      ∀ text ∈ loggedTexts ++ queuedTexts,
        IsPipeMessage text := by
    intro text hMem
    rcases forall₂_mem_right
        (List.rel_append hLogged hQueued) hMem with
      ⟨line, _, hText⟩
    exact hText.isPipeMessage
  have hChunks :
      [logFile, chunk, rest].flatten =
        (loggedTexts ++ queuedTexts).flatten := by
    rw [List.flatten_append, hPipe, hFile]
    simp
  have hMem : chunk ∈ [logFile, chunk, rest] := by simp
  have hNul :=
    nul_not_mem_of_messages
      (fun text hText => (hMessages text hText).nul_not_mem)
      hChunks chunk hMem
  exact
    ⟨cString_of_nul_not_mem hNul,
      chunk_ne_of_messages hMessages hChunks chunk hMem⟩

end Streamed

------------------------------------------------------------
-- The Refinement
------------------------------------------------------------

omit [FloatValue V] in
/- The log process may copy lines that are in the pipe. -/
theorem logSystem_copies
    {threads : Nat}
    (u : LogProcess V)
    (hDefined : u.overflowed = false)
    (done waiting : List (LogLine V))
    (hPipe : u.pipe = done ++ waiting) :
    (logSystem V threads).runFrom u
        (List.replicate done.length .copy) =
      some
        { u with
            pipe := waiting
            gatewayLog := u.gatewayLog ++ done } := by
  induction done generalizing u with
  | nil =>
      rw [List.nil_append] at hPipe
      rw [← hPipe, List.append_nil]
      rfl
  | cons line done ih =>
      have hStep :
          (logSystem V threads).step u .copy =
            some
              { u with
                  pipe := done ++ waiting
                  gatewayLog := u.gatewayLog ++ [line] } := by
        show logStep u .copy = _
        simp only [logStep, hDefined, copyToLog, hPipe,
          Bool.false_eq_true, if_false, List.cons_append]
      have hRest :=
        ih
          { u with
              pipe := done ++ waiting
              gatewayLog := u.gatewayLog ++ [line] }
          hDefined rfl
      rw [List.length_cons, List.replicate_succ,
        System.runFrom, hStep, Option.bind_some, hRest]
      simp only [List.append_assoc, List.singleton_append]

omit [FloatValue V] in
/- A copy overtakes nobody. -/
theorem guardedFrom_copies
    {threads : Nat}
    (u : LogProcess V)
    (n : Nat) :
    (logSystem V threads).GuardedFrom NotOvertaking u
      (List.replicate n .copy) := by
  refine
    ((logSystem V threads).guardedFrom_iff _ _ _).mpr ?_
  intro before a after t hSplit _
  have hMem : a ∈ List.replicate n LogLabel.copy := by
    rw [hSplit]
    simp
  rw [(List.mem_replicate.mp hMem).2]
  trivial

namespace LogPipe

/- What a call stands for in the model. -/
inductive StandsFor :
    Option (LogLine V) → LogCall V → Prop where
  | idle : StandsFor none .idle
  | formatting {f : Formatting V} :
      StandsFor none (.formatting f)
  | formatted
      {line : LogLine V}
      {bytes : List (BitVec 8)}
      (hText : IsTextOf line bytes) :
      StandsFor (some line) (.formatted bytes)

/-
  The lines of the threads and of the pipe are the same in
  the two models. The gateway is not killed by its pipe, and
  the log process does not end before the pipe is closed and
  empty.
-/
structure Represents
    (s : LogPipe V)
    (u : LogProcess V) : Prop where
  sharing :
    Sharing s.calls s.sequenceNumber s.ctimeBuffer
      u.sequenceNumber
  overflowed : u.overflowed = s.overflowed
  calls : List.Forall₂ StandsFor u.formatted s.calls
  streamed :
    Streamed u.gatewayLog u.pipe s.logFile s.pipe
  not_broken : s.gateway ≠ .brokenPipe
  exit_closed :
    s.gateway = .exitFailure → s.writeEndOpen = false
  end_of_file :
    s.readEndOpen = false →
      s.writeEndOpen = false ∧ s.pipe = []

theorem Represents.start
    (threads : Nat) :
    (start V threads).Represents
      (.start threads : LogProcess V) where
  sharing := by
    refine .nobody ?_ rfl
    intro call hMem
    rw [(List.mem_replicate.mp hMem).2]
    rfl
  overflowed := rfl
  calls := forall₂_replicate .idle threads
  streamed := .nil
  not_broken := by
    intro h
    cases h
  exit_closed := by
    intro h
    cases h
  end_of_file := by
    intro h
    cases h

/- A write into the pipe overtakes nobody. -/
def NotOvertaking
    (s : LogPipe V) :
    LogPipeLabel V → Prop
| .write i =>
    s.writeEndOpen = true →
      ∀ line, s.calls[i]? = some (.formatted line) →
        ∀ other, .formatted other ∈ s.calls →
          lineNumber line ≤ lineNumber other
| _ => True

variable {s t : LogPipe V}
variable {u : LogProcess V}

/- A call that has no line yet is not in the model. -/
theorem Represents.set_formatting
    (h : s.Represents u)
    {i : Nat}
    (hIdle : u.formatted[i]? = some none)
    (f : Formatting V) :
    List.Forall₂ StandsFor u.formatted
      (s.calls.set i (.formatting f)) := by
  have hSet :=
    forall₂_set h.calls (.formatting (f := f)) i
  rcases List.getElem?_eq_some_iff.mp hIdle with
    ⟨hLength, hNone⟩
  rw [← hNone, List.set_getElem_self] at hSet
  exact hSet

/- A thread starts to format. -/
theorem Represents.call
    {i : Nat}
    {msg : GatewayMessage V}
    {now : CtimeDate}
    (h : s.Represents u)
    (hAlone : s.FormatsAlone (.call i msg now))
    (hStep : s.call i msg now = some t) :
    t.Represents u := by
  unfold LogPipe.call at hStep
  split at hStep
  · rename_i hCall
    cases hStep
    have hLength := (List.getElem?_eq_some_iff.mp hCall).1
    rcases forall₂_getElem? h.calls hCall with
      ⟨_, hIdle, hRel⟩
    cases hRel
    exact
      { h with
        sharing := h.sharing.set_call hAlone hLength msg now
        calls := h.set_formatting hIdle _ }
  · cases hStep

/- A thread takes its number in the model with its line. -/
theorem Represents.format
    {threads i : Nat}
    {a : FormatStep}
    (h : s.Represents u)
    (hDefined : s.overflowed = false)
    (hStep : s.formatStep i a = some t) :
    ∃ calls v,
      (logSystem V threads).runFrom u calls = some v ∧
        t.Represents v ∧
        (logSystem V threads).GuardedFrom
          SensorGateway.NotOvertaking u calls := by
  rcases formatMove_of_step h.sharing hStep with
    ⟨f, hCall, hMove⟩
  rcases forall₂_getElem? h.calls hCall with
    ⟨_, hIdle, hRel⟩
  cases hRel
  have hTake :
      (logSystem V threads).runFrom u
          [.number i f.msg.val] =
        takeSequenceNumber u i f.msg.val := by
    simp [System.runFrom, logSystem, logStep, h.overflowed,
      hDefined]
  have hGuard :
      (logSystem V threads).GuardedFrom
        SensorGateway.NotOvertaking u
        [.number i f.msg.val] :=
    ⟨trivial, fun _ _ => trivial⟩
  cases hMove with
  | argument hEq hMsg hNow hSharing =>
      subst hEq
      exact
        ⟨[], u, rfl,
          { h with
            sharing := hSharing
            calls := h.set_formatting hIdle _ },
          trivial⟩
  | overflow hFull hEq =>
      subst hEq
      refine
        ⟨_, { u with overflowed := true }, hTake.trans ?_,
          { h with overflowed := rfl }, hGuard⟩
      simp only [takeSequenceNumber, hIdle, if_neg hFull]
  | line hLt hBytes hEq hSharing =>
      subst hEq
      refine
        ⟨_,
          { u with
              sequenceNumber := u.sequenceNumber + 1
              formatted :=
                u.formatted.set i
                  (some (u.sequenceNumber, f.msg.val)) },
          hTake.trans ?_, ?_, hGuard⟩
      · simp only [takeSequenceNumber, hIdle, if_pos hLt]
      · exact
          { h with
            sharing := hSharing
            calls :=
              forall₂_set h.calls
                (.formatted
                  ⟨hLt, f.msg.property, f.now, hBytes⟩)
                i }

/- The numbers of the texts are those of the lines. -/
theorem Represents.notOvertaking_iff
    {i : Nat}
    {bytes : List (BitVec 8)}
    (h : s.Represents u)
    (hOpen : s.writeEndOpen = true)
    (hBytes : s.calls[i]? = some (.formatted bytes)) :
    s.NotOvertaking (.write i) ↔
      SensorGateway.NotOvertaking u (.write i) := by
  rcases forall₂_getElem? h.calls hBytes with
    ⟨_, hLine, hRel⟩
  cases hRel with
  | @formatted line _ hText =>
      constructor
      · intro hAll line' hLine' other hOther
        rw [hLine, Option.some.injEq, Option.some.injEq]
          at hLine'
        subst hLine'
        rcases forall₂_mem_left h.calls hOther with
          ⟨_, hOther', hRel'⟩
        cases hRel' with
        | formatted hText' =>
            have hLe := hAll hOpen bytes hBytes _ hOther'
            rw [hText.lineNumber_eq, hText'.lineNumber_eq]
              at hLe
            exact Int.ofNat_le.mp hLe
      · intro hAll _ bytes' hBytes' other hOther
        rw [hBytes, Option.some.injEq, LogCall.formatted.injEq]
          at hBytes'
        subst hBytes'
        rcases forall₂_mem_right h.calls hOther with
          ⟨_, hOther', hRel'⟩
        cases hRel' with
        | formatted hText' =>
            have hLe := hAll line hLine _ hOther'
            rw [hText.lineNumber_eq, hText'.lineNumber_eq]
            exact Int.ofNat_le.mpr hLe

/- What a write can do. -/
theorem writeLine_cases
    {PIPE_SIZE i : Nat}
    (hStep : s.writeLine PIPE_SIZE i = some t) :
    ∃ bytes, s.calls[i]? = some (.formatted bytes) ∧
      (s.writeEndOpen = false ∧
          t = { s with gateway := .exitFailure } ∨
        s.writeEndOpen = true ∧ s.readEndOpen = false ∧
          t =
            { s with
                gateway := .brokenPipe
                writeEndOpen := false } ∨
        s.writeEndOpen = true ∧ s.readEndOpen = true ∧
          s.pipe.length + bytes.length ≤ PIPE_SIZE ∧
          t =
            { s with
                calls := s.calls.set i .idle
                pipe := s.pipe ++ bytes }) := by
  unfold writeLine at hStep
  split at hStep
  · rename_i bytes hBytes
    refine ⟨bytes, hBytes, ?_⟩
    split at hStep
    · rename_i hClosed
      cases hStep
      exact .inl ⟨by simpa using hClosed, rfl⟩
    · rename_i hOpen
      split at hStep
      · rename_i hEnd
        cases hStep
        exact
          .inr (.inl
            ⟨by simpa using hOpen, by simpa using hEnd, rfl⟩)
      · rename_i hRead
        split at hStep
        · rename_i hRoom
          cases hStep
          exact
            .inr (.inr
              ⟨by simpa using hOpen, by simpa using hRead,
                hRoom, rfl⟩)
        · cases hStep
  · cases hStep

/- A write appends its line, or it fails. -/
theorem Represents.write
    {PIPE_SIZE threads i : Nat}
    (h : s.Represents u)
    (hDefined : s.overflowed = false)
    (hStep : s.writeLine PIPE_SIZE i = some t) :
    ∃ calls v,
      (logSystem V threads).runFrom u calls = some v ∧
        t.Represents v ∧
        ((logSystem V threads).GuardedFrom
            SensorGateway.NotOvertaking u calls ↔
          s.NotOvertaking (.write i)) := by
  rcases writeLine_cases hStep with
    ⟨bytes, hBytes, ⟨hClosed, rfl⟩ | ⟨hOpen, hEnd, _⟩ |
      ⟨hOpen, hRead, _, rfl⟩⟩
  · refine ⟨[], u, rfl, ?_, ?_⟩
    · exact
        { h with
          not_broken := by
            intro hEq
            cases hEq
          exit_closed := fun _ => hClosed }
    · refine iff_of_true trivial ?_
      intro hOpen
      rw [hClosed] at hOpen
      cases hOpen
  · have hClosed := (h.end_of_file hEnd).1
    rw [hOpen] at hClosed
    cases hClosed
  · rcases forall₂_getElem? h.calls hBytes with
      ⟨_, hLine, hRel⟩
    cases hRel with
    | @formatted line _ hText =>
        refine
          ⟨[.write i],
            { u with
                formatted := u.formatted.set i none
                pipe := u.pipe ++ [line] }, ?_, ?_, ?_⟩
        · simp only [System.runFrom, logSystem, logStep,
            h.overflowed, hDefined, writeToPipe, hLine,
            Bool.false_eq_true, if_false, Option.bind_some]
        · exact
            { h with
              sharing := h.sharing.set_idle hBytes rfl
              calls := forall₂_set h.calls .idle i
              streamed := h.streamed.write hText
              end_of_file := by
                intro hEnd
                rw [show s.readEndOpen = true from hRead]
                  at hEnd
                cases hEnd }
        · rw [h.notOvertaking_iff hOpen hBytes]
          exact and_iff_left (fun _ _ => trivial)

/- Of what is read, all is copied. -/
theorem Represents.readChunk_eq
    {n : Nat}
    (h : s.Represents u)
    (hStep : s.readChunk n = some t) :
    s.readEndOpen = true ∧ 0 < n ∧ n ≤ s.pipe.length ∧
      t =
        { s with
            pipe := s.pipe.drop n
            logFile := s.logFile ++ s.pipe.take n } := by
  unfold readChunk at hStep
  split at hStep
  · rename_i hRead
    have hStreamed := h.streamed
    rw [← List.take_append_drop n s.pipe] at hStreamed
    rw [hStreamed.copies.1, if_neg hStreamed.copies.2]
      at hStep
    cases hStep
    exact ⟨hRead.1, hRead.2.1, hRead.2.2.2, rfl⟩
  · cases hStep

theorem Represents.read
    {threads n : Nat}
    (h : s.Represents u)
    (hDefined : s.overflowed = false)
    (hStep : s.readChunk n = some t) :
    ∃ calls v,
      (logSystem V threads).runFrom u calls = some v ∧
        t.Represents v ∧
        (logSystem V threads).GuardedFrom
          SensorGateway.NotOvertaking u calls := by
  rcases h.readChunk_eq hStep with ⟨hRead, _, _, rfl⟩
  have hStreamed := h.streamed
  rw [← List.take_append_drop n s.pipe] at hStreamed
  rcases hStreamed.read with ⟨done, waiting, hPipe, hMore⟩
  refine
    ⟨List.replicate done.length .copy, _,
      logSystem_copies u (h.overflowed.trans hDefined) done
        waiting hPipe,
      ?_, guardedFrom_copies u done.length⟩
  exact
    { h with
      streamed := hMore
      end_of_file := by
        intro hEnd
        rw [show s.readEndOpen = true from hRead] at hEnd
        cases hEnd }

/- The log process ends behind the last byte. -/
theorem Represents.endOfFile
    (h : s.Represents u)
    (hStep : s.endOfFile = some t) :
    t.Represents u := by
  unfold LogPipe.endOfFile at hStep
  split at hStep
  · rename_i hEnd
    cases hStep
    exact
      { h with
        end_of_file := fun _ => ⟨hEnd.2.2, hEnd.2.1⟩ }
  · cases hStep

theorem Represents.close
    (h : s.Represents u)
    (hStep : s.closeWriteEnd = some t) :
    t.Represents u := by
  unfold closeWriteEnd at hStep
  split at hStep
  · cases hStep
    exact
      { h with
        exit_closed := fun _ => rfl
        end_of_file :=
          fun hEnd => ⟨rfl, (h.end_of_file hEnd).2⟩ }
  · cases hStep

/-
  A step of the two processes is some steps of the model in
  which lines are the units of the pipe and of the log.
-/
theorem Represents.of_step
    {PIPE_SIZE threads : Nat}
    {l : LogPipeLabel V}
    (h : s.Represents u)
    (hAlone : s.FormatsAlone l)
    (hStep : logPipeStep PIPE_SIZE s l = some t) :
    ∃ calls v,
      (logSystem V threads).runFrom u calls = some v ∧
        t.Represents v ∧
        ((logSystem V threads).GuardedFrom
            SensorGateway.NotOvertaking u calls ↔
          s.NotOvertaking l) := by
  rcases logPipeStep_cases hStep with ⟨hDefined, hCase⟩
  cases l with
  | call i msg now =>
      exact
        ⟨[], u, rfl, h.call hAlone hCase.2,
          iff_of_true trivial trivial⟩
  | format i a =>
      rcases h.format hDefined hCase.2 with
        ⟨calls, v, hRun, hRep, hGuard⟩
      exact ⟨calls, v, hRun, hRep, iff_of_true hGuard trivial⟩
  | write i => exact h.write hDefined hCase.2
  | close =>
      exact
        ⟨[], u, rfl, h.close hCase.2,
          iff_of_true trivial trivial⟩
  | read n =>
      rcases h.read hDefined hCase with
        ⟨calls, v, hRun, hRep, hGuard⟩
      exact ⟨calls, v, hRun, hRep, iff_of_true hGuard trivial⟩
  | endOfFile =>
      exact
        ⟨[], u, rfl, h.endOfFile hCase,
          iff_of_true trivial trivial⟩

end LogPipe

/- The model of numbered lines simulates the processes. -/
theorem logPipeSystem_simulates
    (PIPE_SIZE threads : Nat) :
    (logSystem V threads).Simulates
      (logPipeSystem V PIPE_SIZE threads)
      LogPipe.Represents LogPipe.FormatsAlone
      LogPipe.NotOvertaking NotOvertaking where
  init := .start threads
  step := fun _ _ _ _ h hAlone hStep => h.of_step hAlone hStep

/-
  The processes refine the model of numbered lines: what the
  log process has in its file is the text of the lines that
  the model has in its log, and a part of the next line. No
  run ends in a broken pipe, or ends the log process before
  the pipe is closed and empty. A write overtakes another
  thread exactly if it does in the model.
-/
theorem logPipeSystem_refines
    {PIPE_SIZE threads : Nat}
    {labels : List (LogPipeLabel V)}
    {s : LogPipe V}
    (hAlone :
      (logPipeSystem V PIPE_SIZE threads).Guarded
        LogPipe.FormatsAlone labels)
    (hRun :
      (logPipeSystem V PIPE_SIZE threads).run labels =
        some s) :
    ∃ calls u,
      (logSystem V threads).run calls = some u ∧
        s.Represents u ∧
        ((logSystem V threads).Guarded NotOvertaking calls ↔
          (logPipeSystem V PIPE_SIZE threads).Guarded
            LogPipe.NotOvertaking labels) :=
  (logPipeSystem_simulates PIPE_SIZE threads).run hAlone hRun

end SensorGateway
