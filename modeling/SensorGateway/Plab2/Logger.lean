import SensorGateway.Gateway.LogPipe

/-
  The logger of `plab2/milestone2`, and its shutdown.

  `write_to_log_process` and the loop of the child are those
  of the gateway, but the log is opened in append mode, and
  `end_log_process` sends the text that ends the loop. It is
  sent with a number and a date in front, as all messages
  are. So the loop is ended by it only if a read begins just
  behind the date; and then the number and the date are in
  the log already, on the line of the last message.

  Key definitions include:
    * `sentLines`
    * `loggerStream`
    * `Handshake`

  Key theorems include:
    * `logLoop_eq_terminated_iff`
    * `logFile_of_terminated`
    * `handshake_never`
-/

------------------------------------------------------------
-- Sender and Receiver
------------------------------------------------------------

namespace SensorGateway

namespace Plab2

open Foundations

/-
  The lines of calls of `write_to_log_process`, each with its
  date, from a value of the `int sequence_number` on.
-/
def sentLines
    (sequenceNumber : BitVec 32) :
    List (CtimeDate × List (BitVec 8)) →
      List (List (BitVec 8))
| [] => []
| (d, msg) :: calls =>
    writtenLine sequenceNumber.toInt d msg ::
      sentLines (sequenceNumber + 1) calls

/- The call in `end_log_process`. -/
def endLogProcess
    (d : CtimeDate) :
    CtimeDate × List (BitVec 8) :=
  (d, dataFileClosed)

/- All bytes that are written to the pipe. -/
def loggerStream
    (calls : List (CtimeDate × List (BitVec 8)))
    (d : CtimeDate) :
    List (BitVec 8) :=
  (sentLines 0 (calls ++ [endLogProcess d])).flatten

/- A file whose last line is the given one. -/
def EndsWithLine
    (line file : List (BitVec 8)) : Prop :=
  file = line ∨ newline :: line <:+ file

/-
  The child ends its loop by the message that is sent last.
  Its log, behind what the file had before, begins with the
  earlier messages and ends with the line of its own.
-/
def Handshake
    (previous : List (BitVec 8))
    (calls : List (CtimeDate × List (BitVec 8)))
    (chunks : List (List (BitVec 8))) : Prop :=
  ∃ logFile,
    logLoop previous chunks = (logFile, .terminated []) ∧
      previous ++ (sentLines 0 calls).flatten <+: logFile ∧
      EndsWithLine loggerTerminating logFile

------------------------------------------------------------
-- What Ends the Loop
------------------------------------------------------------

/- Only a chunk with exactly the text ends the loop. -/
theorem logLoop_eq_terminated_iff
    {chunks rest : List (List (BitVec 8))}
    (hNul : ∀ chunk ∈ chunks, 0 ∉ chunk)
    (previous logFile : List (BitVec 8)) :
    logLoop previous chunks = (logFile, .terminated rest) ↔
      ∃ earlier,
        chunks = earlier ++ dataFileClosed :: rest ∧
          dataFileClosed ∉ earlier ∧
          logFile =
            previous ++ earlier.flatten ++
              loggerTerminating := by
  have hStop :
      ∀ {earlier after : List (List (BitVec 8))},
        chunks = earlier ++ dataFileClosed :: after →
          dataFileClosed ∉ earlier →
            logLoop previous chunks =
              (previous ++ earlier.flatten ++
                  loggerTerminating,
                .terminated after) := by
    intro earlier after hSplit hPlain
    have hEarlierNul : ∀ chunk ∈ earlier, 0 ∉ chunk := by
      intro chunk hMem
      apply hNul
      rw [hSplit]
      exact List.mem_append_left _ hMem
    have hEarlierPlain :
        ∀ chunk ∈ earlier, chunk ≠ dataFileClosed := by
      intro chunk hMem hEq
      rw [hEq] at hMem
      exact hPlain hMem
    rw [hSplit, logLoop_append hEarlierNul hEarlierPlain,
      logLoop_dataFileClosed]
  constructor
  · intro hLoop
    by_cases hMem : dataFileClosed ∈ chunks
    · rcases List.eq_append_cons_of_mem hMem with
        ⟨earlier, after, hSplit, hPlain⟩
      rw [hStop hSplit hPlain, Prod.mk.injEq,
        LoopEnd.terminated.injEq] at hLoop
      rcases hLoop with ⟨rfl, rfl⟩
      exact ⟨earlier, hSplit, hPlain, rfl⟩
    · have hPlain :
          ∀ chunk ∈ chunks, chunk ≠ dataFileClosed := by
        intro chunk hChunk hEq
        rw [hEq] at hChunk
        exact hMem hChunk
      rw [logLoop_of_plain hNul hPlain] at hLoop
      cases hLoop
  · rintro ⟨earlier, hSplit, hPlain, rfl⟩
    exact hStop hSplit hPlain

------------------------------------------------------------
-- The Last Message
------------------------------------------------------------

/- The number of the call behind others. -/
def numberBehind
    (calls : List (CtimeDate × List (BitVec 8))) :
    BitVec 32 :=
  BitVec.ofNat 32 calls.length

theorem sentLines_append
    (sequenceNumber : BitVec 32)
    (calls : List (CtimeDate × List (BitVec 8)))
    (call : CtimeDate × List (BitVec 8)) :
    sentLines sequenceNumber (calls ++ [call]) =
      sentLines sequenceNumber calls ++
        [writtenLine
          (sequenceNumber + numberBehind calls).toInt
          call.1 call.2] := by
  induction calls generalizing sequenceNumber with
  | nil =>
      have hZero : sequenceNumber + numberBehind [] =
          sequenceNumber := BitVec.add_zero _
      rw [hZero]
      rfl
  | cons first calls ih =>
      have hNumber :
          sequenceNumber + numberBehind (first :: calls) =
            sequenceNumber + 1 + numberBehind calls := by
        unfold numberBehind
        rw [List.length_cons, BitVec.add_assoc,
          Nat.add_comm calls.length 1, BitVec.ofNat_add]
        rfl
      rw [List.cons_append, sentLines, sentLines, ih,
        hNumber, List.cons_append]

/- The termination message has its number and date in front. -/
theorem writtenLine_endLogProcess
    (sequenceNumber : BitVec 32)
    (d : CtimeDate) :
    writtenLine sequenceNumber.toInt d dataFileClosed =
      lineHead sequenceNumber.toInt d ++ dataFileClosed := by
  have hNumber :
      (printSigned sequenceNumber.toInt).length ≤ 11 := by
    have hLow := sequenceNumber.le_toInt
    have hHigh := @BitVec.toInt_lt _ sequenceNumber
    have hWidth :
        decimalWidth sequenceNumber.toInt.natAbs ≤ 10 :=
      decimalWidth_le_of_lt (by decide) (by omega)
    have hSign := signWidth_le (sequenceNumber.toInt < 0)
    rw [length_printSigned]
    omega
  have hText : dataFileClosed.length = 17 := rfl
  apply writtenLine_of_fits (by decide)
  rw [List.length_append, length_lineHead, hText]
  unfold BUFFER_SIZE
  omega

/- The stream ends in the text that is to end the loop. -/
theorem loggerStream_eq
    (calls : List (CtimeDate × List (BitVec 8)))
    (d : CtimeDate) :
    loggerStream calls d =
      (sentLines 0 calls).flatten ++
        lineHead (numberBehind calls).toInt d ++
          dataFileClosed := by
  have hNumber :
      0 + numberBehind calls = numberBehind calls :=
    BitVec.zero_add _
  unfold loggerStream
  rw [sentLines_append, List.flatten_append,
    List.flatten_singleton, hNumber, endLogProcess,
    writtenLine_endLogProcess, List.append_assoc]

theorem nul_not_mem_sentLines
    (calls : List (CtimeDate × List (BitVec 8)))
    (sequenceNumber : BitVec 32) :
    ∀ line ∈ sentLines sequenceNumber calls,
      0 ∉ line := by
  induction calls generalizing sequenceNumber with
  | nil => exact List.forall_mem_nil _
  | cons call calls ih =>
      rw [sentLines, List.forall_mem_cons]
      exact ⟨nul_not_mem_cString _, ih _⟩

variable {calls : List (CtimeDate × List (BitVec 8))}
variable {d : CtimeDate}
variable {chunks : List (List (BitVec 8))}

/-
  If the last chunk ends the loop, the log has the number and
  the date of the termination message in front of its end.
-/
theorem logFile_of_terminated
    (hReads : ReadsOf (loggerStream calls d) chunks)
    {previous logFile : List (BitVec 8)}
    (hLoop :
      logLoop previous chunks = (logFile, .terminated [])) :
    logFile =
      previous ++
        ((sentLines 0 calls).flatten ++
          lineHead (numberBehind calls).toInt d) ++
          loggerTerminating := by
  have hNul :=
    nul_not_mem_of_messages
      (nul_not_mem_sentLines (calls ++ [endLogProcess d]) 0)
      hReads.flatten_eq
  rcases (logLoop_eq_terminated_iff hNul _ _).mp hLoop with
    ⟨earlier, hSplit, _, hFile⟩
  have hStream := hReads.flatten_eq
  rw [loggerStream_eq, hSplit, List.flatten_append,
    List.flatten_singleton] at hStream
  rw [hFile, List.append_cancel_right hStream]

/- The head of a line ends in a blank. -/
theorem lineHead_eq_append_space
    (sequenceNumber : Int)
    (d : CtimeDate) :
    ∃ before,
      lineHead sequenceNumber d = before ++ [charByte ' '] := by
  refine
    ⟨printSigned sequenceNumber ++
      (text " - " ++ (d.date ++ text " -")), ?_⟩
  unfold lineHead
  simp only [List.append_assoc]
  rfl

/- So nothing behind it is a line by itself. -/
theorem not_endsWithLine
    (front : List (BitVec 8))
    (sequenceNumber : Int)
    (d : CtimeDate)
    (line : List (BitVec 8)) :
    ¬EndsWithLine line
      (front ++ lineHead sequenceNumber d ++ line) := by
  have hHead :
      ∃ before,
        front ++ lineHead sequenceNumber d ++ line =
          before ++ charByte ' ' :: line := by
    rcases lineHead_eq_append_space sequenceNumber d with
      ⟨before, hEq⟩
    refine ⟨front ++ before, ?_⟩
    rw [hEq]
    simp only [List.append_assoc, List.singleton_append]
  rcases hHead with ⟨before, hHead⟩
  rw [hHead]
  rintro (hEq | hSuffix)
  · have hLength := congrArg List.length hEq
    rw [List.length_append, List.length_cons] at hLength
    omega
  · have hOther :=
      List.suffix_append before (charByte ' ' :: line)
    have hSame :
        newline :: line = charByte ' ' :: line :=
      (List.suffix_of_suffix_length_le hSuffix hOther
        (Nat.le_refl _)).eq_of_length rfl
    exact absurd (List.cons.inj hSame).1 (by decide)

/-
  There is no handshake in any run. The loop ends by the
  termination message only if the last read returns exactly
  its text, and no earlier read did.
-/
theorem handshake_never
    (hReads : ReadsOf (loggerStream calls d) chunks)
    (previous : List (BitVec 8)) :
    ¬Handshake previous calls chunks ∧
      ((logLoop previous chunks).2 = .terminated [] ↔
        ∃ earlier,
          chunks = earlier ++ [dataFileClosed] ∧
            dataFileClosed ∉ earlier) := by
  have hNul :=
    nul_not_mem_of_messages
      (nul_not_mem_sentLines (calls ++ [endLogProcess d]) 0)
      hReads.flatten_eq
  constructor
  · rintro ⟨logFile, hLoop, _, hEnds⟩
    rw [logFile_of_terminated hReads hLoop,
      ← List.append_assoc previous] at hEnds
    exact not_endsWithLine _ _ _ _ hEnds
  · constructor
    · intro hEnd
      rcases (logLoop_eq_terminated_iff hNul _ _).mp
          (Prod.ext rfl hEnd) with
        ⟨earlier, hSplit, hPlain, _⟩
      exact ⟨earlier, hSplit, hPlain⟩
    · rintro ⟨earlier, hSplit, hPlain⟩
      rw [(logLoop_eq_terminated_iff hNul previous _).mpr
        ⟨earlier, hSplit, hPlain, rfl⟩]

/- The reads of a stream that come line by line. -/
theorem readsOf_one_line :
    ReadsOf (loggerStream [] christmasEve)
      [loggerStream [] christmasEve] :=
  ⟨List.flatten_singleton, by decide +kernel,
    by decide +kernel⟩

/- The reads that split the line behind its date. -/
theorem readsOf_split_line :
    ReadsOf (loggerStream [] christmasEve)
      [lineHead 0 christmasEve, dataFileClosed] :=
  ⟨by decide +kernel, by decide +kernel, by decide +kernel⟩

/- Without earlier messages, and with one read for the line. -/
theorem handshake_missed :
    ¬∀ (previous : List (BitVec 8))
        (calls : List (CtimeDate × List (BitVec 8)))
        (d : CtimeDate)
        (chunks : List (List (BitVec 8))),
        ReadsOf (loggerStream calls d) chunks →
          Handshake previous calls chunks := by
  intro hAll
  rcases hAll [] [] christmasEve _ readsOf_one_line with
    ⟨logFile, hLoop, _⟩
  have hEnd :
      (logLoop [] [loggerStream [] christmasEve]).2 =
        .endOfFile := by
    decide +kernel
  rw [hLoop] at hEnd
  cases hEnd

/- The line is split behind its date. -/
theorem handshake_never_split :
    ¬Handshake [] []
        [lineHead 0 christmasEve, dataFileClosed] ∧
      (logLoop []
        [lineHead 0 christmasEve, dataFileClosed]).2 =
          .terminated [] := by
  have hNever := handshake_never readsOf_split_line []
  exact ⟨hNever.1,
    hNever.2.mpr ⟨[lineHead 0 christmasEve], rfl, by decide⟩⟩

end Plab2

end SensorGateway
