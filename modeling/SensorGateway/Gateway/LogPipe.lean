import SensorGateway.Datamgr.FloatAlarms
import SensorGateway.Gateway.LogText

/-
  The bytes in the pipe, and the loop of the log process on
  what its reads return.

  The loop compares a whole chunk with the text that is to
  end it, and prints a chunk as a string. It knows nothing of
  lines. A chunk that has the text of the comparison ends in
  a newline, and so it is the end of one message.

  Key definitions include:
    * `ReadsOf`
    * `logLoop`
    * `IsPipeMessage`

  Key theorems include:
    * `logLoop_append`
    * `logLoop_dataFileClosed`
    * `chunk_ne_of_messages`
    * `isPipeMessage_writtenLine`
    * `gatewayLog_lossless`
-/

------------------------------------------------------------
-- The Loop
------------------------------------------------------------

namespace SensorGateway

open Foundations

/- The text that ends the loop. -/
def dataFileClosed :
    List (BitVec 8) :=
  text "Data file closed\n"

/- What the loop then prints. -/
def loggerTerminating :
    List (BitVec 8) :=
  text "Logger process terminating.\n"

/-
  What the reads return until the stream is at its end: each
  returns the next bytes, one at least, and one less than the
  buffer has at most.
-/
structure ReadsOf
    (stream : List (BitVec 8))
    (chunks : List (List (BitVec 8))) : Prop where
  flatten_eq : chunks.flatten = stream
  length_pos : ∀ chunk ∈ chunks, 0 < chunk.length
  length_le :
    ∀ chunk ∈ chunks, chunk.length ≤ BUFFER_SIZE - 1

/- How the loop ends, with the chunks that are left. -/
inductive LoopEnd where
  | endOfFile
  | terminated (unread : List (List (BitVec 8)))
deriving DecidableEq

/-
  The loop of the log process from a state of its file on.
  The buffer ends in a NUL behind what was read. Behind the
  last chunk, `read` returns zero.
-/
def logLoop
    (logFile : List (BitVec 8)) :
    List (List (BitVec 8)) → List (BitVec 8) × LoopEnd
| [] => (logFile, .endOfFile)
| chunk :: chunks =>
    let buffer := cString chunk
    if buffer = dataFileClosed then
      (logFile ++ loggerTerminating, .terminated chunks)
    else
      logLoop (logFile ++ buffer) chunks

/- Chunks without the text and without a NUL are copied. -/
theorem logLoop_append
    {chunks : List (List (BitVec 8))}
    (hNul : ∀ chunk ∈ chunks, 0 ∉ chunk)
    (hPlain : ∀ chunk ∈ chunks, chunk ≠ dataFileClosed)
    (logFile : List (BitVec 8))
    (rest : List (List (BitVec 8))) :
    logLoop logFile (chunks ++ rest) =
      logLoop (logFile ++ chunks.flatten) rest := by
  induction chunks generalizing logFile with
  | nil =>
      rw [List.nil_append, List.flatten_nil, List.append_nil]
  | cons chunk chunks ih =>
      rw [List.forall_mem_cons] at hNul hPlain
      rw [List.cons_append]
      simp only [logLoop]
      rw [cString_of_nul_not_mem hNul.1, if_neg hPlain.1,
        ih hNul.2 hPlain.2, List.flatten_cons,
        List.append_assoc]

/- If all chunks are such, the loop ends with the file. -/
theorem logLoop_of_plain
    {chunks : List (List (BitVec 8))}
    (hNul : ∀ chunk ∈ chunks, 0 ∉ chunk)
    (hPlain : ∀ chunk ∈ chunks, chunk ≠ dataFileClosed)
    (logFile : List (BitVec 8)) :
    logLoop logFile chunks =
      (logFile ++ chunks.flatten, .endOfFile) := by
  have hLoop := logLoop_append hNul hPlain logFile []
  rw [List.append_nil] at hLoop
  exact hLoop

/- The text ends the loop. -/
theorem logLoop_dataFileClosed
    (logFile : List (BitVec 8))
    (rest : List (List (BitVec 8))) :
    logLoop logFile (dataFileClosed :: rest) =
      (logFile ++ loggerTerminating, .terminated rest) := by
  have hText : cString dataFileClosed = dataFileClosed := by
    decide
  simp only [logLoop]
  rw [hText, if_pos rfl]

------------------------------------------------------------
-- Messages in the Pipe
------------------------------------------------------------

/-
  A message that ends in its only newline, without a NUL and
  without the text that ends the loop.
-/
structure IsPipeMessage
    (msg : List (BitVec 8)) : Prop where
  isLine : IsLine newline msg
  nul_not_mem : 0 ∉ msg
  not_contains : ¬dataFileClosed <:+: msg

theorem dataFileClosed_eq :
    dataFileClosed =
      text "Data file closed" ++ [newline] := by
  decide

/- Where the text occurs in the stream, a message ends. -/
theorem exists_message_of_infix
    {messages : List (List (BitVec 8))}
    {front back : List (BitVec 8)}
    (hLines : ∀ msg ∈ messages, IsLine newline msg)
    (hStream :
      messages.flatten =
        front ++ (dataFileClosed ++ back)) :
    ∃ msg ∈ messages, dataFileClosed <:+ msg := by
  have hBody : newline ∉ text "Data file closed" := by decide
  rw [dataFileClosed_eq, List.append_assoc,
    List.singleton_append] at hStream
  rw [dataFileClosed_eq]
  exact exists_line_of_flatten hLines hBody hStream

/- No part of the stream has the text that ends the loop. -/
theorem chunk_ne_of_messages
    {messages chunks : List (List (BitVec 8))}
    (hMessages : ∀ msg ∈ messages, IsPipeMessage msg)
    (hChunks : chunks.flatten = messages.flatten) :
    ∀ chunk ∈ chunks, chunk ≠ dataFileClosed := by
  intro chunk hMem hEq
  rcases List.append_of_mem hMem with ⟨front, back, hSplit⟩
  have hStream :
      messages.flatten =
        front.flatten ++ (dataFileClosed ++ back.flatten) := by
    rw [← hChunks, hSplit, List.flatten_append,
      List.flatten_cons, hEq]
  rcases exists_message_of_infix
      (fun msg hMem => (hMessages msg hMem).isLine)
      hStream with
    ⟨msg, hMsg, hSuffix⟩
  exact (hMessages msg hMsg).not_contains hSuffix.isInfix

/- There is no NUL in a chunk if there is none in a message. -/
theorem nul_not_mem_of_messages
    {messages chunks : List (List (BitVec 8))}
    (hNul : ∀ msg ∈ messages, 0 ∉ msg)
    (hChunks : chunks.flatten = messages.flatten) :
    ∀ chunk ∈ chunks, 0 ∉ chunk := by
  intro chunk hMem hZero
  have hStream : 0 ∈ messages.flatten := by
    rw [← hChunks]
    exact List.mem_flatten.mpr ⟨chunk, hMem, hZero⟩
  rcases List.mem_flatten.mp hStream with ⟨msg, hMsg, hZero'⟩
  exact hNul msg hMsg hZero'

/- In a line, the text is only at its end. -/
theorem suffix_of_infix_line
    {line : List (BitVec 8)}
    (hLine : IsLine newline line)
    (hInfix : dataFileClosed <:+: line) :
    dataFileClosed <:+ line := by
  rcases hInfix with ⟨front, back, hEq⟩
  have hStream :
      [line].flatten = front ++ (dataFileClosed ++ back) := by
    rw [List.flatten_singleton, ← hEq, List.append_assoc]
  have hLines : ∀ l ∈ [line], IsLine newline l := by
    simpa using hLine
  rcases exists_message_of_infix hLines hStream with
    ⟨l, hMem, hSuffix⟩
  rw [List.mem_singleton] at hMem
  rw [← hMem]
  exact hSuffix

/- What the data manager reports is a `float`. -/
theorem isGatewayMessage_report
    {RUN_AVG_LENGTH : Nat}
    (id : SensorId)
    (hot : Bool)
    (window : Fin RUN_AVG_LENGTH → FloatDatum) :
    IsGatewayMessage
      (.sensorTemperatureReport id hot
        (getRunningAvg window)) where
  averageInRange := by
    apply averageInRange_of_binary32
    intro runningAvg hAvg
    cases hAvg
    exact getRunningAvg_eq_toBinary32 window
  text_mem := by
    intro s hText
    cases hText

/- The lines of the gateway are such messages. -/
theorem isPipeMessage_writtenLine
    {V : Type}
    [FloatValue V]
    {msg : LogMsg V}
    (h : IsGatewayMessage msg)
    {sequenceNumber : Int}
    (hNonneg : 0 ≤ sequenceNumber)
    (hLt : sequenceNumber < 2 ^ 31)
    (d : CtimeDate) :
    IsPipeMessage
      (writtenLine sequenceNumber d (sentString msg)) := by
  rcases h.sentString_ends with
    ⟨hMessage, _, s, hMem, hEnd⟩
  have hHead := noControl_lineHead sequenceNumber d
  have hWhole := hMessage.append_left hHead
  rw [h.writtenLine_eq hNonneg hLt d]
  refine ⟨hWhole.isLine, hWhole.nul_not_mem, ?_⟩
  intro hInfix
  have hSuffix := suffix_of_infix_line hWhole.isLine hInfix
  have hClosed : text "closed\n" <:+ dataFileClosed :=
    ⟨text "Data file ", by decide⟩
  have hOther :
      ∀ s ∈ helperEnds ++ logTexts,
        (text "closed\n").length ≤ (text s).length ∧
          ¬text "closed\n" <:+ text s := by
    decide +kernel
  have hLine :
      text s <:+
        lineHead sequenceNumber d ++ sentString msg :=
    hEnd.trans (List.suffix_append _ _)
  exact (hOther s hMem).2
    (List.suffix_of_suffix_length_le
      (hClosed.trans hSuffix) hLine (hOther s hMem).1)

------------------------------------------------------------
-- The Log
------------------------------------------------------------

/-
  However the reads split the stream, the loop copies all of
  it, and it does not stop before the end of the file. The
  lines that the gateway writes are such messages.
-/
theorem gatewayLog_lossless :
    (∀ messages chunks : List (List (BitVec 8)),
      (∀ msg ∈ messages, IsPipeMessage msg) →
        ReadsOf messages.flatten chunks →
          logLoop [] chunks =
            (messages.flatten, .endOfFile)) ∧
    (∀ (V : Type) [FloatValue V] (msg : LogMsg V),
      IsGatewayMessage msg →
        ∀ (sequenceNumber : Int) (d : CtimeDate),
          0 ≤ sequenceNumber → sequenceNumber < 2 ^ 31 →
            IsPipeMessage
              (writtenLine sequenceNumber d
                (sentString msg))) := by
  constructor
  · intro messages chunks hMessages hReads
    have hNul :=
      nul_not_mem_of_messages
        (fun msg hMem => (hMessages msg hMem).nul_not_mem)
        hReads.flatten_eq
    have hPlain :=
      chunk_ne_of_messages hMessages hReads.flatten_eq
    rw [logLoop_of_plain hNul hPlain, List.nil_append,
      hReads.flatten_eq]
  · intro V _ msg h sequenceNumber d hNonneg hLt
    exact isPipeMessage_writtenLine h hNonneg hLt d

/- The report of a window with an infinite value. -/
def infiniteReport : LogMsg FloatDatum :=
  .sensorTemperatureReport 15 true
    (getRunningAvg (fun _ : Fin 1 => .infinite false))

/- Its line is read by two reads. -/
theorem gatewayLog_lossless_two_reads :
    let line :=
      writtenLine 7 christmasEve (sentString infiniteReport)
    logLoop [] [line.take 30, line.drop 30] =
      (line, .endOfFile) := by
  intro line
  have hMessage : ∀ msg ∈ [line], IsPipeMessage msg := by
    intro msg hMem
    rw [List.mem_singleton.mp hMem]
    exact
      gatewayLog_lossless.2 FloatDatum infiniteReport
        (isGatewayMessage_report 15 true _) 7 christmasEve
        (by decide) (by decide)
  have hReads :
      ReadsOf [line].flatten [line.take 30, line.drop 30] := by
    constructor
    · simp
    · decide +kernel
    · decide +kernel
  have hLoop :=
    gatewayLog_lossless.1 [line] _ hMessage hReads
  rw [List.flatten_singleton] at hLoop
  exact hLoop

end SensorGateway
