import SensorGateway.Gateway.LogPipe
import SensorGateway.Gateway.LogProcess

/-
  The gateway and its log process with the bytes that are in
  the pipe between them: the threads write whole lines, and
  the log process reads chunks that know nothing of lines.

  A thread formats its line from the arguments of `snprintf`.
  One of them counts `sequence_number`, a plain `int`. The
  other one is in the buffer of `ctime`, that all threads
  share. C does not fix the order of the two, and no mutex
  keeps other threads away: a thread that formats in between
  may take the same number, or put the newline of its date
  into the line of the other one. The results are about runs
  in which no call begins while another one is formatting.

  A write waits until its line has room in the pipe, and then
  all of it is appended at once. It fails if the write end is
  closed, and it is fatal if only the read end is.

  Key definitions include:
    * `LogCall`
    * `LogPipe`
    * `logPipeSystem`
    * `LogPipe.FormatsAlone`
    * `LogPipe.Sharing`

  Key theorems include:
    * `logPipeStep_cases`
    * `LogPipe.formatMove_of_step`
-/

------------------------------------------------------------
-- The Two Processes
------------------------------------------------------------

namespace SensorGateway

open Foundations

variable {V : Type}
variable [FloatValue V]

/- How far a thread is in `sequence_number++`. -/
inductive Increment where
  | toLoad
  | toStore (loaded : Nat)
  | done (value : Nat)

/- How far it is in `strtok(ctime(&now), "\n")`. -/
inductive DateText where
  | toWrite
  | toCut
  | done

/- A call from `time` on, up to the end of `snprintf`. -/
structure Formatting
    (V : Type)
    [FloatValue V] where
  msg : GatewayMessage V
  now : CtimeDate
  number : Increment
  date : DateText

/- Where a thread is in `write_to_log_process`, if it is. -/
inductive LogCall
    (V : Type)
    [FloatValue V] where
  | idle
  | formatting (f : Formatting V)
  | formatted (line : List (BitVec 8))

/- How the gateway ended, unless it is still running. -/
inductive GatewayEnd where
  | running
  | exitFailure
  | brokenPipe
deriving DecidableEq

/-
  The variables that the threads share, with the string in
  the buffer of `ctime`; where the threads are; the bytes in
  the pipe, whether its ends are open, and the bytes in
  `gateway.log`.
-/
structure LogPipe
    (V : Type)
    [FloatValue V] where
  sequenceNumber : Nat
  overflowed : Bool
  ctimeBuffer : List (BitVec 8)
  calls : List (LogCall V)
  gateway : GatewayEnd
  writeEndOpen : Bool
  pipe : List (BitVec 8)
  readEndOpen : Bool
  logFile : List (BitVec 8)

/- The parts of a call that touch the shared variables. -/
inductive FormatStep where
  | load
  | store
  | ctime
  | strtok
  | snprintf

namespace LogPipe

/- Behind `create_log_process`. -/
def start
    (V : Type)
    [FloatValue V]
    (threads : Nat) :
    LogPipe V where
  sequenceNumber := 0
  overflowed := false
  ctimeBuffer := []
  calls := List.replicate threads .idle
  gateway := .running
  writeEndOpen := true
  pipe := []
  readEndOpen := true
  logFile := []

/- Thread `i` calls `write_to_log_process`, up to `time`. -/
def call
    (s : LogPipe V)
    (i : Nat)
    (msg : GatewayMessage V)
    (now : CtimeDate) :
    Option (LogPipe V) :=
  match s.calls[i]? with
  | some .idle =>
      some
        { s with
            calls :=
              s.calls.set i
                (.formatting ⟨msg, now, .toLoad, .toWrite⟩) }
  | _ => none

/- `sequence_number++` reads the variable. -/
def load
    (s : LogPipe V)
    (i : Nat)
    (f : Formatting V) :
    Option (LogPipe V) :=
  match f.number with
  | .toLoad =>
      some
        { s with
            calls :=
              s.calls.set i
                (.formatting
                  { f with
                      number := .toStore s.sequenceNumber }) }
  | _ => none

/- It writes the next number, unless there is none. -/
def store
    (s : LogPipe V)
    (i : Nat)
    (f : Formatting V) :
    Option (LogPipe V) :=
  match f.number with
  | .toStore n =>
      if n < intMax then
        some
          { s with
              sequenceNumber := n + 1
              calls :=
                s.calls.set i
                  (.formatting { f with number := .done n }) }
      else
        some { s with overflowed := true }
  | _ => none

/- `ctime` writes its date into its buffer. -/
def writeDate
    (s : LogPipe V)
    (i : Nat)
    (f : Formatting V) :
    Option (LogPipe V) :=
  match f.date with
  | .toWrite =>
      some
        { s with
            ctimeBuffer := f.now.ctime
            calls :=
              s.calls.set i
                (.formatting { f with date := .toCut }) }
  | _ => none

/- `strtok` puts a NUL for the newline in that buffer. -/
def cutDate
    (s : LogPipe V)
    (i : Nat)
    (f : Formatting V) :
    Option (LogPipe V) :=
  match f.date with
  | .toCut =>
      some
        { s with
            ctimeBuffer := strtok newline s.ctimeBuffer
            calls :=
              s.calls.set i
                (.formatting { f with date := .done }) }
  | _ => none

/- `snprintf` copies the date from the buffer. -/
def formatLine
    (s : LogPipe V)
    (i : Nat)
    (f : Formatting V) :
    Option (LogPipe V) :=
  match f.number, f.date with
  | .done n, .done =>
      some
        { s with
            calls :=
              s.calls.set i
                (.formatted
                  (formattedMsg n s.ctimeBuffer
                    (sentString f.msg.val))) }
  | _, _ => none

/- Thread `i` goes on with one of its arguments. -/
def formatStep
    (s : LogPipe V)
    (i : Nat)
    (a : FormatStep) :
    Option (LogPipe V) :=
  match s.calls[i]? with
  | some (.formatting f) =>
      match a with
      | .load => s.load i f
      | .store => s.store i f
      | .ctime => s.writeDate i f
      | .strtok => s.cutDate i f
      | .snprintf => s.formatLine i f
  | _ => none

/- The `write` of thread `i`, which waits for room. -/
def writeLine
    (PIPE_SIZE : Nat)
    (s : LogPipe V)
    (i : Nat) :
    Option (LogPipe V) :=
  match s.calls[i]? with
  | some (.formatted line) =>
      if !s.writeEndOpen then
        some { s with gateway := .exitFailure }
      else if !s.readEndOpen then
        some
          { s with
              gateway := .brokenPipe
              writeEndOpen := false }
      else if s.pipe.length + line.length ≤ PIPE_SIZE then
        some
          { s with
              calls := s.calls.set i .idle
              pipe := s.pipe ++ line }
      else
        none
  | _ => none

/- `end_log_process` closes the write end. -/
def closeWriteEnd
    (s : LogPipe V) :
    Option (LogPipe V) :=
  if s.writeEndOpen then
    some { s with writeEndOpen := false }
  else
    none

/-
  The log process reads the next `n` bytes, and takes its
  loop once. It closes its file and the read end when it has
  read the text that ends the loop.
-/
def readChunk
    (s : LogPipe V)
    (n : Nat) :
    Option (LogPipe V) :=
  if s.readEndOpen ∧ 0 < n ∧ n ≤ BUFFER_SIZE - 1 ∧
      n ≤ s.pipe.length then
    let buffer := cString (s.pipe.take n)
    let s := { s with pipe := s.pipe.drop n }
    if buffer = dataFileClosed then
      some
        { s with
            logFile := s.logFile ++ loggerTerminating
            readEndOpen := false }
    else
      some { s with logFile := s.logFile ++ buffer }
  else
    none

/- A read returns zero, which ends the log process. -/
def endOfFile
    (s : LogPipe V) :
    Option (LogPipe V) :=
  if s.readEndOpen ∧ s.pipe = [] ∧ s.writeEndOpen = false then
    some { s with readEndOpen := false }
  else
    none

end LogPipe

inductive LogPipeLabel
    (V : Type)
    [FloatValue V] where
  | call
      (thread : Nat)
      (msg : GatewayMessage V)
      (now : CtimeDate)
  | format (thread : Nat) (a : FormatStep)
  | write (thread : Nat)
  | close
  | read (n : Nat)
  | endOfFile

/- A gateway that has ended takes no steps. -/
def logPipeStep
    (PIPE_SIZE : Nat)
    (s : LogPipe V)
    (l : LogPipeLabel V) :
    Option (LogPipe V) :=
  if s.overflowed then
    none
  else
    match l with
    | .call i msg now =>
        if s.gateway = .running then s.call i msg now else none
    | .format i a =>
        if s.gateway = .running then s.formatStep i a else none
    | .write i =>
        if s.gateway = .running then
          s.writeLine PIPE_SIZE i
        else
          none
    | .close =>
        if s.gateway = .running then s.closeWriteEnd else none
    | .read n => s.readChunk n
    | .endOfFile => s.endOfFile

/- A step is one of its function, in a defined state. -/
theorem logPipeStep_cases
    {PIPE_SIZE : Nat}
    {s t : LogPipe V}
    {l : LogPipeLabel V}
    (hStep : logPipeStep PIPE_SIZE s l = some t) :
    s.overflowed = false ∧
      match l with
      | .call i msg now =>
          s.gateway = .running ∧ s.call i msg now = some t
      | .format i a =>
          s.gateway = .running ∧ s.formatStep i a = some t
      | .write i =>
          s.gateway = .running ∧
            s.writeLine PIPE_SIZE i = some t
      | .close =>
          s.gateway = .running ∧ s.closeWriteEnd = some t
      | .read n => s.readChunk n = some t
      | .endOfFile => s.endOfFile = some t := by
  unfold logPipeStep at hStep
  split at hStep
  · cases hStep
  · rename_i hDefined
    refine ⟨Bool.not_eq_true _ ▸ hDefined, ?_⟩
    cases l with
    | read n => exact hStep
    | endOfFile => exact hStep
    | _ =>
        simp only at hStep
        split at hStep
        · exact ⟨‹_›, hStep⟩
        · cases hStep

def logPipeSystem
    (V : Type)
    [FloatValue V]
    (PIPE_SIZE threads : Nat) :
    System (LogPipe V) (LogPipeLabel V) where
  init := .start V threads
  step := logPipeStep PIPE_SIZE

/- The message of a call that is formatting, and its time. -/
def LogCall.underWay :
    LogCall V → Option (GatewayMessage V × CtimeDate)
| .formatting f => some (f.msg, f.now)
| _ => none

/- The line of a call that has formatted it. -/
def LogCall.line :
    LogCall V → Option (List (BitVec 8))
| .formatted line => some line
| _ => none

/- The thread is not in the function. -/
def LogCall.isIdle :
    LogCall V → Bool
| .idle => true
| _ => false

theorem LogCall.eq_idle
    {call : LogCall V}
    (hIdle : call.isIdle = true) :
    call = .idle := by
  cases call with
  | idle => rfl
  | formatting f => cases hIdle
  | formatted line => cases hIdle

/- No call begins while another one is formatting. -/
def LogPipe.FormatsAlone
    (s : LogPipe V) :
    LogPipeLabel V → Prop
| .call _ _ _ => ∀ call ∈ s.calls, call.underWay = none
| _ => True

instance
    (s : LogPipe V)
    (l : LogPipeLabel V) :
    Decidable (s.FormatsAlone l) :=
  match l with
  | .call _ _ _ =>
      inferInstanceAs
        (Decidable (∀ call ∈ s.calls, call.underWay = none))
  | .format _ _ => isTrue trivial
  | .write _ => isTrue trivial
  | .close => isTrue trivial
  | .read _ => isTrue trivial
  | .endOfFile => isTrue trivial

------------------------------------------------------------
-- The Shared Variables
------------------------------------------------------------

/- How the number of a call stands, if it is `n`. -/
def Increment.Stands
    (n sequenceNumber : Nat) :
    Increment → Prop
| .toLoad => sequenceNumber = n
| .toStore m => m = n ∧ sequenceNumber = n
| .done m => m = n ∧ n < intMax ∧ sequenceNumber = n + 1

/- How its date stands in the buffer. -/
def DateText.Stands
    (now : CtimeDate)
    (ctimeBuffer : List (BitVec 8)) :
    DateText → Prop
| .toWrite => True
| .toCut => ctimeBuffer = now.ctime
| .done => ctimeBuffer = strtok newline now.ctime

namespace LogPipe

/-
  At most one thread is formatting. The next line has the
  number `n`, and what that thread has done so far is what it
  would have done alone.
-/
inductive Sharing
    (calls : List (LogCall V))
    (sequenceNumber : Nat)
    (ctimeBuffer : List (BitVec 8))
    (n : Nat) : Prop where
  | nobody
      (hNone : ∀ call ∈ calls, call.underWay = none)
      (hNumber : sequenceNumber = n)
  | one
      {i : Nat}
      {f : Formatting V}
      (hCall : calls[i]? = some (.formatting f))
      (hOthers :
        ∀ call ∈ calls.set i .idle, call.underWay = none)
      (hNumber : f.number.Stands n sequenceNumber)
      (hDate : f.date.Stands f.now ctimeBuffer)

namespace Sharing

variable {calls : List (LogCall V)}
variable {sequenceNumber n i : Nat}
variable {ctimeBuffer : List (BitVec 8)}

/- A thread that is formatting is the only one. -/
theorem alone
    (h : Sharing calls sequenceNumber ctimeBuffer n)
    {f : Formatting V}
    (hCall : calls[i]? = some (.formatting f)) :
    (∀ call ∈ calls.set i .idle, call.underWay = none) ∧
      f.number.Stands n sequenceNumber ∧
      f.date.Stands f.now ctimeBuffer := by
  cases h with
  | nobody hNone hNumber =>
      cases hNone _ (List.mem_of_getElem? hCall)
  | @one j g hCall' hOthers hNumber hDate =>
      by_cases hSame : j = i
      · subst hSame
        rw [hCall] at hCall'
        cases hCall'
        exact ⟨hOthers, hNumber, hDate⟩
      · have hGet :
            (calls.set j .idle)[i]? = some (.formatting f) := by
          rw [List.getElem?_set_ne hSame, hCall]
        cases hOthers _ (List.mem_of_getElem? hGet)

/- It goes on with its arguments. -/
theorem set_formatting
    (hOthers :
      ∀ call ∈ calls.set i .idle, call.underWay = none)
    (hLength : i < calls.length)
    {f : Formatting V}
    (hNumber : f.number.Stands n sequenceNumber)
    (hDate : f.date.Stands f.now ctimeBuffer) :
    Sharing (calls.set i (.formatting f)) sequenceNumber
      ctimeBuffer n := by
  refine .one (List.getElem?_set_self hLength) ?_ hNumber hDate
  rw [List.set_set]
  exact hOthers

/- A thread starts to format when nobody does. -/
theorem set_call
    (h : Sharing calls sequenceNumber ctimeBuffer n)
    (hNone : ∀ call ∈ calls, call.underWay = none)
    (hLength : i < calls.length)
    (msg : GatewayMessage V)
    (now : CtimeDate) :
    Sharing
      (calls.set i (.formatting ⟨msg, now, .toLoad, .toWrite⟩))
      sequenceNumber ctimeBuffer n := by
  have hNumber : sequenceNumber = n := by
    cases h with
    | nobody hNone' hNumber => exact hNumber
    | one hCall hOthers hNumber hDate =>
        cases hNone _ (List.mem_of_getElem? hCall)
  refine set_formatting ?_ hLength hNumber trivial
  intro call hMem
  rcases List.mem_or_eq_of_mem_set hMem with hMem | rfl
  · exact hNone call hMem
  · rfl

/- If it stops formatting, nobody is left. -/
theorem set_formatted
    (hOthers :
      ∀ call ∈ calls.set i .idle, call.underWay = none)
    {call : LogCall V}
    (hCall : call.underWay = none)
    (n : Nat) :
    Sharing (calls.set i call) n ctimeBuffer n := by
  refine .nobody ?_ rfl
  rw [← List.set_set .idle]
  intro call' hMem
  rcases List.mem_or_eq_of_mem_set hMem with hMem | rfl
  · exact hOthers call' hMem
  · exact hCall

/- A call that is not formatting may return. -/
theorem set_idle
    (h : Sharing calls sequenceNumber ctimeBuffer n)
    {call : LogCall V}
    (hGet : calls[i]? = some call)
    (hCall : call.underWay = none) :
    Sharing (calls.set i .idle) sequenceNumber ctimeBuffer
      n := by
  cases h with
  | nobody hNone hNumber =>
      refine .nobody ?_ hNumber
      intro call' hMem
      rcases List.mem_or_eq_of_mem_set hMem with hMem | rfl
      · exact hNone call' hMem
      · rfl
  | @one j f hCall' hOthers hNumber hDate =>
      have hNe : i ≠ j := by
        rintro rfl
        rw [hGet] at hCall'
        cases hCall'
        cases hCall
      refine .one (i := j) ?_ ?_ hNumber hDate
      · rw [List.getElem?_set_ne hNe, hCall']
      · rw [List.set_comm _ _ hNe]
        intro call' hMem
        rcases List.mem_or_eq_of_mem_set hMem with hMem | rfl
        · exact hOthers call' hMem
        · rfl

end Sharing

/-
  The cases of a step of a thread that is formatting alone:
  one of its arguments goes on, its number has no successor,
  or it has its line, with the number `n` and its own date.
-/
inductive FormatMove
    (s t : LogPipe V)
    (n i : Nat)
    (f : Formatting V) : Prop where
  | argument
      {number : Nat}
      {buffer : List (BitVec 8)}
      {g : Formatting V}
      (hEq :
        t =
          { s with
              sequenceNumber := number
              ctimeBuffer := buffer
              calls := s.calls.set i (.formatting g) })
      (hMsg : g.msg = f.msg)
      (hNow : g.now = f.now)
      (hSharing :
        Sharing (s.calls.set i (.formatting g)) number buffer
          n)
  | overflow
      (hFull : ¬n < intMax)
      (hEq : t = { s with overflowed := true })
  | line
      {bytes : List (BitVec 8)}
      (hLt : n < intMax)
      (hBytes :
        bytes = writtenLine n f.now (sentString f.msg.val))
      (hEq :
        t =
          { s with calls := s.calls.set i (.formatted bytes) })
      (hSharing :
        Sharing (s.calls.set i (.formatted bytes))
          s.sequenceNumber s.ctimeBuffer (n + 1))

theorem formatMove_of_step
    {s t : LogPipe V}
    {n i : Nat}
    {a : FormatStep}
    (h : Sharing s.calls s.sequenceNumber s.ctimeBuffer n)
    (hStep : s.formatStep i a = some t) :
    ∃ f, s.calls[i]? = some (.formatting f) ∧
      FormatMove s t n i f := by
  unfold formatStep at hStep
  split at hStep
  · rename_i f hCall
    refine ⟨f, hCall, ?_⟩
    have hLength := (List.getElem?_eq_some_iff.mp hCall).1
    rcases h.alone hCall with ⟨hOthers, hNumber, hDate⟩
    cases a with
    | load =>
        simp only [load] at hStep
        split at hStep
        · rename_i hLoad
          cases hStep
          rw [hLoad] at hNumber
          refine .argument rfl rfl rfl
            (Sharing.set_formatting hOthers hLength ?_ hDate)
          exact ⟨hNumber, hNumber⟩
        · cases hStep
    | store =>
        simp only [store] at hStep
        split at hStep
        · rename_i m hStore
          rw [hStore] at hNumber
          rcases hNumber with ⟨rfl, hNumber⟩
          split at hStep
          · rename_i hLt
            cases hStep
            refine .argument rfl rfl rfl
              (Sharing.set_formatting hOthers hLength ?_ hDate)
            exact ⟨rfl, hLt, rfl⟩
          · rename_i hFull
            cases hStep
            exact .overflow hFull rfl
        · cases hStep
    | ctime =>
        simp only [writeDate] at hStep
        split at hStep
        · cases hStep
          refine .argument rfl rfl rfl
            (Sharing.set_formatting hOthers hLength hNumber ?_)
          exact rfl
        · cases hStep
    | strtok =>
        simp only [cutDate] at hStep
        split at hStep
        · rename_i hCut
          cases hStep
          rw [hCut] at hDate
          refine .argument rfl rfl rfl
            (Sharing.set_formatting hOthers hLength hNumber ?_)
          exact congrArg (strtok newline) hDate
        · cases hStep
    | snprintf =>
        simp only [formatLine] at hStep
        split at hStep
        · rename_i m hDone hDone'
          cases hStep
          rw [hDone] at hNumber
          rw [hDone'] at hDate
          rcases hNumber with ⟨rfl, hLt, hNumber⟩
          refine .line hLt ?_ rfl ?_
          · rw [show s.ctimeBuffer = strtok newline f.now.ctime
              from hDate]
            rfl
          · rw [hNumber]
            exact Sharing.set_formatted hOthers rfl _
        · cases hStep
  · cases hStep

end LogPipe

end SensorGateway
