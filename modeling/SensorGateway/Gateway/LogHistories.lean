import SensorGateway.Gateway.LogRefinement

/-
  The whole histories of the two processes: what is in
  `gateway.log` in the end, told by the calls that were made,
  and that no call waits for its end forever.

  Key definitions include:
    * `calledLines`
    * `LogPipe.Accounts`
    * `LogPipe.workLeft`

  Key theorems include:
    * `LogPipe.Accounts.of_step`
    * `logPipeSystem_logFile`
    * `logPipeSystem_settles`
-/

------------------------------------------------------------
-- Calls
------------------------------------------------------------

namespace SensorGateway

open Foundations

variable {V : Type}
variable [FloatValue V]

/- The message and the time of a call. -/
def LogPipeLabel.call? :
    LogPipeLabel V → Option (GatewayMessage V × CtimeDate)
| .call _ msg now => some (msg, now)
| _ => none

/- The calls of a run, in the order of their numbers. -/
def callsOf
    (labels : List (LogPipeLabel V)) :
    List (GatewayMessage V × CtimeDate) :=
  labels.filterMap LogPipeLabel.call?

/- The line of the call with the number `n`. -/
def calledLine
    (n : Nat)
    (call : GatewayMessage V × CtimeDate) :
    List (BitVec 8) :=
  writtenLine n call.2 (sentString call.1.val)

def calledLines
    (calls : List (GatewayMessage V × CtimeDate)) :
    List (List (BitVec 8)) :=
  calls.mapIdx calledLine

section

variable {calls : List (GatewayMessage V × CtimeDate)}

theorem isTextOf_calledLine
    (hLe : calls.length ≤ intMax)
    {n : Nat}
    (hLt : n < calls.length) :
    IsTextOf (n, calls[n].1.val)
      (calledLine n calls[n]) where
  number_lt := Nat.lt_of_lt_of_le hLt hLe
  fromGateway := calls[n].1.property
  written := ⟨calls[n].2, rfl⟩

theorem isPipeMessage_calledLines
    (hLe : calls.length ≤ intMax) :
    ∀ line ∈ calledLines calls, IsPipeMessage line := by
  intro line hMem
  rcases List.mem_mapIdx.mp hMem with ⟨n, hLt, rfl⟩
  exact (isTextOf_calledLine hLe hLt).isPipeMessage

/- The lines of calls are numbered from zero on. -/
theorem map_lineNumber_calledLines
    (hLe : calls.length ≤ intMax) :
    (calledLines calls).map lineNumber =
      (List.range calls.length).map (fun n : Nat => (n : Int)) := by
  apply List.ext_getElem
  · simp [calledLines]
  · intro n hLeft hRight
    rw [List.length_map, List.length_range] at hRight
    have hNumber :=
      (isTextOf_calledLine hLe hRight).lineNumber_eq
    simpa [calledLines] using hNumber

end

------------------------------------------------------------
-- Accounts
------------------------------------------------------------

namespace LogPipe

/- The calls that are formatting, and the lines of others. -/
def underWay
    (s : LogPipe V) :
    List (GatewayMessage V × CtimeDate) :=
  s.calls.filterMap LogCall.underWay

def lines
    (s : LogPipe V) :
    List (List (BitVec 8)) :=
  s.calls.filterMap LogCall.line

/-
  The last call may be formatting. Of the calls before, the
  texts are the lines that were written, one after the other,
  and those of the threads are the other ones.
-/
structure Accounts
    (s : LogPipe V)
    (calls : List (GatewayMessage V × CtimeDate))
    (texts : List (List (BitVec 8))) : Prop where
  sharing :
    Sharing s.calls s.sequenceNumber s.ctimeBuffer
      calls.length
  length_le : calls.length ≤ intMax
  stream : s.logFile ++ s.pipe = texts.flatten
  perm : (texts ++ s.lines).Perm (calledLines calls)

theorem Accounts.start
    (threads : Nat) :
    (LogPipe.start V threads).Accounts [] [] where
  sharing :=
    (Represents.start (V := V) threads).sharing
  length_le := Nat.zero_le _
  stream := rfl
  perm := by
    have hNone : (LogPipe.start V threads).lines = [] := by
      apply List.filterMap_eq_nil_iff.mpr
      intro call hMem
      rw [(List.mem_replicate.mp hMem).2]
      rfl
    rw [hNone]
    exact .nil

variable {s t : LogPipe V}
variable {calls : List (GatewayMessage V × CtimeDate)}
variable {texts : List (List (BitVec 8))}

/- A call without a line goes on without one. -/
theorem lines_set_formatting
    {i : Nat}
    {call : LogCall V}
    (hCall : s.calls[i]? = some call)
    (hNone : call.line = none)
    (f : Formatting V) :
    (s.calls.set i (.formatting f)).filterMap LogCall.line =
      s.lines := by
  have hSame : LogCall.line (.formatting f) = call.line := by
    rw [hNone]
    rfl
  exact filterMap_set_of_eq hCall hSame

/- A call that is formatting is the only one under way. -/
theorem Accounts.underWay_eq
    (h : s.Accounts calls texts)
    {i : Nat}
    {f : Formatting V}
    (hCall : s.calls[i]? = some (.formatting f)) :
    s.underWay = [(f.msg, f.now)] := by
  have hPerm :=
    filterMap_set_perm (b := .idle) LogCall.underWay hCall
  rw [List.filterMap_eq_nil_iff.mpr
    (h.sharing.alone hCall).1] at hPerm
  simpa [LogCall.underWay, underWay, eq_comm] using hPerm

/- A call begins. -/
theorem Accounts.call
    {i : Nat}
    {msg : GatewayMessage V}
    {now : CtimeDate}
    (h : s.Accounts calls texts)
    (hAlone : s.FormatsAlone (.call i msg now))
    (hStep : s.call i msg now = some t) :
    t.Accounts calls texts ∧ s.underWay = [] ∧
      t.underWay = [(msg, now)] := by
  unfold LogPipe.call at hStep
  split at hStep
  · rename_i hCall
    cases hStep
    have hLength := (List.getElem?_eq_some_iff.mp hCall).1
    have hNext :
        LogPipe.Accounts
          { s with
              calls :=
                s.calls.set i
                  (.formatting ⟨msg, now, .toLoad, .toWrite⟩) }
          calls texts :=
      { h with
        sharing := h.sharing.set_call hAlone hLength msg now
        perm := by
          unfold lines
          rw [lines_set_formatting hCall rfl]
          exact h.perm }
    exact
      ⟨hNext, List.filterMap_eq_nil_iff.mpr hAlone,
        hNext.underWay_eq (List.getElem?_set_self hLength)⟩
  · cases hStep

/- A thread formats the line of the call that is under way. -/
theorem Accounts.format
    {i : Nat}
    {a : FormatStep}
    (h : s.Accounts calls texts)
    (hStep : s.formatStep i a = some t)
    (hDefined : t.overflowed = false) :
    ∃ calls', t.Accounts calls' texts ∧
      calls ++ s.underWay = calls' ++ t.underWay := by
  rcases formatMove_of_step h.sharing hStep with
    ⟨f, hCall, hMove⟩
  cases hMove with
  | @argument number buffer g hEq hMsg hNow hSharing =>
      subst hEq
      have hSame :
          LogCall.underWay (.formatting g) =
            LogCall.underWay (.formatting f) := by
        simp only [LogCall.underWay, hMsg, hNow]
      refine
        ⟨calls,
          { h with
            sharing := hSharing
            perm := ?_ }, ?_⟩
      · unfold lines
        rw [lines_set_formatting hCall rfl]
        exact h.perm
      · unfold underWay
        rw [filterMap_set_of_eq hCall hSame]
  | overflow hFull hEq =>
      subst hEq
      cases hDefined
  | @line bytes hLt hBytes hEq hSharing =>
      subst hEq
      have hLines :
          ((s.calls.set i (.formatted bytes)).filterMap
            LogCall.line).Perm (s.lines ++ [bytes]) := by
        have hSet :=
          filterMap_set_perm (b := .formatted bytes)
            LogCall.line hCall
        simpa [LogCall.line, lines] using hSet
      have hNobody :
          (s.calls.set i (.formatted bytes)).filterMap
            LogCall.underWay = [] := by
        have hSet :=
          filterMap_set_perm (b := .formatted bytes)
            LogCall.underWay hCall
        have hOne := h.underWay_eq hCall
        unfold underWay at hOne
        rw [hOne] at hSet
        simpa [LogCall.underWay] using hSet.length_eq
      have hLine :
          calledLines (calls ++ [(f.msg, f.now)]) =
            calledLines calls ++ [bytes] := by
        rw [hBytes]
        exact List.mapIdx_concat
      refine
        ⟨calls ++ [(f.msg, f.now)],
          { h with
            sharing := ?_
            length_le := ?_
            perm := ?_ }, ?_⟩
      · rw [List.length_append]
        exact hSharing
      · rw [List.length_append]
        exact hLt
      · rw [hLine]
        refine (hLines.append_left texts).trans ?_
        rw [← List.append_assoc]
        exact h.perm.append_right _
      · unfold underWay
        rw [hNobody, List.append_nil]
        exact congrArg _ (h.underWay_eq hCall)

/- The line of one thread is taken from those of all. -/
theorem lines_set_idle
    {i : Nat}
    {bytes : List (BitVec 8)}
    (hBytes : s.calls[i]? = some (.formatted bytes)) :
    ((s.calls.set i .idle).filterMap LogCall.line ++
        [bytes]).Perm s.lines := by
  have hSet :=
    filterMap_set_perm (b := .idle) LogCall.line hBytes
  simp only [LogCall.line, Option.toList_none,
    Option.toList_some, List.append_nil] at hSet
  exact hSet

/- What a thread writes is no longer its own. -/
theorem Accounts.write
    {PIPE_SIZE i : Nat}
    (h : s.Accounts calls texts)
    (hStep : s.writeLine PIPE_SIZE i = some t) :
    s.underWay = t.underWay ∧
      ∃ texts', t.Accounts calls texts' := by
  rcases writeLine_cases hStep with
    ⟨bytes, hBytes, ⟨_, rfl⟩ | ⟨_, _, rfl⟩ |
      ⟨_, _, _, rfl⟩⟩
  · exact ⟨rfl, texts, { h with }⟩
  · exact ⟨rfl, texts, { h with }⟩
  · constructor
    · exact
        (filterMap_set_of_eq (f := LogCall.underWay)
          (b := .idle) hBytes rfl).symm
    · refine
        ⟨texts ++ [bytes],
          { h with
            sharing := h.sharing.set_idle hBytes rfl
            stream := ?_
            perm := ?_ }⟩
      · rw [← List.append_assoc, h.stream,
          List.flatten_append, List.flatten_singleton]
      · have hSet := lines_set_idle hBytes
        rw [List.append_assoc]
        exact
          ((List.perm_append_comm.trans hSet).append_left
            texts).trans h.perm

/- A step of the two processes keeps account of the calls. -/
theorem Accounts.of_step
    {PIPE_SIZE : Nat}
    {l : LogPipeLabel V}
    {u : LogProcess V}
    (h : s.Accounts calls texts)
    (hRep : s.Represents u)
    (hAlone : s.FormatsAlone l)
    (hStep : logPipeStep PIPE_SIZE s l = some t)
    (hDefined : t.overflowed = false) :
    ∃ calls' texts', t.Accounts calls' texts' ∧
      calls ++ s.underWay ++ l.call?.toList =
        calls' ++ t.underWay := by
  rcases logPipeStep_cases hStep with ⟨_, hCase⟩
  cases l with
  | call i msg now =>
      rcases h.call hAlone hCase.2 with ⟨hNext, hNone, hOne⟩
      refine ⟨calls, texts, hNext, ?_⟩
      rw [hNone, hOne, List.append_nil]
      rfl
  | format i a =>
      rcases h.format hCase.2 hDefined with
        ⟨calls', hNext, hCalls⟩
      exact
        ⟨calls', texts, hNext,
          (List.append_nil _).trans hCalls⟩
  | write i =>
      rcases h.write hCase.2 with ⟨hSame, texts', hNext⟩
      refine ⟨calls, texts', hNext, ?_⟩
      rw [hSame]
      exact List.append_nil _
  | close =>
      simp only [closeWriteEnd] at hCase
      split at hCase
      · cases hCase.2
        exact ⟨calls, texts, { h with }, List.append_nil _⟩
      · cases hCase.2
  | read n =>
      rcases hRep.readChunk_eq hCase with ⟨_, _, _, rfl⟩
      refine
        ⟨calls, texts, { h with stream := ?_ },
          List.append_nil _⟩
      rw [List.append_assoc, List.take_append_drop]
      exact h.stream
  | endOfFile =>
      simp only [endOfFile] at hCase
      split at hCase
      · cases hCase
        exact ⟨calls, texts, { h with }, List.append_nil _⟩
      · cases hCase

end LogPipe

/- Each state of a run stands for one of the model. -/
theorem exists_represents
    {PIPE_SIZE threads : Nat}
    {labels : List (LogPipeLabel V)}
    {s : LogPipe V}
    (hAlone :
      (logPipeSystem V PIPE_SIZE threads).Guarded
        LogPipe.FormatsAlone labels)
    (hRun :
      (logPipeSystem V PIPE_SIZE threads).run labels =
        some s) :
    ∃ u : LogProcess V, s.Represents u := by
  rcases (logPipeSystem_simulates PIPE_SIZE threads).run
      hAlone hRun with
    ⟨_, u, _, hRep, _⟩
  exact ⟨u, hRep⟩

/- Over a run, all calls are accounted for. -/
theorem logPipeSystem_accounts
    {PIPE_SIZE threads : Nat}
    {labels : List (LogPipeLabel V)}
    {s : LogPipe V}
    (hAlone :
      (logPipeSystem V PIPE_SIZE threads).Guarded
        LogPipe.FormatsAlone labels)
    (hRun :
      (logPipeSystem V PIPE_SIZE threads).run labels =
        some s)
    (hDefined : s.overflowed = false) :
    ∃ calls texts, s.Accounts calls texts ∧
      callsOf labels = calls ++ s.underWay := by
  refine (logPipeSystem V PIPE_SIZE threads).run_induction
    (fun labels s =>
      (logPipeSystem V PIPE_SIZE threads).Guarded
          LogPipe.FormatsAlone labels →
        s.overflowed = false →
          ∃ calls texts, s.Accounts calls texts ∧
            callsOf labels = calls ++ s.underWay)
    ?_ ?_ hRun hAlone hDefined
  · intro _ _
    refine ⟨[], [], .start threads, ?_⟩
    apply Eq.symm
    apply List.filterMap_eq_nil_iff.mpr
    intro call hMem
    rw [(List.mem_replicate.mp hMem).2]
    rfl
  · intro labels s l t hBefore ih hStep hAlone hDefined
    rw [System.guarded_snoc _ _ hBefore] at hAlone
    have hStep' : logPipeStep PIPE_SIZE s l = some t := hStep
    rcases ih hAlone.1 (logPipeStep_cases hStep').1 with
      ⟨calls, texts, hAccounts, hCalls⟩
    rcases exists_represents hAlone.1 hBefore with ⟨u, hRep⟩
    rcases hAccounts.of_step hRep hAlone.2 hStep'
        hDefined with
      ⟨calls', texts', hNext, hCalls'⟩
    refine ⟨calls', texts', hNext, ?_⟩
    rw [← hCalls', ← hCalls]
    unfold callsOf
    rw [List.filterMap_append]
    cases hCall : l.call? with
    | none => simp [hCall]
    | some call => simp [hCall]

------------------------------------------------------------
-- The File
------------------------------------------------------------

/- When the pipe is empty, all lines are in the file. -/
theorem Streamed.ended
    {logged queued : List (LogLine V)}
    {logFile : List (BitVec 8)}
    (h : Streamed logged queued logFile []) :
    queued = [] ∧
      ∃ texts, List.Forall₂ IsTextOf logged texts ∧
        logFile = texts.flatten := by
  rcases h with
    ⟨loggedTexts, queuedTexts, part, hLogged, hQueued, hFile,
      hPipe, hPart⟩
  rw [List.append_nil] at hPipe
  cases hQueued with
  | nil =>
      refine ⟨rfl, loggedTexts, hLogged, ?_⟩
      rw [hFile, ← hPipe, List.flatten_nil, List.append_nil]
  | @cons line text lines texts hText hRest =>
      have hLess := hPart text rfl
      rw [← hPipe, List.flatten_cons, List.length_append]
        at hLess
      omega

theorem map_lineNumber_of_isTextOf
    {lines : List (LogLine V)}
    {texts : List (List (BitVec 8))}
    (h : List.Forall₂ IsTextOf lines texts) :
    texts.map lineNumber =
      (sequenceNumbers lines).map (fun n : Nat => (n : Int)) := by
  induction h with
  | nil => rfl
  | cons hText _ ih =>
      rw [List.map_cons, hText.lineNumber_eq, ih]
      rfl

/- The numbers of a permutation tell whether it is one. -/
theorem eq_of_perm_of_map_eq
    {α β : Type}
    {f : α → β}
    {as bs : List α}
    (hPerm : as.Perm bs)
    (hMap : as.map f = bs.map f)
    (hNodup : (bs.map f).Nodup) :
    as = bs := by
  apply List.ext_getElem hPerm.length_eq
  intro n hLeft hRight
  have hSame : f as[n] = f bs[n] := by
    have hGet := congrArg (fun l => l[n]?) hMap
    simpa [hLeft, hRight] using hGet
  exact
    List.inj_on_of_nodup_map hNodup
      (hPerm.mem_iff.mp (List.getElem_mem hLeft))
      (List.getElem_mem hRight) hSame

/-
  The texts of all calls have their numbers in order exactly
  if they are the lines of the calls, one after the other.
-/
theorem inOrder_iff_eq_calledLines
    {calls : List (GatewayMessage V × CtimeDate)}
    {lines : List (LogLine V)}
    {texts : List (List (BitVec 8))}
    (hLe : calls.length ≤ intMax)
    (hTexts : List.Forall₂ IsTextOf lines texts)
    (hPerm : texts.Perm (calledLines calls)) :
    Tickets.InOrder (sequenceNumbers lines) ↔
      texts = calledLines calls := by
  have hCast :
      Function.Injective (fun n : Nat => (n : Int)) :=
    fun _ _ => Int.ofNat.inj
  have hCount :
      (sequenceNumbers lines).length = calls.length := by
    unfold sequenceNumbers
    rw [List.length_map, hTexts.length_eq, hPerm.length_eq]
    exact List.length_mapIdx
  have hNumbers :
      Tickets.InOrder (sequenceNumbers lines) ↔
        texts.map lineNumber =
          (calledLines calls).map lineNumber := by
    rw [map_lineNumber_of_isTextOf hTexts,
      map_lineNumber_calledLines hLe,
      (List.map_injective_iff.mpr hCast).eq_iff, ← hCount]
    rfl
  rw [hNumbers]
  constructor
  · intro hMap
    apply eq_of_perm_of_map_eq hPerm hMap
    rw [map_lineNumber_calledLines hLe]
    exact List.nodup_range.map hCast
  · exact congrArg (List.map lineNumber)

/-
  When the log process has ended and no call is going on, the
  file consists of the lines of all calls, each one once and
  as it was formatted. They are in the order of their numbers
  exactly if no write has overtaken another thread.
-/
theorem logPipeSystem_logFile
    {PIPE_SIZE threads : Nat}
    {labels : List (LogPipeLabel V)}
    {s : LogPipe V}
    (hAlone :
      (logPipeSystem V PIPE_SIZE threads).Guarded
        LogPipe.FormatsAlone labels)
    (hRun :
      (logPipeSystem V PIPE_SIZE threads).run labels =
        some s)
    (hDefined : s.overflowed = false)
    (hEnded : s.readEndOpen = false)
    (hReturned : ∀ call ∈ s.calls, call = .idle) :
    ∃ lines : List (List (BitVec 8)),
      lines.Perm (calledLines (callsOf labels)) ∧
        s.logFile = lines.flatten ∧
        (s.logFile = (calledLines (callsOf labels)).flatten ↔
          (logPipeSystem V PIPE_SIZE threads).Guarded
            LogPipe.NotOvertaking labels) := by
  rcases logPipeSystem_accounts hAlone hRun hDefined with
    ⟨calls, texts, hAccounts, hCalls⟩
  rcases (logPipeSystem_simulates PIPE_SIZE threads).run
      hAlone hRun with
    ⟨_, u, hModel, hRep, hGuard⟩
  have hPipe : s.pipe = [] := (hRep.end_of_file hEnded).2
  have hStream := hAccounts.stream
  have hStreamed := hRep.streamed
  rw [hPipe] at hStreamed
  rw [hPipe, List.append_nil] at hStream
  rcases hStreamed.ended with
    ⟨hQueued, logged, hLogged, hFile⟩
  -- every call has its line in the file
  have hNone : s.lines = [] ∧ s.underWay = [] := by
    constructor <;>
    · apply List.filterMap_eq_nil_iff.mpr
      intro call hMem
      rw [hReturned call hMem]
      rfl
  rw [hNone.2, List.append_nil] at hCalls
  have hPerm := hAccounts.perm
  rw [hNone.1, List.append_nil, ← hCalls] at hPerm
  have hLe := hAccounts.length_le
  rw [← hCalls] at hLe
  have hCalled : ∀ line ∈ calledLines (callsOf labels),
      IsLine newline line :=
    fun line hMem =>
      (isPipeMessage_calledLines hLe line hMem).isLine
  have hLines : ∀ line ∈ texts, IsLine newline line :=
    fun line hMem => hCalled line (hPerm.mem_iff.mp hMem)
  have hLogged' : ∀ line ∈ logged, IsLine newline line := by
    intro line hMem
    rcases forall₂_mem_right hLogged hMem with
      ⟨_, _, hText⟩
    exact hText.isPipeMessage.isLine
  have hSame : logged = texts :=
    flatten_lines_inj hLogged' hLines
      (hFile.symm.trans hStream)
  have hWritten : u.written = u.gatewayLog := by
    unfold LogProcess.written
    rw [hQueued, List.append_nil]
  have hOrder :
      u.WrittenInOrder ↔
        texts = calledLines (callsOf labels) := by
    unfold LogProcess.WrittenInOrder
    rw [hWritten, ← hSame]
    exact
      inOrder_iff_eq_calledLines hLe hLogged (hSame ▸ hPerm)
  refine ⟨texts, hPerm, hStream, ?_⟩
  rw [← hGuard, ← logSystem_writtenInOrder_iff hModel, hOrder,
    hStream]
  constructor
  · exact flatten_lines_inj hLines hCalled
  · exact congrArg List.flatten

------------------------------------------------------------
-- Waiting for Room
------------------------------------------------------------

/- The writes of lines, and the reads of the log process. -/
def LogPipeLabel.WritesOrReads :
    LogPipeLabel V → Prop
| .write _ => True
| .read _ => True
| _ => False

namespace LogPipe

/- All lines are written, and all bytes are copied. -/
def Settled
    (s : LogPipe V) : Prop :=
  s.pipe = [] ∧ s.lines = []

/- Each byte that is not yet written is written, and read. -/
def workLeft
    (s : LogPipe V) :
    Nat :=
  2 * s.lines.flatten.length + s.pipe.length

/- The gateway runs, and its pipe is open. -/
structure InUse
    (s : LogPipe V) : Prop where
  represents : ∃ u : LogProcess V, s.Represents u
  defined : s.overflowed = false
  running : s.gateway = .running
  writeEndOpen : s.writeEndOpen = true

variable {s t : LogPipe V}

theorem InUse.readEndOpen
    (h : s.InUse) :
    s.readEndOpen = true := by
  rcases h.represents with ⟨u, hRep⟩
  cases hRead : s.readEndOpen with
  | true => rfl
  | false =>
      have hClosed := (hRep.end_of_file hRead).1
      rw [h.writeEndOpen] at hClosed
      cases hClosed

/- A line that waits has room in an empty pipe. -/
theorem InUse.length_pos_lt
    (h : s.InUse)
    {bytes : List (BitVec 8)}
    (hMem : .formatted bytes ∈ s.calls) :
    0 < bytes.length ∧ bytes.length < BUFFER_SIZE := by
  rcases h.represents with ⟨u, hRep⟩
  rcases forall₂_mem_right hRep.calls hMem with
    ⟨_, _, hRel⟩
  cases hRel with
  | formatted hText =>
      exact
        ⟨List.length_pos_of_ne_nil
            hText.isPipeMessage.isLine.ne_nil,
          hText.length_lt⟩

/- Writes and reads keep the pipe in use, and do some work. -/
theorem InUse.of_step
    {PIPE_SIZE : Nat}
    {l : LogPipeLabel V}
    (h : s.InUse)
    (hKind : l.WritesOrReads)
    (hStep : logPipeStep PIPE_SIZE s l = some t) :
    t.InUse ∧ t.workLeft < s.workLeft := by
  rcases h.represents with ⟨u, hRep⟩
  have hRepresents : ∃ u : LogProcess V, t.Represents u := by
    have hAlone : s.FormatsAlone l := by
      cases l with
      | call i msg now => cases hKind
      | _ => trivial
    rcases @Represents.of_step V _ s t u PIPE_SIZE 0 l hRep
        hAlone hStep with
      ⟨_, v, _, hRep', _⟩
    exact ⟨v, hRep'⟩
  have hCase := (logPipeStep_cases hStep).2
  cases l with
  | write i =>
      rcases writeLine_cases hCase.2 with
        ⟨bytes, hBytes, ⟨hClosed, _⟩ | ⟨_, hEnd, _⟩ |
          ⟨_, _, _, rfl⟩⟩
      · rw [h.writeEndOpen] at hClosed
        cases hClosed
      · rw [h.readEndOpen] at hEnd
        cases hEnd
      · refine
          ⟨⟨hRepresents, h.defined, h.running,
            h.writeEndOpen⟩, ?_⟩
        have hLength :=
          (h.length_pos_lt (List.mem_of_getElem? hBytes)).1
        have hSet := (lines_set_idle hBytes).flatten.length_eq
        rw [List.flatten_append, List.flatten_singleton,
          List.length_append] at hSet
        unfold workLeft
        rw [List.length_append]
        unfold lines at hSet ⊢
        simp only
        omega
  | read n =>
      rcases hRep.readChunk_eq hCase with
        ⟨_, hPos, hLe, rfl⟩
      refine
        ⟨⟨hRepresents, h.defined, h.running,
          h.writeEndOpen⟩, ?_⟩
      unfold workLeft lines
      rw [List.length_drop]
      simp only
      omega
  | call i msg now => cases hKind
  | format i a => cases hKind
  | close => cases hKind
  | endOfFile => cases hKind

/- If bytes are left, the log process reads one at least. -/
theorem InUse.enabled
    {PIPE_SIZE : Nat}
    (hRoom : BUFFER_SIZE ≤ PIPE_SIZE)
    (h : s.InUse)
    (hMore : ¬s.Settled) :
    ∃ (l : LogPipeLabel V) (t : LogPipe V),
      l.WritesOrReads ∧ logPipeStep PIPE_SIZE s l = some t := by
  by_cases hPipe : s.pipe = []
  · have hLine : ∃ bytes, .formatted bytes ∈ s.calls := by
      by_contra hNone
      apply hMore
      refine ⟨hPipe, List.filterMap_eq_nil_iff.mpr ?_⟩
      intro call hMem
      cases call with
      | idle => rfl
      | formatting f => rfl
      | formatted bytes => exact absurd ⟨bytes, hMem⟩ hNone
    rcases hLine with ⟨bytes, hMem⟩
    rcases List.mem_iff_getElem?.mp hMem with ⟨i, hGet⟩
    have hFits : bytes.length ≤ PIPE_SIZE := by
      have hLength := (h.length_pos_lt hMem).2
      omega
    have hSome : ∃ t, s.writeLine PIPE_SIZE i = some t := by
      unfold writeLine
      simp only [hGet, h.writeEndOpen, h.readEndOpen, hPipe,
        List.length_nil, Nat.zero_add, if_pos hFits,
        Bool.not_true, Bool.false_eq_true, if_false]
      exact ⟨_, rfl⟩
    rcases hSome with ⟨t, hStep⟩
    refine ⟨.write i, t, trivial, ?_⟩
    simp only [logPipeStep, h.defined, h.running,
      Bool.false_eq_true, if_false, if_true, hStep]
  · have hLength := List.length_pos_of_ne_nil hPipe
    have hRead :
        s.readEndOpen = true ∧ 0 < 1 ∧ 1 ≤ BUFFER_SIZE - 1 ∧
          1 ≤ s.pipe.length :=
      ⟨h.readEndOpen, by decide, by decide, hLength⟩
    have hSome : ∃ t, s.readChunk 1 = some t := by
      unfold readChunk
      rw [if_pos hRead]
      simp only
      split
      · exact ⟨_, rfl⟩
      · exact ⟨_, rfl⟩
    rcases hSome with ⟨t, hStep⟩
    refine ⟨.read 1, t, trivial, ?_⟩
    simp only [logPipeStep, h.defined, Bool.false_eq_true,
      if_false, hStep]

end LogPipe

/- Of sensor 15, an insertion and a report. -/
def insertion : GatewayMessage FloatDatum :=
  ⟨.dataInsert 15, by
    constructor
    · intro runningAvg hAvg
      cases hAvg
    · intro s hText
      cases hText⟩

def hotReport : GatewayMessage FloatDatum :=
  ⟨infiniteReport, isGatewayMessage_report 15 true _⟩

/- Two threads call, and the second one writes first. -/
def twoCalls : List (LogPipeLabel FloatDatum) :=
  [.call 0 insertion christmasEve, .format 0 .load,
    .format 0 .store, .format 0 .ctime, .format 0 .strtok,
    .format 0 .snprintf, .call 1 hotReport christmasEve,
    .format 1 .ctime, .format 1 .load, .format 1 .strtok,
    .format 1 .store, .format 1 .snprintf, .write 1,
    .read 50, .write 0]

/- The log process then reads to the end of the file. -/
def twoCallsRead : List (LogPipeLabel FloatDatum) :=
  twoCalls ++ [.read 113, .close, .endOfFile]

/-
  Two threads that format at the same time: the second one
  writes the newline of its date back before the first one
  has copied it, and both have taken the number 0.
-/
example :
    ((logPipeSystem FloatDatum 4096 2).run
        [.call 0 insertion christmasEve, .format 0 .load,
          .format 0 .ctime, .format 0 .strtok,
          .call 1 hotReport christmasEve, .format 1 .load,
          .format 1 .ctime, .format 0 .store,
          .format 1 .store, .format 0 .snprintf]).map
        (fun s => (s.sequenceNumber, s.lines)) =
      some
        (1,
          [text
            ("0 - Tue Dec 24 09:08:49 2024\n - " ++
              "Data insertion from sensor 15 succeeded\n")]) := by
  decide +kernel

theorem guarded_twoCallsRead :
    (logPipeSystem FloatDatum 4096 2).Guarded
      LogPipe.FormatsAlone twoCallsRead := by
  have hSome :
      ((logPipeSystem FloatDatum 4096 2).checkedRunFrom
        LogPipe.FormatsAlone (.start FloatDatum 2)
        twoCallsRead).isSome = true := by
    decide +kernel
  rcases Option.isSome_iff_exists.mp hSome with ⟨s, hRun⟩
  exact System.guardedFrom_of_checkedRunFrom _ _ hRun

theorem logPipeSystem_refines_twoCalls :
    ∃ s,
      (logPipeSystem FloatDatum 4096 2).run twoCallsRead =
          some s ∧
        ∃ calls u,
          (logSystem FloatDatum 2).run calls = some u ∧
            s.Represents u := by
  have hSome :
      ((logPipeSystem FloatDatum 4096 2).run
        twoCallsRead).isSome = true := by
    decide +kernel
  rcases Option.isSome_iff_exists.mp hSome with ⟨s, hRun⟩
  rcases logPipeSystem_refines guarded_twoCallsRead hRun with
    ⟨calls, u, hModel, hRep, _⟩
  exact ⟨s, hRun, calls, u, hModel, hRep⟩

/- Both lines are in the file, in the wrong order. -/
theorem logPipeSystem_logFile_twoCalls :
    ∃ s,
      (logPipeSystem FloatDatum 4096 2).run twoCallsRead =
          some s ∧
        (∃ lines : List (List (BitVec 8)),
          lines.Perm (calledLines (callsOf twoCallsRead)) ∧
            s.logFile = lines.flatten) ∧
        ¬(logPipeSystem FloatDatum 4096 2).Guarded
          LogPipe.NotOvertaking twoCallsRead := by
  have hEnd :
      ((logPipeSystem FloatDatum 4096 2).run
          twoCallsRead).map
        (fun s =>
          (s.overflowed, s.readEndOpen,
            s.calls.all LogCall.isIdle,
            decide
              (s.logFile =
                (calledLines (callsOf twoCallsRead)).flatten))) =
      some (false, false, true, false) := by
    decide +kernel
  rw [Option.map_eq_some_iff] at hEnd
  rcases hEnd with ⟨s, hRun, hState⟩
  simp only [Prod.mk.injEq, decide_eq_false_iff_not] at hState
  rcases hState with ⟨hDefined, hEnded, hCalls, hOrder⟩
  have hReturned : ∀ call ∈ s.calls, call = .idle :=
    fun call hMem =>
      LogCall.eq_idle (List.all_eq_true.mp hCalls call hMem)
  rcases logPipeSystem_logFile guarded_twoCallsRead hRun
      hDefined hEnded hReturned with
    ⟨lines, hPerm, hFile, hIff⟩
  exact
    ⟨s, hRun, ⟨lines, hPerm, hFile⟩,
      fun hGuard => hOrder (hIff.mpr hGuard)⟩

end SensorGateway
