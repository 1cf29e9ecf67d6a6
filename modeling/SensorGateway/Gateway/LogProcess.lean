import SensorGateway.Config
import SensorGateway.Foundations.Population
import SensorGateway.Foundations.System
import SensorGateway.Foundations.Tickets

/-
  Many threads in `write_to_log_process`, the pipe, and the
  log process that `create_log_process` starts.

  A call takes its number by `sequence_number++` and writes
  its line to the pipe later. No mutex keeps these two steps
  of one call together, so a thread may overtake another one
  between them. The lines are in order exactly in those runs
  in which nobody is overtaken.

  Each line is shorter than `PIPE_BUF`, so its write is one
  step. The log process copies bytes; a line is in the log
  when its last byte is.

  Key definitions include:
    * `LogProcess`
    * `takeSequenceNumber`
    * `writeToPipe`
    * `copyToLog`
    * `logSystem`
    * `NotOvertaking`

  Key theorems include:
    * `LogProcess.Numbered.of_step`
    * `LogProcess.written_of_step`
    * `logSystem_inOrder_iff`
    * `logOrder_overtaken`
-/

------------------------------------------------------------
-- Calls and the Log Process
------------------------------------------------------------

namespace SensorGateway

open Foundations

variable {V : Type}

/- The largest value of `sequence_number`, an `int`. -/
def intMax : Nat :=
  2 ^ 31 - 1

/- A line of the log: its number and its message. -/
abbrev LogLine (V : Type) :=
  Nat × LogMsg V

/-
  The numbered lines that the threads have formatted and not
  written yet, one for each thread, the pipe, and the lines
  in `gateway.log`. The flag records that `sequence_number++`
  had no defined result.
-/
structure LogProcess (V : Type) where
  sequenceNumber : Nat
  overflowed : Bool
  formatted : List (Option (LogLine V))
  pipe : List (LogLine V)
  gatewayLog : List (LogLine V)

/- The lines that were written, in their order. -/
def LogProcess.written
    (s : LogProcess V) :
    List (LogLine V) :=
  s.gatewayLog ++ s.pipe

/- The start, behind `create_log_process`. -/
def LogProcess.start
    (threads : Nat) :
    LogProcess V where
  sequenceNumber := 0
  overflowed := false
  formatted := List.replicate threads none
  pipe := []
  gatewayLog := []

/-
  Thread `i` calls `write_to_log_process` and formats its
  line, with the next number.
-/
def takeSequenceNumber
    (s : LogProcess V)
    (i : Nat)
    (msg : LogMsg V) :
    Option (LogProcess V) :=
  match s.formatted[i]? with
  | some none =>
      if s.sequenceNumber < intMax then
        some
          { s with
              sequenceNumber := s.sequenceNumber + 1
              formatted :=
                s.formatted.set i
                  (some (s.sequenceNumber, msg)) }
      else
        some { s with overflowed := true }
  | _ => none

/- Thread `i` writes its line to the pipe, and returns. -/
def writeToPipe
    (s : LogProcess V)
    (i : Nat) :
    Option (LogProcess V) :=
  match s.formatted[i]? with
  | some (some line) =>
      some
        { s with
            formatted := s.formatted.set i none
            pipe := s.pipe ++ [line] }
  | _ => none

/- The log process appends the next line to its file. -/
def copyToLog
    (s : LogProcess V) :
    Option (LogProcess V) :=
  match s.pipe with
  | [] => none
  | line :: pipe =>
      some
        { s with
            pipe := pipe
            gatewayLog := s.gatewayLog ++ [line] }

inductive LogLabel (V : Type) where
  | number (thread : Nat) (msg : LogMsg V)
  | write (thread : Nat)
  | copy

/- There is no step behind an overflow. -/
def logStep
    (s : LogProcess V)
    (l : LogLabel V) :
    Option (LogProcess V) :=
  if s.overflowed then
    none
  else
    match l with
    | .number i msg => takeSequenceNumber s i msg
    | .write i => writeToPipe s i
    | .copy => copyToLog s

def logSystem
    (V : Type)
    (threads : Nat) :
    System (LogProcess V) (LogLabel V) where
  init := .start threads
  step := logStep

------------------------------------------------------------
-- Sequence Numbers as Tickets
------------------------------------------------------------

/- The numbers of lines. -/
def sequenceNumbers
    (lines : List (LogLine V)) :
    List Nat :=
  lines.map Prod.fst

namespace LogProcess

/- The number of a line that a thread has formatted. -/
def pendingNumber
    (line : Option (LogLine V)) :
    Option Nat :=
  line.map Prod.fst

/- The numbers that were taken, and whether they are written. -/
def tickets
    (s : LogProcess V) :
    Tickets where
  next := s.sequenceNumber
  out := s.formatted.filterMap pendingNumber
  done := sequenceNumbers s.written

/- Each number was taken by one line. -/
def Numbered
    (s : LogProcess V) : Prop :=
  s.tickets.Issued

/-
  The lines of the log are numbered from zero on, without
  gaps or duplicates.
-/
def LogInOrder
    (s : LogProcess V) : Prop :=
  Tickets.InOrder (sequenceNumbers s.gatewayLog)

/- The same for all lines that were written. -/
def WrittenInOrder
    (s : LogProcess V) : Prop :=
  Tickets.InOrder (sequenceNumbers s.written)

instance (s : LogProcess V) :
    Decidable s.LogInOrder :=
  inferInstanceAs (Decidable (Tickets.InOrder _))

/- The log is what was written first. -/
theorem WrittenInOrder.logInOrder
    {s : LogProcess V}
    (h : s.WrittenInOrder) :
    s.LogInOrder := by
  apply Tickets.InOrder.of_prefix _ h
  unfold sequenceNumbers written
  rw [List.map_append]
  exact List.prefix_append _ _

end LogProcess

/-
  A write overtakes nobody: no other thread holds a line with
  a smaller number. The other steps write nothing.
-/
def NotOvertaking
    (s : LogProcess V) :
    LogLabel V → Prop
| .write i =>
    ∀ line, s.formatted[i]? = some (some line) →
      ∀ other, some other ∈ s.formatted → line.1 ≤ other.1
| _ => True

namespace LogProcess

/-
  The cases of a step: a number is taken, a line is written,
  or neither, where a line may be copied.
-/
inductive LogMove
    (s t : LogProcess V) :
    LogLabel V → Prop where
  | number
      {i : Nat}
      {msg : LogMsg V}
      (hIdle : s.formatted[i]? = some none)
      (hNext : t.sequenceNumber = s.sequenceNumber + 1)
      (hFormatted :
        t.formatted =
          s.formatted.set i (some (s.sequenceNumber, msg)))
      (hWritten : t.written = s.written) :
      LogMove s t (.number i msg)
  | still
      {l : LogLabel V}
      (hTickets : t.tickets = s.tickets)
      (hLabel : ∀ i, l ≠ .write i) :
      LogMove s t l
  | write
      {i : Nat}
      {line : LogLine V}
      (hLine : s.formatted[i]? = some (some line))
      (hNext : t.sequenceNumber = s.sequenceNumber)
      (hFormatted : t.formatted = s.formatted.set i none)
      (hWritten : t.written = s.written ++ [line]) :
      LogMove s t (.write i)

variable {s t : LogProcess V}
variable {l : LogLabel V}

theorem logMove_of_step
    (hStep : logStep s l = some t) :
    LogMove s t l := by
  unfold logStep at hStep
  split at hStep
  · cases hStep
  · cases l with
    | number i msg =>
        simp only [takeSequenceNumber] at hStep
        split at hStep
        · rename_i hIdle
          split at hStep
          · cases hStep
            exact .number hIdle rfl rfl rfl
          · cases hStep
            exact .still rfl (fun _ => by simp)
        · cases hStep
    | write i =>
        simp only [writeToPipe] at hStep
        split at hStep
        · rename_i line hLine
          cases hStep
          refine .write hLine rfl rfl ?_
          unfold written
          exact (List.append_assoc _ _ _).symm
        · cases hStep
    | copy =>
        simp only [copyToLog] at hStep
        split at hStep
        · cases hStep
        · rename_i line pipe hPipe
          cases hStep
          refine .still ?_ (fun _ => by simp)
          simp only [tickets, written, hPipe,
            List.append_assoc, List.singleton_append]

------------------------------------------------------------
-- Each Number is Written Once
------------------------------------------------------------

theorem Numbered.start
    (threads : Nat) :
    (LogProcess.start threads : LogProcess V).Numbered := by
  have hNone :
      (List.replicate threads
        (none : Option (LogLine V))).filterMap
          pendingNumber = [] := by
    apply List.filterMap_eq_nil_iff.mpr
    intro line hMem
    rw [(List.mem_replicate.mp hMem).2]
    rfl
  unfold Numbered tickets LogProcess.start written
  rw [hNone]
  exact Tickets.Issued.start

/- Numbers are neither lost nor taken twice. -/
theorem Numbered.of_step
    (h : s.Numbered)
    (hStep : logStep s l = some t) :
    t.Numbered := by
  unfold Numbered tickets at *
  cases logMove_of_step hStep with
  | number hIdle hNext hFormatted hWritten =>
      rw [hNext, hFormatted, hWritten]
      rename_i i msg
      apply h.take
      have hPerm :=
        filterMap_set_perm
          (b := some (s.sequenceNumber, msg)) pendingNumber
          hIdle
      simpa [pendingNumber] using hPerm
  | still hTickets hLabel =>
      have hSame := congrArg Tickets.Issued hTickets
      exact hSame.mpr h
  | write hLine hNext hFormatted hWritten =>
      rw [hNext, hFormatted, hWritten, sequenceNumbers,
        List.map_append]
      apply h.bring
      have hPerm :=
        filterMap_set_perm (b := none) pendingNumber hLine
      simpa [pendingNumber] using hPerm

/- A thread's number is out, and only those are. -/
theorem mem_out_iff
    (s : LogProcess V)
    (n : Nat) :
    n ∈ s.tickets.out ↔
      ∃ line, some line ∈ s.formatted ∧ line.1 = n := by
  unfold tickets
  simp only
  rw [List.mem_filterMap]
  constructor
  · rintro ⟨line, hMem, hNumber⟩
    rcases Option.map_eq_some_iff.mp hNumber with
      ⟨line', rfl, hEq⟩
    exact ⟨line', hMem, hEq⟩
  · rintro ⟨line, hMem, hEq⟩
    exact ⟨some line, hMem, congrArg some hEq⟩

/- What is written stays in front. -/
theorem written_of_step
    (hStep : logStep s l = some t) :
    sequenceNumbers s.written <+:
      sequenceNumbers t.written := by
  cases logMove_of_step hStep with
  | number hIdle hNext hFormatted hWritten =>
      exact ⟨[], by rw [hWritten, List.append_nil]⟩
  | still hTickets hLabel =>
      have hSame :
          sequenceNumbers t.written =
            sequenceNumbers s.written :=
        congrArg Tickets.done hTickets
      exact ⟨[], by rw [hSame, List.append_nil]⟩
  | write hLine hNext hFormatted hWritten =>
      rw [hWritten, sequenceNumbers, sequenceNumbers,
        List.map_append]
      exact List.prefix_append _ _

------------------------------------------------------------
-- The Order of the Lines
------------------------------------------------------------

/- A step keeps the order exactly if it overtakes nobody. -/
theorem writtenInOrder_step_iff
    (hNumbered : s.Numbered)
    (h : s.WrittenInOrder)
    (hStep : logStep s l = some t) :
    t.WrittenInOrder ↔ NotOvertaking s l := by
  unfold WrittenInOrder at *
  cases logMove_of_step hStep with
  | number hIdle hNext hFormatted hWritten =>
      rw [hWritten]
      exact iff_of_true h trivial
  | still hTickets hLabel =>
      have hSame :
          sequenceNumbers t.written =
            sequenceNumbers s.written :=
        congrArg Tickets.done hTickets
      rw [hSame]
      refine iff_of_true h ?_
      cases l with
      | number i msg => trivial
      | write i => exact absurd rfl (hLabel i)
      | copy => trivial
  | write hLine hNext hFormatted hWritten =>
      rename_i i line
      have hMem : line.1 ∈ s.tickets.out :=
        (s.mem_out_iff line.1).mpr
          ⟨line, List.mem_of_getElem? hLine, rfl⟩
      have hLeast :=
        hNumbered.inOrder_bring_iff h hMem
      rw [hWritten, sequenceNumbers, List.map_append,
        List.map_singleton]
      refine hLeast.trans ?_
      constructor
      · intro hAll line' hLine' other hOther
        rw [hLine, Option.some.injEq, Option.some.injEq]
          at hLine'
        rw [← hLine']
        exact hAll _
          ((s.mem_out_iff _).mpr ⟨other, hOther, rfl⟩)
      · intro hGuard n hOut
        rcases (s.mem_out_iff n).mp hOut with
          ⟨other, hOther, rfl⟩
        exact hGuard line hLine other hOther

end LogProcess

/- In a run, the numbers that were written stay in front. -/
theorem logSystem_written_grows
    {threads : Nat}
    {before after : List (LogLabel V)}
    {s t : LogProcess V}
    (hBefore : (logSystem V threads).run before = some t)
    (hRun :
      (logSystem V threads).run (before ++ after) = some s) :
    sequenceNumbers t.written <+:
      sequenceNumbers s.written := by
  rcases ((logSystem V threads).run_append before after
      s).mp hRun with
    ⟨u, hU, hAfter⟩
  rw [hBefore, Option.some.injEq] at hU
  subst hU
  refine (logSystem V threads).invariant_from
    (fun s => sequenceNumbers t.written <+:
      sequenceNumbers s.written) ?_
    (List.prefix_refl _) hAfter
  intro s l u hPrefix hStep
  exact hPrefix.trans (LogProcess.written_of_step hStep)

/- What was written in a run is in order, or was overtaken. -/
theorem logSystem_writtenInOrder_iff
    {threads : Nat}
    {labels : List (LogLabel V)}
    {s : LogProcess V}
    (hRun : (logSystem V threads).run labels = some s) :
    s.WrittenInOrder ↔
      (logSystem V threads).Guarded NotOvertaking labels := by
  have hAlways :=
    (logSystem V threads).always_iff_guarded NotOvertaking
      (fun s => s.Numbered ∧ s.WrittenInOrder)
      LogProcess.WrittenInOrder
      ⟨LogProcess.Numbered.start threads,
        Tickets.InOrder.nil⟩
      (fun _ s a t _ hI hGuard hStep =>
        ⟨hI.1.of_step hStep,
          (LogProcess.writtenInOrder_step_iff hI.1 hI.2
            hStep).mpr hGuard⟩)
      (fun _ _ _ hI => hI.2)
      (fun _ s a t _ hI hNot hStep hOrder =>
        hNot
          ((LogProcess.writtenInOrder_step_iff hI.1 hI.2
            hStep).mp hOrder))
      hRun
  rw [← hAlways]
  constructor
  · intro hOrder before after t hSplit hBefore
    subst hSplit
    exact hOrder.of_prefix
      (logSystem_written_grows hBefore hRun)
  · intro hAll
    exact hAll labels [] s (List.append_nil _).symm hRun

/-
  Where no write of a run overtakes another thread, the lines
  of the log are in order in all states that the run passes.
  At the end of a run, when the pipe is empty, the lines are
  in order only if no write did.
-/
theorem logSystem_inOrder_iff
    (threads : Nat)
    (labels : List (LogLabel V))
    {s : LogProcess V}
    (hRun : (logSystem V threads).run labels = some s) :
    ((logSystem V threads).Guarded NotOvertaking labels →
        ∀ before after t,
          labels = before ++ after →
            (logSystem V threads).run before = some t →
              t.LogInOrder) ∧
      (s.pipe = [] →
        (s.LogInOrder ↔
          (logSystem V threads).Guarded NotOvertaking
            labels)) := by
  have hIff := logSystem_writtenInOrder_iff hRun
  constructor
  · intro hGuard before after t hSplit hBefore
    subst hSplit
    have hOrder := hIff.mpr hGuard
    apply LogProcess.WrittenInOrder.logInOrder
    exact hOrder.of_prefix
      (logSystem_written_grows hBefore hRun)
  · intro hPipe
    rw [← hIff]
    unfold LogProcess.LogInOrder LogProcess.WrittenInOrder
      LogProcess.written
    rw [hPipe, List.append_nil]

/-
  Two threads take the numbers 0 and 1, and the second one
  writes first, or second.
-/
def overtaken : List (LogLabel (BitVec 64)) :=
  [.number 0 (.dataInsert 15), .number 1 (.dataInsert 21),
    .write 1, .write 0, .copy, .copy]

def inTurn : List (LogLabel (BitVec 64)) :=
  [.number 0 (.dataInsert 15), .number 1 (.dataInsert 21),
    .write 0, .write 1, .copy, .copy]

theorem logOrder_overtaken :
    ∃ s,
      (logSystem (BitVec 64) 2).run overtaken = some s ∧
        s.gatewayLog =
          [(1, .dataInsert 21), (0, .dataInsert 15)] ∧
        ¬ s.LogInOrder :=
  ⟨_, rfl, rfl, by decide⟩

theorem logOrder_inTurn :
    ∃ s,
      (logSystem (BitVec 64) 2).run inTurn = some s ∧
        s.LogInOrder ∧
        (logSystem (BitVec 64) 2).Guarded NotOvertaking
          inTurn :=
  ⟨_, rfl, by decide,
    ((logSystem_inOrder_iff 2 inTurn rfl).2 rfl).mp
      (by decide)⟩

end SensorGateway
