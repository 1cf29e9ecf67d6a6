import SensorGateway.ConnMgr.WireFraming

/-
  What `client_handler` makes of the outcomes of its receives
  and of the readings of its clock.

  A session is described by position: iteration `j` of the
  loop makes the receives `3 * j` to `3 * j + 2`, and it is
  complete if all of them succeed in time. The session is the
  longest run of complete iterations, and what ended it.

  Key definitions include:
    * `received`
    * `Complete`
    * `sentRecord`
    * `sessionEffects`
    * `sessionExit`
    * `FullFields`

  Key theorems include:
    * `clientLoop_session`
    * `clientHandler_session`
    * `clientHandler_semantics`
-/

------------------------------------------------------------
-- Receives
------------------------------------------------------------

namespace SensorGateway

open Foundations

namespace Recv

/- The receive is a success. -/
def received : Recv → Bool
| .stored [] => false
| .stored _ => true
| .failed _ => false

/- The receive reports that the connection is closed. -/
def closed : Recv → Bool
| .stored [] => true
| .failed true => true
| _ => false

/- A receive that succeeds reports no closed connection. -/
theorem closed_of_received
    {outcome : Recv}
    (hReceived : outcome.received = true) :
    outcome.closed = false := by
  cases outcome with
  | stored bs =>
      cases bs with
      | nil => cases hReceived
      | cons b bs => rfl
  | failed enotconn => cases hReceived

/- The bytes that the receive stores. -/
def bytes : Recv → List (BitVec 8)
| .stored bs => bs
| .failed _ => []

/- The code of a receive that does not succeed. -/
def failure
    (outcome : Recv) : TcpResult :=
  if outcome.closed then .connectionClosed else .sockopError

theorem failure_ne_noError
    (outcome : Recv) :
    outcome.failure ≠ .noError := by
  unfold failure
  split
  · simp
  · simp

/- A receive that does not succeed stores nothing. -/
theorem tcpReceive_of_not_received
    {outcome : Recv}
    (hNot : outcome.received = false)
    {n : Nat}
    (buffer : Bytes n) :
    tcpReceive buffer outcome = (outcome.failure, buffer) := by
  cases outcome with
  | stored bs =>
      cases bs with
      | nil => rfl
      | cons b bs => cases hNot
  | failed enotconn =>
      cases enotconn with
      | false => rfl
      | true => rfl

/- A receive that succeeds stores its bytes. -/
theorem tcpReceive_of_received
    {outcome : Recv}
    (hReceived : outcome.received = true)
    {n : Nat}
    (buffer : Bytes n) :
    tcpReceive buffer outcome =
      (.noError, buffer.overwrite outcome.bytes) := by
  cases outcome with
  | stored bs =>
      cases bs with
      | nil => cases hReceived
      | cons b bs => rfl
  | failed enotconn => cases hReceived

end Recv

/- The number of receives that succeed before one does not. -/
def received
    (recvs : List Recv) : Nat :=
  (recvs.takeWhile Recv.received).length

theorem received_cons
    (outcome : Recv)
    (recvs : List Recv) :
    received (outcome :: recvs) =
      if outcome.received then received recvs + 1 else 0 := by
  unfold received
  rw [List.takeWhile_cons]
  split
  · rfl
  · rfl

/- Three receives that succeed stand in front. -/
theorem exists_of_three_le_received
    {recvs : List Recv}
    (hThree : 3 ≤ received recvs) :
    ∃ o₁ o₂ o₃ rest,
      recvs = o₁ :: o₂ :: o₃ :: rest ∧
        o₁.received = true ∧ o₂.received = true ∧
        o₃.received = true ∧
        received recvs = received rest + 3 := by
  match recvs, hThree with
  | [], hThree => simp [received] at hThree
  | [o₁], hThree =>
      rw [received_cons] at hThree
      split at hThree
      · simp [received] at hThree
      · omega
  | [o₁, o₂], hThree =>
      rw [received_cons, received_cons] at hThree
      split at hThree
      · split at hThree
        · simp [received] at hThree
        · omega
      · omega
  | o₁ :: o₂ :: o₃ :: rest, hThree =>
      have hSplit := hThree
      rw [received_cons, received_cons, received_cons]
        at hSplit
      split at hSplit
      · rename_i h₁
        split at hSplit
        · rename_i h₂
          split at hSplit
          · rename_i h₃
            refine
              ⟨o₁, o₂, o₃, rest, rfl, h₁, h₂, h₃, ?_⟩
            simp [received_cons, h₁, h₂, h₃]
          · omega
        · omega
      · omega

/- What a field of `n` bytes holds after receive `i`. -/
def fieldAt
    (n : Nat)
    (recvs : List Recv)
    (i : Nat) :
    BitVec (8 * n) :=
  BitVec.ofNat (8 * n)
    (Bytes.decodeNat ((recvs[i]?.map Recv.bytes).getD []))

/-
  A receive that stores bytes stores a whole field; `i` is
  the number of the first receive.
-/
def FullFields
    (i : Nat)
    (recvs : List Recv) : Prop :=
  ∀ j outcome,
    recvs[j]? = some outcome →
      outcome.received = true →
        outcome.bytes.length = fieldSize (i + j)

/- Bytes that fill a field determine what it holds. -/
theorem decode_overwrite_of_length
    {n : Nat}
    (buffer : Bytes n)
    {bs : List (BitVec 8)}
    (hLength : bs.length = n) :
    (buffer.overwrite bs).decode =
      BitVec.ofNat (8 * n) (Bytes.decodeNat bs) := by
  subst hLength
  have hList : (buffer.overwrite bs).toList = bs := by
    apply List.ext_getElem
    · simp
    · intro i h₁ h₂
      simp [Bytes.toList, Bytes.overwrite,
        List.getElem?_eq_getElem h₂]
  rw [Bytes.decode, hList]

------------------------------------------------------------
-- Sessions
------------------------------------------------------------

/-
  Iteration `j` receives all its fields, and the time from
  its start to its last receive is at most `TIMEOUT`. The
  loop reads its clock twice in an iteration, from reading
  `k` on.
-/
def Complete
    (TIMEOUT : Int)
    (clock : Nat → Int)
    (k : Nat)
    (recvs : List Recv)
    (j : Nat) : Prop :=
  3 * j + 3 ≤ received recvs ∧
    clock (k + 2 * j + 1) - clock (k + 2 * j) ≤ TIMEOUT

/- The iterations from the second one on. -/
theorem complete_succ
    (TIMEOUT : Int)
    (clock : Nat → Int)
    (k : Nat)
    {recvs rest : List Recv}
    (hReceived : received recvs = received rest + 3)
    (j : Nat) :
    Complete TIMEOUT clock k recvs (j + 1) ↔
      Complete TIMEOUT clock (k + 2) rest j := by
  unfold Complete
  have hFirst : k + 2 * (j + 1) + 1 = k + 2 + 2 * j + 1 := by
    omega
  have hSecond : k + 2 * (j + 1) = k + 2 + 2 * j := by
    omega
  rw [hReceived, hFirst, hSecond]
  constructor
  · rintro ⟨hFields, hTime⟩
    exact ⟨by omega, hTime⟩
  · rintro ⟨hFields, hTime⟩
    exact ⟨by omega, hTime⟩

/-
  The loop makes `n` complete iterations and then one that is
  not complete.
-/
def CompleteRun
    (TIMEOUT : Int)
    (clock : Nat → Int)
    (k : Nat)
    (recvs : List Recv)
    (n : Nat) : Prop :=
  (∀ j < n, Complete TIMEOUT clock k recvs j) ∧
    ¬ Complete TIMEOUT clock k recvs n

/- The first id that was received, or 0. -/
def firstId
    (recvs : List Recv) :
    SensorId :=
  if 1 ≤ received recvs then fieldAt 2 recvs 0 else 0

variable {V : Type}

/- The record that iteration `j` receives. -/
def sentRecord
    [SensorValue V]
    (recvs : List Recv)
    (j : Nat) :
    SensorData V where
  id := fieldAt 2 recvs (3 * j)
  value := SensorValue.ofBits (fieldAt 8 recvs (3 * j + 1))
  ts := fieldAt 8 recvs (3 * j + 2)

/- The line for the first id, if one was received. -/
def openedLine
    (recvs : List Recv) :
    List (HandlerEffect V) :=
  if 1 ≤ received recvs then
    [.log (.sensorConnection (firstId recvs))]
  else
    []

/- The first `n` records inserted, each with its line. -/
def insertions
    [SensorValue V]
    (id : SensorId)
    (recvs : List Recv)
    (n : Nat) :
    List (HandlerEffect V) :=
  (List.range n).flatMap
    (fun j =>
      [.sbufferInsert (sentRecord recvs j),
        .log (.dataInsert id)])

/-
  How the session ends after `n` complete iterations: the
  last iteration takes too long, or one of its receives does
  not succeed. If the outcomes are used up, it goes on.
-/
def sessionExit
    (id : SensorId)
    (recvs : List Recv)
    (n : Nat) :
    Option LoopExit :=
  if 3 * n + 3 ≤ received recvs then
    some ⟨.noError, true, id⟩
  else
    (recvs[received recvs]?).map
      (fun outcome => ⟨outcome.failure, false, id⟩)

/- All effects of a session of `n` complete iterations. -/
def sessionEffects
    [SensorValue V]
    (recvs : List Recv)
    (n : Nat) :
    List (HandlerEffect V) :=
  let id := firstId recvs
  openedLine recvs ++ insertions id recvs n ++
    match sessionExit id recvs n with
    | none => []
    | some exit => clientClosing exit

/- The insertions from the second one on. -/
theorem insertions_succ
    [SensorValue V]
    (id : SensorId)
    {recvs rest : List Recv}
    (hShift :
      ∀ i, recvs[i + 3]? = rest[i]?)
    (n : Nat) :
    insertions (V := V) id recvs (n + 1) =
      [.sbufferInsert (sentRecord recvs 0),
        .log (.dataInsert id)] ++ insertions id rest n := by
  have hField :
      ∀ m i, fieldAt m recvs (i + 3) = fieldAt m rest i := by
    intro m i
    unfold fieldAt
    rw [hShift]
  have hRecord :
      ∀ j,
        sentRecord (V := V) recvs (j + 1) =
          sentRecord rest j := by
    intro j
    have hId : 3 * (j + 1) = 3 * j + 3 := by omega
    have hValue : 3 * (j + 1) + 1 = 3 * j + 1 + 3 := by omega
    have hTs : 3 * (j + 1) + 2 = 3 * j + 2 + 3 := by omega
    simp only [sentRecord, hValue, hTs]
    rw [hId]
    simp only [hField]
  unfold insertions
  rw [List.range_succ_eq_map, List.flatMap_cons,
    List.flatMap_map]
  simp only [hRecord]

/- The exit, seen from the second iteration. -/
theorem sessionExit_succ
    (id : SensorId)
    {recvs rest : List Recv}
    (hReceived : received recvs = received rest + 3)
    (hShift : ∀ i, recvs[i + 3]? = rest[i]?)
    (n : Nat) :
    sessionExit id recvs (n + 1) =
      sessionExit id rest n := by
  unfold sessionExit
  rw [hReceived, hShift]
  have hEnough :
      3 * (n + 1) + 3 ≤ received rest + 3 ↔
        3 * n + 3 ≤ received rest := by
    omega
  simp only [hEnough]

------------------------------------------------------------
-- The Loop
------------------------------------------------------------

section Loop

variable [SensorValue V]

/- The id that the loop remembers behind the first receive. -/
def rememberedId
    (loggedAlready : Bool)
    (id : SensorId)
    (recvs : List Recv) :
    SensorId :=
  if loggedAlready then
    id
  else if 1 ≤ received recvs then
    fieldAt 2 recvs 0
  else
    id

/- What the loop logs at its first receive. -/
def openedLines
    (loggedAlready : Bool)
    (recvs : List Recv) :
    List (HandlerEffect V) :=
  if 1 ≤ received recvs then
    logOpened loggedAlready (fieldAt 2 recvs 0)
  else
    []

/- A receive of a whole field, read as a number. -/
theorem decode_overwrite_fieldAt
    {n i : Nat}
    {recvs : List Recv}
    (hFull : FullFields i recvs)
    {j : Nat}
    {outcome : Recv}
    (hOutcome : recvs[j]? = some outcome)
    (hReceived : outcome.received = true)
    (hSize : fieldSize (i + j) = n)
    (buffer : Bytes n) :
    (buffer.overwrite outcome.bytes).decode =
      fieldAt n recvs j := by
  have hLength := hFull j outcome hOutcome hReceived
  rw [decode_overwrite_of_length buffer (by
    rw [hLength, hSize])]
  simp [fieldAt, hOutcome]

/- An iteration one of whose receives does not succeed. -/
theorem clientLoop_incomplete
    (TIMEOUT : Int)
    (clock : Nat → Int)
    (data : RecordBytes)
    (loggedAlready : Bool)
    (id : SensorId)
    (k : Nat)
    {i : Nat}
    {recvs : List Recv}
    (hField : i % 3 = 0)
    (hFull : FullFields i recvs)
    (hShort : received recvs < 3) :
    clientLoop (V := V) TIMEOUT clock data loggedAlready id
        k recvs =
      (openedLines loggedAlready recvs,
        sessionExit (rememberedId loggedAlready id recvs)
          recvs 0) := by
  have h₂ : fieldSize (i + 0) = 2 := by
    simp [fieldSize, hField]
  cases recvs with
  | nil =>
      simp [clientLoop, openedLines, sessionExit, received]
  | cons o₁ recvs =>
      cases hFirst : o₁.received with
      | false =>
          have hNone : received (o₁ :: recvs) = 0 := by
            rw [received_cons, hFirst]
            rfl
          rw [clientLoop,
            Recv.tcpReceive_of_not_received hFirst]
          simp [openedLines, sessionExit, rememberedId,
            hNone, Recv.failure_ne_noError]
      | true =>
          have hSome : 1 ≤ received (o₁ :: recvs) := by
            rw [received_cons, hFirst]
            simp
          have hId :=
            decode_overwrite_fieldAt hFull (j := 0) rfl
              hFirst h₂ data.id
          rw [clientLoop, Recv.tcpReceive_of_received hFirst]
          simp only [ne_eq, not_true_eq_false, if_false,
            RecordBytes.sensorId, hId]
          cases recvs with
          | nil =>
              simp [openedLines, sessionExit, received,
                hFirst]
          | cons o₂ recvs =>
              cases hSecond : o₂.received with
              | false =>
                  have hOne :
                      received (o₁ :: o₂ :: recvs) = 1 := by
                    simp [received_cons, hFirst, hSecond]
                  simp [openedLines, sessionExit,
                    rememberedId, hOne,
                    Recv.tcpReceive_of_not_received hSecond,
                    Recv.failure_ne_noError]
              | true =>
                  simp only [
                    Recv.tcpReceive_of_received hSecond,
                    not_true_eq_false, if_false]
                  cases recvs with
                  | nil =>
                      simp [openedLines, sessionExit,
                        received, hFirst, hSecond]
                  | cons o₃ recvs =>
                      have hThird : o₃.received = false := by
                        by_contra hNot
                        rw [Bool.not_eq_false] at hNot
                        rw [received_cons, hFirst,
                          received_cons, hSecond,
                          received_cons, hNot] at hShort
                        simp only [if_true] at hShort
                        omega
                      have hTwo :
                          received
                              (o₁ :: o₂ :: o₃ :: recvs) =
                            2 := by
                        simp [received_cons, hFirst, hSecond,
                          hThird]
                      simp [openedLines, sessionExit,
                        rememberedId, hTwo,
                        Recv.tcpReceive_of_not_received
                          hThird,
                        Recv.failure_ne_noError]

/- An iteration all of whose receives succeed. -/
theorem clientLoop_complete
    (TIMEOUT : Int)
    (clock : Nat → Int)
    (data : RecordBytes)
    (loggedAlready : Bool)
    (id : SensorId)
    (k : Nat)
    {i : Nat}
    {o₁ o₂ o₃ : Recv}
    {rest : List Recv}
    (hField : i % 3 = 0)
    (hFull : FullFields i (o₁ :: o₂ :: o₃ :: rest))
    (h₁ : o₁.received = true)
    (h₂ : o₂.received = true)
    (h₃ : o₃.received = true) :
    let recvs := o₁ :: o₂ :: o₃ :: rest
    let id' := rememberedId loggedAlready id recvs
    ∃ data',
      clientLoop (V := V) TIMEOUT clock data loggedAlready
          id k recvs =
        if clock (k + 1) - clock k > TIMEOUT then
          (openedLines loggedAlready recvs,
            some ⟨.noError, true, id'⟩)
        else
          let next :=
            clientLoop (V := V) TIMEOUT clock data' true id'
              (k + 2) rest
          (openedLines loggedAlready recvs ++
            [.sbufferInsert (sentRecord recvs 0),
              .log (.dataInsert id')] ++ next.1,
            next.2) := by
  have hSize₁ : fieldSize (i + 0) = 2 := by
    simp [fieldSize, hField]
  have hSize₂ : fieldSize (i + 1) = 8 := by
    have hNe : (i + 1) % 3 ≠ 0 := by omega
    simp [fieldSize, hNe]
  have hSize₃ : fieldSize (i + 2) = 8 := by
    have hNe : (i + 2) % 3 ≠ 0 := by omega
    simp [fieldSize, hNe]
  have hId :=
    decode_overwrite_fieldAt hFull (j := 0) rfl h₁ hSize₁
      data.id
  have hValue :=
    decode_overwrite_fieldAt hFull (j := 1) rfl h₂ hSize₂
      data.value
  have hTs :=
    decode_overwrite_fieldAt hFull (j := 2) rfl h₃ hSize₃
      data.ts
  have hSome : 1 ≤ received (o₁ :: o₂ :: o₃ :: rest) := by
    rw [received_cons, h₁]
    simp
  refine
    ⟨{ id := data.id.overwrite o₁.bytes
       value := data.value.overwrite o₂.bytes
       ts := data.ts.overwrite o₃.bytes }, ?_⟩
  simp only [clientLoop, Recv.tcpReceive_of_received h₁,
    Recv.tcpReceive_of_received h₂,
    Recv.tcpReceive_of_received h₃, ne_eq,
    not_true_eq_false, if_false, RecordBytes.sensorId,
    RecordBytes.record, hId, hValue, hTs, openedLines,
    rememberedId, hSome, if_true, sentRecord]

/-
  The loop makes the longest run of complete iterations, with
  the records that these receive, and is left as the next
  iteration tells. Induction over the iterations.
-/
theorem clientLoop_session
    (TIMEOUT : Int)
    (clock : Nat → Int)
    (data : RecordBytes)
    (loggedAlready : Bool)
    (id : SensorId)
    (k : Nat)
    {i : Nat}
    {recvs : List Recv}
    (hField : i % 3 = 0)
    (hFull : FullFields i recvs) :
    let id' := rememberedId loggedAlready id recvs
    ∃ n,
      CompleteRun TIMEOUT clock k recvs n ∧
        clientLoop (V := V) TIMEOUT clock data loggedAlready
            id k recvs =
          (openedLines loggedAlready recvs ++
              insertions id' recvs n,
            sessionExit id' recvs n) := by
  induction hLength : recvs.length using Nat.strong_induction_on
    generalizing recvs data loggedAlready id k i with
  | _ length ih =>
  intro id'
  by_cases hShort : received recvs < 3
  · refine ⟨0, ⟨by simp, ?_⟩, ?_⟩
    · rintro ⟨hFields, _⟩
      omega
    · rw [clientLoop_incomplete TIMEOUT clock data
        loggedAlready id k hField hFull hShort]
      simp [insertions, id']
  · have hThree : 3 ≤ received recvs := by
      omega
    rcases exists_of_three_le_received hThree with
      ⟨o₁, o₂, o₃, rest, rfl, h₁, h₂, h₃, hReceived⟩
    rcases clientLoop_complete (V := V) TIMEOUT clock data
        loggedAlready id k hField hFull h₁ h₂ h₃ with
      ⟨data', hLoop⟩
    rw [hLoop]
    by_cases hLate : clock (k + 1) - clock k > TIMEOUT
    · refine ⟨0, ⟨by simp, ?_⟩, ?_⟩
      · rintro ⟨_, hTime⟩
        simp only [Nat.mul_zero, Nat.add_zero] at hTime
        omega
      · rw [if_pos hLate]
        have hEnough :
            3 * 0 + 3 ≤
              received (o₁ :: o₂ :: o₃ :: rest) := by
          omega
        simp [insertions, sessionExit, hEnough, id']
    · have hFullRest : FullFields (i + 3) rest := by
        intro j outcome hOutcome hSome
        have hShift :=
          hFull (j + 3) outcome (by simpa using hOutcome)
            hSome
        rw [hShift]
        congr 1
        omega
      rcases ih rest.length (by
          rw [← hLength]
          simp only [List.length_cons]
          omega) data' true id' (k + 2) (i := i + 3)
          (by omega) hFullRest rfl with
        ⟨n, hRun, hRest⟩
      refine ⟨n + 1, ⟨?_, ?_⟩, ?_⟩
      · intro j hj
        cases j with
        | zero => exact ⟨by omega, by simpa using hLate⟩
        | succ j =>
            rw [complete_succ TIMEOUT clock k hReceived]
            exact hRun.1 j (by omega)
      · rw [complete_succ TIMEOUT clock k hReceived]
        exact hRun.2
      · rw [if_neg hLate, hRest]
        have hOpened :
            openedLines (V := V) true rest = [] := by
          simp [openedLines, logOpened]
        have hShift :
            ∀ j,
              (o₁ :: o₂ :: o₃ :: rest)[j + 3]? = rest[j]? := by
          intro j
          rfl
        rw [insertions_succ id' hShift,
          sessionExit_succ id' hReceived hShift, hOpened]
        simp [rememberedId, id']

end Loop

------------------------------------------------------------
-- The Handler
------------------------------------------------------------

section Handler

variable [SensorValue V]

/- A handler has the effects of its session. -/
theorem clientHandler_session
    (TIMEOUT : Int)
    (input : HandlerInput)
    (hFull : FullFields 0 input.recvs) :
    ∃ n,
      CompleteRun TIMEOUT input.clock 2 input.recvs n ∧
        clientHandler (V := V) TIMEOUT input =
          sessionEffects input.recvs n := by
  rcases clientLoop_session (V := V) TIMEOUT input.clock
      input.data false 0 2 (i := 0) rfl hFull with
    ⟨n, hRun, hLoop⟩
  refine ⟨n, hRun, ?_⟩
  have hId :
      rememberedId false 0 input.recvs =
        firstId input.recvs := by
    simp [rememberedId, firstId]
  have hOpened :
      openedLines (V := V) false input.recvs =
        openedLine input.recvs := by
    unfold openedLines openedLine firstId
    split
    · rfl
    · rfl
  rw [clientHandler, hLoop, hId, hOpened, sessionEffects]
  cases sessionExit (firstId input.recvs) input.recvs n with
  | none => exact (List.append_nil _).symm
  | some exit => rfl

omit [SensorValue V] in
/- The effect inserts a record or reports on an insertion. -/
def HandlerEffect.ofInsertion :
    HandlerEffect V → Bool
| .sbufferInsert _ => true
| .log (.dataInsert _) => true
| _ => false

/-
  The last receive of a session of `n` complete iterations:
  the last one of iteration `n`, or one that did not succeed.
-/
def lastReceive
    (recvs : List Recv)
    (n : Nat) :
    Option Recv :=
  if 3 * n + 3 ≤ received recvs then
    recvs[3 * n + 2]?
  else
    recvs[received recvs]?

/- Iteration `n` received its fields, but too late. -/
def TimedOut
    (TIMEOUT : Int)
    (clock : Nat → Int)
    (recvs : List Recv)
    (n : Nat) : Prop :=
  3 * n + 3 ≤ received recvs ∧
    TIMEOUT < clock (2 * n + 3) - clock (2 * n + 2)

/- A receive before the first failure is a success. -/
theorem received_of_lt
    {recvs : List Recv}
    {i : Nat}
    (hLt : i < received recvs) :
    ∃ outcome,
      recvs[i]? = some outcome ∧ outcome.received = true := by
  induction recvs generalizing i with
  | nil => simp [received] at hLt
  | cons outcome recvs ih =>
      rw [received_cons] at hLt
      split at hLt
      · rename_i hFirst
        cases i with
        | zero => exact ⟨outcome, rfl, hFirst⟩
        | succ i =>
            rcases ih (i := i) (by omega) with
              ⟨outcome', hOutcome, hReceived⟩
            exact ⟨outcome', by simpa using hOutcome,
              hReceived⟩
      · omega

/- The receive behind the successes is none. -/
theorem not_received_of_eq
    {recvs : List Recv}
    {outcome : Recv}
    (hOutcome : recvs[received recvs]? = some outcome) :
    outcome.received = false := by
  induction recvs with
  | nil => simp [received] at hOutcome
  | cons first recvs ih =>
      rw [received_cons] at hOutcome
      split at hOutcome
      · exact ih (by simpa using hOutcome)
      · rename_i hFirst
        simp only [List.getElem?_cons_zero,
          Option.some.injEq] at hOutcome
        rw [← hOutcome]
        simpa using hFirst

/- The session inserts the records of its iterations. -/
theorem inserts_session
    (id : SensorId)
    (recvs : List Recv)
    (n : Nat) :
    HandlerEffect.inserts
        (openedLine (V := V) recvs ++
          insertions id recvs n) =
      (List.range n).map (sentRecord recvs) := by
  have hOpened :
      HandlerEffect.inserts (openedLine (V := V) recvs) =
        [] := by
    unfold openedLine
    split
    · rfl
    · rfl
  rw [HandlerEffect.inserts_append, hOpened,
    List.nil_append]
  unfold insertions
  induction List.range n with
  | nil => rfl
  | cons j js ih =>
      rw [List.flatMap_cons, HandlerEffect.inserts_append, ih]
      rfl

/- A run without an id makes no insertion. -/
theorem CompleteRun.eq_zero
    {TIMEOUT : Int}
    {clock : Nat → Int}
    {k : Nat}
    {recvs : List Recv}
    {n : Nat}
    (hRun : CompleteRun TIMEOUT clock k recvs n)
    (hNone : received recvs = 0) :
    n = 0 := by
  by_contra hNe
  have hFirst := (hRun.1 0 (by omega)).1
  omega

/-
  How the handler leaves its loop, in terms of the last
  receive and the clock.
-/
theorem sessionExit_lastReceive
    {TIMEOUT : Int}
    {clock : Nat → Int}
    {recvs : List Recv}
    {n : Nat}
    (hRun : CompleteRun TIMEOUT clock 2 recvs n)
    (id : SensorId) :
    (lastReceive recvs n = none ∧
        sessionExit id recvs n = none) ∨
      ∃ last,
        lastReceive recvs n = some last ∧
          ((TimedOut TIMEOUT clock recvs n ∧
              last.received = true ∧
              sessionExit id recvs n =
                some ⟨.noError, true, id⟩) ∨
            (¬ TimedOut TIMEOUT clock recvs n ∧
              last.received = false ∧
              sessionExit id recvs n =
                some ⟨last.failure, false, id⟩)) := by
  by_cases hFields : 3 * n + 3 ≤ received recvs
  · -- iteration `n` got its fields, so its time ran out
    right
    have hBefore : 3 * n + 2 < received recvs := by
      omega
    rcases received_of_lt hBefore with
      ⟨last, hLast, hReceived⟩
    have hLate :
        TIMEOUT < clock (2 * n + 3) - clock (2 * n + 2) := by
      by_contra hNot
      apply hRun.2
      refine ⟨hFields, ?_⟩
      have hEnd : 2 + 2 * n + 1 = 2 * n + 3 := by omega
      have hStart : 2 + 2 * n = 2 * n + 2 := by omega
      rw [hEnd, hStart]
      omega
    refine ⟨last, by simp [lastReceive, hFields, hLast],
      Or.inl ⟨⟨hFields, hLate⟩, hReceived, ?_⟩⟩
    simp [sessionExit, hFields]
  · cases hLast : recvs[received recvs]? with
    | none =>
        left
        simp [lastReceive, sessionExit, hFields, hLast]
    | some last =>
        right
        refine ⟨last, by simp [lastReceive, hFields, hLast],
          Or.inr ⟨fun hLate => hFields hLate.1,
            not_received_of_eq hLast, ?_⟩⟩
        simp [sessionExit, hFields, hLast]

/-
  The session of a handler. It inserts the records of the
  longest run of complete iterations, in order. It logs one
  line for the first id, before all insertions, if it got an
  id. When the session ends it logs one closing line, which
  tells why, closes its socket and counts its termination,
  each once and after the last insertion.
-/
theorem clientHandler_semantics
    (TIMEOUT : Int)
    (input : HandlerInput)
    (hFull : FullFields 0 input.recvs) :
    ∃ n, ∃ session : List (HandlerEffect V),
      CompleteRun TIMEOUT input.clock 2 input.recvs n ∧
        HandlerEffect.inserts session =
          (List.range n).map (sentRecord input.recvs) ∧
        (received input.recvs = 0 → session = []) ∧
        (1 ≤ received input.recvs →
          ∃ rest,
            session =
              .log (.sensorConnection
                (fieldAt 2 input.recvs 0)) :: rest ∧
              ∀ e ∈ rest, e.ofInsertion = true) ∧
        (lastReceive input.recvs n = none →
          clientHandler TIMEOUT input = session) ∧
        ∀ last,
          lastReceive input.recvs n = some last →
            ∃ msg,
              clientHandler TIMEOUT input =
                session ++
                  [.log msg, .tcpClose, .lockConn,
                    .countTermination, .unlockConn] ∧
                (msg =
                    .sensorTermination
                      (firstId input.recvs) ↔
                  last.closed = true) ∧
                (msg =
                    .sensorTimeout (firstId input.recvs) ↔
                  TimedOut TIMEOUT input.clock input.recvs
                    n) ∧
                (msg = .text "Peer connection error\n" ↔
                  last.closed = false ∧
                    ¬ TimedOut TIMEOUT input.clock
                      input.recvs n) := by
  rcases clientHandler_session (V := V) TIMEOUT input
      hFull with
    ⟨n, hRun, hEffects⟩
  refine
    ⟨n, openedLine input.recvs ++
        insertions (firstId input.recvs) input.recvs n,
      hRun, inserts_session _ _ n, ?_, ?_, ?_, ?_⟩
  · intro hNone
    rw [hRun.eq_zero hNone]
    simp [openedLine, insertions, hNone]
  · intro hSome
    refine ⟨insertions (firstId input.recvs) input.recvs n,
      ?_, ?_⟩
    · simp [openedLine, firstId, hSome]
    · intro e hMem
      simp only [insertions, List.mem_flatMap] at hMem
      rcases hMem with ⟨j, _, hMem⟩
      simp only [List.mem_cons, List.not_mem_nil,
        or_false] at hMem
      rcases hMem with rfl | rfl
      · rfl
      · rfl
  · intro hNone
    rcases sessionExit_lastReceive hRun
        (firstId input.recvs) with
      ⟨_, hExit⟩ | ⟨last, hLast, _⟩
    · rw [hEffects, sessionEffects, hExit, List.append_nil]
    · rw [hNone] at hLast
      cases hLast
  · intro last hLast
    rcases sessionExit_lastReceive hRun
        (firstId input.recvs) with
      ⟨hNone, _⟩ |
      ⟨last', hLast', ⟨hLate, hReceived, hExit⟩ |
        ⟨hTime, hReceived, hExit⟩⟩
    · rw [hNone] at hLast
      cases hLast
    · rw [hLast] at hLast'
      cases hLast'
      have hOpen : last.closed = false :=
        Recv.closed_of_received hReceived
      refine ⟨.sensorTimeout (firstId input.recvs), ?_, ?_⟩
      · rw [hEffects, sessionEffects, hExit]
        rfl
      · simp [hOpen, hLate]
    · rw [hLast] at hLast'
      cases hLast'
      cases hClosed : last.closed with
      | true =>
          refine
            ⟨.sensorTermination (firstId input.recvs), ?_, ?_⟩
          · rw [hEffects, sessionEffects, hExit,
              Recv.failure, hClosed]
            rfl
          · simp [hTime]
      | false =>
          refine ⟨.text "Peer connection error\n", ?_, ?_⟩
          · rw [hEffects, sessionEffects, hExit,
              Recv.failure, hClosed]
            rfl
          · simp [hTime]

end Handler

/-
  A session of one record, with a second one that takes too
  long.
-/
def slowSession : HandlerInput where
  recvs :=
    [.stored [15, 0], .stored [0, 0, 0, 0, 0, 0, 52, 64],
      .stored [1, 0, 0, 0, 0, 0, 0, 0], .stored [15, 0],
      .stored [0, 0, 0, 0, 0, 0, 52, 64],
      .stored [2, 0, 0, 0, 0, 0, 0, 0]]
  clock := fun k => if k < 5 then 0 else 6
  data := zeroBytes

theorem slowSession_fullFields :
    FullFields 0 slowSession.recvs := by
  intro j outcome hOutcome _
  match j, hOutcome with
  | 0, hOutcome => cases hOutcome; rfl
  | 1, hOutcome => cases hOutcome; rfl
  | 2, hOutcome => cases hOutcome; rfl
  | 3, hOutcome => cases hOutcome; rfl
  | 4, hOutcome => cases hOutcome; rfl
  | 5, hOutcome => cases hOutcome; rfl
  | j + 6, hOutcome => cases hOutcome

theorem clientHandler_semantics_slowSession :
    ∃ n, ∃ session : List (HandlerEffect (BitVec 64)),
      CompleteRun 5 slowSession.clock 2 slowSession.recvs n ∧
        HandlerEffect.inserts session =
          (List.range n).map
            (sentRecord slowSession.recvs) := by
  rcases clientHandler_semantics (V := BitVec 64) 5
      slowSession slowSession_fullFields with
    ⟨n, session, hRun, hInserts, _⟩
  exact ⟨n, session, hRun, hInserts⟩

end SensorGateway
