import SensorGateway.ConnMgr.ClientSession

/-
  The lines with which a handler opens and closes its
  connection in the log.

  The id of the closing line is the one that the opening line
  was logged with. There is a closing line without an opening
  line exactly if already the first receive reports a closed
  connection: `logged_already` is not asked behind the loop.

  Key definitions include:
    * `HandlerEffect.openedSensor`
    * `HandlerEffect.closedSensor`
    * `LogPaired`

  Key theorems include:
    * `clientLoop_first`
    * `clientLoop_silent`
    * `clientHandler_logPaired_iff`
    * `logPaired_broken`
-/

------------------------------------------------------------
-- Opening and Closing Lines
------------------------------------------------------------

namespace SensorGateway

open Foundations

variable {V : Type}

namespace HandlerEffect

/- The sensor of a line on a new connection. -/
def openedSensor :
    HandlerEffect V → Option SensorId
| .log (.sensorConnection sensorNodeID) => some sensorNodeID
| _ => none

/- The sensor of a line on a termination or a timeout. -/
def closedSensor :
    HandlerEffect V → Option SensorId
| .log (.sensorTermination sensorNodeID) =>
    some sensorNodeID
| .log (.sensorTimeout sensorNodeID) => some sensorNodeID
| _ => none

/- The effect neither opens nor closes a connection. -/
def Silent
    (e : HandlerEffect V) : Prop :=
  e.openedSensor = none ∧ e.closedSensor = none

end HandlerEffect

/-
  A closing line comes behind an opening line of the same
  sensor, and at no time there are more closing lines of a
  sensor than opening lines.
-/
structure LogPaired
    (effects : List (HandlerEffect V)) : Prop where
  opened_before :
    ∀ before e after X,
      effects = before ++ e :: after →
        e.closedSensor = some X →
          ∃ o ∈ before, o.openedSensor = some X
  at_most_one :
    ∀ before after X,
      effects = before ++ after →
        before.countP (fun e => e.closedSensor = some X) ≤
          before.countP (fun e => e.openedSensor = some X)

/- Effects that close nothing are paired. -/
theorem LogPaired.of_not_closed
    {effects : List (HandlerEffect V)}
    (hNone : ∀ e ∈ effects, e.closedSensor = none) :
    LogPaired effects where
  opened_before := by
    intro before e after X hSplit hClosed
    rw [hNone e (by simp [hSplit])] at hClosed
    cases hClosed
  at_most_one := by
    intro before after X hSplit
    have hZero :
        before.countP (fun e => e.closedSensor = some X) =
          0 := by
      rw [List.countP_eq_zero]
      intro e hMem
      simp [hNone e (by simp [hSplit, hMem])]
    omega

section Session

variable {opening closing : HandlerEffect V}
variable {middle rest : List (HandlerEffect V)}
variable {X : SensorId}

/- The closing lines in effects of which one may close. -/
theorem countP_closed_le
    (hOpening : opening.closedSensor = none)
    (hMiddle : ∀ e ∈ middle, e.Silent)
    (hClosing :
      ∀ Y, closing.closedSensor = some Y → Y = X)
    (hRest : ∀ e ∈ rest, e.Silent)
    (Y : SensorId) :
    (opening :: middle ++ closing :: rest).countP
        (fun e => e.closedSensor = some Y) ≤
      if Y = X then 1 else 0 := by
  have hSilent :
      ∀ es : List (HandlerEffect V),
        (∀ e ∈ es, e.Silent) →
          es.countP (fun e => e.closedSensor = some Y) =
            0 := by
    intro es hEs
    rw [List.countP_eq_zero]
    intro e hMem
    simp [(hEs e hMem).2]
  rw [List.cons_append, List.countP_cons,
    List.countP_append, List.countP_cons, hSilent _ hMiddle,
    hSilent _ hRest]
  have hFirst :
      ¬ decide (opening.closedSensor = some Y) = true := by
    simp [hOpening]
  rw [if_neg hFirst]
  by_cases hY : closing.closedSensor = some Y
  · simp [hY, hClosing Y hY]
  · simp [hY]

/-
  An opening line, effects that neither open nor close
  anything, and then one closing line of the same sensor.
-/
theorem LogPaired.of_session
    (hOpened : opening.openedSensor = some X)
    (hOpening : opening.closedSensor = none)
    (hMiddle : ∀ e ∈ middle, e.Silent)
    (hClosing :
      ∀ Y, closing.closedSensor = some Y → Y = X)
    (hRest : ∀ e ∈ rest, e.Silent) :
    LogPaired (opening :: middle ++ closing :: rest) := by
  have hCount :=
    countP_closed_le hOpening hMiddle hClosing hRest
  constructor
  · intro before e after Y hSplit hClosed
    -- an effect that closes is counted, so it closes `X`
    have hPos :
        0 < (before ++ e :: after).countP
          (fun e => e.closedSensor = some Y) :=
      List.countP_pos_iff.mpr
        ⟨e, by simp, by simp [hClosed]⟩
    rw [← hSplit] at hPos
    have hY : Y = X := by
      by_contra hNe
      have hZero := hCount Y
      rw [if_neg hNe] at hZero
      omega
    cases before with
    | nil =>
        cases hSplit
        rw [hOpening] at hClosed
        cases hClosed
    | cons b before =>
        rw [List.cons_append, List.cons_append] at hSplit
        rw [← (List.cons.inj hSplit).1]
        exact ⟨opening, List.mem_cons_self,
          by rw [hOpened, hY]⟩
  · intro before after Y hSplit
    have hLe := hCount Y
    rw [hSplit, List.countP_append] at hLe
    cases before with
    | nil => exact Nat.le_refl _
    | cons b before =>
        rw [List.cons_append, List.cons_append] at hSplit
        rw [← (List.cons.inj hSplit).1] at hLe ⊢
        by_cases hY : Y = X
        · rw [if_pos hY] at hLe
          have hPos :
              0 < (opening :: before).countP
                (fun e => e.openedSensor = some Y) :=
            List.countP_pos_iff.mpr
              ⟨opening, List.mem_cons_self,
                by simp [hOpened, hY]⟩
          omega
        · rw [if_neg hY] at hLe
          omega

end Session

------------------------------------------------------------
-- The Lines of a Handler
------------------------------------------------------------

variable [SensorValue V]

/-
  Behind the first receive, the loop goes on as one that has
  logged its connection.
-/
theorem clientLoop_first
    (TIMEOUT : Int)
    (clock : Nat → Int)
    (data : RecordBytes)
    (id : SensorId)
    (k : Nat)
    {outcome : Recv}
    (hReceived : outcome.received = true)
    (recvs : List Recv) :
    let X := (data.id.overwrite outcome.bytes).decode
    let loop :=
      clientLoop (V := V) TIMEOUT clock data true X k
        (outcome :: recvs)
    clientLoop (V := V) TIMEOUT clock data false id k
        (outcome :: recvs) =
      (.log (.sensorConnection X) :: loop.1, loop.2) := by
  simp only [clientLoop,
    Recv.tcpReceive_of_received hReceived, ne_eq,
    not_true_eq_false, if_false, Bool.false_eq_true,
    if_true, logOpened, RecordBytes.sensorId]
  cases recvs with
  | nil => rfl
  | cons second recvs =>
      simp only
      split
      · rfl
      · cases recvs with
        | nil => rfl
        | cons third recvs =>
            simp only
            split
            · rfl
            · split
              · rfl
              · rfl

/-
  A loop that has logged its connection is silent, and is left
  with the id that it was logged with.
-/
theorem clientLoop_silent
    (TIMEOUT : Int)
    (clock : Nat → Int)
    (data : RecordBytes)
    (id : SensorId)
    (k : Nat)
    (recvs : List Recv) :
    let loop :=
      clientLoop (V := V) TIMEOUT clock data true id k recvs
    (∀ e ∈ loop.1, e.Silent) ∧
      ∀ exit, loop.2 = some exit → exit.id = id := by
  have hAll :
      ∀ loggedAlready,
        loggedAlready = true →
          let loop :=
            clientLoop (V := V) TIMEOUT clock data
              loggedAlready id k recvs
          (∀ e ∈ loop.1, e.Silent) ∧
            ∀ exit, loop.2 = some exit → exit.id = id := by
    intro loggedAlready hLogged
    fun_induction clientLoop (V := V) TIMEOUT clock data
        loggedAlready id k recvs with
    | case8 =>
        -- an iteration inserts its record and reports on it
        rename_i hLoop ih
        subst hLogged
        rcases ih rfl with ⟨hSilent, hExit⟩
        rw [hLoop] at hSilent hExit
        refine ⟨?_, hExit⟩
        intro e hMem
        simp +zetaDelta only [logOpened, if_true,
          List.nil_append, List.cons_append, List.mem_cons]
          at hMem
        rcases hMem with rfl | rfl | hMem
        · exact ⟨rfl, rfl⟩
        · exact ⟨rfl, rfl⟩
        · exact hSilent e hMem
    | _ =>
        subst hLogged
        simp +zetaDelta [logOpened]
  exact hAll true rfl

/- What a handler does whose first receive succeeds. -/
theorem logPaired_of_received
    (TIMEOUT : Int)
    (input : HandlerInput)
    {outcome : Recv}
    {recvs : List Recv}
    (hRecvs : input.recvs = outcome :: recvs)
    (hReceived : outcome.received = true) :
    LogPaired (clientHandler (V := V) TIMEOUT input) := by
  have hFirst :=
    clientLoop_first (V := V) TIMEOUT input.clock input.data
      0 2 hReceived recvs
  have hSilent :=
    clientLoop_silent (V := V) TIMEOUT input.clock
      input.data
      (input.data.id.overwrite outcome.bytes).decode 2
      (outcome :: recvs)
  rw [← hRecvs] at hFirst hSilent
  simp only at hFirst hSilent
  rw [clientHandler, hFirst]
  rcases hLoop :
      clientLoop (V := V) TIMEOUT input.clock input.data true
        (input.data.id.overwrite outcome.bytes).decode 2
        input.recvs with
    ⟨effects, exit⟩
  rw [hLoop] at hSilent
  rcases hSilent with ⟨hEffects, hExit⟩
  cases exit with
  | none =>
      apply LogPaired.of_not_closed
      intro e hMem
      rcases List.mem_cons.mp hMem with rfl | hMem
      · rfl
      · exact (hEffects e hMem).2
  | some exit =>
      simp only [clientClosing]
      apply LogPaired.of_session rfl rfl hEffects
      · intro Y hClosed
        have hId := hExit exit rfl
        split at hClosed
        · cases hClosed
          exact hId
        · split at hClosed
          · cases hClosed
            exact hId
          · cases hClosed
      · intro e hMem
        simp only [List.mem_cons, List.not_mem_nil,
          or_false] at hMem
        rcases hMem with rfl | rfl | rfl | rfl
        all_goals exact ⟨rfl, rfl⟩

/-
  The closing line of a handler is paired with an opening
  line, for all its receives and readings of the clock, if and
  only if the first receive does not report that the
  connection is closed.
-/
theorem clientHandler_logPaired_iff
    (TIMEOUT : Int)
    (input : HandlerInput) :
    LogPaired (clientHandler (V := V) TIMEOUT input) ↔
      ∀ outcome ∈ input.recvs.head?,
        outcome.closed = false := by
  cases hRecvs : input.recvs with
  | nil =>
      have hNothing :
          clientHandler (V := V) TIMEOUT input = [] := by
        simp [clientHandler, hRecvs, clientLoop]
      rw [hNothing]
      constructor
      · intro _ outcome hMem
        cases hMem
      · intro _
        exact LogPaired.of_not_closed
          (fun e hMem => by cases hMem)
  | cons outcome recvs =>
      simp only [List.head?_cons, Option.mem_def,
        Option.some.injEq, forall_eq']
      cases hReceived : outcome.received with
      | true =>
          have hPaired :=
            logPaired_of_received (V := V) TIMEOUT input
              hRecvs hReceived
          exact iff_of_true hPaired
            (Recv.closed_of_received hReceived)
      | false =>
          have hClosing :
              clientHandler (V := V) TIMEOUT input =
                clientClosing
                  ⟨outcome.failure, false, 0⟩ := by
            rw [clientHandler, hRecvs, clientLoop,
              Recv.tcpReceive_of_not_received hReceived]
            simp [Recv.failure_ne_noError]
          rw [hClosing]
          cases hClosed : outcome.closed with
          | true =>
              constructor
              · intro hPaired
                rcases hPaired.opened_before [] _ _ 0 rfl
                    (by simp [Recv.failure, hClosed,
                      HandlerEffect.closedSensor]) with
                  ⟨o, hMem, _⟩
                cases hMem
              · intro hNot
                cases hNot
          | false =>
              refine iff_of_true ?_ rfl
              apply LogPaired.of_not_closed
              intro e hMem
              simp only [clientClosing, Recv.failure,
                hClosed, Bool.false_eq_true, if_false,
                reduceCtorEq, List.mem_cons,
                List.not_mem_nil, or_false] at hMem
              rcases hMem with rfl | rfl | rfl | rfl | rfl
              all_goals rfl

/- A client that connects and closes without sending. -/
theorem logPaired_broken :
    ¬ LogPaired
      (clientHandler (V := BitVec 64) 5
        { HandlerInput.silent with
            recvs := [.stored []] }) := by
  intro hPaired
  rcases hPaired.opened_before []
      (.log (.sensorTermination 0)) _ 0 rfl rfl with
    ⟨o, hMem, _⟩
  cases hMem

end SensorGateway
