import SensorGateway.Config
import SensorGateway.TcpSock

/-
  `client_handler` of `connmgr.c`: what one connection thread
  does, as a function of what it receives and of the clock.

  Nothing that the thread shares with others influences its
  course, so its whole effect on them is a list of effects in
  program order.

  Key definitions include:
    * `HandlerEffect`
    * `HandlerInput`
    * `clientLoop`
    * `clientClosing`
    * `clientHandler`
    * `HandlerEffect.inserts`
    * `ValidTail`

  Key theorems include:
    * `clientLoop_iteration`
    * `clientHandler_induction`
    * `ValidTail.of_append`
    * `clientHandler_validTail`
-/

------------------------------------------------------------
-- Effects and Inputs
------------------------------------------------------------

namespace SensorGateway

open Foundations

/-
  The steps of a handler that other threads can observe.
  `countTermination` is `conn_terminations++` and the signal
  that may follow it, between the lock and the unlock of
  `conn_mutex`.
-/
inductive HandlerEffect (V : Type) where
  | log (msg : LogMsg V)
  | sbufferInsert (data : SensorData V)
  | tcpClose
  | lockConn
  | countTermination
  | unlockConn

/- `data` of `client_handler`: a packed `sensor_data_t`. -/
structure RecordBytes where
  id : Bytes 2
  value : Bytes 8
  ts : Bytes 8

/- The sensor id in memory. -/
def RecordBytes.sensorId
    (data : RecordBytes) :
    SensorId :=
  data.id.decode

/- The record in memory. -/
def RecordBytes.record
    {V : Type}
    [SensorValue V]
    (data : RecordBytes) :
    SensorData V where
  id := data.sensorId
  value := SensorValue.ofBits data.value.decode
  ts := data.ts.decode

/-
  What one connection does to its handler: the outcomes of
  its receives, in order; the seconds that successive calls
  of `time` return; and the bytes that `data` happens to hold
  at first. Behind the last outcome the handler stays blocked
  in a receive.
-/
structure HandlerInput where
  recvs : List Recv
  clock : Nat → Int
  data : RecordBytes

/- `data` with all bytes zero. -/
def zeroBytes : RecordBytes where
  id := fun _ => 0
  value := fun _ => 0
  ts := fun _ => 0

/- A connection on which nothing arrives. -/
def HandlerInput.silent : HandlerInput where
  recvs := []
  clock := fun _ => 0
  data := zeroBytes

/- A connection that is closed before it sends anything. -/
def HandlerInput.closed : HandlerInput where
  recvs := [.stored []]
  clock := fun _ => 0
  data := zeroBytes

/- The variables that decide what follows the loop. -/
structure LoopExit where
  result : TcpResult
  hasTimeout : Bool
  id : SensorId

------------------------------------------------------------
-- The Handler
------------------------------------------------------------

variable {V : Type}

/- On the first receive of an id, the handler logs it. -/
def logOpened
    (loggedAlready : Bool)
    (sensorId : SensorId) :
    List (HandlerEffect V) :=
  if loggedAlready then
    []
  else
    [.log (.sensorConnection sensorId)]

variable [SensorValue V]

/-
  The `do`-`while` loop, with its variables; `k` counts the
  calls of `time` made so far. It returns the effects and,
  unless a receive blocks, how the loop was left.
-/
def clientLoop
    (TIMEOUT : Int)
    (clock : Nat → Int) :
    RecordBytes → Bool → SensorId → Nat → List Recv →
      List (HandlerEffect V) × Option LoopExit
| _, _, _, _, [] => ([], none)
| data, loggedAlready, id, k, outcome :: recvs =>
    let startTime := clock k
    let (result, bytes) := tcpReceive data.id outcome
    if result ≠ .noError then
      ([], some ⟨result, false, id⟩)
    else
      let data := { data with id := bytes }
      let opened := logOpened loggedAlready data.sensorId
      let id := if loggedAlready then id else data.sensorId
      match recvs with
      | [] => (opened, none)
      | outcome :: recvs =>
          let (result, bytes) :=
            tcpReceive data.value outcome
          if result ≠ .noError then
            (opened, some ⟨result, false, id⟩)
          else
            let data := { data with value := bytes }
            match recvs with
            | [] => (opened, none)
            | outcome :: recvs =>
                let (result, bytes) :=
                  tcpReceive data.ts outcome
                if result ≠ .noError then
                  (opened, some ⟨result, false, id⟩)
                else
                  let data := { data with ts := bytes }
                  let currentTime := clock (k + 1)
                  if currentTime - startTime > TIMEOUT then
                    (opened, some ⟨result, true, id⟩)
                  else
                    let (effects, exit) :=
                      clientLoop TIMEOUT clock data true id
                        (k + 2) recvs
                    (opened ++
                      [.sbufferInsert data.record,
                        .log (.dataInsert id)] ++ effects,
                      exit)

omit [SensorValue V] in
/- What follows the loop. -/
def clientClosing
    (exit : LoopExit) :
    List (HandlerEffect V) :=
  let msg :=
    if exit.result = .connectionClosed then
      .sensorTermination exit.id
    else if exit.hasTimeout then
      .sensorTimeout exit.id
    else
      .text "Peer connection error\n"
  [.log msg, .tcpClose, .lockConn, .countTermination,
    .unlockConn]

/-
  `client_handler`. Its clock was called twice, for the
  initial values of `start_time` and `current_time`, before
  the loop starts.
-/
def clientHandler
    (TIMEOUT : Int)
    (input : HandlerInput) :
    List (HandlerEffect V) :=
  let (effects, exit) :=
    clientLoop TIMEOUT input.clock input.data false 0 2
      input.recvs
  match exit with
  | none => effects
  | some exit => effects ++ clientClosing exit

omit [SensorValue V] in
/- The records that a list of effects inserts, in order. -/
def HandlerEffect.inserts
    (effects : List (HandlerEffect V)) :
    List (SensorData V) :=
  effects.filterMap (fun
    | .sbufferInsert data => some data
    | _ => none)

omit [SensorValue V] in
/- The effect counts the termination. -/
def HandlerEffect.isCount :
    HandlerEffect V → Bool
| .countTermination => true
| _ => false

omit [SensorValue V] in
/- The next effect counts the termination. -/
def HandlerEffect.countsNext :
    List (HandlerEffect V) → Bool
| .countTermination :: _ => true
| _ => false

omit [SensorValue V] in
/- One of the effects counts the termination. -/
def HandlerEffect.counted
    (effects : List (HandlerEffect V)) : Bool :=
  effects.any HandlerEffect.isCount

------------------------------------------------------------
-- Inserted Records
------------------------------------------------------------

namespace HandlerEffect

omit [SensorValue V] in
@[simp] theorem inserts_nil :
    inserts ([] : List (HandlerEffect V)) = [] := rfl

omit [SensorValue V] in
@[simp] theorem inserts_append
    (xs ys : List (HandlerEffect V)) :
    inserts (xs ++ ys) = inserts xs ++ inserts ys := by
  simp [inserts]

omit [SensorValue V] in
@[simp] theorem inserts_sbufferInsert
    (data : SensorData V)
    (xs : List (HandlerEffect V)) :
    inserts (.sbufferInsert data :: xs) =
      data :: inserts xs := rfl

omit [SensorValue V] in
@[simp] theorem inserts_log
    (msg : LogMsg V)
    (xs : List (HandlerEffect V)) :
    inserts (.log msg :: xs) = inserts xs := rfl

omit [SensorValue V] in
@[simp] theorem inserts_logOpened
    (loggedAlready : Bool)
    (sensorId : SensorId) :
    inserts (logOpened (V := V) loggedAlready sensorId) =
      [] := by
  cases loggedAlready with
  | false => rfl
  | true => rfl

omit [SensorValue V] in
@[simp] theorem inserts_clientClosing
    (exit : LoopExit) :
    inserts (clientClosing (V := V) exit) = [] := rfl

end HandlerEffect

/- The closing effects insert nothing. -/
theorem inserts_clientHandler
    (TIMEOUT : Int)
    (input : HandlerInput) :
    HandlerEffect.inserts
        (clientHandler (V := V) TIMEOUT input) =
      HandlerEffect.inserts
        (clientLoop (V := V) TIMEOUT input.clock input.data
          false 0 2 input.recvs).1 := by
  unfold clientHandler
  rcases clientLoop (V := V) TIMEOUT input.clock input.data
      false 0 2 input.recvs with
    ⟨effects, exit⟩
  cases exit with
  | none => rfl
  | some exit => simp

/- An iteration in which all receives store bytes in time. -/
theorem clientLoop_iteration
    (TIMEOUT : Int)
    (clock : Nat → Int)
    (data : RecordBytes)
    (loggedAlready : Bool)
    (id : SensorId)
    (k : Nat)
    {bs₁ bs₂ bs₃ : List (BitVec 8)}
    (recvs : List Recv)
    (h₁ : bs₁ ≠ [])
    (h₂ : bs₂ ≠ [])
    (h₃ : bs₃ ≠ [])
    (hClock : clock (k + 1) - clock k ≤ TIMEOUT) :
    let data' : RecordBytes :=
      { id := data.id.overwrite bs₁
        value := data.value.overwrite bs₂
        ts := data.ts.overwrite bs₃ }
    let id' :=
      if loggedAlready then id else data'.sensorId
    let rest :=
      clientLoop (V := V) TIMEOUT clock data' true id'
        (k + 2) recvs
    clientLoop (V := V) TIMEOUT clock data loggedAlready
        id k
        (.stored bs₁ :: .stored bs₂ :: .stored bs₃ ::
          recvs) =
      (logOpened loggedAlready data'.sensorId ++
          [.sbufferInsert data'.record,
            .log (.dataInsert id')] ++ rest.1,
        rest.2) := by
  have hNot : ¬ clock (k + 1) - clock k > TIMEOUT := by
    omega
  simp [clientLoop, tcpReceive_stored, h₁, h₂, h₃, hNot,
    RecordBytes.sensorId]

------------------------------------------------------------
-- Induction over a Course
------------------------------------------------------------

section Induction

variable {P : Option SensorId → List (HandlerEffect V) → Prop}

/-
  A property of the effects to come, which may depend on the
  id that the connection was logged with. It holds of the
  loop with what follows it, if it holds of what follows it,
  and the line on the id and the iterations keep it.
-/
theorem clientLoop_append_induction
    (TIMEOUT : Int)
    (clock : Nat → Int)
    (data : RecordBytes)
    (loggedAlready : Bool)
    (id : SensorId)
    (k : Nat)
    (recvs : List Recv)
    {rest : List (HandlerEffect V)}
    (hRest : ∀ opened, P opened rest)
    (hOpen :
      ∀ id rest,
        P (some id) rest →
          P none (.log (.sensorConnection id) :: rest))
    (hIteration :
      ∀ id data rest,
        P (some id) rest →
          P (some id)
            (.sbufferInsert data :: .log (.dataInsert id) ::
              rest)) :
    P (if loggedAlready then some id else none)
      ((clientLoop (V := V) TIMEOUT clock data
        loggedAlready id k recvs).1 ++ rest) := by
  have hOpened :
      ∀ loggedAlready id sensorId rest,
        P (some (if loggedAlready then id else sensorId))
            rest →
          P (if loggedAlready then some id else none)
            (logOpened loggedAlready sensorId ++ rest) := by
    intro loggedAlready id sensorId rest hTail
    cases loggedAlready with
    | false => exact hOpen sensorId rest hTail
    | true => exact hTail
  fun_induction clientLoop (V := V) TIMEOUT clock data
      loggedAlready id k recvs with
  | case1 => exact hRest _
  | case2 => exact hRest _
  | case3 => exact hOpened _ _ _ _ (hRest _)
  | case4 => exact hOpened _ _ _ _ (hRest _)
  | case5 => exact hOpened _ _ _ _ (hRest _)
  | case6 => exact hOpened _ _ _ _ (hRest _)
  | case7 => exact hOpened _ _ _ _ (hRest _)
  | case8 =>
      rename_i effects exit hLoop ih
      simp only [List.append_assoc]
      rw [hLoop] at ih
      exact hOpened _ _ _ _ (hIteration _ _ _ ih)

/-
  The same for the whole handler: the property holds of its
  end, and of its closing effects.
-/
theorem clientHandler_induction
    (TIMEOUT : Int)
    (input : HandlerInput)
    (hNil : ∀ opened, P opened [])
    (hClosing : ∀ opened exit, P opened (clientClosing exit))
    (hOpen :
      ∀ id rest,
        P (some id) rest →
          P none (.log (.sensorConnection id) :: rest))
    (hIteration :
      ∀ id data rest,
        P (some id) rest →
          P (some id)
            (.sbufferInsert data :: .log (.dataInsert id) ::
              rest)) :
    P none (clientHandler TIMEOUT input) := by
  have hLoop :
      ∀ rest, (∀ opened, P opened rest) → _ :=
    fun _ hRest =>
      clientLoop_append_induction TIMEOUT input.clock
        input.data false 0 2 input.recvs hRest hOpen
        hIteration
  unfold clientHandler
  rcases hEq :
      clientLoop (V := V) TIMEOUT input.clock input.data
        false 0 2 input.recvs with
    ⟨effects, exit⟩
  rw [hEq] at hLoop
  cases exit with
  | none => simpa using hLoop [] hNil
  | some exit =>
      exact hLoop (clientClosing exit)
        (fun opened => hClosing opened exit)

end Induction

------------------------------------------------------------
-- The Order of the Effects
------------------------------------------------------------

omit [SensorValue V] in
/- What is left begins between the lock and the unlock. -/
def HandlerEffect.inSection :
    List (HandlerEffect V) → Bool
| .countTermination :: _ => true
| .unlockConn :: _ => true
| _ => false

/-
  What a handler may still have to do: its session, then the
  close of its socket, then its termination count between the
  lock and the unlock, then nothing.
-/
def ValidTail : List (HandlerEffect V) → Prop
| [] => True
| .log _ :: rest =>
    HandlerEffect.inSection rest = false ∧ ValidTail rest
| .sbufferInsert _ :: rest =>
    HandlerEffect.inSection rest = false ∧ ValidTail rest
| .tcpClose :: rest =>
    rest = [.lockConn, .countTermination, .unlockConn]
| .lockConn :: rest =>
    rest = [.countTermination, .unlockConn]
| .countTermination :: rest => rest = [.unlockConn]
| .unlockConn :: rest => rest = []

omit [SensorValue V] in
/- Dropping effects that are done leaves a valid rest. -/
theorem ValidTail.of_append
    (done : List (HandlerEffect V))
    {todo : List (HandlerEffect V)}
    (hValid : ValidTail (done ++ todo)) :
    ValidTail todo := by
  induction done with
  | nil => exact hValid
  | cons e done ih =>
      apply ih
      cases e with
      | log msg => exact hValid.2
      | sbufferInsert data => exact hValid.2
      | tcpClose =>
          have hRest : done ++ todo = _ := hValid
          rw [hRest]
          exact rfl
      | lockConn =>
          have hRest : done ++ todo = _ := hValid
          rw [hRest]
          exact rfl
      | countTermination =>
          have hRest : done ++ todo = _ := hValid
          rw [hRest]
          exact rfl
      | unlockConn =>
          have hRest : done ++ todo = _ := hValid
          rw [hRest]
          trivial

omit [SensorValue V] in
/- A termination that is counted leaves only the unlock. -/
theorem ValidTail.of_counted
    (done : List (HandlerEffect V))
    {todo : List (HandlerEffect V)}
    (hValid : ValidTail (done ++ todo))
    (hCounted : HandlerEffect.counted done = true) :
    todo = [.unlockConn] ∨ todo = [] := by
  induction done with
  | nil => cases hCounted
  | cons e done ih =>
      have hTail : ValidTail (done ++ todo) :=
        ValidTail.of_append [e] hValid
      cases e with
      | log msg => exact ih hTail hCounted
      | sbufferInsert data => exact ih hTail hCounted
      | tcpClose => exact ih hTail hCounted
      | lockConn => exact ih hTail hCounted
      | unlockConn => exact ih hTail hCounted
      | countTermination =>
          have hRest : done ++ todo = [.unlockConn] := hValid
          cases done with
          | nil => exact Or.inl hRest
          | cons e' done =>
              have hNil : done ++ todo = [] :=
                (List.cons.inj hRest).2
              exact Or.inr (List.append_eq_nil_iff.mp hNil).2

/-
  A handler starts outside of its section; it closes, counts
  itself and ends, in this order.
-/
theorem clientHandler_validTail
    (TIMEOUT : Int)
    (input : HandlerInput) :
    let effects := clientHandler (V := V) TIMEOUT input
    HandlerEffect.inSection effects = false ∧
      ValidTail effects := by
  apply clientHandler_induction
    (P := fun _ effects =>
      HandlerEffect.inSection effects = false ∧
        ValidTail effects)
  · exact fun _ => ⟨rfl, trivial⟩
  · exact fun _ exit => ⟨rfl, rfl, rfl⟩
  · exact fun _ _ hRest => ⟨rfl, hRest⟩
  · exact fun _ _ _ hRest => ⟨rfl, rfl, hRest⟩

end SensorGateway
