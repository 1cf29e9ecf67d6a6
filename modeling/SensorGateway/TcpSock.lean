import SensorGateway.Foundations.Bytes

/-
  The part of `tcpsock.c` that the connection manager uses
  on a connected socket, over the outcomes of the system
  calls.

  Key definitions include:
    * `TcpResult`
    * `Recv`
    * `tcpReceive`
-/

------------------------------------------------------------
-- Results and Receives
------------------------------------------------------------

namespace SensorGateway

open Foundations

/- The return codes of `tcpsock.h`. -/
inductive TcpResult where
  | noError
  | socketError
  | addressError
  | sockopError
  | connectionClosed
  | memoryError
deriving DecidableEq, Repr

/-
  An outcome of `recv`: the bytes it stored, none of them
  after the peer has closed, or a failure with `errno` equal
  to `ENOTCONN` or not.
-/
inductive Recv where
  | stored (bs : List (BitVec 8))
  | failed (enotconn : Bool)

/-
  `tcp_receive` on a bound socket into a field of `n` bytes,
  with the outcome of its `recv`. It returns its code and the
  field. A `recv` of fewer bytes than the field has is not an
  error.
-/
def tcpReceive
    {n : Nat}
    (buffer : Bytes n)
    (outcome : Recv) :
    TcpResult × Bytes n :=
  match outcome with
  | .stored [] => (.connectionClosed, buffer)
  | .stored bs => (.noError, buffer.overwrite bs)
  | .failed true => (.connectionClosed, buffer)
  | .failed false => (.sockopError, buffer)

/- Storing at least one byte is a success. -/
theorem tcpReceive_stored
    {n : Nat}
    (buffer : Bytes n)
    {bs : List (BitVec 8)}
    (hNe : bs ≠ []) :
    tcpReceive buffer (.stored bs) =
      (.noError, buffer.overwrite bs) := by
  cases bs with
  | nil => exact absurd rfl hNe
  | cons b bs => rfl

end SensorGateway
