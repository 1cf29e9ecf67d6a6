import SensorGateway.Foundations.Heap
import SensorGateway.Foundations.System
import SensorGateway.Stdio.Text
import SensorGateway.TcpSock

/-
  The functions of `tcpsock.c` over the memory that they
  allocate and the descriptors that they open.

  The outcomes of `malloc` and of the system calls are
  arguments. A call on a descriptor that is not open is
  recorded, as it may hit another file. Pointers to results
  are not NULL, other than those that the functions look at:
  `buffer` and `buf_size` of `tcp_send` and `tcp_receive`.

  Key definitions include:
    * `Tcpsock`
    * `TcpMemory`
    * `tcpPassiveOpen`
    * `tcpActiveOpen`
    * `tcpWaitForConnection`
    * `tcpClose`
    * `tcpSend`
-/

------------------------------------------------------------
-- Memory and Descriptors
------------------------------------------------------------

namespace SensorGateway

open Foundations

def MAGIC_COOKIE : Int :=
  0xA2E1CF37D35

def CHAR_IP_ADDR_LENGTH : Nat :=
  16

def MIN_PORT : Int :=
  1024

def MAX_PORT : Int :=
  65536

/- `struct tcpsock`; `ip_addr` points to characters. -/
@[ext] structure Tcpsock where
  cookie : Int
  sd : Int
  ipAddr : Option Nat
  port : Int

/-
  The descriptors that are open, and those on which a system
  call was made although they were not.
-/
structure Descriptors where
  opened : List Int
  misused : List Int

namespace Descriptors

/- A new descriptor. -/
def enter
    (d : Descriptors)
    (sd : Int) :
    Descriptors :=
  { d with opened := d.opened ++ [sd] }

/- A system call on a descriptor that stays open. -/
def use
    (d : Descriptors)
    (sd : Int) :
    Descriptors :=
  if sd ∈ d.opened then
    d
  else
    { d with misused := d.misused ++ [sd] }

/- `close`; the descriptor is released whatever it returns. -/
def close
    (d : Descriptors)
    (sd : Int) :
    Descriptors :=
  if sd ∈ d.opened then
    { d with opened := d.opened.erase sd }
  else
    { d with misused := d.misused ++ [sd] }

end Descriptors

/- What the sockets of a process take up. -/
structure TcpMemory where
  socks : Heap Tcpsock
  ipAddrs : Heap (List (BitVec 8))
  sds : Descriptors

namespace TcpMemory

/- A process without sockets. -/
def empty : TcpMemory where
  socks := Heap.empty
  ipAddrs := Heap.empty
  sds := { opened := [], misused := [] }

/- Stores to fields of `*s`. -/
def update
    (m : TcpMemory)
    (s : Option Nat)
    (f : Tcpsock → Tcpsock) :
    Except Fault TcpMemory := do
  let sock ← m.socks.read s
  let socks ← m.socks.write s (f sock)
  return { m with socks := socks }

/- `free(s)`. -/
def freeSock
    (m : TcpMemory)
    (s : Option Nat) :
    Except Fault TcpMemory := do
  let socks ← m.socks.free s
  return { m with socks := socks }

/- A system call on `s->sd`. -/
def useSd
    (m : TcpMemory)
    (s : Option Nat) :
    Except Fault TcpMemory := do
  let sock ← m.socks.read s
  return { m with sds := m.sds.use sock.sd }

/-
  `s->sd` gets what `socket` or `accept` returns: a new
  descriptor, or -1.
-/
def storeSd
    (m : TcpMemory)
    (s : Option Nat)
    (sd : Option Nat) :
    Except Fault TcpMemory :=
  match sd with
  | none => m.update s (fun sock => { sock with sd := -1 })
  | some sd => do
      let m ← m.update s (fun sock => { sock with sd := sd })
      return { m with sds := m.sds.enter sd }

end TcpMemory

/- What a call that opens a socket returns, and `*sock`. -/
abbrev TcpOpened :=
  TcpResult × Option Nat × TcpMemory

/- `tcp_sock_create`. -/
def tcpSockCreate
    (m : TcpMemory)
    (mallocOk : Bool) :
    Option Nat × TcpMemory :=
  if mallocOk then
    (some m.socks.next,
      { m with
          socks :=
            m.socks.alloc
              { cookie := 0, sd := -1, ipAddr := none
                port := -1 } })
  else
    (none, m)

/- `free(s); return` with a code; `*sock` is not stored to. -/
def failOpen
    (m : TcpMemory)
    (s : Option Nat)
    (result : TcpResult) :
    Except Fault TcpOpened := do
  let m ← m.freeSock s
  return (result, none, m)

/-
  The end of the two functions that open a connection: the
  address is copied to memory of its own, and the socket is
  marked as bound.
-/
def finishOpen
    (m : TcpMemory)
    (s : Option Nat)
    (mallocOk : Bool)
    (addr : InAddr)
    (port : BitVec 16) :
    Except Fault TcpOpened :=
  if mallocOk then do
    let p := inetNtoa addr
    let ipAddr := m.ipAddrs.next
    let ipAddrs :=
      m.ipAddrs.alloc (strncpy CHAR_IP_ADDR_LENGTH p)
    let m := { m with ipAddrs := ipAddrs }
    let m ←
      m.update s
        (fun sock =>
          { sock with
              ipAddr := some ipAddr
              port := port.toNat
              cookie := MAGIC_COOKIE })
    return (.noError, s, m)
  else do
    let m ← m.update s (fun sock => { sock with ipAddr := none })
    failOpen m s .memoryError

------------------------------------------------------------
-- Opening
------------------------------------------------------------

/- The outcomes of the calls of `tcp_passive_open`. -/
structure PassiveOpen where
  mallocOk : Bool
  socket : Option Nat
  bindOk : Bool
  listenOk : Bool

/- `tcp_passive_open`. -/
def tcpPassiveOpen
    (m : TcpMemory)
    (port : Int)
    (o : PassiveOpen) :
    Except Fault TcpOpened :=
  if port < MIN_PORT ∨ MAX_PORT < port then
    .ok (.addressError, none, m)
  else
    let (s, m) := tcpSockCreate m o.mallocOk
    if s = none then
      .ok (.memoryError, none, m)
    else do
      let m ← m.storeSd s o.socket
      let sock ← m.socks.read s
      if sock.sd < 0 then
        failOpen m s .sockopError
      else
        let m ← m.useSd s
        if o.bindOk = false then
          failOpen m s .sockopError
        else
          let m ← m.useSd s
          if o.listenOk = false then
            failOpen m s .sockopError
          else
            let m ←
              m.update s
                (fun sock =>
                  { sock with
                      ipAddr := none
                      port := port
                      cookie := MAGIC_COOKIE })
            return (.noError, s, m)

/-
  The outcomes of the calls of `tcp_active_open`; the name of
  the socket is an address and a port.
-/
structure ActiveOpen where
  mallocOk : Bool
  socket : Option Nat
  inetAtonOk : Bool
  connectOk : Bool
  getsockname : Option (InAddr × BitVec 16)
  ipMallocOk : Bool

/- `tcp_active_open`; `remote_ip` may be NULL. -/
def tcpActiveOpen
    (m : TcpMemory)
    (remotePort : Int)
    (remoteIp : Option (List (BitVec 8)))
    (o : ActiveOpen) :
    Except Fault TcpOpened :=
  if remotePort < MIN_PORT ∨ MAX_PORT < remotePort then
    .ok (.addressError, none, m)
  else if remoteIp = none then
    .ok (.addressError, none, m)
  else
    let (client, m) := tcpSockCreate m o.mallocOk
    if client = none then
      .ok (.memoryError, none, m)
    else do
      let m ← m.storeSd client o.socket
      let sock ← m.socks.read client
      if sock.sd < 0 then
        failOpen m client .sockopError
      else if o.inetAtonOk = false then
        failOpen m client .addressError
      else
        let m ← m.useSd client
        if o.connectOk = false then
          failOpen m client .sockopError
        else
          let m ← m.useSd client
          match o.getsockname with
          | none => failOpen m client .sockopError
          | some (addr, port) =>
              finishOpen m client o.ipMallocOk addr port

/-
  The outcomes of the calls of `tcp_wait_for_connection`: a
  descriptor comes with the peer's address and port.
-/
structure Accept where
  mallocOk : Bool
  accept : Option (Nat × InAddr × BitVec 16)
  ipMallocOk : Bool

/- `tcp_wait_for_connection`. -/
def tcpWaitForConnection
    (m : TcpMemory)
    (socket : Option Nat)
    (o : Accept) :
    Except Fault TcpOpened :=
  if socket = none then
    .ok (.socketError, none, m)
  else do
    let server ← m.socks.read socket
    if server.cookie ≠ MAGIC_COOKIE then
      return (.socketError, none, m)
    else
      let (s, m) := tcpSockCreate m o.mallocOk
      if s = none then
        return (.memoryError, none, m)
      else
        let m ← m.useSd socket
        match o.accept with
        | none => do
            let m ← m.storeSd s none
            failOpen m s .sockopError
        | some (sd, addr, port) => do
            let m ← m.storeSd s (some sd)
            finishOpen m s o.ipMallocOk addr port

------------------------------------------------------------
-- Closing
------------------------------------------------------------

/-
  `tcp_close` on the socket that `*socket` points to, with
  the outcome of `shutdown`. It returns `*socket`, too.
-/
def tcpClose
    (m : TcpMemory)
    (socket : Option Nat)
    (shutdownOk : Bool) :
    Except Fault TcpOpened :=
  if socket = none then
    .ok (.socketError, socket, m)
  else do
    let sock ← m.socks.read socket
    let m ←
      if sock.cookie = MAGIC_COOKIE then do
        let ipAddrs ← m.ipAddrs.free sock.ipAddr
        let m := { m with ipAddrs := ipAddrs }
        if 0 ≤ sock.sd then
          let m ← m.useSd socket
          if shutdownOk then
            .ok { m with sds := m.sds.close sock.sd }
          else
            .ok m
        else
          .ok m
      else
        .ok m
    let m ←
      m.update socket
        (fun _ =>
          { cookie := 0, sd := -1, ipAddr := none
            port := -1 })
    let m ← m.freeSock socket
    return (.noError, none, m)

------------------------------------------------------------
-- Using a Socket
------------------------------------------------------------

/-
  The outcome of `sendto`: how many bytes it took, or a
  failure with `errno` equal to `EPIPE` or `ENOTCONN`, or to
  another number.
-/
inductive Send where
  | sent (n : Nat)
  | failed (notConnected : Bool)

/- The code for an outcome of `sendto`, and `*buf_size`. -/
def Send.result : Send → TcpResult × Int
| .sent 0 => (.connectionClosed, 0)
| .sent (n + 1) => (.noError, n + 1)
| .failed true => (.connectionClosed, -1)
| .failed false => (.sockopError, -1)

/-
  A function that gives an error for a socket that is NULL or
  not bound, and else does something with the socket.
-/
def withBound
    {R : Type}
    (m : TcpMemory)
    (socket : Option Nat)
    (invalid : R)
    (valid : Tcpsock → Except Fault (R × TcpMemory)) :
    Except Fault (R × TcpMemory) :=
  if socket = none then
    .ok (invalid, m)
  else do
    let sock ← m.socks.read socket
    if sock.cookie ≠ MAGIC_COOKIE then
      return (invalid, m)
    else
      valid sock

/-
  `*buf_size = 0` for want of a buffer or of a size. It
  follows `buf_size` also where that is the pointer that is
  NULL.
-/
def storeNoSize
    (bufSize : Option Int) :
    Except Fault (Option Int) :=
  if bufSize = none then
    .error .nullPointer
  else
    .ok (some 0)

/-
  `tcp_send`; `buffer` and `buf_size` may be NULL. It returns
  its code and `*buf_size`.
-/
def tcpSend
    (m : TcpMemory)
    (socket : Option Nat)
    (buffer : Option (List (BitVec 8)))
    (bufSize : Option Int)
    (o : Send) :
    Except Fault ((TcpResult × Option Int) × TcpMemory) :=
  withBound m socket (.socketError, bufSize) fun _ =>
    if buffer = none ∨ bufSize = none then do
      let bufSize ← storeNoSize bufSize
      return ((.noError, bufSize), m)
    else do
      let m ← m.useSd socket
      return ((o.result.1, some o.result.2), m)

/- What `recv` returns. -/
def Recv.size : Recv → Int
| .stored bs => bs.length
| .failed _ => -1

/- What `tcp_receive` gives back. -/
structure Received (n : Nat) where
  code : TcpResult
  buffer : Option (Bytes n)
  bufSize : Option Int

/-
  `tcp_receive` into a buffer of the size `*buf_size`; both
  pointers may be NULL.
-/
def tcpReceiveOn
    {n : Nat}
    (m : TcpMemory)
    (socket : Option Nat)
    (buffer : Option (Bytes n))
    (sizeIsNull : Bool)
    (o : Recv) :
    Except Fault (Received n × TcpMemory) :=
  let bufSize := if sizeIsNull then none else some (n : Int)
  withBound m socket ⟨.socketError, buffer, bufSize⟩ fun _ =>
    match buffer, bufSize with
    | some bytes, some _ => do
        let m ← m.useSd socket
        let (code, bytes) := tcpReceive bytes o
        return (⟨code, some bytes, some o.size⟩, m)
    | _, _ => do
        let bufSize ← storeNoSize bufSize
        return (⟨.noError, buffer, bufSize⟩, m)

/- `tcp_get_ip_addr`, with the pointer that it stores. -/
def tcpGetIpAddr
    (m : TcpMemory)
    (socket : Option Nat) :
    Except Fault ((TcpResult × Option (Option Nat)) × TcpMemory) :=
  withBound m socket (.socketError, none) fun sock =>
    .ok ((.noError, some sock.ipAddr), m)

/- `tcp_get_port`. -/
def tcpGetPort
    (m : TcpMemory)
    (socket : Option Nat) :
    Except Fault ((TcpResult × Option Int) × TcpMemory) :=
  withBound m socket (.socketError, none) fun sock =>
    .ok ((.noError, some sock.port), m)

/- `tcp_get_sd`. -/
def tcpGetSd
    (m : TcpMemory)
    (socket : Option Nat) :
    Except Fault ((TcpResult × Option Int) × TcpMemory) :=
  withBound m socket (.socketError, none) fun sock =>
    .ok ((.noError, some sock.sd), m)

end SensorGateway
