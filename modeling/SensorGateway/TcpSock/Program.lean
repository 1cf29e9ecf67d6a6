import SensorGateway.TcpSock.Api

/-
  A program that calls the functions of `tcpsock.c`, and what
  it may think of them: a table of endpoints.

  The program keeps each socket that it opens in a variable
  of its own; it calls in any order and with any variables,
  also those that are NULL since the socket was closed.

  Key definitions include:
    * `TcpCall`
    * `TcpProgram`
    * `tcpProgram`
    * `Opening`
    * `EndpointTable`
-/

------------------------------------------------------------
-- Calls
------------------------------------------------------------

namespace SensorGateway

open Foundations

/- A call, by the index of its socket's variable. -/
inductive TcpCall where
  | passiveOpen (port : Int) (o : PassiveOpen)
  | activeOpen
      (remotePort : Int)
      (remoteIp : Option (List (BitVec 8)))
      (o : ActiveOpen)
  | waitForConnection (i : Nat) (o : Accept)
  | send
      (i : Nat)
      (buffer : Option (List (BitVec 8)))
      (bufSize : Option Int)
      (o : Send)
  | receive
      {n : Nat}
      (i : Nat)
      (buffer : Option (Bytes n))
      (sizeIsNull : Bool)
      (o : Recv)
  | getIpAddr (i : Nat)
  | getPort (i : Nat)
  | getSd (i : Nat)
  | close (i : Nat) (shutdownOk : Bool)

/- The descriptor that `socket` or `accept` returns. -/
def TcpCall.newSd : TcpCall → Option Nat
| .passiveOpen _ o => o.socket
| .activeOpen _ _ o => o.socket
| .waitForConnection _ o => o.accept.map Prod.fst
| _ => none

/-
  What the caller gets: the code, and what was stored through
  its pointers, where an address is read as a string.
-/
inductive TcpReply where
  | code (result : TcpResult)
  | sent (result : TcpResult) (bufSize : Option Int)
  | received
      (result : TcpResult)
      (buffer : Option (List (BitVec 8)))
      (bufSize : Option Int)
  | ipAddr
      (result : TcpResult)
      (string : Option (Option (List (BitVec 8))))
  | number (result : TcpResult) (value : Option Int)
deriving DecidableEq

------------------------------------------------------------
-- The Program
------------------------------------------------------------

/- A program with its variables, and how it ended. -/
structure TcpProgram where
  memory : TcpMemory
  handles : List (Option Nat)
  replies : List TcpReply
  fault : Option Fault

namespace TcpProgram

def start : TcpProgram where
  memory := TcpMemory.empty
  handles := []
  replies := []
  fault := none

/- The variable of a socket. -/
def handle
    (s : TcpProgram)
    (i : Nat) :
    Option Nat :=
  (s.handles[i]?).join

/- A call returns. -/
def reply
    (s : TcpProgram)
    (m : TcpMemory)
    (r : TcpReply) :
    TcpProgram :=
  { s with memory := m, replies := s.replies ++ [r] }

/- A call that opens a socket returns. -/
def opened
    (s : TcpProgram)
    (result : TcpOpened) :
    TcpProgram :=
  let (code, sock, m) := result
  let s := s.reply m (.code code)
  if code = .noError then
    { s with handles := s.handles ++ [sock] }
  else
    s

/- The string behind a pointer that may be NULL. -/
def stringAt
    (m : TcpMemory)
    (p : Option Nat) :
    Except Fault (Option (List (BitVec 8))) :=
  if p = none then
    .ok none
  else do
    let chars ← m.ipAddrs.read p
    return some (cString chars)

/- The program makes a call. -/
def call
    (s : TcpProgram) :
    TcpCall → Except Fault TcpProgram
| .passiveOpen port o => do
    let result ← tcpPassiveOpen s.memory port o
    return s.opened result
| .activeOpen remotePort remoteIp o => do
    let result ←
      tcpActiveOpen s.memory remotePort remoteIp o
    return s.opened result
| .waitForConnection i o => do
    let result ←
      tcpWaitForConnection s.memory (s.handle i) o
    return s.opened result
| .send i buffer bufSize o => do
    let ((code, bufSize), m) ←
      tcpSend s.memory (s.handle i) buffer bufSize o
    return s.reply m (.sent code bufSize)
| .receive i buffer sizeIsNull o => do
    let (r, m) ←
      tcpReceiveOn s.memory (s.handle i) buffer sizeIsNull o
    return s.reply m
      (.received r.code (r.buffer.map Bytes.toList) r.bufSize)
| .getIpAddr i => do
    let ((code, p), m) ← tcpGetIpAddr s.memory (s.handle i)
    match p with
    | none => return s.reply m (.ipAddr code none)
    | some p =>
        let string ← stringAt m p
        return s.reply m (.ipAddr code (some string))
| .getPort i => do
    let ((code, port), m) ← tcpGetPort s.memory (s.handle i)
    return s.reply m (.number code port)
| .getSd i => do
    let ((code, sd), m) ← tcpGetSd s.memory (s.handle i)
    return s.reply m (.number code sd)
| .close i shutdownOk => do
    let (code, sock, m) ←
      tcpClose s.memory (s.handle i) shutdownOk
    let s := s.reply m (.code code)
    return { s with handles := s.handles.set i sock }

end TcpProgram

/- The call follows a `buf_size` that is NULL. -/
def TcpCall.FollowsNull
    (s : TcpProgram) :
    TcpCall → Prop
| .send i _ bufSize _ => s.handle i ≠ none ∧ bufSize = none
| .receive i _ sizeIsNull _ =>
    s.handle i ≠ none ∧ sizeIsNull = true
| _ => False

/-
  The program, call after call. A new descriptor is one that
  is not open; a fault ends the program.
-/
def tcpProgram :
    System TcpProgram TcpCall where
  init := TcpProgram.start
  step := fun s c =>
    if s.fault ≠ none then
      none
    else if
        ∃ sd, sd ∈ c.newSd ∧ (sd : Int) ∈ s.memory.sds.opened then
      none
    else
      match s.call c with
      | .error f => some { s with fault := some f }
      | .ok t => some t

------------------------------------------------------------
-- Endpoints
------------------------------------------------------------

/-
  What a socket is for its owner: a descriptor, the address
  that `tcp_get_ip_addr` tells, and a port.
-/
structure Endpoint where
  sd : Nat
  address : Option InAddr
  port : Int

/-
  How an attempt to open a socket ends, and the descriptor
  that it got by then.
-/
structure Opening where
  obtained : Option Nat
  result : Except TcpResult Endpoint

namespace Opening

/- The code that the call returns. -/
def code
    (o : Opening) :
    TcpResult :=
  match o.result with
  | .error code => code
  | .ok _ => .noError

/- The endpoint, if there is one. -/
def endpoint
    (o : Opening) :
    Option Endpoint :=
  o.result.toOption

/-
  The descriptor that stays open without an owner: an attempt
  that fails behind `socket` or `accept` does not close it.
-/
def lost
    (o : Opening) :
    Option Nat :=
  if o.endpoint = none then o.obtained else none

end Opening

/- The end of the two that open a connection. -/
def connectedOpening
    (sd : Nat)
    (mallocOk : Bool)
    (addr : InAddr)
    (port : BitVec 16) :
    Opening :=
  { obtained := some sd
    result :=
      if mallocOk then
        .ok { sd := sd, address := some addr, port := port.toNat }
      else
        .error .memoryError }

def PassiveOpen.opening
    (port : Int)
    (o : PassiveOpen) :
    Opening :=
  if port < MIN_PORT ∨ MAX_PORT < port then
    { obtained := none, result := .error .addressError }
  else if o.mallocOk = false then
    { obtained := none, result := .error .memoryError }
  else
    match o.socket with
    | none =>
        { obtained := none, result := .error .sockopError }
    | some sd =>
        { obtained := some sd
          result :=
            if o.bindOk && o.listenOk then
              .ok { sd := sd, address := none, port := port }
            else
              .error .sockopError }

def ActiveOpen.opening
    (remotePort : Int)
    (remoteIp : Option (List (BitVec 8)))
    (o : ActiveOpen) :
    Opening :=
  if remotePort < MIN_PORT ∨ MAX_PORT < remotePort ∨
      remoteIp = none then
    { obtained := none, result := .error .addressError }
  else if o.mallocOk = false then
    { obtained := none, result := .error .memoryError }
  else
    match o.socket with
    | none =>
        { obtained := none, result := .error .sockopError }
    | some sd =>
        if o.inetAtonOk = false then
          { obtained := some sd, result := .error .addressError }
        else if o.connectOk = false then
          { obtained := some sd, result := .error .sockopError }
        else
          match o.getsockname with
          | none =>
              { obtained := some sd
                result := .error .sockopError }
          | some (addr, port) =>
              connectedOpening sd o.ipMallocOk addr port

def Accept.opening
    (o : Accept) :
    Opening :=
  if o.mallocOk = false then
    { obtained := none, result := .error .memoryError }
  else
    match o.accept with
    | none =>
        { obtained := none, result := .error .sockopError }
    | some (sd, addr, port) =>
        connectedOpening sd o.ipMallocOk addr port

/-
  The table of endpoints, the replies so far, and the
  descriptors that were lost.
-/
structure EndpointTable where
  endpoints : List (Option Endpoint)
  replies : List TcpReply
  lost : List Int

namespace EndpointTable

def start : EndpointTable where
  endpoints := []
  replies := []
  lost := []

def endpoint
    (t : EndpointTable)
    (i : Nat) :
    Option Endpoint :=
  (t.endpoints[i]?).join

def reply
    (t : EndpointTable)
    (r : TcpReply) :
    EndpointTable :=
  { t with replies := t.replies ++ [r] }

/- An endpoint is entered, or a descriptor may be lost. -/
def opened
    (t : EndpointTable)
    (o : Opening) :
    EndpointTable where
  endpoints := t.endpoints ++ (o.endpoint.map some).toList
  replies := t.replies ++ [.code o.code]
  lost := t.lost ++ (o.lost.map Int.ofNat).toList

/- An endpoint is removed; see `shutdown` in `tcp_close`. -/
def closed
    (t : EndpointTable)
    (i : Nat)
    (e : Endpoint)
    (shutdownOk : Bool) :
    EndpointTable where
  endpoints := t.endpoints.set i none
  replies := t.replies ++ [.code .noError]
  lost := t.lost ++ (if shutdownOk then [] else [(e.sd : Int)])

/-
  What a call means for the table. A call that follows a NULL
  pointer does not return.
-/
def call
    (t : EndpointTable) :
    TcpCall → EndpointTable
| .passiveOpen port o => t.opened (o.opening port)
| .activeOpen remotePort remoteIp o =>
    t.opened (o.opening remotePort remoteIp)
| .waitForConnection i o =>
    match t.endpoint i with
    | none => t.reply (.code .socketError)
    | some _ => t.opened o.opening
| .send i buffer bufSize o =>
    match t.endpoint i with
    | none => t.reply (.sent .socketError bufSize)
    | some _ =>
        if bufSize = none then
          t
        else if buffer = none then
          t.reply (.sent .noError (some 0))
        else
          t.reply (.sent o.result.1 (some o.result.2))
| .receive (n := n) i buffer sizeIsNull o =>
    match t.endpoint i with
    | none =>
        t.reply
          (.received .socketError (buffer.map Bytes.toList)
            (if sizeIsNull then none else some (n : Int)))
    | some _ =>
        if sizeIsNull then
          t
        else
          match buffer with
          | none => t.reply (.received .noError none (some 0))
          | some bytes =>
              let (code, bytes) := tcpReceive bytes o
              t.reply
                (.received code (some bytes.toList)
                  (some o.size))
| .getIpAddr i =>
    match t.endpoint i with
    | none => t.reply (.ipAddr .socketError none)
    | some e =>
        t.reply (.ipAddr .noError (some (e.address.map inetNtoa)))
| .getPort i =>
    match t.endpoint i with
    | none => t.reply (.number .socketError none)
    | some e => t.reply (.number .noError (some e.port))
| .getSd i =>
    match t.endpoint i with
    | none => t.reply (.number .socketError none)
    | some e => t.reply (.number .noError (some e.sd))
| .close i shutdownOk =>
    match t.endpoint i with
    | none => t.reply (.code .socketError)
    | some e => t.closed i e shutdownOk

/- The table after a program's calls. -/
def after
    (calls : List TcpCall) :
    EndpointTable :=
  calls.foldl call start

end EndpointTable

end SensorGateway
