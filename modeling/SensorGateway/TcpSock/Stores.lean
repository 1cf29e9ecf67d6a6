import SensorGateway.Foundations.HeapTable
import SensorGateway.TcpSock.Program

/-
  What the memory and the descriptors of a process hold: a
  socket and the characters of its address for each entry of
  a list, and some descriptors that no entry has.

  An entry is described as soon as its memory is allocated,
  so that the functions that open a socket can be followed
  step by step.

  Key definitions include:
    * `TcpEntry`
    * `TcpMemory.Stores`

  Key theorems include:
    * `TcpMemory.Stores.create`
    * `TcpMemory.Stores.storeSd`
    * `TcpMemory.Stores.failOpen`
    * `TcpMemory.Stores.finishOpen`
    * `TcpMemory.Stores.close`
-/

------------------------------------------------------------
-- Entries
------------------------------------------------------------

namespace SensorGateway

open Foundations

/-
  A socket in memory: its address, its fields, and the block
  of its characters with what is stored there.
-/
structure TcpEntry where
  address : Nat
  sock : Tcpsock
  block : Option (Nat × List (BitVec 8))

namespace TcpEntry

/- The cell of the socket. -/
def cell
    (e : TcpEntry) :
    Nat × Tcpsock :=
  (e.address, e.sock)

/- The descriptor of the socket, once it has one. -/
def descriptor
    (e : TcpEntry) :
    Option Int :=
  if 0 ≤ e.sock.sd then some e.sock.sd else none

end TcpEntry

/-
  The process holds the entries, and of the open descriptors
  only the lost ones belong to no entry.
-/
structure TcpMemory.Stores
    (m : TcpMemory)
    (entries : List TcpEntry)
    (lost : List Int) : Prop where
  socks : m.socks.Holds (entries.map TcpEntry.cell)
  ipAddrs : m.ipAddrs.Holds (entries.filterMap TcpEntry.block)
  pointers :
    ∀ e ∈ entries, e.sock.ipAddr = e.block.map Prod.fst
  opened :
    m.sds.opened.Perm
      (entries.filterMap TcpEntry.descriptor ++ lost)
  distinct : m.sds.opened.Nodup
  misused : m.sds.misused = []

namespace TcpMemory

namespace Stores

variable {m : TcpMemory}
variable {entries entries' : List TcpEntry}
variable {lost : List Int}
variable {e : TcpEntry}

theorem empty :
    TcpMemory.empty.Stores [] [] where
  socks := Heap.Holds.empty
  ipAddrs := Heap.Holds.empty
  pointers := fun _ hMem => nomatch hMem
  opened := List.Perm.refl []
  distinct := List.nodup_nil
  misused := rfl

theorem of_perm
    (h : m.Stores entries lost)
    (hPerm : entries.Perm entries') :
    m.Stores entries' lost where
  socks := h.socks.of_perm (hPerm.map _)
  ipAddrs := h.ipAddrs.of_perm (hPerm.filterMap _)
  pointers := fun e hMem =>
    h.pointers e (hPerm.mem_iff.mpr hMem)
  opened :=
    h.opened.trans ((hPerm.filterMap _).append_right lost)
  distinct := h.distinct
  misused := h.misused

------------------------------------------------------------
-- One Store or Call
------------------------------------------------------------

theorem read
    (h : m.Stores (e :: entries) lost) :
    m.socks.read (some e.address) = .ok e.sock :=
  h.socks.read

/- The descriptor of an entry is open. -/
theorem mem_opened
    (h : m.Stores (e :: entries) lost)
    (hSd : 0 ≤ e.sock.sd) :
    e.sock.sd ∈ m.sds.opened := by
  have hDescriptor : e.descriptor = some e.sock.sd :=
    if_pos hSd
  rw [h.opened.mem_iff, List.filterMap_cons_some hDescriptor]
  exact List.mem_cons_self

/- A system call on it is in order. -/
theorem useSd
    (h : m.Stores (e :: entries) lost)
    (hSd : 0 ≤ e.sock.sd) :
    m.useSd (some e.address) = .ok m := by
  unfold TcpMemory.useSd Descriptors.use
  rw [h.read]
  simp only [Fault.ok_bind, Fault.pure_eq_ok,
    if_pos (h.mem_opened hSd)]

theorem update_eq
    (h : m.Stores (e :: entries) lost)
    (f : Tcpsock → Tcpsock) :
    m.update (some e.address) f =
      .ok { m with socks := m.socks.put e.address (f e.sock) } := by
  have hWrite :
      m.socks.write (some e.address) (f e.sock) =
        .ok (m.socks.put e.address (f e.sock)) :=
    h.socks.write _
  unfold TcpMemory.update
  rw [h.read]
  simp only [Fault.ok_bind, hWrite, Fault.pure_eq_ok]

/- A store that keeps the pointer and the descriptor. -/
theorem update
    (h : m.Stores (e :: entries) lost)
    (f : Tcpsock → Tcpsock)
    (hIp : (f e.sock).ipAddr = e.sock.ipAddr)
    (hSd : (f e.sock).sd = e.sock.sd) :
    ∃ m',
      m.update (some e.address) f = .ok m' ∧
        m'.Stores ({ e with sock := f e.sock } :: entries)
          lost := by
  refine ⟨_, h.update_eq f, ?_⟩
  have hDescriptor :
      TcpEntry.descriptor { e with sock := f e.sock } =
        e.descriptor := by
    unfold TcpEntry.descriptor
    rw [hSd]
  constructor
  · exact h.socks.put _
  · exact h.ipAddrs
  · have hPointers := h.pointers
    rw [List.forall_mem_cons] at hPointers ⊢
    exact ⟨hIp.trans hPointers.1, hPointers.2⟩
  · have hOpened := h.opened
    rw [List.filterMap_cons] at hOpened ⊢
    rw [hDescriptor]
    exact hOpened
  · exact h.distinct
  · exact h.misused

------------------------------------------------------------
-- Opening
------------------------------------------------------------

/- The entry of a socket that was just created. -/
def created
    (m : TcpMemory) :
    TcpEntry where
  address := m.socks.next
  sock := { cookie := 0, sd := -1, ipAddr := none, port := -1 }
  block := none

theorem create
    (h : m.Stores entries lost) :
    ∃ m',
      tcpSockCreate m true = (some (created m).address, m') ∧
        m'.sds = m.sds ∧
        m'.Stores (created m :: entries) lost := by
  refine ⟨_, rfl, rfl, ?_⟩
  constructor
  · exact h.socks.alloc _
  · exact h.ipAddrs
  · rw [List.forall_mem_cons]
    exact ⟨rfl, h.pointers⟩
  · exact h.opened
  · exact h.distinct
  · exact h.misused

/- The socket gets no descriptor. -/
theorem storeSd_none
    (h : m.Stores (e :: entries) lost)
    (hSd : e.sock.sd = -1) :
    ∃ m',
      m.storeSd (some e.address) none = .ok m' ∧
        m'.Stores (e :: entries) lost := by
  have hSame : { e.sock with sd := -1 } = e.sock := by
    rw [← hSd]
  have hUpdate :=
    h.update (fun sock => { sock with sd := -1 }) rfl hSd.symm
  simp only [hSame] at hUpdate
  exact hUpdate

/- The socket gets a descriptor that was not open. -/
theorem storeSd
    (h : m.Stores (e :: entries) lost)
    (hSd : e.sock.sd = -1)
    {sd : Nat}
    (hNew : (sd : Int) ∉ m.sds.opened) :
    ∃ m',
      m.storeSd (some e.address) (some sd) = .ok m' ∧
        m'.Stores
          ({ e with sock := { e.sock with sd := sd } } ::
            entries)
          lost := by
  have hBefore : e.descriptor = none := by
    apply if_neg
    rw [hSd]
    decide
  have hAfter :
      TcpEntry.descriptor
          { e with sock := { e.sock with sd := sd } } =
        some (sd : Int) :=
    if_pos (Int.natCast_nonneg sd)
  simp only [TcpMemory.storeSd, h.update_eq, Fault.ok_bind,
    Fault.pure_eq_ok]
  refine ⟨_, rfl, ?_⟩
  constructor
  · exact h.socks.put _
  · exact h.ipAddrs
  · have hPointers := h.pointers
    rw [List.forall_mem_cons] at hPointers ⊢
    exact hPointers
  · have hOpened := h.opened
    rw [List.filterMap_cons_none hBefore] at hOpened
    rw [List.filterMap_cons_some hAfter, List.cons_append]
    exact
      (List.perm_append_singleton _ _).trans
        (hOpened.cons _)
  · exact List.nodup_append.mpr
      ⟨h.distinct, List.nodup_singleton _, by
        intro x hX y hY hEq
        rw [List.mem_singleton] at hY
        rw [hEq, hY] at hX
        exact hNew hX⟩
  · exact h.misused

/- A socket without characters is given up. -/
theorem failOpen
    (h : m.Stores (e :: entries) lost)
    (hBlock : e.block = none)
    (result : TcpResult) :
    ∃ m',
      SensorGateway.failOpen m (some e.address) result =
          .ok (result, none, m') ∧
        m'.Stores entries (lost ++ e.descriptor.toList) := by
  have hFree :
      m.socks.free (some e.address) =
        .ok (m.socks.drop e.address) :=
    h.socks.free
  unfold SensorGateway.failOpen TcpMemory.freeSock
  rw [hFree]
  refine ⟨_, rfl, ?_⟩
  constructor
  · exact h.socks.drop
  · have hIpAddrs := h.ipAddrs
    rw [List.filterMap_cons_none hBlock] at hIpAddrs
    exact hIpAddrs
  · exact fun x hMem =>
      h.pointers x (List.mem_cons_of_mem _ hMem)
  · have hOpened := h.opened
    cases hDescriptor : e.descriptor with
    | none =>
        rw [List.filterMap_cons_none hDescriptor] at hOpened
        rw [Option.toList_none, List.append_nil]
        exact hOpened
    | some sd =>
        rw [List.filterMap_cons_some hDescriptor] at hOpened
        rw [Option.toList_some, ← List.append_assoc]
        exact hOpened.trans
          (List.perm_append_singleton _ _).symm
  · exact h.distinct
  · exact h.misused

/- The entry of a connection, from that of its socket. -/
def connected
    (m : TcpMemory)
    (e : TcpEntry)
    (addr : InAddr)
    (port : BitVec 16) :
    TcpEntry where
  address := e.address
  sock :=
    { e.sock with
        ipAddr := some m.ipAddrs.next
        port := port.toNat
        cookie := MAGIC_COOKIE }
  block :=
    some
      (m.ipAddrs.next,
        strncpy CHAR_IP_ADDR_LENGTH (inetNtoa addr))

/- A connection is finished, if there is memory for it. -/
theorem finishOpen
    (h : m.Stores (e :: entries) lost)
    (hBlock : e.block = none)
    (addr : InAddr)
    (port : BitVec 16) :
    ∃ m',
      SensorGateway.finishOpen m (some e.address) true addr
            port =
          .ok (.noError, some e.address, m') ∧
        m'.Stores (connected m e addr port :: entries)
          lost := by
  unfold SensorGateway.finishOpen
  rw [if_pos rfl]
  have hRead :
      m.socks.read (some e.address) = .ok e.sock :=
    h.read
  have hWrite :
      ∀ sock,
        m.socks.write (some e.address) sock =
          .ok (m.socks.put e.address sock) :=
    fun sock => h.socks.write sock
  simp only [TcpMemory.update, hRead, hWrite, Fault.ok_bind,
    Fault.pure_eq_ok]
  refine ⟨_, rfl, ?_⟩
  constructor
  · exact h.socks.put _
  · have hIpAddrs := h.ipAddrs
    rw [List.filterMap_cons_none hBlock] at hIpAddrs
    exact hIpAddrs.alloc _
  · have hPointers := h.pointers
    rw [List.forall_mem_cons] at hPointers ⊢
    exact ⟨rfl, hPointers.2⟩
  · exact h.opened
  · exact h.distinct
  · exact h.misused

theorem finishOpen_memoryError
    (h : m.Stores (e :: entries) lost)
    (hBlock : e.block = none)
    (addr : InAddr)
    (port : BitVec 16) :
    ∃ m',
      SensorGateway.finishOpen m (some e.address) false addr
            port =
          .ok (.memoryError, none, m') ∧
        m'.Stores entries (lost ++ e.descriptor.toList) := by
  have hPointer : e.sock.ipAddr = none := by
    rw [h.pointers e List.mem_cons_self, hBlock]
    rfl
  rcases h.update (fun sock => { sock with ipAddr := none })
      hPointer.symm rfl with
    ⟨m₁, hUpdate, hStores⟩
  unfold SensorGateway.finishOpen
  rw [if_neg Bool.false_ne_true, hUpdate]
  exact hStores.failOpen hBlock .memoryError

------------------------------------------------------------
-- Closing
------------------------------------------------------------

/- The characters of a socket are freed. -/
theorem freeBlock
    (h : m.Stores (e :: entries) lost) :
    ∃ ipAddrs,
      m.ipAddrs.free e.sock.ipAddr = .ok ipAddrs ∧
        ipAddrs.Holds (entries.filterMap TcpEntry.block) := by
  have hIpAddrs := h.ipAddrs
  rw [h.pointers e List.mem_cons_self]
  cases hBlock : e.block with
  | none =>
      rw [List.filterMap_cons_none hBlock] at hIpAddrs
      exact ⟨m.ipAddrs, rfl, hIpAddrs⟩
  | some block =>
      rw [List.filterMap_cons_some hBlock] at hIpAddrs
      exact ⟨_, hIpAddrs.free, hIpAddrs.drop⟩

/- The descriptors behind `close`, or behind a failure. -/
theorem closedSds
    (h : m.Stores (e :: entries) lost)
    (hSd : 0 ≤ e.sock.sd)
    (shutdownOk : Bool) :
    let sds :=
      if shutdownOk then m.sds.close e.sock.sd else m.sds
    sds.opened.Perm
        (entries.filterMap TcpEntry.descriptor ++
          (lost ++ if shutdownOk then [] else [e.sock.sd])) ∧
      sds.opened.Nodup ∧ sds.misused = [] := by
  have hDescriptor : e.descriptor = some e.sock.sd :=
    if_pos hSd
  have hOpened := h.opened
  rw [List.filterMap_cons_some hDescriptor, List.cons_append]
    at hOpened
  cases shutdownOk with
  | true =>
      simp only [if_true, Descriptors.close,
        if_pos (h.mem_opened hSd), List.append_nil]
      refine ⟨?_, h.distinct.erase _, h.misused⟩
      have hErase := hOpened.erase e.sock.sd
      rw [List.erase_cons_head] at hErase
      exact hErase
  | false =>
      simp only [Bool.false_eq_true, if_false]
      refine ⟨?_, h.distinct, h.misused⟩
      rw [← List.append_assoc]
      exact hOpened.trans
        (List.perm_append_singleton _ _).symm

/-
  A bound socket is closed; its descriptor stays open if
  `shutdown` fails.
-/
theorem close
    (h : m.Stores (e :: entries) lost)
    (hCookie : e.sock.cookie = MAGIC_COOKIE)
    (hSd : 0 ≤ e.sock.sd)
    (shutdownOk : Bool) :
    ∃ m',
      tcpClose m (some e.address) shutdownOk =
          .ok (.noError, none, m') ∧
        m'.Stores entries
          (lost ++ if shutdownOk then [] else [e.sock.sd]) := by
  rcases h.freeBlock with ⟨ipAddrs, hFree, hIpAddrs⟩
  have hSds := h.closedSds hSd shutdownOk
  have hUse :
      ({ m with ipAddrs := ipAddrs } : TcpMemory).useSd
          (some e.address) =
        .ok { m with ipAddrs := ipAddrs } := by
    unfold TcpMemory.useSd Descriptors.use
    rw [h.read]
    simp only [Fault.ok_bind, Fault.pure_eq_ok,
      if_pos (h.mem_opened hSd)]
  let invalid : Tcpsock :=
    { cookie := 0, sd := -1, ipAddr := none, port := -1 }
  have hPut := h.socks.put invalid
  have hWrite :
      m.socks.write (some e.address) invalid =
        .ok (m.socks.put e.address invalid) :=
    h.socks.write _
  have hFreeSock :
      (m.socks.put e.address invalid).free (some e.address) =
        .ok ((m.socks.put e.address invalid).drop e.address) :=
    hPut.free
  refine
    ⟨{ socks := (m.socks.put e.address invalid).drop e.address
       ipAddrs := ipAddrs
       sds :=
         if shutdownOk then m.sds.close e.sock.sd
         else m.sds }, ?_, ?_⟩
  · unfold tcpClose TcpMemory.update TcpMemory.freeSock
    cases shutdownOk <;>
      simp [h.read, hCookie, hFree, hUse, hSd, hWrite,
        hFreeSock, invalid]
  · exact
      { socks := hPut.drop
        ipAddrs := hIpAddrs
        pointers := fun x hMem =>
          h.pointers x (List.mem_cons_of_mem _ hMem)
        opened := hSds.1
        distinct := hSds.2.1
        misused := hSds.2.2 }

end Stores

end TcpMemory

end SensorGateway
