import SensorGateway.Foundations.Population
import SensorGateway.TcpSock.Stores

/-
  The program on sockets refines its table of endpoints, in
  all histories of calls and outcomes. No call goes wrong,
  and each one returns what the table says. The memory is
  that of the open sockets.

  Descriptors are another matter: those of open sockets are
  open, and so are the lost ones, until the process ends.

  Key definitions include:
    * `TcpEntry.Describes`
    * `TcpProgram.Refines`

  Key theorems include:
    * `tcpPassiveOpen_opens`
    * `tcpActiveOpen_opens`
    * `tcpWaitForConnection_opens`
    * `TcpProgram.Refines.call`
    * `TcpProgram.Refines.call_of_followsNull`
    * `tcpProgram_tracks`
-/

------------------------------------------------------------
-- Opening
------------------------------------------------------------

namespace SensorGateway

open Foundations

/- The entry is that of an endpoint. -/
structure TcpEntry.Describes
    (entry : TcpEntry)
    (e : Endpoint) : Prop where
  cookie : entry.sock.cookie = MAGIC_COOKIE
  sd : entry.sock.sd = e.sd
  port : entry.sock.port = e.port
  characters :
    entry.block.map Prod.snd =
      e.address.map
        (fun addr => strncpy CHAR_IP_ADDR_LENGTH (inetNtoa addr))

/-
  A call that opens a socket does what the opening says, and
  leaves the memory to the other entries if it fails.
-/
structure Opens
    (call : Except Fault TcpOpened)
    (entries : List TcpEntry)
    (lost : List Int)
    (o : Opening) : Prop where
  fails :
    o.endpoint = none →
      ∃ m,
        call = .ok (o.code, none, m) ∧
          o.code ≠ .noError ∧
          m.Stores entries
            (lost ++ (o.lost.map Int.ofNat).toList)
  succeeds :
    ∀ e, o.endpoint = some e →
      ∃ m entry,
        call = .ok (.noError, some entry.address, m) ∧
          entry.Describes e ∧
          m.Stores (entry :: entries) lost

section Opening

variable {m : TcpMemory}
variable {entries : List TcpEntry}
variable {lost : List Int}

/- An attempt that fails, and what it got by then. -/
theorem Opens.of_fails
    {call : Except Fault TcpOpened}
    {m' : TcpMemory}
    {code : TcpResult}
    {obtained : Option Nat}
    (hCall : call = .ok (code, none, m'))
    (hCode : code ≠ .noError)
    (hStores :
      m'.Stores entries
        (lost ++ (obtained.map Int.ofNat).toList)) :
    Opens call entries lost
      { obtained := obtained, result := .error code } where
  fails := fun _ => ⟨m', hCall, hCode, hStores⟩
  succeeds := fun _ hSome => nomatch hSome

theorem Opens.of_succeeds
    {call : Except Fault TcpOpened}
    {m' : TcpMemory}
    (entry : TcpEntry)
    {e : Endpoint}
    {obtained : Option Nat}
    (hCall : call = .ok (.noError, some entry.address, m'))
    (hEntry : entry.Describes e)
    (hStores : m'.Stores (entry :: entries) lost) :
    Opens call entries lost
      { obtained := obtained, result := .ok e } where
  fails := fun hNone => nomatch hNone
  succeeds := by
    intro e' hSome
    cases hSome
    exact ⟨m', entry, hCall, hEntry, hStores⟩

theorem Opens.of_perm
    {call : Except Fault TcpOpened}
    {entries' : List TcpEntry}
    {o : Opening}
    (h : Opens call entries lost o)
    (hPerm : entries.Perm entries') :
    Opens call entries' lost o where
  fails := by
    intro hNone
    rcases h.fails hNone with ⟨m, hCall, hCode, hStores⟩
    exact ⟨m, hCall, hCode, hStores.of_perm hPerm⟩
  succeeds := by
    intro e hSome
    rcases h.succeeds e hSome with
      ⟨m, entry, hCall, hDescribes, hStores⟩
    exact
      ⟨m, entry, hCall, hDescribes,
        hStores.of_perm (hPerm.cons entry)⟩

/- An entry whose socket is not bound yet. -/
structure TcpEntry.Pending
    (entry : TcpEntry)
    (sd : Int) : Prop where
  block : entry.block = none
  sd : entry.sock.sd = sd
  ipAddr : entry.sock.ipAddr = none

theorem pending_created
    (m : TcpMemory) :
    (TcpMemory.Stores.created m).Pending (-1) :=
  ⟨rfl, rfl, rfl⟩

theorem created_sd_neg
    (m : TcpMemory) :
    (TcpMemory.Stores.created m).sock.sd < 0 :=
  show (-1 : Int) < 0 by decide

theorem TcpEntry.Pending.sd_nonneg
    {entry : TcpEntry}
    {sd : Nat}
    (h : entry.Pending sd) :
    0 ≤ entry.sock.sd := by
  rw [h.sd]
  exact Int.natCast_nonneg sd

/- A pending socket with a descriptor is given up. -/
theorem Opens.of_failOpen
    {entry : TcpEntry}
    {sd : Nat}
    (h : m.Stores (entry :: entries) lost)
    (hPending : entry.Pending sd)
    {code : TcpResult}
    (hCode : code ≠ .noError) :
    Opens (failOpen m (some entry.address) code) entries lost
      { obtained := some sd, result := .error code } := by
  rcases h.failOpen hPending.block code with
    ⟨m', hCall, hStores⟩
  have hDescriptor : entry.descriptor = some (sd : Int) := by
    unfold TcpEntry.descriptor
    rw [hPending.sd, if_pos (Int.natCast_nonneg sd)]
  rw [hDescriptor] at hStores
  exact .of_fails hCall hCode hStores

/- One without a descriptor is given up. -/
theorem Opens.of_failOpen_none
    {entry : TcpEntry}
    (h : m.Stores (entry :: entries) lost)
    (hPending : entry.Pending (-1))
    {code : TcpResult}
    (hCode : code ≠ .noError) :
    Opens (failOpen m (some entry.address) code) entries lost
      { obtained := none, result := .error code } := by
  rcases h.failOpen hPending.block code with
    ⟨m', hCall, hStores⟩
  have hDescriptor : entry.descriptor = none := by
    unfold TcpEntry.descriptor
    rw [hPending.sd]
    rfl
  rw [hDescriptor] at hStores
  exact .of_fails hCall hCode hStores

/- A connection is finished, or given up for want of memory. -/
theorem Opens.of_finishOpen
    {entry : TcpEntry}
    {sd : Nat}
    (h : m.Stores (entry :: entries) lost)
    (hPending : entry.Pending sd)
    (mallocOk : Bool)
    (addr : InAddr)
    (port : BitVec 16) :
    Opens
      (finishOpen m (some entry.address) mallocOk addr port)
      entries lost
      (connectedOpening sd mallocOk addr port) := by
  cases mallocOk with
  | true =>
      rcases h.finishOpen hPending.block addr port with
        ⟨m', hCall, hStores⟩
      have hDescribes :
          (TcpMemory.Stores.connected m entry addr
              port).Describes
            { sd := sd, address := some addr
              port := port.toNat } :=
        ⟨rfl, hPending.sd, rfl, rfl⟩
      exact
        .of_succeeds
          (TcpMemory.Stores.connected m entry addr port)
          hCall hDescribes hStores
  | false =>
      rcases h.finishOpen_memoryError hPending.block addr
          port with
        ⟨m', hCall, hStores⟩
      have hDescriptor :
          entry.descriptor = some (sd : Int) := by
        unfold TcpEntry.descriptor
        rw [hPending.sd, if_pos (Int.natCast_nonneg sd)]
      rw [hDescriptor] at hStores
      exact .of_fails hCall (by decide) hStores

/- A socket gets a new descriptor. -/
theorem TcpMemory.Stores.storeSd_pending
    {entry : TcpEntry}
    (h : m.Stores (entry :: entries) lost)
    (hPending : entry.Pending (-1))
    {sd : Nat}
    (hNew : (sd : Int) ∉ m.sds.opened) :
    ∃ m' entry',
      m.storeSd (some entry.address) (some sd) = .ok m' ∧
        entry'.address = entry.address ∧
        entry'.Pending sd ∧
        m'.Stores (entry' :: entries) lost := by
  rcases h.storeSd hPending.sd hNew with
    ⟨m', hStore, hStores⟩
  exact
    ⟨m', { entry with sock := { entry.sock with sd := sd } },
      hStore, rfl, ⟨hPending.block, rfl, hPending.ipAddr⟩,
      hStores⟩

/- `tcp_passive_open` opens as its outcomes say. -/
theorem tcpPassiveOpen_opens
    (h : m.Stores entries lost)
    (port : Int)
    (o : PassiveOpen)
    (hNew : ∀ sd ∈ o.socket, (sd : Int) ∉ m.sds.opened) :
    Opens (tcpPassiveOpen m port o) entries lost
      (o.opening port) := by
  unfold tcpPassiveOpen PassiveOpen.opening
  by_cases hPort : port < MIN_PORT ∨ MAX_PORT < port
  · rw [if_pos hPort, if_pos hPort]
    exact .of_fails rfl (by decide) (by simpa using h)
  rw [if_neg hPort, if_neg hPort]
  cases hMalloc : o.mallocOk with
  | false =>
      exact .of_fails rfl (by decide) (by simpa using h)
  | true =>
      rcases h.create with ⟨m₁, hCreate, hSds, h₁⟩
      rw [hCreate]
      simp only [reduceCtorEq, if_false]
      cases hSocket : o.socket with
      | none =>
          rcases h₁.storeSd_none rfl with ⟨m₂, hStore, h₂⟩
          simp only [hStore, Fault.ok_bind, h₂.read]
          rw [if_pos (created_sd_neg m)]
          exact .of_failOpen_none h₂ (pending_created m)
            (by decide)
      | some sd =>
          rw [hSocket, ← hSds] at hNew
          rcases h₁.storeSd_pending (pending_created m)
              (hNew sd rfl) with
            ⟨m₂, entry, hStore, hAddress, hPending, h₂⟩
          have hUse := h₂.useSd hPending.sd_nonneg
          simp only [hStore, Fault.ok_bind]
          rw [← hAddress]
          simp only [h₂.read, hUse, Fault.ok_bind,
            if_neg (Int.not_lt.mpr hPending.sd_nonneg)]
          cases hBind : o.bindOk with
          | false =>
              exact .of_failOpen h₂ hPending (by decide)
          | true =>
              cases hListen : o.listenOk with
              | false =>
                  exact .of_failOpen h₂ hPending (by decide)
              | true =>
                  rcases h₂.update
                      (fun sock =>
                        { sock with
                            ipAddr := none
                            port := port
                            cookie := MAGIC_COOKIE })
                      hPending.ipAddr.symm rfl with
                    ⟨m₃, hUpdate, h₃⟩
                  simp only [reduceCtorEq, if_false, hUpdate,
                    Fault.ok_bind, Fault.pure_eq_ok]
                  have hCharacters :
                      entry.block.map Prod.snd = none := by
                    rw [hPending.block]
                    rfl
                  exact
                    .of_succeeds
                      { entry with
                          sock :=
                            { entry.sock with
                                ipAddr := none
                                port := port
                                cookie := MAGIC_COOKIE } }
                      rfl
                      ⟨rfl, hPending.sd, rfl, hCharacters⟩ h₃

/- So does `tcp_active_open`. -/
theorem tcpActiveOpen_opens
    (h : m.Stores entries lost)
    (remotePort : Int)
    (remoteIp : Option (List (BitVec 8)))
    (o : ActiveOpen)
    (hNew : ∀ sd ∈ o.socket, (sd : Int) ∉ m.sds.opened) :
    Opens (tcpActiveOpen m remotePort remoteIp o) entries lost
      (o.opening remotePort remoteIp) := by
  have hAddressError :
      Opens (.ok (.addressError, none, m)) entries lost
        { obtained := none, result := .error .addressError } :=
    .of_fails rfl (by decide) (by simpa using h)
  unfold tcpActiveOpen ActiveOpen.opening
  by_cases hPort : remotePort < MIN_PORT ∨ MAX_PORT < remotePort
  · rw [if_pos hPort, if_pos (by tauto)]
    exact hAddressError
  by_cases hIp : remoteIp = none
  · rw [if_neg hPort, if_pos hIp, if_pos (by tauto)]
    exact hAddressError
  rw [if_neg hPort, if_neg hIp, if_neg (by tauto)]
  cases hMalloc : o.mallocOk with
  | false =>
      exact .of_fails rfl (by decide) (by simpa using h)
  | true =>
      rcases h.create with ⟨m₁, hCreate, hSds, h₁⟩
      rw [hCreate]
      simp only [reduceCtorEq, if_false]
      cases hSocket : o.socket with
      | none =>
          rcases h₁.storeSd_none rfl with ⟨m₂, hStore, h₂⟩
          simp only [hStore, Fault.ok_bind, h₂.read]
          rw [if_pos (created_sd_neg m)]
          exact .of_failOpen_none h₂ (pending_created m)
            (by decide)
      | some sd =>
          rw [hSocket, ← hSds] at hNew
          rcases h₁.storeSd_pending (pending_created m)
              (hNew sd rfl) with
            ⟨m₂, entry, hStore, hAddress, hPending, h₂⟩
          have hUse := h₂.useSd hPending.sd_nonneg
          simp only [hStore, Fault.ok_bind]
          rw [← hAddress]
          simp only [h₂.read, hUse, Fault.ok_bind,
            if_neg (Int.not_lt.mpr hPending.sd_nonneg)]
          cases hAton : o.inetAtonOk with
          | false =>
              exact .of_failOpen h₂ hPending (by decide)
          | true =>
              cases hConnect : o.connectOk with
              | false =>
                  exact .of_failOpen h₂ hPending (by decide)
              | true =>
                  cases hName : o.getsockname with
                  | none =>
                      exact .of_failOpen h₂ hPending
                        (by decide)
                  | some name =>
                      exact .of_finishOpen h₂ hPending _ _ _

/- And `tcp_wait_for_connection`, on a bound socket. -/
theorem tcpWaitForConnection_opens
    {server : TcpEntry}
    (h : m.Stores (server :: entries) lost)
    {e : Endpoint}
    (hServer : server.Describes e)
    (o : Accept)
    (hNew :
      ∀ sd ∈ o.accept.map Prod.fst,
        (sd : Int) ∉ m.sds.opened) :
    Opens (tcpWaitForConnection m (some server.address) o)
      (server :: entries) lost o.opening := by
  have hSome : some server.address ≠ none := by simp
  unfold tcpWaitForConnection Accept.opening
  rw [if_neg hSome]
  simp only [h.read, Fault.ok_bind, hServer.cookie, ne_eq,
    not_true, if_false]
  cases hMalloc : o.mallocOk with
  | false =>
      exact .of_fails rfl (by decide)
        (by simpa [tcpSockCreate] using h)
  | true =>
      rcases h.create with ⟨m₁, hCreate, hSds, h₁⟩
      have hUse :
          m₁.useSd (some server.address) = .ok m₁ := by
        have hSwap :=
          h₁.of_perm (List.Perm.swap server _ entries)
        apply hSwap.useSd
        rw [hServer.sd]
        exact Int.natCast_nonneg e.sd
      rw [hCreate]
      simp only [reduceCtorEq, if_false, hUse, Fault.ok_bind]
      cases hAccept : o.accept with
      | none =>
          rcases h₁.storeSd_none rfl with ⟨m₂, hStore, h₂⟩
          simp only [hStore, Fault.ok_bind]
          exact .of_failOpen_none h₂ (pending_created m)
            (by decide)
      | some peer =>
          rcases peer with ⟨sd, addr, port⟩
          rw [hAccept, ← hSds] at hNew
          rcases h₁.storeSd_pending (pending_created m)
              (hNew sd rfl) with
            ⟨m₂, entry, hStore, hAddress, hPending, h₂⟩
          simp only [hStore, Fault.ok_bind]
          rw [← hAddress]
          exact .of_finishOpen h₂ hPending _ _ _

end Opening

------------------------------------------------------------
-- Programs
------------------------------------------------------------

/- An open socket, as the program and as the table has it. -/
abbrev TcpSlot :=
  TcpEntry × Endpoint

/- A store of NULL to a variable that is NULL. -/
theorem TcpProgram.set_null
    {s : TcpProgram}
    {i : Nat}
    (hNull : s.handle i = none) :
    s.handles.set i none = s.handles := by
  unfold TcpProgram.handle at hNull
  cases hGet : s.handles[i]? with
  | none =>
      exact List.set_eq_of_length_le
        (List.getElem?_eq_none_iff.mp hGet)
  | some p =>
      rw [hGet, Option.join_some] at hNull
      rw [hNull] at hGet
      rcases List.getElem?_eq_some_iff.mp hGet with
        ⟨hLt, hEq⟩
      rw [← hEq, List.set_getElem_self]

/-
  The program and the table agree: each variable is NULL in
  both, or it is a socket that is an endpoint, and the memory
  is that of the sockets.
-/
structure TcpProgram.Refines
    (s : TcpProgram)
    (t : EndpointTable)
    (slots : List (Option TcpSlot)) : Prop where
  handles :
    s.handles =
      slots.map (Option.map (fun slot => slot.1.address))
  endpoints : t.endpoints = slots.map (Option.map Prod.snd)
  describes :
    ∀ slot, some slot ∈ slots → slot.1.Describes slot.2
  stores :
    s.memory.Stores
      (slots.filterMap (Option.map Prod.fst)) t.lost
  replies : s.replies = t.replies
  fault : s.fault = none

namespace TcpProgram.Refines

variable {s : TcpProgram}
variable {t : EndpointTable}
variable {slots : List (Option TcpSlot)}

theorem start :
    TcpProgram.start.Refines EndpointTable.start [] where
  handles := rfl
  endpoints := rfl
  describes := fun _ hMem => nomatch hMem
  stores := TcpMemory.Stores.empty
  replies := rfl
  fault := rfl

/- A variable is NULL in both, or a socket is behind it. -/
theorem slot_cases
    (h : s.Refines t slots)
    (i : Nat) :
    (s.handle i = none ∧ t.endpoint i = none) ∨
      ∃ slot,
        slots[i]? = some (some slot) ∧
          s.handle i = some slot.1.address ∧
          t.endpoint i = some slot.2 := by
  unfold TcpProgram.handle EndpointTable.endpoint
  rw [h.handles, h.endpoints, List.getElem?_map,
    List.getElem?_map]
  cases hSlot : slots[i]? with
  | none => exact Or.inl ⟨rfl, rfl⟩
  | some slot =>
      cases slot with
      | none => exact Or.inl ⟨rfl, rfl⟩
      | some slot => exact Or.inr ⟨slot, rfl, rfl, rfl⟩

/- The sockets, with that of a variable in front. -/
theorem perm_slot
    {i : Nat}
    {slot : TcpSlot}
    (hSlot : slots[i]? = some (some slot)) :
    (slots.filterMap (Option.map Prod.fst)).Perm
      (slot.1 ::
        (slots.set i none).filterMap
          (Option.map Prod.fst)) := by
  have hPerm :=
    filterMap_set_perm (b := none) (Option.map Prod.fst) hSlot
  rw [Option.map_none, Option.toList_none, List.append_nil]
    at hPerm
  exact hPerm.symm.trans (List.perm_append_singleton _ _)

theorem stores_slot
    (h : s.Refines t slots)
    {i : Nat}
    {slot : TcpSlot}
    (hSlot : slots[i]? = some (some slot)) :
    s.memory.Stores
      (slot.1 ::
        (slots.set i none).filterMap (Option.map Prod.fst))
      t.lost :=
  h.stores.of_perm (perm_slot hSlot)

theorem describes_slot
    (h : s.Refines t slots)
    {i : Nat}
    {slot : TcpSlot}
    (hSlot : slots[i]? = some (some slot)) :
    slot.1.Describes slot.2 :=
  h.describes slot (List.mem_of_getElem? hSlot)

/- A call that opens a socket, or fails to. -/
theorem opened
    (h : s.Refines t slots)
    {call : Except Fault TcpOpened}
    {o : Opening}
    (hOpens :
      Opens call (slots.filterMap (Option.map Prod.fst))
        t.lost o) :
    ∃ result slots',
      call = .ok result ∧
        (s.opened result).Refines (t.opened o) slots' := by
  cases hEndpoint : o.endpoint with
  | none =>
      rcases hOpens.fails hEndpoint with
        ⟨m, hCall, hCode, hStores⟩
      refine ⟨_, slots, hCall, ?_⟩
      simp only [TcpProgram.opened, if_neg hCode]
      constructor
      · exact h.handles
      · simp only [EndpointTable.opened, hEndpoint,
          Option.map_none, Option.toList_none, List.append_nil]
        exact h.endpoints
      · exact h.describes
      · exact hStores
      · simp only [TcpProgram.reply, EndpointTable.opened,
          h.replies]
      · exact h.fault
  | some e =>
      rcases hOpens.succeeds e hEndpoint with
        ⟨m, entry, hCall, hDescribes, hStores⟩
      refine ⟨_, slots ++ [some (entry, e)], hCall, ?_⟩
      have hCode : o.code = .noError := by
        unfold Opening.endpoint at hEndpoint
        unfold Opening.code
        cases hResult : o.result with
        | error code =>
            rw [hResult] at hEndpoint
            cases hEndpoint
        | ok e => rfl
      simp only [TcpProgram.opened, if_true]
      constructor
      · simp [TcpProgram.reply, h.handles]
      · simp [EndpointTable.opened, h.endpoints, hEndpoint]
      · intro slot hMem
        rcases List.mem_append.mp hMem with hOld | hNew
        · exact h.describes slot hOld
        · rw [List.mem_singleton, Option.some.injEq] at hNew
          rw [hNew]
          exact hDescribes
      · have hLost : (t.opened o).lost = t.lost := by
          simp [EndpointTable.opened, Opening.lost, hEndpoint]
        rw [hLost, List.filterMap_append]
        exact hStores.of_perm
          (List.perm_append_singleton _ _).symm
      · simp only [TcpProgram.reply, EndpointTable.opened,
          h.replies, hCode]
      · exact h.fault

/- A call that only returns something. -/
theorem reply
    (h : s.Refines t slots)
    (r : TcpReply) :
    (s.reply s.memory r).Refines (t.reply r) slots where
  handles := h.handles
  endpoints := h.endpoints
  describes := h.describes
  stores := h.stores
  replies := by
    simp only [TcpProgram.reply, EndpointTable.reply, h.replies]
  fault := h.fault

theorem call_of_reply
    (h : s.Refines t slots)
    {c : TcpCall}
    (r : TcpReply)
    (hCall : s.call c = .ok (s.reply s.memory r))
    (hTable : t.call c = t.reply r) :
    ∃ s' slots',
      s.call c = .ok s' ∧ s'.Refines (t.call c) slots' := by
  refine ⟨_, slots, hCall, ?_⟩
  rw [hTable]
  exact h.reply r

/- A variable that is NULL does not pass. -/
theorem withBound_null
    {m : TcpMemory}
    {R : Type}
    (invalid : R)
    (valid : Tcpsock → Except Fault (R × TcpMemory)) :
    withBound m none invalid valid = .ok (invalid, m) := rfl

/- A bound socket passes the check of its cookie. -/
theorem withBound_slot
    (h : s.Refines t slots)
    {i : Nat}
    {slot : TcpSlot}
    (hSlot : slots[i]? = some (some slot))
    {R : Type}
    (invalid : R)
    (valid : Tcpsock → Except Fault (R × TcpMemory)) :
    withBound s.memory (some slot.1.address) invalid valid =
      valid slot.1.sock := by
  unfold withBound
  rw [if_neg (by simp), (h.stores_slot hSlot).read]
  simp only [Fault.ok_bind, (h.describes_slot hSlot).cookie,
    ne_eq, not_true, if_false]

/- A system call on a socket's descriptor is in order. -/
theorem useSd_slot
    (h : s.Refines t slots)
    {i : Nat}
    {slot : TcpSlot}
    (hSlot : slots[i]? = some (some slot)) :
    s.memory.useSd (some slot.1.address) = .ok s.memory := by
  apply (h.stores_slot hSlot).useSd
  rw [(h.describes_slot hSlot).sd]
  exact Int.natCast_nonneg _

/- The characters of a socket are its address, if it has one. -/
theorem stringAt_slot
    (h : s.Refines t slots)
    {i : Nat}
    {slot : TcpSlot}
    (hSlot : slots[i]? = some (some slot)) :
    TcpProgram.stringAt s.memory slot.1.sock.ipAddr =
      .ok (slot.2.address.map inetNtoa) := by
  have hStores := h.stores_slot hSlot
  have hCharacters := (h.describes_slot hSlot).characters
  unfold TcpProgram.stringAt
  rw [hStores.pointers slot.1 List.mem_cons_self]
  cases hBlock : slot.1.block with
  | none =>
      rw [hBlock, Option.map_none, eq_comm,
        Option.map_eq_none_iff] at hCharacters
      rw [hCharacters]
      rfl
  | some block =>
      rw [hBlock, Option.map_some, eq_comm,
        Option.map_eq_some_iff] at hCharacters
      rcases hCharacters with ⟨addr, hAddress, hChars⟩
      have hIpAddrs := hStores.ipAddrs
      rw [List.filterMap_cons_some hBlock] at hIpAddrs
      have hRead :
          s.memory.ipAddrs.read (some block.1) =
            .ok block.2 :=
        hIpAddrs.read
      have hFits :
          (inetNtoa addr).take CHAR_IP_ADDR_LENGTH =
            inetNtoa addr :=
        List.take_of_length_le
          (Nat.le_succ_of_le (length_inetNtoa_le addr))
      rw [Option.map_some, if_neg (by simp), hRead, hAddress,
        ← hChars]
      simp only [Fault.ok_bind, Fault.pure_eq_ok,
        Option.map_some]
      rw [cString_strncpy (noControl_inetNtoa addr).nul_not_mem,
        hFits]

/- A socket is closed, and its variable is NULL. -/
theorem close
    (h : s.Refines t slots)
    {i : Nat}
    {slot : TcpSlot}
    (hSlot : slots[i]? = some (some slot))
    (shutdownOk : Bool) :
    ∃ m,
      tcpClose s.memory (some slot.1.address) shutdownOk =
          .ok (.noError, none, m) ∧
        ({ s.reply m (.code .noError) with
            handles := s.handles.set i none }).Refines
          (t.closed i slot.2 shutdownOk) (slots.set i none) := by
  have hDescribes := h.describes_slot hSlot
  have hSd : 0 ≤ slot.1.sock.sd := by
    rw [hDescribes.sd]
    exact Int.natCast_nonneg _
  rcases (h.stores_slot hSlot).close hDescribes.cookie hSd
      shutdownOk with
    ⟨m, hClose, hStores⟩
  rw [hDescribes.sd] at hStores
  refine ⟨m, hClose, ?_⟩
  constructor
  · rw [h.handles, List.map_set]
    rfl
  · simp only [EndpointTable.closed]
    rw [h.endpoints, List.map_set]
    rfl
  · intro other hMem
    rcases List.mem_or_eq_of_mem_set hMem with hOld | hNew
    · exact h.describes other hOld
    · cases hNew
  · exact hStores
  · simp only [TcpProgram.reply, EndpointTable.closed,
      h.replies]
  · exact h.fault

/- A call that follows a NULL pointer ends the program. -/
theorem call_of_followsNull
    (h : s.Refines t slots)
    {c : TcpCall}
    (hNull : c.FollowsNull s) :
    s.call c = .error .nullPointer ∧ t.call c = t := by
  cases c with
  | send i buffer bufSize o =>
      rcases hNull with ⟨hSome, rfl⟩
      rcases h.slot_cases i with
        ⟨hNone, _⟩ | ⟨slot, hSlot, hHandle, hEndpoint⟩
      · exact absurd hNone hSome
      · constructor
        · simp [TcpProgram.call, hHandle, tcpSend,
            h.withBound_slot hSlot, storeNoSize]
          rfl
        · simp [EndpointTable.call, hEndpoint]
  | receive i buffer sizeIsNull o =>
      rcases hNull with ⟨hSome, rfl⟩
      rcases h.slot_cases i with
        ⟨hNone, _⟩ | ⟨slot, hSlot, hHandle, hEndpoint⟩
      · exact absurd hNone hSome
      · constructor
        · simp [TcpProgram.call, hHandle, tcpReceiveOn,
            h.withBound_slot hSlot, storeNoSize]
          rfl
        · simp [EndpointTable.call, hEndpoint]
  | _ => exact hNull.elim

/- Each other call does what it means for the table. -/
theorem call
    (h : s.Refines t slots)
    (c : TcpCall)
    (hSafe : ¬c.FollowsNull s)
    (hNew :
      ∀ sd ∈ c.newSd, (sd : Int) ∉ s.memory.sds.opened) :
    ∃ s' slots',
      s.call c = .ok s' ∧ s'.Refines (t.call c) slots' := by
  cases c with
  | passiveOpen port o =>
      rcases h.opened
          (tcpPassiveOpen_opens h.stores port o hNew) with
        ⟨result, slots', hCall, hRefines⟩
      exact ⟨_, slots', by simp [TcpProgram.call, hCall],
        hRefines⟩
  | activeOpen remotePort remoteIp o =>
      rcases h.opened
          (tcpActiveOpen_opens h.stores remotePort remoteIp o
            hNew) with
        ⟨result, slots', hCall, hRefines⟩
      exact ⟨_, slots', by simp [TcpProgram.call, hCall],
        hRefines⟩
  | waitForConnection i o =>
      rcases h.slot_cases i with
        ⟨hNull, hNone⟩ | ⟨slot, hSlot, hHandle, hEndpoint⟩
      · refine
          ⟨s.reply s.memory (.code .socketError), slots, ?_, ?_⟩
        · simp [TcpProgram.call, hNull, tcpWaitForConnection,
            TcpProgram.opened]
        · simp only [EndpointTable.call, hNone]
          exact h.reply _
      · have hOpens :=
          (tcpWaitForConnection_opens (h.stores_slot hSlot)
            (h.describes_slot hSlot) o hNew).of_perm
              (perm_slot hSlot).symm
        rcases h.opened hOpens with
          ⟨result, slots', hCall, hRefines⟩
        refine ⟨s.opened result, slots', ?_, ?_⟩
        · simp [TcpProgram.call, hHandle, hCall]
        · simp only [EndpointTable.call, hEndpoint]
          exact hRefines
  | send i buffer bufSize o =>
      rcases h.slot_cases i with
        ⟨hNull, hNone⟩ | ⟨slot, hSlot, hHandle, hEndpoint⟩
      · apply h.call_of_reply (.sent .socketError bufSize)
        · simp [TcpProgram.call, hNull, tcpSend, withBound_null]
        · simp [EndpointTable.call, hNone]
      · have hSize : bufSize ≠ none := fun hNone =>
          hSafe ⟨by simp [hHandle], hNone⟩
        by_cases hBuffer : buffer = none
        · apply h.call_of_reply (.sent .noError (some 0))
          · simp [TcpProgram.call, hHandle, tcpSend,
              h.withBound_slot hSlot, hBuffer, hSize,
              storeNoSize]
          · simp [EndpointTable.call, hEndpoint, hBuffer,
              hSize]
        · apply h.call_of_reply
            (.sent o.result.1 (some o.result.2))
          · simp [TcpProgram.call, hHandle, tcpSend,
              h.withBound_slot hSlot, hBuffer, hSize,
              h.useSd_slot hSlot]
          · simp [EndpointTable.call, hEndpoint, hBuffer,
              hSize]
  | @receive n i buffer sizeIsNull o =>
      rcases h.slot_cases i with
        ⟨hNull, hNone⟩ | ⟨slot, hSlot, hHandle, hEndpoint⟩
      · apply h.call_of_reply
          (.received .socketError (buffer.map Bytes.toList)
            (if sizeIsNull then none else some (n : Int)))
        · simp [TcpProgram.call, hNull, tcpReceiveOn,
            withBound_null]
        · simp [EndpointTable.call, hNone]
      · have hSize : sizeIsNull = false := by
          rw [← Bool.not_eq_true]
          exact fun hTrue =>
            hSafe ⟨by simp [hHandle], hTrue⟩
        subst hSize
        cases buffer with
        | none =>
            apply h.call_of_reply
              (.received .noError none (some 0))
            · simp [TcpProgram.call, hHandle, tcpReceiveOn,
                h.withBound_slot hSlot, storeNoSize]
            · simp [EndpointTable.call, hEndpoint]
        | some bytes =>
            apply h.call_of_reply
              (.received (tcpReceive bytes o).1
                (some (tcpReceive bytes o).2.toList)
                (some o.size))
            · simp [TcpProgram.call, hHandle, tcpReceiveOn,
                h.withBound_slot hSlot, h.useSd_slot hSlot]
            · simp [EndpointTable.call, hEndpoint]
  | getIpAddr i =>
      rcases h.slot_cases i with
        ⟨hNull, hNone⟩ | ⟨slot, hSlot, hHandle, hEndpoint⟩
      · apply h.call_of_reply (.ipAddr .socketError none)
        · simp [TcpProgram.call, hNull, tcpGetIpAddr,
            withBound_null]
        · simp [EndpointTable.call, hNone]
      · apply h.call_of_reply
          (.ipAddr .noError
            (some (slot.2.address.map inetNtoa)))
        · simp [TcpProgram.call, hHandle, tcpGetIpAddr,
            h.withBound_slot hSlot, h.stringAt_slot hSlot]
        · simp [EndpointTable.call, hEndpoint]
  | getPort i =>
      rcases h.slot_cases i with
        ⟨hNull, hNone⟩ | ⟨slot, hSlot, hHandle, hEndpoint⟩
      · apply h.call_of_reply (.number .socketError none)
        · simp [TcpProgram.call, hNull, tcpGetPort,
            withBound_null]
        · simp [EndpointTable.call, hNone]
      · apply h.call_of_reply (.number .noError slot.2.port)
        · simp [TcpProgram.call, hHandle, tcpGetPort,
            h.withBound_slot hSlot,
            (h.describes_slot hSlot).port]
        · simp [EndpointTable.call, hEndpoint]
  | getSd i =>
      rcases h.slot_cases i with
        ⟨hNull, hNone⟩ | ⟨slot, hSlot, hHandle, hEndpoint⟩
      · apply h.call_of_reply (.number .socketError none)
        · simp [TcpProgram.call, hNull, tcpGetSd,
            withBound_null]
        · simp [EndpointTable.call, hNone]
      · apply h.call_of_reply
          (.number .noError (some (slot.2.sd : Int)))
        · simp [TcpProgram.call, hHandle, tcpGetSd,
            h.withBound_slot hSlot,
            (h.describes_slot hSlot).sd]
        · simp [EndpointTable.call, hEndpoint]
  | close i shutdownOk =>
      rcases h.slot_cases i with
        ⟨hNull, hNone⟩ | ⟨slot, hSlot, hHandle, hEndpoint⟩
      · apply h.call_of_reply (.code .socketError)
        · simp [TcpProgram.call, hNull, tcpClose,
            TcpProgram.reply, TcpProgram.set_null hNull]
        · simp [EndpointTable.call, hNone]
      · rcases h.close hSlot shutdownOk with
          ⟨m, hClose, hRefines⟩
        have hTable :
            t.call (.close i shutdownOk) =
              t.closed i slot.2 shutdownOk := by
          simp [EndpointTable.call, hEndpoint]
        rw [hTable]
        refine ⟨_, slots.set i none, ?_, hRefines⟩
        simp [TcpProgram.call, hHandle, hClose,
          TcpProgram.reply]

end TcpProgram.Refines

------------------------------------------------------------
-- Runs
------------------------------------------------------------

/-
  How a program stands to the table after its calls. It has
  faulted exactly if the last call followed a NULL pointer,
  and has the memory of its sockets even then.
-/
structure TcpProgram.Tracks
    (s : TcpProgram)
    (calls : List TcpCall) : Prop where
  refines :
    ∃ slots,
      { s with fault := none }.Refines
        (EndpointTable.after calls) slots
  fault_cases : s.fault = none ∨ s.fault = some .nullPointer
  fault_iff :
    s.fault = none ↔
      tcpProgram.Guarded (fun s c => ¬c.FollowsNull s) calls

/- One more call, of a program that has not faulted. -/
theorem TcpProgram.Tracks.step
    {s s' : TcpProgram}
    {calls : List TcpCall}
    {c : TcpCall}
    (hRun : tcpProgram.run calls = some s)
    (h : s.Tracks calls)
    (hStep : tcpProgram.step s c = some s') :
    s'.Tracks (calls ++ [c]) := by
  rcases h.refines with ⟨slots, hRefines⟩
  have hAfter :
      EndpointTable.after (calls ++ [c]) =
        (EndpointTable.after calls).call c := by
    unfold EndpointTable.after
    rw [List.foldl_append]
    rfl
  have hGuarded :=
    tcpProgram.guarded_snoc
      (fun s c => ¬c.FollowsNull s) hRun c
  simp only [tcpProgram] at hStep
  split at hStep
  · cases hStep
  rename_i hRunning
  rw [not_not] at hRunning
  have hBefore := h.fault_iff.mp hRunning
  have hSame : { s with fault := none } = s := by
    rw [← hRunning]
  rw [hSame] at hRefines
  split at hStep
  · cases hStep
  rename_i hNew
  rw [not_exists] at hNew
  by_cases hNull : c.FollowsNull s
  · rcases hRefines.call_of_followsNull hNull with
      ⟨hCall, hTable⟩
    rw [hCall] at hStep
    cases hStep
    refine ⟨⟨slots, ?_⟩, Or.inr rfl, ?_⟩
    · rw [hAfter, hTable]
      exact hSame.symm ▸ hRefines
    · rw [hGuarded]
      refine iff_of_false (Option.some_ne_none _) ?_
      exact fun hAll => hAll.2 hNull
  · rcases hRefines.call c hNull
        (fun sd hSd hOpen => hNew sd ⟨hSd, hOpen⟩) with
      ⟨t, slots', hCall, hRefines'⟩
    rw [hCall] at hStep
    cases hStep
    have hFault := hRefines'.fault
    have hSame' : { s' with fault := none } = s' := by
      rw [← hFault]
    refine ⟨⟨slots', ?_⟩, Or.inl hFault, ?_⟩
    · rw [hAfter, hSame']
      exact hRefines'
    · rw [hGuarded]
      exact iff_of_true hFault ⟨hBefore, hNull⟩

/- The program and the table agree after each run. -/
theorem tcpProgram_tracks
    {calls : List TcpCall}
    {s : TcpProgram}
    (hRun : tcpProgram.run calls = some s) :
    s.Tracks calls := by
  refine tcpProgram.run_induction
    (fun calls s => s.Tracks calls)
    ⟨⟨[], .start⟩, Or.inl rfl, iff_of_true rfl trivial⟩ ?_
    hRun
  intro calls s c s' hBefore h hStep
  exact h.step hBefore hStep

end SensorGateway
