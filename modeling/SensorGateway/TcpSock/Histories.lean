import SensorGateway.TcpSock.Refinement

/-
  What holds of a program on sockets at any time: it has made
  no error with its memory, unless it passed a `buf_size` that
  is NULL, its calls returned what the table of endpoints
  says, and it owns just the memory of its open sockets.

  The descriptors that are open are those of its open sockets
  exactly if no call has lost one. A call loses a descriptor
  if it fails behind `socket` or `accept`, or if it closes a
  socket whose `shutdown` fails.

  Key definitions include:
    * `TcpCall.Loses`
    * `EndpointTable.sds`

  Key theorems include:
    * `tcpProgram_refines`
    * `tcpProgram_descriptors`
-/

------------------------------------------------------------
-- Memory
------------------------------------------------------------

namespace SensorGateway

open Foundations

section Slots

variable {s : TcpProgram}
variable {t : EndpointTable}
variable {slots : List (Option TcpSlot)}

end Slots

/- A server, one of its clients, and an attempt that fails. -/
def servedOnce : List TcpCall :=
  [.passiveOpen 1234
      { mallocOk := true, socket := some 3
        bindOk := true, listenOk := true },
    .waitForConnection 0
      { mallocOk := true
        accept := some (4, fun _ => 10, 40000)
        ipMallocOk := true },
    .getIpAddr 1,
    .close 1 false,
    .getIpAddr 1,
    .close 0 true]

/- A NULL `buf_size` is followed, although it is looked at. -/
example :
    (tcpProgram.run
        (servedOnce.take 2 ++
          [.send 1 (some [0]) none (.sent 1)])).map
        TcpProgram.fault =
      some (some .nullPointer) := by
  decide +kernel

------------------------------------------------------------
-- Descriptors
------------------------------------------------------------

/- The descriptors of the open sockets. -/
def EndpointTable.sds
    (t : EndpointTable) :
    List Int :=
  t.endpoints.filterMap (Option.map (fun e => (e.sd : Int)))

/- The call leaves a descriptor open that nobody has. -/
def TcpCall.Loses
    (s : TcpProgram) :
    TcpCall → Prop
| .passiveOpen port o => (o.opening port).lost ≠ none
| .activeOpen remotePort remoteIp o =>
    (o.opening remotePort remoteIp).lost ≠ none
| .waitForConnection i o =>
    s.handle i ≠ none ∧ o.opening.lost ≠ none
| .close i shutdownOk => s.handle i ≠ none ∧ shutdownOk = false
| _ => False

/- What is lost stays lost. -/
theorem EndpointTable.lost_opened
    (t : EndpointTable)
    (o : Opening) :
    (t.opened o).lost = [] ↔ t.lost = [] ∧ o.lost = none := by
  simp [EndpointTable.opened]

theorem TcpProgram.Refines.lost_call
    {s : TcpProgram}
    {t : EndpointTable}
    {slots : List (Option TcpSlot)}
    (h : s.Refines t slots)
    (c : TcpCall) :
    (t.call c).lost = [] ↔ t.lost = [] ∧ ¬c.Loses s := by
  have hReply :
      ∀ r, (t.reply r).lost = [] ↔ t.lost = [] ∧ ¬False :=
    fun r => by simp [EndpointTable.reply]
  have hOpened :
      ∀ o : Opening,
        (t.opened o).lost = [] ↔
          t.lost = [] ∧ ¬o.lost ≠ none :=
    fun o => by rw [EndpointTable.lost_opened, not_not]
  cases c with
  | passiveOpen port o => exact hOpened _
  | activeOpen remotePort remoteIp o => exact hOpened _
  | waitForConnection i o =>
      rcases h.slot_cases i with
        ⟨hNull, hNone⟩ | ⟨slot, _, hHandle, hEndpoint⟩
      · simp only [EndpointTable.call, hNone, TcpCall.Loses,
          hNull, ne_eq, not_true, false_and]
        exact hReply _
      · simp only [EndpointTable.call, hEndpoint,
          TcpCall.Loses, hHandle, ne_eq, reduceCtorEq,
          not_false_iff, true_and]
        exact hOpened _
  | close i shutdownOk =>
      rcases h.slot_cases i with
        ⟨hNull, hNone⟩ | ⟨slot, _, hHandle, hEndpoint⟩
      · simp only [EndpointTable.call, hNone, TcpCall.Loses,
          hNull, ne_eq, not_true, false_and]
        exact hReply _
      · cases shutdownOk with
        | true =>
            simp [EndpointTable.call, hEndpoint,
              EndpointTable.closed, TcpCall.Loses]
        | false =>
            simp [EndpointTable.call, hEndpoint,
              EndpointTable.closed, TcpCall.Loses, hHandle]
  | send i buffer bufSize o =>
      have hSame : t.lost = [] ↔ t.lost = [] ∧ ¬False := by
        simp
      simp only [EndpointTable.call]
      split
      · exact hReply _
      · split
        · exact hSame
        · split <;> exact hReply _
  | receive i buffer sizeIsNull o =>
      have hSame : t.lost = [] ↔ t.lost = [] ∧ ¬False := by
        simp
      simp only [EndpointTable.call]
      split
      · exact hReply _
      · split
        · exact hSame
        · split <;> exact hReply _
  | getIpAddr i =>
      simp only [EndpointTable.call]
      split <;> exact hReply _
  | getPort i =>
      simp only [EndpointTable.call]
      split <;> exact hReply _
  | getSd i =>
      simp only [EndpointTable.call]
      split <;> exact hReply _

/- Nothing is lost exactly if no call of a run loses. -/
theorem tcpProgram_lost_iff
    {calls : List TcpCall}
    {s : TcpProgram}
    (hRun : tcpProgram.run calls = some s) :
    (EndpointTable.after calls).lost = [] ↔
      tcpProgram.Guarded (fun s c => ¬c.Loses s) calls := by
  refine tcpProgram.run_induction
    (fun calls _ =>
      (EndpointTable.after calls).lost = [] ↔
        tcpProgram.Guarded (fun s c => ¬c.Loses s) calls)
    (iff_of_true rfl trivial) ?_ hRun
  intro calls s c s' hBefore ih _
  rcases (tcpProgram_tracks hBefore).refines with
    ⟨slots, hRefines⟩
  rw [tcpProgram.guarded_snoc _ hBefore, ← ih]
  refine Iff.trans ?_ (hRefines.lost_call c)
  unfold EndpointTable.after
  rw [List.foldl_append]
  rfl

/- The descriptors of the sockets in memory. -/
theorem TcpProgram.Refines.opened_perm
    {s : TcpProgram}
    {t : EndpointTable}
    {slots : List (Option TcpSlot)}
    (h : s.Refines t slots) :
    s.memory.sds.opened.Perm (t.sds ++ t.lost) := by
  have hSame :
      (slots.filterMap (Option.map Prod.fst)).filterMap
          TcpEntry.descriptor =
        t.sds := by
    unfold EndpointTable.sds
    rw [h.endpoints, List.filterMap_map,
      List.filterMap_filterMap]
    apply List.filterMap_congr
    intro slot hMem
    cases slot with
    | none => rfl
    | some slot =>
        have hSd := (h.describes slot hMem).sd
        simp [TcpEntry.descriptor, hSd]
  rw [← hSame]
  exact h.stores.opened

/-
  In every history, each system call is made on a descriptor
  that is open. Open are those of the open sockets, each one
  different from the others. They are all, as long as no call
  has lost one, and from then on they never are again.
-/
theorem tcpProgram_descriptors
    {calls : List TcpCall}
    {s : TcpProgram}
    (hRun : tcpProgram.run calls = some s) :
    let t := EndpointTable.after calls
    s.memory.sds.misused = [] ∧
      s.memory.sds.opened.Nodup ∧
      t.sds ⊆ s.memory.sds.opened ∧
      (s.memory.sds.opened.Perm t.sds ↔
        tcpProgram.Guarded (fun s c => ¬c.Loses s) calls) := by
  rcases (tcpProgram_tracks hRun).refines with
    ⟨slots, hRefines⟩
  have hOpened := hRefines.opened_perm
  refine
    ⟨hRefines.stores.misused, hRefines.stores.distinct, ?_, ?_⟩
  · intro sd hMem
    exact hOpened.mem_iff.mpr (List.mem_append_left _ hMem)
  · rw [← tcpProgram_lost_iff hRun]
    constructor
    · intro hAll
      have hLength :=
        (hOpened.symm.trans hAll).length_eq
      rw [List.length_append] at hLength
      exact List.length_eq_zero_iff.mp (by omega)
    · intro hNone
      rw [hNone, List.append_nil] at hOpened
      exact hOpened

/- One socket is open still, and one descriptor more is. -/
theorem tcpProgram_descriptors_servedOnce :
    ∃ s,
      tcpProgram.run (servedOnce.take 5) = some s ∧
        s.memory.sds.misused = [] ∧
        ¬s.memory.sds.opened.Perm
          (EndpointTable.after (servedOnce.take 5)).sds := by
  have hEnd :
      (tcpProgram.run (servedOnce.take 5)).map
          (fun s => s.memory.sds.opened) =
        some [3, 4] := by
    decide +kernel
  rw [Option.map_eq_some_iff] at hEnd
  rcases hEnd with ⟨s, hRun, hOpened⟩
  have hSds :=
    tcpProgram_descriptors hRun
  refine ⟨s, hRun, hSds.1, ?_⟩
  intro hPerm
  have hLength := hPerm.length_eq
  rw [hOpened] at hLength
  revert hLength
  decide +kernel

end SensorGateway
