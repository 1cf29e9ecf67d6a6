import SensorGateway.Foundations.System
import SensorGateway.Sbuffer.Basic

/-
  The buffer as a queue: `sbuffer_remove` next to
  `sbuffer_insert`, in the project and in the solution of the
  fourth lab, and the two versions of `sbuffer_free`.

  Each function is one atomic step, also the removal; where
  the buffer is empty, the caller waits instead. Any mix of
  inserts and removals keeps the list intact and loses no
  node.

  Key definitions include:
    * `sbufferRemove`
    * `Plab4.sbufferInit`
    * `Plab4.sbufferFree`
    * `Queue`
    * `queueSystem`
    * `Queue.WellFormed`

  Key theorems include:
    * `sbufferRemove_of_represents`
    * `sbufferFree_of_represents`
    * `Plab4.sbufferFree_of_represents`
    * `queueSystem_wellFormed`
-/

------------------------------------------------------------
-- Removal
------------------------------------------------------------

namespace SensorGateway

open Foundations

section Functions

variable {V : Type}

/-
  `sbuffer_remove` with the caller's `*data`. It returns
  nothing if the caller has to wait on `cond_var`.
-/
def sbufferRemove
    (b : Sbuffer V)
    (data : SensorData V) :
    Except Fault
      (Option (SbufferRet × SensorData V × Sbuffer V)) :=
  match b.buffer with
  | .null => .ok (some (.failure, data, b))
  | .freed => .error .danglingPointer
  | .allocated none _ => .ok none
  | .allocated head tail => do
      let node ← b.heap.read head
      let data := node.data
      let dummy := head
      if head = tail then
        let heap ← b.heap.free dummy
        return some
          (.success, data,
            { heap := heap, buffer := .allocated none none })
      else
        let node ← b.heap.read head
        let heap ← b.heap.free dummy
        return some
          (.success, data,
            { heap := heap
              buffer := .allocated node.next tail })

------------------------------------------------------------
-- The Buffer of the Fourth Lab
------------------------------------------------------------

namespace Plab4

/- `sbuffer_init`; `mallocOk` is the outcome of `malloc`. -/
def sbufferInit
    (mallocOk : Bool) :
    SbufferRet × Sbuffer V :=
  if mallocOk then
    (.success, Sbuffer.fresh)
  else
    (.failure, { heap := Heap.empty, buffer := .null })

/- `sbuffer_insert` has the same text as in the project. -/
def sbufferInsert
    (b : Sbuffer V)
    (data : SensorData V)
    (mallocOk : Bool) :
    Except Fault (SbufferRet × Sbuffer V) :=
  SensorGateway.sbufferInsert b data mallocOk

/- So has `sbuffer_remove`. -/
def sbufferRemove
    (b : Sbuffer V)
    (data : SensorData V) :
    Except Fault
      (Option (SbufferRet × SensorData V × Sbuffer V)) :=
  SensorGateway.sbufferRemove b data

/- The loop of `sbuffer_free`, which moves the head. -/
def sbufferFreeLoop :
    Nat → Sbuffer V → Except Fault (Sbuffer V)
| 0, _ => .error .outOfFuel
| fuel + 1, b =>
    match b.buffer with
    | .null => .error .nullPointer
    | .freed => .error .danglingPointer
    | .allocated none _ => .ok b
    | .allocated head tail => do
        let dummy := head
        let node ← b.heap.read head
        let heap ← b.heap.free dummy
        sbufferFreeLoop fuel
          { heap := heap
            buffer := .allocated node.next tail }

/- `sbuffer_free`; the caller's pointer is NULL afterwards. -/
def sbufferFree
    (b : Sbuffer V) :
    Except Fault (SbufferRet × Sbuffer V) :=
  match b.buffer with
  | .null => .ok (.failure, b)
  | .freed => .error .danglingPointer
  | .allocated _ _ => do
      let b ← sbufferFreeLoop (b.heap.next + 1) b
      return (.success, { b with buffer := .null })

end Plab4

------------------------------------------------------------
-- Represented Buffers
------------------------------------------------------------

/- The link of a node, from its layout. -/
theorem SbufferNode.next_layout
    (p n : Option Nat)
    (data : SensorData V) :
    (SbufferNode.layout p n data).next = n := rfl

/- A node does not know what is in front of it. -/
theorem linked_of_linked
    {cell : Nat → Option (SbufferNode V)}
    {p p' nxt : Option Nat}
    {nodes : List (Nat × SensorData V)}
    (hLinked :
      Segment.Linked SbufferNode.layout cell p nodes nxt) :
    Segment.Linked SbufferNode.layout cell p' nodes nxt := by
  cases nodes with
  | nil => trivial
  | cons node nodes => exact hLinked

namespace Sbuffer.Represents

variable {b : Sbuffer V}
variable {nodes rest : List (Nat × SensorData V)}
variable {a : Nat}
variable {x : SensorData V}

/- The buffer without its first node. -/
theorem drop
    (hRep : b.Represents ((a, x) :: rest)) :
    Sbuffer.Represents
      { heap := b.heap.drop a
        buffer :=
          .allocated (Segment.first rest none)
            (Segment.last none rest) }
      rest := by
  have hNodup := hRep.chain.nodup
  rw [List.map_cons, List.nodup_cons] at hNodup
  refine ⟨rfl, rfl, ?_, hNodup.2⟩
  apply linked_of_linked (p := some a)
  apply Segment.linked_congr _ hRep.chain.linked.2
  intro c hMem
  apply Heap.drop_cell_of_ne
  intro hEq
  exact hNodup.1 (hEq ▸ hMem)

/- The first node is the last one if it is the only one. -/
theorem last_eq_iff
    (hRep : b.Represents ((a, x) :: rest)) :
    Segment.last none ((a, x) :: rest) = some a ↔
      rest = [] := by
  have hNodup := hRep.chain.nodup
  rw [List.map_cons, List.nodup_cons] at hNodup
  rcases List.eq_nil_or_concat' rest with
    rfl | ⟨ys, ⟨c, y⟩, rfl⟩
  · simp
  · rw [← List.cons_append, Segment.last_concat]
    constructor
    · intro hEq
      exact absurd (by simp [Option.some.inj hEq]) hNodup.1
    · intro hNil
      exact absurd hNil (by simp)

/- The head is null exactly if the tail is. -/
theorem head_iff_tail
    (nodes : List (Nat × SensorData V)) :
    Segment.first nodes none = none ↔
      Segment.last none nodes = none := by
  rw [Segment.last_none_iff]
  cases nodes with
  | nil => simp
  | cons node nodes =>
      rcases node with ⟨a, x⟩
      simp

end Sbuffer.Represents

/- An empty buffer makes its reader wait. -/
theorem sbufferRemove_of_empty
    {b : Sbuffer V}
    (hRep : b.Represents [])
    (data : SensorData V) :
    sbufferRemove b data = .ok none := by
  simp [sbufferRemove, hRep.buffer_eq]

/-
  A removal returns the first record and frees its node; the
  two cases of the code leave the same buffer.
-/
theorem sbufferRemove_of_represents
    {b : Sbuffer V}
    {rest : List (Nat × SensorData V)}
    {a : Nat}
    {x : SensorData V}
    (hRep : b.Represents ((a, x) :: rest))
    (data : SensorData V) :
    sbufferRemove b data =
      .ok (some
        (.success, x,
          { heap := b.heap.drop a
            buffer :=
              .allocated (Segment.first rest none)
                (Segment.last none rest) })) := by
  have hCell :
      b.heap.cell a =
        some ⟨Segment.first rest none, x⟩ :=
    hRep.chain.linked.1
  have hLast := hRep.last_eq_iff
  by_cases hOne : rest = []
  · -- the only node
    subst hOne
    simp [sbufferRemove, hRep.buffer_eq,
      Heap.read_of_cell _ hCell, Heap.free_of_cell _ hCell]
  · -- the tail stays, as it is behind the first node
    have hNe :
        ¬ some a = Segment.last none ((a, x) :: rest) := by
      intro hEq
      exact hOne (hLast.mp hEq.symm)
    have hTail :
        Segment.last none ((a, x) :: rest) =
          Segment.last none rest := by
      cases rest with
      | nil => exact absurd rfl hOne
      | cons node rest => rfl
    rw [hTail] at hNe
    rw [sbufferRemove, hRep.buffer_eq]
    simp only [Segment.first_cons, hTail, if_neg hNe,
      Heap.read_of_cell _ hCell, Heap.free_of_cell _ hCell,
      Fault.ok_bind, Fault.pure_eq_ok]

------------------------------------------------------------
-- The End of a Buffer
------------------------------------------------------------

/-
  The loop frees the nodes of the chain, and so all nodes.
  Induction over the chain.
-/
theorem sbufferFreeLoop_of_linked
    {nodes : List (Nat × SensorData V)}
    {heap : Heap (SbufferNode V)}
    {p : Option Nat}
    (hLinked :
      Segment.Linked SbufferNode.layout heap.cell p nodes
        none)
    (hOwns : heap.Owns (nodes.map Prod.fst))
    {fuel : Nat}
    (hFuel : nodes.length < fuel) :
    ∃ heap',
      sbufferFreeLoop fuel heap (Segment.first nodes none) =
          .ok heap' ∧
        heap'.next = heap.next ∧ heap'.Owns [] := by
  induction nodes generalizing heap p fuel with
  | nil =>
      cases fuel with
      | zero => exact absurd hFuel (Nat.not_lt_zero _)
      | succ fuel =>
          exact ⟨heap, by simp [sbufferFreeLoop], rfl, hOwns⟩
  | cons node nodes ih =>
      rcases node with ⟨a, x⟩
      cases fuel with
      | zero => exact absurd hFuel (Nat.not_lt_zero _)
      | succ fuel =>
          have hCell :
              heap.cell a =
                some ⟨Segment.first nodes none, x⟩ :=
            hLinked.1
          have hRest :
              Segment.Linked SbufferNode.layout
                (heap.drop a).cell (some a) nodes none := by
            apply Segment.linked_congr _ hLinked.2
            intro c hMem
            apply Heap.drop_cell_of_ne
            intro hEq
            exact (List.nodup_cons.mp hOwns.nodup).1
              (hEq ▸ hMem)
          rcases ih hRest hOwns.drop
              (Nat.lt_of_succ_lt_succ hFuel) with
            ⟨heap', hLoop, hNext, hOwns'⟩
          refine ⟨heap', ?_, hNext, hOwns'⟩
          rw [← hLoop]
          simp [sbufferFreeLoop, Heap.read_of_cell _ hCell,
            Heap.free_of_cell _ hCell]

/- `sbuffer_free` of the project leaves no node. -/
theorem sbufferFree_of_represents
    {b : Sbuffer V}
    {nodes : List (Nat × SensorData V)}
    (hRep : b.Represents nodes)
    (hOwns : b.heap.Owns (nodes.map Prod.fst)) :
    ∃ b' : Sbuffer V,
      sbufferFree b = .ok b' ∧ b'.buffer = .freed ∧
        b'.heap.next = b.heap.next ∧ b'.heap.Owns [] := by
  have hFuel :=
    Nat.lt_succ_of_le hRep.chain.length_le_next
  rcases sbufferFreeLoop_of_linked hRep.chain.linked hOwns
      hFuel with
    ⟨heap, hLoop, hNext, hOwns'⟩
  refine ⟨⟨heap, .freed⟩, ?_, rfl, hNext, hOwns'⟩
  simp [sbufferFree, hRep.buffer_eq, hLoop]

/-
  The loop of the fourth lab does the same, with the head of
  the buffer as its variable.
-/
theorem Plab4.sbufferFreeLoop_eq
    (fuel : Nat)
    (heap : Heap (SbufferNode V))
    (head tail : Option Nat) :
    Plab4.sbufferFreeLoop fuel
        ⟨heap, .allocated head tail⟩ =
      (SensorGateway.sbufferFreeLoop fuel heap head).map
        (fun heap => ⟨heap, .allocated none tail⟩) := by
  induction fuel generalizing heap head with
  | zero => rfl
  | succ fuel ih =>
      cases head with
      | none => rfl
      | some a =>
          simp only [Plab4.sbufferFreeLoop,
            SensorGateway.sbufferFreeLoop, reduceCtorEq,
            if_false]
          cases heap.read (some a) with
          | error f => rfl
          | ok node =>
              cases heap.free (some a) with
              | error f => rfl
              | ok heap' => exact ih heap' node.next

/- `sbuffer_free` of the fourth lab leaves no node either. -/
theorem Plab4.sbufferFree_of_represents
    {b : Sbuffer V}
    {nodes : List (Nat × SensorData V)}
    (hRep : b.Represents nodes)
    (hOwns : b.heap.Owns (nodes.map Prod.fst)) :
    ∃ b' : Sbuffer V,
      Plab4.sbufferFree b = .ok (.success, b') ∧
        b'.buffer = .null ∧
        b'.heap.next = b.heap.next ∧ b'.heap.Owns [] := by
  have hFuel :=
    Nat.lt_succ_of_le hRep.chain.length_le_next
  rcases sbufferFreeLoop_of_linked hRep.chain.linked hOwns
      hFuel with
    ⟨heap, hLoop, hNext, hOwns'⟩
  refine ⟨⟨heap, .null⟩, ?_, rfl, hNext, hOwns'⟩
  rcases b with ⟨bHeap, buffer⟩
  have hBuffer := hRep.buffer_eq
  simp only at hBuffer
  subst hBuffer
  rw [Plab4.sbufferFree]
  simp [Plab4.sbufferFreeLoop_eq, hLoop, Except.map]

end Functions

------------------------------------------------------------
-- Histories of Inserts and Removals
------------------------------------------------------------

section Histories

variable {V : Type}

/-
  A buffer in use by any threads: the records whose insert
  returned success, the records that removals returned, both
  in order, and the fault of a call, if one had a fault.
-/
structure Queue (V : Type) where
  buf : Sbuffer V
  inserted : List (SensorData V)
  removed : List (SensorData V)
  fault : Option Fault

/- The queue behind `sbuffer_init`. -/
def Queue.start : Queue V where
  buf := Sbuffer.fresh
  inserted := []
  removed := []
  fault := none

/-
  A thread inserts a record, where `mallocOk` is the outcome
  of `malloc`, or removes one into its variable.
-/
inductive QueueAction (V : Type) where
  | insert (data : SensorData V) (mallocOk : Bool)
  | remove (data : SensorData V)

/-
  One call. A removal that would have to wait is no step, and
  behind a fault there are no steps.
-/
def queueStep
    (s : Queue V)
    (a : QueueAction V) :
    Option (Queue V) :=
  if s.fault.isSome then
    none
  else
    match a with
    | .insert data mallocOk =>
        match sbufferInsert s.buf data mallocOk with
        | .error f => some { s with fault := some f }
        | .ok (.success, buf) =>
            some
              { s with
                  buf := buf
                  inserted := s.inserted ++ [data] }
        | .ok (_, buf) => some { s with buf := buf }
    | .remove data =>
        match sbufferRemove s.buf data with
        | .error f => some { s with fault := some f }
        | .ok none => none
        | .ok (some (.success, data, buf)) =>
            some
              { s with
                  buf := buf
                  removed := s.removed ++ [data] }
        | .ok (some (_, _, buf)) => some { s with buf := buf }

def queueSystem
    (V : Type) :
    System (Queue V) (QueueAction V) where
  init := .start
  step := queueStep

/- The queue holds the records of `nodes` and no others. -/
structure Queue.Holds
    (s : Queue V)
    (nodes : List (Nat × SensorData V)) : Prop where
  no_fault : s.fault = none
  represents : s.buf.Represents nodes
  owns : s.buf.heap.Owns (nodes.map Prod.fst)
  records_eq :
    s.inserted = s.removed ++ nodes.map Prod.snd

namespace Queue.Holds

theorem start :
    (Queue.start : Queue V).Holds [] where
  no_fault := rfl
  represents := Sbuffer.fresh_represents
  owns := Heap.Owns.empty
  records_eq := rfl

/- Every call goes through and keeps the queue. -/
theorem of_step
    {s t : Queue V}
    {nodes : List (Nat × SensorData V)}
    (h : s.Holds nodes)
    {a : QueueAction V}
    (hStep : queueStep s a = some t) :
    ∃ nodes', t.Holds nodes' := by
  have hGo : ¬ s.fault.isSome = true := by
    rw [h.no_fault]
    simp
  unfold queueStep at hStep
  rw [if_neg hGo] at hStep
  cases a with
  | insert data mallocOk =>
      cases mallocOk with
      | false =>
          simp only [
            sbufferInsert_of_malloc_failure h.represents,
            Option.some.injEq] at hStep
          exact ⟨nodes, hStep ▸ h⟩
      | true =>
          rcases sbufferInsert_of_represents h.represents
              data with
            ⟨buf, hInsert, hRep, hOwns⟩
          simp only [hInsert, Option.some.injEq] at hStep
          subst hStep
          refine ⟨_, h.no_fault, hRep, ?_, ?_⟩
          · rw [List.map_append]
            exact hOwns _ h.owns
          · simp only
            rw [h.records_eq, List.map_append,
              List.append_assoc]
            rfl
  | remove data =>
      cases nodes with
      | nil =>
          simp only [sbufferRemove_of_empty h.represents]
            at hStep
          cases hStep
      | cons node rest =>
          rcases node with ⟨a, x⟩
          simp only [sbufferRemove_of_represents h.represents,
            Option.some.injEq] at hStep
          subst hStep
          refine ⟨rest, h.no_fault, h.represents.drop,
            h.owns.drop, ?_⟩
          simp only
          rw [h.records_eq, List.map_cons, List.append_assoc]
          rfl

end Queue.Holds

/- The queue holds some list in every reachable state. -/
theorem queueSystem_holds
    {actions : List (QueueAction V)}
    {s : Queue V}
    (hRun : (queueSystem V).run actions = some s) :
    ∃ nodes, s.Holds nodes := by
  refine System.invariant_of_step _
    (fun s => ∃ nodes, s.Holds nodes)
    ⟨[], Queue.Holds.start⟩ ?_ hRun
  rintro s a t ⟨nodes, h⟩ hStep
  exact h.of_step hStep

------------------------------------------------------------
-- The Shape of the Queue
------------------------------------------------------------

/-
  What the pointers of a buffer look like. Either both are
  null, or the tail is the one node with a null link that is
  reached from the head. No node is reached again from its
  own link, and the nodes that are reached are the live ones.
-/
structure Sbuffer.WellShaped
    (b : Sbuffer V)
    (head tail : Option Nat) : Prop where
  buffer_eq : b.buffer = .allocated head tail
  null_iff : head = none ↔ tail = none
  tail_unique :
    ∀ a, b.heap.Reaches SbufferNode.next head a →
      (b.heap.link SbufferNode.next a = none ↔
        tail = some a)
  tail_reached :
    ∀ a, tail = some a →
      b.heap.Reaches SbufferNode.next head a
  acyclic :
    ∀ a, b.heap.Reaches SbufferNode.next head a →
      ¬ b.heap.Reaches SbufferNode.next
        (b.heap.link SbufferNode.next a) a
  live_iff :
    ∀ a, (b.heap.cell a).isSome = true ↔
      b.heap.Reaches SbufferNode.next head a

/-
  No call had a fault, the pointers are intact, and removals
  return the inserted records, each once and in order: those
  at the front are removed, and all if the buffer is empty.
-/
structure Queue.WellFormed
    (s : Queue V) : Prop where
  no_fault : s.fault = none
  shape : ∃ head tail, s.buf.WellShaped head tail
  fifo : s.removed <+: s.inserted
  drained :
    s.buf.buffer = .allocated none none →
      s.removed = s.inserted

/- The buffer is gone, and each node was freed just once. -/
structure Sbuffer.FreedOnce
    (b b' : Sbuffer V) : Prop where
  nodes_eq : b'.heap.next = b.heap.next
  none_live : ∀ a, b'.heap.cell a = none
  freed_once :
    ∀ a < b'.heap.next, b'.heap.freed.count a = 1

theorem Sbuffer.FreedOnce.of_owns
    {b b' : Sbuffer V}
    (hNext : b'.heap.next = b.heap.next)
    (hOwns : b'.heap.Owns []) :
    b.FreedOnce b' where
  nodes_eq := hNext
  none_live := by
    intro a
    rw [← Option.isNone_iff_eq_none,
      ← Option.isSome_eq_false_iff]
    by_contra hNot
    rw [Bool.not_eq_false, hOwns.live] at hNot
    cases hNot
  freed_once := fun _ hLt => hOwns.freed_once hLt

theorem Sbuffer.Represents.wellShaped
    {b : Sbuffer V}
    {nodes : List (Nat × SensorData V)}
    (hRep : b.Represents nodes)
    (hOwns : b.heap.Owns (nodes.map Prod.fst)) :
    b.WellShaped (Segment.first nodes none)
      (Segment.last none nodes) := by
  have hReaches :=
    hRep.chain.reaches_iff SbufferNode.next_layout
  constructor
  · exact hRep.buffer_eq
  · exact Sbuffer.Represents.head_iff_tail nodes
  · intro a hReached
    exact hRep.chain.link_eq_none_iff SbufferNode.next_layout
      hReached
  · intro a hTail
    rw [hReaches]
    rcases List.eq_nil_or_concat' nodes with
      rfl | ⟨before, ⟨c, x⟩, rfl⟩
    · cases hTail
    · rw [Segment.last_concat, Option.some.injEq] at hTail
      simp [hTail]
  · intro a hReached
    exact hRep.chain.acyclic SbufferNode.next_layout hReached
  · intro a
    rw [hReaches, hOwns.live]

/-
  After any history of inserts and removals, the queue is
  well formed, and either `sbuffer_free` frees what is left,
  so that each node of the history is freed exactly once.
-/
theorem queueSystem_wellFormed
    (actions : List (QueueAction V))
    {s : Queue V}
    (hRun : (queueSystem V).run actions = some s) :
    s.WellFormed ∧
      (∃ b,
        sbufferFree s.buf = .ok b ∧ s.buf.FreedOnce b) ∧
      ∃ b,
        Plab4.sbufferFree s.buf = .ok (.success, b) ∧
          s.buf.FreedOnce b := by
  rcases queueSystem_holds hRun with ⟨nodes, h⟩
  refine ⟨⟨h.no_fault, ?_, ?_, ?_⟩, ?_, ?_⟩
  · exact ⟨_, _, h.represents.wellShaped h.owns⟩
  · exact ⟨nodes.map Prod.snd, h.records_eq.symm⟩
  · intro hEmpty
    rw [h.represents.buffer_eq] at hEmpty
    have hNil : nodes = [] := by
      rw [← Segment.last_none_iff]
      exact (BufferPtr.allocated.inj hEmpty).2
    rw [h.records_eq, hNil, List.map_nil, List.append_nil]
  · rcases sbufferFree_of_represents h.represents h.owns with
      ⟨b, hFree, _, hNext, hOwns⟩
    exact ⟨b, hFree, .of_owns hNext hOwns⟩
  · rcases Plab4.sbufferFree_of_represents h.represents
        h.owns with
      ⟨b, hFree, _, hNext, hOwns⟩
    exact ⟨b, hFree, .of_owns hNext hOwns⟩

end Histories

/-
  A queue that is emptied, and one record behind that: the
  append does not use the node that was freed.
-/
def refill : List (QueueAction (BitVec 64)) :=
  [.insert ⟨1, 2, 3⟩ true, .remove ⟨0, 0, 0⟩,
    .insert ⟨4, 5, 6⟩ true]

theorem queue_refilled :
    ∃ s : Queue (BitVec 64),
      (queueSystem (BitVec 64)).run refill = some s ∧
        s.removed = [⟨1, 2, 3⟩] ∧ s.WellFormed :=
  ⟨_, rfl, rfl, (queueSystem_wellFormed refill rfl).1⟩

end SensorGateway
