import SensorGateway.Config
import SensorGateway.Foundations.Segment

/-
  The shared buffer of `sbuffer.c`: a singly linked list of
  records with a head and a tail pointer, into which any
  thread inserts and along which each reader walks with its
  own node pointer.

  Each function is one atomic step here, so the mutex and the
  condition variable of `struct sbuffer` are left out.

  Key definitions include:
    * `Sbuffer`
    * `sbufferInit`
    * `sbufferInsert`
    * `sbufferRead`
    * `sbufferFree`

  Key theorems include:
    * `sbufferInsert_of_represents`
    * `sbufferRead_of_represents_end`
    * `sbufferRead_of_represents_next`
-/

------------------------------------------------------------
-- The Buffer and its Functions
------------------------------------------------------------

namespace SensorGateway

open Foundations

/- `sbuffer_node_struct`. -/
structure SbufferNode (V : Type) where
  next : Option Nat
  data : SensorData V

/-
  The global `buffer`: null before `sbuffer_init`, then a
  `struct sbuffer`, and dangling after `sbuffer_free`.
-/
inductive BufferPtr where
  | null
  | allocated (head tail : Option Nat)
  | freed
deriving DecidableEq

/- The buffer with the heap of its nodes. -/
structure Sbuffer (V : Type) where
  heap : Heap (SbufferNode V)
  buffer : BufferPtr

/- The return codes of `sbuffer.h`. -/
inductive SbufferRet where
  | failure
  | success
  | empty
deriving DecidableEq, Repr

variable {V : Type}

/- The buffer that `sbuffer_init` sets up. -/
def Sbuffer.fresh : Sbuffer V where
  heap := Heap.empty
  buffer := .allocated none none

/- `sbuffer_init`; `mallocOk` is the outcome of `malloc`. -/
def sbufferInit
    (mallocOk : Bool) :
    Except Fault (Sbuffer V) :=
  if mallocOk then
    .ok Sbuffer.fresh
  else
    .error .processExit

/- `sbuffer_insert`; `mallocOk` is the outcome of `malloc`. -/
def sbufferInsert
    (b : Sbuffer V)
    (data : SensorData V)
    (mallocOk : Bool) :
    Except Fault (SbufferRet × Sbuffer V) :=
  match b.buffer with
  | .null => .ok (.failure, b)
  | .freed => .error .danglingPointer
  | .allocated head tail =>
      if !mallocOk then
        .ok (.failure, b)
      else
        let dummy := some b.heap.next
        let heap :=
          b.heap.alloc { next := none, data := data }
        match tail with
        | none =>
            .ok (.success,
              { heap := heap
                buffer := .allocated dummy dummy })
        | some _ => do
            let node ← heap.read tail
            let heap ←
              heap.write tail { node with next := dummy }
            let node ← heap.read tail
            return (.success,
              { heap := heap
                buffer := .allocated head node.next })

/-
  `sbuffer_read` with the reader's `*node` and `*data`. It
  returns their new contents with the return code, and does
  not touch the buffer.
-/
def sbufferRead
    (b : Sbuffer V)
    (node : Option Nat)
    (data : SensorData V) :
    Except Fault
      (SbufferRet × Option Nat × SensorData V) :=
  match b.buffer with
  | .null => .error .processExit
  | .freed => .error .danglingPointer
  | .allocated none _ => .ok (.empty, node, data)
  | .allocated head _ => do
      if node = none then
        let first ← b.heap.read head
        return (.success, head, first.data)
      else
        let current ← b.heap.read node
        if current.next ≠ none then
          let following ← b.heap.read current.next
          return (.success, current.next, following.data)
        else
          return (.empty, node, data)

/- The loop of `sbuffer_free` from the node `current`. -/
def sbufferFreeLoop :
    Nat → Heap (SbufferNode V) → Option Nat →
      Except Fault (Heap (SbufferNode V))
| 0, _, _ => .error .outOfFuel
| fuel + 1, heap, current =>
    if current = none then
      .ok heap
    else do
      let node ← heap.read current
      let heap ← heap.free current
      sbufferFreeLoop fuel heap node.next

/- `sbuffer_free`. -/
def sbufferFree
    (b : Sbuffer V) :
    Except Fault (Sbuffer V) :=
  match b.buffer with
  | .null => .error .nullPointer
  | .freed => .error .danglingPointer
  | .allocated head _ => do
      let heap ←
        sbufferFreeLoop (b.heap.next + 1) b.heap head
      return { heap := heap, buffer := .freed }

------------------------------------------------------------
-- Buffers that Hold a List of Records
------------------------------------------------------------

/- The layout of a buffer node; it has no link backwards. -/
def SbufferNode.layout
    (_prev next : Option Nat)
    (data : SensorData V) :
    SbufferNode V where
  next := next
  data := data

/-
  The buffer holds the records of `nodes`, in order, at the
  addresses of `nodes`; `tail` is the last of them.
-/
structure Sbuffer.Represents
    (b : Sbuffer V)
    (nodes : List (Nat × SensorData V)) : Prop where
  buffer_eq :
    b.buffer =
      .allocated (Segment.first nodes none)
        (Segment.last none nodes)
  chain :
    Chain SbufferNode.layout b.heap
      (Segment.first nodes none) nodes

/- The list of the buffer holds these records, in order. -/
def Sbuffer.Holds
    (b : Sbuffer V)
    (records : List (SensorData V)) : Prop :=
  ∃ nodes,
    b.Represents nodes ∧ nodes.map Prod.snd = records

/- A fresh buffer holds nothing. -/
theorem Sbuffer.fresh_represents :
    (Sbuffer.fresh : Sbuffer V).Represents [] :=
  ⟨rfl, Chain.nil _⟩

/- A failed allocation leaves the buffer as it is. -/
theorem sbufferInsert_of_malloc_failure
    {b : Sbuffer V}
    {nodes : List (Nat × SensorData V)}
    (hRep : b.Represents nodes)
    (data : SensorData V) :
    sbufferInsert b data false = .ok (.failure, b) := by
  simp [sbufferInsert, hRep.buffer_eq]

/-
  An insert puts the record behind all others and moves no
  node that is there; it allocates one node.
-/
theorem sbufferInsert_of_represents
    {b : Sbuffer V}
    {nodes : List (Nat × SensorData V)}
    (hRep : b.Represents nodes)
    (data : SensorData V) :
    ∃ b' : Sbuffer V,
      sbufferInsert b data true = .ok (.success, b') ∧
        b'.Represents
          (nodes ++ [(b.heap.next, data)]) ∧
        ∀ as, b.heap.Owns as →
          b'.heap.Owns (as ++ [b.heap.next]) := by
  have hFresh : b.heap.next ∉ nodes.map Prod.fst :=
    hRep.chain.next_not_mem
  rcases List.eq_nil_or_concat' nodes with
    hNil | ⟨before, ⟨a, x⟩, hEq⟩
  · subst hNil
    refine ⟨⟨b.heap.alloc ⟨none, data⟩,
      .allocated (some b.heap.next)
        (some b.heap.next)⟩, ?_, ?_,
      fun _ hOwns => hOwns.alloc _⟩
    · simp [sbufferInsert, hRep.buffer_eq]
    · refine ⟨rfl, rfl, ?_, by simp⟩
      exact ⟨b.heap.alloc_cell_new _, trivial⟩
  · subst hEq
    have hLinked := hRep.chain.linked
    have hCell : b.heap.cell a = some ⟨none, x⟩ := by
      rw [Segment.linked_append] at hLinked
      exact hLinked.2.1
    have hNe : a ≠ b.heap.next := by
      intro hEq
      apply hFresh
      simp [hEq]
    let node : SbufferNode V := ⟨none, data⟩
    let linkedNode : SbufferNode V :=
      ⟨some b.heap.next, x⟩
    have hAllocCell :
        (b.heap.alloc node).cell a = some ⟨none, x⟩ := by
      rw [Heap.alloc_cell_of_ne _ _ hNe]
      exact hCell
    have hPutCell :
        ((b.heap.alloc node).put a linkedNode).cell a =
          some linkedNode :=
      Heap.put_cell_self _ _ hAllocCell
    refine ⟨⟨(b.heap.alloc node).put a linkedNode,
      .allocated (Segment.first (before ++ [(a, x)]) none)
        (some b.heap.next)⟩, ?_, ?_,
      fun _ hOwns => (hOwns.alloc _).put _ _⟩
    · simp [sbufferInsert, hRep.buffer_eq,
        Heap.read_of_cell _ hAllocCell,
        Heap.write_of_cell _ _ hAllocCell,
        Heap.read_of_cell _ hPutCell, node, linkedNode]
    · have hFirst :
          Segment.first
              (before ++ [(a, x)] ++
                [(b.heap.next, data)]) none =
            Segment.first (before ++ [(a, x)]) none := by
        cases before with
        | nil => rfl
        | cons y ys => rfl
      refine ⟨?_, rfl, ?_, ?_⟩
      · rw [hFirst, Segment.last_concat]
      · rw [Segment.linked_append]
        constructor
        · apply Segment.linked_setNext hLinked
          · exact hPutCell
          · intro c hc
            have hNodup := hRep.chain.nodup
            have hcNe : c ≠ a := by
              intro hEq
              subst hEq
              simp [List.nodup_append] at hNodup hc
              grind
            have hcFresh : c ≠ b.heap.next := by
              intro hEq
              apply hFresh
              rw [List.map_append]
              exact List.mem_append_left _ (hEq ▸ hc)
            rw [Heap.put_cell_of_ne _ _ hcNe,
              Heap.alloc_cell_of_ne _ _ hcFresh]
        · rw [Segment.last_concat]
          refine ⟨?_, trivial⟩
          rw [Heap.put_cell_of_ne _ _ hNe.symm]
          exact b.heap.alloc_cell_new node
      · rw [List.map_append]
        apply List.Nodup.append hRep.chain.nodup
        · simp
        · simpa using hFresh

/- A nonempty list starts at a node. -/
private theorem buffer_of_represents_concat
    {b : Sbuffer V}
    {before rest : List (Nat × SensorData V)}
    {c : Nat}
    {x : SensorData V}
    (hRep : b.Represents (before ++ [(c, x)] ++ rest)) :
    ∃ f tail, b.buffer = .allocated (some f) tail := by
  rw [hRep.buffer_eq]
  cases before with
  | nil => exact ⟨_, _, rfl⟩
  | cons y ys => exact ⟨_, _, rfl⟩

/- The node of a record links to the nodes behind it. -/
private theorem cell_of_represents
    {b : Sbuffer V}
    {before rest : List (Nat × SensorData V)}
    {c : Nat}
    {x : SensorData V}
    (hRep : b.Represents (before ++ [(c, x)] ++ rest)) :
    b.heap.cell c = some ⟨Segment.first rest none, x⟩ := by
  have hLinked := hRep.chain.linked
  rw [List.append_assoc] at hLinked
  exact Segment.cell_of_linked hLinked

/- A reader that has seen all nodes finds nothing more. -/
theorem sbufferRead_of_represents_end
    {b : Sbuffer V}
    {seen : List (Nat × SensorData V)}
    (hRep : b.Represents seen)
    (data : SensorData V) :
    sbufferRead b (Segment.last none seen) data =
      .ok (.empty, Segment.last none seen, data) := by
  rcases List.eq_nil_or_concat' seen with
    hNil | ⟨before, ⟨c, x⟩, hEq⟩
  · subst hNil
    simp [sbufferRead, hRep.buffer_eq]
  · subst hEq
    rw [← List.append_nil (before ++ [(c, x)])] at hRep
    have hCell := cell_of_represents hRep
    rcases buffer_of_represents_concat hRep with
      ⟨f, tail, hBuffer⟩
    simp [sbufferRead, hBuffer, Heap.read_of_cell _ hCell]

/-
  A reader that has seen the nodes `seen` gets the record of
  the node behind them.
-/
theorem sbufferRead_of_represents_next
    {b : Sbuffer V}
    {seen rest : List (Nat × SensorData V)}
    {a : Nat}
    {d : SensorData V}
    (hRep : b.Represents (seen ++ (a, d) :: rest))
    (data : SensorData V) :
    sbufferRead b (Segment.last none seen) data =
      .ok (.success, some a, d) := by
  have hFollowing :=
    Segment.cell_of_linked hRep.chain.linked
  rcases List.eq_nil_or_concat' seen with
    hNil | ⟨before, ⟨c, x⟩, hEq⟩
  · subst hNil
    simp [sbufferRead, hRep.buffer_eq,
      Heap.read_of_cell _ hFollowing, SbufferNode.layout]
  · subst hEq
    have hCell := cell_of_represents hRep
    rcases buffer_of_represents_concat hRep with
      ⟨f, tail, hBuffer⟩
    simp [sbufferRead, hBuffer,
      Heap.read_of_cell _ hCell,
      Heap.read_of_cell _ hFollowing, SbufferNode.layout]

end SensorGateway
