import SensorGateway.Foundations.Segment

/-
  The doubly linked list of `lib/dplist.c`.

  An element is a pointer that the list only stores: `none`
  is the NULL element. What a callback does to the memory
  behind the elements is not seen by the list, so what
  `element_copy` returns is an argument of the insert, and
  `element_compare` is an argument of the search.

  Key definitions include:
    * `DplistMemory`
    * `dplInsertAtIndex`
    * `dplRemoveAtIndex`
    * `dplSize`
    * `dplGetReferenceAtIndex`
    * `dplGetElementAtIndex`
-/

------------------------------------------------------------
-- Nodes and Lists
------------------------------------------------------------

namespace SensorGateway

open Foundations

/- `struct dplist_node`. -/
structure DplistNode (E : Type) where
  prev : Option Nat
  next : Option Nat
  element : Option E

/-
  `struct dplist`: of the callbacks, the list itself only
  tests whether `element_copy` and `element_free` are set.
-/
structure Dplist where
  head : Option Nat
  elementCopy : Bool
  elementFree : Bool

/-
  The memory of a list: its nodes, the caller's `dplist_t *`,
  which may be NULL, and the elements that were given to
  `element_free`, in order.
-/
structure DplistMemory (E : Type) where
  heap : Heap (DplistNode E)
  list : Option Dplist
  elementFreed : List (Option E)

variable {E : Type}

/- `p->prev = link`. -/
def setPrev
    (heap : Heap (DplistNode E))
    (p link : Option Nat) :
    Except Fault (Heap (DplistNode E)) := do
  let node ← heap.read p
  heap.write p { node with prev := link }

/- `p->next = link`. -/
def setNext
    (heap : Heap (DplistNode E))
    (p link : Option Nat) :
    Except Fault (Heap (DplistNode E)) := do
  let node ← heap.read p
  heap.write p { node with next := link }

/- `if (p != NULL) p->prev = link`. -/
def setPrevUnlessNull
    (heap : Heap (DplistNode E))
    (p link : Option Nat) :
    Except Fault (Heap (DplistNode E)) :=
  if p = none then
    .ok heap
  else
    setPrev heap p link

/- `if (p != NULL) p->next = link`. -/
def setNextUnlessNull
    (heap : Heap (DplistNode E))
    (p link : Option Nat) :
    Except Fault (Heap (DplistNode E)) :=
  if p = none then
    .ok heap
  else
    setNext heap p link

/- `dpl_create`, whose `malloc` is not checked. -/
def dplCreate
    (elementCopy elementFree mallocOk : Bool) :
    Except Fault (DplistMemory E) :=
  if mallocOk then
    .ok
      { heap := Heap.empty
        list := some
          { head := none
            elementCopy := elementCopy
            elementFree := elementFree }
        elementFreed := [] }
  else
    .error .nullPointer

------------------------------------------------------------
-- Traversals
------------------------------------------------------------

/- The loop of `dpl_size` from the node `current`. -/
def dplSizeLoop
    (heap : Heap (DplistNode E)) :
    Nat → Option Nat → Int → Except Fault Int
| 0, _, _ => .error .outOfFuel
| fuel + 1, current, size =>
    if current = none then
      .ok size
    else do
      let node ← heap.read current
      dplSizeLoop heap fuel node.next (size + 1)

/- `dpl_size`. -/
def dplSize
    (m : DplistMemory E) :
    Except Fault Int :=
  match m.list with
  | none => .ok (-1)
  | some list =>
      dplSizeLoop m.heap (m.heap.next + 1) list.head 0

/-
  The loop that goes on while there is a next node and
  `count < index`; two functions have it.
-/
def dplWalk
    (heap : Heap (DplistNode E))
    (index : Int) :
    Nat → Nat → Int → Except Fault Nat
| 0, _, _ => .error .outOfFuel
| fuel + 1, dummy, count => do
    let node ← heap.read (some dummy)
    match node.next with
    | none => .ok dummy
    | some next =>
        if count < index then
          dplWalk heap index fuel next (count + 1)
        else
          .ok dummy

/- `dpl_get_reference_at_index`. -/
def dplGetReferenceAtIndex
    (m : DplistMemory E)
    (index : Int) :
    Except Fault (Option Nat) :=
  match m.list with
  | none => .ok none
  | some list =>
      match list.head with
      | none => .ok none
      | some head =>
          if index ≤ 0 then
            .ok (some head)
          else do
            let dummy ←
              dplWalk m.heap index (m.heap.next + 1) head 0
            return some dummy

/- `dpl_get_element_at_index`. -/
def dplGetElementAtIndex
    (m : DplistMemory E)
    (index : Int) :
    Except Fault (Option E) := do
  let nodeAtIndex ← dplGetReferenceAtIndex m index
  if nodeAtIndex = none then
    return none
  else
    let node ← m.heap.read nodeAtIndex
    return node.element

/- The loop of `dpl_get_index_of_element`. -/
def dplGetIndexLoop
    (heap : Heap (DplistNode E))
    (elementCompare :
      Option E → Option E → Except Fault Int)
    (element : Option E) :
    Nat → Option Nat → Int → Except Fault Int
| 0, _, _ => .error .outOfFuel
| fuel + 1, curr, index =>
    if curr = none then
      .ok (-1)
    else do
      let node ← heap.read curr
      let order ← elementCompare node.element element
      if order = 0 then
        return index
      else
        dplGetIndexLoop heap elementCompare element fuel
          node.next (index + 1)

/- `dpl_get_index_of_element`. -/
def dplGetIndexOfElement
    (m : DplistMemory E)
    (elementCompare :
      Option E → Option E → Except Fault Int)
    (element : Option E) :
    Except Fault Int :=
  match m.list with
  | none => .ok (-1)
  | some list =>
      if list.head = none then
        .ok (-1)
      else
        dplGetIndexLoop m.heap elementCompare element
          (m.heap.next + 1) list.head 0

/- The loop of `dpl_get_element_at_reference`. -/
def dplGetElementAtReferenceLoop
    (heap : Heap (DplistNode E))
    (reference : Option Nat) :
    Nat → Option Nat → Except Fault (Option E)
| 0, _ => .error .outOfFuel
| fuel + 1, curr =>
    if curr = none then
      .ok none
    else do
      let node ← heap.read curr
      if curr = reference then
        return node.element
      else
        dplGetElementAtReferenceLoop heap reference fuel
          node.next

/- `dpl_get_element_at_reference`. -/
def dplGetElementAtReference
    (m : DplistMemory E)
    (reference : Option Nat) :
    Except Fault (Option E) :=
  match m.list with
  | none => .ok none
  | some list =>
      if reference = none then
        .ok none
      else
        dplGetElementAtReferenceLoop m.heap reference
          (m.heap.next + 1) list.head

------------------------------------------------------------
-- Updates
------------------------------------------------------------

/- The element that an insert stores in its new node. -/
def storedElement
    (insertCopy elementCopy : Bool)
    (element copied : Option E) :
    Option E :=
  if insertCopy && elementCopy then
    copied
  else
    element

/-
  `dpl_insert_at_index`; `copied` is what `element_copy`
  returns if it is called, and `mallocOk` is the outcome of
  `malloc`. It returns whether the result is the list, not
  NULL. The links of the new node are stored when the node is
  allocated here; nothing reads them in between.
-/
def dplInsertAtIndex
    (m : DplistMemory E)
    (element copied : Option E)
    (index : Int)
    (insertCopy mallocOk : Bool) :
    Except Fault (Bool × DplistMemory E) :=
  match m.list with
  | none => .ok (false, m)
  | some list =>
      if !mallocOk then
        .ok (false, m)
      else
        let listNode := some m.heap.next
        let element :=
          storedElement insertCopy list.elementCopy element
            copied
        match list.head with
        | none =>
            .ok (true,
              { m with
                  heap := m.heap.alloc ⟨none, none, element⟩
                  list := some
                    { list with head := listNode } })
        | some head =>
            if index ≤ 0 then do
              let heap :=
                m.heap.alloc ⟨none, some head, element⟩
              let heap ← setPrev heap (some head) listNode
              return (true,
                { m with
                    heap := heap
                    list := some
                      { list with head := listNode } })
            else do
              let refAtIndex ←
                dplGetReferenceAtIndex m index
              if refAtIndex = none then
                .error .assertion
              else
                let node ← m.heap.read refAtIndex
                let size ← dplSize m
                if index < size then
                  let heap :=
                    m.heap.alloc
                      ⟨node.prev, refAtIndex, element⟩
                  let heap ← setNext heap node.prev listNode
                  let heap ← setPrev heap refAtIndex listNode
                  return (true, { m with heap := heap })
                else if node.next ≠ none then
                  .error .assertion
                else
                  let heap :=
                    m.heap.alloc ⟨refAtIndex, none, element⟩
                  let heap ← setNext heap refAtIndex listNode
                  return (true, { m with heap := heap })

/- `element_free` is called for an element, if it is set. -/
def callElementFree
    (elementFree freeElement : Bool)
    (freed : List (Option E))
    (element : Option E) :
    List (Option E) :=
  if freeElement && elementFree then
    freed ++ [element]
  else
    freed

/- `dpl_remove_at_index`; it returns its argument. -/
def dplRemoveAtIndex
    (m : DplistMemory E)
    (index : Int)
    (freeElement : Bool) :
    Except Fault (DplistMemory E) :=
  match m.list with
  | none => .ok m
  | some list =>
      match list.head with
      | none => .ok m
      | some head =>
          if index ≤ 0 then do
            let curr ← m.heap.read (some head)
            let heap ←
              setPrevUnlessNull m.heap curr.next none
            let heap ← heap.free (some head)
            .ok
              { heap := heap
                list := some { list with head := curr.next }
                elementFreed :=
                  callElementFree list.elementFree freeElement
                    m.elementFreed curr.element }
          else do
            let curr ←
              dplWalk m.heap index (m.heap.next + 1) head 0
            let node ← m.heap.read (some curr)
            let heap ←
              setNextUnlessNull m.heap node.prev node.next
            let node ← heap.read (some curr)
            let heap ←
              setPrevUnlessNull heap node.next node.prev
            let node ← heap.read (some curr)
            let heap ← heap.free (some curr)
            .ok
              { heap := heap
                list := some
                  { list with
                      head :=
                        if curr = head then
                          node.next
                        else
                          some head }
                elementFreed :=
                  callElementFree list.elementFree freeElement
                    m.elementFreed node.element }

/- The loop of `dpl_free` from the node `curr`. -/
def dplFreeLoop
    (list : Dplist)
    (freeElement : Bool) :
    Nat → Heap (DplistNode E) → List (Option E) →
      Option Nat →
        Except Fault (Heap (DplistNode E) × List (Option E))
| 0, _, _, _ => .error .outOfFuel
| fuel + 1, heap, freed, curr =>
    if curr = none then
      .ok (heap, freed)
    else do
      let node ← heap.read curr
      let freed :=
        if node.element.isSome then
          callElementFree list.elementFree freeElement freed
            node.element
        else
          freed
      let heap ← heap.free curr
      dplFreeLoop list freeElement fuel heap freed node.next

/- `dpl_free`; the caller's pointer is NULL afterwards. -/
def dplFree
    (m : DplistMemory E)
    (freeElement : Bool) :
    Except Fault (DplistMemory E) :=
  match m.list with
  | none => .ok m
  | some list => do
      let (heap, freed) ←
        dplFreeLoop list freeElement (m.heap.next + 1)
          m.heap m.elementFreed list.head
      .ok
        { heap := heap
          list := none
          elementFreed := freed }

end SensorGateway
