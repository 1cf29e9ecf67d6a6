import SensorGateway.Dplist.Basic
import SensorGateway.Foundations.ClampedList
import Mathlib.Data.List.ReduceOption

/-
  The record of a history of calls: which nodes the calls
  inserted and removed, by their positions alone, without a
  look at the memory of the list.

  Key definitions include:
    * `DplistCall`
    * `DplistRecord`
    * `DplistRecord.ofCalls`
    * `DplistRecord.releasedElements`
    * `DplistRecord.Complete`

  Key theorems include:
    * `DplistRecord.ofCalls_complete`
    * `DplistRecord.ofCalls_append`
    * `DplistRecord.heldElements_ofCalls`
-/

------------------------------------------------------------
-- Calls
------------------------------------------------------------

namespace SensorGateway

open Foundations

variable {E : Type}

/-
  A call that may change the list, with its arguments and the
  outcome of its `malloc`.
-/
inductive DplistCall (E : Type) where
  | insert
      (element copied : Option E)
      (index : Int)
      (insertCopy mallocOk : Bool)
  | remove (index : Int) (freeElement : Bool)

/- The element that a call stores in the list, if it is one. -/
def DplistCall.stored
    (elementCopy : Bool) :
    DplistCall E → Option E
| .insert element copied _ insertCopy mallocOk =>
    if mallocOk then
      storedElement insertCopy elementCopy element copied
    else
      none
| .remove _ _ => none

------------------------------------------------------------
-- The Record of a History
------------------------------------------------------------

/-
  What calls mean, without the memory. A node is the number of
  inserts before its own, with the element that it holds; as
  no address is handed out twice, the number stands for the
  address. There are the nodes in the list, those that were
  ever inserted, and those that were removed, with the flag
  `free_element` of the call that removed them.
-/
structure DplistRecord (E : Type) where
  nodes : List (Nat × Option E)
  inserted : List (Nat × Option E)
  removed : List ((Nat × Option E) × Bool)

namespace DplistRecord

/- The record of a list that was just created. -/
def empty : DplistRecord E where
  nodes := []
  inserted := []
  removed := []

/- A new node is put at the position nearest to `index`. -/
def insert
    (r : DplistRecord E)
    (index : Int)
    (x : Option E) :
    DplistRecord E where
  nodes :=
    ClampedList.insertAt r.nodes index (r.inserted.length, x)
  inserted := r.inserted ++ [(r.inserted.length, x)]
  removed := r.removed

/- The node at the position nearest to `index` goes. -/
def remove
    (r : DplistRecord E)
    (index : Int)
    (freeElement : Bool) :
    DplistRecord E where
  nodes := ClampedList.removeAt r.nodes index
  inserted := r.inserted
  removed :=
    r.removed ++
      (ClampedList.getAt r.nodes index).toList.map
        (fun node => (node, freeElement))

/- All nodes of the list go: `dpl_free`. -/
def free
    (r : DplistRecord E)
    (freeElement : Bool) :
    DplistRecord E where
  nodes := []
  inserted := r.inserted
  removed :=
    r.removed ++
      r.nodes.map (fun node => (node, freeElement))

/- An insert whose `malloc` fails does nothing. -/
def call
    (elementCopy : Bool)
    (r : DplistRecord E) :
    DplistCall E → DplistRecord E
| .insert element copied index insertCopy mallocOk =>
    if mallocOk then
      r.insert index
        (storedElement insertCopy elementCopy element copied)
    else
      r
| .remove index freeElement => r.remove index freeElement

/- The record of calls on a list that was just created. -/
def ofCalls
    (elementCopy : Bool)
    (calls : List (DplistCall E)) :
    DplistRecord E :=
  calls.foldl (call elementCopy) empty

/- The nodes that were removed, in order. -/
def removedNodes
    (r : DplistRecord E) :
    List (Nat × Option E) :=
  r.removed.map Prod.fst

@[simp] theorem removedNodes_empty :
    (empty : DplistRecord E).removedNodes = [] := rfl

@[simp] theorem removedNodes_insert
    (r : DplistRecord E)
    (index : Int)
    (x : Option E) :
    (r.insert index x).removedNodes = r.removedNodes := rfl

@[simp] theorem removedNodes_remove
    (r : DplistRecord E)
    (index : Int)
    (freeElement : Bool) :
    (r.remove index freeElement).removedNodes =
      r.removedNodes ++
        (ClampedList.getAt r.nodes index).toList := by
  simp [removedNodes, remove, Function.comp_def]

@[simp] theorem removedNodes_free
    (r : DplistRecord E)
    (freeElement : Bool) :
    (r.free freeElement).removedNodes =
      r.removedNodes ++ r.nodes := by
  simp [removedNodes, free, Function.comp_def]

/- A removal from a record without nodes changes nothing. -/
theorem remove_of_nil
    {r : DplistRecord E}
    (hNil : r.nodes = [])
    (index : Int)
    (freeElement : Bool) :
    r.remove index freeElement = r := by
  rcases r with ⟨nodes, inserted, removed⟩
  cases hNil
  simp [remove, ClampedList.removeAt, ClampedList.getAt]

end DplistRecord

/- The elements of nodes, without NULL. -/
def heldElements
    (nodes : List (Nat × Option E)) :
    List E :=
  (nodes.map Prod.snd).reduceOption

@[simp] theorem heldElements_nil :
    heldElements ([] : List (Nat × Option E)) = [] := rfl

@[simp] theorem heldElements_append
    (xs ys : List (Nat × Option E)) :
    heldElements (xs ++ ys) =
      heldElements xs ++ heldElements ys := by
  unfold heldElements
  rw [List.map_append, List.reduceOption_append]

@[simp] theorem heldElements_singleton
    (a : Nat)
    (x : Option E) :
    heldElements [(a, x)] = x.toList := by
  cases x with
  | none => rfl
  | some e => rfl

/-
  The elements, without NULL, of the nodes that were removed
  with `free_element`.
-/
def DplistRecord.releasedElements
    (r : DplistRecord E) :
    List E :=
  heldElements ((r.removed.filter Prod.snd).map Prod.fst)

/- The removed nodes are released if the flag says so. -/
theorem DplistRecord.releasedElements_of_removed
    {r r' : DplistRecord E}
    {removedNow : List (Nat × Option E)}
    {freeElement : Bool}
    (hRemoved :
      r'.removed =
        r.removed ++
          removedNow.map (fun node => (node, freeElement))) :
    r'.releasedElements =
      r.releasedElements ++
        if freeElement then
          heldElements removedNow
        else
          [] := by
  unfold releasedElements
  rw [hRemoved]
  simp only [List.filter_append, List.map_append,
    heldElements_append, List.filter_map]
  cases freeElement with
  | false => simp [Function.comp_def]
  | true => simp [Function.comp_def]

/- The order of the nodes is the order of their elements. -/
theorem heldElements_perm
    {xs ys : List (Nat × Option E)}
    (hPerm : xs.Perm ys) :
    (heldElements xs).Perm (heldElements ys) :=
  (hPerm.map Prod.snd).filterMap id

theorem heldElements_sublist
    {xs ys : List (Nat × Option E)}
    (hSublist : xs.Sublist ys) :
    (heldElements xs).Sublist (heldElements ys) :=
  (hSublist.map Prod.snd).filterMap id

------------------------------------------------------------
-- Counting
------------------------------------------------------------

/- An insert only adds its item. -/
theorem insertAt_perm
    {α : Type}
    (xs : List α)
    (index : Int)
    (x : α) :
    (ClampedList.insertAt xs index x).Perm (x :: xs) :=
  List.perm_insertIdx x xs (clampIndex_le _ _)

/-
  The inserted nodes have distinct numbers, and each of them
  is in the list or was removed, once.
-/
structure DplistRecord.Complete
    (r : DplistRecord E) : Prop where
  numbers :
    r.inserted.map Prod.fst = List.range r.inserted.length
  split : (r.removedNodes ++ r.nodes).Perm r.inserted

namespace DplistRecord

variable {r : DplistRecord E}

/- A clamped removal takes out the item that it finds. -/
theorem getAt_append_removeAt_perm
    {α : Type}
    (xs : List α)
    (index : Int) :
    ((ClampedList.getAt xs index).toList ++
        ClampedList.removeAt xs index).Perm xs := by
  by_cases hNil : xs = []
  · rw [hNil]
    exact List.Perm.refl _
  · rcases ClampedList.exists_split_clamped hNil index with
      ⟨before, x, after, hSplit, hIndex⟩
    rw [hSplit] at hIndex ⊢
    rw [ClampedList.getAt_split hIndex,
      ClampedList.removeAt_split before after hIndex,
      Option.toList_some, List.singleton_append]
    exact List.perm_middle.symm

theorem Complete.insert
    (h : r.Complete)
    (index : Int)
    (x : Option E) :
    (r.insert index x).Complete where
  numbers := by
    simp only [DplistRecord.insert, List.map_append,
      List.map_cons, List.map_nil, List.length_append,
      List.length_cons, List.length_nil, Nat.zero_add]
    rw [h.numbers, List.range_succ]
  split := by
    have hPerm :=
      (insertAt_perm r.nodes index
        (r.inserted.length, x)).append_left r.removedNodes
    refine hPerm.trans ?_
    refine List.perm_middle.trans ?_
    refine (h.split.cons _).trans ?_
    exact (List.perm_append_singleton _ _).symm

theorem Complete.remove
    (h : r.Complete)
    (index : Int)
    (freeElement : Bool) :
    (r.remove index freeElement).Complete where
  numbers := h.numbers
  split := by
    rw [removedNodes_remove, List.append_assoc]
    refine List.Perm.trans ?_ h.split
    exact (getAt_append_removeAt_perm r.nodes
      index).append_left _

theorem Complete.free
    (h : r.Complete)
    (freeElement : Bool) :
    (r.free freeElement).Complete where
  numbers := h.numbers
  split := by
    rw [removedNodes_free]
    simp only [DplistRecord.free, List.append_nil]
    exact h.split

/- What one call adds. -/
theorem Complete.call
    (h : r.Complete)
    (elementCopy : Bool)
    (c : DplistCall E) :
    (r.call elementCopy c).Complete := by
  cases c with
  | insert element copied index insertCopy mallocOk =>
      cases mallocOk with
      | false => exact h
      | true => exact h.insert index _
  | remove index freeElement =>
      exact h.remove index freeElement

theorem heldElements_call
    (elementCopy : Bool)
    (c : DplistCall E) :
    heldElements (r.call elementCopy c).inserted =
      heldElements r.inserted ++
        (c.stored elementCopy).toList := by
  cases c with
  | insert element copied index insertCopy mallocOk =>
      cases mallocOk with
      | false => exact (List.append_nil _).symm
      | true =>
          simp [call, insert, DplistCall.stored]
  | remove index freeElement =>
      exact (List.append_nil _).symm

/- The record of calls that go on. -/
theorem ofCalls_append
    (elementCopy : Bool)
    (calls more : List (DplistCall E)) :
    ofCalls elementCopy (calls ++ more) =
      more.foldl (call elementCopy)
        (ofCalls elementCopy calls) :=
  List.foldl_append

/- No call takes back an insert. -/
theorem inserted_subset
    (elementCopy : Bool)
    (r : DplistRecord E)
    (calls : List (DplistCall E)) :
    r.inserted ⊆
      (calls.foldl (call elementCopy) r).inserted := by
  induction calls generalizing r with
  | nil => exact List.Subset.refl _
  | cons c calls ih =>
      refine List.Subset.trans ?_ (ih _)
      cases c with
      | insert element copied index insertCopy mallocOk =>
          cases mallocOk with
          | false => exact List.Subset.refl _
          | true => exact List.subset_append_left _ _
      | remove index freeElement =>
          exact List.Subset.refl _

/- Every inserted node is accounted for. -/
theorem ofCalls_complete
    (elementCopy : Bool)
    (calls : List (DplistCall E)) :
    (ofCalls elementCopy calls).Complete := by
  unfold ofCalls
  induction calls using List.reverseRecOn with
  | nil => exact ⟨rfl, List.Perm.refl []⟩
  | append_singleton calls c ih =>
      rw [List.foldl_append]
      exact ih.call elementCopy c

/- The nodes hold what the calls stored, the copies if any. -/
theorem heldElements_ofCalls
    (elementCopy : Bool)
    (calls : List (DplistCall E)) :
    heldElements (ofCalls elementCopy calls).inserted =
      calls.filterMap (DplistCall.stored elementCopy) := by
  unfold ofCalls
  induction calls using List.reverseRecOn with
  | nil => rfl
  | append_singleton calls c ih =>
      rw [List.foldl_append, List.filterMap_append, ← ih]
      refine (heldElements_call elementCopy c).trans ?_
      cases hStored : c.stored elementCopy with
      | none => simp [hStored]
      | some e => simp [hStored]

/- What is released was held by nodes that were removed. -/
theorem releasedElements_sublist
    (r : DplistRecord E) :
    r.releasedElements.Sublist
      (heldElements r.removedNodes) := by
  apply heldElements_sublist
  exact List.filter_sublist.map Prod.fst

end DplistRecord

end SensorGateway
