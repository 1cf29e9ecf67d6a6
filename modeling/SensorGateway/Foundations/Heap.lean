import Mathlib.Data.List.Nodup
import Mathlib.Data.List.Perm.Subperm
import Mathlib.Data.List.Range

/-
  A heap of nodes of one type, with addresses that are never
  reused, and the faults of a program that follows pointers.

  The heap carries the proof that nothing lives at an address
  that was not handed out yet. Freed addresses are recorded
  in order, so that "freed once" can be stated.

  Key definitions include:
    * `Fault`
    * `Heap`
    * `Heap.alloc`
    * `Heap.read`
    * `Heap.write`
    * `Heap.free`
    * `Heap.Owns`

  Key theorems include:
    * `Heap.read_of_cell`
    * `Heap.write_of_cell`
    * `Heap.free_of_cell`
    * `Heap.lt_next_of_cell`
    * `Heap.length_le_next`
    * `Heap.Owns.alloc`
    * `Heap.Owns.drop`
    * `Heap.Owns.freed_once`
-/

------------------------------------------------------------
-- Faults and Heaps
------------------------------------------------------------

namespace Foundations

/- The ways in which a pointer program can go wrong. -/
inductive Fault where
  | nullPointer
  | danglingPointer
  | assertion
  | processExit
  | outOfFuel
deriving DecidableEq, Repr

namespace Fault

variable {β γ : Type}

/- A computation that succeeds goes on with its result. -/
@[simp] theorem ok_bind
    (x : β)
    (f : β → Except Fault γ) :
    (Except.ok x >>= f) = f x := rfl

@[simp] theorem pure_eq_ok
    (x : β) :
    (pure x : Except Fault β) = .ok x := rfl

/- A computation that succeeded did so step by step. -/
theorem bind_eq_ok
    {x : Except Fault β}
    {f : β → Except Fault γ}
    {r : γ} :
    (x >>= f) = .ok r ↔ ∃ y, x = .ok y ∧ f y = .ok r := by
  cases x with
  | error fault =>
      constructor
      · intro hEq
        cases hEq
      · rintro ⟨y, hEq, _⟩
        cases hEq
  | ok y =>
      constructor
      · intro hEq
        exact ⟨y, rfl, hEq⟩
      · rintro ⟨_, hEq, hRest⟩
        cases hEq
        exact hRest

end Fault

/-
  A heap of nodes. Addresses are numbered in allocation
  order; those from `next` on are fresh.
-/
structure Heap (N : Type) where
  next : Nat
  cell : Nat → Option N
  freed : List Nat
  fresh : ∀ a, next ≤ a → cell a = none

namespace Heap

variable {N : Type}

/- The heap before any allocation. -/
def empty : Heap N where
  next := 0
  cell := fun _ => none
  freed := []
  fresh := fun _ _ => rfl

/- Allocate a node at the next fresh address. -/
def alloc
    (h : Heap N)
    (n : N) : Heap N where
  next := h.next + 1
  cell := fun b => if b = h.next then some n else h.cell b
  freed := h.freed
  fresh := by
    intro b hb
    have hNe : b ≠ h.next := by omega
    simp only [hNe, if_false]
    exact h.fresh b (by omega)

/- Overwrite the node at a live address. -/
def put
    (h : Heap N)
    (a : Nat)
    (n : N) : Heap N where
  next := h.next
  cell := fun b =>
    if b = a then (h.cell a).map (fun _ => n) else h.cell b
  freed := h.freed
  fresh := by
    intro b hb
    by_cases hEq : b = a
    · subst hEq
      simp [h.fresh b hb]
    · simp [hEq, h.fresh b hb]

/- Give an address back. -/
def drop
    (h : Heap N)
    (a : Nat) : Heap N where
  next := h.next
  cell := fun b => if b = a then none else h.cell b
  freed := h.freed ++ [a]
  fresh := by
    intro b hb
    by_cases hEq : b = a
    · simp [hEq]
    · simp [hEq, h.fresh b hb]

/- Follow a pointer. -/
def read
    (h : Heap N) :
    Option Nat → Except Fault N
| none => .error .nullPointer
| some a =>
    match h.cell a with
    | none => .error .danglingPointer
    | some n => .ok n

/- Store through a pointer. -/
def write
    (h : Heap N)
    (p : Option Nat)
    (n : N) :
    Except Fault (Heap N) :=
  match p with
  | none => .error .nullPointer
  | some a =>
      match h.cell a with
      | none => .error .danglingPointer
      | some _ => .ok (h.put a n)

/- Free a pointer; freeing the null pointer does nothing. -/
def free
    (h : Heap N)
    (p : Option Nat) :
    Except Fault (Heap N) :=
  match p with
  | none => .ok h
  | some a =>
      match h.cell a with
      | none => .error .danglingPointer
      | some _ => .ok (h.drop a)

end Heap

------------------------------------------------------------
-- Heap Lemmas
------------------------------------------------------------

namespace Heap

variable {N : Type}

@[simp] theorem alloc_cell_new
    (h : Heap N)
    (n : N) :
    (h.alloc n).cell h.next = some n := by
  simp [alloc]

theorem alloc_cell_of_ne
    (h : Heap N)
    (n : N)
    {b : Nat}
    (hNe : b ≠ h.next) :
    (h.alloc n).cell b = h.cell b := by
  simp [alloc, hNe]

theorem put_cell_self
    (h : Heap N)
    {a : Nat}
    {m : N}
    (n : N)
    (hCell : h.cell a = some m) :
    (h.put a n).cell a = some n := by
  simp [put, hCell]

theorem put_cell_of_ne
    (h : Heap N)
    {a b : Nat}
    (n : N)
    (hNe : b ≠ a) :
    (h.put a n).cell b = h.cell b := by
  simp [put, hNe]

theorem drop_cell_of_ne
    (h : Heap N)
    {a b : Nat}
    (hNe : b ≠ a) :
    (h.drop a).cell b = h.cell b := by
  simp [drop, hNe]

theorem read_of_cell
    (h : Heap N)
    {a : Nat}
    {n : N}
    (hCell : h.cell a = some n) :
    h.read (some a) = .ok n := by
  simp [read, hCell]

theorem write_of_cell
    (h : Heap N)
    {a : Nat}
    {m : N}
    (n : N)
    (hCell : h.cell a = some m) :
    h.write (some a) n = .ok (h.put a n) := by
  simp [write, hCell]

theorem free_of_cell
    (h : Heap N)
    {a : Nat}
    {n : N}
    (hCell : h.cell a = some n) :
    h.free (some a) = .ok (h.drop a) := by
  simp [free, hCell]

/- A pointer that could be followed points to a node. -/
theorem read_eq_ok
    {h : Heap N}
    {p : Option Nat}
    {n : N} :
    h.read p = .ok n ↔
      ∃ a, p = some a ∧ h.cell a = some n := by
  cases p with
  | none => simp [read]
  | some a =>
      cases hCell : h.cell a with
      | none => simp [read, hCell]
      | some m => simp [read, hCell]

theorem write_eq_ok
    {h h' : Heap N}
    {p : Option Nat}
    {n : N}
    (hWrite : h.write p n = .ok h') :
    ∃ a, p = some a ∧ h' = h.put a n := by
  cases p with
  | none => cases hWrite
  | some a =>
      refine ⟨a, rfl, ?_⟩
      cases hCell : h.cell a with
      | none => simp [write, hCell] at hWrite
      | some m =>
          simp only [write, hCell] at hWrite
          cases hWrite
          rfl

theorem free_eq_ok
    {h h' : Heap N}
    {a : Nat}
    (hFree : h.free (some a) = .ok h') :
    h' = h.drop a := by
  cases hCell : h.cell a with
  | none => simp [free, hCell] at hFree
  | some m =>
      simp only [free, hCell] at hFree
      cases hFree
      rfl

/- A live address was handed out before. -/
theorem lt_next_of_cell
    (h : Heap N)
    {a : Nat}
    {n : N}
    (hCell : h.cell a = some n) :
    a < h.next := by
  by_contra hNot
  have hFresh := h.fresh a (by omega)
  simp [hFresh] at hCell

/- Distinct live addresses number at most `next`. -/
theorem length_le_next
    (h : Heap N)
    {as : List Nat}
    (hNodup : as.Nodup)
    (hLive : ∀ a ∈ as, a < h.next) :
    as.length ≤ h.next := by
  have hSubset : as ⊆ List.range h.next := by
    intro a ha
    exact List.mem_range.mpr (hLive a ha)
  have hLength := (hNodup.subperm hSubset).length_le
  simpa using hLength

end Heap

------------------------------------------------------------
-- Accounting for Nodes
------------------------------------------------------------

namespace Heap

variable {N : Type}
variable {h : Heap N}
variable {as : List Nat}

/-
  The live addresses are those of the list, and each address
  that was handed out is live or was freed, exactly once.
-/
structure Owns
    (h : Heap N)
    (as : List Nat) : Prop where
  live : ∀ a, (h.cell a).isSome = true ↔ a ∈ as
  once : (h.freed ++ as).Perm (List.range h.next)

namespace Owns

theorem empty :
    (Heap.empty : Heap N).Owns [] where
  live := by
    intro a
    simp [Heap.empty]
  once := List.Perm.refl []

theorem alloc
    (hOwns : h.Owns as)
    (n : N) :
    (h.alloc n).Owns (as ++ [h.next]) where
  live := by
    intro a
    by_cases hEq : a = h.next
    · simp [hEq]
    · rw [alloc_cell_of_ne _ _ hEq, hOwns.live]
      simp [hEq]
  once := by
    have hPerm := hOwns.once.append_right [h.next]
    rw [List.append_assoc, ← List.range_succ] at hPerm
    exact hPerm

theorem put
    (hOwns : h.Owns as)
    (a : Nat)
    (n : N) :
    (h.put a n).Owns as where
  live := by
    intro b
    rw [← hOwns.live]
    by_cases hEq : b = a
    · simp [Heap.put, hEq]
    · rw [put_cell_of_ne _ _ hEq]
  once := hOwns.once

theorem nodup
    (hOwns : h.Owns as) :
    as.Nodup := by
  have hAll :=
    hOwns.once.nodup_iff.mpr List.nodup_range
  exact (List.nodup_append.mp hAll).2.1

theorem drop
    {a : Nat}
    (hOwns : h.Owns (a :: as)) :
    (h.drop a).Owns as where
  live := by
    intro b
    by_cases hEq : b = a
    · subst hEq
      have hNot := (List.nodup_cons.mp hOwns.nodup).1
      simp [Heap.drop, hNot]
    · rw [drop_cell_of_ne _ hEq, hOwns.live]
      simp [hEq]
  once := by
    have hPerm := hOwns.once
    rw [← List.singleton_append, ← List.append_assoc]
      at hPerm
    exact hPerm

/- The order in which the live addresses are listed is free. -/
theorem of_perm
    {bs : List Nat}
    (hOwns : h.Owns as)
    (hPerm : as.Perm bs) :
    h.Owns bs where
  live := fun a => (hOwns.live a).trans hPerm.mem_iff
  once := (hPerm.append_left h.freed).symm.trans hOwns.once

/- Owning does not depend on what the nodes contain. -/
theorem congr
    {h' : Heap N}
    (hOwns : h.Owns as)
    (hNext : h'.next = h.next)
    (hFreed : h'.freed = h.freed)
    (hLive :
      ∀ a, (h'.cell a).isSome = (h.cell a).isSome) :
    h'.Owns as where
  live := by
    intro a
    rw [hLive]
    exact hOwns.live a
  once := by
    rw [hFreed, hNext]
    exact hOwns.once

/- A freed address is not live. -/
theorem not_mem_of_mem_freed
    (hOwns : h.Owns as)
    {a : Nat}
    (hFreed : a ∈ h.freed) :
    a ∉ as := by
  have hAll :=
    hOwns.once.nodup_iff.mpr List.nodup_range
  intro hMem
  exact (List.nodup_append.mp hAll).2.2 a hFreed a hMem rfl

/- When nothing is live, each node was freed exactly once. -/
theorem freed_once
    (hOwns : h.Owns [])
    {a : Nat}
    (hLt : a < h.next) :
    h.freed.count a = 1 := by
  have hPerm := hOwns.once
  rw [List.append_nil] at hPerm
  rw [hPerm.count_eq]
  exact List.count_eq_one_of_mem List.nodup_range
    (List.mem_range.mpr hLt)

end Owns

end Heap

end Foundations
