import Mathlib.Data.List.TakeDrop
import Mathlib.Logic.Function.Basic

/-
  An append-only log that any number of readers follow, each
  at its own pace. A reader never removes an entry, so every
  reader sees every entry once and in order.

  Key definitions include:
    * `BroadcastLog`
    * `BroadcastLog.append`
    * `BroadcastLog.next`
    * `BroadcastLog.advance`
    * `BroadcastLog.obtained`

  Key theorems include:
    * `BroadcastLog.obtained_prefix`
    * `BroadcastLog.next_eq_none_iff`
    * `BroadcastLog.obtained_advance_self`
    * `BroadcastLog.obtained_append`
-/

------------------------------------------------------------
-- Broadcast Logs
------------------------------------------------------------

namespace Foundations

/-
  The entries so far, and how many of them each reader has
  taken. No reader is ahead of the log.
-/
structure BroadcastLog (ι α : Type) where
  entries : List α
  taken : ι → Nat
  taken_le : ∀ i, taken i ≤ entries.length

namespace BroadcastLog

variable {ι α : Type}

/- The log before any entry. -/
def empty : BroadcastLog ι α where
  entries := []
  taken := fun _ => 0
  taken_le := fun _ => Nat.le_refl 0

/- Add an entry at the end. -/
def append
    (l : BroadcastLog ι α)
    (x : α) :
    BroadcastLog ι α where
  entries := l.entries ++ [x]
  taken := l.taken
  taken_le := by
    intro i
    have hLe := l.taken_le i
    simp only [List.length_append, List.length_singleton]
    omega

/- The entry that a reader gets next, if there is one. -/
def next
    (l : BroadcastLog ι α)
    (i : ι) :
    Option α :=
  l.entries[l.taken i]?

/- The entries that a reader has taken. -/
def obtained
    (l : BroadcastLog ι α)
    (i : ι) :
    List α :=
  l.entries.take (l.taken i)

/- Move a reader past its next entry, if there is one. -/
def advance
    [DecidableEq ι]
    (l : BroadcastLog ι α)
    (i : ι) :
    BroadcastLog ι α where
  entries := l.entries
  taken := fun j =>
    if j = i ∧ l.taken i < l.entries.length then
      l.taken j + 1
    else
      l.taken j
  taken_le := by
    intro j
    have hLe := l.taken_le j
    by_cases hMove : j = i ∧ l.taken i < l.entries.length
    · simp only [hMove, and_self, if_true]
      omega
    · simp only [hMove, if_false]
      exact hLe

end BroadcastLog

------------------------------------------------------------
-- What Readers Obtain
------------------------------------------------------------

namespace BroadcastLog

variable {ι α : Type}

/- A reader has a prefix of the log, in log order. -/
theorem obtained_prefix
    (l : BroadcastLog ι α)
    (i : ι) :
    l.obtained i <+: l.entries :=
  List.take_prefix _ _

/- There is nothing to read exactly when all was read. -/
theorem next_eq_none_iff
    (l : BroadcastLog ι α)
    (i : ι) :
    l.next i = none ↔ l.obtained i = l.entries := by
  unfold next obtained
  rw [List.getElem?_eq_none_iff, List.take_eq_self_iff]

/- Appending changes what no reader has obtained. -/
theorem obtained_append
    (l : BroadcastLog ι α)
    (x : α)
    (i : ι) :
    (l.append x).obtained i = l.obtained i := by
  simp only [obtained, append]
  exact List.take_append_of_le_length (l.taken_le i)

variable [DecidableEq ι]

/- A read adds the next entry to what the reader has. -/
theorem obtained_advance_self
    (l : BroadcastLog ι α)
    {i : ι}
    {x : α}
    (hNext : l.next i = some x) :
    (l.advance i).obtained i = l.obtained i ++ [x] := by
  rcases List.getElem?_eq_some_iff.mp hNext with
    ⟨hLt, hGet⟩
  simp only [obtained, advance, hLt, and_self, if_true]
  rw [List.take_add_one, List.getElem?_eq_getElem hLt, hGet]
  rfl

/- A read moves no other reader. -/
theorem taken_advance_of_ne
    (l : BroadcastLog ι α)
    {i j : ι}
    (hNe : j ≠ i) :
    (l.advance i).taken j = l.taken j := by
  simp [advance, hNe]

theorem taken_advance_self
    (l : BroadcastLog ι α)
    {i : ι}
    (hLt : l.taken i < l.entries.length) :
    (l.advance i).taken i = l.taken i + 1 := by
  simp [advance, hLt]

theorem obtained_advance_of_ne
    (l : BroadcastLog ι α)
    {i j : ι}
    (hNe : j ≠ i) :
    (l.advance i).obtained j = l.obtained j := by
  simp only [obtained, l.taken_advance_of_ne hNe]
  rfl

end BroadcastLog

end Foundations
