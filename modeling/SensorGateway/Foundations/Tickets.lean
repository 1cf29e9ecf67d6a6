import Mathlib.Data.List.Count
import Mathlib.Data.List.Nodup
import Mathlib.Data.List.Range

/-
  Tickets that are given out in order and come in later. Each
  ticket is still out, or has come in.

  The tickets come in in order exactly as long as each one
  that comes in is the smallest of those that are out.

  Key definitions include:
    * `Tickets`
    * `Tickets.Issued`
    * `Tickets.InOrder`

  Key theorems include:
    * `Tickets.Issued.take`
    * `Tickets.Issued.bring`
    * `Tickets.Issued.inOrder_bring_iff`
    * `Tickets.InOrder.of_prefix`
-/

------------------------------------------------------------
-- Tickets
------------------------------------------------------------

namespace Foundations

/- The next ticket, those that are out, and those in. -/
structure Tickets where
  next : Nat
  out : List Nat
  done : List Nat

namespace Tickets

/- Each ticket that was given out is out or in, once. -/
def Issued
    (t : Tickets) : Prop :=
  (t.done ++ t.out).Perm (List.range t.next)

/- The tickets from zero on, without gaps. -/
def InOrder
    (done : List Nat) : Prop :=
  done = List.range done.length

instance (done : List Nat) :
    Decidable (InOrder done) :=
  inferInstanceAs (Decidable (_ = _))

theorem InOrder.nil :
    InOrder [] := rfl

/- What came in first is in order if all is. -/
theorem InOrder.of_prefix
    {before done : List Nat}
    (hPrefix : before <+: done)
    (h : InOrder done) :
    InOrder before := by
  rcases hPrefix with ⟨rest, rfl⟩
  unfold InOrder at *
  have hTake := congrArg (List.take before.length) h
  rw [List.take_left, List.take_range,
    List.length_append, Nat.min_eq_left
      (Nat.le_add_right _ _)] at hTake
  exact hTake

/- A list in order goes on with its length. -/
theorem InOrder.snoc_iff
    {done : List Nat}
    (h : InOrder done)
    (n : Nat) :
    InOrder (done ++ [n]) ↔ n = done.length := by
  unfold InOrder at *
  rw [List.length_append, List.length_singleton,
    List.range_succ, ← h, List.append_cancel_left_eq,
    List.cons.injEq]
  exact and_iff_left rfl

namespace Issued

variable {next n : Nat}
variable {out out' done : List Nat}

theorem start :
    Issued ⟨0, [], []⟩ :=
  List.Perm.refl _

/- The next ticket is given out. -/
theorem take
    (h : Issued ⟨next, out, done⟩)
    (hOut : out'.Perm (out ++ [next])) :
    Issued ⟨next + 1, out', done⟩ := by
  unfold Issued at *
  simp only at *
  rw [List.range_succ]
  refine (hOut.append_left done).trans ?_
  rw [← List.append_assoc]
  exact h.append_right [next]

/- A ticket comes in. -/
theorem bring
    (h : Issued ⟨next, out, done⟩)
    (hOut : (out' ++ [n]).Perm out) :
    Issued ⟨next, out', done ++ [n]⟩ := by
  unfold Issued at *
  simp only at *
  refine List.Perm.trans ?_ h
  rw [List.append_assoc]
  exact
    (List.perm_append_comm.trans hOut).append_left done

/- What is out is behind what has come in in order. -/
theorem length_le
    (h : Issued ⟨next, out, done⟩)
    (hOrder : InOrder done)
    (hMem : n ∈ out) :
    done.length ≤ n := by
  have hNodup : (done ++ out).Nodup :=
    h.nodup_iff.mpr List.nodup_range
  by_contra hLt
  have hDone : n ∈ done := by
    rw [hOrder, List.mem_range]
    exact Nat.lt_of_not_le hLt
  exact (List.disjoint_of_nodup_append hNodup) hDone hMem

/- The one that is due is out. -/
theorem length_mem
    (h : Issued ⟨next, out, done⟩)
    (hOrder : InOrder done)
    (hMem : n ∈ out) :
    done.length ∈ out := by
  have hLength := h.length_eq
  simp only [List.length_append, List.length_range]
    at hLength
  have hPos := List.length_pos_of_mem hMem
  have hAll : done.length ∈ done ++ out := by
    rw [h.mem_iff, List.mem_range]
    change done.length < next
    change done.length + out.length = next at hLength
    omega
  rcases List.mem_append.mp hAll with hDone | hOut
  · rw [hOrder, List.mem_range, ← hOrder] at hDone
    exact absurd hDone (Nat.lt_irrefl _)
  · exact hOut

/- The order is kept exactly by the smallest one. -/
theorem inOrder_bring_iff
    (h : Issued ⟨next, out, done⟩)
    (hOrder : InOrder done)
    (hMem : n ∈ out) :
    InOrder (done ++ [n]) ↔ ∀ m ∈ out, n ≤ m := by
  rw [hOrder.snoc_iff]
  constructor
  · rintro rfl m hOut
    exact h.length_le hOrder hOut
  · intro hLeast
    have hLe := h.length_le hOrder hMem
    have hGe := hLeast _ (h.length_mem hOrder hMem)
    omega

end Issued

end Tickets

end Foundations
