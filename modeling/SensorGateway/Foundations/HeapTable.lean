import SensorGateway.Foundations.Heap

/-
  A heap as the table of what it holds: the live addresses,
  each once, with their contents. The order of the table does
  not matter, so an operation is described at its head.

  Key definitions include:
    * `Heap.Holds`

  Key theorems include:
    * `Heap.Holds.alloc`
    * `Heap.Holds.put`
    * `Heap.Holds.drop`
    * `Heap.Holds.read`
-/

------------------------------------------------------------
-- Tables of a Heap
------------------------------------------------------------

namespace Foundations

namespace Heap

variable {N : Type}
variable {h : Heap N}
variable {entries entries' : List (Nat × N)}
variable {a : Nat}
variable {n : N}

/- The heap has the entries, and nothing else is live. -/
structure Holds
    (h : Heap N)
    (entries : List (Nat × N)) : Prop where
  cells : ∀ e ∈ entries, h.cell e.1 = some e.2
  owns : h.Owns (entries.map Prod.fst)

namespace Holds

theorem empty :
    (Heap.empty : Heap N).Holds [] where
  cells := fun _ hMem => nomatch hMem
  owns := Owns.empty

theorem of_perm
    (hHolds : h.Holds entries)
    (hPerm : entries.Perm entries') :
    h.Holds entries' where
  cells := fun e hMem => hHolds.cells e (hPerm.mem_iff.mpr hMem)
  owns := hHolds.owns.of_perm (hPerm.map Prod.fst)

/- The addresses of a table are distinct. -/
theorem nodup
    (hHolds : h.Holds entries) :
    (entries.map Prod.fst).Nodup :=
  hHolds.owns.nodup

theorem not_mem_rest
    (hHolds : h.Holds ((a, n) :: entries))
    {e : Nat × N}
    (hMem : e ∈ entries) :
    e.1 ≠ a := by
  intro hEq
  have hNot : a ∉ entries.map Prod.fst :=
    (List.nodup_cons.mp hHolds.nodup).1
  apply hNot
  rw [← hEq]
  exact List.mem_map_of_mem hMem

theorem alloc
    (hHolds : h.Holds entries)
    (n : N) :
    (h.alloc n).Holds ((h.next, n) :: entries) where
  cells := by
    rw [List.forall_mem_cons]
    refine ⟨alloc_cell_new h n, ?_⟩
    intro e hMem
    have hCell := hHolds.cells e hMem
    rw [alloc_cell_of_ne _ _ (h.lt_next_of_cell hCell).ne]
    exact hCell
  owns :=
    (hHolds.owns.alloc n).of_perm
      (List.perm_append_singleton _ _)

theorem put
    (hHolds : h.Holds ((a, n) :: entries))
    (n' : N) :
    (h.put a n').Holds ((a, n') :: entries) where
  cells := by
    have hCells := hHolds.cells
    rw [List.forall_mem_cons] at hCells ⊢
    refine ⟨put_cell_self h n' hCells.1, ?_⟩
    intro e hMem
    rw [put_cell_of_ne h n' (hHolds.not_mem_rest hMem)]
    exact hCells.2 e hMem
  owns := hHolds.owns.put a n'

theorem drop
    (hHolds : h.Holds ((a, n) :: entries)) :
    (h.drop a).Holds entries where
  cells := by
    intro e hMem
    rw [drop_cell_of_ne h (hHolds.not_mem_rest hMem)]
    exact hHolds.cells e (List.mem_cons_of_mem _ hMem)
  owns := hHolds.owns.drop

/- The head of the table can be read, written and freed. -/
theorem read
    (hHolds : h.Holds ((a, n) :: entries)) :
    h.read (some a) = .ok n :=
  h.read_of_cell (hHolds.cells _ List.mem_cons_self)

theorem write
    (hHolds : h.Holds ((a, n) :: entries))
    (n' : N) :
    h.write (some a) n' = .ok (h.put a n') :=
  h.write_of_cell n' (hHolds.cells _ List.mem_cons_self)

theorem free
    (hHolds : h.Holds ((a, n) :: entries)) :
    h.free (some a) = .ok (h.drop a) :=
  h.free_of_cell (hHolds.cells _ List.mem_cons_self)

end Holds

end Heap

end Foundations
