import SensorGateway.Foundations.Heap

/-
  Linked segments in a heap: a list of addresses with their
  payloads, laid out so that every node holds the addresses
  of its neighbours.

  The node layout is a parameter: `mk prev next x` is the
  node with payload `x` between `prev` and `next`. A singly
  linked node ignores `prev`.

  Key definitions include:
    * `Segment.first`
    * `Segment.last`
    * `Segment.Linked`
    * `Chain`
    * `Heap.Reaches`

  Key theorems include:
    * `Segment.linked_append`
    * `Segment.linked_congr`
    * `Segment.linked_setNext`
    * `Segment.linked_setPrev`
    * `Chain.of_parts`
    * `Chain.length_le_next`
    * `Chain.reaches_iff`
    * `Chain.acyclic`
    * `Chain.link_eq_none_iff`
-/

------------------------------------------------------------
-- Segments
------------------------------------------------------------

namespace Foundations

namespace Segment

variable {N α : Type}

/- The first address of a segment that `nxt` follows. -/
def first
    (xs : List (Nat × α))
    (nxt : Option Nat) :
    Option Nat :=
  match xs with
  | [] => nxt
  | (a, _) :: _ => some a

/- The last address of a segment that follows `prev`. -/
def last :
    Option Nat → List (Nat × α) → Option Nat
| prev, [] => prev
| _, (a, _) :: rest => last (some a) rest

/-
  The nodes of the segment link to each other in order; the
  outer links are `prev` and `nxt`.
-/
def Linked
    (mk : Option Nat → Option Nat → α → N)
    (cell : Nat → Option N) :
    Option Nat → List (Nat × α) → Option Nat → Prop
| _, [], _ => True
| prev, (a, x) :: rest, nxt =>
    cell a = some (mk prev (first rest nxt) x) ∧
      Linked mk cell (some a) rest nxt

@[simp] theorem first_nil
    (nxt : Option Nat) :
    first ([] : List (Nat × α)) nxt = nxt := rfl

@[simp] theorem first_cons
    (a : Nat)
    (x : α)
    (rest : List (Nat × α))
    (nxt : Option Nat) :
    first ((a, x) :: rest) nxt = some a := rfl

@[simp] theorem last_nil
    (prev : Option Nat) :
    last prev ([] : List (Nat × α)) = prev := rfl

@[simp] theorem last_cons
    (prev : Option Nat)
    (a : Nat)
    (x : α)
    (rest : List (Nat × α)) :
    last prev ((a, x) :: rest) = last (some a) rest := rfl

theorem first_append
    (xs ys : List (Nat × α))
    (nxt : Option Nat) :
    first (xs ++ ys) nxt = first xs (first ys nxt) := by
  cases xs with
  | nil => rfl
  | cons x xs => rfl

theorem last_append
    (prev : Option Nat)
    (xs ys : List (Nat × α)) :
    last prev (xs ++ ys) = last (last prev xs) ys := by
  induction xs generalizing prev with
  | nil => rfl
  | cons x xs ih =>
      rcases x with ⟨a, x⟩
      simp only [List.cons_append, last_cons, ih]

@[simp] theorem last_concat
    (prev : Option Nat)
    (xs : List (Nat × α))
    (a : Nat)
    (x : α) :
    last prev (xs ++ [(a, x)]) = some a := by
  rw [last_append]
  rfl

/- Only the empty segment leaves the null link in place. -/
theorem last_none_iff
    (xs : List (Nat × α)) :
    last none xs = none ↔ xs = [] := by
  rcases List.eq_nil_or_concat' xs with
    hNil | ⟨ys, ⟨a, x⟩, hEq⟩
  · simp [hNil]
  · simp [hEq]

end Segment

------------------------------------------------------------
-- Composing and Updating Segments
------------------------------------------------------------

namespace Segment

variable {N α : Type}
variable {mk : Option Nat → Option Nat → α → N}
variable {cell cell' : Nat → Option N}

/- A segment splits at any position. -/
theorem linked_append
    (prev nxt : Option Nat)
    (xs ys : List (Nat × α)) :
    Linked mk cell prev (xs ++ ys) nxt ↔
      Linked mk cell prev xs (first ys nxt) ∧
        Linked mk cell (last prev xs) ys nxt := by
  induction xs generalizing prev with
  | nil => simp [Linked]
  | cons x xs ih =>
      rcases x with ⟨a, x⟩
      simp only [List.cons_append, Linked, last_cons,
        first_append, ih (some a)]
      exact and_assoc.symm

/- A segment depends on the cells at its addresses only. -/
theorem linked_congr
    {prev nxt : Option Nat}
    {xs : List (Nat × α)}
    (hFrame :
      ∀ b ∈ xs.map Prod.fst, cell' b = cell b)
    (hLinked : Linked mk cell prev xs nxt) :
    Linked mk cell' prev xs nxt := by
  induction xs generalizing prev with
  | nil => trivial
  | cons x xs ih =>
      rcases x with ⟨a, x⟩
      rcases hLinked with ⟨hCell, hRest⟩
      constructor
      · rw [hFrame a (by simp)]
        exact hCell
      · apply ih _ hRest
        intro b hb
        exact hFrame b (List.mem_cons_of_mem _ hb)

/- The node between two parts of a segment. -/
theorem cell_of_linked
    {prev nxt : Option Nat}
    {xs ys : List (Nat × α)}
    {a : Nat}
    {x : α}
    (hLinked :
      Linked mk cell prev (xs ++ (a, x) :: ys) nxt) :
    cell a = some (mk (last prev xs) (first ys nxt) x) := by
  rw [linked_append] at hLinked
  exact hLinked.2.1

/- Every address of a segment is live. -/
theorem exists_cell_of_mem
    {prev nxt : Option Nat}
    {xs : List (Nat × α)}
    (hLinked : Linked mk cell prev xs nxt)
    {a : Nat}
    (hMem : a ∈ xs.map Prod.fst) :
    ∃ n, cell a = some n := by
  rcases List.mem_map.mp hMem with ⟨⟨b, x⟩, hPair, hEq⟩
  rcases List.mem_iff_append.mp hPair with ⟨ys, zs, hSplit⟩
  subst hSplit
  simp only at hEq
  subst hEq
  exact ⟨_, cell_of_linked hLinked⟩

/- Redirect the link behind a nonempty segment. -/
theorem linked_setNext
    {prev nxt nxt' : Option Nat}
    {xs : List (Nat × α)}
    {a : Nat}
    {x : α}
    (hLinked : Linked mk cell prev (xs ++ [(a, x)]) nxt)
    (hCell : cell' a = some (mk (last prev xs) nxt' x))
    (hFrame :
      ∀ b ∈ xs.map Prod.fst, cell' b = cell b) :
    Linked mk cell' prev (xs ++ [(a, x)]) nxt' := by
  rw [linked_append] at hLinked ⊢
  constructor
  · exact linked_congr hFrame hLinked.1
  · exact ⟨hCell, trivial⟩

/- Redirect the link in front of a nonempty segment. -/
theorem linked_setPrev
    {prev prev' nxt : Option Nat}
    {xs : List (Nat × α)}
    {a : Nat}
    {x : α}
    (hLinked : Linked mk cell prev ((a, x) :: xs) nxt)
    (hCell : cell' a = some (mk prev' (first xs nxt) x))
    (hFrame :
      ∀ b ∈ xs.map Prod.fst, cell' b = cell b) :
    Linked mk cell' prev' ((a, x) :: xs) nxt :=
  ⟨hCell, linked_congr hFrame hLinked.2⟩

end Segment

------------------------------------------------------------
-- Chains
------------------------------------------------------------

/-
  A whole linked list: it starts at `head`, ends with the
  null link on both sides, and visits no address twice.
-/
structure Chain
    {N α : Type}
    (mk : Option Nat → Option Nat → α → N)
    (h : Heap N)
    (head : Option Nat)
    (nodes : List (Nat × α)) : Prop where
  head_eq : head = Segment.first nodes none
  linked : Segment.Linked mk h.cell none nodes none
  nodup : (nodes.map Prod.fst).Nodup

namespace Chain

variable {N α : Type}
variable {mk : Option Nat → Option Nat → α → N}
variable {h : Heap N}
variable {head : Option Nat}
variable {nodes : List (Nat × α)}

/- The empty list in any heap. -/
theorem nil
    (h : Heap N) :
    Chain mk h none [] :=
  ⟨rfl, trivial, List.nodup_nil⟩

/- The addresses of a chain were handed out before. -/
theorem lt_next
    (hChain : Chain mk h head nodes)
    {a : Nat}
    (hMem : a ∈ nodes.map Prod.fst) :
    a < h.next := by
  rcases Segment.exists_cell_of_mem hChain.linked hMem with
    ⟨n, hCell⟩
  exact h.lt_next_of_cell hCell

/- The next fresh address is not on the chain. -/
theorem next_not_mem
    (hChain : Chain mk h head nodes) :
    h.next ∉ nodes.map Prod.fst := by
  intro hMem
  exact Nat.lt_irrefl _ (hChain.lt_next hMem)

/- A chain is no longer than the number of allocations. -/
theorem length_le_next
    (hChain : Chain mk h head nodes) :
    nodes.length ≤ h.next := by
  have hLength :=
    h.length_le_next hChain.nodup
      (fun a ha => hChain.lt_next ha)
  simpa using hLength

/- A chain is put together around any of its nodes. -/
theorem of_parts
    {xs ys : List (Nat × α)}
    {a : Nat}
    {x : α}
    (hXs : Segment.Linked mk h.cell none xs (some a))
    (hCell :
      h.cell a =
        some
          (mk (Segment.last none xs)
            (Segment.first ys none) x))
    (hYs : Segment.Linked mk h.cell (some a) ys none)
    (hFresh : a ∉ (xs ++ ys).map Prod.fst)
    (hNodup : ((xs ++ ys).map Prod.fst).Nodup) :
    Chain mk h
      (Segment.first (xs ++ (a, x) :: ys) none)
      (xs ++ (a, x) :: ys) := by
  constructor
  · rfl
  · rw [Segment.linked_append]
    exact ⟨hXs, hCell, hYs⟩
  · rw [List.map_append, List.map_cons, List.nodup_middle,
      List.nodup_cons, ← List.map_append]
    exact ⟨hFresh, hNodup⟩

end Chain

------------------------------------------------------------
-- Following the Links
------------------------------------------------------------

section Links

variable {N α : Type}
variable (next : N → Option Nat)

/- The link of the node at an address. -/
def Heap.link
    (h : Heap N)
    (a : Nat) :
    Option Nat :=
  (h.cell a).bind next

/- The address is reached from a pointer along the links. -/
inductive Heap.Reaches
    (h : Heap N) :
    Option Nat → Nat → Prop
| here (a : Nat) : Heap.Reaches h (some a) a
| step
    {a b : Nat}
    (hRest : Heap.Reaches h (h.link next a) b) :
    Heap.Reaches h (some a) b

variable {next}
variable {mk : Option Nat → Option Nat → α → N}
variable {h : Heap N}
variable {head : Option Nat}
variable {nodes : List (Nat × α)}

namespace Segment

/- The link of a node of a segment. -/
theorem link_of_linked
    (hNext : ∀ p n x, next (mk p n x) = n)
    {prev nxt : Option Nat}
    {xs ys : List (Nat × α)}
    {a : Nat}
    {x : α}
    (hLinked :
      Linked mk h.cell prev (xs ++ (a, x) :: ys) nxt) :
    h.link next a = first ys nxt := by
  rw [Heap.link, cell_of_linked hLinked, Option.bind_some,
    hNext]

/- From a segment that ends, its own nodes are reached. -/
theorem reaches_iff
    (hNext : ∀ p n x, next (mk p n x) = n)
    {prev : Option Nat}
    (hLinked : Linked mk h.cell prev nodes none)
    (b : Nat) :
    h.Reaches next (first nodes none) b ↔
      b ∈ nodes.map Prod.fst := by
  induction nodes generalizing prev with
  | nil =>
      constructor
      · intro hReaches
        cases hReaches
      · intro hMem
        cases hMem
  | cons node nodes ih =>
      rcases node with ⟨a, x⟩
      have hSplit :
          Linked mk h.cell prev ([] ++ (a, x) :: nodes)
            none :=
        hLinked
      have hLink :
          h.link next a = first nodes none :=
        link_of_linked hNext hSplit
      rw [List.map_cons, List.mem_cons, ← ih hLinked.2,
        ← hLink]
      constructor
      · intro hReaches
        cases hReaches with
        | here => exact Or.inl rfl
        | step hRest => exact Or.inr hRest
      · rintro (rfl | hRest)
        · exact .here _
        · exact .step hRest

end Segment

namespace Chain

/- From the head, exactly the nodes of the chain. -/
theorem reaches_iff
    (hNext : ∀ p n x, next (mk p n x) = n)
    (hChain : Chain mk h head nodes)
    (b : Nat) :
    h.Reaches next head b ↔ b ∈ nodes.map Prod.fst := by
  rw [hChain.head_eq]
  exact Segment.reaches_iff hNext hChain.linked b

/- The chain behind a node that is reached. -/
theorem split_of_reaches
    (hNext : ∀ p n x, next (mk p n x) = n)
    (hChain : Chain mk h head nodes)
    {a : Nat}
    (hReaches : h.Reaches next head a) :
    ∃ xs x ys,
      nodes = xs ++ (a, x) :: ys ∧
        h.link next a = Segment.first ys none ∧
        Segment.Linked mk h.cell (some a) ys none ∧
        a ∉ ys.map Prod.fst := by
  rw [hChain.reaches_iff hNext] at hReaches
  rcases List.mem_map.mp hReaches with ⟨⟨c, x⟩, hMem, hEq⟩
  simp only at hEq
  subst hEq
  rcases List.mem_iff_append.mp hMem with ⟨xs, ys, hSplit⟩
  have hLinked := hChain.linked
  have hNodup := hChain.nodup
  rw [hSplit] at hLinked hNodup
  rw [List.map_append, List.map_cons, List.nodup_append]
    at hNodup
  exact ⟨xs, x, ys, hSplit,
    Segment.link_of_linked hNext hLinked,
    ((Segment.linked_append _ _ _ _).mp hLinked).2.2,
    (List.nodup_cons.mp hNodup.2.1).1⟩

/- No node of a chain is reached from its own link. -/
theorem acyclic
    (hNext : ∀ p n x, next (mk p n x) = n)
    (hChain : Chain mk h head nodes)
    {a : Nat}
    (hReaches : h.Reaches next head a) :
    ¬ h.Reaches next (h.link next a) a := by
  rcases hChain.split_of_reaches hNext hReaches with
    ⟨xs, x, ys, _, hLink, hLinked, hNot⟩
  rw [hLink, Segment.reaches_iff hNext hLinked]
  exact hNot

/- The last node is the one whose link is null. -/
theorem link_eq_none_iff
    (hNext : ∀ p n x, next (mk p n x) = n)
    (hChain : Chain mk h head nodes)
    {a : Nat}
    (hReaches : h.Reaches next head a) :
    h.link next a = none ↔
      Segment.last none nodes = some a := by
  rcases hChain.split_of_reaches hNext hReaches with
    ⟨xs, x, ys, hSplit, hLink, _, hNot⟩
  rw [hLink, hSplit]
  rcases List.eq_nil_or_concat' ys with
    rfl | ⟨zs, ⟨b, y⟩, rfl⟩
  · simp
  · have hNe : b ≠ a := by
      intro hEq
      apply hNot
      simp [hEq]
    have hLast :
        Segment.last none
            (xs ++ (a, x) :: (zs ++ [(b, y)])) =
          some b := by
      rw [← List.cons_append, ← List.append_assoc,
        Segment.last_concat]
    rw [hLast]
    constructor
    · intro hFirst
      cases zs with
      | nil => cases hFirst
      | cons z zs => cases hFirst
    · intro hEq
      exact absurd (Option.some.inj hEq) hNe

end Chain

end Links

end Foundations
