import Mathlib.Data.List.InsertIdx

/-
  Lists whose operations take any integer as a position and
  move it to the nearest one that exists.

  Key definitions include:
    * `clampIndex`
    * `ClampedList.insertAt`
    * `ClampedList.removeAt`
    * `ClampedList.getAt`

  Key theorems include:
    * `ClampedList.insertAt_split`
    * `ClampedList.removeAt_split`
    * `ClampedList.exists_split`
-/

------------------------------------------------------------
-- Clamped Positions
------------------------------------------------------------

namespace Foundations

/- The position in `0..n` that is nearest to `index`. -/
def clampIndex
    (index : Int)
    (n : Nat) : Nat :=
  (max 0 (min index n)).toNat

theorem clampIndex_le
    (index : Int)
    (n : Nat) :
    clampIndex index n ≤ n := by
  unfold clampIndex
  omega

theorem clampIndex_of_nonpos
    {index : Int}
    (hIndex : index ≤ 0)
    (n : Nat) :
    clampIndex index n = 0 := by
  unfold clampIndex
  omega

/- Positions in range stay as they are. -/
theorem clampIndex_natCast
    {i n : Nat}
    (hLe : i ≤ n) :
    clampIndex (i : Int) n = i := by
  unfold clampIndex
  omega

------------------------------------------------------------
-- Operations
------------------------------------------------------------

namespace ClampedList

variable {α β : Type}

/- Put `x` at the position nearest to `index`. -/
def insertAt
    (xs : List α)
    (index : Int)
    (x : α) : List α :=
  xs.insertIdx (clampIndex index xs.length) x

/- Delete the item nearest to `index`, if there is one. -/
def removeAt
    (xs : List α)
    (index : Int) : List α :=
  xs.eraseIdx (clampIndex index (xs.length - 1))

/- The item nearest to `index`, if there is one. -/
def getAt
    (xs : List α)
    (index : Int) : Option α :=
  xs[clampIndex index (xs.length - 1)]?

/- Every position in range splits the list. -/
theorem exists_split
    (xs : List α)
    {k : Nat}
    (hLt : k < xs.length) :
    ∃ before x after,
      xs = before ++ x :: after ∧ before.length = k := by
  refine ⟨xs.take k, xs[k], xs.drop (k + 1), ?_, ?_⟩
  · rw [← List.drop_eq_getElem_cons hLt,
      List.take_append_drop]
  · rw [List.length_take]
    omega

/- The item that a clamped position of the list finds. -/
theorem exists_split_clamped
    {xs : List α}
    (hNe : xs ≠ [])
    (index : Int) :
    ∃ before x after,
      xs = before ++ x :: after ∧
        before.length =
          clampIndex index (xs.length - 1) := by
  apply exists_split
  have hPos := List.length_pos_iff.mpr hNe
  have hLe := clampIndex_le index (xs.length - 1)
  omega

private theorem insertIdx_append
    (before after : List α)
    (x : α) :
    (before ++ after).insertIdx before.length x =
      before ++ x :: after := by
  induction before with
  | nil => rfl
  | cons y before ih =>
      simpa using ih

/- An insert between two parts of a list. -/
theorem insertAt_split
    (before after : List α)
    {index : Int}
    (hIndex :
      before.length =
        clampIndex index (before ++ after).length)
    (x : α) :
    insertAt (before ++ after) index x =
      before ++ x :: after := by
  unfold insertAt
  rw [← hIndex, insertIdx_append]

/- A removal between two parts of a list. -/
theorem removeAt_split
    (before after : List α)
    {x : α}
    {index : Int}
    (hIndex :
      before.length =
        clampIndex index
          ((before ++ x :: after).length - 1)) :
    removeAt (before ++ x :: after) index =
      before ++ after := by
  unfold removeAt
  rw [← hIndex,
    List.eraseIdx_append_of_length_le (Nat.le_refl _),
    Nat.sub_self, List.eraseIdx_cons_zero]

/- The item between two parts of a list. -/
theorem getAt_split
    {before after : List α}
    {x : α}
    {index : Int}
    (hIndex :
      before.length =
        clampIndex index
          ((before ++ x :: after).length - 1)) :
    getAt (before ++ x :: after) index = some x := by
  unfold getAt
  rw [← hIndex]
  simp

theorem getAt_nil
    (index : Int) :
    getAt ([] : List α) index = none := rfl

/- The operations work on positions, not on items. -/
theorem map_insertAt
    (f : α → β)
    (xs : List α)
    (index : Int)
    (x : α) :
    (insertAt xs index x).map f =
      insertAt (xs.map f) index (f x) := by
  unfold insertAt
  rw [List.map_insertIdx, List.length_map]

theorem map_removeAt
    (f : α → β)
    (xs : List α)
    (index : Int) :
    (removeAt xs index).map f =
      removeAt (xs.map f) index := by
  unfold removeAt
  rw [List.eraseIdx_map, List.length_map]

theorem getAt_map
    (f : α → β)
    (xs : List α)
    (index : Int) :
    getAt (xs.map f) index = (getAt xs index).map f := by
  unfold getAt
  rw [List.getElem?_map, List.length_map]

end ClampedList

end Foundations
