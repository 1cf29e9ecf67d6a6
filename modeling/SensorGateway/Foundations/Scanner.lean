import Mathlib.Data.List.Basic

/-
  Scanners that read an item off the front of their input,
  and their repetition up to the first failure.

  A scanner that consumes something each time is repeated at
  most as often as the input is long, so this much fuel is
  enough, and the fuel can be forgotten.

  Key definitions include:
    * `Scanner`
    * `Scanner.Progresses`
    * `Scanner.scanAll`
    * `Scanner.takeRecord`

  Key theorems include:
    * `takeWhile_append_stop`
    * `dropWhile_append_stop`
    * `Scanner.scanLoop_eq_scanAll`
    * `Scanner.scanAll_of_some`
    * `Scanner.scanAll_take_records`
-/

------------------------------------------------------------
-- Maximal Runs
------------------------------------------------------------

namespace Foundations

/- A run of items ends where another item follows. -/
theorem takeWhile_append_stop
    {α : Type}
    {p : α → Bool}
    {run rest : List α}
    (hRun : ∀ a ∈ run, p a = true)
    (hStop : ∀ a ∈ rest.head?, p a = false) :
    (run ++ rest).takeWhile p = run := by
  rw [List.takeWhile_append_of_pos hRun]
  cases rest with
  | nil => exact List.append_nil run
  | cons a rest =>
      have hNot : ¬p a = true := by
        rw [hStop a rfl]
        exact Bool.false_ne_true
      rw [List.takeWhile_cons_of_neg hNot, List.append_nil]

theorem dropWhile_append_stop
    {α : Type}
    {p : α → Bool}
    {run rest : List α}
    (hRun : ∀ a ∈ run, p a = true)
    (hStop : ∀ a ∈ rest.head?, p a = false) :
    (run ++ rest).dropWhile p = rest := by
  rw [List.dropWhile_append_of_pos hRun]
  cases rest with
  | nil => rfl
  | cons a rest =>
      have hNot : ¬p a = true := by
        rw [hStop a rfl]
        exact Bool.false_ne_true
      exact List.dropWhile_cons_of_neg hNot

------------------------------------------------------------
-- Scanners
------------------------------------------------------------

/- An item, and the input behind it, if there is one. -/
abbrev Scanner (α β : Type) :=
  List α → Option (β × List α)

namespace Scanner

variable {α β : Type}

/- Each item takes something of the input. -/
def Progresses
    (p : Scanner α β) : Prop :=
  ∀ input x rest,
    p input = some (x, rest) → rest.length < input.length

/- The items up to the first failure, with fuel. -/
def scanLoop
    (p : Scanner α β) :
    Nat → List α → List β
| 0, _ => []
| fuel + 1, input =>
    match p input with
    | none => []
    | some (x, rest) => x :: scanLoop p fuel rest

/- The items up to the first failure. -/
def scanAll
    (p : Scanner α β)
    (input : List α) :
    List β :=
  scanLoop p (input.length + 1) input

variable {p : Scanner α β}

/- Fuel for the whole input is enough. -/
theorem scanLoop_eq_scanAll
    (hProgress : Progresses p)
    {fuel : Nat}
    {input : List α}
    (hFuel : input.length < fuel) :
    scanLoop p fuel input = scanAll p input := by
  have hSame :
      ∀ fuel' input,
        input.length < fuel' →
          ∀ fuel, input.length < fuel →
            scanLoop p fuel input = scanLoop p fuel' input := by
    intro fuel'
    induction fuel' with
    | zero =>
        intro input hNo
        exact absurd hNo (Nat.not_lt_zero _)
    | succ fuel' ih =>
        intro input hLt' fuel hLt
        cases fuel with
        | zero => exact absurd hLt (Nat.not_lt_zero _)
        | succ fuel =>
            rw [scanLoop, scanLoop]
            cases hScan : p input with
            | none => rfl
            | some item =>
                rcases item with ⟨x, rest⟩
                have hRest := hProgress input x rest hScan
                simp only
                rw [ih rest (by omega) fuel (by omega)]
  exact hSame _ input (Nat.lt_succ_self _) fuel hFuel

/- One item, and then the others. -/
theorem scanAll_of_some
    (hProgress : Progresses p)
    {input rest : List α}
    {x : β}
    (hScan : p input = some (x, rest)) :
    scanAll p input = x :: scanAll p rest := by
  have hRest := hProgress input x rest hScan
  rw [scanAll, scanLoop, hScan]
  simp only
  rw [scanLoop_eq_scanAll hProgress hRest]

theorem scanAll_of_none
    {input : List α}
    (hScan : p input = none) :
    scanAll p input = [] := by
  rw [scanAll, scanLoop, hScan]

------------------------------------------------------------
-- Records of One Size
------------------------------------------------------------

/- A record of so many items, if there are that many left. -/
def takeRecord
    (size : Nat)
    (decode : List α → β) :
    Scanner α β :=
  fun input =>
    if input.length < size then
      none
    else
      some (decode (input.take size), input.drop size)

section Records

variable {size : Nat}
variable {decode : List α → β}

theorem takeRecord_progresses
    (hPos : 0 < size) :
    Progresses (takeRecord size decode) := by
  intro input x rest hScan
  unfold takeRecord at hScan
  split at hScan
  · cases hScan
  · cases hScan
    rw [List.length_drop]
    omega

variable {encode : β → List α}
variable (hSize : ∀ x, (encode x).length = size)
variable (hDecode : ∀ x, decode (encode x) = x)

include hSize hDecode

theorem takeRecord_encode
    (x : β)
    (rest : List α) :
    takeRecord size decode (encode x ++ rest) =
      some (x, rest) := by
  have hLength := hSize x
  have hEnough : ¬(encode x ++ rest).length < size := by
    rw [List.length_append]
    omega
  rw [takeRecord, if_neg hEnough, ← hLength, List.take_left,
    List.drop_left, hDecode]

/- Of records that are cut off, the whole ones are read. -/
theorem scanAll_take_records
    (hPos : 0 < size)
    (xs : List β)
    (cut : Nat) :
    scanAll (takeRecord size decode)
        ((xs.flatMap encode).take cut) =
      xs.take (cut / size) := by
  induction xs generalizing cut with
  | nil =>
      rw [List.flatMap_nil, List.take_nil, List.take_nil]
      exact scanAll_of_none (if_pos hPos)
  | cons x xs ih =>
      by_cases hShort : cut < size
      · have hPart :
            ((x :: xs).flatMap encode |>.take cut).length <
              size := by
          rw [List.length_take]
          omega
        rw [Nat.div_eq_of_lt hShort, List.take_zero]
        exact scanAll_of_none (if_pos hPart)
      · have hSplit :
            ((x :: xs).flatMap encode).take cut =
              encode x ++
                (xs.flatMap encode).take (cut - size) := by
          rw [List.flatMap_cons, List.take_append, hSize,
            List.take_of_length_le]
          rw [hSize]
          omega
        have hScan :=
          takeRecord_encode hSize hDecode x
            ((xs.flatMap encode).take (cut - size))
        have hCount : cut / size = (cut - size) / size + 1 :=
          Nat.div_eq_sub_div hPos (by omega)
        rw [hSplit,
          scanAll_of_some (takeRecord_progresses hPos) hScan,
          ih, hCount, List.take_succ_cons]

end Records

end Scanner

end Foundations
