import Mathlib.Data.List.OfFn
import Mathlib.Data.Nat.Basic
import Mathlib.Tactic.Positivity
import Mathlib.Tactic.Ring

/-
  Fixed-size byte fields in memory: the little-endian bytes
  of a bit vector, reading them back, and overwriting the
  front of a field with fewer bytes than it has.

  Key definitions include:
    * `Bytes`
    * `Bytes.encode`
    * `Bytes.decode`
    * `Bytes.overwrite`

  Key theorems include:
    * `Bytes.decode_encode`
    * `Bytes.encode_decode`
    * `Bytes.overwrite_toList`
    * `Bytes.overwrite_of_le`
    * `Bytes.decode_overwrite_ne`
-/

------------------------------------------------------------
-- Byte Fields
------------------------------------------------------------

namespace Foundations

/- `n` bytes of memory. -/
abbrev Bytes (n : Nat) :=
  Fin n → BitVec 8

namespace Bytes

/- The bytes of a field, from the lowest address on. -/
def toList
    {n : Nat}
    (b : Bytes n) :
    List (BitVec 8) :=
  List.ofFn b

/- The little-endian bytes of a number. -/
def encodeNat
    (n m : Nat) : Bytes n :=
  fun i => BitVec.ofNat 8 (m / 256 ^ i.val)

/- The number that little-endian bytes stand for. -/
def decodeNat :
    List (BitVec 8) → Nat
| [] => 0
| b :: bs => b.toNat + 256 * decodeNat bs

/- The bytes of a bit vector. -/
def encode
    {n : Nat}
    (x : BitVec (8 * n)) : Bytes n :=
  encodeNat n x.toNat

/- The bit vector that a field holds. -/
def decode
    {n : Nat}
    (b : Bytes n) : BitVec (8 * n) :=
  BitVec.ofNat (8 * n) (decodeNat b.toList)

/-
  Store `bs` at the front of the field; the bytes that `bs`
  does not reach keep their contents.
-/
def overwrite
    {n : Nat}
    (b : Bytes n)
    (bs : List (BitVec 8)) : Bytes n :=
  fun i => bs[i.val]?.getD (b i)

@[simp] theorem length_toList
    {n : Nat}
    (b : Bytes n) :
    b.toList.length = n := by
  simp [toList]

/- The bytes of a number stand for it, up to their range. -/
theorem decodeNat_encodeNat
    (n m : Nat) :
    decodeNat (encodeNat n m).toList = m % 256 ^ n := by
  induction n generalizing m with
  | zero => simp [toList, decodeNat, Nat.mod_one]
  | succ n ih =>
      have hTail :
          (fun i : Fin n => encodeNat (n + 1) m i.succ) =
            encodeNat n (m / 256) := by
        funext i
        simp [encodeNat, pow_succ',
          Nat.div_div_eq_div_mul]
      have hCons :
          (encodeNat (n + 1) m).toList =
            BitVec.ofNat 8 m ::
              (encodeNat n (m / 256)).toList := by
        rw [toList, List.ofFn_succ, hTail]
        simp [encodeNat, toList]
      rw [hCons, decodeNat, ih, pow_succ', Nat.mod_mul]
      simp

/- A bit vector is read back from its bytes. -/
@[simp] theorem decode_encode
    {n : Nat}
    (x : BitVec (8 * n)) :
    decode (encode x) = x := by
  have hPow : 256 ^ n = 2 ^ (8 * n) := by
    rw [pow_mul]
    norm_num
  unfold decode encode
  rw [decodeNat_encodeNat, hPow]
  apply BitVec.eq_of_toNat_eq
  simp [Nat.mod_eq_of_lt x.isLt]

/- A number below the range splits off its lowest byte. -/
private theorem encodeNat_decodeNat
    {n : Nat}
    (b : Bytes n) :
    encodeNat n (decodeNat b.toList) = b := by
  induction n with
  | zero =>
      funext i
      exact i.elim0
  | succ n ih =>
      have hTail := ih (fun i => b i.succ)
      have hSplit :
          decodeNat b.toList =
            (b 0).toNat +
              256 * decodeNat
                (toList (fun i => b i.succ)) := by
        simp only [toList, List.ofFn_succ, decodeNat]
      have hByte : (b 0).toNat < 256 := (b 0).isLt
      rw [hSplit]
      funext i
      refine Fin.cases ?_ ?_ i
      · apply BitVec.eq_of_toNat_eq
        simpa [encodeNat, Nat.add_mul_mod_self_left]
          using hByte
      · intro j
        rw [← congrFun hTail j]
        have hDiv :
            ((b 0).toNat +
                256 * decodeNat
                  (toList (fun i => b i.succ))) / 256 =
              decodeNat (toList (fun i => b i.succ)) := by
          omega
        simp only [encodeNat, Fin.val_succ, pow_succ']
        rw [← Nat.div_div_eq_div_mul, hDiv]

/- The bytes of a field are the bytes of what it holds. -/
@[simp] theorem encode_decode
    {n : Nat}
    (b : Bytes n) :
    encode (decode b) = b := by
  have hPow : 2 ^ (8 * n) = 256 ^ n := by
    rw [pow_mul]
    norm_num
  have hSmall :
      ∀ (k : Nat) (c : Bytes k),
        decodeNat c.toList < 256 ^ k := by
    intro k c
    have hMod :=
      decodeNat_encodeNat k (decodeNat c.toList)
    rw [encodeNat_decodeNat] at hMod
    rw [hMod]
    exact Nat.mod_lt _ (by positivity)
  unfold encode decode
  rw [BitVec.toNat_ofNat, hPow,
    Nat.mod_eq_of_lt (hSmall n b)]
  exact encodeNat_decodeNat b

/- As many bytes as the field has replace all of it. -/
theorem overwrite_toList
    {n : Nat}
    (b c : Bytes n) :
    b.overwrite c.toList = c := by
  funext i
  simp [overwrite, toList]

/- A position behind the stored bytes keeps its byte. -/
theorem overwrite_of_le
    {n : Nat}
    (b : Bytes n)
    {bs : List (BitVec 8)}
    {i : Fin n}
    (hShort : bs.length ≤ i.val) :
    b.overwrite bs i = b i := by
  simp [overwrite, List.getElem?_eq_none_iff.mpr hShort]

/-
  Bytes that the field keeps show in what it holds: it does
  not hold a value with another byte there.
-/
theorem decode_overwrite_ne
    {n : Nat}
    (b : Bytes n)
    (bs : List (BitVec 8))
    (i : Fin n)
    (hShort : bs.length ≤ i.val)
    {x : BitVec (8 * n)}
    (hByte : encode x i ≠ b i) :
    decode (b.overwrite bs) ≠ x := by
  intro hEq
  apply hByte
  rw [← hEq, encode_decode]
  exact overwrite_of_le b hShort

end Bytes

end Foundations
