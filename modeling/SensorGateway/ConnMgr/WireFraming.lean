import SensorGateway.ConnMgr.ClientHandler

/-
  The wire format between `sensor_node.c` and
  `client_handler`, under every way in which TCP may cut the
  byte stream into segments.

  The handler takes a successful receive for a whole field.
  So it decodes a stream, whatever the stream holds, exactly
  when no field of a complete record is cut and at most two
  receives get bytes behind the last complete record.

  Key definitions include:
    * `sensorNodeStream`
    * `Segmentation`
    * `segments`
    * `FramingHolds`
    * `WholeFields`

  Key theorems include:
    * `framingHolds_iff`
    * `framing_fails`
-/

------------------------------------------------------------
-- Streams and Segments
------------------------------------------------------------

namespace SensorGateway

open Foundations

/- The bytes of one record: id, then value, then timestamp. -/
def SensorData.wire
    {V : Type}
    [SensorValue V]
    (r : SensorData V) :
    List (BitVec 8) :=
  (Bytes.encode (n := 2) r.id).toList ++
    (Bytes.encode (n := 8)
      (SensorValue.toBits r.value)).toList ++
    (Bytes.encode (n := 8) r.ts).toList

/- What the loop of `sensor_node.c` sends for its records. -/
def sensorNodeStream
    {V : Type}
    [SensorValue V]
    (rs : List (SensorData V)) :
    List (BitVec 8) :=
  rs.flatMap SensorData.wire

/- The size that the handler's receive number `i` requests. -/
def fieldSize
    (i : Nat) : Nat :=
  if i % 3 = 0 then 2 else 8

/-
  The sizes of the successive receives, from number `i` on:
  each gets at least one byte, and no more than it requests.
-/
def SizesFrom :
    Nat → List Nat → Prop
| _, [] => True
| i, k :: ks =>
    1 ≤ k ∧ k ≤ fieldSize i ∧ SizesFrom (i + 1) ks

instance decidableSizesFrom :
    (i : Nat) → (ks : List Nat) →
      Decidable (SizesFrom i ks)
| _, [] => inferInstanceAs (Decidable True)
| i, k :: ks =>
    have := decidableSizesFrom (i + 1) ks
    inferInstanceAs
      (Decidable (1 ≤ k ∧ k ≤ fieldSize i ∧
        SizesFrom (i + 1) ks))

/- The receives cut a stream of `cut` bytes into `ks`. -/
def Segmentation
    (cut : Nat)
    (ks : List Nat) : Prop :=
  SizesFrom 0 ks ∧ ks.sum = cut

instance
    (cut : Nat)
    (ks : List Nat) :
    Decidable (Segmentation cut ks) :=
  inferInstanceAs (Decidable (_ ∧ _))

/-
  The outcomes of the receives; when the stream is used up,
  the peer has closed the connection.
-/
def segments :
    List Nat → List (BitVec 8) → List Recv
| [], _ => [.stored []]
| k :: ks, bs =>
    .stored (bs.take k) :: segments ks (bs.drop k)

/- The sizes of `m` records received field by field. -/
def wholeSizes :
    Nat → List Nat
| 0 => []
| m + 1 => 2 :: 8 :: 8 :: wholeSizes m

/-
  The receives cut no field of a complete record, and at most
  two of them get bytes of the record that is cut off.
-/
def WholeFields
    (cut : Nat)
    (ks : List Nat) : Prop :=
  ∃ tail,
    ks = wholeSizes (cut / 18) ++ tail ∧ tail.length ≤ 2

/-
  Whatever `n` records are sent, and whatever `data` holds at
  first: of their stream, cut off behind `cut` bytes, the
  handler inserts exactly the complete records.
-/
def FramingHolds
    (TIMEOUT : Int)
    (clock : Nat → Int)
    (n cut : Nat)
    (ks : List Nat) : Prop :=
  ∀ (rs : List (SensorData (BitVec 64)))
    (data : RecordBytes),
      rs.length = n →
        HandlerEffect.inserts
            (clientHandler TIMEOUT
              { recvs :=
                  segments ks
                    ((sensorNodeStream rs).take cut)
                clock := clock
                data := data }) =
          rs.take (cut / 18)

------------------------------------------------------------
-- Lengths
------------------------------------------------------------

section Lengths

variable {V : Type}
variable [SensorValue V]

@[simp] theorem length_wire
    (r : SensorData V) :
    r.wire.length = 18 := by
  simp [SensorData.wire]

@[simp] theorem sensorNodeStream_cons
    (r : SensorData V)
    (rs : List (SensorData V)) :
    sensorNodeStream (r :: rs) =
      r.wire ++ sensorNodeStream rs := rfl

theorem length_sensorNodeStream
    (rs : List (SensorData V)) :
    (sensorNodeStream rs).length = 18 * rs.length := by
  induction rs with
  | nil => rfl
  | cons r rs ih =>
      simp only [sensorNodeStream_cons, List.length_append,
        length_wire, List.length_cons, ih]
      omega

end Lengths

@[simp] theorem sum_wholeSizes
    (m : Nat) :
    (wholeSizes m).sum = 18 * m := by
  induction m with
  | zero => rfl
  | succ m ih =>
      simp only [wholeSizes, List.sum_cons, ih]
      omega

@[simp] theorem length_wholeSizes
    (m : Nat) :
    (wholeSizes m).length = 3 * m := by
  induction m with
  | zero => rfl
  | succ m ih =>
      simp only [wholeSizes, List.length_cons, ih]
      omega

/- The three sizes of a record, and the rest. -/
theorem sizesFrom_record
    {i k₁ k₂ k₃ : Nat}
    {ks : List Nat}
    (hField : i % 3 = 0) :
    SizesFrom i (k₁ :: k₂ :: k₃ :: ks) ↔
      (1 ≤ k₁ ∧ k₁ ≤ 2) ∧ (1 ≤ k₂ ∧ k₂ ≤ 8) ∧
        (1 ≤ k₃ ∧ k₃ ≤ 8) ∧ SizesFrom (i + 3) ks := by
  have h₁ : fieldSize i = 2 := by
    simp [fieldSize, hField]
  have h₂ : fieldSize (i + 1) = 8 := by
    have hNe : (i + 1) % 3 ≠ 0 := by omega
    simp [fieldSize, hNe]
  have h₃ : fieldSize (i + 1 + 1) = 8 := by
    have hNe : (i + 1 + 1) % 3 ≠ 0 := by omega
    simp [fieldSize, hNe]
  simp only [SizesFrom, h₁, h₂, h₃]
  tauto

------------------------------------------------------------
-- One Record
------------------------------------------------------------

section Loop

variable {V : Type}
variable [SensorValue V]

/- What three receives of these sizes leave in `data`. -/
def receiveRecord
    (data : RecordBytes)
    (k₁ k₂ k₃ : Nat)
    (bs : List (BitVec 8)) :
    RecordBytes where
  id := data.id.overwrite (bs.take k₁)
  value := data.value.overwrite ((bs.drop k₁).take k₂)
  ts := data.ts.overwrite ((bs.drop (k₁ + k₂)).take k₃)

/- Fewer than three receives insert nothing. -/
theorem clientLoop_two_receives
    (TIMEOUT : Int)
    (clock : Nat → Int)
    (data : RecordBytes)
    (loggedAlready : Bool)
    (id : SensorId)
    (k : Nat)
    (ks : List Nat)
    (bs : List (BitVec 8))
    (hLength : ks.length ≤ 2) :
    HandlerEffect.inserts
        (clientLoop (V := V) TIMEOUT clock data
          loggedAlready id k (segments ks bs)).1 = [] := by
  match ks, hLength with
  | [], _ => simp [segments, clientLoop, tcpReceive]
  | [k₁], _ =>
      simp only [segments, clientLoop]
      split
      · rfl
      · simp [tcpReceive]
  | [k₁, k₂], _ =>
      simp only [segments, clientLoop]
      split
      · rfl
      · split
        · simp
        · simp [tcpReceive]

/- Three receives insert what they leave in `data`. -/
theorem clientLoop_three_receives
    (TIMEOUT : Int)
    (clock : Nat → Int)
    (data : RecordBytes)
    (loggedAlready : Bool)
    (id : SensorId)
    (k : Nat)
    {k₁ k₂ k₃ : Nat}
    (ks : List Nat)
    {bs : List (BitVec 8)}
    (h₁ : 1 ≤ k₁)
    (h₂ : 1 ≤ k₂)
    (h₃ : 1 ≤ k₃)
    (hBytes : k₁ + k₂ + k₃ ≤ bs.length)
    (hClock : ∀ j, clock (j + 1) - clock j ≤ TIMEOUT) :
    let data' := receiveRecord data k₁ k₂ k₃ bs
    HandlerEffect.inserts
        (clientLoop (V := V) TIMEOUT clock data
          loggedAlready id k
          (segments (k₁ :: k₂ :: k₃ :: ks) bs)).1 =
      data'.record ::
        HandlerEffect.inserts
          (clientLoop (V := V) TIMEOUT clock data' true
            (if loggedAlready then id else data'.sensorId)
            (k + 2)
            (segments ks
              (bs.drop (k₁ + k₂ + k₃)))).1 := by
  have hNe₁ : bs.take k₁ ≠ [] := by
    apply List.ne_nil_of_length_pos
    rw [List.length_take]
    omega
  have hNe₂ : (bs.drop k₁).take k₂ ≠ [] := by
    apply List.ne_nil_of_length_pos
    rw [List.length_take, List.length_drop]
    omega
  have hNe₃ : (bs.drop (k₁ + k₂)).take k₃ ≠ [] := by
    apply List.ne_nil_of_length_pos
    rw [List.length_take, List.length_drop]
    omega
  simp only [segments, List.drop_drop]
  rw [clientLoop_iteration TIMEOUT clock data loggedAlready
    id k _ hNe₁ hNe₂ hNe₃ (hClock k)]
  simp [receiveRecord]

/- Whole fields replace all of `data`. -/
theorem receiveRecord_wire
    (data : RecordBytes)
    (r : SensorData V)
    (rest : List (BitVec 8)) :
    receiveRecord data 2 8 8 (r.wire ++ rest) =
      { id := Bytes.encode (n := 2) r.id
        value := Bytes.encode (n := 8)
          (SensorValue.toBits r.value)
        ts := Bytes.encode (n := 8) r.ts } := by
  have hId :
      (r.wire ++ rest).take 2 =
        (Bytes.encode (n := 2) r.id).toList := by
    simp [SensorData.wire, List.append_assoc]
  have hValue :
      ((r.wire ++ rest).drop 2).take 8 =
        (Bytes.encode (n := 8)
          (SensorValue.toBits r.value)).toList := by
    simp [SensorData.wire, List.append_assoc]
  have hTs :
      ((r.wire ++ rest).drop (2 + 8)).take 8 =
        (Bytes.encode (n := 8) r.ts).toList := by
    rw [← List.drop_drop]
    simp [SensorData.wire, List.append_assoc]
  simp only [receiveRecord, hId, hValue, hTs,
    Bytes.overwrite_toList]

/- The bytes of a record are read back as that record. -/
theorem record_receiveRecord_wire
    (data : RecordBytes)
    (r : SensorData V)
    (rest : List (BitVec 8)) :
    (receiveRecord data 2 8 8 (r.wire ++ rest)).record =
      r := by
  rw [receiveRecord_wire]
  simp [RecordBytes.record, RecordBytes.sensorId,
    SensorValue.ofBits_toBits]

/- A cut behind the first record leaves that record whole. -/
theorem take_sensorNodeStream_cons
    (r : SensorData V)
    (rs : List (SensorData V))
    {cut : Nat}
    (hCut : 18 ≤ cut) :
    (sensorNodeStream (r :: rs)).take cut =
      r.wire ++ (sensorNodeStream rs).take (cut - 18) := by
  rw [sensorNodeStream_cons, List.take_append,
    length_wire, List.take_of_length_le]
  simpa using hCut

/-
  A stream received field by field is decoded, up to the
  record that is cut off.
-/
theorem clientLoop_wholeSizes
    (TIMEOUT : Int)
    (clock : Nat → Int)
    (hClock : ∀ j, clock (j + 1) - clock j ≤ TIMEOUT)
    (m : Nat)
    (rs : List (SensorData V))
    (cut : Nat)
    {tail : List Nat}
    (hRecords : m ≤ rs.length)
    (hCut : 18 * m ≤ cut)
    (hTail : tail.length ≤ 2)
    (data : RecordBytes)
    (loggedAlready : Bool)
    (id : SensorId)
    (k : Nat) :
    HandlerEffect.inserts
        (clientLoop TIMEOUT clock data loggedAlready id k
          (segments (wholeSizes m ++ tail)
            ((sensorNodeStream rs).take cut))).1 =
      rs.take m := by
  induction m generalizing rs cut data loggedAlready id k with
  | zero =>
      simpa [wholeSizes] using
        clientLoop_two_receives TIMEOUT clock data
          loggedAlready id k tail _ hTail
  | succ m ih =>
      cases rs with
      | nil => simp at hRecords
      | cons r rs =>
          rw [take_sensorNodeStream_cons r rs (by omega)]
          have hBytes :
              2 + 8 + 8 ≤
                (r.wire ++
                  (sensorNodeStream rs).take
                    (cut - 18)).length := by
            rw [List.length_append, length_wire]
            omega
          have hFirst :=
            clientLoop_three_receives (V := V) TIMEOUT
              clock data loggedAlready id k
              (wholeSizes m ++ tail)
              (by omega) (by omega) (by omega) hBytes
              hClock
          have hRest :
              (r.wire ++
                  (sensorNodeStream rs).take
                    (cut - 18)).drop (2 + 8 + 8) =
                (sensorNodeStream rs).take (cut - 18) := by
            rw [List.drop_append_of_le_length (by simp),
              List.drop_eq_nil_of_le (by simp)]
            rfl
          simp only [List.length_cons] at hRecords
          simp only [record_receiveRecord_wire, hRest]
            at hFirst
          rw [ih rs (cut - 18) (by omega) (by omega)]
            at hFirst
          simpa [wholeSizes] using hFirst

/- Every three receives insert one record. -/
theorem length_inserts_clientLoop
    (TIMEOUT : Int)
    (clock : Nat → Int)
    (hClock : ∀ j, clock (j + 1) - clock j ≤ TIMEOUT) :
    ∀ (ks : List Nat)
      (i : Nat)
      (bs : List (BitVec 8))
      (data : RecordBytes)
      (loggedAlready : Bool)
      (id : SensorId)
      (k : Nat),
        i % 3 = 0 →
          SizesFrom i ks →
            bs.length = ks.sum →
              (HandlerEffect.inserts
                (clientLoop (V := V) TIMEOUT clock data
                  loggedAlready id k
                  (segments ks bs)).1).length =
                ks.length / 3
| [], i, bs, data, loggedAlready, id, k, _, _, _ => by
    rw [clientLoop_two_receives TIMEOUT clock data
      loggedAlready id k [] bs (by simp)]
    simp
| [k₁], i, bs, data, loggedAlready, id, k, _, _, _ => by
    rw [clientLoop_two_receives TIMEOUT clock data
      loggedAlready id k [k₁] bs (by simp)]
    simp
| [k₁, k₂], i, bs, data, loggedAlready, id, k, _, _, _ => by
    rw [clientLoop_two_receives TIMEOUT clock data
      loggedAlready id k [k₁, k₂] bs (by simp)]
    simp
| k₁ :: k₂ :: k₃ :: ks, i, bs, data, loggedAlready, id, k,
    hField, hSizes, hBytes => by
    rcases (sizesFrom_record hField).mp hSizes with
      ⟨h₁, h₂, h₃, hRest⟩
    simp only [List.sum_cons] at hBytes
    have hEnough : k₁ + k₂ + k₃ ≤ bs.length := by
      omega
    have hLeft :
        (bs.drop (k₁ + k₂ + k₃)).length = ks.sum := by
      rw [List.length_drop]
      omega
    rw [clientLoop_three_receives (V := V) TIMEOUT clock
      data loggedAlready id k ks
      h₁.1 h₂.1 h₃.1 hEnough hClock]
    rw [List.length_cons,
      length_inserts_clientLoop TIMEOUT clock hClock ks
        (i + 3) _ _ true _ (k + 2) (by omega) hRest hLeft]
    simp only [List.length_cons]
    omega

end Loop

------------------------------------------------------------
-- Cut Fields
------------------------------------------------------------

/- The record of zero bytes. -/
def zeroRecord : SensorData (BitVec 64) where
  id := 0
  value := 0
  ts := 0

/- The record of `0xFF` bytes. -/
def onesRecord : SensorData (BitVec 64) where
  id := BitVec.allOnes 16
  value := BitVec.allOnes 64
  ts := BitVec.allOnes 64

/- A zero record received whole leaves `data` zero. -/
theorem receiveRecord_zero
    (rest : List (BitVec 8)) :
    receiveRecord zeroBytes 2 8 8
        (zeroRecord.wire ++ rest) =
      zeroBytes := by
  have hZero :
      ∀ n, Bytes.encode (n := n) 0 = fun _ => 0 := by
    intro n
    funext i
    simp [Bytes.encode, Bytes.encodeNat]
  rw [receiveRecord_wire]
  simp only [zeroRecord, zeroBytes, SensorValue.toBits, id]
  congr 1
  · exact hZero 2
  · exact hZero 8
  · exact hZero 8

/- A cut field keeps a zero byte that was sent as `0xFF`. -/
theorem receiveRecord_cut_ne
    {k₁ k₂ k₃ : Nat}
    (bs : List (BitVec 8))
    (hCut : k₁ < 2 ∨ k₂ < 8 ∨ k₃ < 8) :
    (receiveRecord zeroBytes k₁ k₂ k₃ bs).record ≠
      onesRecord := by
  intro hEq
  rcases hCut with h₁ | h₂ | h₃
  · have hId := congrArg SensorData.id hEq
    refine Bytes.decode_overwrite_ne zeroBytes.id
      (bs.take k₁) 1 ?_ ?_ hId
    · rw [List.length_take, Fin.val_one]
      omega
    · decide
  · have hValue := congrArg SensorData.value hEq
    refine Bytes.decode_overwrite_ne zeroBytes.value
      ((bs.drop k₁).take k₂) 7 ?_ ?_ hValue
    · rw [List.length_take]
      change min k₂ _ ≤ 7
      omega
    · decide
  · have hTs := congrArg SensorData.ts hEq
    refine Bytes.decode_overwrite_ne zeroBytes.ts
      ((bs.drop (k₁ + k₂)).take k₃) 7 ?_ ?_ hTs
    · rw [List.length_take]
      change min k₃ _ ≤ 7
      omega
    · decide

/-
  Where the handler decodes every stream of `n` records, the
  receives of the first `m` records take whole fields: zero
  records lead up to the first cut field, and records of
  `0xFF` bytes follow.
-/
theorem wholeSizes_prefix_of_decoded
    (TIMEOUT : Int)
    (clock : Nat → Int)
    (hClock : ∀ j, clock (j + 1) - clock j ≤ TIMEOUT)
    (m : Nat)
    {i n : Nat}
    {ks : List Nat}
    (loggedAlready : Bool)
    (id : SensorId)
    (k : Nat)
    (hField : i % 3 = 0)
    (hSizes : SizesFrom i ks)
    (hCut : ks.sum ≤ 18 * n)
    (hLength : 3 * m ≤ ks.length)
    (hDecoded :
      ∀ rs : List (SensorData (BitVec 64)),
        rs.length = n →
          HandlerEffect.inserts
              (clientLoop TIMEOUT clock zeroBytes
                loggedAlready id k
                (segments ks
                  ((sensorNodeStream rs).take ks.sum))).1 =
            rs.take m) :
    wholeSizes m <+: ks := by
  induction m generalizing i n ks loggedAlready id k with
  | zero => exact List.nil_prefix
  | succ m ih =>
      match ks, hLength with
      | k₁ :: k₂ :: k₃ :: ks, hLength =>
          rcases (sizesFrom_record hField).mp hSizes with
            ⟨h₁, h₂, h₃, hRest⟩
          simp only [List.sum_cons] at hCut hDecoded
          have hReceived :
              ∀ rs : List (SensorData (BitVec 64)),
                rs.length = n →
                  k₁ + k₂ + k₃ ≤
                    ((sensorNodeStream rs).take
                      (k₁ + (k₂ + (k₃ + ks.sum)))).length := by
            intro rs hRs
            rw [List.length_take, length_sensorNodeStream]
            omega
          cases n with
          | zero => omega
          | succ n =>
              have hWhole : k₁ = 2 ∧ k₂ = 8 ∧ k₃ = 8 := by
                by_contra hCutField
                have hOnes :=
                  hDecoded
                    (List.replicate (n + 1) onesRecord)
                    (by simp)
                rw [clientLoop_three_receives TIMEOUT clock
                  _ _ _ _ _ h₁.1 h₂.1 h₃.1
                  (hReceived _ (by simp)) hClock,
                  List.replicate_succ,
                  List.take_succ_cons] at hOnes
                exact receiveRecord_cut_ne _ (by omega)
                  (List.cons.inj hOnes).1
              rcases hWhole with ⟨rfl, rfl, rfl⟩
              have hPrefix : wholeSizes m <+: ks := by
                apply ih (n := n) true
                  (if loggedAlready then id
                    else zeroBytes.sensorId) (k + 2)
                  (i := i + 3) (by omega) hRest
                  (by omega)
                · simp only [List.length_cons] at hLength
                  omega
                · intro rs hRs
                  have hZero :=
                    hDecoded (zeroRecord :: rs)
                      (by simp [hRs])
                  rw [clientLoop_three_receives TIMEOUT clock
                    _ _ _ _ _ h₁.1 h₂.1 h₃.1
                    (hReceived _ (by simp [hRs])) hClock,
                    take_sensorNodeStream_cons _ _
                      (by omega),
                    receiveRecord_zero] at hZero
                  have hSum :
                      2 + (8 + (8 + ks.sum)) - 18 =
                        ks.sum := by
                    omega
                  have hDrop :
                      (zeroRecord.wire ++
                          (sensorNodeStream rs).take
                            ks.sum).drop (2 + 8 + 8) =
                        (sensorNodeStream rs).take
                          ks.sum := by
                    rw [List.drop_append_of_le_length
                      (by simp), List.drop_eq_nil_of_le
                      (by simp)]
                    rfl
                  rw [hSum, hDrop, List.take_succ_cons]
                    at hZero
                  exact (List.cons.inj hZero).2
              rcases hPrefix with ⟨tail, rfl⟩
              exact ⟨tail, rfl⟩

------------------------------------------------------------
-- When the Framing Holds
------------------------------------------------------------

/-
  Over all contents of a stream, a segmentation is decoded
  exactly when it cuts no field of a complete record and
  leaves at most two receives for the record that is cut off.
-/
theorem framingHolds_iff
    (TIMEOUT : Int)
    (clock : Nat → Int)
    (hClock : ∀ j, clock (j + 1) - clock j ≤ TIMEOUT)
    {n cut : Nat}
    {ks : List Nat}
    (hSegmentation : Segmentation cut ks)
    (hCut : cut ≤ 18 * n) :
    FramingHolds TIMEOUT clock n cut ks ↔
      WholeFields cut ks := by
  rcases hSegmentation with ⟨hSizes, rfl⟩
  have hRecords : ks.sum / 18 ≤ n := by
    omega
  constructor
  · intro hHolds
    have hDecoded :
        ∀ rs : List (SensorData (BitVec 64)),
          rs.length = n →
            HandlerEffect.inserts
                (clientLoop TIMEOUT clock zeroBytes false 0 2
                  (segments ks
                    ((sensorNodeStream rs).take
                      ks.sum))).1 =
              rs.take (ks.sum / 18) := by
      intro rs hRs
      rw [← hHolds rs zeroBytes hRs, inserts_clientHandler]
    have hCount : ks.length / 3 = ks.sum / 18 := by
      have hInserted :=
        congrArg List.length
          (hDecoded (List.replicate n zeroRecord) (by simp))
      rw [length_inserts_clientLoop TIMEOUT clock hClock ks
        0 _ _ _ _ _ (by omega) hSizes
        (by
          rw [List.length_take, length_sensorNodeStream,
            List.length_replicate]
          omega)] at hInserted
      rw [hInserted, List.length_take,
        List.length_replicate]
      omega
    rcases wholeSizes_prefix_of_decoded TIMEOUT clock hClock
        (ks.sum / 18) false 0 2 (i := 0) (by omega) hSizes
        hCut (by omega) hDecoded with
      ⟨tail, hTail⟩
    refine ⟨tail, hTail.symm, ?_⟩
    have hLength := congrArg List.length hTail
    rw [List.length_append, length_wholeSizes] at hLength
    omega
  · rintro ⟨tail, hWhole, hTail⟩ rs data hRs
    rw [inserts_clientHandler]
    have hLoop :=
      clientLoop_wholeSizes TIMEOUT clock hClock
        (ks.sum / 18) rs ks.sum (by omega) (by omega) hTail
        data false 0 2
    rw [← hWhole] at hLoop
    exact hLoop

/- One record, received field by field. -/
theorem framingHolds_one_record :
    FramingHolds 5 (fun _ => 0) 1 18 [2, 8, 8] :=
  (framingHolds_iff 5 (fun _ => 0) (by simp)
    (by decide) (by decide)).mpr ⟨[], rfl, by decide⟩

/-
  One record, of which the first receive gets a single byte.
  The handler takes the fourth receive for a second id and
  inserts one record, with shifted fields.
-/
theorem framing_fails :
    ¬ ∀ (rs : List (SensorData (BitVec 64)))
        (cut : Nat)
        (ks : List Nat)
        (data : RecordBytes),
          Segmentation cut ks →
            cut ≤ 18 * rs.length →
              HandlerEffect.inserts
                  (clientHandler 5
                    { recvs :=
                        segments ks
                          ((sensorNodeStream rs).take cut)
                      clock := fun _ => 0
                      data := data }) =
                rs.take (cut / 18) := by
  intro hAll
  have hShort :=
    hAll [onesRecord] 18 [1, 8, 8, 1] zeroBytes
      (by decide) (by decide)
  revert hShort
  decide

end SensorGateway
