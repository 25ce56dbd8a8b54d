import EspIris.Codec.Device
import EspIris.Gateway.Session
import EspIris.Lib.Slices

/-! The tag-length-value fields that both sides write and the gateway reads: `encode_tlv` and `decode_tlv` of the
gateway and `tlv_put` of the device. -/

namespace EspIris.Link.Tlv
open Bytes Slices Codec.Device Gateway
open Codec.Host (ProtocolError)
variable {value : List UInt8}

abbrev Item := UInt8 × List UInt8

def tlv (item : Item) : List UInt8 := item.1 :: littleEndian 2 item.2.length ++ item.2

def encodeTlv : List Item → Except ProtocolError (List UInt8)
  | [] => .ok []
  | item :: items =>
    if item.2.length > 0xffff then .error ⟨"TLV value is too large"⟩ else (encodeTlv items).map (tlv item ++ ·)

def Short (items : List Item) : Prop := ∀ item ∈ items, item.2.length ≤ 0xffff

def lastValues (items : List Item) : Fields := fun tag => (items.reverse.find? fun item => item.1 = tag).map Prod.snd

/-- `tlv_writer_t`, with the memory that its buffer starts; no object is larger than a pointer difference. -/
structure TlvWriter where
  memory : List UInt8
  capacity : Nat
  length : Nat
  inside : capacity ≤ memory.length
  fits : length ≤ capacity
  object : memory.length < 2 ^ 31

def TlvWriter.store (writer : TlvWriter) (bytes : List UInt8) (room : writer.length + bytes.length ≤ writer.capacity) :
    TlvWriter where
  memory := overwrite writer.memory writer.length bytes
  capacity := writer.capacity
  length := writer.length + bytes.length
  inside := by
    rw [overwrite_length (room.trans writer.inside)]
    exact writer.inside
  fits := room
  object := by
    rw [overwrite_length (room.trans writer.inside)]
    exact writer.object

/-- The test of `tlv_put`, with sizes of 32 bits. -/
def TlvWriter.Refuses (writer : TlvWriter) (value : List UInt8) : Prop :=
  value.length > 0xffff ∨ (writer.length + 3 + value.length) % 2 ^ 32 > writer.capacity

instance (writer : TlvWriter) (value : List UInt8) : Decidable (writer.Refuses value) := by
  unfold TlvWriter.Refuses
  infer_instance

variable {writer : TlvWriter} {items : List Item}

theorem TlvWriter.room (takes : ¬ writer.Refuses value) :
    writer.length + 3 + value.length ≤ writer.capacity ∧ value.length ≤ 0xffff := by
  unfold TlvWriter.Refuses at takes
  have inside := writer.inside
  have fits := writer.fits
  have object := writer.object
  omega

def tlvPut (writer : TlvWriter) (tag : UInt8) (value : List UInt8) : TlvWriter × Bool :=
  if refuses : writer.Refuses value then (writer, false)
  else
    let tagged := writer.store [tag] (by
      have room := TlvWriter.room refuses
      rw [List.length_singleton]
      omega)
    let sized := tagged.store (irisPutLe16 (UInt16.ofNat value.length)) (by
      have room := TlvWriter.room refuses
      change writer.length + 1 + 2 ≤ writer.capacity
      omega)
    (sized.store value (by
      have room := TlvWriter.room refuses
      change writer.length + 1 + 2 + value.length ≤ writer.capacity
      omega), true)

/-- Calls of `tlv_put` behind one another, up to the first that fails. -/
def tlvPutAll (writer : TlvWriter) : List Item → TlvWriter × Bool
  | [] => (writer, true)
  | item :: items =>
    let put := tlvPut writer item.1 item.2
    if put.2 then tlvPutAll put.1 items else put

def TlvWriter.written (writer : TlvWriter) (since : Nat) : List UInt8 := (writer.memory.take writer.length).drop since

theorem irisPutLe16_ofNat {value : Nat} (small : value ≤ 0xffff) :
    irisPutLe16 (UInt16.ofNat value) = littleEndian 2 value := by
  rw [irisPutLe16_eq, UInt16.toNat_ofNat', Nat.mod_eq_of_lt (Nat.lt_succ_of_le small)]

/-- A call that succeeds writes the item behind what was written, and nothing else. -/
theorem tlvPut_written {tag : UInt8} (success : (tlvPut writer tag value).2 = true) :
    (tlvPut writer tag value).1.memory = overwrite writer.memory writer.length (tlv (tag, value)) ∧
      (tlvPut writer tag value).1.capacity = writer.capacity ∧
      (tlvPut writer tag value).1.length = writer.length + (tlv (tag, value)).length ∧ value.length ≤ 0xffff := by
  unfold tlvPut at success ⊢
  split at success
  · contradiction
  next takes =>
    rw [dif_neg takes]
    obtain ⟨room, short⟩ := TlvWriter.room takes
    have inside := writer.inside
    have size : (littleEndian 2 value.length).length = 2 := littleEndian_length 2 value.length
    refine ⟨?_, rfl, ?_, short⟩
    · change overwrite (overwrite (overwrite writer.memory writer.length [tag]) (writer.length + [tag].length)
        (irisPutLe16 (UInt16.ofNat value.length))) (writer.length + [tag].length + 2) value = _
      have head : ([tag] ++ littleEndian 2 value.length).length = 3 := by rw [List.length_append, size]; rfl
      have behind : writer.length + [tag].length + 2 =
          writer.length + ([tag] ++ littleEndian 2 value.length).length := by rw [head]; rfl
      rw [irisPutLe16_ofNat short, overwrite_overwrite (by rw [size, List.length_singleton]; omega), behind,
        overwrite_overwrite (by rw [head]; omega)]
      rfl
    · change writer.length + 1 + 2 + value.length = _
      unfold tlv
      rw [List.cons_append, List.length_cons, List.length_append, size]
      dsimp only
      omega

theorem tlvPut_failed {tag : UInt8} (failed : (tlvPut writer tag value).2 = false) :
    (tlvPut writer tag value).1 = writer := by
  unfold tlvPut at failed ⊢
  split at failed
  next refuses => rw [dif_pos refuses]
  · contradiction

/-- No call touches the memory behind the capacity, and the length stays within it. -/
theorem tlvPut_bounded (writer : TlvWriter) (tag : UInt8) (value : List UInt8) :
    (tlvPut writer tag value).1.memory.drop writer.capacity = writer.memory.drop writer.capacity ∧
      (tlvPut writer tag value).1.length ≤ writer.capacity := by
  cases result : (tlvPut writer tag value).2 with
  | false =>
    rw [tlvPut_failed result]
    exact ⟨rfl, writer.fits⟩
  | true =>
    obtain ⟨memory, capacity, length, -⟩ := tlvPut_written result
    have fits := (tlvPut writer tag value).1.fits
    rw [capacity] at fits
    refine ⟨?_, fits⟩
    rw [length] at fits
    rw [memory]
    exact overwrite_drop (fits.trans writer.inside) fits

theorem tlvPutAll_written (success : (tlvPutAll writer items).2 = true) :
    (tlvPutAll writer items).1.memory = overwrite writer.memory writer.length (items.flatMap tlv) ∧
      (tlvPutAll writer items).1.capacity = writer.capacity ∧
      (tlvPutAll writer items).1.length = writer.length + (items.flatMap tlv).length ∧ Short items := by
  induction items generalizing writer with
  | nil => exact ⟨(overwrite_nil _ _).symm, rfl, rfl, fun item member => absurd member List.not_mem_nil⟩
  | cons item items ih =>
    unfold tlvPutAll at success ⊢
    dsimp only at success ⊢
    cases put : (tlvPut writer item.1 item.2).2 with
    | false =>
      rw [put, if_neg Bool.false_ne_true, put] at success
      contradiction
    | true =>
      rw [put, if_pos rfl] at success
      obtain ⟨memory, capacity, length, short⟩ := tlvPut_written put
      obtain ⟨memories, capacities, lengths, shorts⟩ := ih success
      change _ = overwrite writer.memory writer.length (tlv item) at memory
      change _ = writer.length + (tlv item).length at length
      have inside := (tlvPutAll (tlvPut writer item.1 item.2).1 items).1.inside
      have fits := (tlvPutAll (tlvPut writer item.1 item.2).1 items).1.fits
      rw [if_pos rfl]
      rw [List.flatMap_cons]
      refine ⟨?_, capacities.trans capacity, ?_, List.forall_mem_cons.mpr ⟨short, shorts⟩⟩
      · rw [memories, memory, length]
        refine overwrite_overwrite ?_
        have room := writer.inside
        omega
      · rw [lengths, length, List.length_append]
        omega

theorem tlvPutAll_bytes (success : (tlvPutAll writer items).2 = true) :
    (tlvPutAll writer items).1.written writer.length = items.flatMap tlv := by
  obtain ⟨memory, capacity, length, -⟩ := tlvPutAll_written success
  have fits := (tlvPutAll writer items).1.fits
  have inside := writer.inside
  unfold TlvWriter.written
  rw [memory, length, overwrite_take (by omega)]
  refine List.drop_left' ?_
  rw [List.length_take]
  omega

theorem tlv_length (item : Item) : (tlv item).length = 3 + item.2.length := by
  unfold tlv
  rw [List.cons_append, List.length_cons, List.length_append, littleEndian_length]
  omega

theorem tlvPutAll_fits (short : Short items) (room : writer.length + (items.flatMap tlv).length ≤ writer.capacity) :
    (tlvPutAll writer items).2 = true := by
  induction items generalizing writer with
  | nil => rfl
  | cons item items ih =>
    obtain ⟨here, later⟩ := List.forall_mem_cons.mp short
    rw [List.flatMap_cons, List.length_append, tlv_length] at room
    have takes : ¬ writer.Refuses item.2 := by
      have small : (writer.length + 3 + item.2.length) % 2 ^ 32 ≤ writer.length + 3 + item.2.length := Nat.mod_le _ _
      unfold TlvWriter.Refuses
      omega
    have put : (tlvPut writer item.1 item.2).2 = true := by
      unfold tlvPut
      rw [dif_neg takes]
    obtain ⟨-, capacity, length, -⟩ := tlvPut_written put
    unfold tlvPutAll
    dsimp only
    rw [if_pos put]
    refine ih later ?_
    change _ = writer.length + (tlv item).length at length
    rw [length, capacity, tlv_length]
    omega

theorem encodeTlv_short (short : Short items) : encodeTlv items = .ok (items.flatMap tlv) := by
  induction items with
  | nil => rfl
  | cons item items ih =>
    obtain ⟨here, later⟩ := List.forall_mem_cons.mp short
    rw [encodeTlv, if_neg (Nat.not_lt.mpr here), ih later, List.flatMap_cons]
    rfl

/-- What `decode_tlv` adds to its fields for each item. -/
def addItem (fields : Fields) (item : Item) : Fields :=
  fun other => if other = item.1 then some item.2 else fields other

theorem foldl_addItem (items : List Item) (fields : Fields) (tag : UInt8) :
    items.foldl addItem fields tag = ((items.reverse.find? fun item => item.1 = tag).map Prod.snd).or (fields tag) := by
  induction items generalizing fields with
  | nil => rfl
  | cons item items ih =>
    rw [List.foldl_cons, ih, List.reverse_cons, List.find?_append]
    cases found : items.reverse.find? fun item => item.1 = tag with
    | some last => rfl
    | none =>
      unfold addItem
      by_cases same : tag = item.1
      · simp [same]
      · have other : ¬ item.1 = tag := fun here => same here.symm
        simp [same, other]

theorem decodeTlvFrom_tlv (fields : Fields) {item : Item} (short : item.2.length ≤ 0xffff) (rest : List UInt8) :
    decodeTlvFrom fields (tlv item ++ rest) = decodeTlvFrom (addItem fields item) rest := by
  have shape : tlv item ++ rest =
      item.1 :: UInt8.ofNat item.2.length :: UInt8.ofNat (item.2.length / 256) :: (item.2 ++ rest) := by
    unfold tlv
    simp [littleEndian]
  have length : ofLittleEndian [UInt8.ofNat item.2.length, UInt8.ofNat (item.2.length / 256)] = item.2.length :=
    ofLittleEndian_littleEndian 2 item.2.length (Nat.lt_succ_of_le short)
  rw [shape, decodeTlvFrom]
  rw [length, if_neg (by rw [List.length_append]; omega), List.take_left, List.drop_left]
  rfl

theorem decodeTlvFrom_items (fields : Fields) (short : Short items) :
    decodeTlvFrom fields (items.flatMap tlv) = .ok (items.foldl addItem fields) := by
  induction items generalizing fields with
  | nil =>
    rw [List.flatMap_nil, decodeTlvFrom]
    rfl
  | cons item items ih =>
    obtain ⟨here, later⟩ := List.forall_mem_cons.mp short
    rw [List.flatMap_cons, decodeTlvFrom_tlv fields here, ih _ later]
    rfl

theorem decodeTlv_items (short : Short items) :
    decodeTlv (items.flatMap tlv) = .ok (lastValues items) := by
  unfold decodeTlv
  rw [decodeTlvFrom_items _ short]
  congr 1
  funext tag
  rw [foldl_addItem, Option.or_none]
  rfl

theorem decodeTlvFrom_whole (fields : Fields) (payload : List UInt8) {result : Fields}
    (decoded : decodeTlvFrom fields payload = .ok result) : ∃ items, Short items ∧ payload = items.flatMap tlv := by
  fun_induction decodeTlvFrom fields payload with
  | case1 => exact ⟨[], fun item member => absurd member List.not_mem_nil, rfl⟩
  | case2 => contradiction
  | case3 fields tag low high rest length fits ih =>
    obtain ⟨items, short, later⟩ := ih decoded
    have taken : (rest.take length).length = length := List.length_take_of_le (Nat.le_of_not_lt fits)
    have bound : length < 256 ^ 2 := ofLittleEndian_lt [low, high]
    have prefixed : littleEndian 2 length = [low, high] := littleEndian_ofLittleEndian [low, high]
    refine ⟨(tag, rest.take length) :: items, List.forall_mem_cons.mpr ⟨?_, short⟩, ?_⟩
    · dsimp only
      omega
    · rw [List.flatMap_cons, ← later]
      unfold tlv
      dsimp only
      rw [taken, prefixed]
      change _ = tag :: low :: high :: (rest.take length ++ rest.drop length)
      rw [List.take_append_drop]
  | case4 => contradiction

/-- `decode_tlv` refuses exactly what is not a concatenation of whole items. -/
theorem decodeTlv_error_iff (payload : List UInt8) :
    (∃ error, decodeTlv payload = .error error) ↔ ¬ ∃ items, Short items ∧ payload = items.flatMap tlv := by
  constructor
  · rintro ⟨error, refused⟩ ⟨items, short, rfl⟩
    rw [decodeTlv_items short] at refused
    contradiction
  · intro broken
    cases decoded : decodeTlv payload with
    | error error => exact ⟨error, rfl⟩
    | ok result => exact absurd (decodeTlvFrom_whole _ payload decoded) broken

/-- What either side writes is read back as the map that gives each tag its last value, `decode_tlv` refuses exactly
what no list of items encodes to, and a failed `tlv_put` changes nothing. -/
theorem tlv_agreement :
    (∀ items, Short items → ∃ bytes, encodeTlv items = .ok bytes ∧ decodeTlv bytes = .ok (lastValues items)) ∧
    (∀ writer items, (tlvPutAll writer items).2 = true →
      decodeTlv ((tlvPutAll writer items).1.written writer.length) = .ok (lastValues items)) ∧
    (∀ payload, (∃ error, decodeTlv payload = .error error) ↔ ¬ ∃ items, Short items ∧ payload = items.flatMap tlv) ∧
    ∀ writer tag value,
      ((tlvPut writer tag value).2 = false → (tlvPut writer tag value).1 = writer) ∧
      (tlvPut writer tag value).1.memory.drop writer.capacity = writer.memory.drop writer.capacity ∧
      (tlvPut writer tag value).1.length ≤ writer.capacity := by
  refine ⟨?_, ?_, decodeTlv_error_iff, ?_⟩
  · intro items short
    exact ⟨_, encodeTlv_short short, decodeTlv_items short⟩
  · intro writer items success
    rw [tlvPutAll_bytes success]
    exact decodeTlv_items (tlvPutAll_written success).2.2.2
  · intro writer tag value
    exact ⟨tlvPut_failed, tlvPut_bounded writer tag value⟩

/-- Of a tag that comes twice the second value counts. -/
theorem tlv_agreement_repeated : ∃ bytes, encodeTlv [(1, [5]), (1, [6])] = .ok bytes ∧
    decodeTlv bytes = .ok (lastValues [(1, [5]), (1, [6])]) ∧ lastValues [(1, [5]), (1, [6])] 1 = some [6] := by
  obtain ⟨bytes, encoded, decoded⟩ := tlv_agreement.1 [(1, [5]), (1, [6])] (by unfold Short; decide)
  exact ⟨bytes, encoded, decoded, by decide⟩

end EspIris.Link.Tlv
