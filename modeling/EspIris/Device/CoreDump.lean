import EspIris.Device.Session
import EspIris.Lib.Slices

/-! The core dump of the last crash, as the device finds it in its flash and reads it out: `iris_crash_probe`,
`crash_refresh`, `iris_crash_read` and the READ branch of `handle_crash`. -/

namespace EspIris.Device.CoreDump
open Bytes Slices Codec.Device

/-- `esp_partition_t` of the core dumps, with what `esp_partition_read` finds in it. -/
structure Partition where
  address : Nat
  content : List UInt8
  espPartitionRead : Nat → Nat → Except EspErr (List UInt8)
  reads : ∀ start length, start + length ≤ content.length →
    espPartitionRead start length = .ok ((content.drop start).take length)

/-- What the core dump component answers: where the image is, whether it is intact, the characters of the digest in
its summary, and the reason of the panic, for which there are 128 bytes. -/
structure ImageAnswers where
  image : Option (Nat × Nat)
  intact : Bool
  summary : Option (List UInt8)
  panicReason : List UInt8
  panicReason_le : panicReason.length ≤ 128

/-- The fields of `iris_runtime_t` about the core dump. -/
structure CrashEvidence where
  partition : Option Partition
  address : Nat
  size : Nat
  present : Bool
  valid : Bool
  checked : Bool
  elfSha256 : List UInt8
  panicReason : List UInt8
  elfSha256_le : elfSha256.length ≤ 64
  panicReason_le : panicReason.length ≤ 128

def nothingFound : CrashEvidence :=
  ⟨none, 0, 0, false, false, false, [], [], Nat.zero_le _, Nat.zero_le _⟩

/-- `iris_crash_probe`, but for the reset reason. -/
def irisCrashProbe (partition : Option Partition) (answers : ImageAnswers) : CrashEvidence :=
  match partition, answers.image with
  | some partition, some (address, size) =>
    if address ≥ partition.address ∧ address - partition.address ≤ partition.content.length ∧
        size ≤ partition.content.length - (address - partition.address) then
      { nothingFound with partition := some partition, address, size, present := true }
    else nothingFound
  | _, _ => nothingFound

def crashRefresh (answers : ImageAnswers) (evidence : CrashEvidence) : CrashEvidence :=
  if evidence.checked = true ∨ evidence.present = false then evidence
  else if answers.intact = false then { evidence with checked := true }
  else
    let checked := { evidence with
      checked := true
      valid := true
      panicReason := answers.panicReason
      panicReason_le := answers.panicReason_le }
    match answers.summary with
    | some digest =>
      { checked with elfSha256 := digest.take 64, elfSha256_le := List.length_take_le 64 digest }
    | none => checked

/-- What a call of `iris_crash_read` took, and from where in the partition. -/
structure CrashRead where
  start : Nat
  bytes : List UInt8
  deriving DecidableEq, Repr

def irisCrashRead (chunkBytes : Nat) (answers : ImageAnswers) (evidence : CrashEvidence) (offset maximum : Nat) :
    CrashEvidence × Except EspErr CrashRead :=
  if maximum = 0 ∨ maximum > chunkBytes then (evidence, .error EspErr.invalidArg)
  else
    let evidence := crashRefresh answers evidence
    match evidence.partition with
    | none => (evidence, .error EspErr.notFound)
    | some partition =>
      if evidence.valid = false then (evidence, .error EspErr.notFound)
      else if offset > evidence.size then (evidence, .error EspErr.invalidSize)
      else
        let remaining := evidence.size - offset
        let length := if remaining < maximum then remaining else maximum
        let start := evidence.address - partition.address + offset
        if length = 0 then (evidence, .ok ⟨start, []⟩)
        else (evidence, (partition.espPartitionRead start length).map (CrashRead.mk start))

/-- The payload of a READ's answer, which is built in the receive buffer around what was read, and whether it is the
last; the sum is one of 32 bits. -/
def readAnswer (rxWire : List UInt8) (size : Nat) (offset : UInt32) (bytes : List UInt8) : List UInt8 × Bool :=
  let total := if size ≤ 0xffffffff then size else 0xffffffff
  let filled := overwrite rxWire 8 bytes
  let placed := overwrite filled 0 (irisPutLe32 offset)
  let sized := overwrite placed 4 (irisPutLe32 (UInt32.ofNat total))
  (sized.take (bytes.length + 8), decide ((offset.toNat + bytes.length) % 2 ^ 32 ≥ size))

section evidence
variable {partition : Partition} {answers : ImageAnswers} {evidence : CrashEvidence} {address size : Nat}

structure Intact (partition : Partition) (answers : ImageAnswers) (address size : Nat) : Prop where
  image : answers.image = some (address, size)
  intact : answers.intact = true
  above : partition.address ≤ address
  inside : address - partition.address + size ≤ partition.content.length

def coreDump (partition : Partition) (address size : Nat) : List UInt8 :=
  (partition.content.drop (address - partition.address)).take size

structure Knows (partition : Partition) (address size : Nat) (evidence : CrashEvidence) : Prop where
  partition : evidence.partition = some partition
  address : evidence.address = address
  size : evidence.size = size
  present : evidence.present = true
  valid : evidence.valid = evidence.checked

theorem Intact.length (intact : Intact partition answers address size) :
    (coreDump partition address size).length = size := by
  have inside := intact.inside
  unfold coreDump
  rw [List.length_take, List.length_drop]
  omega

theorem Intact.probed (intact : Intact partition answers address size) :
    Knows partition address size (irisCrashProbe (some partition) answers) := by
  have above := intact.above
  have inside := intact.inside
  have found : address ≥ partition.address ∧ address - partition.address ≤ partition.content.length ∧
      size ≤ partition.content.length - (address - partition.address) := by omega
  unfold irisCrashProbe
  rw [intact.image]
  dsimp only
  rw [if_pos found]
  exact ⟨rfl, rfl, rfl, rfl, rfl⟩

/-- After a refresh the core dump counts as valid, and nothing else about it has changed. -/
theorem Intact.refreshed (intact : Intact partition answers address size)
    (knows : Knows partition address size evidence) :
    Knows partition address size (crashRefresh answers evidence) ∧ (crashRefresh answers evidence).valid = true := by
  unfold crashRefresh
  by_cases checked : evidence.checked = true
  · rw [if_pos (.inl checked)]
    exact ⟨knows, knows.valid.trans checked⟩
  · have fresh : ¬ (evidence.checked = true ∨ evidence.present = false) := by
      rw [knows.present]
      rintro (was | missing)
      · exact checked was
      · contradiction
    rw [if_neg fresh, if_neg (by rw [intact.intact]; exact Bool.noConfusion)]
    cases answers.summary with
    | none | some digest => exact ⟨⟨knows.partition, knows.address, knows.size, knows.present, rfl⟩, rfl⟩

end evidence

section read
variable {chunkBytes : Nat} {partition : Partition} {answers : ImageAnswers} {evidence : CrashEvidence}
variable {address size offset maximum : Nat}

/-- What a READ takes is the part of the core dump that starts at the offset, cut at the end of the dump. -/
theorem irisCrashRead_takes (intact : Intact partition answers address size)
    (knows : Knows partition address size evidence) (positive : 0 < maximum) (bounded : maximum ≤ chunkBytes)
    (below : offset ≤ size) :
    irisCrashRead chunkBytes answers evidence offset maximum =
      (crashRefresh answers evidence,
        .ok ⟨address - partition.address + offset, ((coreDump partition address size).drop offset).take maximum⟩) := by
  obtain ⟨known, valid⟩ := intact.refreshed knows
  have inside := intact.inside
  have taken (length : Nat) (short : length ≤ size - offset) :
      (partition.content.drop (address - partition.address + offset)).take length =
        ((coreDump partition address size).drop offset).take length := by
    unfold coreDump
    rw [List.drop_take, List.take_take, List.drop_drop, min_eq_left short]
  have cut : ((coreDump partition address size).drop offset).take maximum =
      ((coreDump partition address size).drop offset).take (min (size - offset) maximum) := by
    rw [List.take_eq_take_iff, List.length_drop, intact.length]
    omega
  unfold irisCrashRead
  rw [if_neg (by omega)]
  dsimp only
  rw [known.partition]
  dsimp only
  rw [if_neg (by rw [valid]; exact Bool.noConfusion), known.size, known.address, if_neg (Nat.not_lt.mpr below)]
  have least : (if size - offset < maximum then size - offset else maximum) = min (size - offset) maximum := by
    split <;> omega
  rw [least, cut]
  split
  next nothing => rw [nothing, List.take_zero]
  next something =>
    rw [partition.reads _ _ (by omega), taken _ (min_le_left _ _)]
    rfl

theorem irisCrashRead_inside (intact : Intact partition answers address size)
    (knows : Knows partition address size evidence) {after : CrashEvidence} {read : CrashRead}
    (success : irisCrashRead chunkBytes answers evidence offset maximum = (after, .ok read)) :
    read.bytes.length ≤ chunkBytes ∧ address - partition.address ≤ read.start ∧
      read.start + read.bytes.length ≤ address - partition.address + size := by
  by_cases bad : maximum = 0 ∨ maximum > chunkBytes
  · rw [irisCrashRead, if_pos bad] at success
    cases (Prod.mk.inj success).2
  by_cases below : offset ≤ size
  · obtain ⟨positive, bounded⟩ := not_or.mp bad
    rw [irisCrashRead_takes intact knows (Nat.pos_of_ne_zero positive) (Nat.le_of_not_lt bounded) below] at success
    cases success
    have dump := intact.length
    refine ⟨?_, Nat.le_add_right _ _, ?_⟩
    · dsimp only
      rw [List.length_take]
      omega
    · dsimp only
      rw [List.length_take, List.length_drop, dump]
      omega
  · obtain ⟨known, valid⟩ := intact.refreshed knows
    unfold irisCrashRead at success
    rw [if_neg bad] at success
    dsimp only at success
    rw [known.partition] at success
    dsimp only at success
    rw [if_neg (by rw [valid]; exact Bool.noConfusion), known.size, if_pos (Nat.lt_of_not_le below)] at success
    cases (Prod.mk.inj success).2

end read

/-- The answer to a READ carries the offset, the size and what was read. -/
theorem readAnswer_payload {rxWire bytes : List UInt8} {size : Nat} (offset : UInt32)
    (room : bytes.length + 8 ≤ rxWire.length) (small : size < 2 ^ 32) :
    (readAnswer rxWire size offset bytes).1 = littleEndian 4 offset.toNat ++ littleEndian 4 size ++ bytes := by
  have four (value : UInt32) : (irisPutLe32 value).length = 4 := by
    rw [irisPutLe32_eq, littleEndian_length]
  have filled : (overwrite rxWire 8 bytes).length = rxWire.length := overwrite_length (by omega)
  have both : overwrite (overwrite (overwrite rxWire 8 bytes) 0 (irisPutLe32 offset)) 4
      (irisPutLe32 (UInt32.ofNat size)) =
      overwrite (overwrite rxWire 8 bytes) 0 (irisPutLe32 offset ++ irisPutLe32 (UInt32.ofNat size)) := by
    have apart : 4 = 0 + (irisPutLe32 offset).length := by rw [four]
    rw [apart]
    exact overwrite_overwrite (by rw [four, four, filled]; omega)
  have header : (irisPutLe32 offset ++ irisPutLe32 (UInt32.ofNat size)).length = 8 := by
    rw [List.length_append, four, four]
  have behind : ((overwrite rxWire 8 bytes).drop 8).take bytes.length = bytes := by
    have written : (overwrite rxWire 8 bytes).take (8 + bytes.length) = rxWire.take 8 ++ bytes :=
      overwrite_take (by omega)
    have start : (rxWire.take 8).length = 8 := List.length_take_of_le (by omega)
    calc ((overwrite rxWire 8 bytes).drop 8).take bytes.length
        = ((overwrite rxWire 8 bytes).take (8 + bytes.length)).drop 8 := by
          rw [List.drop_take, Nat.add_sub_cancel_left]
      _ = bytes := by rw [written, List.drop_left' start]
  unfold readAnswer
  dsimp only
  rw [if_pos (by omega), both]
  change ([] ++ (irisPutLe32 offset ++ irisPutLe32 (UInt32.ofNat size)) ++ (overwrite rxWire 8 bytes).drop (0 + _)).take
    _ = _
  rw [List.nil_append, header, Nat.zero_add, Nat.add_comm bytes.length 8, ← header, List.take_length_add_append, header,
    behind, irisPutLe32_eq, irisPutLe32_eq, UInt32.toNat_ofNat_of_lt' small]

end EspIris.Device.CoreDump
