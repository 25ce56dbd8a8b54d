import EspIris.Device.LogRing

/-! The log ring refines a bounded queue of records: what the ring holds parses as whole records, for
the live region and for the history alike, and every write and pop is one of the queue. -/

namespace EspIris.Device.Log
open Codec.Device Bytes

def LogRecord.encode (record : LogRecord) : List UInt8 := recordHeader record ++ record.data

def LogRecord.size (record : LogRecord) : Nat := recordHeaderSize + record.data.length

def encodeAll (records : List LogRecord) : List UInt8 := records.flatMap LogRecord.encode

def payloadBytes (records : List LogRecord) : Nat := Fifo.total (fun record => record.data.length) records

structure LogFifo where
  queue : List LogRecord
  history : List LogRecord
  dropped : Nat

def LogFifo.push (capacity : Nat) (fifo : LogFifo) (record : LogRecord) : LogFifo :=
  let queue := Fifo.makeRoom LogRecord.size capacity record.size fifo.queue
  { queue := queue ++ [record]
    history := Fifo.makeRoom LogRecord.size capacity record.size fifo.history ++ [record]
    dropped := fifo.dropped + (payloadBytes fifo.queue - payloadBytes queue) }

def LogFifo.pop (fifo : LogFifo) (payloadBudget : Nat) : LogFifo × Option LogTaken :=
  match fifo.queue with
  | [] => (fifo, none)
  | record :: queue =>
    if 16 + record.data.length ≤ payloadBudget then
      ({ fifo with queue }, some { record, droppedTotal := UInt32.ofNat fifo.dropped })
    else (fifo, none)

/-- The ring holds the bytes from `start` up to its write offset. -/
structure LogRing.Holds (ring : LogRing) (start : Nat) (bytes : List UInt8) : Prop where
  inside : start < ring.ringCapacity
  fits : bytes.length ≤ ring.ringCapacity
  region : Ring.region ring.data start bytes.length = bytes
  ends : (start + bytes.length) % ring.ringCapacity = ring.writeOffset

structure Represents (config : LogConfig) (ring : LogRing) (fifo : LogFifo) : Prop where
  capacity : ring.ringCapacity = config.ringBytes
  live : ring.Holds ring.logTail (encodeAll fifo.queue)
  used : ring.logUsed = Fifo.total LogRecord.size fifo.queue
  retained : ring.Holds ring.oldestOffset (encodeAll fifo.history)
  retainedBytes : ring.retainedBytes = Fifo.total LogRecord.size fifo.history
  suffix : fifo.queue <:+ fifo.history
  dropped : ring.logDroppedBytes = UInt32.ofNat fifo.dropped
  small : ∀ record ∈ fifo.history, record.data.length ≤ recordDataMax

@[simp] theorem recordHeader_length (record : LogRecord) : (recordHeader record).length = recordHeaderSize := by
  simp [recordHeader, irisPutLe64, irisPutLe32, irisPutLe16, recordHeaderSize]

@[simp] theorem encode_length (record : LogRecord) : record.encode.length = record.size := by
  simp [LogRecord.encode, LogRecord.size]

theorem size_pos (record : LogRecord) : 0 < record.size := by
  unfold LogRecord.size recordHeaderSize
  omega

@[simp] theorem encodeAll_cons (record : LogRecord) (records : List LogRecord) :
    encodeAll (record :: records) = record.encode ++ encodeAll records := rfl

@[simp] theorem encodeAll_append (left right : List LogRecord) :
    encodeAll (left ++ right) = encodeAll left ++ encodeAll right := List.flatMap_append

@[simp] theorem encodeAll_length (records : List LogRecord) :
    (encodeAll records).length = Fifo.total LogRecord.size records := by
  induction records with
  | nil => rfl
  | cons record records ih => rw [encodeAll_cons, List.length_append, ih, encode_length, Fifo.total_cons]

theorem dataLength_header {record : LogRecord} (small : record.data.length ≤ recordDataMax) :
    dataLength (recordHeader record) = record.data.length := by
  have below : record.data.length < 2 ^ 16 := by
    unfold recordDataMax at small
    omega
  have value : (UInt16.ofNat record.data.length).toNat = record.data.length := UInt16.toNat_ofNat_of_lt' below
  unfold dataLength recordHeader
  rw [irisGetLe16_toNat, field_skip _ _ 10 2 (by simp [irisPutLe64, irisPutLe32]), irisPutLe16_eq, value]
  have start : 10 - (irisPutLe64 record.monotonicUs ++ [record.source, record.flags]).length = 0 := by
    simp [irisPutLe64, irisPutLe32]
  rw [start]
  simpa using field_littleEndian 2 record.data.length [] below

theorem monotonicUs_header (record : LogRecord) : irisGetLe64 (recordHeader record) 0 = record.monotonicUs := by
  apply UInt64.toNat_inj.mp
  unfold recordHeader
  rw [irisGetLe64_toNat, List.append_assoc, irisPutLe64_eq]
  exact field_littleEndian 8 _ _ record.monotonicUs.toNat_lt

theorem source_header (record : LogRecord) : byteAt (recordHeader record) 8 = record.source := rfl

theorem flags_header (record : LogRecord) : byteAt (recordHeader record) 9 = record.flags := rfl

section ring
variable {ring : LogRing} {start : Nat} {front rest block : List UInt8}

/-- What stands first of what is held is what a copy from there yields. -/
theorem LogRing.Holds.peek (holds : ring.Holds start (front ++ rest)) : ring.ringCopyOut start front.length = front := by
  have fits := holds.fits
  rw [List.length_append] at fits
  have part : front.length ≤ ring.ringCapacity := by omega
  unfold LogRing.ringCopyOut
  rw [Ring.copyOut_eq holds.inside.le part, ← Ring.region_take (List.length_append ▸ Nat.le_add_right _ rest.length),
    holds.region, List.take_left]

theorem LogRing.Holds.advance (holds : ring.Holds start (front ++ rest)) :
    ring.Holds ((start + front.length) % ring.ringCapacity) rest := by
  have fits := holds.fits
  have ends := holds.ends
  have size : (front ++ rest).length - front.length = rest.length := by rw [List.length_append, Nat.add_sub_cancel_left]
  have part : front.length ≤ (front ++ rest).length := by rw [List.length_append]; exact Nat.le_add_right _ _
  constructor
  case inside => exact Nat.mod_lt _ (by have := holds.inside; omega)
  case fits => omega
  case region =>
    have moved : Ring.region ring.data (start + front.length) ((front ++ rest).length - front.length) = _ :=
      Ring.region_advance fits part
    rw [holds.region, size, List.drop_left] at moved
    exact (Ring.region_mod _ _ _).trans moved
  case ends =>
    rw [Nat.mod_add_mod, Nat.add_assoc, ← List.length_append]
    exact ends

theorem LogRing.Holds.of_same {after : LogRing} (holds : ring.Holds start rest) (data : after.data = ring.data)
    (write : after.writeOffset = ring.writeOffset) : after.Holds start rest := by
  have capacity : after.ringCapacity = ring.ringCapacity := congrArg List.length data
  constructor
  case inside => exact capacity ▸ holds.inside
  case fits => exact capacity ▸ holds.fits
  case region => exact data ▸ holds.region
  case ends => rw [capacity, write, holds.ends]

theorem LogRing.Holds.write_lt (holds : ring.Holds start rest) : ring.writeOffset < ring.ringCapacity :=
  holds.ends ▸ Nat.mod_lt _ (by have := holds.inside; omega)

theorem ringCopyIn_capacity (block : List UInt8) (inside : ring.writeOffset < ring.ringCapacity)
    (fits : block.length ≤ ring.ringCapacity) : (ring.ringCopyIn block).ringCapacity = ring.ringCapacity :=
  Ring.copyIn_length inside.le fits

theorem ringCopyIn_write_lt (block : List UInt8) (inside : ring.writeOffset < ring.ringCapacity)
    (fits : block.length ≤ ring.ringCapacity) :
    (ring.ringCopyIn block).writeOffset < (ring.ringCopyIn block).ringCapacity := by
  rw [ringCopyIn_capacity block inside fits]
  exact Nat.mod_lt _ (by omega)

/-- A block that is copied in is appended to what is held, from any start. -/
theorem LogRing.Holds.copyIn (holds : ring.Holds start rest) (room : rest.length + block.length ≤ ring.ringCapacity) :
    (ring.ringCopyIn block).Holds start (rest ++ block) := by
  have write := holds.write_lt
  have capacity : (ring.ringCopyIn block).ringCapacity = ring.ringCapacity := ringCopyIn_capacity block write (by omega)
  constructor
  case inside => exact capacity ▸ holds.inside
  case fits => rw [capacity, List.length_append]; exact room
  case region =>
    rw [List.length_append]
    have written : Ring.region (ring.ringCopyIn block).data start _ = _ := Ring.region_copyIn write holds.ends room
    rwa [holds.region] at written
  case ends =>
    rw [capacity, List.length_append, ← Nat.add_assoc]
    show _ = (ring.writeOffset + block.length) % ring.ringCapacity
    rw [← holds.ends, Nat.mod_add_mod]

end ring

section evict
variable {config : LogConfig} {ring : LogRing} {fifo : LogFifo} {record : LogRecord} {records : List LogRecord}

theorem LogRing.Holds.header {start : Nat} (holds : ring.Holds start (encodeAll (record :: records))) :
    ring.ringCopyOut start recordHeaderSize = recordHeader record := by
  rw [encodeAll_cons, LogRecord.encode, List.append_assoc] at holds
  have peeked := holds.peek
  rwa [recordHeader_length] at peeked

theorem LogRing.Holds.next {start : Nat} (holds : ring.Holds start (encodeAll (record :: records))) :
    ring.Holds ((start + record.size) % ring.ringCapacity) (encodeAll records) := by
  rw [encodeAll_cons] at holds
  have moved := holds.advance
  rwa [encode_length] at moved

theorem Represents.small_live (represents : Represents config ring fifo) (inside : record ∈ fifo.queue) :
    record.data.length ≤ recordDataMax := represents.small record (represents.suffix.subset inside)

theorem dropOldest_represents {queue : List LogRecord} (represents : Represents config ring fifo)
    (first : fifo.queue = record :: queue) :
    Represents config ring.dropOldest { fifo with queue, dropped := fifo.dropped + record.data.length } := by
  have live := represents.live
  have used := represents.used
  rw [first] at live used
  have small : record.data.length ≤ recordDataMax := represents.small_live (first ▸ List.mem_cons_self)
  have length : dataLength (ring.ringPeek recordHeaderSize) = record.data.length := by
    rw [LogRing.ringPeek, live.header, dataLength_header small]
  rw [Fifo.total_cons] at used
  have size : recordHeaderSize + record.data.length = record.size := rfl
  have dropped : ring.dropOldest =
      { ring with
        logTail := (ring.logTail + record.size) % ring.ringCapacity
        logUsed := ring.logUsed - record.size
        logDroppedBytes := ring.logDroppedBytes + UInt32.ofNat record.data.length } := by
    unfold LogRing.dropOldest
    dsimp only
    rw [length, size, if_neg (by omega)]
  rw [dropped]
  constructor
  case capacity => exact represents.capacity
  case live => exact live.next.of_same rfl rfl
  case used => exact Nat.sub_eq_of_eq_add' used
  case retained => exact represents.retained.of_same rfl rfl
  case retainedBytes => exact represents.retainedBytes
  case suffix =>
    have whole := represents.suffix
    rw [first] at whole
    exact (List.suffix_cons record queue).trans whole
  case dropped =>
    show ring.logDroppedBytes + _ = _
    rw [represents.dropped, ← UInt32.ofNat_add]
  case small => exact represents.small

theorem dropOldestHistory_represents {history : List LogRecord} (represents : Represents config ring fifo)
    (first : fifo.history = record :: history) (unsent : fifo.queue <:+ history) :
    Represents config ring.dropOldestHistory { fifo with history } := by
  have retained := represents.retained
  have bytes := represents.retainedBytes
  rw [first] at retained bytes
  have small : record.data.length ≤ recordDataMax := represents.small record (first ▸ List.mem_cons_self)
  have length : dataLength (ring.ringCopyOut ring.oldestOffset recordHeaderSize) = record.data.length := by
    rw [retained.header, dataLength_header small]
  rw [Fifo.total_cons] at bytes
  have size : recordHeaderSize + record.data.length = record.size := rfl
  have dropped : ring.dropOldestHistory =
      { ring with
        oldestOffset := (ring.oldestOffset + record.size) % ring.ringCapacity
        retainedBytes := ring.retainedBytes - record.size } := by
    unfold LogRing.dropOldestHistory
    dsimp only
    rw [length, size, if_neg (by omega)]
  rw [dropped]
  constructor
  case capacity => exact represents.capacity
  case live => exact represents.live.of_same rfl rfl
  case used => exact represents.used
  case retained => exact retained.next.of_same rfl rfl
  case retainedBytes => exact Nat.sub_eq_of_eq_add' bytes
  case suffix => exact unsent
  case dropped => exact represents.dropped
  case small => exact fun other inside => represents.small other (first ▸ List.mem_cons_of_mem record inside)

theorem makeRoom_represents (needed : Nat) (represents : Represents config ring fifo) :
    Represents config (ring.makeRoom needed)
      { fifo with
        queue := Fifo.makeRoom LogRecord.size config.ringBytes needed fifo.queue
        dropped := fifo.dropped + (payloadBytes fifo.queue -
          payloadBytes (Fifo.makeRoom LogRecord.size config.ringBytes needed fifo.queue)) } := by
  obtain ⟨queue, history, dropped⟩ := fifo
  induction queue generalizing ring dropped with
  | nil =>
    have idle : ring.logUsed = 0 := represents.used
    rw [LogRing.makeRoom, if_neg (by omega)]
    exact represents
  | cons record queue ih =>
    have used := represents.used
    have capacity := represents.capacity
    rw [LogRing.makeRoom]
    dsimp only [Fifo.makeRoom]
    by_cases full : config.ringBytes - Fifo.total LogRecord.size (record :: queue) < needed
    · have some_used : 0 < ring.logUsed := by
        rw [used, Fifo.total_cons]
        exact Nat.add_pos_left (size_pos record) _
      rw [if_pos ⟨by rw [used, capacity]; exact full, some_used⟩, if_pos full]
      have rest := ih _ (dropOldest_represents represents rfl)
      have shrinks : payloadBytes (Fifo.makeRoom LogRecord.size config.ringBytes needed queue) ≤ payloadBytes queue :=
        Fifo.total_le_of_suffix _ (Fifo.makeRoom_suffix _ _ _ _)
      have count : dropped + record.data.length + (payloadBytes queue -
          payloadBytes (Fifo.makeRoom LogRecord.size config.ringBytes needed queue)) =
          dropped + (payloadBytes (record :: queue) -
            payloadBytes (Fifo.makeRoom LogRecord.size config.ringBytes needed queue)) := by
        have split : payloadBytes (record :: queue) = record.data.length + payloadBytes queue := Fifo.total_cons _ _ _
        omega
      dsimp only at rest
      rwa [count] at rest
    · rw [if_neg (by rw [used, capacity]; exact fun both => full both.1), if_neg full, Nat.sub_self]
      exact represents

/-- The loop over the history drops what is no longer waiting for the link. -/
theorem makeHistoryRoom_represents {needed : Nat} (represents : Represents config ring fifo)
    (room : needed ≤ config.ringBytes - Fifo.total LogRecord.size fifo.queue) :
    Represents config (ring.makeHistoryRoom needed)
      { fifo with history := Fifo.makeRoom LogRecord.size config.ringBytes needed fifo.history } := by
  obtain ⟨queue, history, dropped⟩ := fifo
  induction history generalizing ring with
  | nil =>
    have idle : ring.retainedBytes = 0 := represents.retainedBytes
    rw [LogRing.makeHistoryRoom, if_neg (by omega)]
    exact represents
  | cons record history ih =>
    have bytes := represents.retainedBytes
    have capacity := represents.capacity
    rw [LogRing.makeHistoryRoom]
    dsimp only [Fifo.makeRoom]
    by_cases full : config.ringBytes - Fifo.total LogRecord.size (record :: history) < needed
    · have some_bytes : 0 < ring.retainedBytes := by
        rw [bytes, Fifo.total_cons]
        exact Nat.add_pos_left (size_pos record) _
      rw [if_pos ⟨by rw [bytes, capacity]; exact full, some_bytes⟩, if_pos full]
      -- a history that is all unsent would have room
      have unsent : queue <:+ history := by
        rcases List.suffix_cons_iff.mp represents.suffix with rfl | inside
        · exact absurd room (Nat.not_le_of_lt full)
        · exact inside
      exact ih (dropOldestHistory_represents represents rfl unsent) room
    · rw [if_neg (by rw [bytes, capacity]; exact fun both => full both.1), if_neg full]
      exact represents

end evict

section store
variable {config : LogConfig} {ring : LogRing} {fifo : LogFifo} {record : LogRecord}

@[simp] theorem encodeAll_concat (records : List LogRecord) (record : LogRecord) :
    encodeAll (records ++ [record]) = encodeAll records ++ recordHeader record ++ record.data := by
  rw [encodeAll_append, List.append_assoc, encodeAll_cons]
  exact congrArg _ (List.append_nil _)

theorem LogRing.Holds.append {start : Nat} {records : List LogRecord} (record : LogRecord) (holds : ring.Holds start (encodeAll records))
    (room : Fifo.total LogRecord.size records + record.size ≤ ring.ringCapacity) :
    ((ring.ringCopyIn (recordHeader record)).ringCopyIn record.data).Holds start (encodeAll (records ++ [record])) := by
  have size : record.size = recordHeaderSize + record.data.length := rfl
  have header : (encodeAll records).length + (recordHeader record).length ≤ ring.ringCapacity := by
    rw [encodeAll_length, recordHeader_length]
    omega
  have capacity := ringCopyIn_capacity (recordHeader record) holds.write_lt (by omega)
  rw [encodeAll_concat]
  refine (holds.copyIn header).copyIn ?_
  rw [capacity, List.length_append, encodeAll_length, recordHeader_length]
  omega

theorem ringWriteRecord_capacity (inside : ring.writeOffset < ring.ringCapacity) (fits : record.size ≤ ring.ringCapacity) :
    ((ring.ringCopyIn (recordHeader record)).ringCopyIn record.data).ringCapacity = ring.ringCapacity := by
  have size : record.size = recordHeaderSize + record.data.length := rfl
  have header : (recordHeader record).length ≤ ring.ringCapacity := by
    rw [recordHeader_length]
    omega
  have first := ringCopyIn_capacity (recordHeader record) inside header
  exact (ringCopyIn_capacity record.data (ringCopyIn_write_lt _ inside header) (by omega)).trans first

theorem ringWriteRecord_represents (represents : Represents config ring fifo)
    (small : record.data.length ≤ recordDataMax)
    (room : record.size ≤ config.ringBytes - Fifo.total LogRecord.size fifo.queue) :
    Represents config (ring.ringWriteRecord (recordHeader record) record.data)
      { fifo with
        queue := fifo.queue ++ [record]
        history := Fifo.makeRoom LogRecord.size config.ringBytes record.size fifo.history ++ [record] } := by
  have fits : record.size ≤ config.ringBytes := by omega
  have historyRoom := Fifo.makeRoom_room LogRecord.size fits fifo.history
  have evicted := makeHistoryRoom_represents represents room
  have size : recordHeaderSize + record.data.length = record.size := rfl
  have some_size := size_pos record
  unfold LogRing.ringWriteRecord
  dsimp only
  rw [size]
  generalize ring.makeHistoryRoom record.size = before at evicted ⊢
  have capacity := evicted.capacity
  have inside := evicted.live.write_lt
  have live := evicted.live.append record (by rw [capacity]; dsimp only; omega)
  have retained := evicted.retained.append record (by rw [capacity]; dsimp only; omega)
  constructor
  case capacity =>
    exact (ringWriteRecord_capacity inside (by omega)).trans capacity
  case live => exact live.of_same rfl rfl
  case used =>
    rw [Fifo.total_append, Fifo.total_cons, Fifo.total_nil]
    exact congrArg (· + record.size) evicted.used
  case retained => exact retained.of_same rfl rfl
  case retainedBytes =>
    rw [Fifo.total_append, Fifo.total_cons, Fifo.total_nil]
    exact congrArg (· + record.size) evicted.retainedBytes
  case suffix =>
    obtain ⟨earlier, split⟩ := evicted.suffix
    exact ⟨earlier, by rw [← List.append_assoc, split]⟩
  case dropped => exact evicted.dropped
  case small =>
    intro other member
    rcases List.mem_append.mp member with old | new
    · exact evicted.small other old
    · exact List.mem_singleton.mp new ▸ small

theorem writeChunk_represents (represents : Represents config ring fifo) (small : record.data.length ≤ recordDataMax) :
    Represents config (ring.writeChunk record) (fifo.push config.ringBytes record) := by
  have made := makeRoom_represents record.size represents
  have fits : record.size ≤ config.ringBytes := by
    have range := config.range
    unfold LogRecord.size recordHeaderSize
    unfold recordDataMax at small
    omega
  have room := Fifo.makeRoom_room LogRecord.size fits fifo.queue
  have size : recordHeaderSize + record.data.length = record.size := rfl
  unfold LogRing.writeChunk
  dsimp only
  rw [size, if_pos (by rw [made.capacity, made.used]; exact room)]
  exact ringWriteRecord_represents made small room

theorem irisLogPop_represents (represents : Represents config ring fifo) (payloadBudget : Nat) :
    Represents config (ring.irisLogPop payloadBudget).1 (fifo.pop payloadBudget).1 ∧
      (ring.irisLogPop payloadBudget).2 = (fifo.pop payloadBudget).2 := by
  have used := represents.used
  obtain ⟨queue, history, dropped⟩ := fifo
  cases queue with
  | nil =>
    have idle : ring.logUsed = 0 := used
    rw [LogRing.irisLogPop, if_neg (by rw [idle]; decide)]
    exact ⟨represents, rfl⟩
  | cons record queue =>
    have small : record.data.length ≤ recordDataMax := represents.small_live List.mem_cons_self
    have live := represents.live
    have length : dataLength (ring.ringPeek recordHeaderSize) = record.data.length := by
      rw [LogRing.ringPeek, live.header, dataLength_header small]
    have size : recordHeaderSize + record.data.length = record.size := rfl
    dsimp only at used
    rw [Fifo.total_cons] at used
    unfold LogRing.irisLogPop LogFifo.pop
    dsimp only
    rw [if_pos (by omega), length]
    by_cases admitted : 16 + record.data.length ≤ payloadBudget
    · rw [if_pos ⟨small, by omega, admitted⟩, if_pos admitted]
      have whole := live
      rw [encodeAll_cons, LogRecord.encode, List.append_assoc] at whole
      have past : (ring.ringRead recordHeaderSize).1.Holds (ring.ringRead recordHeaderSize).1.logTail
          (record.data ++ encodeAll queue) := by
        have moved := whole.advance
        rw [recordHeader_length] at moved
        exact moved.of_same rfl rfl
      have header : (ring.ringRead recordHeaderSize).2 = recordHeader record := live.header
      have data : ((ring.ringRead recordHeaderSize).1.ringRead record.data.length).2 = record.data := past.peek
      refine ⟨?_, ?_⟩
      · constructor
        case capacity => exact represents.capacity
        case live => exact past.advance.of_same rfl rfl
        case used =>
          show ring.logUsed - recordHeaderSize - record.data.length = Fifo.total LogRecord.size queue
          omega
        case retained => exact represents.retained.of_same rfl rfl
        case retainedBytes => exact represents.retainedBytes
        case suffix => exact (List.suffix_cons record queue).trans represents.suffix
        case dropped => exact represents.dropped
        case small => exact represents.small
      · rw [header, data, monotonicUs_header, source_header, flags_header]
        show some (LogTaken.mk record ring.logDroppedBytes) = some (LogTaken.mk record (UInt32.ofNat dropped))
        rw [represents.dropped]
    · rw [if_neg (fun all => admitted all.2.2), if_neg admitted]
      exact ⟨represents, rfl⟩

end store

end EspIris.Device.Log
