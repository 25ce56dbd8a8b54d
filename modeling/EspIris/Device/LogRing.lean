import EspIris.Codec.Device
import EspIris.Lib.Fifo
import EspIris.Lib.Ring

/-! The log ring of `esp_iris_log.c`: the records that wait for the link and the history that is kept for
a crash share its bytes and its write offset. -/

namespace EspIris.Device.Log
open Codec.Device Bytes

structure LogConfig where
  /-- `CONFIG_ESP_IRIS_LOG_RING_BYTES`, with the range that Kconfig gives it. -/
  ringBytes : Nat
  range : 2048 ≤ ringBytes ∧ ringBytes ≤ 16384

/-- The default of Kconfig. -/
instance : Inhabited LogConfig := ⟨8192, by decide⟩

def recordHeaderSize : Nat := 12
def recordDataMax : Nat := 240

structure LogRecord where
  monotonicUs : UInt64
  source : UInt8
  flags : UInt8
  data : List UInt8
  deriving DecidableEq, Repr

/-- `iris_log_record_t`; its length is that of the data. -/
structure LogTaken where
  record : LogRecord
  droppedTotal : UInt32
  deriving DecidableEq, Repr

/-- `iris_log_storage_t`, with the place of the live records in it. -/
structure LogRing where
  data : List UInt8
  writeOffset : Nat
  oldestOffset : Nat
  retainedBytes : Nat
  totalBytes : UInt32
  logTail : Nat
  logUsed : Nat
  logDroppedBytes : UInt32

def LogRing.ringCapacity (ring : LogRing) : Nat := ring.data.length

def LogRing.ringCopyOut (ring : LogRing) (offset length : Nat) : List UInt8 := Ring.copyOut ring.data offset length

def LogRing.ringCopyIn (ring : LogRing) (data : List UInt8) : LogRing :=
  { ring with
    data := Ring.copyIn ring.data ring.writeOffset data
    writeOffset := (ring.writeOffset + data.length) % ring.ringCapacity }

def LogRing.ringRead (ring : LogRing) (length : Nat) : LogRing × List UInt8 :=
  ({ ring with logTail := (ring.logTail + length) % ring.ringCapacity, logUsed := ring.logUsed - length },
    ring.ringCopyOut ring.logTail length)

def LogRing.ringPeek (ring : LogRing) (length : Nat) : List UInt8 := ring.ringCopyOut ring.logTail length

def dataLength (header : List UInt8) : Nat := (irisGetLe16 header 10).toNat

def LogRing.dropOldest (ring : LogRing) : LogRing :=
  let recordSize := recordHeaderSize + dataLength (ring.ringPeek recordHeaderSize)
  if ring.logUsed < recordHeaderSize ∨ recordSize > ring.logUsed then
    { ring with logTail := ring.writeOffset, logUsed := 0 }
  else
    { ring with
      logTail := (ring.logTail + recordSize) % ring.ringCapacity
      logUsed := ring.logUsed - recordSize
      logDroppedBytes := ring.logDroppedBytes + UInt32.ofNat (dataLength (ring.ringPeek recordHeaderSize)) }

def LogRing.dropOldestHistory (ring : LogRing) : LogRing :=
  let length := dataLength (ring.ringCopyOut ring.oldestOffset recordHeaderSize)
  let recordSize := recordHeaderSize + length
  if ring.retainedBytes < recordHeaderSize ∨ length > recordDataMax ∨ recordSize > ring.retainedBytes then
    { ring with oldestOffset := ring.writeOffset, retainedBytes := 0 }
  else
    { ring with
      oldestOffset := (ring.oldestOffset + recordSize) % ring.ringCapacity
      retainedBytes := ring.retainedBytes - recordSize }

theorem LogRing.dropOldest_shrinks {ring : LogRing} (used : 0 < ring.logUsed) : ring.dropOldest.logUsed < ring.logUsed := by
  unfold LogRing.dropOldest
  dsimp only
  split
  next => exact used
  next whole =>
    show ring.logUsed - (recordHeaderSize + _) < ring.logUsed
    unfold recordHeaderSize
    omega

theorem LogRing.dropOldestHistory_shrinks {ring : LogRing} (used : 0 < ring.retainedBytes) :
    ring.dropOldestHistory.retainedBytes < ring.retainedBytes := by
  unfold LogRing.dropOldestHistory
  dsimp only
  split
  next => exact used
  next whole =>
    show ring.retainedBytes - (recordHeaderSize + _) < ring.retainedBytes
    unfold recordHeaderSize
    omega

/-- The loop of `log_write` that drops live records. -/
def LogRing.makeRoom (ring : LogRing) (needed : Nat) : LogRing :=
  if ring.ringCapacity - ring.logUsed < needed ∧ 0 < ring.logUsed then ring.dropOldest.makeRoom needed else ring
termination_by ring.logUsed
decreasing_by exact LogRing.dropOldest_shrinks (by omega)

/-- The loop of `ring_write_record` that drops records of the history. -/
def LogRing.makeHistoryRoom (ring : LogRing) (recordSize : Nat) : LogRing :=
  if ring.ringCapacity - ring.retainedBytes < recordSize ∧ 0 < ring.retainedBytes then
    ring.dropOldestHistory.makeHistoryRoom recordSize
  else ring
termination_by ring.retainedBytes
decreasing_by exact LogRing.dropOldestHistory_shrinks (by omega)

def LogRing.ringWriteRecord (ring : LogRing) (header data : List UInt8) : LogRing :=
  let recordSize := recordHeaderSize + data.length
  let written := ((ring.makeHistoryRoom recordSize).ringCopyIn header).ringCopyIn data
  { written with
    logUsed := written.logUsed + recordSize
    retainedBytes := written.retainedBytes + recordSize
    totalBytes := written.totalBytes + UInt32.ofNat recordSize }

def LogRing.ringReset (ring : LogRing) : LogRing where
  data := ring.data
  writeOffset := 0
  oldestOffset := 0
  retainedBytes := 0
  totalBytes := 0
  logTail := 0
  logUsed := 0
  logDroppedBytes := 0

/-- The header that `log_write` puts before a chunk. -/
def recordHeader (record : LogRecord) : List UInt8 :=
  irisPutLe64 record.monotonicUs ++ [record.source, record.flags] ++ irisPutLe16 (UInt16.ofNat record.data.length)

/-- What one turn of `log_write` does under the lock. -/
def LogRing.writeChunk (ring : LogRing) (record : LogRecord) : LogRing :=
  let needed := recordHeaderSize + record.data.length
  let ring := ring.makeRoom needed
  if ring.ringCapacity - ring.logUsed ≥ needed then ring.ringWriteRecord (recordHeader record) record.data
  else { ring with logDroppedBytes := ring.logDroppedBytes + UInt32.ofNat record.data.length }

def LogRing.irisLogPop (ring : LogRing) (payloadBudget : Nat) : LogRing × Option LogTaken :=
  if ring.logUsed ≥ recordHeaderSize then
    let length := dataLength (ring.ringPeek recordHeaderSize)
    if length ≤ recordDataMax ∧ recordHeaderSize + length ≤ ring.logUsed ∧ 16 + length ≤ payloadBudget then
      let (ring, header) := ring.ringRead recordHeaderSize
      let (rest, data) := ring.ringRead length
      (rest, some
        { record :=
            { monotonicUs := irisGetLe64 header 0
              source := byteAt header 8
              flags := byteAt header 9
              data := data }
          droppedTotal := ring.logDroppedBytes })
    else (ring, none)
  else (ring, none)

end EspIris.Device.Log
