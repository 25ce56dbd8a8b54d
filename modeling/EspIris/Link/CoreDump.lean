import EspIris.Codec.Agreement
import EspIris.Device.CoreDump
import EspIris.Gateway.CoreDump
import EspIris.Lib.Tiling
import EspIris.Link.Tlv

/-! The gateway fetches the core dump of a device over a link that answers every request: what it stores is the dump,
piece by piece, and only the last piece is marked as the end. -/

namespace EspIris.Link.CoreDump
open Bytes Slices Tiling Codec.Device Device Device.CoreDump Gateway Gateway.CoreDump Tlv
open Codec.Host (Frame ProtocolError)

/-- The fields of `iris_runtime_t` about the crashes themselves. -/
structure CrashFacts where
  resetReason : UInt32
  crashCount : UInt32
  crashLimit : UInt32
  crashRecoveryPending : Bool
  crashOriginResetReason : UInt32
  crashFailedAppAddress : UInt32
  crashFailedFirmwareSha256 : List UInt8
  crashStateError : UInt32
  digest : crashFailedFirmwareSha256.length = 32

/-- Both ends. The protocol task handles a request with an empty transmit slot; whatever else happened to its runtime
between two requests is in the runtime of each. -/
structure DumpLink where
  chunkBytes : Nat
  answers : ImageAnswers
  facts : CrashFacts
  runtime : Nat → Runtime
  requestId : Nat → UInt32
  input : HandlerInput
  info : DeviceInfo
  /-- `ESP_IRIS_CRASH_CHUNK_BYTES` has a range. -/
  least : 256 ≤ chunkBytes
  most : chunkBytes ≤ 2048
  free : ∀ serial, (runtime serial).txWire = []
  buffer : ∀ serial, (runtime serial).rxWire.length = maxWireFrameSize
  identity : ∀ serial, (runtime serial).deviceId.length = 16

/-- What `iris_crash_build_metadata` puts. -/
def metadataItems (link : DumpLink) (runtime : Runtime) (evidence : CrashEvidence) : List Item :=
  let flag (value : Bool) : List UInt8 := [if value then 1 else 0]
  let dumpSize := if evidence.size ≤ 0xffffffff then evidence.size else 0xffffffff
  [(TlvTag.deviceId, runtime.deviceId),
    (TlvTag.bootId, irisPutLe64 runtime.bootId),
    (TlvTag.resetReason, irisPutLe32 link.facts.resetReason),
    (CoreTag.previousBootCrash, flag runtime.previousBootCrash),
    (CoreTag.coreDumpPresent, flag evidence.present),
    (CoreTag.coreDumpValid, flag evidence.valid),
    (CoreTag.coreDumpSize, irisPutLe32 (UInt32.ofNat dumpSize)),
    (CoreTag.coreDumpElfSha256, evidence.elfSha256),
    (CoreTag.coreDumpElfSha256Complete, flag (evidence.elfSha256.length = 64)),
    (CoreTag.coreDumpChunkMax, irisPutLe32 (UInt32.ofNat link.chunkBytes)),
    (CoreTag.panicReason, evidence.panicReason),
    (TlvTag.crashCount, irisPutLe32 link.facts.crashCount),
    (TlvTag.crashLimit, irisPutLe32 link.facts.crashLimit),
    (CoreTag.crashLoopTriggered, flag runtime.crashLoopTriggered),
    (TlvTag.crashRecoveryPending, flag link.facts.crashRecoveryPending),
    (TlvTag.crashOriginResetReason, irisPutLe32 link.facts.crashOriginResetReason),
    (TlvTag.crashFailedAppAddress, irisPutLe32 link.facts.crashFailedAppAddress),
    (TlvTag.crashFailedFirmwareSha256, link.facts.crashFailedFirmwareSha256),
    (TlvTag.crashStateError, irisPutLe32 link.facts.crashStateError)]

/-- The `crash_tlv_writer_t` of the receive buffer; `crash_tlv_put` is `tlv_put`. -/
def crashTlvWriter (rxWire : List UInt8) (whole : rxWire.length = maxWireFrameSize) : TlvWriter where
  memory := rxWire
  capacity := rxWire.length
  length := 0
  inside := le_refl _
  fits := Nat.zero_le _
  object := by
    rw [whole]
    decide

/-- `iris_crash_build_metadata` into the receive buffer, after `crash_refresh`. -/
def irisCrashBuildMetadata (rxWire : List UInt8) (whole : rxWire.length = maxWireFrameSize) (items : List Item) :
    Except EspErr (List UInt8) :=
  let put := tlvPutAll (crashTlvWriter rxWire whole) items
  if put.2 then .ok (put.1.memory.take put.1.length) else .error EspErr.invalidSize

structure Exchange where
  offset : Nat
  read : CrashRead
  buffer : Nat
  flags : Int

def Exchange.size (exchange : Exchange) : Nat := exchange.read.bytes.length

def Exchange.ended (exchange : Exchange) : Bool := exchange.flags.toNat.testBit 4

structure DumpWorld where
  serial : Nat
  evidence : CrashEvidence
  exchanges : List Exchange

/-- What `handle_crash` finds out before it queues its answer. -/
structure Found where
  evidence : CrashEvidence
  answer : Except EspErr (List UInt8)
  finished : Bool
  read : Option CrashRead

def found (link : DumpLink) (world : DumpWorld) (frame : DecodedFrame) : Found :=
  let runtime := link.runtime world.serial
  let nothing : Found := ⟨world.evidence, .error EspErr.notSupported, false, none⟩
  if frame.header.type = CrashType.metadataRequest then
    if frame.header.payloadSize ≠ 0 then nothing
    else
      let evidence := crashRefresh link.answers world.evidence
      ⟨evidence, irisCrashBuildMetadata runtime.rxWire (link.buffer world.serial) (metadataItems link runtime evidence),
        false, none⟩
  else if frame.header.type = CrashType.readRequest then
    if frame.header.payloadSize ≠ 8 then nothing
    else
      let offset := irisGetLe32 frame.payload 0
      let maximum := irisGetLe16 frame.payload 4
      match irisCrashRead link.chunkBytes link.answers world.evidence offset.toNat maximum.toNat with
      | (evidence, .error code) => ⟨evidence, .error code, false, none⟩
      | (evidence, .ok read) =>
        let answer := readAnswer runtime.rxWire evidence.size offset read.bytes
        ⟨evidence, .ok answer.1, answer.2, some read⟩
  else nothing

def requestFrame (link : DumpLink) (serial : Nat) (type : UInt8) (payload : List UInt8) : DecodedFrame :=
  { header := { channel := Channel.crash, type, flags := 0, sessionId := (link.runtime serial).sessionId,
                requestId := link.requestId serial, streamId := 0, sequence := UInt32.ofNat (serial + 1),
                payloadSize := UInt32.ofNat payload.length },
    payload }

/-- What `_handle_frame` makes of the answer of a pending request. -/
def settle (frame : Frame) : Except DumpError Frame :=
  if frame.type = ControlType.error.toNat then .error (.deviceError (field (frame.payload ++ [0, 0, 0, 0]) 0 4))
  else .ok frame

/-- `_request` over the link: the device handles the frame, and the gateway decodes what it sends. -/
def exchange (link : DumpLink) : Requests DumpWorld := fun type payload world =>
  let frame := requestFrame link world.serial type payload
  let runtime := link.runtime world.serial
  let found := found link world frame
  let handled := handleCrash runtime frame { link.input with crash := found.answer, finished := found.finished }
  match Codec.Host.decodeFrame handled.txWire.dropLast with
  | .error error => (.error (.protocolError error), world)
  | .ok answer =>
    let exchanges := match found.read with
      | some read => world.exchanges ++ [⟨field payload 0 4, read, runtime.rxWire.length, answer.flags⟩]
      | none => world.exchanges
    (settle answer, ⟨world.serial + 1, found.evidence, exchanges⟩)

section exchange
variable {link : DumpLink} {world : DumpWorld} {partition : Partition} {address size : Nat}

/-- What the gateway decodes when the protocol task has queued an answer. -/
theorem respondCrash_sends {runtime : Runtime} {payload : List UInt8} (header : WireHeader) (type : UInt8)
    (flags : UInt16) (stream : UInt32) (free : runtime.txWire = []) (short : payload.length ≤ maxPayloadSize) :
    ∃ frame, Codec.Host.decodeFrame
        (respondCrash runtime header (.ok payload) type flags stream).txWire.dropLast = .ok frame ∧
      frame.channel = Channel.crash.toNat ∧ frame.type = type.toNat ∧ frame.flags = flags.toNat ∧
      frame.payload = payload := by
  have fits : Reply.Fits ⟨Channel.crash, type, flags, header.requestId, stream, payload⟩ :=
    ⟨(by decide : Channel.crash < Channel.count), short⟩
  have queued := queueFrame_empty (runtime.scribble payload) _ free fits
  unfold respondCrash
  dsimp only
  rw [queued, if_pos rfl]
  dsimp only
  rw [List.dropLast_concat, (replyBody_roundTrip (runtime.scribble payload) _ fits).hostDecodes]
  exact ⟨_, rfl, rfl, rfl, rfl, rfl⟩

theorem handleCrash_read {frame : DecodedFrame} (runtime : Runtime) (input : HandlerInput)
    (type : frame.header.type = CrashType.readRequest) (sized : frame.header.payloadSize = 8) :
    handleCrash runtime frame input = respondCrash runtime frame.header input.crash CrashType.readResponse
      (Flag.response ||| if input.finished then Flag.streamEnd else 0) 1 := by
  unfold handleCrash
  dsimp only
  rw [if_neg (by rw [type]; decide), if_pos type, if_neg (not_not.mpr sized)]

theorem handleCrash_metadata {frame : DecodedFrame} (runtime : Runtime) (input : HandlerInput)
    (type : frame.header.type = CrashType.metadataRequest) (sized : frame.header.payloadSize = 0) :
    handleCrash runtime frame input =
      respondCrash runtime frame.header input.crash CrashType.metadataResponse Flag.response 0 := by
  unfold handleCrash
  dsimp only
  rw [if_pos type, if_neg (not_not.mpr sized)]

/-- Where the request reads the offset and the size that are asked for. -/
theorem request_fields {offset maximum : Nat} (offset_lt : offset < 2 ^ 32) (maximum_lt : maximum < 2 ^ 16) :
    (irisGetLe32 (littleEndian 4 offset ++ littleEndian 2 maximum ++ littleEndian 2 0) 0).toNat = offset ∧
      (irisGetLe16 (littleEndian 4 offset ++ littleEndian 2 maximum ++ littleEndian 2 0) 4).toNat = maximum := by
  constructor
  · rw [irisGetLe32_toNat, List.append_assoc, field_littleEndian 4 offset _ offset_lt]
  · rw [irisGetLe16_toNat, List.append_assoc, field_skip _ _ _ _ (littleEndian_length 4 offset).le, littleEndian_length,
      Nat.sub_self, field_littleEndian 2 maximum _ maximum_lt]

def piece (partition : Partition) (address size offset maximum : Nat) : List UInt8 :=
  ((coreDump partition address size).drop offset).take maximum

theorem piece_length (intact : Intact partition link.answers address size) (offset maximum : Nat) :
    (piece partition address size offset maximum).length = min maximum (size - offset) := by
  unfold piece
  rw [List.length_take, List.length_drop, intact.length]

/-- What `handle_crash` finds out for a READ inside the core dump. -/
theorem found_read (intact : Intact partition link.answers address size) (small : size < 2 ^ 32)
    (knows : Knows partition address size world.evidence) {offset maximum : Nat} (positive : 0 < maximum)
    (bounded : maximum ≤ link.chunkBytes) (below : offset < size) :
    found link world (requestFrame link world.serial CrashType.readRequest
        (littleEndian 4 offset ++ littleEndian 2 maximum ++ littleEndian 2 0)) =
      ⟨crashRefresh link.answers world.evidence,
        .ok (littleEndian 4 offset ++ littleEndian 4 size ++ piece partition address size offset maximum),
        decide (offset + (piece partition address size offset maximum).length = size),
        some ⟨address - partition.address + offset, piece partition address size offset maximum⟩⟩ := by
  have most := link.most
  have offset_lt : offset < 2 ^ 32 := below.trans small
  have length := piece_length intact offset maximum
  obtain ⟨isOffset, isMaximum⟩ := request_fields offset_lt (show maximum < 2 ^ 16 by omega)
  have whole : UInt32.ofNat (littleEndian 4 offset ++ littleEndian 2 maximum ++ littleEndian 2 0).length = 8 := by
    rw [List.length_append, List.length_append, littleEndian_length, littleEndian_length, littleEndian_length]
    rfl
  have room : (piece partition address size offset maximum).length + 8 ≤ (link.runtime world.serial).rxWire.length := by
    rw [link.buffer, length]
    unfold maxWireFrameSize
    omega
  obtain ⟨known, -⟩ := intact.refreshed knows
  unfold found requestFrame
  dsimp only
  rw [if_neg (by decide), if_pos rfl, if_neg (not_not.mpr whole), isOffset, isMaximum,
    irisCrashRead_takes intact knows positive bounded below.le]
  dsimp only
  rw [known.size]
  have payload := readAnswer_payload
    (irisGetLe32 (littleEndian 4 offset ++ littleEndian 2 maximum ++ littleEndian 2 0) 0) room small
  have ended : (readAnswer (link.runtime world.serial).rxWire size
      (irisGetLe32 (littleEndian 4 offset ++ littleEndian 2 maximum ++ littleEndian 2 0) 0)
      (piece partition address size offset maximum)).2 =
      decide (offset + (piece partition address size offset maximum).length = size) := by
    unfold readAnswer
    dsimp only
    rw [isOffset, decide_eq_decide, Nat.mod_eq_of_lt (by omega)]
    omega
  rw [isOffset] at payload
  unfold piece at payload ended ⊢
  rw [payload, ended]

/-- A READ inside the core dump is answered with a piece of it, flagged as the end when it reaches the end. -/
theorem exchange_read (intact : Intact partition link.answers address size) (small : size < 2 ^ 32)
    (knows : Knows partition address size world.evidence) {offset maximum : Nat} (positive : 0 < maximum)
    (bounded : maximum ≤ link.chunkBytes) (below : offset < size) :
    ∃ frame, exchange link CrashType.readRequest (littleEndian 4 offset ++ littleEndian 2 maximum ++ littleEndian 2 0)
        world = (.ok frame, ⟨world.serial + 1, crashRefresh link.answers world.evidence,
          world.exchanges ++ [⟨offset,
            ⟨address - partition.address + offset, piece partition address size offset maximum⟩, maxWireFrameSize,
            frame.flags⟩]⟩) ∧
      frame.channel = Channel.crash.toNat ∧ frame.type = CrashType.readResponse.toNat ∧
      frame.payload = littleEndian 4 offset ++ littleEndian 4 size ++ piece partition address size offset maximum ∧
      frame.flags = if offset + (piece partition address size offset maximum).length = size then 17 else 1 := by
  have short : (littleEndian 4 offset ++ littleEndian 4 size ++ piece partition address size offset maximum).length ≤
      maxPayloadSize := by
    rw [List.length_append, List.length_append, littleEndian_length, littleEndian_length, piece_length intact]
    have most := link.most
    unfold maxPayloadSize
    omega
  have whole : UInt32.ofNat (littleEndian 4 offset ++ littleEndian 2 maximum ++ littleEndian 2 0).length = 8 := by
    rw [List.length_append, List.length_append, littleEndian_length, littleEndian_length, littleEndian_length]
    rfl
  obtain ⟨frame, decoded, channel, type, flags, payload⟩ := respondCrash_sends
    (requestFrame link world.serial CrashType.readRequest
      (littleEndian 4 offset ++ littleEndian 2 maximum ++ littleEndian 2 0)).header CrashType.readResponse
    (Flag.response ||| if decide (offset + (piece partition address size offset maximum).length = size) = true then
      Flag.streamEnd else 0) 1 (link.free world.serial) short
  refine ⟨frame, ?_, channel, type, payload, ?_⟩
  · unfold exchange
    dsimp only
    rw [found_read intact small knows positive bounded below, handleCrash_read _ _ rfl whole, decoded]
    dsimp only
    unfold settle
    rw [type, if_neg (by decide), link.buffer, List.append_assoc, field_littleEndian 4 offset _ (below.trans small)]
  · rw [flags]
    by_cases last : offset + (piece partition address size offset maximum).length = size
    · rw [decide_eq_true last, if_pos rfl, if_pos last]
      rfl
    · rw [decide_eq_false last, if_neg Bool.false_ne_true, if_neg last]
      rfl

theorem metadataItems_length (link : DumpLink) (serial : Nat) (evidence : CrashEvidence) :
    ((metadataItems link (link.runtime serial) evidence).flatMap tlv).length ≤ 386 := by
  have identity := link.identity serial
  have digest := link.facts.digest
  have elfSha256 := evidence.elfSha256_le
  have panicReason := evidence.panicReason_le
  unfold metadataItems
  simp only [List.flatMap_cons, List.flatMap_nil, List.length_append, List.length_nil, tlv_length, irisPutLe32_eq,
    irisPutLe64_eq, littleEndian_length, List.length_singleton, identity, digest]
  omega

theorem metadataItems_short (link : DumpLink) (serial : Nat) (evidence : CrashEvidence) :
    Short (metadataItems link (link.runtime serial) evidence) := by
  intro item member
  have whole := metadataItems_length link serial evidence
  obtain ⟨before, after, split⟩ := List.append_of_mem member
  rw [split, List.flatMap_append, List.flatMap_cons, List.length_append, List.length_append, tlv_length] at whole
  omega

theorem metadata_built (link : DumpLink) (serial : Nat) (evidence : CrashEvidence) :
    irisCrashBuildMetadata (link.runtime serial).rxWire (link.buffer serial)
        (metadataItems link (link.runtime serial) evidence) =
      .ok ((metadataItems link (link.runtime serial) evidence).flatMap tlv) := by
  have put : (tlvPutAll (crashTlvWriter _ (link.buffer serial))
      (metadataItems link (link.runtime serial) evidence)).2 = true := by
    refine tlvPutAll_fits (metadataItems_short link serial evidence) ?_
    have whole := metadataItems_length link serial evidence
    change 0 + _ ≤ (link.runtime serial).rxWire.length
    rw [link.buffer]
    unfold maxWireFrameSize
    omega
  unfold irisCrashBuildMetadata
  dsimp only
  rw [if_pos put]
  exact congrArg Except.ok (tlvPutAll_bytes put)

theorem exchange_metadata (link : DumpLink) (world : DumpWorld) :
    ∃ frame, exchange link CrashType.metadataRequest [] world =
        (.ok frame, ⟨world.serial + 1, crashRefresh link.answers world.evidence, world.exchanges⟩) ∧
      frame.channel = Channel.crash.toNat ∧ frame.type = CrashType.metadataResponse.toNat ∧
      frame.payload =
        (metadataItems link (link.runtime world.serial) (crashRefresh link.answers world.evidence)).flatMap tlv := by
  have fits := metadataItems_length link world.serial (crashRefresh link.answers world.evidence)
  have asked : found link world (requestFrame link world.serial CrashType.metadataRequest []) =
      ⟨crashRefresh link.answers world.evidence, .ok ((metadataItems link (link.runtime world.serial)
        (crashRefresh link.answers world.evidence)).flatMap tlv), false, none⟩ := by
    unfold found requestFrame
    dsimp only
    rw [if_pos rfl, if_neg (by decide), metadata_built]
  obtain ⟨frame, decoded, channel, type, -, payload⟩ := respondCrash_sends
    (requestFrame link world.serial CrashType.metadataRequest []).header CrashType.metadataResponse Flag.response 0
    (link.free world.serial) (fits.trans (by decide))
  refine ⟨frame, ?_, channel, type, payload⟩
  unfold exchange
  dsimp only
  rw [asked, handleCrash_metadata _ _ rfl rfl, decoded]
  dsimp only
  unfold settle
  rw [type, if_neg (by decide)]

theorem tlvU32_put {fields : Fields} {tag : UInt8} {value : UInt32} (default : Nat)
    (here : fields tag = some (irisPutLe32 value)) : tlvU32 fields tag default = value.toNat := by
  unfold tlvU32 tlvUint
  rw [here, irisPutLe32_eq]
  dsimp only
  rw [if_pos (littleEndian_length 4 _), ofLittleEndian_littleEndian 4 _ value.toNat_lt]

theorem crashReport_says (intact : Intact partition link.answers address size) (small : size < 2 ^ 32)
    (knows : Knows partition address size world.evidence) :
    ∃ report, crashReport (exchange link) link.info world =
        (.ok report, ⟨world.serial + 1, crashRefresh link.answers world.evidence, world.exchanges⟩) ∧
      report.coreDumpPresent = true ∧ report.coreDumpValid = true ∧ report.coreDumpSize = size ∧
      report.coreDumpChunkMax = link.chunkBytes := by
  obtain ⟨frame, exchanged, channel, type, payload⟩ := exchange_metadata link world
  obtain ⟨known, valid⟩ := intact.refreshed knows
  have most := link.most
  have fields := decodeTlv_items
    (metadataItems_short link world.serial (crashRefresh link.answers world.evidence))
  have isSize : lastValues (metadataItems link (link.runtime world.serial) (crashRefresh link.answers world.evidence))
      CoreTag.coreDumpSize = some (irisPutLe32 (UInt32.ofNat
        (if (crashRefresh link.answers world.evidence).size ≤ 0xffffffff then
          (crashRefresh link.answers world.evidence).size else 0xffffffff))) := rfl
  have isMost : lastValues (metadataItems link (link.runtime world.serial) (crashRefresh link.answers world.evidence))
      CoreTag.coreDumpChunkMax = some (irisPutLe32 (UInt32.ofNat link.chunkBytes)) := rfl
  rw [known.size, if_pos (by omega)] at isSize
  unfold crashReport
  rw [exchanged]
  dsimp only
  rw [channel, type, if_neg (by decide), payload, fields]
  refine ⟨_, rfl, ?_, ?_, ?_, ?_⟩
  · change decide
      (ofLittleEndian [if (crashRefresh link.answers world.evidence).present then (1 : UInt8) else 0] ≠ 0) = _
    rw [known.present]
    rfl
  · change decide (ofLittleEndian [if (crashRefresh link.answers world.evidence).valid then (1 : UInt8) else 0] ≠ 0) = _
    rw [valid]
    rfl
  · exact (tlvU32_put 0 isSize).trans (UInt32.toNat_ofNat_of_lt' small)
  · exact (tlvU32_put 1024 isMost).trans (UInt32.toNat_ofNat_of_lt' (most.trans_lt (by decide)))

theorem readCoreDumpChunk_gets (intact : Intact partition link.answers address size) (small : size < 2 ^ 32)
    (knows : Knows partition address size world.evidence) {offset : Nat} (below : offset < size) :
    ∃ flags, readCoreDumpChunk (exchange link) link.chunkBytes offset (min link.chunkBytes (size - offset)) world =
        (.ok (size, piece partition address size offset (min link.chunkBytes (size - offset))),
          ⟨world.serial + 1, crashRefresh link.answers world.evidence, world.exchanges ++
            [⟨offset, ⟨address - partition.address + offset,
              piece partition address size offset (min link.chunkBytes (size - offset))⟩, maxWireFrameSize, flags⟩]⟩) ∧
      flags = if offset + (piece partition address size offset (min link.chunkBytes (size - offset))).length = size
        then 17 else 1 := by
  have least := link.least
  have most := link.most
  obtain ⟨frame, exchanged, channel, type, payload, flags⟩ := exchange_read intact small knows
    (show 0 < min link.chunkBytes (size - offset) by omega) (min_le_left _ _) below
  refine ⟨frame.flags, ?_, flags⟩
  unfold readCoreDumpChunk
  dsimp only
  rw [if_neg (by omega), min_eq_left (min_le_left _ _), exchanged]
  dsimp only
  rw [chunkOf_answer channel type payload (below.trans small) small]

structure Exchange.Sound (partition : Partition) (address size : Nat) (exchange : Exchange) : Prop where
  below : exchange.offset < size
  inside : address - partition.address ≤ exchange.read.start ∧
    exchange.read.start + exchange.read.bytes.length ≤ address - partition.address + size
  room : 8 + exchange.read.bytes.length ≤ exchange.buffer
  ended : exchange.ended = true ↔ exchange.offset + exchange.size = size

theorem preserveLoop_fetches (intact : Intact partition link.answers address size) (small : size < 2 ^ 32)
    (knows : Knows partition address size world.evidence) {data : List UInt8}
    (isPart : data <+: coreDump partition address size) :
    ∃ after more, preserveLoop (exchange link) link.chunkBytes size data world =
        (.ok (coreDump partition address size), after) ∧
      after.exchanges = world.exchanges ++ more ∧ Tiles Exchange.offset Exchange.size data.length more size ∧
      ∀ exchange ∈ more, exchange.Sound partition address size := by
  have whole := intact.length
  induction left : size - data.length using Nat.strong_induction_on generalizing data world with
  | _ left ih =>
    by_cases more : data.length < size
    · obtain ⟨flags, got, flag⟩ := readCoreDumpChunk_gets intact small knows more
      have length := piece_length intact data.length (min link.chunkBytes (size - data.length))
      have least := link.least
      have most := link.most
      generalize taken : piece partition address size data.length (min link.chunkBytes (size - data.length)) = bytes
        at got flag length
      have longer : 0 < bytes.length := by omega
      have extended : data ++ bytes <+: coreDump partition address size := by
        have split := List.take_add (l := coreDump partition address size) (i := data.length)
          (j := min link.chunkBytes (size - data.length))
        rw [← List.prefix_iff_eq_take.mp isPart] at split
        rw [← taken, piece, ← split]
        exact List.take_prefix _ _
      have further : Knows partition address size (DumpWorld.mk (world.serial + 1)
          (crashRefresh link.answers world.evidence) (world.exchanges ++
            [⟨data.length, ⟨address - partition.address + data.length, bytes⟩, maxWireFrameSize, flags⟩])).evidence :=
        (intact.refreshed knows).1
      obtain ⟨after, rest, fetched, exchanges, tiles, sound⟩ := ih _ (by rw [List.length_append]; omega)
        further extended rfl
      refine ⟨after, _, ?_, exchanges.trans (List.append_assoc _ _ _), ⟨rfl, longer, ?_⟩, ?_⟩
      · rw [preserveLoop, if_pos more, got]
        dsimp only
        rw [if_neg, fetched]
        rintro (other | empty)
        · exact other rfl
        · exact absurd longer (by rw [empty]; exact Nat.lt_irrefl 0)
      · rw [List.length_append] at tiles
        exact tiles
      · refine List.forall_mem_cons.mpr ⟨⟨more, ⟨Nat.le_add_right _ _, ?_⟩, ?_, ?_⟩, sound⟩
        · dsimp only
          omega
        · change 8 + bytes.length ≤ maxWireFrameSize
          unfold maxWireFrameSize
          omega
        · unfold Exchange.ended Exchange.size
          dsimp only
          rw [flag]
          split
          next last => exact ⟨fun _ => last, fun _ => by decide⟩
          next early => exact ⟨fun ended => absurd ended (by decide), fun last => absurd last early⟩
    · have complete : data = coreDump partition address size :=
        isPart.eq_of_length_le (whole.trans_le (Nat.le_of_not_lt more))
      refine ⟨world, [], ?_, (List.append_nil _).symm, ?_, fun exchange member => absurd member List.not_mem_nil⟩
      · rw [preserveLoop, if_neg more, complete]
      · change data.length = size
        rw [complete, whole]

end exchange

/-- The call stores the core dump and no more. Its READs are for the pieces of the dump, one after the other; each takes
what lies inside the dump and fits into the receive buffer, as does any other READ, and only the last answer is flagged
as the end. -/
theorem coredump_reassembled (link : DumpLink) (partition : Partition) (address size : Nat)
    (intact : Intact partition link.answers address size) (small : size < 2 ^ 32) (world : DumpWorld)
    (knows : Knows partition address size world.evidence) (fresh : world.exchanges = []) :
    (∃ after, preserveCoredump (exchange link) link.info world = (.ok (some (coreDump partition address size)), after) ∧
      Tiles Exchange.offset Exchange.size 0 after.exchanges size ∧
      ∀ before exchange rest, after.exchanges = before ++ exchange :: rest →
        exchange.offset < size ∧ address - partition.address ≤ exchange.read.start ∧
        exchange.read.start + exchange.read.bytes.length ≤ address - partition.address + size ∧
        8 + exchange.read.bytes.length ≤ exchange.buffer ∧ (exchange.ended = true ↔ rest = [])) ∧
    ∀ evidence, Knows partition address size evidence → ∀ offset maximum next read,
      irisCrashRead link.chunkBytes link.answers evidence offset maximum = (next, .ok read) →
        address - partition.address ≤ read.start ∧
        read.start + read.bytes.length ≤ address - partition.address + size ∧
        8 + read.bytes.length ≤ maxWireFrameSize := by
  constructor
  · obtain ⟨report, reported, present, valid, isSize, isMost⟩ := crashReport_says intact small knows
    have further : Knows partition address size (DumpWorld.mk (world.serial + 1)
        (crashRefresh link.answers world.evidence) world.exchanges).evidence := (intact.refreshed knows).1
    obtain ⟨after, more, fetched, exchanges, tiles, sound⟩ :=
      preserveLoop_fetches intact small further List.nil_prefix
    change after.exchanges = world.exchanges ++ more at exchanges
    rw [fresh, List.nil_append] at exchanges
    refine ⟨after, ?_, exchanges ▸ tiles, ?_⟩
    · unfold preserveCoredump
      rw [reported]
      dsimp only
      rw [if_neg (by rw [present, valid]; decide), isSize, isMost, fetched]
    · intro before exchange rest split
      rw [exchanges] at split
      have holds := sound exchange (split ▸ List.mem_append_right before List.mem_cons_self)
      rw [split] at tiles
      exact ⟨holds.below, holds.inside.1, holds.inside.2, holds.room, holds.ended.trans tiles.last_iff⟩
  · intro evidence knows offset maximum next read success
    obtain ⟨short, above, inside⟩ := irisCrashRead_inside intact knows success
    refine ⟨above, inside, ?_⟩
    have most := link.most
    unfold maxWireFrameSize
    omega

def smallContent : List UInt8 := [1, 2, 3, 4] ++ List.replicate 300 7

theorem smallContent_length : smallContent.length = 304 := by
  unfold smallContent
  rw [List.length_append, List.length_replicate]
  rfl

def smallPartition : Partition where
  address := 0x3f0000
  content := smallContent
  espPartitionRead start length :=
    if start > 304 then .error EspErr.invalidArg
    else if start + length > 304 then .error EspErr.invalidSize
    else .ok ((smallContent.drop start).take length)
  reads := by
    intro start length inside
    rw [smallContent_length] at inside
    rw [if_neg (by omega), if_neg (by omega)]

theorem noReason_le : ([] : List UInt8).length ≤ 128 := Nat.zero_le _

def smallAnswers : ImageAnswers where
  image := some (0x3f0004, 300)
  intact := true
  summary := none
  panicReason := []
  panicReason_le := noReason_le

def smallLink : DumpLink where
  chunkBytes := 256
  answers := smallAnswers
  facts := ⟨4, 1, 3, false, 4, 0x10000, List.replicate 32 0, 0, List.length_replicate⟩
  runtime _ := Runtime.zero
  requestId _ := 1
  input := ⟨0, 0, [], false, .error EspErr.notSupported, false, false, [], []⟩
  info := ⟨List.replicate 16 0, 0, 0, "tcp", 2, [], [], [], [], 4, 0, 0, 4000, "normal", [], [], [], [], 0, 0, 45000,
    []⟩
  least := le_refl _
  most := by decide
  free _ := rfl
  buffer _ := List.length_replicate
  identity _ := List.length_replicate

def smallWorld : DumpWorld := ⟨0, irisCrashProbe (some smallPartition) smallAnswers, []⟩

/-- The core dump of 300 bytes, which takes two READs. -/
theorem coredump_reassembled_small : ∃ after,
    preserveCoredump (exchange smallLink) smallLink.info smallWorld = (.ok (some (List.replicate 300 7)), after) := by
  have inside : 0x3f0004 - 0x3f0000 + 300 ≤ smallContent.length := by
    rw [smallContent_length]
  have intact : Intact smallPartition smallAnswers 0x3f0004 300 := ⟨rfl, rfl, by decide, inside⟩
  have dump : coreDump smallPartition 0x3f0004 300 = List.replicate 300 7 := by
    have isContent : smallPartition.content = [1, 2, 3, 4] ++ List.replicate 300 7 := rfl
    have place : 0x3f0004 - smallPartition.address = [1, 2, 3, (4 : UInt8)].length := rfl
    unfold coreDump
    rw [isContent, place, List.drop_left, List.take_of_length_le List.length_replicate.le]
  have knows : Knows smallPartition 0x3f0004 300 smallWorld.evidence := by
    unfold smallWorld
    dsimp only
    exact intact.probed
  obtain ⟨⟨after, stored, -⟩, -⟩ :=
    coredump_reassembled smallLink smallPartition 0x3f0004 300 intact (by decide) smallWorld knows rfl
  exact ⟨after, dump ▸ stored⟩

end EspIris.Link.CoreDump
