import EspIris.Codec.Device
import EspIris.Codec.Host

/-! The two codecs produce the same wire bytes and accept the same byte strings. Both are
compared with the abstract byte stuffing and with the little-endian layout of the header. -/

namespace EspIris.Codec
open Bytes
variable (header : WireHeader) (plain : List UInt8)

def hostFrame (header : WireHeader) (payload : List UInt8) : Host.Frame where
  channel := header.channel.toNat
  type := header.type.toNat
  flags := header.flags.toNat
  sessionId := header.sessionId.toNat
  requestId := header.requestId.toNat
  streamId := header.streamId.toNat
  sequence := header.sequence.toNat
  payload := payload

theorem crc_agrees (data : List UInt8) : (Device.irisCrc32 data 0).toNat = Host.zlibCrc32 data := by
  have folded := Device.irisCrc32_fold data (~~~ 0)
  unfold Device.irisCrc32 Host.zlibCrc32
  rw [← UInt32.toNat_toBitVec, UInt32.toBitVec_not, folded]
  rfl

theorem littleEndian_byte (value : UInt8) : littleEndian 1 value.toNat = [value] := by
  simp [littleEndian]

theorem header_agrees :
    Device.encodeHeader header = Host.packHeader header.channel.toNat header.type.toNat
      header.flags.toNat header.sessionId.toNat header.requestId.toNat header.streamId.toNat
      header.sequence.toNat header.payloadSize.toNat := by
  simp only [Device.encodeHeader, Host.packHeader, Device.irisPutLe16_eq, Device.irisPutLe32_eq,
    littleEndian_byte]
  rfl

theorem header_length : (Device.encodeHeader header).length = wireHeaderSize := by
  rfl

def plainFrame (header : WireHeader) (payload : List UInt8) : List UInt8 :=
  Device.encodeHeader header ++ payload ++
    littleEndian 4 (Device.irisCrc32 (Device.encodeHeader header ++ payload) 0).toNat

theorem plainFrame_length (payload : List UInt8) :
    (plainFrame header payload).length = wireHeaderSize + payload.length + 4 := by
  simp [plainFrame, header_length]
  omega

/-- A whole frame with its overhead and delimiter always fits the wire buffers. -/
theorem plainFrame_fits (payload : List UInt8) (bounded : payload.length ≤ maxPayloadSize) :
    (Cobs.encode (plainFrame header payload)).length + 1 < maxWireFrameSize := by
  have overhead := Cobs.encode_length (plainFrame header payload)
  rw [plainFrame_length] at overhead
  simp only [wireHeaderSize, maxPayloadSize, maxWireFrameSize, Cobs.fullBlock] at *
  omega

theorem device_encodes (out : List UInt8) (header : WireHeader) (payload : List UInt8)
    (channel : header.channel < Channel.count) (size : header.payloadSize.toNat = payload.length)
    (bounded : payload.length ≤ maxPayloadSize) (buffer : maxWireFrameSize ≤ out.length) :
    Device.irisFrameEncode out out.length header payload =
      .ok (Cobs.encode (plainFrame header payload) ++ [0]) := by
  have sized : { header with payloadSize := UInt32.ofNat payload.length } = header := by
    rw [← size, UInt32.ofNat_toNat]
  have fits := plainFrame_fits header payload bounded
  have capacity : ¬ out.length < 2 := by
    simp only [maxWireFrameSize] at *
    omega
  obtain ⟨first, rest, shape⟩ : ∃ first rest, out = first :: rest := by
    cases out with
    | nil => simp [maxWireFrameSize] at buffer
    | cons first rest => exact ⟨first, rest, rfl⟩
  have start : Device.Wrote ⟨out, out.length, 1, 0, 1⟩ [] [] :=
    ⟨⟨first, rest, by simp [shape]⟩, rfl, rfl, rfl, le_refl _⟩
  have finished := Device.cobsWrite_finish (plainFrame header payload) _ [] [] start (by decide)
    (by simp only [List.length_nil, Nat.zero_add]; exact fits.le.trans buffer)
  rw [Device.irisFrameEncode, if_neg (by omega), if_neg (by simpa using channel), sized]
  simp only [Device.irisCrc32_append, Device.cobsBegin, if_neg capacity, Option.bind_some,
    Device.irisPutLe32_eq]
  rw [plainFrame, Device.cobsWrite_append, Device.cobsWrite_append] at finished
  simp only [Option.bind_assoc] at finished
  rw [finished]
  rfl

theorem host_encodes (payload : List UInt8) (channel : header.channel < Channel.count)
    (size : header.payloadSize.toNat = payload.length) (bounded : payload.length ≤ maxPayloadSize) :
    Host.encodeFrame (hostFrame header payload) =
      .ok (Cobs.encode (plainFrame header payload) ++ [0]) := by
  have fits := plainFrame_fits header payload bounded
  have inside : ¬ header.channel.toNat > Host.channelSystemUpdate := by
    have small : header.channel.toNat < 10 := UInt8.lt_iff_toNat_lt.mp channel
    simp only [Host.channelSystemUpdate]
    omega
  have short : ¬ payload.length > Host.maxPayload := by
    simp only [maxPayloadSize, Host.maxPayload] at *
    omega
  have plain : Host.packHeader header.channel.toNat header.type.toNat header.flags.toNat
      header.sessionId.toNat header.requestId.toNat header.streamId.toNat header.sequence.toNat
      payload.length = Device.encodeHeader header := by
    rw [header_agrees, size]
  have wire : ¬ (Cobs.encode (plainFrame header payload) ++ [0]).length > Host.maxWireFrame := by
    simp only [List.length_append, List.length_singleton, Host.maxWireFrame, maxWireFrameSize] at *
    omega
  simp only [Host.encodeFrame, hostFrame, if_neg short,
    Host.wireUint_of_fits _ _ _ (UInt8.toNat_lt _), Host.wireUint_of_fits _ _ _ (UInt16.toNat_lt _),
    Host.wireUint_of_fits _ _ _ (UInt32.toNat_lt _), ← crc_agrees, Host.cobsEncode_eq]
  simp only [plainFrame] at wire ⊢
  simp only [bind, Except.bind, pure, Except.pure, if_neg inside, plain, if_neg wire]

structure WellFormed (plain : List UInt8) : Prop where
  long : wireHeaderSize + 4 ≤ plain.length
  magic : plain.take 4 = Device.magic
  version : field plain 4 1 = 1
  headerSize : field plain 5 1 = wireHeaderSize
  channel : field plain 6 1 < 10
  reserved : field plain 10 2 = 0
  bounded : field plain 28 4 ≤ maxPayloadSize
  size : plain.length = wireHeaderSize + field plain 28 4 + 4
  checksum : field plain (plain.length - 4) 4 = Host.zlibCrc32 (plain.take (plain.length - 4))

def frameOf (plain : List UInt8) : DecodedFrame where
  header := {
    channel := byteAt plain 6
    type := byteAt plain 7
    flags := Device.irisGetLe16 plain 8
    sessionId := Device.irisGetLe32 plain 12
    requestId := Device.irisGetLe32 plain 16
    streamId := Device.irisGetLe32 plain 20
    sequence := Device.irisGetLe32 plain 24
    payloadSize := Device.irisGetLe32 plain 28 }
  payload := (plain.drop wireHeaderSize).take (field plain 28 4)

theorem irisGetLe32_append (plain rest : List UInt8) (offset : Nat) (inside : offset + 4 ≤ plain.length) :
    Device.irisGetLe32 (plain ++ rest) offset = Device.irisGetLe32 plain offset := by
  apply UInt32.toNat_inj.mp
  rw [Device.irisGetLe32_toNat, Device.irisGetLe32_toNat, field_inside _ _ _ _ inside]

theorem irisGetLe16_append (plain rest : List UInt8) (offset : Nat) (inside : offset + 2 ≤ plain.length) :
    Device.irisGetLe16 (plain ++ rest) offset = Device.irisGetLe16 plain offset := by
  apply UInt16.toNat_inj.mp
  rw [Device.irisGetLe16_toNat, Device.irisGetLe16_toNat, field_inside _ _ _ _ inside]

/-- The device looks only at the decoded bytes, not at what follows them in its buffer. -/
theorem device_readFrame_append (plain rest : List UInt8) :
    Device.readFrame (plain ++ rest) plain.length = Device.readFrame plain plain.length := by
  by_cases long : plain.length < wireHeaderSize + 4
  · rw [Device.readFrame, Device.readFrame, if_pos (Or.inl long), if_pos (Or.inl long)]
  have enough : 36 ≤ plain.length := by
    simp only [wireHeaderSize] at long
    omega
  have start : (plain ++ rest).take 4 = plain.take 4 := List.take_append_of_le_length (by omega)
  have covered : (plain ++ rest).take (plain.length - 4) = plain.take (plain.length - 4) :=
    List.take_append_of_le_length (by omega)
  have body : ∀ count, wireHeaderSize + count ≤ plain.length →
      ((plain ++ rest).drop wireHeaderSize).take count = (plain.drop wireHeaderSize).take count := by
    intro count inside
    rw [List.drop_append_of_le_length (by omega), List.take_append_of_le_length]
    rw [List.length_drop]
    omega
  simp only [Device.readFrame, start, covered, byteAt_append rest (show 4 < plain.length by omega),
    byteAt_append rest (show 5 < plain.length by omega), byteAt_append rest (show 6 < plain.length by omega),
    byteAt_append rest (show 7 < plain.length by omega), irisGetLe16_append plain rest 10 (by omega),
    irisGetLe16_append plain rest 8 (by omega), irisGetLe32_append plain rest 28 (by omega),
    irisGetLe32_append plain rest 12 (by omega), irisGetLe32_append plain rest 16 (by omega),
    irisGetLe32_append plain rest 20 (by omega), irisGetLe32_append plain rest 24 (by omega),
    irisGetLe32_append plain rest (plain.length - 4) (by omega)]
  split
  · rfl
  · split
    · rfl
    next fits =>
      rw [body _ (by simp only [wireHeaderSize, maxPayloadSize] at *; omega)]

theorem device_reads (ok : WellFormed plain) :
    Device.readFrame plain plain.length = .ok (frameOf plain) := by
  have payload := Device.irisGetLe32_toNat plain 28
  have version : byteAt plain 4 = protocolVersion := by
    apply UInt8.toNat_inj.mp
    rw [← field_one, ok.version]
    rfl
  have headerSize : byteAt plain 5 = UInt8.ofNat wireHeaderSize := by
    apply UInt8.toNat_inj.mp
    rw [← field_one, ok.headerSize]
    rfl
  have channel : ¬ byteAt plain 6 ≥ Channel.count := by
    rw [ge_iff_le, UInt8.le_iff_toNat_le, ← field_one]
    exact not_le.mpr ok.channel
  have reserved : Device.irisGetLe16 plain 10 = 0 := by
    apply UInt16.toNat_inj.mp
    rw [Device.irisGetLe16_toNat, ok.reserved]
    rfl
  have checksum : Device.irisGetLe32 plain (plain.length - 4) =
      Device.irisCrc32 (plain.take (plain.length - 4)) 0 := by
    apply UInt32.toNat_inj.mp
    rw [Device.irisGetLe32_toNat, crc_agrees, ok.checksum]
  rw [Device.readFrame, if_neg, if_neg, if_neg]
  · simp [frameOf, payload]
  · simpa using checksum
  · rw [payload]
    exact not_or.mpr ⟨not_lt.mpr ok.bounded, not_not.mpr ok.size⟩
  · have long := ok.long
    simp only [ok.magic, version, headerSize, reserved, channel, ne_eq, not_true_eq_false, or_false, not_lt]
    exact long

theorem device_rejects (bad : ¬ WellFormed plain) :
    ∃ reason, Device.readFrame plain plain.length = .error reason := by
  rw [Device.readFrame]
  dsimp only
  split
  · exact ⟨_, rfl⟩
  next shape =>
  split
  · exact ⟨_, rfl⟩
  next size =>
  split
  · exact ⟨_, rfl⟩
  next checksum =>
  exfalso
  simp only [not_or, not_not, not_lt] at shape size checksum
  obtain ⟨long, magic, version, headerSize, channel, reserved⟩ := shape
  rw [Device.irisGetLe32_toNat] at size
  refine bad ⟨long, magic, ?_, ?_, ?_, ?_, size.1, size.2, ?_⟩
  · rw [field_one, version]
    rfl
  · rw [field_one, headerSize]
    rfl
  · rw [field_one]
    exact UInt8.lt_iff_toNat_lt.mp (UInt8.not_le.mp channel)
  · rw [← Device.irisGetLe16_toNat, reserved]
    rfl
  · rw [← Device.irisGetLe32_toNat, checksum, crc_agrees]

theorem hostFrame_frameOf :
    hostFrame (frameOf plain).header (frameOf plain).payload = {
      channel := field plain 6 1
      type := field plain 7 1
      flags := field plain 8 2
      sessionId := field plain 12 4
      requestId := field plain 16 4
      streamId := field plain 20 4
      sequence := field plain 24 4
      payload := (plain.drop wireHeaderSize).take (field plain 28 4) } := by
  simp only [hostFrame, frameOf, field_one, Device.irisGetLe16_toNat, Device.irisGetLe32_toNat]

theorem host_reads (ok : WellFormed plain) :
    Host.readFrame plain = .ok (hostFrame (frameOf plain).header (frameOf plain).payload) := by
  have count : plain.length - 4 - Host.headerSize = field plain 28 4 := by
    rw [ok.size]
    simp only [wireHeaderSize, Host.headerSize]
    omega
  have magic : plain.take 4 = Host.magic := ok.magic
  have long : ¬ plain.length < Host.headerSize + 4 := not_lt.mpr ok.long
  rw [hostFrame_frameOf, Host.readFrame, if_neg long, if_neg, if_neg, if_neg, if_neg]
  · rw [count]
    rfl
  · exact not_not.mpr ok.checksum
  · exact not_or.mpr ⟨not_lt.mpr ok.bounded, not_not.mpr ok.size⟩
  · refine not_or.mpr ⟨not_not.mpr ok.reserved, ?_⟩
    have channel := ok.channel
    simp only [Host.channelSystemUpdate]
    omega
  · exact not_or.mpr ⟨not_not.mpr magic, not_or.mpr ⟨not_not.mpr ok.version, not_not.mpr ok.headerSize⟩⟩

theorem host_rejects (bad : ¬ WellFormed plain) :
    ∃ reason, Host.readFrame plain = .error reason := by
  rw [Host.readFrame]
  split
  · exact ⟨_, rfl⟩
  next long =>
  split
  · exact ⟨_, rfl⟩
  next start =>
  split
  · exact ⟨_, rfl⟩
  next channel =>
  split
  · exact ⟨_, rfl⟩
  next size =>
  split
  · exact ⟨_, rfl⟩
  next checksum =>
  exfalso
  simp only [not_or, not_not, not_lt, Host.channelSystemUpdate] at long start channel size checksum
  exact bad ⟨long, start.1, start.2.1, start.2.2, by omega, channel.1, size.1, size.2, checksum⟩

theorem frameOf_payload_length (ok : WellFormed plain) :
    (frameOf plain).payload.length = (frameOf plain).header.payloadSize.toNat := by
  have size := ok.size
  simp only [frameOf, List.length_take, List.length_drop, Device.irisGetLe32_toNat]
  omega

theorem plainFrame_fields (payload : List UInt8) (offset width : Nat) (inside : offset + width ≤ wireHeaderSize) :
    field (plainFrame header payload) offset width = field (Device.encodeHeader header) offset width := by
  rw [plainFrame, List.append_assoc]
  exact field_inside _ _ _ _ (by rw [header_length]; exact inside)

theorem packed_fields (channel type flags sessionId requestId streamId sequence size : Nat)
    (small : channel < 256 ∧ type < 256 ∧ flags < 256 ^ 2 ∧ sessionId < 256 ^ 4 ∧ requestId < 256 ^ 4 ∧
      streamId < 256 ^ 4 ∧ sequence < 256 ^ 4 ∧ size < 256 ^ 4) :
    let packed := Host.packHeader channel type flags sessionId requestId streamId sequence size
    field packed 4 1 = 1 ∧ field packed 5 1 = 32 ∧ field packed 6 1 = channel ∧ field packed 7 1 = type ∧
      field packed 8 2 = flags ∧ field packed 10 2 = 0 ∧ field packed 12 4 = sessionId ∧
      field packed 16 4 = requestId ∧ field packed 20 4 = streamId ∧ field packed 24 4 = sequence ∧
      field packed 28 4 = size := by
  obtain ⟨channelFits, typeFits, flagsFit, sessionFits, requestFits, streamFits, sequenceFits, sizeFits⟩ := small
  have last : littleEndian 4 size = littleEndian 4 size ++ [] := (List.append_nil _).symm
  simp only [Host.packHeader, List.append_assoc]
  rw [last]
  have magicLength : Host.magic.length = 4 := rfl
  refine ⟨?_, ?_, ?_, ?_, ?_, ?_, ?_, ?_, ?_, ?_, ?_⟩ <;>
    simp (disch := simp [magicLength]) only [field_skip, magicLength, littleEndian_length, Nat.reduceSub] <;>
    exact field_littleEndian _ _ _ (by first | assumption | decide)

/-- The fields of an encoded header, in wire order from the version on. -/
theorem header_fields (header : WireHeader) :
    let packed := Device.encodeHeader header
    field packed 4 1 = 1 ∧ field packed 5 1 = 32 ∧ field packed 6 1 = header.channel.toNat ∧
      field packed 7 1 = header.type.toNat ∧ field packed 8 2 = header.flags.toNat ∧ field packed 10 2 = 0 ∧
      field packed 12 4 = header.sessionId.toNat ∧ field packed 16 4 = header.requestId.toNat ∧
      field packed 20 4 = header.streamId.toNat ∧ field packed 24 4 = header.sequence.toNat ∧
      field packed 28 4 = header.payloadSize.toNat := by
  rw [header_agrees]
  exact packed_fields _ _ _ _ _ _ _ _ ⟨UInt8.toNat_lt _, UInt8.toNat_lt _, UInt16.toNat_lt _,
    UInt32.toNat_lt _, UInt32.toNat_lt _, UInt32.toNat_lt _, UInt32.toNat_lt _, UInt32.toNat_lt _⟩

def normalized (header : WireHeader) (payload : List UInt8) : WireHeader :=
  { header with payloadSize := UInt32.ofNat payload.length }

theorem normalized_size (payload : List UInt8) (bounded : payload.length ≤ maxPayloadSize) :
    (normalized header payload).payloadSize.toNat = payload.length := by
  have small : payload.length < 2 ^ 32 := by
    simp only [maxPayloadSize] at bounded
    omega
  exact UInt32.toNat_ofNat_of_lt' small

theorem plainFrame_wellFormed (payload : List UInt8) (channel : header.channel < Channel.count)
    (size : header.payloadSize.toNat = payload.length) (bounded : payload.length ≤ maxPayloadSize) :
    WellFormed (plainFrame header payload) := by
  obtain ⟨version, headerSize, onChannel, -, -, reserved, -, -, -, -, payloadSize⟩ := header_fields header
  have length := plainFrame_length header payload
  have covered : (plainFrame header payload).length - 4 = (Device.encodeHeader header ++ payload).length := by
    rw [length, List.length_append, header_length]
    omega
  have declared : field (plainFrame header payload) 28 4 = payload.length := by
    rw [plainFrame_fields _ _ _ _ (by decide), payloadSize, size]
  refine ⟨?_, ?_, ?_, ?_, ?_, ?_, ?_, ?_, ?_⟩
  · omega
  · rw [plainFrame, List.append_assoc]
    rfl
  · rw [plainFrame_fields _ _ _ _ (by decide), version]
  · rw [plainFrame_fields _ _ _ _ (by decide), headerSize]
    rfl
  · rw [plainFrame_fields _ _ _ _ (by decide), onChannel]
    exact UInt8.lt_iff_toNat_lt.mp channel
  · rw [plainFrame_fields _ _ _ _ (by decide), reserved]
  · rw [declared]
    exact bounded
  · rw [declared, length]
  · rw [covered, plainFrame, List.take_left, field_skip _ _ _ _ (le_refl _), Nat.sub_self, ← crc_agrees]
    exact ofLittleEndian_littleEndian 4 _ (UInt32.toNat_lt _)

theorem frameOf_plainFrame (payload : List UInt8) (size : header.payloadSize.toNat = payload.length) :
    frameOf (plainFrame header payload) = ⟨header, payload⟩ := by
  obtain ⟨-, -, channel, type, flags, -, session, request, stream, sequence, payloadSize⟩ := header_fields header
  have reads : ∀ offset width, offset + width ≤ wireHeaderSize →
      field (plainFrame header payload) offset width = field (Device.encodeHeader header) offset width :=
    plainFrame_fields header payload
  have body : (plainFrame header payload).drop wireHeaderSize =
      payload ++ littleEndian 4 (Device.irisCrc32 (Device.encodeHeader header ++ payload) 0).toNat := by
    rw [plainFrame, List.append_assoc]
    exact List.drop_left' (header_length header)
  rw [DecodedFrame.mk.injEq]
  refine ⟨?_, ?_⟩
  · cases header with
    | mk _ _ _ _ _ _ _ _ =>
      simp only [frameOf, WireHeader.mk.injEq, ← UInt8.toNat_inj, ← UInt16.toNat_inj, ← UInt32.toNat_inj,
        ← field_one, Device.irisGetLe16_toNat, Device.irisGetLe32_toNat]
      refine ⟨?_, ?_, ?_, ?_, ?_, ?_, ?_, ?_⟩ <;> rw [reads _ _ (by decide)]
      exacts [channel, type, flags, session, request, stream, sequence, payloadSize]
  · simp only [frameOf, body]
    rw [reads _ _ (by decide), payloadSize, size, List.take_left]

def SameVerdict : Except EspErr DecodedFrame → Except Host.ProtocolError Host.Frame → Prop
  | .ok device, .ok host =>
    host = hostFrame device.header device.payload ∧
      device.payload.length = device.header.payloadSize.toNat
  | .error _, .error _ => True
  | _, _ => False

theorem decoders_agree (encoded beyond : List UInt8) :
    SameVerdict (Device.irisFrameDecodeInPlace (encoded ++ beyond) encoded.length).2
      (Host.decodeFrame encoded) := by
  by_cases outside : encoded = [] ∨ encoded.length ≥ Host.maxWireFrame
  · have device : encoded.length = 0 ∨ encoded.length ≥ maxWireFrameSize := by
      rw [List.length_eq_zero_iff]
      exact outside
    rw [Device.irisFrameDecodeInPlace, if_pos device, Host.decodeFrame, if_pos outside]
    trivial
  have device : ¬ (encoded.length = 0 ∨ encoded.length ≥ maxWireFrameSize) := by
    rwa [List.length_eq_zero_iff]
  rw [Device.irisFrameDecodeInPlace, if_neg device, Host.decodeFrame, if_neg outside]
  cases decoded : Cobs.decode encoded with
  | none =>
    obtain ⟨deviceReason, deviceRejects⟩ := Device.cobsDecodeInPlace_none encoded beyond decoded
    obtain ⟨hostReason, hostRejects⟩ := Host.cobsDecode_none encoded decoded
    rw [hostRejects]
    split
    · trivial
    next accepted => simp [accepted] at deviceRejects
  | some plain =>
    obtain ⟨left, deviceDecodes⟩ := Device.cobsDecodeInPlace_some encoded beyond plain decoded
    rw [deviceDecodes, Host.cobsDecode_some encoded plain decoded]
    simp only [List.append_assoc, device_readFrame_append]
    by_cases ok : WellFormed plain
    · rw [device_reads plain ok, host_reads plain ok]
      exact ⟨rfl, frameOf_payload_length plain ok⟩
    · obtain ⟨deviceReason, deviceRejects⟩ := device_rejects plain ok
      obtain ⟨hostReason, hostRejects⟩ := host_rejects plain ok
      rw [deviceRejects, hostRejects]
      trivial

/-- The device's verdict does not depend on what its buffer holds behind the frame. -/
theorem device_decodes_alone (encoded beyond : List UInt8) :
    (Device.irisFrameDecodeInPlace (encoded ++ beyond) encoded.length).2.toOption =
      (Device.irisFrameDecodeInPlace encoded encoded.length).2.toOption := by
  by_cases outside : encoded.length = 0 ∨ encoded.length ≥ maxWireFrameSize
  · rw [Device.irisFrameDecodeInPlace, Device.irisFrameDecodeInPlace, if_pos outside, if_pos outside]
  rw [Device.irisFrameDecodeInPlace, Device.irisFrameDecodeInPlace, if_neg outside, if_neg outside]
  cases decoded : Cobs.decode encoded with
  | none =>
    have rejects (beyond : List UInt8) := Device.cobsDecodeInPlace_none encoded beyond decoded
    have alone := rejects []
    rw [List.append_nil] at alone
    split
    · split
      · rfl
      next accepted => simp [accepted] at alone
    next decodedSize accepted =>
      obtain ⟨reason, failed⟩ := rejects beyond
      simp [accepted] at failed
  | some plain =>
    obtain ⟨left, decodes⟩ := Device.cobsDecodeInPlace_some encoded beyond plain decoded
    obtain ⟨other, alone⟩ := Device.cobsDecodeInPlace_some encoded [] plain decoded
    simp only [List.append_nil] at alone
    rw [decodes, alone, List.append_assoc]
    exact congrArg Except.toOption
      ((device_readFrame_append plain (left ++ beyond)).trans (device_readFrame_append plain other).symm)

theorem device_decodes_plain (plain beyond : List UInt8) (ok : WellFormed plain)
    (short : (Cobs.encode plain).length < maxWireFrameSize) :
    (Device.irisFrameDecodeInPlace (Cobs.encode plain ++ beyond) (Cobs.encode plain).length).2 =
      .ok (frameOf plain) := by
  have inside : ¬ ((Cobs.encode plain).length = 0 ∨ (Cobs.encode plain).length ≥ maxWireFrameSize) := by
    have nonempty : 0 < (Cobs.encode plain).length := List.length_pos_iff.mpr (Cobs.encodeFrom_ne_nil [] plain)
    omega
  obtain ⟨left, decodes⟩ := Device.cobsDecodeInPlace_some _ beyond plain (Cobs.decode_encode plain)
  rw [Device.irisFrameDecodeInPlace, if_neg inside, decodes]
  simp only [List.append_assoc, device_readFrame_append, device_reads plain ok]

theorem host_decodes_plain (ok : WellFormed plain) (short : (Cobs.encode plain).length < maxWireFrameSize) :
    Host.decodeFrame (Cobs.encode plain) =
      .ok (hostFrame (frameOf plain).header (frameOf plain).payload) := by
  have inside : ¬ (Cobs.encode plain = [] ∨ (Cobs.encode plain).length ≥ Host.maxWireFrame) :=
    not_or.mpr ⟨Cobs.encodeFrom_ne_nil [] plain, not_le.mpr short⟩
  rw [Host.decodeFrame, if_neg inside, Host.cobsDecode_some _ plain (Cobs.decode_encode plain)]
  exact host_reads plain ok

/-- A frame through both encoders and both decoders; `body` is the wire without its delimiter. -/
structure RoundTrip (out : List UInt8) (header : WireHeader) (payload body : List UInt8) : Prop where
  deviceEncodes : Device.irisFrameEncode out out.length header payload = .ok (body ++ [0])
  hostEncodes : Host.encodeFrame (hostFrame header payload) = .ok (body ++ [0])
  noZero : 0 ∉ body
  bounded : (body ++ [0]).length ≤ maxWireFrameSize
  deviceDecodes : ∀ beyond, (Device.irisFrameDecodeInPlace (body ++ beyond) body.length).2 =
    .ok ⟨normalized header payload, payload⟩
  hostDecodes : Host.decodeFrame body = .ok (hostFrame header payload)

theorem roundTrip (out : List UInt8) (header : WireHeader) (payload : List UInt8)
    (buffer : maxWireFrameSize ≤ out.length) (channel : header.channel < Channel.count)
    (bounded : payload.length ≤ maxPayloadSize) :
    RoundTrip out header payload (Cobs.encode (plainFrame (normalized header payload) payload)) := by
  have size := normalized_size header payload bounded
  have fits := plainFrame_fits (normalized header payload) payload bounded
  have short := Nat.lt_of_succ_lt fits
  have ok := plainFrame_wellFormed (normalized header payload) payload channel size bounded
  have frame := frameOf_plainFrame (normalized header payload) payload size
  constructor
  · exact device_encodes out (normalized header payload) payload channel size bounded buffer
  · exact host_encodes (normalized header payload) payload channel size bounded
  · exact Cobs.encode_no_zero _
  · rw [List.length_append]
    exact fits.le
  · intro beyond
    rw [device_decodes_plain _ beyond ok short, frame]
  · rw [host_decodes_plain _ ok short, frame]
    rfl

theorem wireUint_ok {name : String} {value : Int} {bits fits : Nat} (ok : Host.wireUint name value bits = .ok fits) :
    (fits : Int) = value ∧ fits < 2 ^ bits := by
  unfold Host.wireUint at ok
  split at ok
  next bounded =>
    cases ok
    exact ⟨Int.toNat_of_nonneg bounded.1, (Int.toNat_lt bounded.1).mpr (by exact_mod_cast bounded.2)⟩
  next => contradiction

theorem header_of_encodes {frame : Host.Frame} {wire : List UInt8} (encodes : Host.encodeFrame frame = .ok wire) :
    ∃ header : WireHeader, hostFrame header frame.payload = frame ∧ header.channel < Channel.count ∧
      frame.payload.length ≤ maxPayloadSize := by
  unfold Host.encodeFrame at encodes
  simp only [bind, Except.bind, pure, Except.pure, throw, throwThe, MonadExceptOf.throw] at encodes
  split at encodes
  · contradiction
  next short =>
    split at encodes
    · contradiction
    next channel isChannel =>
      split at encodes
      · contradiction
      next inside =>
        iterate 6
          split at encodes
          · contradiction
        next type isType _ flags isFlags _ sessionId isSession _ requestId isRequest _ streamId isStream _ sequence isSequence =>
          obtain ⟨channel_eq, channel_lt⟩ := wireUint_ok isChannel
          obtain ⟨type_eq, type_lt⟩ := wireUint_ok isType
          obtain ⟨flags_eq, flags_lt⟩ := wireUint_ok isFlags
          obtain ⟨session_eq, session_lt⟩ := wireUint_ok isSession
          obtain ⟨request_eq, request_lt⟩ := wireUint_ok isRequest
          obtain ⟨stream_eq, stream_lt⟩ := wireUint_ok isStream
          obtain ⟨sequence_eq, sequence_lt⟩ := wireUint_ok isSequence
          refine ⟨⟨UInt8.ofNat channel, UInt8.ofNat type, UInt16.ofNat flags, UInt32.ofNat sessionId,
            UInt32.ofNat requestId, UInt32.ofNat streamId, UInt32.ofNat sequence, 0⟩, ?_, ?_, ?_⟩
          · simp only [hostFrame, UInt8.toNat_ofNat_of_lt' channel_lt, UInt8.toNat_ofNat_of_lt' type_lt,
              UInt16.toNat_ofNat_of_lt' flags_lt, UInt32.toNat_ofNat_of_lt' session_lt,
              UInt32.toNat_ofNat_of_lt' request_lt, UInt32.toNat_ofNat_of_lt' stream_lt,
              UInt32.toNat_ofNat_of_lt' sequence_lt, channel_eq, type_eq, flags_eq, session_eq, request_eq, stream_eq,
              sequence_eq]
          · refine UInt8.lt_iff_toNat_lt.mpr ?_
            rw [UInt8.toNat_ofNat_of_lt' channel_lt]
            exact Nat.lt_succ_of_le (not_lt.mp inside)
          · exact not_lt.mp short

theorem device_decodes_encoded {frame : Host.Frame} {body : List UInt8} {decoded : DecodedFrame}
    (encodes : Host.encodeFrame frame = .ok (body ++ [0]))
    (decodes : (Device.irisFrameDecodeInPlace body body.length).2 = .ok decoded) :
    hostFrame decoded.header decoded.payload = frame := by
  obtain ⟨header, same, channel, bounded⟩ := header_of_encodes encodes
  have trip := roundTrip (List.replicate maxWireFrameSize 0) header frame.payload (List.length_replicate).ge channel bounded
  have isBody := trip.hostEncodes
  rw [same, encodes] at isBody
  have bodies := List.append_cancel_right (Except.ok.inj isBody)
  have reads := trip.hostDecodes
  rw [same, ← bodies] at reads
  have agree := decoders_agree body []
  rw [List.append_nil, decodes, reads] at agree
  exact agree.1.symm

/-- The codecs agree on what they produce, on what they accept and on the checksum. -/
theorem codecs_agree :
    (∀ out header payload, maxWireFrameSize ≤ out.length → header.channel < Channel.count →
      payload.length ≤ maxPayloadSize → ∃ body, RoundTrip out header payload body) ∧
    (∀ encoded beyond, SameVerdict (Device.irisFrameDecodeInPlace (encoded ++ beyond) encoded.length).2
      (Host.decodeFrame encoded)) ∧
    (∀ header payload, Device.irisCrc32 payload (Device.irisCrc32 header 0) =
      Device.irisCrc32 (header ++ payload) 0 ∧
      (Device.irisCrc32 (header ++ payload) 0).toNat = Host.zlibCrc32 (header ++ payload)) := by
  refine ⟨?_, decoders_agree, ?_⟩
  · intro out header payload buffer channel bounded
    exact ⟨_, roundTrip out header payload buffer channel bounded⟩
  · intro header payload
    exact ⟨Device.irisCrc32_append header payload 0, crc_agrees _⟩

/-- The agreement at a PING without payload. -/
theorem codecs_agree_ping :
    ∃ body, RoundTrip (List.replicate 4096 0) ⟨Channel.control, ControlType.ping, 0, 7, 1, 0, 0, 0⟩ [] body :=
  codecs_agree.1 _ _ _ (List.length_replicate ▸ le_refl _) (by decide) (by decide)

end EspIris.Codec
