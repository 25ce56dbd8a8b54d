import EspIris.Codec.Host
import EspIris.Gateway.Session

/-! The gateway's side of a core dump: `crash_report`, `read_core_dump_chunk` and the loop of `preserve_coredump`, for
any way in which requests are answered. -/

namespace EspIris.Gateway.CoreDump
open Bytes
open Codec.Host (Frame ProtocolError)

namespace CoreTag
def previousBootCrash : UInt8 := 0x30
def coreDumpPresent : UInt8 := 0x31
def coreDumpValid : UInt8 := 0x32
def coreDumpSize : UInt8 := 0x33
def coreDumpElfSha256 : UInt8 := 0x34
def coreDumpElfSha256Complete : UInt8 := 0x35
def panicReason : UInt8 := 0x36
def coreDumpChunkMax : UInt8 := 0x37
def crashLoopTriggered : UInt8 := 0x3a
end CoreTag

inductive DumpError
  | valueError (message : String)
  | protocolError (error : ProtocolError)
  | runtimeError (message : String)
  | deviceError (code : Nat)

/-- How a request with a type of the crash channel and a payload is answered, which is `_request`. -/
abbrev Requests (World : Type) := UInt8 → List UInt8 → World → Except DumpError Frame × World

/-- What `crash_report` returns; a text stays the bytes it is decoded from. -/
structure CrashReport where
  deviceId : DeviceId
  bootId : Nat
  sessionId : Int
  resetReason : Nat
  previousBootCrash : Bool
  crashCount : Nat
  crashLimit : Nat
  crashLoopTriggered : Bool
  crashRecoveryPending : Bool
  crashOriginResetReason : Nat
  crashFailedAppAddress : Nat
  crashFailedFirmwareSha256 : List UInt8
  crashStateError : Nat
  coreDumpPresent : Bool
  coreDumpValid : Bool
  coreDumpSize : Nat
  coreDumpChunkMax : Nat
  coreDumpElfSha256 : List UInt8
  coreDumpElfSha256Complete : Bool
  firmwareSha256 : List UInt8
  firmwareShaMatches : Bool
  decodeEligible : Bool
  panicReason : List UInt8

/-- The digits of `bytes.hex()`. -/
def hexDigits (bytes : List UInt8) : List UInt8 :=
  bytes.flatMap fun byte => [byte / 16, byte % 16].map fun digit => if digit < 10 then 0x30 + digit else 0x57 + digit

def reportOf (info : DeviceInfo) (fields : Fields) : CrashReport :=
  let coreSha := bytesField fields CoreTag.coreDumpElfSha256
  -- `DeviceInfo` keeps the digest itself, the source its digits.
  let shaMatches := coreSha ≠ [] && coreSha.isPrefixOf (hexDigits info.firmwareSha256)
  let shaComplete := tlvU8 fields CoreTag.coreDumpElfSha256Complete ≠ 0
  { deviceId := info.deviceId
    bootId := tlvU64 fields TlvTag.bootId info.bootId
    sessionId := info.sessionId
    resetReason := tlvU32 fields TlvTag.resetReason 0
    previousBootCrash := tlvU8 fields CoreTag.previousBootCrash ≠ 0
    crashCount := tlvU32 fields TlvTag.crashCount 0
    crashLimit := tlvU32 fields TlvTag.crashLimit 0
    crashLoopTriggered := tlvU8 fields CoreTag.crashLoopTriggered ≠ 0
    crashRecoveryPending := tlvU8 fields TlvTag.crashRecoveryPending ≠ 0
    crashOriginResetReason := tlvU32 fields TlvTag.crashOriginResetReason 0
    crashFailedAppAddress := tlvU32 fields TlvTag.crashFailedAppAddress 0
    crashFailedFirmwareSha256 := bytesField fields TlvTag.crashFailedFirmwareSha256
    crashStateError := tlvU32 fields TlvTag.crashStateError 0
    coreDumpPresent := tlvU8 fields CoreTag.coreDumpPresent ≠ 0
    coreDumpValid := tlvU8 fields CoreTag.coreDumpValid ≠ 0
    coreDumpSize := tlvU32 fields CoreTag.coreDumpSize 0
    coreDumpChunkMax := tlvU32 fields CoreTag.coreDumpChunkMax 1024
    coreDumpElfSha256 := coreSha
    coreDumpElfSha256Complete := shaComplete
    firmwareSha256 := info.firmwareSha256
    firmwareShaMatches := shaMatches
    decodeEligible := shaComplete && shaMatches
    panicReason := bytesField fields CoreTag.panicReason }

section session
variable {World : Type} (request : Requests World)

/-- `crash_report`; `_crash_chunk_max` becomes what the report says. -/
def crashReport (info : DeviceInfo) (world : World) : Except DumpError CrashReport × World :=
  match request CrashType.metadataRequest [] world with
  | (.error error, world) => (.error error, world)
  | (.ok frame, world) =>
    if frame.channel ≠ Channel.crash.toNat ∨ frame.type ≠ CrashType.metadataResponse.toNat then
      (.error (.protocolError ⟨"unexpected crash metadata response"⟩), world)
    else match decodeTlv frame.payload with
      | .error error => (.error (.protocolError error), world)
      | .ok fields => (.ok (reportOf info fields), world)

/-- What `read_core_dump_chunk` makes of the answer. -/
def chunkOf (offset : Nat) (frame : Frame) : Except DumpError (Nat × List UInt8) :=
  if frame.channel ≠ Channel.crash.toNat ∨ frame.type ≠ CrashType.readResponse.toNat then
    .error (.protocolError ⟨"unexpected coredump read response"⟩)
  else if frame.payload.length < 8 then .error (.protocolError ⟨"short coredump read response"⟩)
  else if field frame.payload 0 4 ≠ offset then .error (.protocolError ⟨"coredump offset mismatch"⟩)
  else .ok (field frame.payload 4 4, frame.payload.drop 8)

theorem chunkOf_answer {offset total : Nat} {bytes : List UInt8} {frame : Frame}
    (channel : frame.channel = Channel.crash.toNat) (type : frame.type = CrashType.readResponse.toNat)
    (payload : frame.payload = littleEndian 4 offset ++ littleEndian 4 total ++ bytes) (offset_lt : offset < 2 ^ 32)
    (total_lt : total < 2 ^ 32) : chunkOf offset frame = .ok (total, bytes) := by
  have header : (littleEndian 4 offset ++ littleEndian 4 total).length = 8 := by
    rw [List.length_append, littleEndian_length, littleEndian_length]
  have isOffset : field frame.payload 0 4 = offset := by
    rw [payload, List.append_assoc, field_littleEndian 4 offset _ offset_lt]
  have isTotal : field frame.payload 4 4 = total := by
    rw [payload, List.append_assoc, field_skip _ _ _ _ (littleEndian_length 4 offset).le, littleEndian_length,
      Nat.sub_self, field_littleEndian 4 total _ total_lt]
  have rest : frame.payload.drop 8 = bytes := by
    rw [payload, List.drop_left' header]
  have long : ¬ frame.payload.length < 8 := by
    rw [payload, List.length_append, header]
    omega
  unfold chunkOf
  rw [channel, type, if_neg (by decide), if_neg long, isOffset, if_neg (not_not.mpr rfl), isTotal, rest]

def readCoreDumpChunk (crashChunkMax offset maximum : Nat) (world : World) :
    Except DumpError (Nat × List UInt8) × World :=
  if offset > 0xffffffff ∨ maximum < 1 ∨ maximum > 2048 then
    (.error (.valueError "invalid coredump chunk range"), world)
  else
    let maximum := min maximum crashChunkMax
    match request CrashType.readRequest (littleEndian 4 offset ++ littleEndian 2 maximum ++ littleEndian 2 0) world with
    | (.error error, world) => (.error error, world)
    | (.ok frame, world) => (chunkOf offset frame, world)

/-- The loop of `preserve_coredump`. -/
def preserveLoop (chunkMax total : Nat) (data : List UInt8) (world : World) : Except DumpError (List UInt8) × World :=
  if data.length < total then
    match readCoreDumpChunk request chunkMax data.length (min chunkMax (total - data.length)) world with
    | (.error error, world) => (.error error, world)
    | (.ok (returnedTotal, chunk), world) =>
      if returnedTotal ≠ total ∨ chunk = [] then
        (.error (.runtimeError "coredump preservation stopped before completion"), world)
      else preserveLoop chunkMax total (data ++ chunk) world
  else (.ok data, world)
termination_by total - data.length
decreasing_by
  have grows : 0 < chunk.length := List.length_pos_iff.mpr fun empty => ‹¬ (_ ∨ chunk = [])› (.inr empty)
  rw [List.length_append]
  omega

/-- `preserve_coredump`, up to the bytes that it has stored. -/
def preserveCoredump (info : DeviceInfo) (world : World) : Except DumpError (Option (List UInt8)) × World :=
  match crashReport request info world with
  | (.error error, world) => (.error error, world)
  | (.ok report, world) =>
    if report.coreDumpPresent = false ∨ report.coreDumpValid = false then (.ok none, world)
    else
      match preserveLoop request report.coreDumpChunkMax report.coreDumpSize [] world with
      | (.error error, world) => (.error error, world)
      | (.ok data, world) => (.ok (some data), world)

end session

end EspIris.Gateway.CoreDump
