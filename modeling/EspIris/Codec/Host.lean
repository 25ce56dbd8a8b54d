import EspIris.Lib.Bytes
import EspIris.Lib.Cobs
import EspIris.Lib.Crc32

/-! The frame codec of the gateway, `iris_gateway/protocol.py`. Python integers are `Int`;
an exception is the message it is raised with. -/

namespace EspIris.Codec.Host
open Bytes

structure ProtocolError where
  message : String
  deriving DecidableEq

/-- `Frame`. -/
structure Frame where
  channel : Int
  type : Int
  flags : Int
  sessionId : Int
  requestId : Int
  streamId : Int
  sequence : Int
  payload : List UInt8
  deriving DecidableEq

def magic : List UInt8 := [0x49, 0x52, 0x49, 0x53]
def version : Nat := 1
def headerSize : Nat := 32
def maxPayload : Nat := 4000
def maxWireFrame : Nat := 4096
def channelSystemUpdate : Nat := 9

def wireUint (name : String) (value : Int) (bits : Nat) : Except ProtocolError Nat :=
  if 0 ≤ value ∧ value < 2 ^ bits then .ok value.toNat
  else .error ⟨name ++ " does not fit in u" ++ toString bits⟩

/-- The local variables of `cobs_encode`. -/
structure CobsOutput where
  output : List UInt8
  codeOffset : Nat
  code : Nat

/-- `output[code_offset] = code`, then a new block behind a placeholder. -/
def CobsOutput.cut (state : CobsOutput) : CobsOutput where
  output := state.output.set state.codeOffset (UInt8.ofNat state.code) ++ [0]
  codeOffset := state.output.length
  code := 1

def cobsEncodeByte (state : CobsOutput) (value : UInt8) : CobsOutput :=
  if value = 0 then state.cut
  else
    let grown := { state with output := state.output ++ [value], code := state.code + 1 }
    if grown.code = 0xff then grown.cut else grown

def cobsEncode (data : List UInt8) : List UInt8 :=
  let state := data.foldl cobsEncodeByte { output := [0], codeOffset := 0, code := 1 }
  state.output.set state.codeOffset (UInt8.ofNat state.code)

/-- The loop of `cobs_decode` from `offset` with the output so far. -/
def cobsDecodeLoop (data : List UInt8) (offset : Nat) (output : List UInt8) :
    Except ProtocolError (List UInt8) :=
  if offset < data.length then
    let code := (byteAt data offset).toNat
    if code = 0 then .error ⟨"zero byte inside COBS frame"⟩
    else
      let count := code - 1
      let stop := offset + 1 + count
      if stop > data.length then .error ⟨"truncated COBS block"⟩
      else
        let output := output ++ (data.drop (offset + 1)).take count
        cobsDecodeLoop data stop (if code ≠ 0xff ∧ stop < data.length then output ++ [0] else output)
  else .ok output
  termination_by data.length - offset

def cobsDecode (data : List UInt8) : Except ProtocolError (List UInt8) := cobsDecodeLoop data 0 []

/-- `zlib.crc32` of the standard library: the CRC-32 of zlib, driven by its byte table. -/
def zlibCrc32 (data : List UInt8) : Nat :=
  (~~~ (data.foldl (fun register byte => Crc32.tableByte register byte.toBitVec)
    (0xffffffff#32))).toNat

/-- `HEADER.pack` with the format `<4sBBBBHHIIIII`. -/
def packHeader (channel type flags sessionId requestId streamId sequence size : Nat) : List UInt8 :=
  magic ++ littleEndian 1 version ++ littleEndian 1 headerSize ++ littleEndian 1 channel ++
    littleEndian 1 type ++ littleEndian 2 flags ++ littleEndian 2 0 ++ littleEndian 4 sessionId ++
    littleEndian 4 requestId ++ littleEndian 4 streamId ++ littleEndian 4 sequence ++
    littleEndian 4 size

def encodeFrame (frame : Frame) : Except ProtocolError (List UInt8) := do
  if frame.payload.length > maxPayload then
    throw ⟨"payload exceeds " ++ toString maxPayload ++ " bytes"⟩
  let channel ← wireUint "channel" frame.channel 8
  if channel > channelSystemUpdate then throw ⟨"invalid channel"⟩
  let type ← wireUint "type" frame.type 8
  let flags ← wireUint "flags" frame.flags 16
  let sessionId ← wireUint "session_id" frame.sessionId 32
  let requestId ← wireUint "request_id" frame.requestId 32
  let streamId ← wireUint "stream_id" frame.streamId 32
  let sequence ← wireUint "sequence" frame.sequence 32
  let plain := packHeader channel type flags sessionId requestId streamId sequence
    frame.payload.length ++ frame.payload
  let wire := cobsEncode (plain ++ littleEndian 4 (zlibCrc32 plain)) ++ [0]
  if wire.length > maxWireFrame then throw ⟨"encoded frame exceeds wire buffer"⟩
  return wire

/-- The checks of `decode_frame` on the unstuffed bytes. -/
def readFrame (plain : List UInt8) : Except ProtocolError Frame :=
  if plain.length < headerSize + 4 then .error ⟨"frame is shorter than header and CRC"⟩
  else if plain.take 4 ≠ magic ∨ field plain 4 1 ≠ version ∨ field plain 5 1 ≠ headerSize then
    .error ⟨"unsupported frame header"⟩
  else if field plain 10 2 ≠ 0 ∨ field plain 6 1 > channelSystemUpdate then
    .error ⟨"invalid reserved field or channel"⟩
  else if field plain 28 4 > maxPayload ∨ plain.length ≠ headerSize + field plain 28 4 + 4 then
    .error ⟨"payload size mismatch"⟩
  else if field plain (plain.length - 4) 4 ≠ zlibCrc32 (plain.take (plain.length - 4)) then
    .error ⟨"CRC32 mismatch"⟩
  else .ok {
    channel := field plain 6 1
    type := field plain 7 1
    flags := field plain 8 2
    sessionId := field plain 12 4
    requestId := field plain 16 4
    streamId := field plain 20 4
    sequence := field plain 24 4
    payload := (plain.drop headerSize).take (plain.length - 4 - headerSize) }

def decodeFrame (encoded : List UInt8) : Except ProtocolError Frame :=
  if encoded = [] ∨ encoded.length ≥ maxWireFrame then .error ⟨"invalid encoded frame size"⟩
  else
    match cobsDecode encoded with
    | .error reason => .error reason
    | .ok plain => readFrame plain

/-- The variables hold `done` and an open block behind its placeholder. -/
structure Holds (state : CobsOutput) (done block : List UInt8) : Prop where
  output : ∃ slot, state.output = done ++ slot :: block
  codeOffset : state.codeOffset = done.length
  code : state.code = block.length + 1

theorem Holds.close {state : CobsOutput} {done block : List UInt8} (holds : Holds state done block) :
    state.output.set state.codeOffset (UInt8.ofNat state.code) = done ++ Cobs.blockCode block :: block := by
  obtain ⟨slot, output⟩ := holds.output
  rw [output, holds.codeOffset, holds.code]
  simp [Cobs.blockCode]

theorem Holds.cut {state : CobsOutput} {done block : List UInt8} (holds : Holds state done block) :
    Holds state.cut (done ++ Cobs.blockCode block :: block) [] := by
  have closed := holds.close
  obtain ⟨slot, output⟩ := holds.output
  refine ⟨⟨0, ?_⟩, ?_, rfl⟩
  · rw [CobsOutput.cut, closed]
  · simp [CobsOutput.cut, output]

theorem Holds.grow {state : CobsOutput} {done block : List UInt8} (holds : Holds state done block)
    (value : UInt8) :
    Holds { state with output := state.output ++ [value], code := state.code + 1 } done (block ++ [value]) := by
  obtain ⟨slot, output⟩ := holds.output
  exact ⟨⟨slot, by simp [output]⟩, holds.codeOffset, by simp [holds.code]⟩

theorem cobsEncode_fold (message : List UInt8) (state : CobsOutput) (done block : List UInt8)
    (holds : Holds state done block) :
    (message.foldl cobsEncodeByte state).output.set (message.foldl cobsEncodeByte state).codeOffset
      (UInt8.ofNat (message.foldl cobsEncodeByte state).code) = done ++ Cobs.encodeFrom block message := by
  induction message generalizing state done block with
  | nil =>
    rw [List.foldl_nil, holds.close, Cobs.encodeFrom]
  | cons value rest ih =>
    rw [List.foldl_cons]
    by_cases zero : value = 0
    · subst zero
      rw [cobsEncodeByte, if_pos rfl, ih _ _ _ holds.cut, Cobs.encodeFrom_zero, List.append_assoc]
    have grown := holds.grow value
    by_cases full : (block ++ [value]).length = Cobs.fullBlock
    · have code : state.code + 1 = 0xff := by
        have size := grown.code
        simp only [full] at size
        exact size
      rw [cobsEncodeByte, if_neg zero]
      simp only [if_pos code]
      rw [ih _ _ _ grown.cut, Cobs.encodeFrom_full _ _ _ zero full, List.append_assoc]
    · have code : ¬ state.code + 1 = 0xff := by
        intro same
        have size := grown.code
        simp only [same] at size
        exact full (by simp only [Cobs.fullBlock]; omega)
      rw [cobsEncodeByte, if_neg zero]
      simp only [if_neg code]
      rw [ih _ _ _ grown, Cobs.encodeFrom_open _ _ _ zero full]

theorem cobsEncode_eq (message : List UInt8) : cobsEncode message = Cobs.encode message := by
  have start : Holds { output := [0], codeOffset := 0, code := 1 } [] [] := ⟨⟨0, rfl⟩, rfl, rfl⟩
  simpa [cobsEncode, Cobs.encode] using cobsEncode_fold message _ [] [] start

def LoopMeets (result : Except ProtocolError (List UInt8)) (output : List UInt8) :
    Option (List UInt8) → Prop
  | none => ∃ reason, result = .error reason
  | some decoded => result = .ok (output ++ decoded)

theorem LoopMeets.block {result : Except ProtocolError (List UInt8)} {output done : List UInt8}
    {decoded : Option (List UInt8)} (meets : LoopMeets result (output ++ done) decoded) :
    LoopMeets result output (decoded.map fun tail => done ++ tail) := by
  cases decoded with
  | none => exact meets
  | some tail => simpa [LoopMeets] using meets

theorem cobsDecodeLoop_spec (unread seen output : List UInt8) :
    LoopMeets (cobsDecodeLoop (seen ++ unread) seen.length output) output (Cobs.decode unread) := by
  induction bound : unread.length using Nat.strongRecOn generalizing unread seen output with
  | ind count ih =>
    cases unread with
    | nil =>
      rw [cobsDecodeLoop, if_neg (by simp), Cobs.decode_nil]
      simp [LoopMeets]
    | cons code rest =>
      have reads : byteAt (seen ++ code :: rest) seen.length = code := by simp [byteAt]
      have more : seen.length < (seen ++ code :: rest).length := by simp
      have isZero : code.toNat = 0 ↔ code = 0 := by rw [← UInt8.toNat_inj]; simp
      rw [cobsDecodeLoop, if_pos more, Cobs.decode_cons]
      simp only [reads, isZero]
      by_cases zero : code = 0
      · simp only [if_pos zero]
        exact ⟨_, rfl⟩
      have room : seen.length + 1 + (code.toNat - 1) > (seen ++ code :: rest).length ↔
          code.toNat - 1 > rest.length := by
        simp only [List.length_append, List.length_cons]
        omega
      by_cases long : code.toNat - 1 > rest.length
      · simp only [if_neg zero, if_pos (room.mpr long), if_pos long]
        exact ⟨_, rfl⟩
      simp only [if_neg zero, if_neg (fun test => long (room.mp test)), if_neg long]
      generalize copied : code.toNat - 1 = copySize at long ⊢
      obtain ⟨block, after, cut, blockSize⟩ : ∃ block after, rest = block ++ after ∧ block.length = copySize :=
        ⟨rest.take copySize, rest.drop copySize, (List.take_append_drop _ _).symm, by simp; omega⟩
      subst cut
      have taken : (block ++ after).take copySize = block := by simp [← blockSize]
      have dropped : (block ++ after).drop copySize = after := by simp [← blockSize]
      have unseen : (seen ++ code :: (block ++ after)).drop (seen.length + 1) = block ++ after := by simp
      have stop : seen.length + 1 + copySize = (seen ++ code :: block).length := by
        simp [← blockSize]
        omega
      have data : seen ++ code :: (block ++ after) = seen ++ code :: block ++ after := by simp
      have smaller : after.length < count := by
        rw [← bound]
        simp only [List.length_append, List.length_cons]
        omega
      have last : (seen ++ code :: block).length < (seen ++ code :: block ++ after).length ↔ after ≠ [] := by
        cases after <;> simp
      have notFull : code.toNat ≠ 0xff ↔ code ≠ 0xff := by
        rw [ne_eq, ne_eq, ← UInt8.toNat_inj]
        simp
      rw [taken, dropped, unseen, taken, stop, data]
      by_cases zeroAfter : code ≠ 0xff ∧ after ≠ []
      · have separated : Cobs.separator code after = [0] := by simp [Cobs.separator, zeroAfter]
        have step := ih after.length smaller after (seen ++ code :: block) (output ++ block ++ [0]) rfl
        rw [if_pos ⟨notFull.mpr zeroAfter.1, last.mpr zeroAfter.2⟩, separated]
        rw [List.append_assoc output block [0]] at step ⊢
        exact step.block
      · have separated : Cobs.separator code after = [] := by simp [Cobs.separator, zeroAfter]
        have step := ih after.length smaller after (seen ++ code :: block) (output ++ block) rfl
        rw [if_neg (fun test => zeroAfter ⟨notFull.mp test.1, last.mp test.2⟩), separated, List.append_nil]
        exact step.block

theorem cobsDecode_none (data : List UInt8) (rejected : Cobs.decode data = none) :
    ∃ reason, cobsDecode data = .error reason := by
  have meets := cobsDecodeLoop_spec data [] []
  rw [rejected] at meets
  simpa [cobsDecode, LoopMeets] using meets

theorem cobsDecode_some (data plain : List UInt8) (decoded : Cobs.decode data = some plain) :
    cobsDecode data = .ok plain := by
  have meets := cobsDecodeLoop_spec data [] []
  rw [decoded] at meets
  simpa [cobsDecode, LoopMeets] using meets

theorem wireUint_of_fits (name : String) (value bits : Nat) (fits : value < 2 ^ bits) :
    wireUint name value bits = .ok value := by
  have range : (0 : Int) ≤ value ∧ (value : Int) < 2 ^ bits := by
    refine ⟨Int.natCast_nonneg _, ?_⟩
    exact_mod_cast fits
  rw [wireUint, if_pos range, Int.toNat_natCast]

end EspIris.Codec.Host
