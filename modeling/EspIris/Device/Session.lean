import EspIris.Device.Runtime
import EspIris.Device.Transport

/-! What the protocol task does to the runtime in one call: opening and closing a session,
authenticating its host, receiving bytes, and building the frames it sends on its own. -/

namespace EspIris.Device
open Codec.Device

namespace EventType
def boot : UInt8 := 0x01
def healthy : UInt8 := 0x03
def plannedRestart : UInt8 := 0x04
def linkReady : UInt8 := 0x05
def previousBootCrash : UInt8 := 0x06
def recoveryEntered : UInt8 := 0x07
def coreDumpAvailable : UInt8 := 0x08
def crashLoopDetected : UInt8 := 0x09
end EventType

def helloIntervalUs : Int := 1000 * 1000
def helloPayloadSize : Nat := 512
def logPayloadHeaderSize : UInt32 := 16
def authNonceBytes : Nat := 16
def authProofBytes : Nat := 32
def authChallengeBytes : Nat := 32
def tlvAuthChallenge : UInt8 := 0x40
def mediaLatestBytes : Nat := 3840

def scheduleEvent (runtime : Runtime) (type : UInt8) : Runtime :=
  if type = 0 ∨ type ≥ 32 then runtime
  else { runtime with pendingEvents := fun other => other = type || runtime.pendingEvents other }

def scheduleSessionEvents (runtime : Runtime) : Runtime :=
  let types := [EventType.boot, EventType.linkReady] ++
    (if runtime.previousBootCrash then [EventType.previousBootCrash] else []) ++
    (if runtime.coreDumpPresent then [EventType.coreDumpAvailable] else []) ++
    (if runtime.crashLoopTriggered then [EventType.crashLoopDetected] else []) ++
    (if runtime.healthy then [EventType.healthy] else [])
  types.foldl scheduleEvent runtime

def nextPendingEvent (runtime : Runtime) : Option UInt8 :=
  [EventType.boot, EventType.linkReady, EventType.previousBootCrash, EventType.coreDumpAvailable,
    EventType.crashLoopDetected, EventType.healthy, EventType.plannedRestart, EventType.recoveryEntered].find?
    runtime.pendingEvents

/-- `queue_event`, with the fields of the event already encoded. -/
def queueEvent (runtime : Runtime) (type : UInt8) (body : List UInt8) : Runtime :=
  let queued := queueFrame runtime ⟨Channel.event, type, Flag.reliable, 0, 0, body⟩
  if queued.2 = EspErr.ok then
    { queued.1 with pendingEvents := fun other => other ≠ type && queued.1.pendingEvents other }
  else queued.1

def queueNextLog (runtime : Runtime) (record : Option (List UInt8)) : Runtime :=
  match record with
  | none => runtime
  | some payload =>
    if runtime.logCredit < logPayloadHeaderSize ∨ payload.length > runtime.logCredit.toNat then runtime
    else
      let queued := queueFrame runtime ⟨Channel.log, 0x01, 0, 0, 0, payload⟩
      if queued.2 = EspErr.ok then
        { queued.1 with logCredit := queued.1.logCredit - UInt32.ofNat payload.length }
      else queued.1

/-- The fields of `iris_media_slot_t` that a DATA frame is built from; the buffer is as long as
its size says. -/
structure MediaSlot where
  active : Bool
  pending : Bool
  data : Option (List UInt8)
  fits : ∀ bytes, data = some bytes → bytes.length ≤ mediaLatestBytes
  credit : Nat
  monotonicUs : UInt64
  frameId : UInt32
  dropped : UInt32
  flags : UInt16
  description : List UInt16
  stride : UInt32
  streamId : UInt32

def MediaSlot.ready (slot : MediaSlot) : Option (List UInt8) :=
  match slot.data with
  | none => none
  | some bytes =>
    let header := irisPutLe64 slot.monotonicUs ++ irisPutLe32 slot.frameId ++ irisPutLe32 slot.dropped ++
      irisPutLe16 slot.flags ++ irisPutLe16 (UInt16.ofNat bytes.length) ++
      (slot.description.take 4).flatMap irisPutLe16 ++ irisPutLe32 slot.stride ++
      ((slot.description.drop 4).take 2).flatMap irisPutLe16
    let payload := header ++ bytes
    if slot.active ∧ slot.pending ∧ payload.length ≤ slot.credit then some payload else none

def readySlot : List MediaSlot → UInt8 → Option (UInt8 × MediaSlot × List UInt8)
  | [], _ => none
  | slot :: slots, channel =>
    match slot.ready with
    | some payload => some (channel, slot, payload)
    | none => readySlot slots (channel + 1)

def Runtime.scribble (runtime : Runtime) (bytes : List UInt8) : Runtime :=
  { runtime with rxWire := bytes ++ runtime.rxWire.drop bytes.length }

/-- `queue_media`, over the slots as the application left them. -/
def queueMedia (runtime : Runtime) (slots : List MediaSlot) : Runtime :=
  match readySlot slots Channel.screen with
  | none => runtime
  | some (channel, slot, payload) =>
    (queueFrame (runtime.scribble payload) ⟨channel, MediaType.data, 0, 0, slot.streamId, payload⟩).1

def authLabel : List UInt8 :=
  [0x45, 0x53, 0x50, 0x2d, 0x49, 0x72, 0x69, 0x73, 0x2d, 0x61, 0x75, 0x74, 0x68, 0x2d, 0x76, 0x31]

def authMessage (runtime : Runtime) (challenge nonce : List UInt8) : List UInt8 :=
  authLabel ++ runtime.deviceId ++ irisPutLe64 runtime.bootId ++ irisPutLe32 runtime.sessionId ++ challenge ++ nonce

/-- `iris_services_authenticate`; the delays after a failure only take time. -/
def irisServicesAuthenticate (config : Config) (kind : Option TransportKind) (runtime : Runtime)
    (challenge payload : List UInt8) (psaSucceeds : Bool) : EspErr :=
  match config.pairing with
  | none => if payload = [] then EspErr.ok else EspErr.invalidSize
  | some token =>
    if kind ≠ some .tcp then if payload = [] then EspErr.ok else EspErr.invalidSize
    else if payload.length ≠ authNonceBytes + authProofBytes then EspErr.invalidArg
    else
      let expected := config.hmac token (authMessage runtime challenge (payload.take authNonceBytes))
      if psaSucceeds = false ∨ expected.length ≠ authProofBytes ∨ expected ≠ payload.drop authNonceBytes then
        EspErr.invalidCrc
      else EspErr.ok

def irisServicesAuthMode (config : Config) (kind : Option TransportKind) : UInt8 :=
  if config.pairing.isSome ∧ kind = some .tcp then 1 else 0

def irisServicesAuthChallenge (config : Config) (kind : Option TransportKind) (challenge : List UInt8) :
    Option (List UInt8) :=
  if config.pairing.isSome ∧ kind = some .tcp then some challenge else none

def helloPayload (fields : List UInt8) : Option (List UInt8) → List UInt8
  | some challenge => fields ++ tlvAuthChallenge :: irisPutLe16 (UInt16.ofNat challenge.length) ++ challenge
  | none => fields

def queueHello (runtime : Runtime) (fields : List UInt8) (challenge : Option (List UInt8)) : Runtime × EspErr :=
  if (helloPayload fields challenge).length > helloPayloadSize then (runtime, EspErr.invalidSize)
  else
    queueFrame runtime
      ⟨Channel.control, ControlType.hello, Flag.reliable, 0, 0, helloPayload fields challenge⟩

/-- `begin_session` up to the call of the services. -/
def beginSession (runtime : Runtime) (session : UInt32) : Option Runtime :=
  (transitionSession runtime .linkUp).map fun linked =>
    { linked with
      sessionId := session
      sequence := fun _ => 0
      rxSequenceSeen := fun _ => false
      pendingEvents := fun _ => false
      logCredit := 0
      nextHelloUs := 0
      rxWireLength := 0
      rxPending := []
      rxPendingOffset := 0
      rxDiscarding := false
      disconnectAfterTx := false
      txWire := []
      txWireOffset := 0
      linkCount := linked.linkCount + 1 }

/-- `end_session` after the call of the services. -/
def endSession (runtime : Runtime) : Runtime :=
  { (transitionSession runtime .linkDown).getD runtime with
    pendingEvents := fun _ => false
    sessionId := 0
    logCredit := 0
    rxWireLength := 0
    rxPending := []
    rxPendingOffset := 0
    rxDiscarding := false
    disconnectAfterTx := false
    txWire := []
    txWireOffset := 0 }

/-- One turn of `feed_rx`: the byte is kept, dropped, or completes a wire frame, whose decoding
then leaves its trace in the buffer. -/
def receiveByte (runtime : Runtime) (value : UInt8) : Runtime × Option (Except EspErr DecodedFrame) :=
  if value = 0 then
    if runtime.rxDiscarding then ({ runtime with rxDiscarding := false, rxWireLength := 0 }, none)
    else if runtime.rxWireLength = 0 then (runtime, none)
    else
      let decoded := irisFrameDecodeInPlace runtime.rxWire runtime.rxWireLength
      ({ runtime with rxWire := decoded.1 }, some decoded.2)
  else if runtime.rxDiscarding then (runtime, none)
  else if runtime.rxWireLength ≥ maxWireFrameSize - 1 then
    ({ runtime with
      rxDiscarding := true
      rxWireLength := 0
      invalidFrames := runtime.invalidFrames + 1 }, none)
  else
    ({ runtime with
      rxWire := runtime.rxWire.set runtime.rxWireLength value
      rxWireLength := runtime.rxWireLength + 1 }, none)

def staleSequence (runtime : Runtime) (header : WireHeader) : Bool :=
  let distance := header.sequence - runtime.rxSequence header.channel
  runtime.rxSequenceSeen header.channel && (distance = 0 || distance ≥ 0x80000000)

def noteSequence (runtime : Runtime) (header : WireHeader) : Runtime :=
  { runtime with
    rxSequence := fun other => if other = header.channel then header.sequence else runtime.rxSequence other
    rxSequenceSeen := fun other => other = header.channel || runtime.rxSequenceSeen other }

def refuse (runtime : Runtime) (header : WireHeader) (code : EspErr) : Runtime :=
  (queueError runtime header.requestId code header.channel header.type).1

structure HandlerInput where
  receivedUs : UInt64
  nowUs : UInt64
  status : List UInt8
  mediaCredited : Bool
  crash : Except EspErr (List UInt8)
  finished : Bool
  served : Bool
  replies : List Reply
  scratch : List UInt8

/-- `handle_control` but for HELLO_ACK. -/
def handleControl (runtime : Runtime) (frame : DecodedFrame) (input : HandlerInput) : Runtime :=
  let header := frame.header
  let answer (type : UInt8) (payload : List UInt8) : Runtime :=
    (queueFrame runtime ⟨Channel.control, type, Flag.response, header.requestId, 0, payload⟩).1
  if header.type = ControlType.ping then answer ControlType.pong frame.payload
  else if header.type = ControlType.timeSyncRequest then
    if header.payloadSize = 8 then
      answer ControlType.timeSyncResponse
        (frame.payload.take 8 ++ irisPutLe64 input.receivedUs ++ irisPutLe64 input.nowUs)
    else refuse runtime header EspErr.invalidSize
  else if header.type = ControlType.statusRequest then answer ControlType.statusResponse input.status
  else if header.type = ControlType.credit then
    if header.payloadSize = 8 ∧ frame.payload.head? = some Channel.log then
      let amount := irisGetLe32 frame.payload 4
      { runtime with
        logCredit := if 0xffffffff - runtime.logCredit < amount then 0xffffffff else runtime.logCredit + amount }
    else if header.payloadSize = 8 ∧ input.mediaCredited then runtime
    else refuse runtime header EspErr.invalidArg
  else refuse runtime header EspErr.notSupported

/-- An answer of `handle_crash`, which is built in the receive buffer. -/
def respondCrash (runtime : Runtime) (header : WireHeader) (answer : Except EspErr (List UInt8)) (type : UInt8)
    (flags : UInt16) (stream : UInt32) : Runtime :=
  match answer with
  | .error code => refuse runtime header code
  | .ok payload =>
    let queued := queueFrame (runtime.scribble payload)
      ⟨Channel.crash, type, flags, header.requestId, stream, payload⟩
    if queued.2 = EspErr.ok then queued.1 else refuse queued.1 header queued.2

def handleCrash (runtime : Runtime) (frame : DecodedFrame) (input : HandlerInput) : Runtime :=
  let header := frame.header
  if header.type = CrashType.metadataRequest then
    if header.payloadSize ≠ 0 then refuse runtime header EspErr.invalidSize
    else respondCrash runtime header input.crash CrashType.metadataResponse Flag.response 0
  else if header.type = CrashType.readRequest then
    if header.payloadSize ≠ 8 then refuse runtime header EspErr.invalidSize
    else
      respondCrash runtime header input.crash CrashType.readResponse
        (Flag.response ||| if input.finished then Flag.streamEnd else 0) 1
  else refuse runtime header EspErr.notSupported

/-- A service handler in the protocol task: it may build its answer in the receive buffer and
queue frames, or leave the frame to be refused. -/
def serveInline (runtime : Runtime) (frame : DecodedFrame) (input : HandlerInput) : Runtime :=
  let built := queueReplies (runtime.scribble input.scratch) input.replies
  if input.served then built else refuse built frame.header EspErr.notSupported

end EspIris.Device
