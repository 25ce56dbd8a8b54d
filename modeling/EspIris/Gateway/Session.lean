import EspIris.Codec.Host
import EspIris.Gateway.Acceptance
import EspIris.Protocol

/-! One device session of the gateway, `DeviceSession`: how it takes a frame. A handler is cut
where it awaits: what it does to the session comes first, then what it awaits, in order, and
last what it raises. The clock and the history of its readings are left out. -/

namespace EspIris.Gateway
open Bytes
open Codec.Host (Frame ProtocolError)

abbrev DeviceId := List UInt8

/-- What code under the supervisor can raise; `connection` and `os` come from the link. -/
inductive Raised
  | protocol (message : String)
  | connection (message : String)
  | os (message : String)
  | runtime (message : String)
  | value (message : String)
  | stateTransition (message : String)
  | assertion
  | queueFull
  /-- Of a class that is not the gateway's. -/
  | foreign (name : String)
  deriving DecidableEq, Repr

namespace Capability
def otaProjectNameMatch : Nat := 14
def sessionReopen : Nat := 17
end Capability

namespace TlvTag
def deviceId : UInt8 := 0x01
def bootId : UInt8 := 0x02
def uptimeUs : UInt8 := 0x03
def protocolVersion : UInt8 := 0x04
def capabilities : UInt8 := 0x05
def transport : UInt8 := 0x06
def authMode : UInt8 := 0x07
def resetReason : UInt8 := 0x08
def projectName : UInt8 := 0x09
def appVersion : UInt8 := 0x0a
def firmwareSha256 : UInt8 := 0x0b
def idfVersion : UInt8 := 0x0c
def maxPayload : UInt8 := 0x0d
def firmwareRole : UInt8 := 0x0e
def productContract : UInt8 := 0x0f
def chipTarget : UInt8 := 0x10
def boardId : UInt8 := 0x11
def recoveryAbi : UInt8 := 0x12
def requiredFeatures : UInt8 := 0x13
def healthTimeoutMs : UInt8 := 0x14
def layoutId : UInt8 := 0x15
def hardwareMac : UInt8 := 0x16
def crashCount : UInt8 := 0x38
def crashLimit : UInt8 := 0x39
def crashRecoveryPending : UInt8 := 0x3b
def crashOriginResetReason : UInt8 := 0x3c
def crashFailedAppAddress : UInt8 := 0x3d
def crashFailedFirmwareSha256 : UInt8 := 0x3e
def crashStateError : UInt8 := 0x3f
def authChallenge : UInt8 := 0x40
end TlvTag

abbrev Fields := UInt8 → Option (List UInt8)

/-- The loop of `decode_tlv`; a tag that comes again replaces its value. -/
def decodeTlvFrom (fields : Fields) (payload : List UInt8) : Except ProtocolError Fields :=
  match payload with
  | [] => .ok fields
  | tag :: low :: high :: rest =>
    let length := ofLittleEndian [low, high]
    if length > rest.length then .error ⟨"truncated TLV value"⟩
    else
      decodeTlvFrom (fun other => if other = tag then some (rest.take length) else fields other) (rest.drop length)
  | _ => .error ⟨"truncated TLV header"⟩
  termination_by payload.length
  decreasing_by
    simp only [List.length_drop, List.length_cons]
    omega

def decodeTlv (payload : List UInt8) : Except ProtocolError Fields := decodeTlvFrom (fun _ => none) payload

/-- `tlv_u8` to `tlv_u64`: a value of another size counts as absent. -/
def tlvUint (width : Nat) (fields : Fields) (tag : UInt8) (default : Nat) : Nat :=
  match fields tag with
  | some value => if value.length = width then ofLittleEndian value else default
  | none => default

def tlvU8 (fields : Fields) (tag : UInt8) : Nat := tlvUint 1 fields tag 0
def tlvU16 (fields : Fields) (tag : UInt8) : Nat := tlvUint 2 fields tag 0
def tlvU32 (fields : Fields) (tag : UInt8) (default : Nat) : Nat := tlvUint 4 fields tag default
def tlvU64 (fields : Fields) (tag : UInt8) (default : Nat) : Nat := tlvUint 8 fields tag default

/-- `fields.get(tag, b"")`. A text field stays the bytes it is decoded from, which never fails. -/
def bytesField (fields : Fields) (tag : UInt8) : List UInt8 := (fields tag).getD []

/-- `DeviceInfo`. -/
structure DeviceInfo where
  deviceId : DeviceId
  bootId : Nat
  sessionId : Int
  endpoint : String
  transport : Nat
  projectName : List UInt8
  appVersion : List UInt8
  idfVersion : List UInt8
  firmwareSha256 : List UInt8
  resetReason : Nat
  capabilities : Nat
  authMode : Nat
  maxPayload : Nat
  firmwareMode : String
  productContract : List UInt8
  chipTarget : List UInt8
  boardId : List UInt8
  layoutId : List UInt8
  recoveryAbi : Nat
  requiredFeatures : Nat
  healthTimeoutMs : Nat
  hardwareMac : List UInt8
  deriving DecidableEq, Repr

/-- `b"ESP-IRIS\x01\x00"`, in front of a hardware MAC. -/
def deviceIdPrefix : List UInt8 := [0x45, 0x53, 0x50, 0x2d, 0x49, 0x52, 0x49, 0x53, 1, 0]

def sizedTags : List (UInt8 × String × Nat) :=
  [(TlvTag.firmwareRole, "FIRMWARE_ROLE", 1), (TlvTag.recoveryAbi, "RECOVERY_ABI", 2),
    (TlvTag.requiredFeatures, "REQUIRED_FEATURES", 8), (TlvTag.healthTimeoutMs, "HEALTH_TIMEOUT_MS", 4)]

def textTags : List (UInt8 × String) :=
  [(TlvTag.productContract, "PRODUCT_CONTRACT"), (TlvTag.chipTarget, "CHIP_TARGET"),
    (TlvTag.boardId, "BOARD_ID"), (TlvTag.layoutId, "LAYOUT_ID")]

def firmwareModes : List String := ["unknown", "normal", "recovery"]

def hexadecimal (value : Nat) : String := String.ofList (Nat.toDigits 16 value)

/-- The checks of `_handle_hello` and the record it builds. -/
def helloInfo (endpoint : String) (sessionId : Int) (fields : Fields) : Except ProtocolError DeviceInfo := do
  let deviceId := bytesField fields TlvTag.deviceId
  if deviceId.length ≠ 16 then throw ⟨"HELLO is missing a 16-byte device ID"⟩
  let hardwareMac := bytesField fields TlvTag.hardwareMac
  if hardwareMac ≠ [] ∧ hardwareMac.length ≠ 6 then throw ⟨"HELLO has an invalid hardware MAC"⟩
  if hardwareMac ≠ [] ∧ deviceId ≠ deviceIdPrefix ++ hardwareMac then
    throw ⟨"device ID does not match the factory hardware MAC"⟩
  let version := tlvU16 fields TlvTag.protocolVersion
  if version ≠ 1 then throw ⟨"unsupported ESP-Iris protocol " ++ toString version⟩
  for (tag, name, size) in sizedTags do
    if (fields tag).any (fun value => value.length ≠ size) then throw ⟨"invalid " ++ name ++ " length"⟩
  for (tag, name) in textTags do
    if (bytesField fields tag).length > 64 then throw ⟨name ++ " exceeds 64 bytes"⟩
  let requiredFeatures := tlvU64 fields TlvTag.requiredFeatures 0
  if requiredFeatures ≠ 0 then throw ⟨"unsupported required features 0x" ++ hexadecimal requiredFeatures⟩
  let role := tlvU8 fields TlvTag.firmwareRole
  if role > 2 then throw ⟨"unsupported firmware role " ++ toString role⟩
  let healthTimeoutMs := tlvU32 fields TlvTag.healthTimeoutMs 45000
  if healthTimeoutMs < 1000 ∨ healthTimeoutMs > 600000 then
    throw ⟨"health timeout must be between 1000 and 600000 ms"⟩
  return {
    deviceId := deviceId
    bootId := tlvU64 fields TlvTag.bootId 0
    sessionId := sessionId
    endpoint := endpoint
    transport := tlvU8 fields TlvTag.transport
    projectName := bytesField fields TlvTag.projectName
    appVersion := bytesField fields TlvTag.appVersion
    idfVersion := bytesField fields TlvTag.idfVersion
    firmwareSha256 := bytesField fields TlvTag.firmwareSha256
    resetReason := tlvU32 fields TlvTag.resetReason 0
    capabilities := tlvU64 fields TlvTag.capabilities 0
    authMode := tlvU8 fields TlvTag.authMode
    maxPayload := tlvU32 fields TlvTag.maxPayload 4000
    firmwareMode := firmwareModes.getD role "unknown"
    productContract := bytesField fields TlvTag.productContract
    chipTarget := bytesField fields TlvTag.chipTarget
    boardId := bytesField fields TlvTag.boardId
    layoutId := bytesField fields TlvTag.layoutId
    recoveryAbi := tlvU16 fields TlvTag.recoveryAbi
    requiredFeatures := requiredFeatures
    healthTimeoutMs := healthTimeoutMs
    hardwareMac := hardwareMac }

inductive SessionState
  | negotiating
  | ready
  | closed
  deriving DecidableEq, Repr

inductive SessionEvent
  | authenticated
  | close
  deriving DecidableEq, Repr

/-- `session_transition`; a transition that is not listed raises. -/
def sessionTransition (current : SessionState) (event : SessionEvent) : Option SessionState :=
  match current, event with
  | .negotiating, .authenticated => some .ready
  | .negotiating, .close => some .closed
  | .ready, .close => some .closed
  | _, _ => none

def logCreditGrant : Nat := 256 * 1024
def logCreditLowWater : Nat := 128 * 1024
def mediaCreditGrant : Nat := 128 * 1024
def mediaCreditLowWater : Nat := 64 * 1024

/-- `DeviceSession`. A pending request is known by the number of the task that waits for its
future; `ready` is the event together with `_ready_announced`, which are set in one go. -/
structure DeviceSession where
  endpoint : String
  pairingToken : Option (List UInt8)
  info : Option DeviceInfo
  state : SessionState
  pending : Int → Option Nat
  requestId : Nat
  reopenSessionId : Option Int
  reopenRequested : Bool
  sequence : Int → Nat
  lastRxSequence : Int → Option Int
  closed : Bool
  ready : Bool
  logCredit : Nat
  mediaCredit : Int → Nat

def DeviceSession.new (endpoint : String) (pairingToken : Option (List UInt8)) : DeviceSession where
  endpoint := endpoint
  pairingToken := pairingToken
  info := none
  state := .negotiating
  pending := fun _ => none
  requestId := 0
  reopenSessionId := none
  reopenRequested := false
  sequence := fun _ => 0
  lastRxSequence := fun _ => none
  closed := false
  ready := false
  logCredit := 0
  mediaCredit := fun _ => 0

structure Job where
  jobId : Nat
  kind : Nat
  state : Nat
  cancelRequested : Bool
  progressPermille : Nat
  result : Int
  deriving DecidableEq, Repr

inductive ConnectionState
  | connected | reconnected | rebooted | disconnected
  deriving DecidableEq, Repr

inductive EventBody
  | log (monotonicUs droppedBytes : Nat) (stderr : Bool) (flags : Nat) (text : List UInt8)
  | job (job : Job)
  | device (type : Int) (name : EventName) (monotonicUs resetReason crashCount crashLimit : Nat)
      (crashRecoveryPending : Bool) (crashOriginResetReason crashFailedAppAddress : Nat)
      (crashFailedFirmwareSha256 : List UInt8) (crashStateError : Nat) (sequence : Int)
  | connection (state : ConnectionState) (endpoint : String)
  | operation
  deriving DecidableEq, Repr

structure HubEvent where
  deviceId : Option DeviceId
  bootId : Option Nat
  sessionId : Option Int
  body : EventBody
  deriving DecidableEq, Repr

structure MediaEvent where
  deviceId : Option DeviceId
  bootId : Option Nat
  sessionId : Option Int
  channel : Int
  streamId : Int
  frameId : Nat
  monotonicUs : Nat
  dropped : Nat
  flags : Nat
  description : List Nat
  data : List UInt8
  deriving DecidableEq, Repr

inductive Effect
  | send (channel type flags : Int) (payload : List UInt8)
  | logGranted (amount : Nat)
  | mediaGranted (channel : Int) (amount : Nat)
  | sleep
  | onReady
  | announce
  | event (event : HubEvent)
  | media (event : MediaEvent)
  | resolve (future : Nat) (outcome : Except Raised Frame)

structure Handled where
  session : DeviceSession
  effects : List Effect
  raises : Option Raised

def Handled.ignored (session : DeviceSession) : Handled := ⟨session, [], none⟩

def Handled.raising (session : DeviceSession) (raised : Raised) : Handled := ⟨session, [], some raised⟩

def Handled.after (effects : List Effect) (handled : Handled) : Handled :=
  { handled with effects := effects ++ handled.effects }

def creditPayload (channel : Int) (amount : Nat) : List UInt8 :=
  [UInt8.ofNat channel.toNat, 0, 0, 0] ++ littleEndian 4 amount

def sendCredit (channel : Int) (amount : Nat) : Effect :=
  .send Channel.control.toNat ControlType.credit.toNat 0 (creditPayload channel amount)

def grantLogCredit (amount : Nat) : List Effect := [sendCredit Channel.log.toNat amount, .logGranted amount]

def grantMediaCredit (channel : Int) (amount : Nat) : List Effect :=
  [sendCredit channel amount, .mediaGranted channel amount]

def completeReady (session : DeviceSession) : Handled :=
  if session.ready then .ignored session
  else if session.info = none then .raising session .assertion
  else
    match sessionTransition session.state .authenticated with
    | none => .raising session (.stateTransition "illegal session transition")
    | some state =>
      { session := { session with state := state }
        effects := (if session.logCredit = 0 then grantLogCredit logCreditGrant else []) ++ [.onReady, .announce]
        raises := none }

def reopens (session : DeviceSession) (info : DeviceInfo) : Bool :=
  session.reopenSessionId.any fun old => info.sessionId ≠ old

/-- The part of `_handle_hello` between the record and the acknowledgement. -/
def takeInfo (session : DeviceSession) (info : DeviceInfo) : Except ProtocolError DeviceSession := do
  let mut taken := session
  if reopens session info then
    if session.info.all (fun current => current.deviceId ≠ info.deviceId ∨ current.bootId ≠ info.bootId) then
      throw ⟨"device identity changed during session reopen"⟩
    taken := { session with reopenSessionId := none, sequence := fun _ => 0, lastRxSequence := fun _ => none }
  else if session.info.any (fun current => current.deviceId ≠ info.deviceId ∨ current.sessionId ≠ info.sessionId) then
    throw ⟨"device identity/session changed on a live link"⟩
  taken := { taken with info := some info }
  if info.capabilities.testBit Capability.sessionReopen ∧ taken.reopenRequested = false then
    taken := { taken with reopenRequested := true, reopenSessionId := some info.sessionId }
  return taken

/-- `b"ESP-Iris-auth-v1"` and what the proof is made over. -/
def authMessage (info : DeviceInfo) (challenge nonce : List UInt8) : List UInt8 :=
  [0x45, 0x53, 0x50, 0x2d, 0x49, 0x72, 0x69, 0x73, 0x2d, 0x61, 0x75, 0x74, 0x68, 0x2d, 0x76, 0x31] ++
    info.deviceId ++ littleEndian 8 info.bootId ++ littleEndian 4 info.sessionId.toNat ++ challenge ++ nonce

section handlers
variable (hmac : List UInt8 → List UInt8 → List UInt8) (nonce : List UInt8)

def helloAck (flags : Int) (payload : List UInt8) : Effect :=
  .send Channel.control.toNat ControlType.helloAck.toNat flags payload

/-- The end of `_handle_hello`. -/
def acknowledge (session : DeviceSession) (info : DeviceInfo) (fields : Fields) : Handled :=
  let flags : Int := if session.reopenSessionId ≠ none then Flag.newSession.toNat else 0
  if info.authMode = 0 then
    (if session.reopenSessionId ≠ none then Handled.ignored session else completeReady session).after [helloAck flags []]
  else if info.authMode ≠ 1 then
    .raising session (.protocol ("unsupported ESP-Iris auth mode " ++ toString info.authMode))
  else
    let challenge := bytesField fields TlvTag.authChallenge
    if challenge.length ≠ 32 then .raising session (.protocol "authenticated HELLO has no 32-byte challenge")
    else
      match session.pairingToken with
      | none => (Handled.raising session (.protocol "device requires a pairing token")).after [.sleep]
      | some token =>
        (Handled.ignored session).after [helloAck flags (nonce ++ hmac token (authMessage info challenge nonce))]

def handleHello (session : DeviceSession) (frame : Frame) : Handled :=
  let taken := do
    let fields ← decodeTlv frame.payload
    let info ← helloInfo session.endpoint frame.sessionId fields
    let session ← takeInfo session info
    return (session, info, fields)
  match taken with
  | .error error => .raising session (.protocol error.message)
  | .ok (session, info, fields) => acknowledge hmac nonce session info fields

end handlers

def sessionEvent (session : DeviceSession) (body : EventBody) : HubEvent where
  deviceId := session.info.map DeviceInfo.deviceId
  bootId := session.info.map DeviceInfo.bootId
  sessionId := session.info.map DeviceInfo.sessionId
  body := body

def handleLog (session : DeviceSession) (frame : Frame) : Handled :=
  let payload := frame.payload
  if payload.length < 16 then .raising session (.protocol "short LOG record")
  else if payload.length ≠ 16 + field payload 14 2 then .raising session (.protocol "LOG record length mismatch")
  else
    let session := { session with logCredit := session.logCredit - payload.length }
    let body : EventBody := .log (field payload 0 8) (field payload 8 4) (field payload 12 1 = 2) (field payload 13 1)
      (payload.drop 16)
    { session := session
      effects := .event (sessionEvent session body) ::
        if session.logCredit < logCreditLowWater then grantLogCredit logCreditGrant else []
      raises := none }

/-- A field of the format `i`. -/
def signedField (payload : List UInt8) (offset : Nat) : Int :=
  if field payload offset 4 < 2 ^ 31 then field payload offset 4 else field payload offset 4 - 2 ^ 32

def decodeJob (payload : List UInt8) : Except ProtocolError Job :=
  if payload.length ≠ 16 then .error ⟨"invalid job status size"⟩
  else if field payload 10 2 ≠ 0 then .error ⟨"job status reserved field is nonzero"⟩
  else .ok {
    jobId := field payload 0 4
    kind := field payload 4 2
    state := field payload 6 1
    cancelRequested := field payload 7 1 ≠ 0
    progressPermille := field payload 8 2
    result := signedField payload 12 }

/-- `EventType(type).name`, or `unknown`. -/
def eventName (type : Int) : EventName :=
  if type = 0x01 then .boot else if type = 0x03 then .healthy else if type = 0x04 then .plannedRestart
  else if type = 0x05 then .linkReady else if type = 0x06 then .previousBootCrash
  else if type = 0x07 then .recoveryEntered else if type = 0x08 then .coreDumpAvailable
  else if type = 0x09 then .crashLoopDetected else if type = 0x20 then .jobUpdate
  else if type = 0x21 then .otaReady else .unknown

def handleEvent (session : DeviceSession) (frame : Frame) : Handled :=
  if frame.type = 0x20 then
    match decodeJob frame.payload with
    | .error error => .raising session (.protocol error.message)
    | .ok job => ⟨session, [.event (sessionEvent session (.job job))], none⟩
  else
    match decodeTlv frame.payload with
    | .error error => .raising session (.protocol error.message)
    | .ok fields =>
      let bootId := tlvU64 fields TlvTag.bootId ((session.info.map DeviceInfo.bootId).getD 0)
      let body : EventBody := .device frame.type (eventName frame.type) (tlvU64 fields TlvTag.uptimeUs 0)
        (tlvU32 fields TlvTag.resetReason 0) (tlvU32 fields TlvTag.crashCount 0) (tlvU32 fields TlvTag.crashLimit 0)
        (tlvU8 fields TlvTag.crashRecoveryPending ≠ 0) (tlvU32 fields TlvTag.crashOriginResetReason 0)
        (tlvU32 fields TlvTag.crashFailedAppAddress 0) (bytesField fields TlvTag.crashFailedFirmwareSha256)
        (tlvU32 fields TlvTag.crashStateError 0) frame.sequence
      ⟨session, [.event { sessionEvent session body with bootId := some bootId }], none⟩

def mediaHeaderSize : Nat := 36

def handleMedia (session : DeviceSession) (frame : Frame) : Handled :=
  let payload := frame.payload
  if frame.type ≠ MediaType.data.toNat ∨ payload.length < mediaHeaderSize then
    .raising session (.protocol "invalid media data frame")
  else if payload.length ≠ mediaHeaderSize + field payload 18 2 then
    .raising session (.protocol "media data size mismatch")
  else
    let credit := session.mediaCredit frame.channel - payload.length
    let session := { session with
      mediaCredit := fun channel => if channel = frame.channel then credit else session.mediaCredit channel }
    let tile : MediaEvent := {
      deviceId := session.info.map DeviceInfo.deviceId
      bootId := session.info.map DeviceInfo.bootId
      sessionId := session.info.map DeviceInfo.sessionId
      channel := frame.channel
      streamId := frame.streamId
      frameId := field payload 8 4
      monotonicUs := field payload 0 8
      dropped := field payload 12 4
      flags := field payload 16 2
      description := [field payload 20 2, field payload 22 2, field payload 24 2, field payload 26 2,
        field payload 28 4, field payload 32 2, field payload 34 2]
      data := payload.drop mediaHeaderSize }
    { session := session
      effects := .media tile ::
        if credit < mediaCreditLowWater then grantMediaCredit frame.channel mediaCreditGrant else []
      raises := none }

/-- `_accept_sequence`, with the session that notes the sequence number. -/
def acceptSequence (session : DeviceSession) (frame : Frame) : Option DeviceSession :=
  let noted := { session with
    lastRxSequence := fun channel =>
      if channel = frame.channel then some frame.sequence else session.lastRxSequence channel }
  match session.lastRxSequence frame.channel with
  | none => some noted
  | some last =>
    let distance := (frame.sequence - last) % 2 ^ 32
    if distance = 0 ∨ distance ≥ 2 ^ 31 then none else some noted

def isHello (frame : Frame) : Bool := frame.channel = Channel.control.toNat && frame.type = ControlType.hello.toNat

def isAuthResult (frame : Frame) : Bool :=
  frame.channel = Channel.control.toNat && frame.type = ControlType.authResult.toNat

def isMediaChannel (channel : Int) : Bool :=
  channel = Channel.screen.toNat || channel = Channel.image.toNat || channel = Channel.audio.toNat

def responseOutcome (frame : Frame) : Except Raised Frame :=
  if frame.type = ControlType.error.toNat then
    .error (.runtime ("device error 0x" ++ hexadecimal (field (frame.payload ++ [0, 0, 0, 0]) 0 4)))
  else .ok frame

/-- `_handle_frame` on a frame of the current session that is in sequence. -/
def dispatchFrame (session : DeviceSession) (frame : Frame) : Handled :=
  if isAuthResult frame then
    if frame.payload ≠ [1] ∨ frame.flags.toNat &&& 2 ≠ 0 then
      .raising session (.protocol "ESP-Iris pairing proof was rejected")
    else completeReady session
  else
    match (if frame.requestId = 0 then none else session.pending frame.requestId) with
    | some future => ⟨session, [.resolve future (responseOutcome frame)], none⟩
    | none =>
      if frame.channel = Channel.log.toNat ∧ frame.type = 1 then handleLog session frame
      else if frame.channel = Channel.event.toNat then handleEvent session frame
      else if isMediaChannel frame.channel then handleMedia session frame
      else .ignored session

def handleFrame (hmac : List UInt8 → List UInt8 → List UInt8) (nonce : List UInt8) (session : DeviceSession)
    (frame : Frame) : Handled :=
  if isHello frame then handleHello hmac nonce session frame
  else if session.reopenSessionId ≠ none then .ignored session
  else if session.info.all (fun info => frame.sessionId ≠ info.sessionId) then .ignored session
  else
    match acceptSequence session frame with
    | none => .ignored session
    | some session => dispatchFrame session frame

end EspIris.Gateway
