import EspIris.Device.OtaTransfer
import EspIris.Device.Services
import EspIris.Lib.Machine
import Mathlib.Logic.Function.Basic

/-! The media channels of `esp_iris_services.c`: the slot that keeps the latest frame of each, the
screen backend that a capture and a pull mirror share, and the points between the critical sections
at which another task can come in. -/

namespace EspIris.Device.Media
open Codec.Device Jobs

/-- `CONFIG_ESP_IRIS_MEDIA_LATEST_BYTES` with the range of its Kconfig entry. -/
structure MediaConfig where
  latestBytes : Nat
  range : 256 ≤ latestBytes ∧ latestBytes ≤ 3840

def dataHeaderSize : Nat := 36

def pixelFormatRgb565 : UInt16 := 1
def pixelFormatRgb888 : UInt16 := 2

/-- `esp_iris_media_desc_t`. -/
structure MediaDesc where
  x : UInt16
  y : UInt16
  width : UInt16
  height : UInt16
  stride : UInt32
  format : UInt16
  quality : UInt16
  deriving DecidableEq, Repr

def MediaDesc.zero : MediaDesc := ⟨0, 0, 0, 0, 0, 0, 0⟩

def mediaDescDecode (payload : List UInt8) : MediaDesc where
  x := irisGetLe16 payload 0
  y := irisGetLe16 payload 2
  width := irisGetLe16 payload 4
  height := irisGetLe16 payload 6
  stride := irisGetLe32 payload 8
  format := irisGetLe16 payload 12
  quality := irisGetLe16 payload 14

def mediaDescEncode (description : MediaDesc) : List UInt8 :=
  irisPutLe16 description.x ++ irisPutLe16 description.y ++ irisPutLe16 description.width ++
    irisPutLe16 description.height ++ irisPutLe32 description.stride ++ irisPutLe16 description.format ++
    irisPutLe16 description.quality

/-- `iris_media_slot_t`; a buffer is its bytes, which `heap_caps_malloc` leaves as they were. -/
structure MediaSlot where
  active : Bool
  pending : Bool
  pull : Bool
  description : MediaDesc
  frameDescription : MediaDesc
  frameId : UInt32
  streamId : UInt32
  pullFrameId : UInt32
  totalSize : UInt32
  offset : UInt32
  flags : UInt16
  fps : UInt16
  monotonicUs : UInt64
  nextFrameUs : Nat
  dropped : UInt32
  credit : UInt32
  size : Nat
  data : Option (List UInt8)
  deriving DecidableEq

def MediaSlot.zero : MediaSlot where
  active := false
  pending := false
  pull := false
  description := .zero
  frameDescription := .zero
  frameId := 0
  streamId := 0
  pullFrameId := 0
  totalSize := 0
  offset := 0
  flags := 0
  fps := 0
  monotonicUs := 0
  nextFrameUs := 0
  dropped := 0
  credit := 0
  size := 0
  data := none

/-- `iris_capture_t`. -/
structure Capture where
  active : Bool
  description : MediaDesc
  totalSize : UInt32
  streamId : UInt32
  deriving DecidableEq, Repr

/-- `esp_iris_screen_backend_t`: `begin` and `read` are never null, `end` may be. -/
structure ScreenBackend where
  userCtx : Nat
  hasEnd : Bool
  deriving DecidableEq, Repr

/-- The part of `iris_service_state_t` that the media channels use. -/
structure MediaState where
  screen : Option ScreenBackend
  capture : Capture
  media : Fin 3 → MediaSlot
  mediaUsers : Nat

def MediaState.fresh : MediaState where
  screen := none
  capture := ⟨false, .zero, 0, 0⟩
  media := fun _ => .zero
  mediaUsers := 0

def MediaState.setSlot (state : MediaState) (index : Fin 3) (slot : MediaSlot) : MediaState :=
  { state with media := Function.update state.media index slot }

inductive MediaOutput
  | begins (code : EspErr)
  | reads (offset : UInt32) (capacity : Nat)
  | ends
  | reply (reply : Reply)
  | data (index : Fin 3) (reply : Reply)
  deriving DecidableEq, Repr

/-- The result of `screen.begin` with what it stored. -/
structure BeginAnswer where
  code : EspErr
  actual : MediaDesc
  totalSize : UInt32

/-- The result of `screen.read` with the bytes that it left in the buffer and the size it reported. -/
structure ReadAnswer where
  code : EspErr
  bytes : List UInt8
  size : Nat

/-- What the heap, the backend and the rest of the record answer to a media frame. `held` is whether
something outside the media channels keeps the record. -/
structure MediaAnswers where
  allocated : Bool
  buffer : Option (List UInt8)
  begins : BeginAnswer
  reads : ReadAnswer
  held : Bool

/-- A call of `esp_iris_media_submit`; `now` is the time that it reads. -/
structure Submission where
  description : MediaDesc
  frameId : UInt32
  flags : UInt16
  bytes : List UInt8
  now : UInt64
  deriving DecidableEq, Repr

/-- `memcpy` to the front of a buffer. -/
def overwrite (buffer bytes : List UInt8) : List UInt8 := bytes ++ buffer.drop bytes.length

/-- `media_index`, as the position in the array. -/
def slotIndex (channel : UInt8) : Option (Fin 3) := (mediaIndex channel).map (Fin.ofNat 3)

def maybeReleaseState (held : Bool) (state : MediaState) : Option MediaState :=
  if held || state.screen.isSome || state.capture.active || state.mediaUsers ≠ 0 ||
      (List.finRange 3).any fun index => (state.media index).data.isSome then some state
  else none

/-- `service_state(true)`. -/
def createState (services : Option MediaState) (allocated : Bool) : Option MediaState :=
  match services with
  | some state => some state
  | none => if allocated then some .fresh else none

def ensureMediaBuffer (slot : MediaSlot) (buffer : Option (List UInt8)) : Option MediaSlot :=
  match slot.data with
  | some _ => some slot
  | none => buffer.map fun data => { slot with data := some data }

def releaseMediaBuffer (slot : MediaSlot) : MediaSlot :=
  { slot with
    data := none
    active := false
    pending := false
    pull := false
    credit := 0
    size := 0
    streamId := 0
    totalSize := 0
    offset := 0 }

/-- The critical section of `esp_iris_screen_register`. -/
def screenRegister (state : MediaState) (backend : ScreenBackend) : MediaState :=
  if state.screen.isSome then state else { state with screen := some backend }

/-- The critical section of `esp_iris_screen_unregister`, when it takes the backend away. -/
def screenUnregister (state : MediaState) (userCtx : Nat) : Option MediaState :=
  if state.screen.all (fun backend => backend.userCtx ≠ userCtx) ∨ state.capture.active ∨ (state.media 0).active then none
  else some { state with screen := none }

section calls
variable (config : MediaConfig)

/-- `esp_iris_media_submit` after it has got hold of the record, on the slot of its channel. -/
def submitSlot (slot : MediaSlot) (submission : Submission) : MediaSlot × EspErr :=
  match slot.data with
  | none => (slot, EspErr.invalidState)
  | some data =>
    if slot.active = false ∨ slot.pull then (slot, EspErr.invalidState)
    else
      ({ slot with
          dropped := if slot.pending then slot.dropped + 1 else slot.dropped
          description := submission.description
          frameId := submission.frameId
          flags := submission.flags
          monotonicUs := submission.now
          data := some (overwrite data submission.bytes)
          size := submission.bytes.length
          pending := true }, EspErr.ok)

def mediaSubmit (state : MediaState) (channel : UInt8) (submission : Submission) : MediaState × EspErr :=
  match slotIndex channel with
  | none => (state, EspErr.invalidArg)
  | some index =>
    if submission.bytes = [] ∨ submission.bytes.length > config.latestBytes then (state, EspErr.invalidArg)
    else
      let submitted := submitSlot (state.media index) submission
      (state.setSlot index submitted.1, submitted.2)

/-- `iris_services_credit`; a grant saturates. -/
def grantCredit (credit amount : UInt32) : UInt32 :=
  if 0xffffffff - credit < amount then 0xffffffff else credit + amount

def irisServicesCredit (services : Option MediaState) (channel : UInt8) (amount : UInt32) : Option MediaState × Bool :=
  match slotIndex channel, services with
  | some index, some state =>
    let slot := state.media index
    (some (state.setSlot index { slot with credit := grantCredit slot.credit amount }), true)
  | _, _ => (services, false)

def MediaState.owes (state : MediaState) : Bool := state.capture.active || (state.media 0).pull

/-- `screen.end`, when there is one. -/
def endScreen (state : MediaState) : List MediaOutput :=
  if state.screen.any ScreenBackend.hasEnd then [.ends] else []

/-- The OPEN arm of `handle_media`. -/
def openCapture (state : MediaState) (header : WireHeader) (answer : BeginAnswer) : MediaState × List MediaOutput :=
  if state.screen.isNone then (state, [.reply (Jobs.refuse header EspErr.notSupported)])
  else if state.capture.active ∨ (state.media 0).active then (state, [.reply (Jobs.refuse header EspErr.invalidState)])
  else if answer.code ≠ EspErr.ok ∨ answer.totalSize = 0 then
    (state, [.begins answer.code,
      .reply (Jobs.refuse header (if answer.code = EspErr.ok then EspErr.invalidSize else answer.code))])
  else
    let streamId := if header.requestId ≠ 0 then header.requestId else 1
    let payload := mediaDescEncode answer.actual ++ irisPutLe32 answer.totalSize
    ({ state with capture := ⟨true, answer.actual, answer.totalSize, streamId⟩ },
      [.begins answer.code, .reply (respond header MediaType.opened Flag.streamBegin streamId payload)])

def readCapture (state : MediaState) (frame : DecodedFrame) (answer : ReadAnswer) : List MediaOutput :=
  let header := frame.header
  let capture := state.capture
  if capture.active = false ∨ header.payloadSize ≠ 8 then [.reply (Jobs.refuse header EspErr.invalidState)]
  else
    let offset := irisGetLe32 frame.payload 0
    let maximum := min (irisGetLe16 frame.payload 4).toNat config.latestBytes
    if maximum = 0 ∨ offset ≥ capture.totalSize then [.reply (Jobs.refuse header EspErr.invalidArg)]
    else if answer.code ≠ EspErr.ok ∨ answer.size = 0 ∨ answer.size > maximum ∨
        offset + UInt32.ofNat answer.size > capture.totalSize then
      [.reads offset maximum,
        .reply (Jobs.refuse header (if answer.code = EspErr.ok then EspErr.invalidSize else answer.code))]
    else
      let finished := offset + UInt32.ofNat answer.size = capture.totalSize
      [.reads offset maximum,
        .reply (respond header MediaType.data (if finished then Flag.streamEnd else 0) capture.streamId
          (irisPutLe32 offset ++ irisPutLe32 capture.totalSize ++ answer.bytes.take answer.size))]

def closeCapture (state : MediaState) : MediaState × List MediaOutput :=
  ({ state with capture := { state.capture with active := false } }, if state.capture.active then endScreen state else [])

def stopMirror (state : MediaState) (index : Fin 3) : MediaState × List MediaOutput :=
  (state.setSlot index (releaseMediaBuffer (state.media index)),
    if index = 0 ∧ (state.media index).pull then endScreen state else [])

inductive StartStage
  | pending
  | dropped
  | credit
  deriving DecidableEq, Repr

inductive MediaPoint
  | resting
  | starting (index : Fin 3) (stage : StartStage) (header : WireHeader)
  | looking (index : Fin 3)
  | sized (index : Fin 3) (payloadSize : Nat)
  | checked (index : Fin 3) (payloadSize : Nat)
  | ending (index : Fin 3)
  deriving DecidableEq, Repr

structure MediaMove where
  services : Option MediaState
  point : MediaPoint
  outputs : List MediaOutput

def MediaMove.done (services : Option MediaState) (outputs : List MediaOutput) : MediaMove := ⟨services, .resting, outputs⟩

def rawFrame (answer : BeginAnswer) : Bool :=
  answer.code = EspErr.ok &&
    (answer.actual.format = pixelFormatRgb565 || answer.actual.format = pixelFormatRgb888) &&
    answer.actual.stride ≠ 0 && answer.actual.height ≠ 0 && answer.actual.stride.toNat ≤ config.latestBytes &&
    answer.totalSize.toNat = answer.actual.stride.toNat * answer.actual.height.toNat

def requestedSlot (slot : MediaSlot) (frame : DecodedFrame) : MediaSlot :=
  { slot with
    description := mediaDescDecode frame.payload
    frameDescription := mediaDescDecode frame.payload
    pull := false
    fps := irisGetLe16 frame.payload 16 }

def pulledSlot (slot : MediaSlot) (answer : BeginAnswer) : MediaSlot :=
  { slot with
    description := answer.actual
    frameDescription := answer.actual
    totalSize := answer.totalSize
    offset := 0
    pullFrameId := 1
    nextFrameUs := 0
    pull := true }

def activate (state : MediaState) (index : Fin 3) (slot : MediaSlot) (header : WireHeader) (outputs : List MediaOutput) :
    MediaMove where
  services := some (state.setSlot index { slot with
    active := true
    streamId := if header.streamId ≠ 0 then header.streamId else header.requestId })
  point := .starting index .pending header
  outputs := outputs

/-- The MIRROR_START arm of `handle_media`. -/
def startMirror (state : MediaState) (index : Fin 3) (frame : DecodedFrame) (answers : MediaAnswers) : MediaMove :=
  let header := frame.header
  let slot := state.media index
  let fps := irisGetLe16 frame.payload 16
  let taken := slot.active ∨ (index = 0 ∧ state.capture.active)
  if taken ∨ fps = 0 ∨ fps > 60 ∨ irisGetLe16 frame.payload 18 ≠ 0 then
    .done (some state) [.reply (Jobs.refuse header (if taken then EspErr.invalidState else EspErr.invalidArg))]
  else
    match ensureMediaBuffer slot answers.buffer with
    | none => .done (some state) [.reply (Jobs.refuse header EspErr.noMem)]
    | some buffered =>
      let requested := requestedSlot buffered frame
      if index = 0 ∧ state.screen.isSome then
        let answer := answers.begins
        if rawFrame config answer = false then
          .done (some (state.setSlot index (releaseMediaBuffer requested)))
            ([.begins answer.code] ++ (if answer.code = EspErr.ok then endScreen state else []) ++
              [.reply (Jobs.refuse header (if answer.code ≠ EspErr.ok then answer.code else EspErr.notSupported))])
        else activate state index (pulledSlot requested answer) header [.begins answer.code]
      else activate state index requested header []

def settleStart (state : MediaState) (index : Fin 3) (stage : StartStage) (header : WireHeader) : MediaMove :=
  let slot := state.media index
  match stage with
  | .pending => ⟨some (state.setSlot index { slot with pending := false }), .starting index .dropped header, []⟩
  | .dropped => ⟨some (state.setSlot index { slot with dropped := 0 }), .starting index .credit header, []⟩
  | .credit =>
    .done (some (state.setSlot index { slot with credit := 0 }))
      [.reply (respond header MediaType.mirrorState Flag.streamBegin slot.streamId
        (mediaDescEncode slot.frameDescription ++ irisPutLe16 slot.fps ++ irisPutLe16 0))]

/-- `handle_media` where there is no record. -/
def withoutState (header : WireHeader) : List MediaOutput :=
  if header.type = MediaType.mirrorStop then
    [.reply (respond header MediaType.mirrorState Flag.streamEnd header.streamId [])]
  else if header.type = MediaType.mirrorStart then [.reply (Jobs.refuse header EspErr.noMem)]
  else if header.type = MediaType.opening then [.reply (Jobs.refuse header EspErr.notSupported)]
  else [.reply (Jobs.refuse header EspErr.invalidState)]

/-- `handle_media` on a channel it knows, from the record on. -/
def handleOn (state : MediaState) (index : Fin 3) (frame : DecodedFrame) (answers : MediaAnswers) : MediaMove :=
  let header := frame.header
  let isScreen := header.channel = Channel.screen
  if header.type = MediaType.opening ∧ isScreen then
    let opened := openCapture state header answers.begins
    .done (some opened.1) opened.2
  else if header.type = MediaType.read ∧ isScreen then .done (some state) (readCapture config state frame answers.reads)
  else if header.type = MediaType.close ∧ isScreen then
    let closed := closeCapture state
    .done (some closed.1) (closed.2 ++ [.reply (respond header MediaType.close Flag.streamEnd header.streamId [])])
  else if header.type = MediaType.mirrorStart then startMirror config state index frame answers
  else if header.type = MediaType.mirrorStop then
    let stopped := stopMirror state index
    .done (maybeReleaseState answers.held stopped.1)
      (stopped.2 ++ [.reply (respond header MediaType.mirrorState Flag.streamEnd header.streamId [])])
  else .done (some state) [.reply (Jobs.refuse header EspErr.notSupported)]

/-- `handle_media`, up to where a MIRROR_START is active. -/
def handleMedia (services : Option MediaState) (frame : DecodedFrame) (answers : MediaAnswers) : MediaMove :=
  let header := frame.header
  match slotIndex header.channel with
  | none => .done services []
  | some index =>
    if header.type = MediaType.opening ∧ header.channel = Channel.screen ∧ header.payloadSize ≠ 16 ∨
        header.type = MediaType.mirrorStart ∧ header.payloadSize ≠ 20 then
      .done services [.reply (Jobs.refuse header EspErr.invalidSize)]
    else
      let found := if header.type = MediaType.mirrorStart then createState services answers.allocated else services
      match found with
      | none => .done none (withoutState header)
      | some state => handleOn config state index frame answers

/-- How much `prepare_pull_screen` asks the backend for: whole rows, as many as the buffer has room for. -/
def pullSize (slot : MediaSlot) : Nat :=
  let stride := slot.frameDescription.stride.toNat
  min (config.latestBytes / stride * stride) (slot.totalSize - slot.offset).toNat

/-- The tests of `prepare_pull_screen` before it calls the backend. -/
def pullDue (state : MediaState) (slot : MediaSlot) (now : Nat) : Bool :=
  slot.active && slot.pull && !slot.pending && slot.data.isSome && state.screen.isSome &&
    slot.frameDescription.stride ≠ 0 && !(slot.offset = 0 && now < slot.nextFrameUs) &&
    pullSize config slot ≠ 0 && slot.credit.toNat ≥ dataHeaderSize + pullSize config slot

def tileDescription (slot : MediaSlot) (readSize : Nat) : MediaDesc :=
  { slot.frameDescription with
    y := slot.frameDescription.y + UInt16.ofNat (slot.offset.toNat / slot.frameDescription.stride.toNat)
    height := UInt16.ofNat (readSize / slot.frameDescription.stride.toNat) }

/-- `prepare_pull_screen` once a read has given whole rows. -/
def placeTile (slot : MediaSlot) (answer : ReadAnswer) (now : Nat) : MediaSlot :=
  let offset := slot.offset + UInt32.ofNat answer.size
  let complete := offset = slot.totalSize
  { slot with
    data := slot.data.map (overwrite · answer.bytes)
    description := tileDescription slot answer.size
    frameId := slot.pullFrameId
    flags := 0
    monotonicUs := UInt64.ofNat now
    size := answer.size
    pending := true
    offset := if complete then 0 else offset
    pullFrameId := if complete then slot.pullFrameId + 1 else slot.pullFrameId
    nextFrameUs := if complete then now + 1000000 / slot.fps.toNat else slot.nextFrameUs }

/-- `prepare_pull_screen`; a read that fails may still have written to the buffer. -/
def preparePullScreen (state : MediaState) (slot : MediaSlot) (answer : ReadAnswer) (now : Nat) :
    MediaSlot × List MediaOutput :=
  if pullDue config state slot now = false then (slot, [])
  else
    let size := pullSize config slot
    let called := [MediaOutput.reads slot.offset size]
    if answer.code ≠ EspErr.ok ∨ answer.size = 0 ∨ answer.size > size ∨
        answer.size % slot.frameDescription.stride.toNat ≠ 0 then
      ({ slot with data := slot.data.map (overwrite · answer.bytes) }, called)
    else (placeTile slot answer now, called)

def dataHeader (slot : MediaSlot) : List UInt8 :=
  irisPutLe64 slot.monotonicUs ++ irisPutLe32 slot.frameId ++ irisPutLe32 slot.dropped ++
    irisPutLe16 slot.flags ++ irisPutLe16 (UInt16.ofNat slot.size) ++ mediaDescEncode slot.description

/-- The critical section of `queue_media`, and the frame that it queues out of the receive buffer. -/
def copySlot (slot : MediaSlot) (index : Fin 3) (data rxWire : List UInt8) (payloadSize : Nat) : MediaSlot × Reply :=
  let wire := overwrite rxWire (dataHeader slot ++ data.take slot.size)
  ({ slot with pending := false, credit := slot.credit - UInt32.ofNat payloadSize },
    { channel := Channel.screen + UInt8.ofNat index.val
      type := MediaType.data
      flags := 0
      requestId := 0
      streamId := slot.streamId
      payload := wire.take payloadSize })

/-- The slot that the loop of `queue_media` turns to next. -/
def nextLook (index : Fin 3) : MediaPoint :=
  if index = 0 then .looking 1 else if index = 1 then .looking 2 else .resting

def lookSlot (state : MediaState) (index : Fin 3) (answer : ReadAnswer) (now : Nat) : MediaMove :=
  let prepared := if index = 0 then preparePullScreen config state (state.media 0) answer now else (state.media index, [])
  ⟨some (state.setSlot index prepared.1), .sized index (dataHeaderSize + prepared.1.size), prepared.2⟩

/-- The tests of `queue_media`, against the size that it has read. -/
def sendable (slot : MediaSlot) (payloadSize : Nat) : Bool :=
  slot.active && slot.pending && slot.data.isSome && slot.credit.toNat ≥ payloadSize

end calls

/-- What happens next to the media channels: a call of the application at a critical section, a frame or
a poll, or one more step of what the task has begun. -/
inductive MediaEvent
  | created (allocated : Bool)
  | released (held : Bool)
  | register (backend : ScreenBackend) (allocated : Bool)
  | unregister (userCtx : Nat) (held : Bool)
  | acquire
  | submit (channel : UInt8) (submission : Submission)
  | giveBack
  | frame (frame : DecodedFrame) (answers : MediaAnswers)
  | credit (channel : UInt8) (amount : UInt32)
  | settle
  | poll
  | look (answer : ReadAnswer) (now : Nat)
  | check
  | copy (rxWire : Vector UInt8 maxWireFrameSize)
  | endSession
  | endSlot (held : Bool)

structure MediaWorld where
  services : Option MediaState
  point : MediaPoint

def MediaWorld.initial : MediaWorld := ⟨none, .resting⟩

section steps
variable (config : MediaConfig) (world : MediaWorld)

def MediaWorld.keeping (services : Option MediaState) : MediaMove := ⟨services, world.point, []⟩

def applicationCall : MediaEvent → Option MediaMove
  | .created allocated => some (world.keeping (createState world.services allocated))
  | .released held => some (world.keeping (world.services.bind (maybeReleaseState held)))
  | .register backend allocated =>
    some (world.keeping ((createState world.services allocated).map (screenRegister · backend)))
  | .unregister userCtx held =>
    some (world.keeping (world.services.bind fun state =>
      match screenUnregister state userCtx with
      | none => some state
      | some removed => maybeReleaseState held removed))
  | .acquire => some (world.keeping (world.services.map fun state => { state with mediaUsers := state.mediaUsers + 1 }))
  | .submit channel submission =>
    -- The record that a call holds on to is there, since its use count keeps it.
    match world.services with
    | some state => if 0 < state.mediaUsers then some (world.keeping (some (mediaSubmit config state channel submission).1)) else none
    | none => none
  | .giveBack => some (world.keeping (world.services.map fun state => { state with mediaUsers := state.mediaUsers - 1 }))
  | _ => none

def taskStep : MediaEvent → Option MediaMove
  | .frame frame answers =>
    if world.point = .resting then some (handleMedia config world.services frame answers) else none
  | .credit channel amount =>
    if world.point = .resting then some (.done (irisServicesCredit world.services channel amount).1 []) else none
  | .settle =>
    match world.point, world.services with
    | .starting index stage header, some state => some (settleStart state index stage header)
    | _, _ => none
  | .poll =>
    if world.point = .resting then
      some ⟨world.services, if world.services.isSome then .looking 0 else .resting, []⟩
    else none
  | .look answer now =>
    match world.point, world.services with
    | .looking index, some state => some (lookSlot config state index answer now)
    | _, _ => none
  | .check =>
    match world.point, world.services with
    | .sized index payloadSize, some state =>
      some ⟨some state, if sendable (state.media index) payloadSize then .checked index payloadSize else nextLook index, []⟩
    | _, _ => none
  | .copy rxWire =>
    match world.point, world.services with
    | .checked index payloadSize, some state =>
      (state.media index).data.map fun data =>
        let copied := copySlot (state.media index) index data rxWire.toList payloadSize
        .done (some (state.setSlot index copied.1)) [.data index copied.2]
    | _, _ => none
  | .endSession =>
    if world.point = .resting then
      match world.services with
      | none => some (.done none [])
      | some state => some ⟨some (closeCapture state).1, .ending 0, (closeCapture state).2⟩
    else none
  | .endSlot held =>
    match world.point, world.services with
    | .ending index, some state =>
      let stopped := stopMirror state index
      if index = 2 then some (.done (maybeReleaseState held stopped.1) stopped.2)
      else some ⟨some stopped.1, .ending (index + 1), stopped.2⟩
    | _, _ => none
  | _ => none

def mediaStep (event : MediaEvent) : Option MediaMove :=
  (applicationCall config world event).or (taskStep config world event)

end steps

structure MediaRun where
  world : MediaWorld
  outputs : List MediaOutput

def MediaRun.next (config : MediaConfig) (run : MediaRun) (event : MediaEvent) : Option MediaRun :=
  (mediaStep config run.world event).map fun move =>
    ⟨⟨move.services, move.point⟩, run.outputs ++ move.outputs⟩

def mediaSystem (config : MediaConfig) : Machine.System MediaRun MediaEvent :=
  .ofPartial (fun run => run = ⟨.initial, []⟩) (MediaRun.next config)

end EspIris.Device.Media
