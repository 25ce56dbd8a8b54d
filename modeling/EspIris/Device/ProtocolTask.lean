import EspIris.Device.Executor
import EspIris.Device.Session

/-! The protocol task, `iris_worker` and `pump_link`, next to the executor's worker. The task is
cut at the calls of the executor and at every received byte; what the network, the drivers, the
handlers and the clock contribute to a step comes with its event. -/

namespace EspIris.Device
open Codec.Device Machine

/-- Where `feed_rx` stands, in which burst of the pump; `session` is `input_session`. -/
structure Feed where
  burst : Nat
  session : UInt32
  data : List UInt8
  consumed : Nat
  deriving DecidableEq, Repr

inductive Phase
  | poll
  | ending
  | pump (burst : Nat)
  | feeding (feed : Feed)
  | handled (feed : Feed)
  | reopening (feed : Feed)
  | produce (burst : Nat) (progressed : Bool)
  | drained (burst : Nat) (progressed : Bool)
  | finish (burst : Nat) (progressed : Bool)
  deriving DecidableEq, Repr

inductive Observation
  | begun (session : UInt32) (drawn : Option (List UInt8))
  | ended
  | read (connection : Option Nat) (bytes : List UInt8)
  | fed (connection : Option Nat) (value : UInt8)
  | wrote (connection : Option Nat) (count : Nat)
  | frame (frame : DecodedFrame)
  | hello (challenge : Option (List UInt8))
  | authenticated (connection : Option Nat) (session : UInt32) (challenge payload : List UInt8)
  | ready
  | served (frame : DecodedFrame)
  | executor (trace : Trace)
  | picked (ticket : Nat)

/-- The device while it runs. The ghosts are the drawn challenges, the connection behind the
pending bytes, and the log. -/
structure DeviceState where
  runtime : Runtime
  transport : TransportManager
  mailbox : Mailbox
  challenge : List UInt8
  phase : Phase
  issued : Nat
  drawn : List (List UInt8)
  rxFrom : Option Nat
  log : List Observation

structure Choices where
  link : LinkInput
  sent : LinkWrite
  received : LinkRead
  session : UInt32
  random : List UInt8
  psaSucceeds : Bool
  helloFields : List UInt8
  eventFields : List UInt8
  handler : HandlerInput
  file : Option Reply
  job : Option Reply
  media : List MediaSlot
  record : Option (List UInt8)
  call : CallInput

def DeviceState.note (device : DeviceState) (observations : List Observation) : DeviceState :=
  { device with log := device.log ++ observations }

def linkConnection (transport : TransportManager) : Option Nat :=
  if transport.active = some .tcp then transport.tcp.client else none

section task
variable (config : Config)

/-- `begin_session` with `iris_services_session_begin`, which leaves the challenge alone while
the executor is busy. -/
def startSession (device : DeviceState) (choices : Choices) : DeviceState :=
  match beginSession device.runtime choices.session with
  | none => device
  | some runtime =>
    if executorBusy device.mailbox ∨ config.pairing = none then
      { device with runtime := runtime, log := device.log ++ [.begun choices.session none] }
    else
      { device with
        runtime := runtime
        challenge := choices.random
        drawn := choices.random :: device.drawn
        log := device.log ++ [.begun choices.session (some choices.random)] }

/-- The head of `end_session`: the services hear of it only when the host was authenticated. -/
def leaveServices (device : DeviceState) : DeviceState :=
  if device.runtime.helloAcked then
    let abandoned := abandonStart device.mailbox false
    { device with
      mailbox := abandoned.1
      log := device.log ++ abandoned.2.map .executor }
  else device

/-- The rest of `end_session`. -/
def resetSession (device : DeviceState) : DeviceState :=
  { device with runtime := endSession device.runtime, log := device.log ++ [.ended] }

def greet (device : DeviceState) (choices : Choices) : DeviceState × EspErr :=
  let published := irisServicesAuthChallenge config (irisTransportKind config device.transport) device.challenge
  let queued := queueHello device.runtime choices.helloFields published
  ({ device with
    runtime := queued.1
    log := if queued.2 = EspErr.ok then device.log ++ [.hello published] else device.log }, queued.2)

/-- The head of the loop in `iris_worker`. -/
def pollLink (device : DeviceState) (choices : Choices) : DeviceState :=
  let polled := irisTransportPoll config device.transport choices.link
  let device := { device with transport := polled.1 }
  let goOn (device : DeviceState) : DeviceState :=
    { device with phase := if device.runtime.linkConnected then .pump 0 else .poll }
  match polled.2 with
  | .connected => goOn (startSession config device choices)
  | .disconnected => { leaveServices device with phase := .ending }
  | .none => goOn device

def flushTx (device : DeviceState) (sent : LinkWrite) : DeviceState × Bool :=
  if device.runtime.txWire = [] then (device, false)
  else
    let rest := device.runtime.txWire.drop device.runtime.txWireOffset
    let written := irisTransportWrite device.transport sent rest.length
    if written.2 = 0 then ({ device with transport := written.1 }, false)
    else
      let offset := device.runtime.txWireOffset + written.2
      let runtime :=
        if offset = device.runtime.txWire.length then
          { device.runtime with txWire := [], txWireOffset := 0, txFrames := device.runtime.txFrames + 1 }
        else { device.runtime with txWireOffset := offset }
      ({ device with
        runtime := runtime
        transport := written.1
        log := device.log ++ [.wrote (linkConnection device.transport) written.2] }, true)

/-- What the loop in `iris_worker` makes of the result of `pump_link`. -/
def nextBurst (device : DeviceState) (burst : Nat) (progressed : Bool) : DeviceState :=
  { device with
    phase := if progressed ∧ device.runtime.txWire = [] ∧ burst + 1 < 8 then .pump (burst + 1) else .poll }

def disconnectAfterTx (device : DeviceState) : DeviceState :=
  { device with
    runtime := { device.runtime with disconnectAfterTx := false }
    transport := irisTransportDisconnect device.transport }

def fetchPending (device : DeviceState) (received : LinkRead) : DeviceState :=
  if device.runtime.rxPendingOffset = device.runtime.rxPending.length then
    let read := irisTransportRead device.transport received
    let runtime := { device.runtime with rxPending := read.2, rxPendingOffset := 0 }
    if read.2 = [] then { device with runtime := runtime, transport := read.1 }
    else
      { device with
        runtime := runtime
        transport := read.1
        rxFrom := linkConnection device.transport
        log := device.log ++ [.read (linkConnection device.transport) read.2] }
  else device

/-- `pump_link` up to the call of `feed_rx`. -/
def pumpLink (device : DeviceState) (burst : Nat) (choices : Choices) : DeviceState :=
  let flushed := flushTx device choices.sent
  if flushed.1.runtime.txWire = [] ∧ flushed.1.runtime.disconnectAfterTx then
    nextBurst (disconnectAfterTx flushed.1) burst true
  else if flushed.1.runtime.txWire ≠ [] then nextBurst flushed.1 burst flushed.2
  else
    let fetched := fetchPending flushed.1 choices.received
    let data := fetched.runtime.rxPending.drop fetched.runtime.rxPendingOffset
    if data = [] then { fetched with phase := .produce burst flushed.2 }
    else { fetched with phase := .feeding ⟨burst, fetched.runtime.sessionId, data, 0⟩ }

/-- The return from `feed_rx`. -/
def finishFeed (device : DeviceState) (feed : Feed) : DeviceState :=
  { device with
    runtime :=
      if device.runtime.sessionId = feed.session then
        { device.runtime with rxPendingOffset := device.runtime.rxPendingOffset + feed.consumed }
      else device.runtime
    phase := .produce feed.burst true }

def countInvalid (device : DeviceState) : DeviceState :=
  { device with runtime := { device.runtime with invalidFrames := device.runtime.invalidFrames + 1 } }

def answerAuth (kind : Option TransportKind) (runtime : Runtime) (header : WireHeader) (verdict : EspErr) : Runtime :=
  if irisServicesAuthMode config kind = 0 then runtime
  else
    let accepted := verdict = EspErr.ok
    let queued := (queueFrame runtime ⟨Channel.control, ControlType.authResult,
      Flag.response ||| (if accepted then 0 else Flag.error), header.requestId, 0, [if accepted then 1 else 0]⟩).1
    if accepted then queued else { queued with disconnectAfterTx := true }

/-- The arm of `handle_control` for HELLO_ACK. -/
def handleHelloAck (device : DeviceState) (feed : Feed) (frame : DecodedFrame) (choices : Choices) : DeviceState :=
  let kind := irisTransportKind config device.transport
  let verdict := irisServicesAuthenticate config kind device.runtime device.challenge frame.payload choices.psaSucceeds
  if frame.header.flags &&& Flag.newSession ≠ 0 then
    if verdict ≠ EspErr.ok then
      { device with runtime := refuse device.runtime frame.header EspErr.invalidState, phase := .handled feed }
    else { leaveServices device with phase := .reopening feed }
  else if device.runtime.helloAcked then { device with phase := .handled feed }
  else
    let runtime := answerAuth config kind device.runtime frame.header verdict
    if verdict ≠ EspErr.ok then { device with runtime := runtime, phase := .handled feed }
    else
      match transitionSession runtime .authenticated with
      | none => { device with runtime := runtime, phase := .handled feed }
      | some ready =>
        { device with
          runtime := scheduleSessionEvents ready
          transport := irisTransportCommit config device.transport choices.link
          phase := .handled feed
          log := device.log ++
            [.authenticated device.rxFrom device.runtime.sessionId device.challenge frame.payload, .ready] }

def ownControl (header : WireHeader) : Bool :=
  header.channel = Channel.control &&
    (header.type = ControlType.ping || header.type = ControlType.timeSyncRequest ||
      header.type = ControlType.statusRequest || header.type = ControlType.credit)

/-- What `handle_frame` does with a frame of an authenticated host. -/
def serveFrame (device : DeviceState) (feed : Feed) (frame : DecodedFrame) (choices : Choices) : DeviceState :=
  let device := { device.note [.served frame] with phase := .handled feed }
  if ownControl frame.header then { device with runtime := handleControl device.runtime frame choices.handler }
  else if frame.header.channel = Channel.crash then
    { device with runtime := handleCrash device.runtime frame choices.handler }
  else
    let path : DispatchPath := dispatchPath config.otaEnabled (executorBusy device.mailbox) frame.header
    { device with
      mailbox := dispatchStart config.otaEnabled device.mailbox frame
      issued := device.issued + 1
      runtime :=
        if path = DispatchPath.inline ∨ path = DispatchPath.status then serveInline device.runtime frame choices.handler
        else device.runtime }

def isHelloAck (header : WireHeader) : Bool :=
  header.channel = Channel.control && header.type = ControlType.helloAck

/-- The checks of `handle_frame`. -/
def gateFrame (device : DeviceState) (feed : Feed) (frame : DecodedFrame) (choices : Choices) : DeviceState :=
  if frame.header.sessionId ≠ device.runtime.sessionId then { countInvalid device with phase := .handled feed }
  else if device.runtime.helloAcked = false ∧ isHelloAck frame.header = false then
    { countInvalid device with phase := .handled feed }
  else if isHelloAck frame.header then handleHelloAck config device feed frame choices
  else if staleSequence device.runtime frame.header then { countInvalid device with phase := .handled feed }
  else serveFrame config { device with runtime := noteSequence device.runtime frame.header } feed frame choices

def handleFrame (device : DeviceState) (feed : Feed) (frame : DecodedFrame) (choices : Choices) : DeviceState :=
  gateFrame config { device with runtime := { device.runtime with rxFrames := device.runtime.rxFrames + 1 } } feed frame
    choices

/-- One turn of the loop in `feed_rx`. -/
def feedRx (device : DeviceState) (feed : Feed) (choices : Choices) : DeviceState :=
  match feed.data with
  | [] => finishFeed device feed
  | value :: rest =>
    let later := { feed with data := rest, consumed := feed.consumed + 1 }
    let received := receiveByte device.runtime value
    let device := { device.note [.fed device.rxFrom value] with runtime := received.1 }
    match received.2 with
    | none => { device with phase := .feeding later }
    | some (.error _) => { countInvalid device with phase := .handled later }
    | some (.ok frame) => handleFrame config (device.note [.frame frame]) later frame choices

def frameDone (device : DeviceState) (feed : Feed) : DeviceState :=
  let device := { device with runtime := { device.runtime with rxWireLength := 0 } }
  if device.runtime.txWire ≠ [] then finishFeed device feed else { device with phase := .feeding feed }

def reopen (device : DeviceState) (feed : Feed) (choices : Choices) : DeviceState :=
  let begun := startSession config (resetSession device) choices
  let renewed := { begun with transport := irisTransportRenewClaim config begun.transport choices.link.now }
  let greeted := (greet config renewed choices).1
  { greeted with
    runtime := { greeted.runtime with nextHelloUs := choices.link.now + helloIntervalUs }
    phase := .handled feed }

def produceFrame (device : DeviceState) (burst : Nat) (progressed : Bool) (choices : Choices) : DeviceState :=
  let finished (device : DeviceState) : DeviceState := { device with phase := .finish burst progressed }
  if device.runtime.txWire ≠ [] then finished device
  else
    let replayHello := irisTransportKind config device.transport = some .usbSerialJtag
    if (device.runtime.helloAcked = false ∨ replayHello) ∧ choices.link.now ≥ device.runtime.nextHelloUs then
      let greeted := greet config device choices
      if greeted.2 = EspErr.ok then
        finished { greeted.1 with
          runtime := { greeted.1.runtime with nextHelloUs := choices.link.now + helloIntervalUs } }
      else finished greeted.1
    else if device.runtime.helloAcked then
      match nextPendingEvent device.runtime with
      | some type => finished { device with runtime := queueEvent device.runtime type choices.eventFields }
      | none =>
        { device with
          mailbox := drainStart device.mailbox device.runtime
          phase := .drained burst progressed }
    else finished device

def queueSome (runtime : Runtime) : Option Reply → Runtime
  | some reply => (queueFrame runtime reply).1
  | none => runtime

def logIfFree (runtime : Runtime) (record : Option (List UInt8)) : Runtime :=
  if runtime.txWire = [] then queueNextLog runtime record else runtime

/-- `iris_services_queue_next` after the executor was drained, then the log. -/
def produceService (device : DeviceState) (choices : Choices) : Runtime :=
  if executorBusy device.mailbox then logIfFree device.runtime choices.record
  else
    let filed := queueSome device.runtime choices.file
    if filed.txWire ≠ [] then filed
    else
      match choices.job with
      | some reply => logIfFree (queueFrame filed reply).1 choices.record
      | none => logIfFree (queueMedia filed choices.media) choices.record

def drainedFrame (device : DeviceState) (burst : Nat) (progressed : Bool) (choices : Choices) : DeviceState :=
  { device with
    runtime := if device.runtime.txWire ≠ [] then device.runtime else produceService device choices
    phase := .finish burst progressed }

/-- The end of `pump_link`. -/
def finishPump (device : DeviceState) (burst : Nat) (progressed : Bool) (choices : Choices) : DeviceState :=
  let progressed := progressed || device.runtime.txWire ≠ []
  let flushed := (flushTx device choices.sent).1
  if flushed.runtime.txWire = [] ∧ flushed.runtime.disconnectAfterTx then
    nextBurst (disconnectAfterTx flushed) burst true
  else nextBurst flushed burst progressed

def taskStep (device : DeviceState) (choices : Choices) : DeviceState :=
  match device.phase with
  | .poll => pollLink config device choices
  | .ending => { resetSession device with phase := .poll }
  | .pump burst => pumpLink device burst choices
  | .feeding feed => feedRx config device feed choices
  | .handled feed => frameDone device feed
  | .reopening feed => reopen config device feed choices
  | .produce burst progressed => produceFrame config device burst progressed choices
  | .drained burst progressed => drainedFrame device burst progressed choices
  | .finish burst progressed => finishPump device burst progressed choices

inductive DeviceEvent
  | task (choices : Choices)
  | worker (input : WorkerInput)
  | line (hostOpen : Bool)
  | schedule (type : UInt8)
  | facts (healthy previousBootCrash coreDumpPresent crashLoopTriggered : Bool)

def picks (mailbox : Mailbox) (input : WorkerInput) : Bool :=
  match mailbox.worker, input with
  | .checking, .advance => !mailbox.abandoned
  | _, _ => false

/-- The random source never repeats a challenge and never gives the null session, and the fields
of a HELLO, which take 475 bytes at most, leave room for the challenge. -/
structure Choices.Admissible (choices : Choices) (device : DeviceState) : Prop where
  session : choices.session ≠ 0
  size : choices.random.length = authChallengeBytes
  fresh : choices.random ∉ device.drawn
  fields : choices.helloFields.length + (3 + authChallengeBytes) ≤ helloPayloadSize

instance (choices : Choices) (device : DeviceState) : Decidable (choices.Admissible device) :=
  decidable_of_iff
    (choices.session ≠ 0 ∧ choices.random.length = authChallengeBytes ∧ choices.random ∉ device.drawn ∧
      choices.helloFields.length + (3 + authChallengeBytes) ≤ helloPayloadSize)
    ⟨fun ⟨session, size, fresh, fields⟩ => ⟨session, size, fresh, fields⟩,
      fun ⟨session, size, fresh, fields⟩ => ⟨session, size, fresh, fields⟩⟩

/-- A step, whatever its choices. -/
def ownersNext (device : DeviceState) (event : DeviceEvent) : Option DeviceState :=
  match event with
  | .task choices =>
    if device.mailbox.call = .idle then some (taskStep config device choices)
    else
      (callStep device.mailbox device.runtime device.issued choices.call).map fun result =>
        { device with
          mailbox := result.1
          runtime := result.2.1
          log := device.log ++ result.2.2.map .executor }
  | .worker input =>
    (workerStep device.mailbox input).map fun result =>
      { device with
        mailbox := result.1
        log := device.log ++ (if picks device.mailbox input then [.picked device.mailbox.ticket] else []) ++
          result.2.map .executor }
  | .line hostOpen =>
    some { device with transport := { device.transport with usb := lineState device.transport.usb hostOpen } }
  | .schedule type => some { device with runtime := scheduleEvent device.runtime type }
  | .facts healthy previousBootCrash coreDumpPresent crashLoopTriggered =>
    some { device with
      runtime := { device.runtime with
        healthy := healthy
        previousBootCrash := previousBootCrash
        coreDumpPresent := coreDumpPresent
        crashLoopTriggered := crashLoopTriggered } }

def deviceNext (device : DeviceState) (event : DeviceEvent) : Option DeviceState :=
  if device.mailbox.fault then none
  else
    match event with
    | .task choices => if choices.Admissible device then ownersNext config device event else none
    | _ => ownersNext config device event

inductive DeviceStep (before : DeviceState) : DeviceEvent → DeviceState → Prop
  | task (choices : Choices) (admissible : choices.Admissible before) (outside : before.mailbox.call = .idle) :
      DeviceStep before (.task choices) (taskStep config before choices)
  | call (choices : Choices) (result : Mailbox × Runtime × List Trace) (inside : before.mailbox.call ≠ .idle)
      (moved : callStep before.mailbox before.runtime before.issued choices.call = some result) :
      DeviceStep before (.task choices) { before with
        mailbox := result.1
        runtime := result.2.1
        log := before.log ++ result.2.2.map .executor }
  | worker (input : WorkerInput) (result : Mailbox × List Trace)
      (moved : workerStep before.mailbox input = some result) :
      DeviceStep before (.worker input) { before with
        mailbox := result.1
        log := before.log ++ (if picks before.mailbox input then [.picked before.mailbox.ticket] else []) ++
          result.2.map .executor }
  | line (hostOpen : Bool) :
      DeviceStep before (.line hostOpen)
        { before with transport := { before.transport with usb := lineState before.transport.usb hostOpen } }
  | schedule (type : UInt8) :
      DeviceStep before (.schedule type) { before with runtime := scheduleEvent before.runtime type }
  | facts (healthy previousBootCrash coreDumpPresent crashLoopTriggered : Bool) :
      DeviceStep before (.facts healthy previousBootCrash coreDumpPresent crashLoopTriggered) { before with
        runtime := { before.runtime with
          healthy := healthy
          previousBootCrash := previousBootCrash
          coreDumpPresent := coreDumpPresent
          crashLoopTriggered := crashLoopTriggered } }

theorem deviceNext_step {before after : DeviceState} {event : DeviceEvent}
    (step : deviceNext config before event = some after) : DeviceStep config before event after := by
  unfold deviceNext at step
  split at step
  · contradiction
  cases event with
  | task choices =>
    obtain ⟨admissible, step⟩ := Option.ite_none_right_eq_some.mp step
    unfold ownersNext at step
    dsimp only at step
    split at step
    next outside =>
      cases step
      exact .task choices admissible outside
    next inside =>
      obtain ⟨result, moved, rfl⟩ := Option.map_eq_some_iff.mp step
      exact .call choices result inside moved
  | worker input =>
    obtain ⟨result, moved, rfl⟩ := Option.map_eq_some_iff.mp step
    exact .worker input result moved
  | line hostOpen | schedule type | facts healthy previousBootCrash coreDumpPresent crashLoopTriggered =>
    cases step
    constructor

theorem workerStep_observes {Holds : Observation → Prop} {picked : Prop} [Decidable picked] {ticket : Nat}
    {traces : List Trace} (picks : Holds (.picked ticket)) (runs : ∀ trace, Holds (.executor trace)) :
    ∀ other ∈ (if picked then [.picked ticket] else []) ++ traces.map .executor, Holds other := by
  intro other inside
  rcases List.mem_append.mp inside with pick | traced
  · split at pick
    · rw [List.mem_singleton.mp pick]
      exact picks
    · contradiction
  · obtain ⟨trace, -, rfl⟩ := List.mem_map.mp traced
    exact runs trace

end task

def DeviceState.initial (deviceId : List UInt8) (bootId : UInt64) : DeviceState where
  runtime := { Runtime.zero with deviceId := deviceId, bootId := bootId }
  transport := .initial
  mailbox := .initial
  challenge := List.replicate authChallengeBytes 0
  phase := .poll
  issued := 0
  drawn := []
  rxFrom := none
  log := []

def device (config : Config) : System DeviceState DeviceEvent :=
  .ofPartial (fun state => ∃ deviceId bootId, state = DeviceState.initial deviceId bootId) (deviceNext config)

def tcpOnly : Config where
  transports := [.tcp]
  claimTimeoutUs := 2000000
  otaEnabled := true
  pairing := none
  hmac := fun _ _ => []

def Choices.quiet : Choices where
  link := ⟨0, fun _ => true, true, true, false, false, false⟩
  sent := .accepted maxWireFrameSize
  received := .nothing
  session := 7
  random := List.replicate authChallengeBytes 1
  psaSucceeds := true
  helloFields := []
  eventFields := []
  handler := ⟨0, 0, [], true, .error EspErr.notFound, false, true, [], []⟩
  file := none
  job := none
  media := []
  record := none
  call := ⟨true, true, true, ⟨Channel.control, ControlType.jobStatus, 0, 0, 0, []⟩⟩

def Choices.reading (choices : Choices) (bytes : List UInt8) : Choices := { choices with received := .bytes bytes }

def Choices.accepting (choices : Choices) : Choices := { choices with link := { choices.link with accepts := true } }

def hostWire (channel type : UInt8) (flags : UInt16) (sequence : UInt32) (payload : List UInt8) : List UInt8 :=
  (irisFrameEncode (List.replicate maxWireFrameSize 0) maxWireFrameSize
    ⟨channel, type, flags, 7, sequence, 0, sequence, 0⟩ payload).toOption.getD []

end EspIris.Device
