import EspIris.Gateway.Session
import EspIris.Lib.Machine

/-! The tasks of one device session: requests, credit grants and the reader, `run`, which share
the request lock, the write lock and the link. A task is cut where it can wait; whoever waits for
a free lock may get it next, so every order in which the locks are granted is a run. -/

namespace EspIris.Gateway
open Codec.Host (Frame ProtocolError encodeFrame)
open Machine

/-- The arguments of `_request`. -/
structure Request where
  channel : Int
  type : Int
  payload : List UInt8
  streamId : Int
  deriving DecidableEq, Repr

def requestChannels : List Int :=
  [Channel.control.toNat, Channel.screen.toNat, Channel.image.toNat, Channel.audio.toNat, Channel.ota.toNat,
    Channel.crash.toNat, Channel.file.toNat, Channel.systemUpdate.toNat]

def isProbe (request : Request) : Bool :=
  request.channel = Channel.control.toNat &&
    (request.type = ControlType.statusRequest.toNat || request.type = ControlType.ping.toNat ||
      request.type = ControlType.timeSyncRequest.toNat)

def isOtaData (request : Request) : Bool := request.channel = Channel.ota.toNat && request.type = OtaType.data.toNat

/-- The arguments of `_send`, with the session id that it reads before it waits for its turn. -/
structure Outgoing where
  sessionId : Int
  channel : Int
  type : Int
  flags : Int
  requestId : Int
  streamId : Int
  payload : List UInt8
  deriving DecidableEq, Repr

inductive TaskPhase
  | locking
  | readying
  | sending (outgoing : Outgoing)
  | writing
  | waiting
  deriving DecidableEq, Repr

/-- A task that sends: a request, or a credit grant when there is none. `drawn` is a ghost, the
unrolled request id. -/
structure Task where
  phase : TaskPhase
  request : Option Request
  requestId : Option Nat
  drawn : Nat
  outcome : Option (Except Raised Frame)

/-- The task of `run`: between two frames, in a handler, or over. -/
inductive Reader
  | idle
  | performing (effects : List Effect) (raises : Option Raised)
  | sending (outgoing : Outgoing) (rest : List Effect) (raises : Option Raised)
  | writing (rest : List Effect) (raises : Option Raised)
  | ended (raised : Raised)

inductive Sender
  | reader
  | task (number : Nat)
  deriving DecidableEq, Repr

structure Sent where
  frame : Frame
  number : Nat
  drawn : Nat

/-- The session with its tasks and locks. The ghosts are the unrolled counters, and the requests
that ended without their response. -/
structure HostState where
  session : DeviceSession
  reader : Reader
  tasks : Nat → Option Task
  started : Nat
  writer : Option Sender
  requester : Option Nat
  wire : List Sent
  numbered : Int → Nat
  drawn : Nat
  expired : List (Int × Request)

inductive HostEvent
  | request (request : Request)
  | batch (request : Request)
  | grant (channel : Int) (amount : Nat)
  | lock (task : Nat)
  | begin (task : Nat)
  | turn (sender : Sender)
  | written (sender : Sender)
  | failed (sender : Sender) (raised : Raised)
  | finish (task : Nat)
  | cancel (task : Nat)
  | frame (frame : Frame) (nonce : List UInt8)
  | perform (raised : Option Raised)
  | close

def sessionIdOf (session : DeviceSession) : Int := (session.info.map DeviceInfo.sessionId).getD 0

def nextRequestId (requestId : Nat) : Nat :=
  let next := (requestId + 1) % 2 ^ 32
  if next = 0 then 1 else next

def nextDrawn (drawn : Nat) : Nat := if (drawn + 1) % 2 ^ 32 = 0 then drawn + 2 else drawn + 1

def HostState.setTask (state : HostState) (number : Nat) (task : Option Task) : HostState :=
  { state with tasks := fun other => if other = number then task else state.tasks other }

def HostState.start (state : HostState) (phase : TaskPhase) (request : Option Request) : HostState :=
  { state.setTask state.started (some ⟨phase, request, none, 0, none⟩) with started := state.started + 1 }

def HostState.drop (state : HostState) (number : Nat) (task : Task) : HostState :=
  { state.setTask number none with
    session := { state.session with
      pending := fun id =>
        if task.requestId.any fun requestId => id = (requestId : Int) then none else state.session.pending id }
    requester := if state.requester = some number then none else state.requester
    writer := if state.writer = some (.task number) then none else state.writer }

/-- `_fail_pending` on the futures of the tasks. -/
def failTask (task : Task) : Task :=
  match task.requestId, task.outcome with
  | some _, none => { task with outcome := some (.error (.connection "ESP-Iris session closed")) }
  | _, _ => task

/-- `close`, and the end of `run`. -/
def HostState.close (state : HostState) : HostState :=
  { state with
    session := { state.session with
      closed := true
      state := (sessionTransition state.session.state .close).getD state.session.state
      pending := fun _ => none }
    tasks := fun number => (state.tasks number).map failTask }

def HostState.endReader (state : HostState) (raised : Raised) : HostState :=
  { state.close with
    reader := .ended raised
    writer := if state.writer = some .reader then none else state.writer }

def requestFrame (session : DeviceSession) (request : Request) (requestId : Nat) : Outgoing where
  sessionId := sessionIdOf session
  channel := request.channel
  type := request.type
  flags := 0
  requestId := requestId
  streamId := request.streamId
  payload := request.payload

def creditFrame (session : DeviceSession) (channel : Int) (amount : Nat) : Outgoing where
  sessionId := sessionIdOf session
  channel := Channel.control.toNat
  type := ControlType.credit.toNat
  flags := 0
  requestId := 0
  streamId := 0
  payload := creditPayload channel amount

/-- `_request_unlocked` after `wait_ready`, up to its wait for the write lock. -/
def HostState.begin (state : HostState) (number : Nat) (task : Task) (request : Request) : HostState :=
  let requestId := nextRequestId state.session.requestId
  let drawn := nextDrawn state.drawn
  let begun := state.setTask number (some { task with
    phase := .sending (requestFrame state.session request requestId)
    requestId := some requestId
    drawn := drawn })
  { begun with
    session := { state.session with
      requestId := requestId
      pending := fun id => if id = (requestId : Int) then some number else state.session.pending id }
    drawn := drawn }

def outgoingFrame (outgoing : Outgoing) (sequence : Nat) : Frame where
  channel := outgoing.channel
  type := outgoing.type
  flags := outgoing.flags
  sessionId := outgoing.sessionId
  requestId := outgoing.requestId
  streamId := outgoing.streamId
  sequence := sequence
  payload := outgoing.payload

/-- `_send` with the write lock, up to the call of `link.write`. -/
def HostState.number (state : HostState) (outgoing : Outgoing) : HostState × Frame :=
  let sequence := (state.session.sequence outgoing.channel + 1) % 2 ^ 32
  let session := { state.session with
    sequence := fun channel => if channel = outgoing.channel then sequence else state.session.sequence channel }
  let numbered := fun channel =>
    if channel = outgoing.channel then state.numbered channel + 1 else state.numbered channel
  ({ state with session := session, numbered := numbered }, outgoingFrame outgoing sequence)

def HostState.handOver (state : HostState) (sender : Sender) (outgoing : Outgoing) (drawn : Nat) : Option HostState :=
  let numbered := state.number outgoing
  match encodeFrame numbered.2 with
  | .ok _ =>
    some { numbered.1 with
      writer := some sender
      wire := state.wire ++ [⟨numbered.2, numbered.1.numbered outgoing.channel, drawn⟩] }
  | .error _ => none

def HostState.turn (state : HostState) (sender : Sender) : Option HostState :=
  if state.writer ≠ none then none
  else
    match sender with
    | .task number =>
      match state.tasks number with
      | some task =>
        match task.phase with
        | .sending outgoing =>
          match state.handOver sender outgoing task.drawn with
          | some sent => some (sent.setTask number (some { task with phase := .writing }))
          | none => some ((state.number outgoing).1.drop number task)
        | _ => none
      | none => none
    | .reader =>
      match state.reader with
      | .sending outgoing rest raises =>
        match state.handOver sender outgoing 0 with
        | some sent => some { sent with reader := .writing rest raises }
        | none => some ((state.number outgoing).1.endReader (.protocol "frame does not encode"))
      | _ => none

/-- `link.write` returned. -/
def HostState.written (state : HostState) (sender : Sender) : Option HostState :=
  if state.writer ≠ some sender then none
  else
    match sender with
    | .task number =>
      match state.tasks number with
      | some task =>
        if task.phase ≠ .writing then none
        else if task.request = none then some (state.drop number task)
        else some { state.setTask number (some { task with phase := .waiting }) with writer := none }
      | none => none
    | .reader =>
      match state.reader with
      | .writing rest raises => some { state with reader := .performing rest raises, writer := none }
      | _ => none

/-- `link.write` raised. -/
def HostState.failed (state : HostState) (sender : Sender) (raised : Raised) : Option HostState :=
  if state.writer ≠ some sender then none
  else
    match sender with
    | .task number => (state.tasks number).map (state.drop number)
    | .reader => some (state.endReader raised)

/-- `future.set_result` or `set_exception`, unless the future is done. -/
def HostState.resolve (state : HostState) (future : Nat) (outcome : Except Raised Frame) : HostState :=
  match state.tasks future with
  | some task => if task.outcome.isSome then state else state.setTask future (some { task with outcome := some outcome })
  | none => state

def HostState.effect (state : HostState) : Effect → HostState
  | .logGranted amount => { state with session := { state.session with logCredit := state.session.logCredit + amount } }
  | .mediaGranted channel amount =>
    { state with
      session := { state.session with
        mediaCredit := fun other =>
          if other = channel then state.session.mediaCredit other + amount else state.session.mediaCredit other } }
  | .announce => { state with session := { state.session with ready := true } }
  | .resolve future outcome => state.resolve future outcome
  | _ => state

def HostState.perform (state : HostState) (raised : Option Raised) : Option HostState :=
  match state.reader with
  | .performing [] none => some { state with reader := .idle }
  | .performing [] (some raises) => some (state.endReader raises)
  | .performing (.send channel type flags payload :: rest) raises =>
    some { state with
      reader := .sending ⟨sessionIdOf state.session, channel, type, flags, 0, 0, payload⟩ rest raises }
  | .performing (effect :: rest) raises =>
    match raised with
    | some raised => some (state.endReader raised)
    | none => some { state.effect effect with reader := .performing rest raises }
  | _ => none

def startsOver (before after : DeviceSession) : Bool := before.reopenSessionId.isSome && after.reopenSessionId.isNone

section host
variable (hmac : List UInt8 → List UInt8 → List UInt8)

def HostState.takeFrame (state : HostState) (frame : Frame) (nonce : List UInt8) : Option HostState :=
  match state.reader with
  | .idle =>
    let handled := handleFrame hmac nonce state.session frame
    some { state with
      session := handled.session
      reader := .performing handled.effects handled.raises
      numbered := if startsOver state.session handled.session then fun _ => 0 else state.numbered }
  | _ => none

def HostState.expire (state : HostState) (task : Task) : List (Int × Request) :=
  match task.requestId, task.request, task.outcome with
  | some requestId, some request, none => state.expired ++ [((requestId : Int), request)]
  | _, _, _ => state.expired

def hostNext (state : HostState) : HostEvent → Option HostState
  | .request request =>
    if request.channel ∈ requestChannels then
      some (state.start (if isProbe request then .readying else .locking) (some request))
    else none
  | .batch request => if isOtaData request then some (state.start .readying (some request)) else none
  | .grant channel amount =>
    if state.session.ready then some (state.start (.sending (creditFrame state.session channel amount)) none)
    else none
  | .lock number =>
    match state.tasks number with
    | some task =>
      if task.phase = .locking ∧ state.requester = none then
        some { state.setTask number (some { task with phase := .readying }) with requester := some number }
      else none
    | none => none
  | .begin number =>
    match state.tasks number with
    | some task =>
      match task.phase, task.request with
      | .readying, some request =>
        if state.session.ready ∧ state.session.closed = false then some (state.begin number task request) else none
      | _, _ => none
    | none => none
  | .turn sender => state.turn sender
  | .written sender => state.written sender
  | .failed sender raised => state.failed sender raised
  | .finish number =>
    match state.tasks number with
    | some task => if task.phase = .waiting ∧ task.outcome.isSome then some (state.drop number task) else none
    | none => none
  | .cancel number =>
    (state.tasks number).map fun task => { state.drop number task with expired := state.expire task }
  | .frame frame nonce => state.takeFrame hmac frame nonce
  | .perform raised => state.perform raised
  | .close => some state.close

def HostState.initial (endpoint : String) (pairingToken : Option (List UInt8)) : HostState where
  session := .new endpoint pairingToken
  reader := .idle
  tasks := fun _ => none
  started := 0
  writer := none
  requester := none
  wire := []
  numbered := fun _ => 0
  drawn := 0
  expired := []

def host : System HostState HostEvent :=
  .ofPartial (fun state => ∃ endpoint pairingToken, state = .initial endpoint pairingToken) (hostNext hmac)

end host

def helloOf (session : DeviceSession) (frame : Frame) : Option DeviceInfo :=
  if isHello frame then
    (do helloInfo session.endpoint frame.sessionId (← decodeTlv frame.payload) : Except ProtocolError DeviceInfo).toOption
  else none

def tlvPut (tag : UInt8) (value : List UInt8) : List UInt8 := tag :: Bytes.littleEndian 2 value.length ++ value

def plainHello (sessionId : Int) (capabilities transport : Nat) : Frame where
  channel := Channel.control.toNat
  type := ControlType.hello.toNat
  flags := 0
  sessionId := sessionId
  requestId := 0
  streamId := 0
  sequence := 1
  payload := tlvPut TlvTag.deviceId (List.replicate 16 1) ++ tlvPut TlvTag.protocolVersion [1, 0] ++
    tlvPut TlvTag.capabilities (Bytes.littleEndian 8 capabilities) ++ tlvPut TlvTag.transport [UInt8.ofNat transport]

def SteadyCapability (state : HostState) : HostEvent → Prop
  | .frame frame _ =>
    ∀ current info, state.session.info = some current → helloOf state.session frame = some info →
      info.capabilities.testBit Capability.sessionReopen = current.capabilities.testBit Capability.sessionReopen
  | _ => True

instance (state : HostState) (event : HostEvent) : Decidable (SteadyCapability state event) :=
  match event with
  | .frame frame _ =>
    decidable_of_iff
      (∀ current ∈ state.session.info, ∀ info ∈ helloOf state.session frame,
        info.capabilities.testBit Capability.sessionReopen = current.capabilities.testBit Capability.sessionReopen)
      ⟨fun steady current info known reads => steady current known info reads,
        fun steady current known info reads => steady current info known reads⟩
  | .request _ | .batch _ | .grant _ _ | .lock _ | .begin _ | .turn _ | .written _ | .failed _ _ | .finish _
  | .cancel _ | .perform _ | .close => .isTrue trivial

end EspIris.Gateway
