import EspIris.Device.Session

/-! The state behind the services, `iris_service_state_t`: one record that is allocated when it
is first needed and freed when nothing holds it. What the backends and the heap answer comes with
the call. -/

namespace EspIris.Device
open Codec.Device

structure RpcEntry where
  serviceId : UInt16
  methodId : UInt16
  handler : Nat
  deriving DecidableEq, Repr

/-- The fields of `iris_media_slot_t` that decide about its lifetime; `data` is its buffer. -/
structure Stream where
  active : Bool
  pull : Bool
  data : Bool
  deriving DecidableEq, Repr

/-- `iris_service_state_t`, where a job slot is whether its magic is set. -/
structure ServiceState where
  rpc : List (Option RpcEntry)
  jobs : List Bool
  lastRpcRequestId : UInt32
  rpcRequestSeen : Bool
  screen : Option Nat
  captureActive : Bool
  media : List Stream
  authTokenReady : Bool
  restartPending : Bool
  mediaUsers : Nat
  deriving DecidableEq, Repr

structure ServiceLimits where
  rpcHandlers : Nat
  jobs : Nat
  rpcBody : Nat

def ServiceState.fresh (limits : ServiceLimits) : ServiceState where
  rpc := List.replicate limits.rpcHandlers none
  jobs := List.replicate limits.jobs false
  lastRpcRequestId := 0
  rpcRequestSeen := false
  screen := none
  captureActive := false
  media := List.replicate 3 ⟨false, false, false⟩
  authTokenReady := false
  restartPending := false
  mediaUsers := 0

/-- The tests of `maybe_release_state` that keep the record. -/
def ServiceState.held (state : ServiceState) : Bool :=
  state.authTokenReady || state.screen.isSome || state.captureActive || state.restartPending ||
    state.mediaUsers ≠ 0 || state.rpc.any Option.isSome || state.jobs.any id || state.media.any Stream.data

/-- `maybe_release_state` on the current record. -/
def maybeReleaseState (busy : Bool) (state : ServiceState) : Option ServiceState :=
  if busy || state.held then some state else none

section calls
variable (limits : ServiceLimits)

/-- `service_state(true)`, with whether the heap has room. -/
def createState (services : Option ServiceState) (allocated : Bool) : Option ServiceState :=
  match services with
  | some state => some state
  | none => if allocated then some (.fresh limits) else none

def RpcEntry.names (entry : RpcEntry) (serviceId methodId : UInt16) : Bool :=
  entry.serviceId = serviceId && entry.methodId = methodId

def rpcSlot (state : ServiceState) (serviceId methodId : UInt16) : Option Nat :=
  state.rpc.findIdx? fun entry => entry.any fun used => used.names serviceId methodId

/-- The critical section of `esp_iris_rpc_register`. -/
def addRpc (state : ServiceState) (entry : RpcEntry) : ServiceState × EspErr :=
  if (rpcSlot state entry.serviceId entry.methodId).isSome then (state, EspErr.invalidState)
  else
    match state.rpc.findIdx? Option.isNone with
    | some free => ({ state with rpc := state.rpc.set free (some entry) }, EspErr.ok)
    | none => (state, EspErr.noMem)

def rpcRegister (services : Option ServiceState) (entry : RpcEntry) (allocated : Bool) :
    Option ServiceState × EspErr :=
  if entry.serviceId = 0 ∨ entry.methodId = 0 then (services, EspErr.invalidArg)
  else
    match createState limits services allocated with
    | none => (none, EspErr.noMem)
    | some state => ((addRpc state entry).1, (addRpc state entry).2)

/-- The critical section of `esp_iris_rpc_unregister`. -/
def removeRpc (state : ServiceState) (serviceId methodId : UInt16) : Option ServiceState :=
  (rpcSlot state serviceId methodId).map fun slot => { state with rpc := state.rpc.set slot none }

def rpcUnregister (busy : Bool) (services : Option ServiceState) (serviceId methodId : UInt16) :
    Option ServiceState × EspErr :=
  if busy then (services, EspErr.invalidState)
  else
    match services with
    | none => (none, EspErr.notFound)
    | some state =>
      match removeRpc state serviceId methodId with
      | none => (some state, EspErr.notFound)
      | some removed => (maybeReleaseState busy removed, EspErr.ok)

/-- The critical section of `esp_iris_screen_register`. -/
def addScreen (state : ServiceState) (userCtx : Nat) : ServiceState × EspErr :=
  if state.screen.isSome then (state, EspErr.invalidState) else ({ state with screen := some userCtx }, EspErr.ok)

def screenRegister (services : Option ServiceState) (userCtx : Nat) (allocated : Bool) :
    Option ServiceState × EspErr :=
  match createState limits services allocated with
  | none => (none, EspErr.noMem)
  | some state => ((addScreen state userCtx).1, (addScreen state userCtx).2)

def streamActive (state : ServiceState) (index : Nat) : Bool := (state.media[index]?).any Stream.active

/-- The critical section of `esp_iris_screen_unregister`. -/
def removeScreen (state : ServiceState) (userCtx : Nat) : ServiceState × EspErr :=
  if state.screen ≠ some userCtx ∨ state.captureActive ∨ streamActive state 0 then
    (state, if state.captureActive ∨ streamActive state 0 then EspErr.invalidState else EspErr.notFound)
  else ({ state with screen := none }, EspErr.ok)

def screenUnregister (busy : Bool) (services : Option ServiceState) (userCtx : Nat) :
    Option ServiceState × EspErr :=
  match services with
  | none => (none, EspErr.notFound)
  | some state =>
    let removed := removeScreen state userCtx
    if removed.2 = EspErr.ok then (maybeReleaseState busy removed.1, EspErr.ok) else (some state, removed.2)

/-- `esp_iris_job_create`: the first slot that is free or whose job is over. -/
def jobCreate (services : Option ServiceState) (slot : Nat) (allocated : Bool) : Option ServiceState :=
  (createState limits services allocated).map fun state => { state with jobs := state.jobs.set slot true }

/-- `esp_iris_media_submit` and `esp_iris_media_is_streaming`, which take a use count and give it
back. -/
def mediaCall (busy : Bool) (services : Option ServiceState) : Option ServiceState :=
  services.bind (maybeReleaseState busy)

/-- `iris_services_session_begin` while the executor is idle; the challenge is not kept here. -/
def ServiceState.beginSession (state : ServiceState) : ServiceState :=
  { state with lastRpcRequestId := 0, rpcRequestSeen := false }

def rpcHeaderSize : Nat := 12

/-- The checks of `handle_rpc` before it looks at the record. -/
def rpcWellFormed (frame : DecodedFrame) : Bool :=
  frame.header.payloadSize.toNat ≥ rpcHeaderSize && (irisGetLe16 frame.payload 10 = 0) &&
    (irisGetLe16 frame.payload 8).toNat ≤ limits.rpcBody &&
    frame.header.payloadSize.toNat = rpcHeaderSize + (irisGetLe16 frame.payload 8).toNat

def staleRequest (state : ServiceState) (requestId : UInt32) : Bool :=
  let distance := requestId - state.lastRpcRequestId
  state.rpcRequestSeen && (distance = 0 || distance ≥ 0x80000000)

/-- What `handle_rpc` comes to: a refusal, or the handler that is called. -/
inductive RpcOutcome
  | refused (code : EspErr)
  | missing
  | called (handler : Nat)
  deriving DecidableEq, Repr

def handleRpc (services : Option ServiceState) (frame : DecodedFrame) : Option ServiceState × RpcOutcome :=
  let header := frame.header
  if rpcWellFormed limits frame = false then (services, .refused EspErr.invalidSize)
  else
    match services with
    | none => (none, .refused EspErr.invalidState)
    | some state =>
      if header.requestId = 0 ∨ staleRequest state header.requestId then (some state, .refused EspErr.invalidState)
      else
        let marked := { state with lastRpcRequestId := header.requestId, rpcRequestSeen := true }
        let entry := marked.rpc.find? fun entry =>
          entry.any fun used => used.names (irisGetLe16 frame.payload 0) (irisGetLe16 frame.payload 2)
        match entry.join with
        | some used => (some marked, .called used.handler)
        | none => (some marked, .missing)

structure MediaInput where
  allocated : Bool
  buffered : Bool
  begins : Bool

def mediaIndex (channel : UInt8) : Option Nat :=
  if channel < Channel.screen ∨ channel > Channel.audio then none else some (channel - Channel.screen).toNat

def setStream (state : ServiceState) (index : Nat) (stream : Stream) : ServiceState :=
  { state with media := state.media.set index stream }

/-- The MIRROR_START arm of `handle_media`; `begins` is whether the backend takes the stream. -/
def startMirror (state : ServiceState) (index : Nat) (frame : DecodedFrame) (input : MediaInput) : ServiceState :=
  let fps := irisGetLe16 frame.payload 16
  if streamActive state index ∨ fps = 0 ∨ fps > 60 ∨ irisGetLe16 frame.payload 18 ≠ 0 ∨
      (index = 0 ∧ state.captureActive) then state
  else if (state.media[index]?).all (fun stream => stream.data = false) ∧ input.buffered = false then state
  else if index = 0 ∧ state.screen.isSome then
    if input.begins then setStream state index ⟨true, true, true⟩ else setStream state index ⟨false, false, false⟩
  else setStream state index ⟨true, false, true⟩

/-- What `handle_media` does to the record. -/
def handleMedia (busy : Bool) (services : Option ServiceState) (frame : DecodedFrame) (input : MediaInput) :
    Option ServiceState :=
  let header := frame.header
  match mediaIndex header.channel with
  | none => services
  | some index =>
    let isScreen := header.channel = Channel.screen
    if header.type = MediaType.opening ∧ isScreen ∧ header.payloadSize ≠ 16 ∨
        header.type = MediaType.mirrorStart ∧ header.payloadSize ≠ 20 then services
    else if header.type = MediaType.mirrorStart then
      (createState limits services input.allocated).map fun state => startMirror state index frame input
    else
      services.bind fun state =>
        if header.type = MediaType.opening ∧ isScreen then
          if state.screen.isNone ∨ state.captureActive ∨ streamActive state 0 ∨ input.begins = false then some state
          else some { state with captureActive := true }
        else if header.type = MediaType.close ∧ isScreen then some { state with captureActive := false }
        else if header.type = MediaType.mirrorStop then
          maybeReleaseState busy (setStream state index ⟨false, false, false⟩)
        else some state

/-- What `handle_restart` does to the record; `planned` is whether the restart could be noted. -/
def handleRestart (services : Option ServiceState) (frame : DecodedFrame) (allocated planned : Bool) :
    Option ServiceState :=
  if frame.header.payloadSize ≠ 4 ∨ irisGetLe32 frame.payload 0 > 60000 then services
  else
    (createState limits services allocated).map fun state =>
      if planned then { state with restartPending := true } else state

end calls

end EspIris.Device
