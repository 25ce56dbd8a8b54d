import EspIris.Gateway.Session
import EspIris.Lib.Machine
import Mathlib.Data.List.AList
import Mathlib.Logic.Function.Basic

/-! The registry of the hub, `_devices`, and the tasks that write to it: one supervisor for each endpoint, and the
calls that cancel a supervisor and wait for its end. A step runs one of them from one await to the next. -/

namespace EspIris.Gateway.Registry
open Machine

inductive Endpoint
  | usb (name : String)
  | tcp (host : String) (port : Nat)
  deriving DecidableEq, Repr

/-- The fields of `DeviceInfo` that the registry uses. -/
structure Identity where
  deviceId : DeviceId
  hardwareMac : List UInt8
  deriving DecidableEq, Repr

structure Session where
  task : Nat
  endpoint : Endpoint
  info : Option Identity
  deriving DecidableEq, Repr

/-- How far the read loop of a session is: `_on_ready` registers it before it publishes the connection. -/
inductive Stage
  | handshaking
  | announcing
  | ready
  deriving DecidableEq, Repr

/-- Where a supervisor awaits. `handled` is `handledException` of the exception that ended `run`. -/
inductive Phase
  | created
  | connecting
  | running (session : Nat) (stage : Stage)
  | closing (session : Nat) (handled : Bool)
  | reporting (active : Option Nat) (deviceId : DeviceId) (current : Nat)
  | sleeping
  | ended (quiet : Bool)
  deriving DecidableEq, Repr

/-- The task of an endpoint; `cancelled` until its `CancelledError` has ended it or was lost. -/
structure Supervisor where
  endpoint : Endpoint
  cancelled : Bool
  phase : Phase
  deriving DecidableEq, Repr

structure EndpointState where
  endpoint : Endpoint
  deviceId : Option DeviceId
  advertisedDeviceId : Option DeviceId
  discovery : Option String
  deriving DecidableEq, Repr

def EndpointState.new (endpoint : Endpoint) : EndpointState := ⟨endpoint, none, none, none⟩

/-- `if device_id`. -/
def EndpointState.remembered (state : EndpointState) : Option DeviceId := state.deviceId.filter (· ≠ [])

inductive Call
  | quiesce (endpoint : Endpoint) (state : Nat) (deviceId : Option DeviceId)
  | remove (endpoint : Endpoint)
  deriving DecidableEq, Repr

def Call.endpoint : Call → Endpoint
  | .quiesce endpoint _ _ | .remove endpoint => endpoint

/-- The hub. Sessions, tasks and the dictionaries of endpoints are numbered as they are made, so that two of them
are the same object where their numbers are equal. -/
structure Hub where
  devices : AList fun _ : DeviceId => Nat
  sessions : Nat → Option Session
  tasks : Nat → Option Supervisor
  endpointTasks : Endpoint → Option Nat
  endpointStates : Endpoint → Option Nat
  states : Nat → EndpointState
  locks : Endpoint → Bool
  maintenanceEndpoints : Endpoint → Bool
  waiting : List (Nat × Call)
  closing : Bool
  opened : Nat
  spawned : Nat
  made : Nat

def Hub.new : Hub where
  devices := ∅
  sessions := fun _ => none
  tasks := fun _ => none
  endpointTasks := fun _ => none
  endpointStates := fun _ => none
  states := fun _ => .new (.usb "")
  locks := fun _ => false
  maintenanceEndpoints := fun _ => false
  waiting := []
  closing := false
  opened := 0
  spawned := 0
  made := 0

def Hub.setTask (hub : Hub) (task : Nat) (supervisor : Supervisor) : Hub :=
  { hub with tasks := Function.update hub.tasks task (some supervisor) }

def Hub.setState (hub : Hub) (number : Nat) (state : EndpointState) : Hub :=
  { hub with states := Function.update hub.states number state }

@[simp] theorem tasks_setTask_same (hub : Hub) (task : Nat) (supervisor : Supervisor) :
    (hub.setTask task supervisor).tasks task = some supervisor := Function.update_self ..

theorem tasks_setTask_other (hub : Hub) {task other : Nat} (supervisor : Supervisor) (different : other ≠ task) :
    (hub.setTask task supervisor).tasks other = hub.tasks other := Function.update_of_ne different ..

theorem states_setState_same (hub : Hub) (number : Nat) (state : EndpointState) :
    (hub.setState number state).states number = state := Function.update_self ..

theorem states_setState_other (hub : Hub) {number other : Nat} (state : EndpointState) (different : other ≠ number) :
    (hub.setState number state).states other = hub.states other := Function.update_of_ne different ..

theorem endpoint_setState (hub : Hub) (number : Nat) (state : EndpointState)
    (same : state.endpoint = (hub.states number).endpoint) (other : Nat) :
    ((hub.setState number state).states other).endpoint = (hub.states other).endpoint := by
  by_cases here : other = number
  · subst here
    rw [states_setState_same, same]
  · rw [states_setState_other hub state here]

theorem tasks_setTask_cases {hub : Hub} {task other : Nat} {supervisor found : Supervisor}
    (runs : (hub.setTask task supervisor).tasks other = some found) :
    (other = task ∧ found = supervisor) ∨ (other ≠ task ∧ hub.tasks other = some found) := by
  by_cases same : other = task
  · subst same
    rw [tasks_setTask_same] at runs
    exact .inl ⟨rfl, (Option.some.inj runs).symm⟩
  · rw [tasks_setTask_other hub supervisor same] at runs
    exact .inr ⟨same, runs⟩

def Supervisor.move (supervisor : Supervisor) (phase : Phase) : Supervisor := { supervisor with phase := phase }

/-- `task.cancel()`: a read loop starts to unwind, anything else raises where it awaits, and an ended task stays. -/
def Supervisor.cancel (supervisor : Supervisor) : Supervisor :=
  match supervisor.phase with
  | .ended _ => supervisor
  | .running session _ => { supervisor with cancelled := true, phase := .closing session true }
  | _ => { supervisor with cancelled := true }

/-- `reserve_maintenance_endpoint`, for a lease that was active when the gateway stopped. -/
def reserveMaintenanceEndpoint (hub : Hub) (state : EndpointState) : Hub :=
  match state.endpoint with
  | .tcp _ _ => hub
  | .usb _ =>
    { hub.setState hub.made state with
      maintenanceEndpoints := Function.update hub.maintenanceEndpoints state.endpoint true
      endpointStates := Function.update hub.endpointStates state.endpoint (some hub.made)
      locks := Function.update hub.locks state.endpoint true
      made := hub.made + 1 }

/-- `setdefault` of the dictionary of an endpoint. -/
def ensureState (hub : Hub) (endpoint : Endpoint) : Hub × Nat :=
  match hub.endpointStates endpoint with
  | some number => (hub, number)
  | none =>
    ({ hub.setState hub.made (.new endpoint) with
        endpointStates := Function.update hub.endpointStates endpoint (some hub.made)
        made := hub.made + 1 },
      hub.made)

/-- The registered sessions after the `finally` of `_supervise`, which takes out its own one. -/
def devicesWithout (hub : Hub) (active : Option Nat) : AList fun _ : DeviceId => Nat :=
  match active.bind fun session => ((hub.sessions session).bind Session.info).map fun info => (session, info) with
  | none => hub.devices
  | some (session, info) =>
    if hub.devices.lookup info.deviceId = some session then hub.devices.erase info.deviceId else hub.devices

/-- The end of `_supervise`, which raises anew where the dictionary of the endpoint is gone. -/
def finish (hub : Hub) (task : Nat) (supervisor : Supervisor) (active : Option Nat) (quiet : Bool) : Hub :=
  { hub with devices := devicesWithout hub active }.setTask task
    (supervisor.move (.ended (quiet && (hub.endpointStates supervisor.endpoint).isSome)))

def settle (hub : Hub) (task : Nat) (supervisor : Supervisor) : Hub :=
  if (hub.endpointStates supervisor.endpoint).isSome then hub.setTask task (supervisor.move .sleeping)
  else finish hub task supervisor none false

/-- `_supervise` behind the session: it looks up the device that the endpoint remembers. -/
def disconnect (hub : Hub) (task : Nat) (supervisor : Supervisor) (active : Option Nat) : Hub :=
  match hub.endpointStates supervisor.endpoint with
  | none => finish hub task supervisor active false
  | some number =>
    match (hub.states number).remembered with
    | none => settle hub task supervisor
    | some deviceId =>
      match hub.devices.lookup deviceId with
      | none => settle hub task supervisor
      | some current =>
        if (hub.sessions current).any fun session => session.endpoint = supervisor.endpoint then
          hub.setTask task (supervisor.move (.reporting active deviceId current))
        else settle hub task supervisor

/-- `del self._devices[device_id]` behind the event, and the rest of the round. -/
def afterReport (hub : Hub) (task : Nat) (supervisor : Supervisor) (active : Option Nat) (deviceId : DeviceId) : Hub :=
  match hub.devices.lookup deviceId with
  | none => finish hub task supervisor active false
  | some _ => settle { hub with devices := hub.devices.erase deviceId } task supervisor

def macTaken (hub : Hub) (number : Nat) (info : Identity) : Bool :=
  info.hardwareMac ≠ [] && hub.devices.entries.any fun entry =>
    entry.2 ≠ number && entry.1 ≠ info.deviceId && (hub.sessions entry.2).any fun other =>
      other.info.any fun known => known.hardwareMac = info.hardwareMac

/-- `_on_ready` up to the event that it publishes. -/
def onReady (hub : Hub) (task : Nat) (supervisor : Supervisor) (number : Nat) (session : Session) : Hub :=
  match session.info, hub.endpointStates session.endpoint with
  | none, _ | some _, none => hub.setTask task (supervisor.move (.closing number false))
  | some info, some dictionary =>
    if (hub.states dictionary).advertisedDeviceId.any (· ≠ info.deviceId) then
      hub.setTask task (supervisor.move (.closing number true))
    else if (hub.devices.lookup info.deviceId).any (· ≠ number) then
      hub.setTask task (supervisor.move (.closing number true))
    else if macTaken hub number info then hub.setTask task (supervisor.move (.closing number true))
    else
      { hub.setState dictionary { hub.states dictionary with deviceId := some info.deviceId } with
        devices := hub.devices.insert info.deviceId number }.setTask task
          (supervisor.move (.running number .announcing))

/-- `b"ESP-IRIS\x01\x00"`. -/
def factoryPrefix : List UInt8 := [0x45, 0x53, 0x50, 0x2d, 0x49, 0x52, 0x49, 0x53, 0x01, 0x00]

/-- What `_handle_hello` checks of the identity; any other failure of a session is a broken read loop. -/
def acceptsHello (session : Session) (offered : Identity) : Bool :=
  offered.deviceId.length = 16 &&
    (offered.hardwareMac = [] ||
      (offered.hardwareMac.length = 6 && offered.deviceId = factoryPrefix ++ offered.hardwareMac)) &&
    session.info.all fun info => info.deviceId = offered.deviceId

/-- What a supervisor is resumed with; `handled` tells whether it expects the exception that was raised. -/
inductive TaskEvent
  | attempted
  | connected
  | refused (handled : Bool)
  | hello (offered : Identity)
  | readied
  | announced (raised : Option Bool)
  | broke (handled : Bool)
  | closed (raised : Option Bool)
  | reported (raised : Bool)
  | stopped
  deriving DecidableEq, Repr

def unwind (hub : Hub) (task : Nat) (supervisor : Supervisor) : TaskEvent → Option Hub
  | .closed raised =>
    match supervisor.phase with
    | .closing session _ =>
      match raised with
      | none => some (finish hub task supervisor (some session) true)
      | some true => some (disconnect hub task { supervisor with cancelled := false } (some session))
      | some false => some (finish hub task supervisor (some session) false)
    | _ => none
  | .stopped =>
    match supervisor.phase with
    | .created => some (hub.setTask task (supervisor.move (.ended true)))
    | .connecting | .sleeping => some (finish hub task supervisor none true)
    | .reporting active _ _ => some (finish hub task supervisor active true)
    | _ => none
  | _ => none

def handleFrame (hub : Hub) (task : Nat) (supervisor : Supervisor) (number : Nat) (stage : Stage) :
    TaskEvent → Option Hub
  | .hello offered =>
    (hub.sessions number).map fun session =>
      if acceptsHello session offered then
        { hub with sessions := Function.update hub.sessions number (some { session with info := some offered }) }
      else hub.setTask task (supervisor.move (.closing number true))
  | .readied =>
    if stage = .handshaking then (hub.sessions number).map (onReady hub task supervisor number) else none
  | .broke handled => some (hub.setTask task (supervisor.move (.closing number handled)))
  | _ => none

def proceed (hub : Hub) (task : Nat) (supervisor : Supervisor) (event : TaskEvent) : Option Hub :=
  match supervisor.phase with
  | .created | .sleeping =>
    match event with
    | .attempted =>
      if (hub.endpointStates supervisor.endpoint).isSome then some (hub.setTask task (supervisor.move .connecting))
      else some (finish hub task supervisor none false)
    | _ => none
  | .connecting =>
    match event with
    | .connected =>
      if (hub.endpointStates supervisor.endpoint).isSome then
        some ({ hub with
          sessions := Function.update hub.sessions hub.opened (some ⟨task, supervisor.endpoint, none⟩)
          opened := hub.opened + 1 }.setTask task (supervisor.move (.running hub.opened .handshaking)))
      else some (finish hub task supervisor none false)
    | .refused true => some (disconnect hub task supervisor none)
    | .refused false => some (finish hub task supervisor none false)
    | _ => none
  | .running number .announcing =>
    match event with
    | .announced none => some (hub.setTask task (supervisor.move (.running number .ready)))
    | .announced (some handled) => some (hub.setTask task (supervisor.move (.closing number handled)))
    | _ => none
  | .running number stage => handleFrame hub task supervisor number stage event
  | .closing session handled =>
    match event with
    | .closed none =>
      if handled then some (disconnect hub task supervisor (some session))
      else some (finish hub task supervisor (some session) false)
    | .closed (some true) => some (disconnect hub task supervisor (some session))
    | .closed (some false) => some (finish hub task supervisor (some session) false)
    | _ => none
  | .reporting active deviceId _ =>
    match event with
    | .reported true => some (finish hub task supervisor active false)
    | .reported false => some (afterReport hub task supervisor active deviceId)
    | _ => none
  | .ended _ => none

def supervise (hub : Hub) (task : Nat) (supervisor : Supervisor) (event : TaskEvent) : Option Hub :=
  if supervisor.cancelled then unwind hub task supervisor event else proceed hub task supervisor event

/-- `self._devices.pop(device_id, None)` of a device id that is known. -/
def popDevice (hub : Hub) : Option DeviceId → AList fun _ : DeviceId => Nat
  | none => hub.devices
  | some deviceId => hub.devices.erase deviceId

/-- What `quiesce_endpoint` and `_remove_endpoint` do once the supervisor has ended. -/
def complete (hub : Hub) : Call → Hub
  | .quiesce _ number deviceId =>
    { hub.setState number { hub.states number with deviceId := deviceId } with
      devices := popDevice hub deviceId }
  | .remove endpoint =>
    { hub with
      locks := Function.update hub.locks endpoint false
      endpointStates := Function.update hub.endpointStates endpoint none
      maintenanceEndpoints := Function.update hub.maintenanceEndpoints endpoint false }

def taskOf (hub : Hub) (endpoint : Endpoint) : Option (Nat × Supervisor) := do
  let task ← hub.endpointTasks endpoint
  let supervisor ← hub.tasks task
  pure (task, supervisor)

def detach (hub : Hub) (call : Call) : Hub :=
  match taskOf hub call.endpoint with
  | none => complete hub call
  | some (task, supervisor) =>
    let popped := { hub with endpointTasks := Function.update hub.endpointTasks call.endpoint none }
    match supervisor.phase with
    | .ended true => complete popped call
    | .ended false => popped
    | _ => { popped with waiting := hub.waiting ++ [(task, call)] }.setTask task supervisor.cancel

/-- `quiesce_endpoint` up to where it takes out the supervisor, or the hub with which it raises. -/
def prepareQuiesce (hub : Hub) (endpoint : Endpoint) (lockFree : Bool) : Except Hub (Hub × Call) :=
  match endpoint with
  | .tcp _ _ => .error hub
  | .usb _ =>
    let (resolved, number) := ensureState hub endpoint
    if resolved.maintenanceEndpoints endpoint then .error resolved
    else if resolved.locks endpoint = false ∧ lockFree = false then .error resolved
    else
      .ok ({ resolved with
          locks := Function.update resolved.locks endpoint true
          maintenanceEndpoints := Function.update resolved.maintenanceEndpoints endpoint true },
        .quiesce endpoint number (resolved.states number).remembered)

def quiesceEndpoint (hub : Hub) (endpoint : Endpoint) (lockFree : Bool) : Hub :=
  match prepareQuiesce hub endpoint lockFree with
  | .error raised => raised
  | .ok (prepared, call) => detach prepared call

/-- Whether `_remove_endpoint` passes its check. -/
def removes (hub : Hub) (endpoint : Endpoint) (discovery : Option String) : Bool :=
  (hub.endpointStates endpoint).any fun number =>
    discovery = none || (hub.states number).discovery = discovery

def removeEndpoint (hub : Hub) (endpoint : Endpoint) (discovery : Option String) : Hub :=
  if removes hub endpoint discovery then detach hub (.remove endpoint) else hub

def announce (hub : Hub) (number : Nat) : Option DeviceId → Hub
  | none => hub
  | some deviceId =>
    hub.setState number { hub.states number with advertisedDeviceId := some deviceId, discovery := some "mdns" }

/-- `_add_supervisor`, with the device that mDNS announces at the endpoint. -/
def addSupervisor (hub : Hub) (endpoint : Endpoint) (advertised : Option DeviceId) (lockFree : Bool) : Hub :=
  if hub.closing then hub
  else
    let (known, number) := ensureState hub endpoint
    let described := announce known number advertised
    if (described.endpointTasks endpoint).isSome then described
    else if described.maintenanceEndpoints endpoint then described
    else if described.locks endpoint = false ∧ lockFree = false then described
    else
      { described with
        locks := Function.update described.locks endpoint true
        endpointTasks := Function.update described.endpointTasks endpoint (some described.spawned)
        spawned := described.spawned + 1 }.setTask described.spawned ⟨endpoint, false, .created⟩

/-- `resume_maintenance_endpoint`; an endpoint has a configuration while it has a dictionary. -/
def resumeMaintenanceEndpoint (hub : Hub) (endpoint : Endpoint) (lockFree : Bool) : Hub :=
  if hub.maintenanceEndpoints endpoint ∧ (hub.endpointStates endpoint).isSome then
    addSupervisor { hub with maintenanceEndpoints := Function.update hub.maintenanceEndpoints endpoint false }
      endpoint none lockFree
  else hub

/-- `close` up to its wait: nothing is added any more, and each supervisor is cancelled. -/
def closeHub (hub : Hub) : Hub :=
  { hub with
    closing := true
    tasks := fun task => (hub.tasks task).map fun supervisor =>
      if hub.endpointTasks supervisor.endpoint = some task then supervisor.cancel else supervisor }

def resumeWaiting (hub : Hub) (index : Nat) : Option Hub := do
  let (task, call) ← hub.waiting[index]?
  let supervisor ← hub.tasks task
  match supervisor.phase with
  | .ended quiet =>
    let woken := { hub with waiting := hub.waiting.eraseIdx index }
    some (if quiet then complete woken call else woken)
  | _ => none

inductive HubEvent
  | add (endpoint : Endpoint) (advertised : Option DeviceId) (lockFree : Bool)
  | quiesce (endpoint : Endpoint) (lockFree : Bool)
  | remove (endpoint : Endpoint) (discovery : Option String)
  | resume (endpoint : Endpoint) (lockFree : Bool)
  | waited (index : Nat)
  | run (task : Nat) (event : TaskEvent)
  | close
  deriving DecidableEq, Repr

def next (hub : Hub) : HubEvent → Option Hub
  | .add endpoint advertised lockFree => some (addSupervisor hub endpoint advertised lockFree)
  | .quiesce endpoint lockFree => some (quiesceEndpoint hub endpoint lockFree)
  | .remove endpoint discovery => some (removeEndpoint hub endpoint discovery)
  | .resume endpoint lockFree => some (resumeMaintenanceEndpoint hub endpoint lockFree)
  | .waited index => resumeWaiting hub index
  | .run task event => (hub.tasks task).bind fun supervisor => supervise hub task supervisor event
  | .close => some (closeHub hub)

def registry : System Hub HubEvent :=
  .ofPartial (fun hub => ∃ leases : List EndpointState, hub = leases.foldl reserveMaintenanceEndpoint .new) next

end EspIris.Gateway.Registry
