import EspIris.Lib.Machine
import Mathlib.Logic.Function.Basic
import Mathlib.Data.List.Basic

/-! The mDNS discovery of the hub: which service stands for which endpoint, which device for which service, and
which of the endpoints it supervises. Each notification is handled to its end before the next one. -/

namespace EspIris.Gateway.Mdns
open Machine

/-- `IrisMdnsDevice`. -/
structure IrisMdnsDevice where
  serviceName : String
  deviceId : String
  host : String
  port : Nat
  mode : String
  pairing : String
  deriving DecidableEq, Repr

def IrisMdnsDevice.endpoint (device : IrisMdnsDevice) : String := "tcp:" ++ device.host ++ ":" ++ toString device.port

structure EndpointState where
  discovery : Option String
  serviceName : Option String
  advertisedDeviceId : Option String
  firmwareMode : Option String
  pairing : Option String
  deriving DecidableEq, Repr

def EndpointState.empty : EndpointState := ⟨none, none, none, none, none⟩

def EndpointState.described (state : EndpointState) (device : IrisMdnsDevice) : EndpointState :=
  { state with
    serviceName := some device.serviceName
    advertisedDeviceId := some device.deviceId
    firmwareMode := some device.mode
    pairing := some device.pairing }

def EndpointState.isMdns (state : EndpointState) : Bool := state.discovery = some "mdns"

/-- The dictionaries and sets of `IrisHub` that discovery uses. -/
structure MdnsHub where
  services : String → Option String
  devices : String → Option String
  states : String → Option EndpointState
  tasks : String → Bool
  locks : String → Bool
  maintenance : String → Bool

abbrev Outcome := Except MdnsHub MdnsHub

def Outcome.hub : Outcome → MdnsHub
  | .ok hub => hub
  | .error hub => hub

/-- What the environment of a notification decides: whether the tasks that it cancels end quietly, and whether
the lock of a new endpoint can be taken. -/
structure Answers where
  supersededQuiet : Bool
  movedQuiet : Bool
  lockFree : Bool
  deriving DecidableEq, Repr

section hub
variable (hub : MdnsHub)

/-- `_remove_endpoint` with `discovery="mdns"`; awaiting a task that has failed raises. -/
def removeEndpoint (endpoint : String) (quiet : Bool) : Outcome :=
  match hub.states endpoint with
  | none => .ok hub
  | some state =>
    if state.isMdns = false then .ok hub
    else
      let cancelled := { hub with tasks := Function.update hub.tasks endpoint false }
      if hub.tasks endpoint ∧ quiet = false then .error cancelled
      else .ok { cancelled with
        locks := Function.update hub.locks endpoint false
        states := Function.update hub.states endpoint none
        maintenance := Function.update hub.maintenance endpoint false }

def removeMdnsService (name : String) (quiet : Bool) : Outcome :=
  match hub.services name with
  | none => .ok hub
  | some endpoint =>
    let popped := { hub with services := Function.update hub.services name none }
    let forgotten :=
      match (hub.states endpoint).bind EndpointState.advertisedDeviceId with
      | none => popped
      | some deviceId =>
        if hub.devices deviceId = some name then { popped with devices := Function.update hub.devices deviceId none }
        else popped
    removeEndpoint forgotten endpoint quiet

/-- `_add_supervisor`, as `add_tcp` calls it for an endpoint. -/
def addSupervisor (endpoint : String) (metadata : EndpointState → EndpointState) (lockFree : Bool) : Outcome :=
  let state := metadata ((hub.states endpoint).getD .empty)
  let described := { hub with states := Function.update hub.states endpoint (some state) }
  if hub.tasks endpoint then .ok described
  else if hub.maintenance endpoint then .ok described
  else if hub.locks endpoint = false ∧ lockFree = false then .error described
  else .ok { described with
    locks := Function.update hub.locks endpoint true
    tasks := Function.update hub.tasks endpoint true }

/-- The end of `_add_mdns_device`, which notes the service. -/
def noteService (device : IrisMdnsDevice) : MdnsHub :=
  { hub with
    services := Function.update hub.services device.serviceName (some device.endpoint)
    devices := Function.update hub.devices device.deviceId (some device.serviceName) }

/-- `_add_mdns_device` from where it takes the endpoint. -/
def takeEndpoint (device : IrisMdnsDevice) (lockFree : Bool) : Outcome :=
  if hub.tasks device.endpoint = false then
    (addSupervisor hub device.endpoint (fun state => { state.described device with discovery := some "mdns" }) lockFree).map
      (noteService · device)
  else
    match hub.states device.endpoint with
    | none => .error hub
    | some state =>
      if state.isMdns = false then .ok hub
      else .ok (noteService
        { hub with states := Function.update hub.states device.endpoint (some (state.described device)) } device)

/-- The part of `_add_mdns_device` that removes another service of the device. -/
def supersede (device : IrisMdnsDevice) (quiet : Bool) : Outcome :=
  match hub.devices device.deviceId with
  | none => .ok hub
  | some name => if name = device.serviceName then .ok hub else removeMdnsService hub name quiet

def leaveEndpoint (device : IrisMdnsDevice) (quiet : Bool) : Outcome :=
  match hub.services device.serviceName with
  | none => .ok hub
  | some endpoint => if endpoint = device.endpoint then .ok hub else removeEndpoint hub endpoint quiet

def addMdnsDevice (device : IrisMdnsDevice) (answers : Answers) : Outcome :=
  ((supersede hub device answers.supersededQuiet).bind fun hub => leaveEndpoint hub device answers.movedQuiet).bind
    fun hub => takeEndpoint hub device answers.lockFree

end hub

inductive Notification
  | service (device : IrisMdnsDevice) (answers : Answers)
  | removed (name : String) (quiet : Bool)
  deriving DecidableEq, Repr

def MdnsHub.notified (hub : MdnsHub) : Notification → MdnsHub
  | .service device answers => (addMdnsDevice hub device answers).hub
  | .removed name quiet => (removeMdnsService hub name quiet).hub

structure Advert where
  service : String
  deviceId : String
  endpoint : String
  deriving DecidableEq, Repr

def IrisMdnsDevice.advert (device : IrisMdnsDevice) : Advert := ⟨device.serviceName, device.deviceId, device.endpoint⟩

def Replaces (spot advert : Advert) : Prop := advert.service = spot.service ∨ advert.deviceId = spot.deviceId

def others (adverts : List Advert) (spot : Advert) : List Advert :=
  adverts.filter fun advert => advert.service ≠ spot.service ∧ advert.deviceId ≠ spot.deviceId

def MdnsHub.manual (hub : MdnsHub) (endpoint : String) : Bool :=
  hub.tasks endpoint && (hub.states endpoint).all fun state => !state.isMdns

def advertise (adverts : List Advert) (hub : MdnsHub) : Notification → List Advert
  | .service device _ =>
    if hub.manual device.endpoint then others adverts device.advert else device.advert :: others adverts device.advert
  | .removed name _ => adverts.filter fun advert => advert.service ≠ name

/-- A hub before its discovery: no endpoint was discovered yet, each task has its state, and only a local
endpoint is kept back for maintenance. -/
structure Undiscovered (hub : MdnsHub) : Prop where
  services : hub.services = fun _ => none
  devices : hub.devices = fun _ => none
  states : ∀ endpoint state, hub.states endpoint = some state → state.isMdns = false
  tasks : ∀ endpoint, hub.tasks endpoint = true → (hub.states endpoint).isSome = true
  maintenance : ∀ endpoint, hub.maintenance endpoint = true → "usb:".toList <+: endpoint.toList

def mdnsSystem : System (MdnsHub × List Advert) Notification :=
  .ofPartial (fun both => Undiscovered both.1 ∧ both.2 = []) fun both event =>
    some (both.1.notified event, advertise both.2 both.1 event)

def MdnsHub.discovered (hub : MdnsHub) (endpoint : String) : Bool :=
  hub.tasks endpoint && (hub.states endpoint).any EndpointState.isMdns

/-- An endpoint is supervised for discovery where a service that is advertised maps to it, and the maps hold
those services. -/
structure Consistent (hub : MdnsHub) (adverts : List Advert) : Prop where
  supervised : ∀ endpoint, hub.discovered endpoint = true ↔ ∃ advert ∈ adverts, advert.endpoint = endpoint
  services : ∀ name endpoint, hub.services name = some endpoint ↔
    ∃ advert ∈ adverts, advert.service = name ∧ advert.endpoint = endpoint
  devices : ∀ deviceId name, hub.devices deviceId = some name ↔
    ∃ advert ∈ adverts, advert.deviceId = deviceId ∧ advert.service = name

def Alone (adverts : List Advert) (advert : Advert) : Prop :=
  ∀ other ∈ adverts, other.endpoint = advert.endpoint → other = advert

/-- A service that goes well: it keeps its device, does not move to an endpoint that was added by hand, and what
it replaces leaves an endpoint only where no other service stays; the task that it cancels then ends quietly,
and the lock of its endpoint is held or free. -/
structure GoesWell (hub : MdnsHub) (adverts : List Advert) (spot : Advert) (answers : Answers) : Prop where
  keeps : ∀ advert ∈ adverts, advert.service = spot.service →
    advert.deviceId = spot.deviceId ∧ hub.manual spot.endpoint = false
  alone : ∀ advert ∈ adverts, Replaces spot advert → advert.endpoint ≠ spot.endpoint → Alone adverts advert
  superseded : ∀ advert ∈ adverts, advert.service ≠ spot.service → advert.deviceId = spot.deviceId →
    answers.supersededQuiet = true
  moved : ∀ advert ∈ adverts, advert.service = spot.service → advert.endpoint ≠ spot.endpoint → answers.movedQuiet = true
  locked : answers.lockFree = true ∨ ((hub.tasks spot.endpoint = true ∨ hub.locks spot.endpoint = true) ∧
    ∀ advert ∈ adverts, advert.endpoint = spot.endpoint → advert.deviceId = spot.deviceId → advert.service = spot.service)

def Orderly (both : MdnsHub × List Advert) : Notification → Prop
  | .service device answers => GoesWell both.1 both.2 device.advert answers
  | .removed name _ => ∀ advert ∈ both.2, advert.service = name → Alone both.2 advert

end EspIris.Gateway.Mdns
