import EspIris.Codec.FrameDecoder
import EspIris.Gateway.Hub
import EspIris.Lib.Machine

/-! The supervisors of the hub, one task for each endpoint: `_supervise`, the `run` of the session
it opens, and the callbacks of that session. The supervisors run between each other at every
await, and so do the subscribers and the tasks that use a session. -/

namespace EspIris.Gateway
open Codec.Host (Frame FrameDecoder feed)
open Machine

/-- The exceptions that `_supervise` expects of a session. -/
def handledException : Raised → Bool
  | .connection _ | .os _ | .protocol _ | .runtime _ => true
  | _ => false

structure Work where
  effects : List Effect
  raises : Option Raised

/-- The task of an endpoint. While `running` it has a session, the decoder of its link, and the
frames that were decoded but not yet handled. -/
inductive Supervisor
  | absent
  | connecting
  | running (session : Nat) (decoder : FrameDecoder) (frames : List Frame) (work : Option Work)
  | retrying
  | terminated (raised : Raised)

structure Fleet where
  hub : Hub
  supervisors : String → Supervisor
  opened : Nat

inductive SubscriberCall
  | subscribe
  | unsubscribe (index : Nat)
  | take (index : Nat)

/-- `refused` is what the opener of the link raises, `broken` a read, and `perform` a write; where a session ends, the
exception is that of the link's `close` if there is one. -/
inductive FleetEvent
  | add (endpoint : String) (state : EndpointState)
  | remove (endpoint : String)
  | connected (endpoint : String) (pairingToken : Option (List UInt8))
  | refused (endpoint : String) (raised : Raised)
  | received (endpoint : String) (data : List UInt8)
  | broken (endpoint : String) (raised : Raised)
  | handle (endpoint : String) (nonce : List UInt8)
  | perform (endpoint : String) (raised : Option Raised)
  | retry (endpoint : String)
  | live (call : SubscriberCall)
  | watch (deviceId : DeviceId) (call : SubscriberCall)
  | watchMedia (deviceId : DeviceId) (channel : Int) (limit : Nat) (call : SubscriberCall)
  | operation (event : HubEvent)
  | used (session : Nat) (pending : Int → Option Nat) (requestId : Nat) (sequence : Int → Nat)

def Hub.setSession (hub : Hub) (number : Nat) (session : DeviceSession) : Hub :=
  { hub with sessions := fun other => if other = number then some session else hub.sessions other }

def Fleet.setSupervisor (fleet : Fleet) (endpoint : String) (supervisor : Supervisor) : Fleet :=
  { fleet with supervisors := fun other => if other = endpoint then supervisor else fleet.supervisors other }

/-- `DeviceSession.close` and the end of `run`. -/
def closeSession (session : DeviceSession) : DeviceSession :=
  { session with
    closed := true
    state := (sessionTransition session.state .close).getD session.state
    pending := fun _ => none }

/-- `del self._devices[device_id]`. -/
def Hub.forget (hub : Hub) (deviceId : DeviceId) : Hub :=
  { hub with devices := hub.devices.filter fun entry => entry.1 ≠ deviceId }

def Hub.lookup (hub : Hub) (deviceId : DeviceId) : Option Nat :=
  (hub.devices.find? fun entry => entry.1 = deviceId).map Prod.snd

/-- `self._devices[device_id] = session`. -/
def Hub.register (hub : Hub) (deviceId : DeviceId) (number : Nat) : Hub :=
  { hub with
    devices :=
      if hub.devices.any fun entry => entry.1 = deviceId then
        hub.devices.map fun entry => if entry.1 = deviceId then (deviceId, number) else entry
      else hub.devices ++ [(deviceId, number)] }

def Hub.setEndpoint (hub : Hub) (endpoint : String) (state : EndpointState) : Hub :=
  { hub with endpointStates := fun other => if other = endpoint then state else hub.endpointStates other }

def connectionEvent (info : Option DeviceInfo) (deviceId : DeviceId) (state : ConnectionState) (endpoint : String) :
    HubEvent where
  deviceId := some deviceId
  bootId := info.map DeviceInfo.bootId
  sessionId := info.map DeviceInfo.sessionId
  body := .connection state endpoint

/-- The checks of `_on_ready` against the registered sessions. -/
def readyRefusal (hub : Hub) (number : Nat) (info : DeviceInfo) : Option Raised :=
  if (hub.lookup info.deviceId).any fun existing => existing ≠ number then
    some (.runtime "device already has a physical session")
  else if info.hardwareMac ≠ [] ∧ hub.devices.any fun entry =>
      entry.2 ≠ number && entry.1 ≠ info.deviceId && (hub.sessions entry.2).any fun other =>
        other.info.any fun known => known.hardwareMac = info.hardwareMac then
    some (.runtime "hardware MAC is already associated with another device")
  else none

def misdirected (hub : Hub) (session : DeviceSession) (info : DeviceInfo) : Bool :=
  (hub.endpointStates session.endpoint).advertisedDeviceId.any fun advertised => advertised ≠ info.deviceId

/-- `_on_ready` behind its checks, up to the event it publishes. -/
def Hub.enroll (hub : Hub) (number : Nat) (session : DeviceSession) (info : DeviceInfo) : Hub :=
  { (hub.register info.deviceId number).setEndpoint session.endpoint
      { hub.endpointStates session.endpoint with deviceId := some info.deviceId } with
    lastBootId := fun other => if other = info.deviceId then some info.bootId else hub.lastBootId other }

def readyState (hub : Hub) (info : DeviceInfo) : ConnectionState :=
  match hub.lastBootId info.deviceId with
  | none => .connected
  | some previous => if previous = info.bootId then .reconnected else .rebooted

def Hub.onReady (hub : Hub) (number : Nat) (session : DeviceSession) : Hub × Option Raised :=
  match session.info with
  | none => (hub, some .assertion)
  | some info =>
    if misdirected hub session info then
      (hub.setSession number (closeSession session),
        some (.runtime "mDNS device_id does not match the ESP-Iris HELLO identity"))
    else
      let known := hub.setEndpoint session.endpoint
        { hub.endpointStates session.endpoint with firmwareMode := some info.firmwareMode }
      match readyRefusal known number info with
      | some raised => (known.setSession number (closeSession session), some raised)
      | none =>
        (known.enroll number session info).onEvent
          (connectionEvent (some info) info.deviceId (readyState known info) info.endpoint)

/-- The `finally` of `_supervise`, which knows the session that was active. -/
def Hub.leave (hub : Hub) (active : Option Nat) : Hub :=
  match active.bind fun number => (hub.sessions number).bind fun session => session.info.map fun info => (number, info) with
  | some (number, info) => if hub.lookup info.deviceId = some number then hub.forget info.deviceId else hub
  | none => hub

def Fleet.terminate (fleet : Fleet) (endpoint : String) (active : Option Nat) (raised : Raised) : Fleet :=
  { fleet with hub := fleet.hub.leave active }.setSupervisor endpoint (.terminated raised)

def lostDevice (hub : Hub) (endpoint : String) : Option (DeviceId × DeviceSession) := do
  let deviceId ← (hub.endpointStates endpoint).deviceId
  let number ← hub.lookup deviceId
  let session ← hub.sessions number
  if session.endpoint = endpoint then some (deviceId, session) else none

/-- What follows an exception that `_supervise` handles. -/
def Fleet.settle (fleet : Fleet) (endpoint : String) (active : Option Nat) : Fleet :=
  match lostDevice fleet.hub endpoint with
  | none => fleet.setSupervisor endpoint .retrying
  | some (deviceId, session) =>
    match fleet.hub.onEvent (connectionEvent session.info deviceId .disconnected endpoint) with
    | (hub, some raised) => { fleet with hub := hub }.terminate endpoint active raised
    | (hub, none) => { fleet with hub := hub.forget deviceId }.setSupervisor endpoint .retrying

/-- What `_supervise` makes of an exception behind its `try`. -/
def Fleet.except (fleet : Fleet) (endpoint : String) (active : Option Nat) (raised : Raised) : Fleet :=
  if handledException raised then fleet.settle endpoint active else fleet.terminate endpoint active raised

def Hub.closeSession (hub : Hub) (number : Nat) : Hub :=
  match hub.sessions number with
  | some session => hub.setSession number (EspIris.Gateway.closeSession session)
  | none => hub

/-- The end of a session's `run`, and what its supervisor makes of it. -/
def Fleet.fail (fleet : Fleet) (endpoint : String) (number : Nat) (raised : Raised) : Fleet :=
  { fleet with hub := fleet.hub.closeSession number }.except endpoint (some number) raised

/-- The check of `DeviceSession.__init__`. -/
def tokenRefusal (pairingToken : Option (List UInt8)) : Option Raised :=
  if pairingToken.all fun token => token.length = 32 then none
  else some (.value "pairing token must contain 32 bytes")

def Hub.effect (hub : Hub) (number : Nat) (session : DeviceSession) : Effect → Hub × Option Raised
  | .onReady => hub.onReady number session
  | .event event => hub.onEvent event
  | .media event => hub.onMedia event
  | .announce => (hub.setSession number { session with ready := true }, none)
  | .logGranted amount => (hub.setSession number { session with logCredit := session.logCredit + amount }, none)
  | .mediaGranted channel amount =>
    (hub.setSession number { session with
      mediaCredit := fun other =>
        if other = channel then session.mediaCredit other + amount else session.mediaCredit other }, none)
  | .send _ _ _ _ | .sleep | .resolve _ _ => (hub, none)

def isSend : Effect → Bool
  | .send _ _ _ _ => true
  | _ => false

/-- `subscribe`, `unsubscribe` and the `get` of a consumer. -/
def callSubscribers {Item : Type} (fresh : Subscriber Item) (queues : List (Subscriber Item)) :
    SubscriberCall → List (Subscriber Item)
  | .subscribe => queues ++ [fresh]
  | .unsubscribe index => queues.eraseIdx index
  | .take index => queues.modify index Subscriber.dropOldest

def liveLimit : Nat := 1024

/-- The queue that `subscribe` returns, with the history of the device. -/
def watchQueue (history : List HubEvent) : Subscriber HubEvent where
  limit := queueLimit
  items := history.drop (history.length - historyLimit)
  positive := by decide
  bounded := by
    rw [List.length_drop]
    simp only [historyLimit, queueLimit]
    omega

section fleet
variable (hmac : List UInt8 → List UInt8 → List UInt8)

def Fleet.handle (fleet : Fleet) (endpoint : String) (nonce : List UInt8) : Option Fleet :=
  match fleet.supervisors endpoint with
  | .running number decoder (frame :: frames) none =>
    (fleet.hub.sessions number).map fun session =>
      let handled := handleFrame hmac nonce session frame
      { fleet with hub := fleet.hub.setSession number handled.session }.setSupervisor endpoint
        (.running number decoder frames (some ⟨handled.effects, handled.raises⟩))
  | _ => none

/-- The next await of a handler; `raised` is what the link raises. -/
def Fleet.perform (fleet : Fleet) (endpoint : String) (raised : Option Raised) : Option Fleet :=
  match fleet.supervisors endpoint with
  | .running number decoder frames (some ⟨[], none⟩) =>
    some (fleet.setSupervisor endpoint (.running number decoder frames none))
  | .running number _ _ (some ⟨[], some raises⟩) => some (fleet.fail endpoint number (raised.getD raises))
  | .running number decoder frames (some ⟨effect :: rest, raises⟩) =>
    match if isSend effect then raised else none with
    | some raised => some (fleet.fail endpoint number raised)
    | none =>
      (fleet.hub.sessions number).map fun session =>
        match fleet.hub.effect number session effect with
        | (hub, some caused) => { fleet with hub := hub }.fail endpoint number (raised.getD caused)
        | (hub, none) =>
          { fleet with hub := hub }.setSupervisor endpoint (.running number decoder frames (some ⟨rest, raises⟩))
  | _ => none

def fleetNext (fleet : Fleet) : FleetEvent → Option Fleet
  | .add endpoint state =>
    match fleet.supervisors endpoint with
    | .absent => some ({ fleet with hub := fleet.hub.setEndpoint endpoint state }.setSupervisor endpoint .connecting)
    | _ => none
  | .remove endpoint =>
    match fleet.supervisors endpoint with
    | .running number _ _ _ =>
      some ({ fleet with hub := (fleet.hub.closeSession number).leave (some number) }.setSupervisor endpoint .absent)
    | _ => some (fleet.setSupervisor endpoint .absent)
  | .connected endpoint pairingToken =>
    match fleet.supervisors endpoint with
    | .connecting =>
      match tokenRefusal pairingToken with
      | some raised => some (fleet.except endpoint none raised)
      | none =>
        some ({ fleet with
            hub := fleet.hub.setSession fleet.opened (.new endpoint pairingToken)
            opened := fleet.opened + 1 }.setSupervisor endpoint
          (.running fleet.opened .new [] none))
    | _ => none
  | .refused endpoint raised =>
    match fleet.supervisors endpoint with
    | .connecting => some (fleet.except endpoint none raised)
    | _ => none
  | .received endpoint data =>
    match fleet.supervisors endpoint with
    | .running number decoder [] none =>
      if data = [] then some (fleet.fail endpoint number (.connection "ESP-Iris link closed"))
      else
        let fed := feed decoder data
        some (fleet.setSupervisor endpoint (.running number fed.1 fed.2 none))
    | _ => none
  | .broken endpoint raised =>
    match fleet.supervisors endpoint with
    | .running number _ [] none => some (fleet.fail endpoint number raised)
    | _ => none
  | .handle endpoint nonce => fleet.handle hmac endpoint nonce
  | .perform endpoint raised => fleet.perform endpoint raised
  | .retry endpoint =>
    match fleet.supervisors endpoint with
    | .retrying => some (fleet.setSupervisor endpoint .connecting)
    | _ => none
  | .live call =>
    some { fleet with
      hub := { fleet.hub with
        eventSink := fleet.hub.eventSink.map fun service =>
          { service with subscribers := callSubscribers (.empty liveLimit (by decide)) service.subscribers call } } }
  | .watch deviceId call =>
    some { fleet with
      hub := { fleet.hub with
        subscribers := fun other =>
          if other = deviceId then callSubscribers (watchQueue (fleet.hub.history other)) (fleet.hub.subscribers other) call
          else fleet.hub.subscribers other } }
  | .watchMedia deviceId channel limit call =>
    some { fleet with
      hub := { fleet.hub with
        mediaSubscribers := fun other stream =>
          if other = deviceId ∧ stream = channel then
            callSubscribers (.empty (limit + 1) (Nat.succ_pos _)) (fleet.hub.mediaSubscribers other stream) call
          else fleet.hub.mediaSubscribers other stream } }
  | .operation event => some { fleet with hub := (fleet.hub.sink event).1 }
  | .used number pending requestId sequence =>
    (fleet.hub.sessions number).map fun session =>
      { fleet with
        hub := fleet.hub.setSession number
          { session with pending := pending, requestId := requestId, sequence := sequence } }

def Fleet.initial (eventSink : Option Service) : Fleet where
  hub := {
    devices := []
    sessions := fun _ => none
    endpointStates := fun _ => ⟨none, none, none⟩
    lastBootId := fun _ => none
    history := fun _ => []
    subscribers := fun _ => []
    mediaSubscribers := fun _ _ => []
    eventSink := eventSink }
  supervisors := fun _ => .absent
  opened := 0

def fleet : System Fleet FleetEvent :=
  .ofPartial (fun state => ∃ eventSink, state = .initial eventSink) (fleetNext hmac)

end fleet

end EspIris.Gateway
