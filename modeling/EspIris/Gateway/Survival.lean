import EspIris.Gateway.Delivery
import EspIris.Gateway.SessionSteps
import EspIris.Gateway.Supervisor

/-! What ends a supervisor for good. Whatever the handler of a frame raises is expected; what the
callbacks of the hub raise is not always. -/

namespace EspIris.Gateway
open Codec.Host (Frame FrameDecoder)
open Machine

def takenHello (session : DeviceSession) (frame : Frame) : Option DeviceInfo :=
  (helloOf session frame).filter fun hello => (takeInfo session hello).toOption.isSome

def loses (hub : Hub) (endpoint : String) : Bool := (lostDevice hub endpoint).isSome

/-- Whether `_on_ready` gets past its checks. -/
def admitted (hub : Hub) (number : Nat) (session : DeviceSession) : Bool :=
  session.info.any fun info => !misdirected hub session info && (readyRefusal hub number info).isNone

def effectPublishes (hub : Hub) (endpoint : String) (number : Nat) (session : DeviceSession) : Effect → Bool
  | .event event => event.named.isSome
  | .onReady => admitted hub number session || loses hub endpoint
  | _ => false

def publishes (fleet : Fleet) : FleetEvent → Bool
  | .refused endpoint _ | .broken endpoint _ => loses fleet.hub endpoint
  | .received endpoint data => data = [] && loses fleet.hub endpoint
  | .perform endpoint raised =>
    match fleet.supervisors endpoint with
    | .running _ _ _ (some ⟨[], some _⟩) => loses fleet.hub endpoint
    | .running number _ _ (some ⟨effect :: _, _⟩) =>
      if isSend effect then raised.isSome && loses fleet.hub endpoint
      else (fleet.hub.sessions number).any fun session => effectPublishes fleet.hub endpoint number session effect
    | _ => false
  | _ => false

def enrolls (fleet : Fleet) : FleetEvent → Option DeviceInfo
  | .handle endpoint _ =>
    match fleet.supervisors endpoint with
    | .running number _ (frame :: _) none =>
      if fleet.hub.devices.any fun entry => entry.2 = number then
        (fleet.hub.sessions number).bind fun session => takenHello session frame
      else none
    | _ => none
  | .perform endpoint _ =>
    match fleet.supervisors endpoint with
    | .running number _ _ (some ⟨.onReady :: _, _⟩) =>
      (fleet.hub.sessions number).bind fun session => if admitted fleet.hub number session then session.info else none
    | _ => none
  | _ => none

def room (hub : Hub) : Bool := hub.eventSink.all fun service => service.subscribers.all fun subscriber => !subscriber.full

/-- What the link, its opener and the constructor of a session raise. -/
def FleetEvent.raises : FleetEvent → Option Raised
  | .connected _ pairingToken => tokenRefusal pairingToken
  | .refused _ raised | .broken _ raised => some raised
  | .perform _ raised => raised
  | _ => none

/-- No event is published into a full live queue, no device is registered with a transport
that the hub has no name for, and what a link raises is expected. -/
structure Tolerates (fleet : Fleet) (event : FleetEvent) : Prop where
  room : publishes fleet event = true → room fleet.hub = true
  transport : ((enrolls fleet event).all fun info => knownTransport info.transport) = true
  expected : event.raises.all handledException = true

instance (fleet : Fleet) (event : FleetEvent) : Decidable (Tolerates fleet event) :=
  decidable_of_iff ((publishes fleet event = true → room fleet.hub = true) ∧
      ((enrolls fleet event).all fun info => knownTransport info.transport) = true ∧
      event.raises.all handledException = true)
    ⟨fun ⟨room, transport, expected⟩ => ⟨room, transport, expected⟩,
      fun ⟨room, transport, expected⟩ => ⟨room, transport, expected⟩⟩

structure Survives (fleet : Fleet) : Prop where
  alive : ∀ endpoint raised, fleet.supervisors endpoint ≠ .terminated raised
  listed : ∃ items, fleet.hub.listDevices = .ok items ∧
    items.map (fun item => item.info.deviceId) = fleet.hub.devices.map Prod.fst

def Settled (session : DeviceSession) : Prop :=
  (session.state = .negotiating ∧ session.ready = false) ∨ (session.state = .ready ∧ session.ready = true)

/-- A handler that raises nothing but what the supervisor expects, now or in the steps it still
awaits, and that leaves the session settled. -/
structure Sane (session : DeviceSession) (work : Work) : Prop where
  raises : ∀ raised, work.raises = some raised → handledException raised = true
  identified : .onReady ∈ work.effects → session.info.isSome
  announces : .announce ∈ work.effects → session.state = .ready
  settles : .announce ∉ work.effects → work.raises = none → Settled session

def Handled.work (handled : Handled) : Work := ⟨handled.effects, handled.raises⟩

theorem Sane.quiet {session : DeviceSession} (settled : Settled session) {effects : List Effect}
    (noReady : .onReady ∉ effects) (noAnnounce : .announce ∉ effects) : Sane session ⟨effects, none⟩ where
  raises := fun raised isRaised => by cases isRaised
  identified := fun inside => absurd inside noReady
  announces := fun inside => absurd inside noAnnounce
  settles := fun _ _ => settled

theorem Sane.raising (session : DeviceSession) {raised : Raised} (handled : handledException raised = true)
    {effects : List Effect} (noReady : .onReady ∉ effects) (noAnnounce : .announce ∉ effects) :
    Sane session ⟨effects, some raised⟩ where
  raises := fun other isRaised => Option.some.inj isRaised ▸ handled
  identified := fun inside => absurd inside noReady
  announces := fun inside => absurd inside noAnnounce
  settles := fun _ none => by cases none

theorem Sane.after {session : DeviceSession} {effects more : List Effect} {raises : Option Raised}
    (sane : Sane session ⟨effects, raises⟩) (noReady : .onReady ∉ more) (noAnnounce : .announce ∉ more) :
    Sane session ⟨more ++ effects, raises⟩ where
  raises := sane.raises
  identified := fun inside => sane.identified ((List.mem_append.mp inside).resolve_left noReady)
  announces := fun inside => sane.announces ((List.mem_append.mp inside).resolve_left noAnnounce)
  settles := fun absent quiet => sane.settles (fun inside => absent (List.mem_append_right _ inside)) quiet

theorem completeReady_sane {session : DeviceSession} (settled : Settled session) (known : session.info.isSome) :
    Sane (completeReady session).session (completeReady session).work := by
  unfold completeReady
  split
  · exact .quiet settled List.not_mem_nil List.not_mem_nil
  next waiting =>
    rw [if_neg (Option.isSome_iff_ne_none.mp known)]
    have negotiating : session.state = .negotiating := by
      rcases settled with ⟨state, _⟩ | ⟨_, ready⟩
      · exact state
      · exact absurd ready waiting
    rw [negotiating]
    dsimp only [sessionTransition]
    refine ⟨fun raised isRaised => (by cases isRaised), fun _ => known, fun _ => rfl, ?_⟩
    intro absent
    exact absurd (List.mem_append_right _ (List.mem_cons_of_mem _ (List.mem_singleton.mpr rfl))) absent

theorem handleLog_sane {session : DeviceSession} (settled : Settled session) (frame : Frame) :
    Sane (handleLog session frame).session (handleLog session frame).work := by
  unfold handleLog
  dsimp only
  split
  · exact .raising _ rfl List.not_mem_nil List.not_mem_nil
  split
  · exact .raising _ rfl List.not_mem_nil List.not_mem_nil
  refine Sane.quiet ?_ ?_ ?_
  · exact settled
  all_goals split <;> simp [grantLogCredit, sendCredit]

theorem handleEvent_sane {session : DeviceSession} (settled : Settled session) (frame : Frame) :
    Sane (handleEvent session frame).session (handleEvent session frame).work := by
  unfold handleEvent
  split
  · split
    · exact .raising _ rfl List.not_mem_nil List.not_mem_nil
    · exact .quiet settled (by simp) (by simp)
  · split
    · exact .raising _ rfl List.not_mem_nil List.not_mem_nil
    · exact .quiet settled (by simp) (by simp)

theorem handleMedia_sane {session : DeviceSession} (settled : Settled session) (frame : Frame) :
    Sane (handleMedia session frame).session (handleMedia session frame).work := by
  unfold handleMedia
  dsimp only
  split
  · exact .raising _ rfl List.not_mem_nil List.not_mem_nil
  split
  · exact .raising _ rfl List.not_mem_nil List.not_mem_nil
  refine Sane.quiet ?_ ?_ ?_
  · exact settled
  all_goals split <;> simp [grantMediaCredit, sendCredit]

theorem dispatchFrame_sane {session : DeviceSession} (settled : Settled session) (known : session.info.isSome)
    (frame : Frame) : Sane (dispatchFrame session frame).session (dispatchFrame session frame).work := by
  unfold dispatchFrame
  split
  · split
    · exact .raising _ rfl List.not_mem_nil List.not_mem_nil
    · exact completeReady_sane settled known
  split
  · exact .quiet settled (by simp) (by simp)
  split
  · exact handleLog_sane settled frame
  split
  · exact handleEvent_sane settled frame
  split
  · exact handleMedia_sane settled frame
  · exact .quiet settled List.not_mem_nil List.not_mem_nil

section handlers
variable (hmac : List UInt8 → List UInt8 → List UInt8) (nonce : List UInt8)

theorem acknowledge_sane {session : DeviceSession} (settled : Settled session) (known : session.info.isSome)
    (info : DeviceInfo) (fields : Fields) :
    Sane (acknowledge hmac nonce session info fields).session (acknowledge hmac nonce session info fields).work := by
  have ack (flags : Int) (payload : List UInt8) : .onReady ∉ [helloAck flags payload] ∧
      .announce ∉ [helloAck flags payload] := by simp [helloAck]
  unfold acknowledge
  dsimp only
  split
  · split
    · exact .quiet settled (ack _ _).1 (ack _ _).2
    · exact Sane.after (completeReady_sane settled known) (ack _ _).1 (ack _ _).2
  split
  · exact .raising _ rfl List.not_mem_nil List.not_mem_nil
  split
  · exact .raising _ rfl List.not_mem_nil List.not_mem_nil
  split
  · exact .raising _ rfl (by simp [Handled.after, Handled.raising]) (by simp [Handled.after, Handled.raising])
  · exact .quiet settled (ack _ _).1 (ack _ _).2

theorem handleHello_sane {session : DeviceSession} (settled : Settled session) {frame : Frame}
    (greets : isHello frame = true) :
    Sane (handleHello hmac nonce session frame).session (handleHello hmac nonce session frame).work := by
  rcases handleHello_cases hmac nonce greets with ⟨message, refused⟩ | ⟨info, taken, fields, reads, accepted, is⟩
  · rw [refused]
    exact .raising _ rfl List.not_mem_nil List.not_mem_nil
  · have takes := takeInfo_takes accepted
    rw [is]
    refine acknowledge_sane hmac nonce ?_ ?_ info fields
    · rw [Settled, takes.state, takes.ready]
      exact settled
    · rw [takes.info]
      rfl

/-- What a frame makes of a session's identity: the same, or that of a HELLO it takes. -/
theorem handleFrame_info (session : DeviceSession) (frame : Frame) :
    (handleFrame hmac nonce session frame).session.info = session.info ∨
      ∃ hello, takenHello session frame = some hello ∧ (handleFrame hmac nonce session frame).session.info = some hello ∧
        ∀ current, session.info = some current → current.deviceId = hello.deviceId := by
  cases handleFrame_handles hmac nonce session frame with
  | hello hello taken reads accepted takes same effects =>
    refine .inr ⟨hello, ?_, same.info.trans takes.info, ?_⟩
    · rw [takenHello, reads, Option.filter_some, accepted]
      rfl
    · intro current isThat
      rcases takes.moves with ⟨_, ⟨known, isKnown, deviceId, _⟩, _⟩ | ⟨_, _, repeated⟩
      · cases isKnown.symm.trans isThat
        exact deviceId
      · exact (repeated current isThat).1
  | other keeps settled => exact .inl keeps.core.info

theorem handleFrame_sane {session : DeviceSession} (settled : Settled session) (frame : Frame) :
    Sane (handleFrame hmac nonce session frame).session (handleFrame hmac nonce session frame).work := by
  unfold handleFrame
  split
  next greets => exact handleHello_sane hmac nonce settled greets
  split
  · exact .quiet settled List.not_mem_nil List.not_mem_nil
  split
  · exact .quiet settled List.not_mem_nil List.not_mem_nil
  next own =>
    split
    · exact .quiet settled List.not_mem_nil List.not_mem_nil
    next noted accepted =>
      have known : session.info.isSome := by
        cases info : session.info with
        | none => simp [info] at own
        | some info => rfl
      have same := acceptSequence_noted accepted
      refine dispatchFrame_sane ?_ ?_ frame
      · rw [same]
        exact settled
      · rw [same]
        exact known

end handlers

def Enrolled (hub : Hub) (entry : DeviceId × Nat) : Prop :=
  ∃ session info, hub.sessions entry.2 = some session ∧ session.info = some info ∧ info.deviceId = entry.1 ∧
    knownTransport info.transport = true

def Runs (hub : Hub) (number : Nat) (work : Option Work) : Prop :=
  ∃ session, hub.sessions number = some session ∧
    match work with
    | none => Settled session
    | some work => Sane session work

structure Sound (busy : Option String) (fleet : Fleet) : Prop where
  alive : ∀ endpoint raised, busy ≠ some endpoint → fleet.supervisors endpoint ≠ .terminated raised
  enrolled : ∀ entry ∈ fleet.hub.devices, entry.2 < fleet.opened ∧ Enrolled fleet.hub entry
  running : ∀ endpoint number decoder frames work, busy ≠ some endpoint →
    fleet.supervisors endpoint = .running number decoder frames work → Runs fleet.hub number work
  numbered : ∀ endpoint number decoder frames work, fleet.supervisors endpoint = .running number decoder frames work →
    number < fleet.opened
  apart : ∀ first second number decoder frames work decoder' frames' work',
    fleet.supervisors first = .running number decoder frames work →
    fleet.supervisors second = .running number decoder' frames' work' → first = second

theorem Sound.busy {fleet : Fleet} (sound : Sound none fleet) (endpoint : String) : Sound (some endpoint) fleet where
  alive := fun other raised _ => sound.alive other raised nofun
  enrolled := sound.enrolled
  running := fun other number decoder frames work _ => sound.running other number decoder frames work nofun
  numbered := sound.numbered
  apart := sound.apart

structure SameRegistry (before after : Hub) : Prop where
  devices : after.devices = before.devices
  sessions : after.sessions = before.sessions

theorem Sound.hub {busy : Option String} {fleet : Fleet} {hub : Hub} (sound : Sound busy fleet)
    (sessions : hub.sessions = fleet.hub.sessions) (devices : ∀ entry ∈ hub.devices, entry ∈ fleet.hub.devices) :
    Sound busy { fleet with hub := hub } where
  alive := sound.alive
  enrolled := by
    intro entry inside
    obtain ⟨fresh, enrolled⟩ := sound.enrolled entry (devices entry inside)
    refine ⟨fresh, ?_⟩
    rw [Enrolled, sessions]
    exact enrolled
  running := by
    intro endpoint number decoder frames work free is
    rw [Runs, sessions]
    exact sound.running endpoint number decoder frames work free is
  numbered := sound.numbered
  apart := sound.apart

theorem Sound.same {busy : Option String} {fleet : Fleet} {hub : Hub} (sound : Sound busy fleet)
    (same : SameRegistry fleet.hub hub) : Sound busy { fleet with hub := hub } :=
  sound.hub same.sessions fun _ inside => same.devices ▸ inside

/-- A new phase for the endpoint that was busy; a running one goes on with its session. -/
theorem Sound.setSupervisor {endpoint : String} {fleet : Fleet} {supervisor : Supervisor}
    (sound : Sound (some endpoint) fleet) (alive : ∀ raised, supervisor ≠ .terminated raised)
    (runs : ∀ number decoder frames work, supervisor = .running number decoder frames work →
      Runs fleet.hub number work ∧ number < fleet.opened ∧ ∀ other decoder frames work,
        fleet.supervisors other = .running number decoder frames work → other = endpoint) :
    Sound none (fleet.setSupervisor endpoint supervisor) where
  alive := by
    intro other raised _
    dsimp only [Fleet.setSupervisor]
    split
    · exact alive raised
    next elsewhere => exact sound.alive other raised fun same => elsewhere (Option.some.inj same).symm
  enrolled := sound.enrolled
  running := by
    intro other number decoder frames work _ is
    dsimp only [Fleet.setSupervisor] at is
    split at is
    · exact (runs number decoder frames work is).1
    next elsewhere =>
      exact sound.running other number decoder frames work (fun same => elsewhere (Option.some.inj same).symm) is
  numbered := by
    intro other number decoder frames work is
    dsimp only [Fleet.setSupervisor] at is
    split at is
    · exact (runs number decoder frames work is).2.1
    · exact sound.numbered other number decoder frames work is
  apart := by
    intro first second number decoder frames work decoder' frames' work' isFirst isSecond
    dsimp only [Fleet.setSupervisor] at isFirst isSecond
    split at isFirst <;> split at isSecond
    next here there => exact here.trans there.symm
    next here elsewhere => exact here.trans ((runs _ _ _ _ isFirst).2.2 _ _ _ _ isSecond).symm
    next elsewhere there => exact ((runs _ _ _ _ isSecond).2.2 _ _ _ _ isFirst).trans there.symm
    next elsewhere elsewhere' => exact sound.apart _ _ _ _ _ _ _ _ _ isFirst isSecond

theorem Sound.rests {endpoint : String} {fleet : Fleet} {supervisor : Supervisor}
    (sound : Sound (some endpoint) fleet) (alive : ∀ raised, supervisor ≠ .terminated raised)
    (stopped : ∀ number decoder frames work, supervisor ≠ .running number decoder frames work) :
    Sound none (fleet.setSupervisor endpoint supervisor) :=
  sound.setSupervisor alive fun number decoder frames work is => absurd is (stopped number decoder frames work)

theorem Sound.setSession {endpoint : String} {fleet : Fleet} {number : Nat} {session : DeviceSession}
    (sound : Sound (some endpoint) fleet)
    (own : ∀ other decoder frames work, fleet.supervisors other = .running number decoder frames work → other = endpoint)
    (enrolled : ∀ entry ∈ fleet.hub.devices, entry.2 = number → ∃ info, session.info = some info ∧
      info.deviceId = entry.1 ∧ knownTransport info.transport = true) :
    Sound (some endpoint) { fleet with hub := fleet.hub.setSession number session } where
  alive := sound.alive
  enrolled := by
    intro entry inside
    obtain ⟨fresh, before⟩ := sound.enrolled entry inside
    refine ⟨fresh, ?_⟩
    by_cases here : entry.2 = number
    · obtain ⟨info, isInfo, deviceId, known⟩ := enrolled entry inside here
      exact ⟨session, info, if_pos here, isInfo, deviceId, known⟩
    · obtain ⟨other, info, isOther, rest⟩ := before
      exact ⟨other, info, (if_neg here).trans isOther, rest⟩
  running := by
    intro other number' decoder frames work free is
    obtain ⟨session', isSession, fits⟩ := sound.running other number' decoder frames work free is
    refine ⟨session', (if_neg ?_).trans isSession, fits⟩
    intro same
    rw [same] at is
    exact free (congrArg some (own other decoder frames work is)).symm
  numbered := sound.numbered
  apart := sound.apart

theorem sink_same (hub : Hub) (event : HubEvent) : SameRegistry hub (hub.sink event).1 := by
  unfold Hub.sink
  split <;> exact ⟨rfl, rfl⟩

theorem onEvent_same (hub : Hub) (event : HubEvent) : SameRegistry hub (hub.onEvent event).1 := by
  have sunk (history : DeviceId → List HubEvent) : SameRegistry hub ({ hub with history := history }.sink event).1 :=
    have same := sink_same { hub with history := history } event
    ⟨same.devices, same.sessions⟩
  unfold Hub.onEvent
  split
  · exact ⟨rfl, rfl⟩
  next deviceId _ =>
    have same := sunk fun other => if other = deviceId then appendHistory (hub.history other) event else hub.history other
    dsimp only
    split
    next hub raised isSunk => exact isSunk ▸ same
    next hub isSunk =>
      rw [isSunk] at same
      exact ⟨same.devices, same.sessions⟩

theorem onMedia_quiet (hub : Hub) (event : MediaEvent) :
    (hub.onMedia event).2 = none ∧ SameRegistry hub (hub.onMedia event).1 := by
  unfold Hub.onMedia
  split
  · exact ⟨rfl, rfl, rfl⟩
  · exact ⟨(publishEach_raises _ _).mpr fun subscriber _ => (publishDropping_holds event subscriber).1, rfl, rfl⟩

theorem room_iff (hub : Hub) : room hub = true ↔
    ∀ service, hub.eventSink = some service → ∀ subscriber ∈ service.subscribers, subscriber.full = false := by
  rw [room]
  cases hub.eventSink with
  | none => simp
  | some service => simp

theorem listed_known {hub : Hub} (enrolled : ∀ entry ∈ hub.devices, Enrolled hub entry) (info : DeviceInfo)
    (listed : Listed hub info) : knownTransport info.transport = true := by
  obtain ⟨deviceId, number, session, inside, isSession, isInfo⟩ := listed
  obtain ⟨other, known, isOther, isKnown, _, ok⟩ := enrolled _ inside
  cases isSession.symm.trans isOther
  cases isInfo.symm.trans isKnown
  exact ok

/-- Where there is room and every device is enrolled, the distribution of an event completes. -/
theorem onEvent_completes {hub : Hub} (enrolled : ∀ entry ∈ hub.devices, Enrolled hub entry) (space : room hub = true)
    (event : HubEvent) : (hub.onEvent event).2 = none := by
  cases named : event.named with
  | none =>
    rw [Hub.onEvent, named]
  | some deviceId =>
    rw [(onEvent_sunk named).1, sink_completes hub named]
    exact ⟨(room_iff hub).mp space, fun _ _ _ => listed_known enrolled⟩

/-- Whether an endpoint has something to lose depends on the registry and its own state. -/
theorem loses_congr {before after : Hub} {endpoint : String}
    (state : (after.endpointStates endpoint).deviceId = (before.endpointStates endpoint).deviceId)
    (devices : after.devices = before.devices)
    (sessions : ∀ number, (after.sessions number).map DeviceSession.endpoint =
      (before.sessions number).map DeviceSession.endpoint) : loses after endpoint = loses before endpoint := by
  have judge (hub : Hub) (deviceId : DeviceId) (number : Nat) :
      ((hub.sessions number).bind fun session =>
        if session.endpoint = endpoint then some (deviceId, session) else none).isSome =
      ((hub.sessions number).map DeviceSession.endpoint).any fun other => other = endpoint := by
    cases hub.sessions number with
    | none => rfl
    | some session =>
      dsimp only [Option.bind_some, Option.map_some, Option.any_some]
      split
      next here => rw [decide_eq_true here]; rfl
      next elsewhere => rw [decide_eq_false elsewhere]; rfl
  unfold loses lostDevice
  simp only [bind, Hub.lookup, state, devices]
  cases (before.endpointStates endpoint).deviceId with
  | none => rfl
  | some deviceId =>
    dsimp only [Option.bind_some]
    cases (before.devices.find? fun entry => entry.1 = deviceId) with
    | none => rfl
    | some entry =>
      dsimp only [Option.map_some, Option.bind_some]
      rw [judge, judge, sessions]

theorem setSession_endpoints {hub : Hub} {number : Nat} {old session : DeviceSession} (was : hub.sessions number = some old)
    (endpoint : session.endpoint = old.endpoint) (other : Nat) :
    ((hub.setSession number session).sessions other).map DeviceSession.endpoint =
      (hub.sessions other).map DeviceSession.endpoint := by
  dsimp only [Hub.setSession]
  split
  next here => rw [here, was, Option.map_some, Option.map_some, endpoint]
  next => rfl

theorem Sound.settle {endpoint : String} {fleet : Fleet} (sound : Sound (some endpoint) fleet)
    (space : loses fleet.hub endpoint = true → room fleet.hub = true) (active : Option Nat) :
    Sound none (fleet.settle endpoint active) := by
  have retries (hub : Hub) (sound : Sound (some endpoint) { fleet with hub := hub }) :
      Sound none ({ fleet with hub := hub }.setSupervisor endpoint .retrying) := sound.rests nofun nofun
  unfold Fleet.settle
  split
  · exact retries fleet.hub sound
  next deviceId session lost =>
    have room := space (by rw [loses, lost]; rfl)
    have completes := onEvent_completes (fun entry inside => (sound.enrolled entry inside).2) room
      (connectionEvent session.info deviceId .disconnected endpoint)
    have same := onEvent_same fleet.hub (connectionEvent session.info deviceId .disconnected endpoint)
    split
    next hub raised published =>
      rw [published] at completes
      contradiction
    next hub published =>
      rw [published] at same
      refine retries (hub.forget deviceId) (sound.hub same.sessions ?_)
      intro entry inside
      exact same.devices ▸ (List.mem_filter.mp inside).1

theorem Sound.fail {endpoint : String} {fleet : Fleet} {number : Nat} {raised : Raised}
    (sound : Sound (some endpoint) fleet)
    (own : ∀ other decoder frames work, fleet.supervisors other = .running number decoder frames work → other = endpoint)
    (handled : handledException raised = true) (space : loses fleet.hub endpoint = true → room fleet.hub = true) :
    Sound none (fleet.fail endpoint number raised) := by
  unfold Fleet.fail Fleet.except
  rw [if_pos handled]
  unfold Hub.closeSession
  split
  next session isSession =>
    refine Sound.settle (sound.setSession own ?_) ?_ _
    · intro entry inside here
      obtain ⟨_, other, info, isOther, isInfo, deviceId, known⟩ := sound.enrolled entry inside
      rw [here, isSession] at isOther
      cases isOther
      exact ⟨info, isInfo, deviceId, known⟩
    · intro lost
      refine space (Eq.trans (Eq.symm ?_) lost)
      exact loses_congr rfl rfl (setSession_endpoints isSession rfl)
  next => exact sound.settle space _

theorem Sane.tail {session : DeviceSession} {effect : Effect} {rest : List Effect} {raises : Option Raised}
    (sane : Sane session ⟨effect :: rest, raises⟩) (other : effect ≠ .announce) : Sane session ⟨rest, raises⟩ where
  raises := sane.raises
  identified := fun inside => sane.identified (List.mem_cons_of_mem _ inside)
  announces := fun inside => sane.announces (List.mem_cons_of_mem _ inside)
  settles := by
    intro absent quiet
    refine sane.settles ?_ quiet
    intro inside
    rcases List.mem_cons.mp inside with same | later
    · exact other same.symm
    · exact absent later

theorem Sane.announced {session : DeviceSession} {rest : List Effect} {raises : Option Raised}
    (sane : Sane session ⟨.announce :: rest, raises⟩) : Sane { session with ready := true } ⟨rest, raises⟩ where
  raises := sane.raises
  identified := fun inside => sane.identified (List.mem_cons_of_mem _ inside)
  announces := fun _ => sane.announces List.mem_cons_self
  settles := fun _ _ => .inr ⟨sane.announces List.mem_cons_self, rfl⟩

theorem readyRefusal_handled {hub : Hub} {number : Nat} {info : DeviceInfo} {raised : Raised}
    (refused : readyRefusal hub number info = some raised) : handledException raised = true := by
  unfold readyRefusal at refused
  split at refused
  · cases refused
    rfl
  · split at refused
    · cases refused
      rfl
    · contradiction

theorem mem_register {hub : Hub} {deviceId : DeviceId} {number : Nat} {entry : DeviceId × Nat}
    (inside : entry ∈ (hub.register deviceId number).devices) : entry ∈ hub.devices ∨ entry = (deviceId, number) := by
  dsimp only [Hub.register] at inside
  split at inside
  · obtain ⟨before, isBefore, is⟩ := List.mem_map.mp inside
    split at is
    · exact .inr is.symm
    · exact .inl (is ▸ isBefore)
  · rcases List.mem_append.mp inside with earlier | last
    · exact .inl earlier
    · exact .inr (List.mem_singleton.mp last)

/-- What a callback leaves: a sound hub with the session as it was or changed by the effect, or an
exception that the supervisor handles, with room for the event it then publishes. -/
def CallbackSound (endpoint : String) (fleet : Fleet) (number : Nat) (work : Work) (result : Hub × Option Raised) : Prop :=
  Sound (some endpoint) { fleet with hub := result.1 } ∧
    match result.2 with
    | none => Runs result.1 number (some work)
    | some raised => handledException raised = true ∧ (loses result.1 endpoint = true → room result.1 = true)

section callbacks
variable {endpoint : String} {fleet : Fleet} {number : Nat} {session : DeviceSession} {rest : List Effect}
  {raises : Option Raised}

theorem Sound.closed (sound : Sound (some endpoint) fleet) (isSession : fleet.hub.sessions number = some session)
    (own : ∀ other decoder frames work, fleet.supervisors other = .running number decoder frames work → other = endpoint) :
    Sound (some endpoint) { fleet with hub := fleet.hub.setSession number (closeSession session) } := by
  refine sound.setSession own ?_
  intro entry inside here
  obtain ⟨_, other, info, isOther, isInfo, deviceId, known⟩ := sound.enrolled entry inside
  rw [here, isSession] at isOther
  cases isOther
  exact ⟨info, isInfo, deviceId, known⟩

theorem onReady_sound (sound : Sound (some endpoint) fleet) (isSession : fleet.hub.sessions number = some session)
    (own : ∀ other decoder frames work, fleet.supervisors other = .running number decoder frames work → other = endpoint)
    (fresh : number < fleet.opened) (sane : Sane session ⟨.onReady :: rest, raises⟩)
    (space : (admitted fleet.hub number session || loses fleet.hub endpoint) = true → room fleet.hub = true)
    (transport : admitted fleet.hub number session = true → ∀ info, session.info = some info →
      knownTransport info.transport = true) :
    CallbackSound endpoint fleet number ⟨rest, raises⟩ (fleet.hub.onReady number session) := by
  obtain ⟨info, isInfo⟩ := Option.isSome_iff_exists.mp (sane.identified List.mem_cons_self)
  have admits : admitted fleet.hub number session =
      (!misdirected fleet.hub session info && (readyRefusal fleet.hub number info).isNone) := by
    rw [admitted, isInfo]
    rfl
  rw [CallbackSound, Hub.onReady, isInfo]
  dsimp only
  split
  next wrong =>
    refine ⟨sound.closed isSession own, rfl, ?_⟩
    intro lost
    refine space (Bool.or_eq_true_iff.mpr (.inr (Eq.trans (Eq.symm ?_) lost)))
    exact loses_congr rfl rfl (setSession_endpoints isSession rfl)
  next directed =>
    generalize labelled : fleet.hub.setEndpoint session.endpoint
      { fleet.hub.endpointStates session.endpoint with firmwareMode := some info.firmwareMode } = hub
    have same : SameRegistry fleet.hub hub := by
      rw [← labelled]
      exact ⟨rfl, rfl⟩
    have refusal : readyRefusal hub number info = readyRefusal fleet.hub number info := by
      rw [← labelled]
      rfl
    have states (other : String) : (hub.endpointStates other).deviceId = (fleet.hub.endpointStates other).deviceId := by
      rw [← labelled]
      dsimp only [Hub.setEndpoint]
      split
      next here => rw [here]
      next => rfl
    have space' : room hub = room fleet.hub := by
      rw [← labelled]
      rfl
    have labelledSound : Sound (some endpoint) { fleet with hub := hub } := sound.same same
    have isSession : hub.sessions number = some session := same.sessions ▸ isSession
    split
    next raised refused =>
      refine ⟨labelledSound.closed isSession own, readyRefusal_handled refused, ?_⟩
      intro lost
      refine space'.trans (space (Bool.or_eq_true_iff.mpr (.inr (Eq.trans (Eq.symm ?_) lost))))
      refine loses_congr (states endpoint) same.devices ?_
      have moved : ∀ other, ((hub.setSession number (closeSession session)).sessions other).map DeviceSession.endpoint =
          (hub.sessions other).map DeviceSession.endpoint := setSession_endpoints isSession rfl
      intro other
      rw [← same.sessions]
      exact moved other
    next accepted =>
      have admitted : admitted fleet.hub number session = true := by
        rw [admits, Bool.eq_false_iff.mpr directed, ← refusal, accepted]
        rfl
      have known := transport admitted info isInfo
      have enrolled : ∀ entry ∈ (hub.enroll number session info).devices,
          entry.2 < fleet.opened ∧ Enrolled (hub.enroll number session info) entry := by
        intro entry inside
        rcases mem_register inside with earlier | rfl
        · exact labelledSound.enrolled entry earlier
        · exact ⟨fresh, session, info, isSession, isInfo, rfl, known⟩
      have enrolledSound : Sound (some endpoint) { fleet with hub := hub.enroll number session info } :=
        ⟨labelledSound.alive, enrolled, labelledSound.running, labelledSound.numbered, labelledSound.apart⟩
      have completes := onEvent_completes (fun entry inside => (enrolled entry inside).2)
        (space'.trans (space (Bool.or_eq_true_iff.mpr (.inl admitted))))
        (connectionEvent (some info) info.deviceId (readyState hub info) info.endpoint)
      have registry := onEvent_same (hub.enroll number session info)
        (connectionEvent (some info) info.deviceId (readyState hub info) info.endpoint)
      refine ⟨enrolledSound.same registry, ?_⟩
      rw [completes]
      exact ⟨session, (congrFun registry.sessions number).trans isSession, sane.tail nofun⟩

theorem effect_sound {effect : Effect} (sound : Sound (some endpoint) fleet)
    (isSession : fleet.hub.sessions number = some session)
    (own : ∀ other decoder frames work, fleet.supervisors other = .running number decoder frames work → other = endpoint)
    (fresh : number < fleet.opened) (sane : Sane session ⟨effect :: rest, raises⟩)
    (space : effectPublishes fleet.hub endpoint number session effect = true → room fleet.hub = true)
    (transport : effect = .onReady → admitted fleet.hub number session = true → ∀ info, session.info = some info →
      knownTransport info.transport = true) :
    CallbackSound endpoint fleet number ⟨rest, raises⟩ (fleet.hub.effect number session effect) := by
  have keeps (changed : DeviceSession) (info : changed.info = session.info) (fits : Sane changed ⟨rest, raises⟩) :
      CallbackSound endpoint fleet number ⟨rest, raises⟩ (fleet.hub.setSession number changed, none) := by
    refine ⟨sound.setSession own ?_, changed, if_pos rfl, fits⟩
    intro entry inside here
    obtain ⟨_, other, known, isOther, isInfo, deviceId, ok⟩ := sound.enrolled entry inside
    rw [here, isSession] at isOther
    cases isOther
    exact ⟨known, info.trans isInfo, deviceId, ok⟩
  have still (other : effect ≠ .announce) : CallbackSound endpoint fleet number ⟨rest, raises⟩ (fleet.hub, none) :=
    ⟨sound, session, isSession, sane.tail other⟩
  cases effect with
  | onReady => exact onReady_sound sound isSession own fresh sane space (transport rfl)
  | event event =>
    have same := onEvent_same fleet.hub event
    have completes : (fleet.hub.onEvent event).2 = none := by
      cases named : event.named with
      | none => rw [Hub.onEvent, named]
      | some deviceId =>
        refine onEvent_completes (fun entry inside => (sound.enrolled entry inside).2) (space ?_) event
        rw [effectPublishes, named]
        rfl
    rw [CallbackSound, Hub.effect, completes]
    exact ⟨sound.same same, session, (congrFun same.sessions number).trans isSession, sane.tail (by simp)⟩
  | media event =>
    obtain ⟨completes, same⟩ := onMedia_quiet fleet.hub event
    rw [CallbackSound, Hub.effect, completes]
    exact ⟨sound.same same, session, (congrFun same.sessions number).trans isSession, sane.tail (by simp)⟩
  | announce => exact keeps _ rfl sane.announced
  | logGranted amount =>
    have rested := sane.tail (by simp)
    exact keeps _ rfl ⟨rested.raises, rested.identified, rested.announces, rested.settles⟩
  | mediaGranted channel amount =>
    have rested := sane.tail (by simp)
    exact keeps _ rfl ⟨rested.raises, rested.identified, rested.announces, rested.settles⟩
  | send channel type flags payload | sleep | resolve future outcome => exact still (by simp)

end callbacks

theorem leave_subset (hub : Hub) (active : Option Nat) :
    (hub.leave active).sessions = hub.sessions ∧ ∀ entry ∈ (hub.leave active).devices, entry ∈ hub.devices := by
  unfold Hub.leave
  split
  · split
    · exact ⟨rfl, fun entry inside => (List.mem_filter.mp inside).1⟩
    · exact ⟨rfl, fun entry inside => inside⟩
  · exact ⟨rfl, fun entry inside => inside⟩

theorem Sound.own {fleet : Fleet} (sound : Sound none fleet) {endpoint : String} {number : Nat} {decoder : FrameDecoder}
    {frames : List Frame} {work : Option Work} (is : fleet.supervisors endpoint = .running number decoder frames work) :
    ∀ other decoder frames work, fleet.supervisors other = .running number decoder frames work → other = endpoint :=
  fun _ _ _ _ isOther => sound.apart _ _ _ _ _ _ _ _ _ isOther is

theorem Sound.continues {endpoint : String} {fleet : Fleet} {number : Nat} {decoder : FrameDecoder}
    {frames : List Frame} {work : Option Work} (sound : Sound (some endpoint) fleet)
    (own : ∀ other decoder frames work, fleet.supervisors other = .running number decoder frames work → other = endpoint)
    (fresh : number < fleet.opened) (runs : Runs fleet.hub number work) :
    Sound none (fleet.setSupervisor endpoint (.running number decoder frames work)) := by
  refine sound.setSupervisor nofun ?_
  intro other decoder frames work is
  cases is
  exact ⟨runs, fresh, own⟩

theorem Sound.connects {fleet : Fleet} (sound : Sound none fleet) (endpoint : String) (pairingToken : Option (List UInt8)) :
    Sound none ({ fleet with
      hub := fleet.hub.setSession fleet.opened (.new endpoint pairingToken)
      opened := fleet.opened + 1 }.setSupervisor endpoint (.running fleet.opened .new [] none)) := by
  have unused : ∀ other decoder frames work, fleet.supervisors other = .running fleet.opened decoder frames work →
      other = endpoint := fun other decoder frames work is =>
    absurd (sound.numbered other _ decoder frames work is) (Nat.lt_irrefl _)
  have set : Sound (some endpoint) { fleet with hub := fleet.hub.setSession fleet.opened (.new endpoint pairingToken) } := by
    refine (sound.busy endpoint).setSession unused ?_
    intro entry inside here
    exact absurd (here ▸ (sound.enrolled entry inside).1) (Nat.lt_irrefl _)
  have grown : Sound (some endpoint) { fleet with
      hub := fleet.hub.setSession fleet.opened (.new endpoint pairingToken)
      opened := fleet.opened + 1 } :=
    ⟨set.alive, fun entry inside => ⟨Nat.lt_succ_of_lt (set.enrolled entry inside).1, (set.enrolled entry inside).2⟩,
      set.running, fun other number decoder frames work is =>
        Nat.lt_succ_of_lt (set.numbered other number decoder frames work is), set.apart⟩
  exact grown.continues unused (Nat.lt_succ_self _) ⟨.new endpoint pairingToken, if_pos rfl, .inl ⟨rfl, rfl⟩⟩

/-- What the tasks of a session do to it concerns neither its identity nor its state. -/
theorem Sound.used {fleet : Fleet} {number : Nat} {session changed : DeviceSession} (sound : Sound none fleet)
    (isSession : fleet.hub.sessions number = some session) (info : changed.info = session.info)
    (state : changed.state = session.state) (ready : changed.ready = session.ready) :
    Sound none { fleet with hub := fleet.hub.setSession number changed } where
  alive := sound.alive
  enrolled := by
    intro entry inside
    obtain ⟨fresh, other, known, isOther, isInfo, rest⟩ := sound.enrolled entry inside
    refine ⟨fresh, ?_⟩
    by_cases here : entry.2 = number
    · rw [here, isSession] at isOther
      cases isOther
      exact ⟨changed, known, if_pos here, info.trans isInfo, rest⟩
    · exact ⟨other, known, (if_neg here).trans isOther, isInfo, rest⟩
  running := by
    intro endpoint other decoder frames work free is
    obtain ⟨session', isSession', fits⟩ := sound.running endpoint other decoder frames work free is
    by_cases here : other = number
    · rw [here, isSession] at isSession'
      cases isSession'
      refine ⟨changed, if_pos here, ?_⟩
      have settles : Settled session → Settled changed := by
        rw [Settled, Settled, state, ready]
        exact id
      cases work with
      | none => exact settles fits
      | some work =>
        exact ⟨fits.raises, fun inside => info ▸ fits.identified inside, fun inside => state.trans (fits.announces inside),
          fun absent quiet => settles (fits.settles absent quiet)⟩
    · exact ⟨session', (if_neg here).trans isSession', fits⟩
  numbered := sound.numbered
  apart := sound.apart

theorem Sound.handle (hmac : List UInt8 → List UInt8 → List UInt8) {fleet after : Fleet} {endpoint : String}
    {nonce : List UInt8} (sound : Sound none fleet) (tolerates : Tolerates fleet (.handle endpoint nonce))
    (moves : fleet.handle hmac endpoint nonce = some after) : Sound none after := by
  unfold Fleet.handle at moves
  split at moves
  next number decoder frame frames is =>
    obtain ⟨session, isSession, rfl⟩ := Option.map_eq_some_iff.mp moves
    obtain ⟨other, isOther, settled⟩ := sound.running endpoint number decoder _ none nofun is
    cases isSession.symm.trans isOther
    have own := sound.own is
    refine Sound.continues ((sound.busy endpoint).setSession own ?_) own (sound.numbered _ _ _ _ _ is)
      ⟨_, if_pos rfl, handleFrame_sane hmac nonce settled frame⟩
    intro entry inside here
    obtain ⟨_, other, info, isOther, isInfo, deviceId, known⟩ := sound.enrolled entry inside
    rw [here, isSession] at isOther
    cases isOther
    rcases handleFrame_info hmac nonce session frame with same | ⟨hello, taken, isHello, identity⟩
    · exact ⟨info, same.trans isInfo, deviceId, known⟩
    · refine ⟨hello, isHello, (identity info isInfo).symm.trans deviceId, ?_⟩
      have transport := tolerates.transport
      have registered : (fleet.hub.devices.any fun entry => entry.2 = number) = true :=
        List.any_eq_true.mpr ⟨entry, inside, decide_eq_true here⟩
      rw [enrolls, is] at transport
      dsimp only at transport
      rw [if_pos registered, isSession, Option.bind_some, taken] at transport
      exact transport
  next => contradiction

theorem Sound.perform {fleet after : Fleet} {endpoint : String} {raised : Option Raised} (sound : Sound none fleet)
    (tolerates : Tolerates fleet (.perform endpoint raised)) (moves : fleet.perform endpoint raised = some after) :
    Sound none after := by
  have space := tolerates.room
  have transport := tolerates.transport
  have replaced : ∀ caused, handledException caused = true → handledException (raised.getD caused) = true := by
    intro caused handled
    cases raised with
    | none => exact handled
    | some raised => exact tolerates.expected
  rw [publishes] at space
  rw [enrolls] at transport
  unfold Fleet.perform at moves
  split at moves
  next number decoder frames is =>
    cases moves
    obtain ⟨session, isSession, sane⟩ := sound.running endpoint number decoder frames _ nofun is
    exact (sound.busy endpoint).continues (sound.own is) (sound.numbered _ _ _ _ _ is)
      ⟨session, isSession, sane.settles List.not_mem_nil rfl⟩
  next number decoder frames raises is =>
    cases moves
    obtain ⟨session, isSession, sane⟩ := sound.running endpoint number decoder frames _ nofun is
    rw [is] at space
    exact (sound.busy endpoint).fail (sound.own is) (replaced raises (sane.raises raises rfl)) space
  next number decoder frames effect rest raises is =>
    obtain ⟨session, isSession, sane⟩ := sound.running endpoint number decoder frames _ nofun is
    have own := sound.own is
    rw [is] at space transport
    dsimp only at space transport
    split at moves
    next isRaised wrote =>
      cases moves
      split at wrote
      next sends =>
        cases wrote
        rw [if_pos sends, Option.isSome_some, Bool.true_and] at space
        exact (sound.busy endpoint).fail own tolerates.expected space
      next => contradiction
    next quiet =>
      obtain ⟨other, isOther, rfl⟩ := Option.map_eq_some_iff.mp moves
      cases isSession.symm.trans isOther
      have publishing : effectPublishes fleet.hub endpoint number session effect = true → room fleet.hub = true := by
        intro published
        refine space ?_
        cases effect with
        | send channel type flags payload => cases published
        | _ =>
          rw [isSession]
          exact published
      have known : effect = .onReady → admitted fleet.hub number session = true → ∀ info, session.info = some info →
          knownTransport info.transport = true := by
        rintro rfl admits info isInfo
        dsimp only at transport
        rw [isSession, Option.bind_some, if_pos admits, isInfo] at transport
        exact transport
      have result := effect_sound (sound.busy endpoint) isSession own (sound.numbered _ _ _ _ _ is) sane publishing known
      split
      next hub isRaised effected =>
        rw [effected] at result
        obtain ⟨soundAfter, handled, spaceAfter⟩ := result
        exact soundAfter.fail own (replaced _ handled) spaceAfter
      next hub effected =>
        rw [effected] at result
        exact result.1.continues own (sound.numbered _ _ _ _ _ is) result.2
  next => contradiction

theorem Sound.step (hmac : List UInt8 → List UInt8 → List UInt8) {fleet after : Fleet} {event : FleetEvent}
    (sound : Sound none fleet) (tolerates : Tolerates fleet event) (moves : fleetNext hmac fleet event = some after) :
    Sound none after := by
  have space := tolerates.room
  cases event with
  | handle endpoint nonce => exact sound.handle hmac tolerates moves
  | perform endpoint raised => exact sound.perform tolerates moves
  | add endpoint state =>
    unfold fleetNext at moves
    dsimp only at moves
    split at moves
    · cases moves
      have set : Sound (some endpoint) { fleet with hub := fleet.hub.setEndpoint endpoint state } :=
        (sound.busy endpoint).same ⟨rfl, rfl⟩
      exact set.rests nofun nofun
    · contradiction
  | remove endpoint =>
    unfold fleetNext at moves
    dsimp only at moves
    split at moves
    next number decoder frames work is =>
      cases moves
      obtain ⟨session, isSession, _⟩ := sound.running endpoint number decoder frames work nofun is
      have closed := (sound.busy endpoint).closed isSession (sound.own is)
      obtain ⟨sessions, devices⟩ := leave_subset (fleet.hub.setSession number (closeSession session)) (some number)
      have left : Sound (some endpoint)
          { fleet with hub := (fleet.hub.setSession number (closeSession session)).leave (some number) } :=
        closed.hub sessions devices
      rw [Hub.closeSession, isSession]
      exact left.rests nofun nofun
    · cases moves
      exact (sound.busy endpoint).rests nofun nofun
  | connected endpoint pairingToken =>
    unfold fleetNext at moves
    dsimp only at moves
    have expected : (tokenRefusal pairingToken).all handledException = true := tolerates.expected
    split at moves
    · split at moves
      next raised refused =>
        unfold tokenRefusal at expected refused
        split at refused
        next => contradiction
        next malformed =>
          rw [if_neg malformed] at expected
          contradiction
      next =>
        cases moves
        exact sound.connects endpoint pairingToken
    · contradiction
  | refused endpoint raised =>
    unfold fleetNext at moves
    dsimp only at moves
    split at moves
    · cases moves
      unfold Fleet.except
      rw [if_pos (show handledException raised = true from tolerates.expected)]
      exact (sound.busy endpoint).settle space none
    · contradiction
  | received endpoint data =>
    unfold fleetNext at moves
    dsimp only at moves
    split at moves
    next number decoder is =>
      split at moves
      next closed =>
        cases moves
        refine (sound.busy endpoint).fail (sound.own is) rfl fun lost => space ?_
        rw [publishes, decide_eq_true closed, lost]
        rfl
      cases moves
      exact (sound.busy endpoint).continues (sound.own is) (sound.numbered _ _ _ _ _ is)
        (sound.running endpoint number decoder [] none nofun is)
    next => contradiction
  | broken endpoint raised =>
    unfold fleetNext at moves
    dsimp only at moves
    split at moves
    next number decoder is =>
      cases moves
      exact (sound.busy endpoint).fail (sound.own is) tolerates.expected space
    next => contradiction
  | retry endpoint =>
    unfold fleetNext at moves
    dsimp only at moves
    split at moves
    · cases moves
      exact (sound.busy endpoint).rests nofun nofun
    · contradiction
  | live call | watch deviceId call | watchMedia deviceId channel limit call =>
    cases moves
    exact sound.same ⟨rfl, rfl⟩
  | operation event =>
    cases moves
    exact sound.same (sink_same fleet.hub event)
  | used number pending requestId sequence =>
    obtain ⟨session, isSession, rfl⟩ := Option.map_eq_some_iff.mp moves
    exact sound.used isSession rfl rfl rfl

theorem listed_enrolled (hub : Hub) (devices : List (DeviceId × Nat)) (enrolled : ∀ entry ∈ devices, Enrolled hub entry) :
    ∃ items, listSessions hub devices = .ok items ∧ items.map (fun item => item.info.deviceId) = devices.map Prod.fst := by
  induction devices with
  | nil => exact ⟨[], rfl, rfl⟩
  | cons entry rest ih =>
    obtain ⟨items, listed, ids⟩ := ih fun other inside => enrolled other (List.mem_cons_of_mem _ inside)
    obtain ⟨session, info, isSession, isInfo, deviceId, known⟩ := enrolled entry List.mem_cons_self
    obtain ⟨name, isName⟩ := (transportName_ok info.transport).mpr known
    refine ⟨⟨info, (hub.endpointStates session.endpoint).firmwareMode.getD "unknown", name⟩ :: items, ?_, ?_⟩
    · obtain ⟨id, number⟩ := entry
      dsimp only at isSession
      rw [listSessions, isSession]
      dsimp only
      rw [listSession, isInfo]
      dsimp only
      rw [isName, listed]
      rfl
    · rw [List.map_cons, List.map_cons, ids, deviceId]

/-- Where every event that is published finds room and no device of an unknown transport is
registered, no supervisor ends while its endpoint is configured, and all devices are listed. -/
theorem supervisors_survive (hmac : List UInt8 → List UInt8 → List UInt8) {fleet : Fleet}
    (reached : Reachable ((Gateway.fleet hmac).guarded Tolerates) fleet) : Survives fleet := by
  have invariant : Invariant ((Gateway.fleet hmac).guarded Tolerates) (Sound none) := by
    refine ⟨?_, fun before event after sound ⟨tolerates, moves⟩ => sound.step hmac tolerates moves⟩
    rintro state ⟨eventSink, rfl⟩
    exact ⟨nofun, fun entry inside => absurd inside List.not_mem_nil, nofun, nofun, nofun⟩
  have sound := invariant.reachable reached
  refine ⟨fun endpoint raised => sound.alive endpoint raised nofun, ?_⟩
  exact listed_enrolled fleet.hub fleet.hub.devices fun entry inside => (sound.enrolled entry inside).2

def listeningFleet : Fleet := .initial (some ⟨[], ⟨[], []⟩, true⟩)

/-- An endpoint is added and connected, and its device sends a HELLO as bytes; the supervisor goes
on until the hub's callback. -/
def greetedEndpoint (transport : Nat) : List FleetEvent :=
  [.live .subscribe, .add "tcp:iris" ⟨none, none, none⟩, .connected "tcp:iris" none,
    .received "tcp:iris" (match Codec.Host.encodeFrame (plainHello 7 0 transport) with
      | .ok wire => wire
      | .error _ => []),
    .handle "tcp:iris" []] ++ List.replicate 4 (.perform "tcp:iris" none)

def oneRegistered (fleet : Fleet) : Bool := fleet.hub.devices = [(List.replicate 16 1, 0)]

theorem supervisors_survive_registration :
    ∃ fleet, Reachable ((Gateway.fleet fun _ _ => []).guarded Tolerates) fleet ∧
      fleet.hub.devices = [(List.replicate 16 1, 0)] ∧ Survives fleet := by
  obtain ⟨fleet, run, registered⟩ : ∃ fleet, Run ((Gateway.fleet fun _ _ => []).guarded Tolerates) listeningFleet
      (greetedEndpoint 2) fleet ∧ oneRegistered fleet = true := Run.of_guarded_check (by decide +kernel)
  have reached : Reachable ((Gateway.fleet fun _ _ => []).guarded Tolerates) fleet := ⟨_, _, ⟨_, rfl⟩, run⟩
  exact ⟨fleet, reached, of_decide_eq_true registered, supervisors_survive (fun _ _ => []) reached⟩

def isTerminated : Supervisor → Bool
  | .terminated _ => true
  | _ => false

def lostSupervisor (fleet : Fleet) : Bool := isTerminated (fleet.supervisors "tcp:iris")

/-- A device that says its transport is 9: its registration is published, the listing of the
devices raises `ValueError`, and the supervisor of its endpoint is gone. -/
theorem unknown_transport_ends_supervisor :
    ∃ fleet, Reachable (Gateway.fleet fun _ _ => []) fleet ∧
      isTerminated (fleet.supervisors "tcp:iris") = true ∧ ¬ Survives fleet := by
  obtain ⟨fleet, run, ended⟩ : ∃ fleet, Run (Gateway.fleet fun _ _ => []) listeningFleet (greetedEndpoint 9) fleet ∧
      lostSupervisor fleet = true := Run.of_check (by decide +kernel)
  refine ⟨fleet, ⟨_, _, ⟨_, rfl⟩, run⟩, ended, ?_⟩
  unfold lostSupervisor at ended
  intro survives
  cases is : fleet.supervisors "tcp:iris" with
  | terminated raised => exact survives.alive "tcp:iris" raised is
  | _ =>
    rw [is] at ended
    cases ended

end EspIris.Gateway
