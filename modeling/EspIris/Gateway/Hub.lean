import EspIris.Gateway.Session

/-! How an event goes from a session to everyone who listens: `IrisHub._on_event`, its event sink
`on_device_event` of the gateway, and the queues of their subscribers. The store is an append-only
list here; what it writes to disk, and the metrics, are left out. -/

namespace EspIris.Gateway

/-- An `asyncio.Queue` with its `maxsize`. -/
structure Subscriber (Item : Type) where
  limit : Nat
  items : List Item
  positive : 0 < limit
  bounded : items.length ≤ limit
  deriving DecidableEq

namespace Subscriber
variable {Item : Type}

def empty (limit : Nat) (positive : 0 < limit) : Subscriber Item := ⟨limit, [], positive, Nat.zero_le _⟩

def full (subscriber : Subscriber Item) : Bool := subscriber.items.length ≥ subscriber.limit

/-- `get_nowait` without the item. -/
def dropOldest (subscriber : Subscriber Item) : Subscriber Item where
  limit := subscriber.limit
  items := subscriber.items.drop 1
  positive := subscriber.positive
  bounded := by
    rw [List.length_drop]
    exact (Nat.sub_le _ _).trans subscriber.bounded

def putNowait (subscriber : Subscriber Item) (item : Item) : Subscriber Item × Option Raised :=
  if room : subscriber.items.length < subscriber.limit then
    (⟨subscriber.limit, subscriber.items ++ [item], subscriber.positive, by
      rw [List.length_append, List.length_singleton]
      exact room⟩, none)
  else (subscriber, some .queueFull)

theorem full_iff (subscriber : Subscriber Item) : subscriber.full = true ↔ subscriber.limit ≤ subscriber.items.length := by
  rw [full, decide_eq_true_eq]

theorem putNowait_room {subscriber : Subscriber Item} (room : subscriber.items.length < subscriber.limit) (item : Item) :
    (subscriber.putNowait item).2 = none ∧ (subscriber.putNowait item).1.items = subscriber.items ++ [item] ∧
      (subscriber.putNowait item).1.limit = subscriber.limit := by
  rw [putNowait, dif_pos room]
  exact ⟨rfl, rfl, rfl⟩

theorem putNowait_full {subscriber : Subscriber Item} (noRoom : ¬ subscriber.items.length < subscriber.limit) (item : Item) :
    subscriber.putNowait item = (subscriber, some .queueFull) := by
  rw [putNowait, dif_neg noRoom]

theorem dropOldest_room (subscriber : Subscriber Item) :
    subscriber.dropOldest.items.length < subscriber.dropOldest.limit := by
  have bounded := subscriber.bounded
  have positive := subscriber.positive
  dsimp only [dropOldest]
  rw [List.length_drop]
  omega

end Subscriber

def publishEach {Queue : Type} (put : Queue → Queue × Option Raised) : List Queue → List Queue × Option Raised
  | [] => ([], none)
  | queue :: rest =>
    match put queue with
    | (changed, some raised) => (changed :: rest, some raised)
    | (changed, none) => (changed :: (publishEach put rest).1, (publishEach put rest).2)

inductive Category
  | log | operation | device
  deriving DecidableEq, Repr

def category (event : HubEvent) : Category :=
  match event.body with
  | .log .. => .log
  | .operation => .operation
  | _ => .device

structure Persisted where
  eventId : Nat
  category : Category
  event : HubEvent
  deriving DecidableEq, Repr

inductive LiveItem
  | event (persisted : Persisted)
  | historyGap
  deriving DecidableEq, Repr

/-- An item of `list_devices`. -/
structure ListedDevice where
  info : DeviceInfo
  firmwareMode : String
  transportName : String
  deriving DecidableEq, Repr

structure Store where
  remembered : List ListedDevice
  events : List Persisted

def Store.append (store : Store) (category : Category) (event : HubEvent) : Store × Persisted :=
  let persisted := ⟨store.events.length + 1, category, event⟩
  ({ store with events := store.events ++ [persisted] }, persisted)

/-- The gateway service behind the event sink; `attached` is whether it has its hub. -/
structure Service where
  subscribers : List (Subscriber LiveItem)
  store : Store
  attached : Bool

def HubEvent.named (event : HubEvent) : Option DeviceId := event.deviceId.filter (· ≠ [])

/-- One turn of the loop in `on_device_event`. -/
def putLive {Item : Type} (gap item : Item) (subscriber : Subscriber Item) : Subscriber Item × Option Raised :=
  if subscriber.full then
    match subscriber.dropOldest.putNowait gap with
    | (gapped, some raised) => (gapped, some raised)
    | (gapped, none) => gapped.putNowait item
  else subscriber.putNowait item

def publishLive (persisted : Persisted) : Subscriber LiveItem → Subscriber LiveItem × Option Raised :=
  putLive .historyGap (.event persisted)

/-- `on_device_event`; `listed` is what `hub.list_devices` comes to. -/
def Service.onDeviceEvent (service : Service) (listed : Except Raised (List ListedDevice)) (event : HubEvent) :
    Service × Option Raised :=
  let current : Except Raised (Option ListedDevice) :=
    match event.named with
    | some deviceId => if service.attached then listed.map (·.find? (·.info.deviceId = deviceId)) else .ok none
    | none => .ok none
  match current with
  | .error raised => (service, some raised)
  | .ok device =>
    let known := { service.store with remembered := service.store.remembered ++ device.toList }
    let appended := known.append (category event) event
    let published := publishEach (publishLive appended.2) service.subscribers
    ({ service with subscribers := published.1, store := appended.1 }, published.2)

structure EndpointState where
  deviceId : Option DeviceId
  firmwareMode : Option String
  advertisedDeviceId : Option DeviceId

/-- `IrisHub`. A session object is known by its number. -/
structure Hub where
  devices : List (DeviceId × Nat)
  sessions : Nat → Option DeviceSession
  endpointStates : String → EndpointState
  lastBootId : DeviceId → Option Nat
  history : DeviceId → List HubEvent
  subscribers : DeviceId → List (Subscriber HubEvent)
  mediaSubscribers : DeviceId → Int → List (Subscriber MediaEvent)
  eventSink : Option Service

/-- `Transport(transport)` and its name. -/
def transportName (transport : Nat) : Except Raised String :=
  if transport = 1 then .ok "USB Highspeed"
  else if transport = 2 then .ok "TCP"
  else if transport = 3 then .ok "USB Serial/JTAG"
  else .error (.value (toString transport ++ " is not a valid Transport"))

def listSession (hub : Hub) (session : DeviceSession) : Except Raised (Option ListedDevice) :=
  match session.info with
  | none => .ok none
  | some info =>
    (transportName info.transport).map fun name =>
      some ⟨info, (hub.endpointStates session.endpoint).firmwareMode.getD "unknown", name⟩

/-- The loop of `list_devices`. -/
def listSessions (hub : Hub) : List (DeviceId × Nat) → Except Raised (List ListedDevice)
  | [] => .ok []
  | (_, number) :: rest =>
    match hub.sessions number with
    | none => listSessions hub rest
    | some session =>
      match listSession hub session with
      | .error raised => .error raised
      | .ok item => (listSessions hub rest).map (item.toList ++ ·)

def Hub.listDevices (hub : Hub) : Except Raised (List ListedDevice) := listSessions hub hub.devices

/-- `deque.append` with `maxlen`. -/
def appendHistory (history : List HubEvent) (event : HubEvent) : List HubEvent :=
  (history ++ [event]).drop (history.length + 1 - historyLimit)

/-- One turn of the loops in `_on_event` and `_on_media`: the oldest item makes room. -/
def publishDropping {Item : Type} (item : Item) (subscriber : Subscriber Item) : Subscriber Item × Option Raised :=
  (if subscriber.full then subscriber.dropOldest else subscriber).putNowait item

def Hub.sink (hub : Hub) (event : HubEvent) : Hub × Option Raised :=
  match hub.eventSink with
  | none => (hub, none)
  | some service =>
    let sunk := service.onDeviceEvent hub.listDevices event
    ({ hub with eventSink := some sunk.1 }, sunk.2)

def Hub.onEvent (hub : Hub) (event : HubEvent) : Hub × Option Raised :=
  match event.named with
  | none => (hub, none)
  | some deviceId =>
    let noted := { hub with
      history := fun other => if other = deviceId then appendHistory (hub.history other) event else hub.history other }
    match noted.sink event with
    | (sunk, some raised) => (sunk, some raised)
    | (sunk, none) =>
      let published := publishEach (publishDropping event) (sunk.subscribers deviceId)
      ({ sunk with
          subscribers := fun other => if other = deviceId then published.1 else sunk.subscribers other },
        published.2)

def Hub.onMedia (hub : Hub) (event : MediaEvent) : Hub × Option Raised :=
  match event.deviceId.filter (· ≠ []) with
  | none => (hub, none)
  | some deviceId =>
    let published := publishEach (publishDropping event) (hub.mediaSubscribers deviceId event.channel)
    ({ hub with
        mediaSubscribers := fun other channel =>
          if other = deviceId ∧ channel = event.channel then published.1 else hub.mediaSubscribers other channel },
      published.2)

theorem publishEach_raises {Queue : Type} (put : Queue → Queue × Option Raised) (queues : List Queue) :
    (publishEach put queues).2 = none ↔ ∀ queue ∈ queues, (put queue).2 = none := by
  induction queues with
  | nil => simp [publishEach]
  | cons queue rest ih =>
    rw [publishEach, List.forall_mem_cons, ← ih]
    split
    next changed raised put => simp [put]
    next changed put => simp [put]

theorem publishEach_done {Queue : Type} {put : Queue → Queue × Option Raised} {queues : List Queue}
    (done : (publishEach put queues).2 = none) : (publishEach put queues).1 = queues.map fun queue => (put queue).1 := by
  induction queues with
  | nil => rfl
  | cons queue rest ih =>
    have all := (publishEach_raises put (queue :: rest)).mp done
    have here := all queue List.mem_cons_self
    have later := ih ((publishEach_raises put rest).mpr fun other inside => all other (List.mem_cons_of_mem _ inside))
    rw [publishEach]
    split
    next changed raised isPut =>
      rw [isPut] at here
      contradiction
    next changed isPut => rw [later, List.map_cons, isPut]

theorem putLive_room {Item : Type} {gap item : Item} {subscriber : Subscriber Item} (room : subscriber.full = false) :
    (putLive gap item subscriber).2 = none ∧ (putLive gap item subscriber).1.items = subscriber.items ++ [item] := by
  have free : subscriber.items.length < subscriber.limit :=
    not_le.mp fun reached => Bool.eq_false_iff.mp room (subscriber.full_iff.mpr reached)
  unfold putLive
  rw [if_neg (Bool.eq_false_iff.mp room)]
  exact ⟨(Subscriber.putNowait_room free item).1, (Subscriber.putNowait_room free item).2.1⟩

theorem putLive_full {Item : Type} {gap item : Item} {subscriber : Subscriber Item} (full : subscriber.full = true) :
    (putLive gap item subscriber).2 = some .queueFull ∧
      (putLive gap item subscriber).1.items = subscriber.items.drop 1 ++ [gap] := by
  obtain ⟨done, items, limit⟩ := Subscriber.putNowait_room subscriber.dropOldest_room gap
  unfold putLive
  rw [if_pos full]
  split
  next gapped raised put =>
    rw [put] at done
    contradiction
  next gapped put =>
    rw [put] at items limit
    dsimp only at items limit
    have noRoom : ¬ gapped.items.length < gapped.limit := by
      have reached := subscriber.full_iff.mp full
      have positive := subscriber.positive
      rw [items, limit, List.length_append, List.length_singleton]
      dsimp only [Subscriber.dropOldest]
      rw [List.length_drop]
      omega
    rw [Subscriber.putNowait_full noRoom]
    exact ⟨rfl, items⟩

/-- A full live queue takes the gap marker but not the event behind it. -/
theorem publishLive_raises (persisted : Persisted) (subscriber : Subscriber LiveItem) :
    (publishLive persisted subscriber).2 = none ↔ subscriber.full = false := by
  unfold publishLive
  cases room : subscriber.full with
  | false => exact iff_of_true (putLive_room room).1 rfl
  | true =>
    refine iff_of_false ?_ Bool.noConfusion
    rw [(putLive_full room).1]
    exact Option.some_ne_none _

theorem publishLive_holds {persisted : Persisted} {subscriber : Subscriber LiveItem}
    (done : (publishLive persisted subscriber).2 = none) : .event persisted ∈ (publishLive persisted subscriber).1.items := by
  have room := (publishLive_raises persisted subscriber).mp done
  unfold publishLive
  rw [(putLive_room room).2]
  exact List.mem_append_right _ (List.mem_singleton.mpr rfl)

theorem publishDropping_holds {Item : Type} (item : Item) (subscriber : Subscriber Item) :
    (publishDropping item subscriber).2 = none ∧ item ∈ (publishDropping item subscriber).1.items := by
  have room : (if subscriber.full then subscriber.dropOldest else subscriber).items.length <
      (if subscriber.full then subscriber.dropOldest else subscriber).limit := by
    split
    · exact subscriber.dropOldest_room
    next free => exact not_le.mp fun reached => free (subscriber.full_iff.mpr reached)
  obtain ⟨done, items, _⟩ := Subscriber.putNowait_room room item
  refine ⟨done, ?_⟩
  rw [publishDropping, items]
  exact List.mem_append_right _ (List.mem_singleton.mpr rfl)

def knownTransport (transport : Nat) : Bool := transport = 1 || transport = 2 || transport = 3

theorem transportName_ok (transport : Nat) : (∃ name, transportName transport = .ok name) ↔ knownTransport transport = true := by
  unfold transportName knownTransport
  split
  next one => simp [one]
  next one =>
    split
    next two => simp [two]
    next two =>
      split
      next three => simp [three]
      next three => simp [one, two, three]

/-- The sessions that `list_devices` looks at. -/
def Listed (hub : Hub) (info : DeviceInfo) : Prop :=
  ∃ deviceId number session, (deviceId, number) ∈ hub.devices ∧ hub.sessions number = some session ∧
    session.info = some info

theorem listSession_ok (hub : Hub) (session : DeviceSession) :
    (∃ item, listSession hub session = .ok item) ↔ ∀ info, session.info = some info → knownTransport info.transport = true := by
  cases isInfo : session.info with
  | none =>
    refine iff_of_true ⟨none, ?_⟩ fun info same => by cases same
    rw [listSession, isInfo]
  | some info =>
    have only : (∀ other, some info = some other → knownTransport other.transport = true) ↔
        knownTransport info.transport = true := by simp
    rw [only, ← transportName_ok, listSession, isInfo]
    dsimp only
    cases transportName info.transport with
    | error raised => exact iff_of_false (fun ⟨_, listed⟩ => by cases listed) fun ⟨_, named⟩ => by cases named
    | ok name => exact iff_of_true ⟨_, rfl⟩ ⟨name, rfl⟩

theorem listSessions_ok (hub : Hub) (devices : List (DeviceId × Nat)) :
    (∃ items, listSessions hub devices = .ok items) ↔ ∀ entry ∈ devices, ∀ session, hub.sessions entry.2 = some session →
      ∀ info, session.info = some info → knownTransport info.transport = true := by
  induction devices with
  | nil => simp [listSessions]
  | cons entry rest ih =>
    obtain ⟨deviceId, number⟩ := entry
    rw [List.forall_mem_cons, ← ih, listSessions]
    cases isSession : hub.sessions number with
    | none => simp
    | some session =>
      have first := listSession_ok hub session
      dsimp only
      cases one : listSession hub session with
      | error raised =>
        rw [one] at first
        refine iff_of_false (fun ⟨_, listed⟩ => by cases listed) ?_
        intro ⟨known, _⟩
        obtain ⟨_, listed⟩ := first.mpr (known session rfl)
        cases listed
      | ok item =>
        have known := first.mp ⟨item, one⟩
        dsimp only
        constructor
        · intro ⟨items, listed⟩
          refine ⟨fun other same => Option.some.inj same ▸ known, ?_⟩
          cases others : listSessions hub rest with
          | error raised =>
            rw [others] at listed
            cases listed
          | ok more => exact ⟨more, rfl⟩
        · intro ⟨_, more, others⟩
          rw [others]
          exact ⟨_, rfl⟩

theorem listDevices_ok (hub : Hub) :
    (∃ items, hub.listDevices = .ok items) ↔ ∀ info, Listed hub info → knownTransport info.transport = true := by
  rw [Hub.listDevices, listSessions_ok]
  constructor
  · intro known info ⟨deviceId, number, session, entry, isSession, isInfo⟩
    exact known (deviceId, number) entry session isSession info isInfo
  · intro known entry inside session isSession info isInfo
    exact known info ⟨entry.1, entry.2, session, inside, isSession, isInfo⟩

end EspIris.Gateway
