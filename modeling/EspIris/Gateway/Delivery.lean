import EspIris.Gateway.Hub

/-! Whether an event reaches everyone who listens. -/

namespace EspIris.Gateway

/-- An event is distributed: nothing is raised, each live queue of the gateway has the event or a
gap marker, and each queue of the hub for the device has the event. No subscriber is lost. -/
structure Delivered (hub : Hub) (event : HubEvent) (deviceId : DeviceId) (result : Hub × Option Raised) : Prop where
  completes : result.2 = none
  live : ∀ before after, hub.eventSink = some before → result.1.eventSink = some after →
    after.subscribers.length = before.subscribers.length ∧ ∀ subscriber ∈ after.subscribers,
      .historyGap ∈ subscriber.items ∨ ∃ persisted, .event persisted ∈ subscriber.items ∧ persisted.event = event
  watchers : (result.1.subscribers deviceId).length = (hub.subscribers deviceId).length ∧
    ∀ subscriber ∈ result.1.subscribers deviceId, event ∈ subscriber.items

structure Deliverable (hub : Hub) : Prop where
  room : ∀ service, hub.eventSink = some service → ∀ subscriber ∈ service.subscribers, subscriber.full = false
  listed : ∀ service, hub.eventSink = some service → service.attached = true →
    ∀ info, Listed hub info → knownTransport info.transport = true

theorem onDeviceEvent_completes (service : Service) (listed : Except Raised (List ListedDevice)) {event : HubEvent}
    {deviceId : DeviceId} (named : event.named = some deviceId) :
    (service.onDeviceEvent listed event).2 = none ↔
      (service.attached = true → ∃ items, listed = .ok items) ∧ ∀ subscriber ∈ service.subscribers, subscriber.full = false := by
  have loop (persisted : Persisted) : (publishEach (publishLive persisted) service.subscribers).2 = none ↔
      ∀ subscriber ∈ service.subscribers, subscriber.full = false := by
    rw [publishEach_raises]
    simp only [publishLive_raises]
  rw [Service.onDeviceEvent, named]
  dsimp only
  cases attached : service.attached with
  | false =>
    rw [if_neg Bool.false_ne_true]
    exact (loop _).trans (iff_and_self.mpr fun _ detached => absurd detached Bool.false_ne_true)
  | true =>
    rw [if_pos rfl]
    cases listed with
    | error raised => exact iff_of_false (Option.some_ne_none _) fun ⟨items, _⟩ => by cases (items rfl).choose_spec
    | ok items => exact (loop _).trans (iff_and_self.mpr fun _ _ => ⟨items, rfl⟩)

theorem onDeviceEvent_holds {service : Service} {listed : Except Raised (List ListedDevice)} {event : HubEvent}
    (completes : (service.onDeviceEvent listed event).2 = none) :
    (service.onDeviceEvent listed event).1.subscribers.length = service.subscribers.length ∧
      ∀ subscriber ∈ (service.onDeviceEvent listed event).1.subscribers,
        ∃ persisted, .event persisted ∈ subscriber.items ∧ persisted.event = event := by
  revert completes
  unfold Service.onDeviceEvent
  dsimp only
  split
  · exact fun raises => by cases raises
  intro completes
  have each := (publishEach_raises _ _).mp completes
  dsimp only
  rw [publishEach_done completes]
  refine ⟨List.length_map _, ?_⟩
  intro subscriber inside
  obtain ⟨before, isBefore, rfl⟩ := List.mem_map.mp inside
  exact ⟨_, publishLive_holds (each before isBefore), rfl⟩

/-- Recording an event in the history changes nothing of what the sink looks at. -/
theorem listDevices_history (hub : Hub) (history : DeviceId → List HubEvent) :
    { hub with history := history }.listDevices = hub.listDevices := by
  have same (devices : List (DeviceId × Nat)) :
      listSessions { hub with history := history } devices = listSessions hub devices := by
    induction devices with
    | nil => rfl
    | cons entry rest ih => simp only [listSessions, ih, listSession]
  exact same hub.devices

theorem sink_completes (hub : Hub) {event : HubEvent} {deviceId : DeviceId} (named : event.named = some deviceId) :
    (hub.sink event).2 = none ↔ Deliverable hub := by
  rw [Hub.sink]
  cases isSink : hub.eventSink with
  | none =>
    refine iff_of_true rfl ⟨?_, ?_⟩
    · intro service same
      rw [isSink] at same
      contradiction
    · intro service same
      rw [isSink] at same
      contradiction
  | some service =>
    dsimp only
    rw [onDeviceEvent_completes service _ named, listDevices_ok]
    constructor
    · intro ⟨listed, room⟩
      refine ⟨?_, ?_⟩
      · intro other same
        cases isSink.symm.trans same
        exact room
      · intro other same
        cases isSink.symm.trans same
        exact listed
    · intro deliverable
      exact ⟨deliverable.listed service isSink, deliverable.room service isSink⟩

theorem onEvent_sunk {hub : Hub} {event : HubEvent} {deviceId : DeviceId} (named : event.named = some deviceId) :
    (hub.onEvent event).2 = (hub.sink event).2 ∧ (hub.onEvent event).1.eventSink = (hub.sink event).1.eventSink ∧
      ((hub.sink event).2 = none → (hub.onEvent event).1.subscribers deviceId =
        (hub.subscribers deviceId).map fun subscriber => (publishDropping event subscriber).1) := by
  have same (history : DeviceId → List HubEvent) :
      ({ hub with history := history }.sink event).2 = (hub.sink event).2 ∧
      ({ hub with history := history }.sink event).1.eventSink = (hub.sink event).1.eventSink ∧
      ({ hub with history := history }.sink event).1.subscribers = hub.subscribers := by
    have listed := listDevices_history hub history
    cases isSink : hub.eventSink with
    | none => simp only [Hub.sink, isSink, and_self]
    | some service =>
      rw [isSink] at listed
      simp only [Hub.sink, isSink, listed, and_self]
  have each := (publishEach_raises (publishDropping event) (hub.subscribers deviceId)).mpr
    fun subscriber _ => (publishDropping_holds event subscriber).1
  rw [Hub.onEvent, named]
  dsimp only
  obtain ⟨raises, sink, subscribers⟩ := same fun other =>
    if other = deviceId then appendHistory (hub.history other) event else hub.history other
  split
  next sunk raised isSunk =>
    rw [isSunk] at raises sink
    refine ⟨raises, sink, ?_⟩
    intro done
    rw [← raises] at done
    contradiction
  next sunk isSunk =>
    rw [isSunk] at raises sink subscribers
    dsimp only at raises sink subscribers
    refine ⟨?_, sink, ?_⟩
    · rw [← raises, subscribers]
      exact each
    · intro _
      dsimp only
      rw [if_pos rfl, subscribers]
      exact publishEach_done each

/-- An event reaches every subscriber exactly where no live queue is full and every registered
device can be listed. -/
theorem event_delivered_iff (hub : Hub) (event : HubEvent) (deviceId : DeviceId)
    (named : event.named = some deviceId) : Delivered hub event deviceId (hub.onEvent event) ↔ Deliverable hub := by
  obtain ⟨raises, sink, subscribers⟩ := onEvent_sunk named
  rw [← sink_completes hub named]
  constructor
  · intro delivered
    exact raises.symm.trans delivered.completes
  · intro done
    refine ⟨raises.trans done, ?_, ?_⟩
    · intro before after isBefore isAfter
      rw [sink] at isAfter
      rw [Hub.sink, isBefore] at done isAfter
      cases isAfter
      obtain ⟨length, holds⟩ := onDeviceEvent_holds done
      exact ⟨length, fun subscriber inside => .inr (holds subscriber inside)⟩
    · rw [subscribers done]
      refine ⟨List.length_map _, ?_⟩
      intro subscriber inside
      obtain ⟨before, _, rfl⟩ := List.mem_map.mp inside
      exact (publishDropping_holds event before).2

def listeningHub (live : Subscriber LiveItem) : Hub where
  devices := []
  sessions := fun _ => none
  endpointStates := fun _ => ⟨none, none, none⟩
  lastBootId := fun _ => none
  history := fun _ => []
  subscribers := fun deviceId => if deviceId = [1] then [.empty 256 (by decide)] else []
  mediaSubscribers := fun _ _ => []
  eventSink := some ⟨[live], ⟨[], []⟩, true⟩

def jobEvent : HubEvent := ⟨some [1], some 1, some 7, .job ⟨1, 1, 1, false, 0, 0⟩⟩

theorem event_delivered_to_both :
    Delivered (listeningHub (.empty 1024 (by decide))) jobEvent [1]
      ((listeningHub (.empty 1024 (by decide))).onEvent jobEvent) := by
  refine (event_delivered_iff _ jobEvent [1] rfl).mpr ⟨?_, ?_⟩
  · intro service isSink subscriber inside
    cases isSink
    rw [List.mem_singleton.mp inside]
    rfl
  · intro service isSink attached info ⟨_, _, _, inside, _⟩
    exact absurd inside List.not_mem_nil

def fullQueue : Subscriber LiveItem := ⟨1024, List.replicate 1024 .historyGap, by decide, (List.length_replicate).le⟩

/-- A full live queue: the publication raises `QueueFull`, and the subscriber of the device in the
hub, whose queue is empty, never gets the event. -/
theorem full_queue_stops_delivery :
    ((listeningHub fullQueue).onEvent jobEvent).2 = some .queueFull ∧
      ((listeningHub fullQueue).onEvent jobEvent).1.subscribers [1] = [.empty 256 (by decide)] ∧
      ¬ Delivered (listeningHub fullQueue) jobEvent [1] ((listeningHub fullQueue).onEvent jobEvent) := by
  have raises : ((listeningHub fullQueue).onEvent jobEvent).2 = some .queueFull := by
    decide +kernel
  refine ⟨raises, by decide +kernel, ?_⟩
  intro delivered
  rw [delivered.completes] at raises
  contradiction

end EspIris.Gateway
