import EspIris.Gateway.MdnsServices

/-! While its notifications are orderly, the hub supervises for discovery what is advertised: a service is taken
out of the maps before another one is noted in its place, and the two steps meet in a hub that is almost as it
should be. -/

namespace EspIris.Gateway.Mdns
open Machine

/-- What holds beside the maps: a device and a service are advertised once, the state of an endpoint names the
device of a service at it. -/
structure Sound (hub : MdnsHub) (adverts : List Advert) : Prop where
  consistent : Consistent hub adverts
  oneService : ∀ advert ∈ adverts, ∀ other ∈ adverts, other.service = advert.service → other = advert
  oneDevice : ∀ advert ∈ adverts, ∀ other ∈ adverts, other.deviceId = advert.deviceId → other = advert
  named : ∀ endpoint state, hub.discovered endpoint = true → hub.states endpoint = some state →
    ∃ advert ∈ adverts, advert.endpoint = endpoint ∧ state.advertisedDeviceId = some advert.deviceId
  tasks : ∀ endpoint, hub.tasks endpoint = true → (hub.states endpoint).isSome = true
  maintenance : ∀ endpoint, hub.maintenance endpoint = true → "usb:".toList <+: endpoint.toList

structure Dropped (hub after : MdnsHub) (endpoint : String) : Prop where
  services : after.services = hub.services
  devices : after.devices = hub.devices
  discovered : ∀ other, after.discovered other = (decide (other ≠ endpoint) && hub.discovered other)
  manual : ∀ other, after.manual other = hub.manual other
  states : ∀ other, other ≠ endpoint → after.states other = hub.states other
  tasks : ∀ other, after.tasks other = (decide (other ≠ endpoint) && hub.tasks other)
  locks : ∀ other, other ≠ endpoint → after.locks other = hub.locks other
  maintenance : ∀ other, after.maintenance other = true → hub.maintenance other = true

section removal
variable {hub : MdnsHub} {endpoint : String}

theorem discovered_state (discovered : hub.discovered endpoint = true) :
    hub.tasks endpoint = true ∧ ∃ state, hub.states endpoint = some state ∧ state.isMdns = true := by
  unfold MdnsHub.discovered at discovered
  rw [Bool.and_eq_true, Option.any_eq_true] at discovered
  exact discovered

/-- Without its task a discovered endpoint is no longer supervised, and no endpoint becomes one that was added
by hand. -/
theorem Dropped.of {after : MdnsHub} (discovered : hub.discovered endpoint = true) (services : after.services = hub.services)
    (devices : after.devices = hub.devices) (tasks : after.tasks = Function.update hub.tasks endpoint false)
    (states : ∀ other, other ≠ endpoint → after.states other = hub.states other)
    (locks : ∀ other, other ≠ endpoint → after.locks other = hub.locks other)
    (maintenance : ∀ other, after.maintenance other = true → hub.maintenance other = true) : Dropped hub after endpoint := by
  obtain ⟨task, state, found, mdns⟩ := discovered_state discovered
  refine ⟨services, devices, fun other => ?_, fun other => ?_, states, fun other => ?_, locks, maintenance⟩
  · unfold MdnsHub.discovered
    rw [tasks]
    by_cases same : other = endpoint
    · rw [same, Function.update_self, decide_eq_false (not_not.mpr rfl)]
      rfl
    · rw [Function.update_of_ne same, decide_eq_true same, states other same]
      rfl
  · unfold MdnsHub.manual
    rw [tasks]
    by_cases same : other = endpoint
    · rw [same, Function.update_self, found, Option.all_some, mdns]
      exact (Bool.and_false _).symm
    · rw [Function.update_of_ne same, states other same]
  · rw [tasks]
    by_cases same : other = endpoint
    · rw [same, Function.update_self, decide_eq_false (not_not.mpr rfl)]
      rfl
    · rw [Function.update_of_ne same, decide_eq_true same]
      rfl

theorem removeEndpoint_dropped (discovered : hub.discovered endpoint = true) (quiet : Bool) :
    Dropped hub (removeEndpoint hub endpoint quiet).hub endpoint ∧
      (quiet = true → removeEndpoint hub endpoint quiet = .ok (removeEndpoint hub endpoint quiet).hub) := by
  obtain ⟨task, state, found, mdns⟩ := discovered_state discovered
  unfold removeEndpoint
  rw [found, task]
  dsimp only
  rw [mdns, if_neg Bool.noConfusion]
  cases quiet with
  | false =>
    rw [if_pos ⟨rfl, rfl⟩]
    exact ⟨.of discovered rfl rfl rfl (fun _ _ => rfl) (fun _ _ => rfl) fun _ is => is, Bool.noConfusion⟩
  | true =>
    rw [if_neg fun both => Bool.noConfusion both.2]
    refine ⟨.of discovered rfl rfl rfl (fun other apart => Function.update_of_ne apart _ _)
      (fun other apart => Function.update_of_ne apart _ _) fun other is => ?_, fun _ => rfl⟩
    have kept : Function.update hub.maintenance endpoint false other = true := is
    by_cases same : other = endpoint
    · rw [same, Function.update_self] at kept
      cases kept
    · rwa [Function.update_of_ne same] at kept

end removal

theorem mem_others {adverts : List Advert} {spot : Advert} {advert : Advert} :
    advert ∈ others adverts spot ↔
      advert ∈ adverts ∧ advert.service ≠ spot.service ∧ advert.deviceId ≠ spot.deviceId := by
  unfold others
  rw [List.mem_filter, decide_eq_true_eq]

/-- A hub that is as it should be but for a service that is about to be noted; nothing is noted for one at an
endpoint that was added by hand. -/
structure Almost (hub : MdnsHub) (adverts : List Advert) (spot : Advert) : Prop where
  supervised : ∀ endpoint, endpoint ≠ spot.endpoint →
    (hub.discovered endpoint = true ↔ ∃ advert ∈ adverts, advert.endpoint = endpoint)
  services : ∀ name, name ≠ spot.service → ∀ endpoint,
    (hub.services name = some endpoint ↔ ∃ advert ∈ adverts, advert.service = name ∧ advert.endpoint = endpoint)
  devices : ∀ deviceId, deviceId ≠ spot.deviceId → ∀ name,
    (hub.devices deviceId = some name ↔ ∃ advert ∈ adverts, advert.deviceId = deviceId ∧ advert.service = name)
  apart : ∀ advert ∈ adverts, advert.service ≠ spot.service ∧ advert.deviceId ≠ spot.deviceId
  byHand : hub.manual spot.endpoint = true → hub.services spot.service = none ∧
    hub.devices spot.deviceId = none ∧ ∀ advert ∈ adverts, advert.endpoint ≠ spot.endpoint
  oneService : ∀ advert ∈ adverts, ∀ other ∈ adverts, other.service = advert.service → other = advert
  oneDevice : ∀ advert ∈ adverts, ∀ other ∈ adverts, other.deviceId = advert.deviceId → other = advert
  named : ∀ endpoint state, endpoint ≠ spot.endpoint → hub.discovered endpoint = true →
    hub.states endpoint = some state →
    ∃ advert ∈ adverts, advert.endpoint = endpoint ∧ state.advertisedDeviceId = some advert.deviceId
  tasks : ∀ endpoint, hub.tasks endpoint = true → (hub.states endpoint).isSome = true
  maintenance : ∀ endpoint, hub.maintenance endpoint = true → "usb:".toList <+: endpoint.toList

section steps
variable {hub after : MdnsHub} {adverts : List Advert} {spot : Advert}

theorem manual_undiscovered {endpoint : String} (manual : hub.manual endpoint = true) : hub.discovered endpoint = false := by
  unfold MdnsHub.manual at manual
  unfold MdnsHub.discovered
  cases found : hub.states endpoint with
  | none => exact Bool.and_false _
  | some state =>
    rw [found, Option.all_some, Bool.and_eq_true, Bool.not_eq_true'] at manual
    rw [Option.any_some, manual.2]
    exact Bool.and_false _

theorem Sound.manual_free (sound : Sound hub adverts) (manual : hub.manual spot.endpoint = true) :
    ∀ advert ∈ adverts, advert.endpoint ≠ spot.endpoint := by
  intro advert member same
  have discovered := (sound.consistent.supervised spot.endpoint).mpr ⟨advert, member, same⟩
  exact Bool.noConfusion ((manual_undiscovered manual).symm.trans discovered)

/-- A service whose device no other one has, which is new or stays at its endpoint. -/
theorem Sound.almost (sound : Sound hub adverts)
    (keeps : ∀ advert ∈ adverts, advert.service = spot.service → advert.deviceId = spot.deviceId)
    (stays : ∀ advert ∈ adverts, Replaces spot advert →
      advert.service = spot.service ∧ advert.endpoint = spot.endpoint) : Almost hub (others adverts spot) spot := by
  have left : ∀ advert ∈ adverts, advert.endpoint ≠ spot.endpoint ∨ advert.service ≠ spot.service →
      advert ∈ others adverts spot := by
    intro advert member far
    refine mem_others.mpr ⟨member, fun same => ?_, fun same => ?_⟩
    · have both := stays advert member (.inl same)
      rcases far with far | far
      · exact far both.2
      · exact far both.1
    · have both := stays advert member (.inr same)
      rcases far with far | far
      · exact far both.2
      · exact far both.1
  constructor
  case supervised =>
    intro endpoint apart
    rw [sound.consistent.supervised]
    constructor
    · rintro ⟨advert, member, rfl⟩
      exact ⟨advert, left advert member (.inl apart), rfl⟩
    · rintro ⟨advert, member, same⟩
      exact ⟨advert, (mem_others.mp member).1, same⟩
  case services =>
    intro name apart endpoint
    rw [sound.consistent.services]
    constructor
    · rintro ⟨advert, member, rfl, same⟩
      exact ⟨advert, left advert member (.inr apart), rfl, same⟩
    · rintro ⟨advert, member, both⟩
      exact ⟨advert, (mem_others.mp member).1, both⟩
  case devices =>
    intro deviceId apart name
    rw [sound.consistent.devices]
    constructor
    · rintro ⟨advert, member, rfl, same⟩
      refine ⟨advert, mem_others.mpr ⟨member, fun is => apart ?_, apart⟩, rfl, same⟩
      exact keeps advert member is
    · rintro ⟨advert, member, both⟩
      exact ⟨advert, (mem_others.mp member).1, both⟩
  case apart => exact fun advert member => (mem_others.mp member).2
  case byHand =>
    intro manual
    have free := sound.manual_free manual
    have unreplaced : ∀ advert ∈ adverts, ¬ Replaces spot advert := fun advert member replaces =>
      free advert member (stays advert member replaces).2
    refine ⟨?_, ?_, fun advert member => free advert (mem_others.mp member).1⟩
    · rw [Option.eq_none_iff_forall_ne_some]
      intro endpoint is
      obtain ⟨advert, member, same, _⟩ := (sound.consistent.services _ _).mp is
      exact unreplaced advert member (.inl same)
    · rw [Option.eq_none_iff_forall_ne_some]
      intro name is
      obtain ⟨advert, member, same, _⟩ := (sound.consistent.devices _ _).mp is
      exact unreplaced advert member (.inr same)
  case oneService =>
    exact fun advert member other inside => sound.oneService advert (mem_others.mp member).1 other (mem_others.mp inside).1
  case oneDevice =>
    exact fun advert member other inside => sound.oneDevice advert (mem_others.mp member).1 other (mem_others.mp inside).1
  case named =>
    intro endpoint state apart discovered found
    obtain ⟨advert, member, same, name⟩ := sound.named endpoint state discovered found
    exact ⟨advert, left advert member (.inl (same ▸ apart)), same, name⟩
  case tasks => exact sound.tasks
  case maintenance => exact sound.maintenance

structure Popped (hub popped : MdnsHub) (spot gone : Advert) : Prop where
  services : ∀ name, name ≠ spot.service →
    popped.services name = if name = gone.service then none else hub.services name
  devices : ∀ deviceId, deviceId ≠ spot.deviceId → popped.devices deviceId = hub.devices deviceId
  byHand : hub.manual spot.endpoint = true →
    popped.services spot.service = none ∧ popped.devices spot.deviceId = none
  states : popped.states = hub.states
  tasks : popped.tasks = hub.tasks
  maintenance : popped.maintenance = hub.maintenance

/-- The same once the one service that is replaced has left its endpoint. -/
theorem Sound.left (sound : Sound hub adverts)
    (keeps : ∀ advert ∈ adverts, advert.service = spot.service → advert.deviceId = spot.deviceId) {gone : Advert}
    (member : gone ∈ adverts) (replaces : Replaces spot gone)
    (alone : gone.endpoint ≠ spot.endpoint → Alone adverts gone)
    (only : ∀ advert ∈ adverts, Replaces spot advert → advert = gone) {popped : MdnsHub}
    (pops : Popped hub popped spot gone) (dropped : Dropped popped after gone.endpoint) :
    Almost after (others adverts spot) spot := by
  have left : ∀ advert ∈ adverts, advert ≠ gone → advert ∈ others adverts spot := fun advert inside apart =>
    mem_others.mpr ⟨inside, fun same => apart (only advert inside (.inl same)), fun same => apart (only advert inside (.inr same))⟩
  have staying : ∀ advert ∈ others adverts spot, advert ≠ gone := by
    rintro advert inside rfl
    obtain ⟨_, service, deviceId⟩ := mem_others.mp inside
    rcases replaces with same | same
    · exact service same
    · exact deviceId same
  have discovered : ∀ endpoint, after.discovered endpoint = (decide (endpoint ≠ gone.endpoint) && hub.discovered endpoint) := by
    intro endpoint
    have same : popped.discovered endpoint = hub.discovered endpoint := by
      unfold MdnsHub.discovered
      rw [pops.tasks, pops.states]
    rw [dropped.discovered, same]
  have manual : after.manual spot.endpoint = hub.manual spot.endpoint := by
    have same : popped.manual spot.endpoint = hub.manual spot.endpoint := by
      unfold MdnsHub.manual
      rw [pops.tasks, pops.states]
    rw [dropped.manual, same]
  constructor
  case supervised =>
    intro endpoint apart
    rw [discovered, Bool.and_eq_true, decide_eq_true_eq, sound.consistent.supervised]
    constructor
    · rintro ⟨far, advert, inside, same⟩
      refine ⟨advert, left advert inside ?_, same⟩
      rintro rfl
      exact far same.symm
    · rintro ⟨advert, inside, same⟩
      refine ⟨?_, advert, (mem_others.mp inside).1, same⟩
      rintro rfl
      exact staying advert inside (alone apart advert (mem_others.mp inside).1 same)
  case services =>
    intro name apart endpoint
    rw [dropped.services, pops.services name apart]
    split
    next is =>
      refine iff_of_false (fun none => by cases none) ?_
      rintro ⟨advert, inside, same, _⟩
      exact staying advert inside (sound.oneService gone member advert (mem_others.mp inside).1 (same.trans is))
    next isNot =>
      rw [sound.consistent.services]
      constructor
      · rintro ⟨advert, inside, same, at_⟩
        refine ⟨advert, left advert inside ?_, same, at_⟩
        rintro rfl
        exact isNot same.symm
      · rintro ⟨advert, inside, both⟩
        exact ⟨advert, (mem_others.mp inside).1, both⟩
  case devices =>
    intro deviceId apart name
    rw [dropped.devices, pops.devices deviceId apart, sound.consistent.devices]
    constructor
    · rintro ⟨advert, inside, rfl, same⟩
      refine ⟨advert, mem_others.mpr ⟨inside, fun is => apart ?_, apart⟩, rfl, same⟩
      exact keeps advert inside is
    · rintro ⟨advert, inside, both⟩
      exact ⟨advert, (mem_others.mp inside).1, both⟩
  case apart => exact fun advert inside => (mem_others.mp inside).2
  case byHand =>
    rw [manual, dropped.services, dropped.devices]
    intro byHand
    obtain ⟨service, deviceId⟩ := pops.byHand byHand
    exact ⟨service, deviceId, fun advert inside => sound.manual_free byHand advert (mem_others.mp inside).1⟩
  case oneService =>
    exact fun advert inside other within => sound.oneService advert (mem_others.mp inside).1 other (mem_others.mp within).1
  case oneDevice =>
    exact fun advert inside other within => sound.oneDevice advert (mem_others.mp inside).1 other (mem_others.mp within).1
  case named =>
    intro endpoint state apart is found
    rw [discovered, Bool.and_eq_true, decide_eq_true_eq] at is
    rw [dropped.states endpoint is.1, pops.states] at found
    obtain ⟨advert, inside, same, name⟩ := sound.named endpoint state is.2 found
    refine ⟨advert, left advert inside ?_, same, name⟩
    rintro rfl
    exact is.1 same.symm
  case tasks =>
    intro endpoint task
    rw [dropped.tasks, Bool.and_eq_true, decide_eq_true_eq, pops.tasks] at task
    rw [dropped.states endpoint task.1, pops.states]
    exact sound.tasks endpoint task.2
  case maintenance =>
    intro endpoint kept
    have before := dropped.maintenance endpoint kept
    rw [pops.maintenance] at before
    exact sound.maintenance endpoint before

theorem endpoint_local (device : IrisMdnsDevice) : ¬ "usb:".toList <+: device.endpoint.toList := by
  unfold IrisMdnsDevice.endpoint
  rw [String.toList_append, String.toList_append, String.toList_append]
  rintro ⟨rest, same⟩
  have first := congrArg List.head? same
  simp at first

structure Noted (hub after : MdnsHub) (spot : Advert) (state : EndpointState) : Prop where
  services : after.services = Function.update hub.services spot.service (some spot.endpoint)
  devices : after.devices = Function.update hub.devices spot.deviceId (some spot.service)
  tasks : after.tasks = Function.update hub.tasks spot.endpoint true
  states : after.states = Function.update hub.states spot.endpoint (some state)
  mdns : state.isMdns = true
  named : state.advertisedDeviceId = some spot.deviceId
  maintenance : after.maintenance = hub.maintenance

/-- A map from the adverts' keys that takes the place of one more advert. -/
theorem listed_update {map : String → Option String} {key value : Advert → String}
    (others : ∀ name, name ≠ key spot → ∀ taken,
      (map name = some taken ↔ ∃ advert ∈ adverts, key advert = name ∧ value advert = taken))
    (apart : ∀ advert ∈ adverts, key advert ≠ key spot) (name taken : String) :
    Function.update map (key spot) (some (value spot)) name = some taken ↔
      ∃ advert ∈ spot :: adverts, key advert = name ∧ value advert = taken := by
  by_cases same : name = key spot
  · rw [same, Function.update_self]
    constructor
    · rintro ⟨⟩
      exact ⟨_, List.mem_cons_self, rfl, rfl⟩
    · rintro ⟨advert, member, is, rfl⟩
      rcases List.mem_cons.mp member with rfl | old
      · rfl
      · exact absurd is (apart advert old)
  · rw [Function.update_of_ne same, others name same]
    constructor
    · rintro ⟨advert, member, both⟩
      exact ⟨advert, List.mem_cons_of_mem _ member, both⟩
    · rintro ⟨advert, member, is, at_⟩
      rcases List.mem_cons.mp member with rfl | old
      · exact absurd is.symm same
      · exact ⟨advert, old, is, at_⟩

theorem Almost.noted (almost : Almost hub adverts spot) {state : EndpointState} (noted : Noted hub after spot state) :
    Sound after (spot :: adverts) := by
  have here : after.discovered spot.endpoint = true := by
    unfold MdnsHub.discovered
    rw [noted.tasks, noted.states, Function.update_self, Function.update_self, Option.any_some, noted.mdns]
    rfl
  have elsewhere : ∀ endpoint, endpoint ≠ spot.endpoint → after.discovered endpoint = hub.discovered endpoint := by
    intro endpoint apart
    unfold MdnsHub.discovered
    rw [noted.tasks, noted.states, Function.update_of_ne apart, Function.update_of_ne apart]
  constructor
  case consistent =>
    constructor
    case supervised =>
      intro endpoint
      by_cases same : endpoint = spot.endpoint
      · rw [same]
        exact iff_of_true here ⟨_, List.mem_cons_self, rfl⟩
      · rw [elsewhere endpoint same, almost.supervised endpoint same]
        constructor
        · rintro ⟨advert, member, is⟩
          exact ⟨advert, List.mem_cons_of_mem _ member, is⟩
        · rintro ⟨advert, member, rfl⟩
          rcases List.mem_cons.mp member with rfl | old
          · exact absurd rfl same
          · exact ⟨advert, old, rfl⟩
    case services =>
      rw [noted.services]
      exact listed_update almost.services fun advert inside => (almost.apart advert inside).1
    case devices =>
      rw [noted.devices]
      exact listed_update almost.devices fun advert inside => (almost.apart advert inside).2
  case oneService =>
    intro advert member other inside same
    rcases List.mem_cons.mp member with rfl | old
    · rcases List.mem_cons.mp inside with rfl | also
      · rfl
      · exact absurd same (almost.apart other also).1
    · rcases List.mem_cons.mp inside with rfl | also
      · exact absurd same.symm (almost.apart advert old).1
      · exact almost.oneService advert old other also same
  case oneDevice =>
    intro advert member other inside same
    rcases List.mem_cons.mp member with rfl | old
    · rcases List.mem_cons.mp inside with rfl | also
      · rfl
      · exact absurd same (almost.apart other also).2
    · rcases List.mem_cons.mp inside with rfl | also
      · exact absurd same.symm (almost.apart advert old).2
      · exact almost.oneDevice advert old other also same
  case named =>
    intro endpoint described discovered found
    rw [noted.states] at found
    by_cases same : endpoint = spot.endpoint
    · rw [same, Function.update_self] at found
      cases found
      exact ⟨_, List.mem_cons_self, same.symm, noted.named⟩
    · rw [Function.update_of_ne same] at found
      rw [elsewhere endpoint same] at discovered
      obtain ⟨advert, member, both⟩ := almost.named endpoint described same discovered found
      exact ⟨advert, List.mem_cons_of_mem _ member, both⟩
  case tasks =>
    intro endpoint task
    rw [noted.states]
    by_cases same : endpoint = spot.endpoint
    · rw [same, Function.update_self]
      rfl
    · rw [noted.tasks, Function.update_of_ne same] at task
      rw [Function.update_of_ne same]
      exact almost.tasks endpoint task
  case maintenance =>
    rw [noted.maintenance]
    exact almost.maintenance

theorem Almost.settled (almost : Almost hub adverts spot) (service : hub.services spot.service = none)
    (deviceId : hub.devices spot.deviceId = none) (undiscovered : hub.discovered spot.endpoint = false)
    (apart : ∀ advert ∈ adverts, advert.endpoint ≠ spot.endpoint) : Sound hub adverts := by
  constructor
  case consistent =>
    constructor
    case supervised =>
      intro endpoint
      by_cases here : endpoint = spot.endpoint
      · rw [here, undiscovered]
        exact iff_of_false Bool.noConfusion fun ⟨advert, member, is⟩ => apart advert member is
      · exact almost.supervised endpoint here
    case services =>
      intro name endpoint
      by_cases here : name = spot.service
      · rw [here, service]
        exact iff_of_false (fun none => by cases none) fun ⟨advert, member, is, _⟩ => (almost.apart advert member).1 is
      · exact almost.services name here endpoint
    case devices =>
      intro other name
      by_cases here : other = spot.deviceId
      · rw [here, deviceId]
        exact iff_of_false (fun none => by cases none) fun ⟨advert, member, is, _⟩ => (almost.apart advert member).2 is
      · exact almost.devices other here name
  case oneService => exact almost.oneService
  case oneDevice => exact almost.oneDevice
  case named =>
    intro endpoint state discovered found
    refine almost.named endpoint state ?_ discovered found
    rintro rfl
    exact Bool.noConfusion (undiscovered.symm.trans discovered)
  case tasks => exact almost.tasks
  case maintenance => exact almost.maintenance

theorem Almost.taken {device : IrisMdnsDevice} (almost : Almost hub adverts device.advert) (free : hub.manual device.endpoint = false) {lockFree : Bool}
    (locked : hub.tasks device.endpoint = true ∨ hub.locks device.endpoint = true ∨ lockFree = true) :
    ∃ state, Noted hub (takeEndpoint hub device lockFree).hub device.advert state := by
  unfold takeEndpoint
  cases task : hub.tasks device.endpoint with
  | false =>
    have local_ : hub.maintenance device.endpoint = false := by
      by_contra kept
      exact endpoint_local device (almost.maintenance _ (Bool.of_not_eq_false kept))
    have lock : ¬ (hub.locks device.endpoint = false ∧ lockFree = false) := by
      rintro ⟨unheld, unfree⟩
      rcases locked with is | is | is
      · exact Bool.noConfusion (task.symm.trans is)
      · exact Bool.noConfusion (unheld.symm.trans is)
      · exact Bool.noConfusion (unfree.symm.trans is)
    rw [if_pos rfl]
    unfold addSupervisor
    dsimp only
    rw [task, if_neg Bool.noConfusion, local_, if_neg Bool.noConfusion, if_neg lock]
    exact ⟨_, rfl, rfl, rfl, rfl, rfl, rfl, rfl⟩
  | true =>
    rw [if_neg Bool.noConfusion]
    obtain ⟨state, found⟩ := Option.isSome_iff_exists.mp (almost.tasks _ task)
    unfold MdnsHub.manual at free
    rw [task, found, Option.all_some, Bool.true_and, Bool.not_eq_false'] at free
    rw [found]
    dsimp only
    rw [free, if_neg Bool.noConfusion]
    have same : Function.update hub.tasks device.endpoint true = hub.tasks := by
      rw [← task]
      exact Function.update_eq_self _ _
    exact ⟨_, rfl, rfl, same.symm, rfl, free, rfl, rfl⟩

theorem takeEndpoint_manual {device : IrisMdnsDevice} (manual : hub.manual device.endpoint = true) (lockFree : Bool) :
    (takeEndpoint hub device lockFree).hub = hub := by
  unfold MdnsHub.manual at manual
  rw [Bool.and_eq_true] at manual
  unfold takeEndpoint
  rw [manual.1, if_neg Bool.noConfusion]
  split
  next => rfl
  next state found =>
    rw [found, Option.all_some, Bool.not_eq_true'] at manual
    rw [if_pos manual.2]
    rfl

/-- What `_remove_mdns_service` pops before it removes the endpoint. -/
theorem removeMdnsService_pops (sound : Sound hub adverts) {gone : Advert} (member : gone ∈ adverts) (quiet : Bool) :
    ∃ popped, removeMdnsService hub gone.service quiet = removeEndpoint popped gone.endpoint quiet ∧
      popped.services = Function.update hub.services gone.service none ∧
      (∀ deviceId, deviceId ≠ gone.deviceId → popped.devices deviceId = hub.devices deviceId) ∧
      (Alone adverts gone → popped.devices gone.deviceId = none) ∧
      popped.states = hub.states ∧ popped.tasks = hub.tasks ∧ popped.locks = hub.locks ∧
      popped.maintenance = hub.maintenance := by
  have mapped : hub.services gone.service = some gone.endpoint :=
    (sound.consistent.services _ _).mpr ⟨gone, member, rfl, rfl⟩
  have discovered : hub.discovered gone.endpoint = true := (sound.consistent.supervised _).mpr ⟨gone, member, rfl⟩
  obtain ⟨_, state, found, _⟩ := discovered_state discovered
  obtain ⟨named, inside, there, is⟩ := sound.named _ state discovered found
  unfold removeMdnsService
  rw [mapped]
  dsimp only
  rw [found, Option.bind_some, is]
  dsimp only
  by_cases entry : hub.devices named.deviceId = some gone.service
  · rw [if_pos entry]
    -- The entry of a device names the one service that stands for it.
    have same : named = gone := by
      obtain ⟨other, within, device, service⟩ := (sound.consistent.devices _ _).mp entry
      rw [← sound.oneDevice named inside other within device]
      exact sound.oneService gone member other within service
    rw [same]
    exact ⟨_, rfl, rfl, fun deviceId apart => Function.update_of_ne apart _ _, fun _ => Function.update_self _ _ _, rfl, rfl,
      rfl, rfl⟩
  · rw [if_neg entry]
    refine ⟨_, rfl, rfl, fun _ _ => rfl, fun alone => ?_, rfl, rfl, rfl, rfl⟩
    rw [alone named inside there] at entry
    exact absurd ((sound.consistent.devices _ _).mpr ⟨gone, member, rfl, rfl⟩) entry

theorem Sound.removed (sound : Sound hub adverts) (name : String) (quiet : Bool)
    (alone : ∀ advert ∈ adverts, advert.service = name → Alone adverts advert) :
    Sound (removeMdnsService hub name quiet).hub (adverts.filter fun advert => advert.service ≠ name) := by
  by_cases known : ∃ gone ∈ adverts, gone.service = name
  · obtain ⟨gone, member, rfl⟩ := known
    have lonely := alone gone member rfl
    have only : ∀ advert ∈ adverts, Replaces gone advert → advert = gone := by
      intro advert inside replaces
      rcases replaces with same | same
      · exact sound.oneService gone member advert inside same
      · exact sound.oneDevice gone member advert inside same
    have keeps : ∀ advert ∈ adverts, advert.service = gone.service → advert.deviceId = gone.deviceId :=
      fun advert inside same => by rw [sound.oneService gone member advert inside same]
    have left : adverts.filter (fun advert => advert.service ≠ gone.service) = others adverts gone := by
      refine List.filter_congr fun advert inside => ?_
      rw [decide_eq_decide]
      constructor
      · intro apart
        refine ⟨apart, fun same => apart ?_⟩
        rw [only advert inside (.inr same)]
      · exact fun both => both.1
    obtain ⟨popped, is, services, devices, forgotten, states, tasks, locks, maintenance⟩ :=
      removeMdnsService_pops sound member quiet
    have discovered : hub.discovered gone.endpoint = true := (sound.consistent.supervised _).mpr ⟨gone, member, rfl⟩
    have still : popped.discovered gone.endpoint = true := by
      unfold MdnsHub.discovered at discovered ⊢
      rwa [tasks, states]
    obtain ⟨dropped, _⟩ := removeEndpoint_dropped still quiet
    rw [left, is]
    have pops : Popped hub popped gone gone := by
      refine ⟨fun name apart => ?_, devices, fun manual => ?_, states, tasks, maintenance⟩
      · rw [services, Function.update_of_ne apart, if_neg apart]
      · exact absurd ((manual_undiscovered manual).symm.trans discovered) Bool.noConfusion
    have almost := sound.left keeps member (.inl rfl) (fun far => absurd rfl far) only pops dropped
    refine almost.settled ?_ ?_ ?_ fun advert inside same => ?_
    · rw [dropped.services, services, Function.update_self]
    · rw [dropped.devices]
      exact forgotten lonely
    · rw [dropped.discovered, decide_eq_false (not_not.mpr rfl)]
      rfl
    · obtain ⟨within, apart, _⟩ := mem_others.mp inside
      exact apart (by rw [lonely advert within same])
  · have unmapped : hub.services name = none := by
      rw [Option.eq_none_iff_forall_ne_some]
      intro endpoint is
      obtain ⟨advert, member, same, _⟩ := (sound.consistent.services _ _).mp is
      exact known ⟨advert, member, same⟩
    have same : adverts.filter (fun advert => advert.service ≠ name) = adverts := by
      rw [List.filter_eq_self]
      intro advert member
      exact decide_eq_true fun is => known ⟨advert, member, is⟩
    rw [same]
    unfold removeMdnsService
    rw [unmapped]
    exact sound

theorem Sound.superseding {device : IrisMdnsDevice} {answers : Answers} (sound : Sound hub adverts)
    (well : GoesWell hub adverts device.advert answers) {gone : Advert} (member : gone ∈ adverts)
    (apart : gone.service ≠ device.serviceName) (same : gone.deviceId = device.deviceId) :
    ∃ ready, ((supersede hub device answers.supersededQuiet).bind fun hub => leaveEndpoint hub device answers.movedQuiet) = .ok ready ∧
      Almost ready (others adverts device.advert) device.advert ∧ ready.manual device.endpoint = hub.manual device.endpoint ∧
      (ready.tasks device.endpoint = true ∨ ready.locks device.endpoint = true ∨ answers.lockFree = true) := by
  have keeps : ∀ advert ∈ adverts, advert.service = device.serviceName → advert.deviceId = device.deviceId :=
    fun advert inside is => (well.keeps advert inside is).1
  have only : ∀ advert ∈ adverts, Replaces device.advert advert → advert = gone := by
    intro advert inside replaces
    refine sound.oneDevice gone member advert inside ?_
    rcases replaces with is | is
    · exact (keeps advert inside is).trans same.symm
    · exact is.trans same.symm
  have new : hub.services device.serviceName = none := by
    rw [Option.eq_none_iff_forall_ne_some]
    intro endpoint is
    obtain ⟨advert, inside, service, _⟩ := (sound.consistent.services _ _).mp is
    rw [only advert inside (.inl service)] at service
    exact apart service
  obtain ⟨popped, is, services, devices, forgotten, states, tasks, locks, maintenance⟩ :=
    removeMdnsService_pops sound member answers.supersededQuiet
  have discovered : popped.discovered gone.endpoint = true := by
    have before := (sound.consistent.supervised gone.endpoint).mpr ⟨gone, member, rfl⟩
    unfold MdnsHub.discovered at before ⊢
    rwa [tasks, states]
  obtain ⟨dropped, ends⟩ := removeEndpoint_dropped discovered answers.supersededQuiet
  have removed := ends (well.superseded gone member apart same)
  have first : supersede hub device answers.supersededQuiet = .ok (removeEndpoint popped gone.endpoint answers.supersededQuiet).hub := by
    have entry : hub.devices device.deviceId = some gone.service :=
      (sound.consistent.devices _ _).mpr ⟨gone, member, same, rfl⟩
    unfold supersede
    rw [entry]
    dsimp only
    rw [if_neg apart, is]
    exact removed
  have unmapped : (removeEndpoint popped gone.endpoint answers.supersededQuiet).hub.services device.serviceName = none := by
    rw [dropped.services, services, Function.update_of_ne (Ne.symm apart)]
    exact new
  have pops : Popped hub popped device.advert gone := by
    refine ⟨fun name _ => ?_, fun deviceId far => devices deviceId fun is => far (is.trans same), fun manual => ?_, states, tasks,
      maintenance⟩
    · rw [services, Function.update_apply]
    · have far : gone.endpoint ≠ device.endpoint := @Sound.manual_free hub adverts device.advert sound manual gone member
      refine ⟨?_, ?_⟩
      · rw [services]
        exact (Function.update_of_ne (Ne.symm apart) _ _).trans new
      · have alone := well.alone gone member (.inr same) far
        have none := forgotten alone
        rwa [same] at none
  rw [first]
  dsimp only [Except.bind]
  unfold leaveEndpoint
  rw [unmapped]
  refine ⟨_, rfl, ?_, ?_, ?_⟩
  · exact sound.left keeps member (.inr same) (well.alone gone member (.inr same)) only pops dropped
  · rw [dropped.manual]
    unfold MdnsHub.manual
    rw [tasks, states]
  · rcases well.locked with free | ⟨held, own⟩
    · exact .inr (.inr free)
    · have far : device.endpoint ≠ gone.endpoint := fun is => apart (own gone member is.symm same)
      rw [dropped.tasks, decide_eq_true far, dropped.locks _ far, tasks, locks]
      rcases held with held | held
      · exact .inl held
      · exact .inr (.inl held)

theorem Sound.cleared {device : IrisMdnsDevice} {answers : Answers} (sound : Sound hub adverts)
    (well : GoesWell hub adverts device.advert answers) :
    ∃ ready, ((supersede hub device answers.supersededQuiet).bind fun hub => leaveEndpoint hub device answers.movedQuiet) = .ok ready ∧
      Almost ready (others adverts device.advert) device.advert ∧ ready.manual device.endpoint = hub.manual device.endpoint ∧
      (ready.tasks device.endpoint = true ∨ ready.locks device.endpoint = true ∨ answers.lockFree = true) := by
  have keeps : ∀ advert ∈ adverts, advert.service = device.serviceName → advert.deviceId = device.deviceId :=
    fun advert member same => (well.keeps advert member same).1
  by_cases taken : ∃ gone ∈ adverts, gone.service ≠ device.serviceName ∧ gone.deviceId = device.deviceId
  · obtain ⟨gone, member, apart, same⟩ := taken
    exact sound.superseding well member apart same
  · -- No other service stands for the device.
    have first : supersede hub device answers.supersededQuiet = .ok hub := by
      unfold supersede
      cases entry : hub.devices device.deviceId with
      | none => rfl
      | some name =>
        obtain ⟨advert, member, same, service⟩ := (sound.consistent.devices _ _).mp entry
        have is : name = device.serviceName := by
          by_contra apart
          exact taken ⟨advert, member, service ▸ apart, same⟩
        exact if_pos is
    have replaced : ∀ advert ∈ adverts, Replaces device.advert advert → advert.service = device.serviceName := by
      intro advert member replaces
      rcases replaces with same | same
      · exact same
      · by_contra apart
        exact taken ⟨advert, member, apart, same⟩
    have lock : hub.tasks device.endpoint = true ∨ hub.locks device.endpoint = true ∨ answers.lockFree = true := by
      rcases well.locked with free | ⟨held | held, _⟩
      · exact .inr (.inr free)
      · exact .inl held
      · exact .inr (.inl held)
    rw [first]
    dsimp only [Except.bind]
    unfold leaveEndpoint
    cases entry : hub.services device.serviceName with
    | none =>
      refine ⟨hub, rfl, sound.almost keeps fun advert member replaces => ?_, rfl, lock⟩
      have mapped := (sound.consistent.services _ _).mpr ⟨advert, member, replaced advert member replaces, rfl⟩
      rw [entry] at mapped
      cases mapped
    | some endpoint =>
      obtain ⟨gone, member, service, rfl⟩ := (sound.consistent.services _ _).mp entry
      have only : ∀ advert ∈ adverts, Replaces device.advert advert → advert = gone := fun advert inside replaces =>
        sound.oneService gone member advert inside ((replaced advert inside replaces).trans service.symm)
      dsimp only
      by_cases here : gone.endpoint = device.endpoint
      · rw [if_pos here]
        refine ⟨hub, rfl, sound.almost keeps fun advert inside replaces => ?_, rfl, lock⟩
        exact ⟨replaced advert inside replaces, by rw [only advert inside replaces]; exact here⟩
      · rw [if_neg here]
        have discovered : hub.discovered gone.endpoint = true := (sound.consistent.supervised _).mpr ⟨gone, member, rfl⟩
        obtain ⟨dropped, ends⟩ := removeEndpoint_dropped discovered answers.movedQuiet
        have unmanaged := (well.keeps gone member service).2
        have pops : Popped hub hub device.advert gone := by
          refine ⟨fun name apart => ?_, fun _ _ => rfl, fun manual => ?_, rfl, rfl, rfl⟩
          · rw [if_neg fun is => apart (is.trans service)]
          · exact absurd (unmanaged.symm.trans manual) Bool.noConfusion
        refine ⟨_, ends (well.moved gone member service here), ?_, dropped.manual _, ?_⟩
        · exact sound.left keeps member (.inl service) (well.alone gone member (.inl service)) only pops dropped
        · rw [dropped.tasks, decide_eq_true (Ne.symm here), dropped.locks _ (Ne.symm here)]
          exact lock

theorem Sound.service {device : IrisMdnsDevice} {answers : Answers} (sound : Sound hub adverts)
    (well : GoesWell hub adverts device.advert answers) :
    Sound (addMdnsDevice hub device answers).hub (advertise adverts hub (.service device answers)) := by
  obtain ⟨ready, is, almost, same, locked⟩ := sound.cleared well
  unfold addMdnsDevice advertise
  rw [is]
  dsimp only [Except.bind]
  cases manual : hub.manual device.endpoint with
  | true =>
    rw [manual] at same
    rw [if_pos rfl, takeEndpoint_manual same]
    obtain ⟨service, deviceId, apart⟩ := almost.byHand same
    exact almost.settled service deviceId (manual_undiscovered same) apart
  | false =>
    rw [manual] at same
    rw [if_neg Bool.noConfusion]
    obtain ⟨state, noted⟩ := almost.taken same locked
    exact almost.noted noted

end steps

theorem Undiscovered.sound {hub : MdnsHub} (undiscovered : Undiscovered hub) : Sound hub [] := by
  have none : ∀ endpoint, hub.discovered endpoint = false := by
    intro endpoint
    unfold MdnsHub.discovered
    cases found : hub.states endpoint with
    | none => exact Bool.and_false _
    | some state =>
      rw [Option.any_some, undiscovered.states endpoint state found]
      exact Bool.and_false _
  constructor
  case consistent =>
    constructor
    case supervised =>
      intro endpoint
      rw [none]
      exact iff_of_false Bool.noConfusion fun ⟨_, member, _⟩ => List.not_mem_nil member
    case services =>
      intro name endpoint
      rw [undiscovered.services]
      exact iff_of_false (fun is => by cases is) fun ⟨_, member, _⟩ => List.not_mem_nil member
    case devices =>
      intro deviceId name
      rw [undiscovered.devices]
      exact iff_of_false (fun is => by cases is) fun ⟨_, member, _⟩ => List.not_mem_nil member
  case oneService => exact fun _ member => absurd member List.not_mem_nil
  case oneDevice => exact fun _ member => absurd member List.not_mem_nil
  case named =>
    intro endpoint state discovered
    exact absurd ((none endpoint).symm.trans discovered) Bool.noConfusion
  case tasks => exact undiscovered.tasks
  case maintenance => exact undiscovered.maintenance

theorem sound_invariant : Invariant (mdnsSystem.guarded Orderly) fun both => Sound both.1 both.2 where
  start := by
    rintro ⟨hub, adverts⟩ ⟨undiscovered, rfl⟩
    exact undiscovered.sound
  step := by
    rintro ⟨hub, adverts⟩ event after sound ⟨orderly, step⟩
    cases step
    cases event with
    | service device answers => exact sound.service orderly
    | removed name quiet => exact sound.removed name quiet orderly

/-- While each service keeps its device and its endpoint to itself when it leaves, the hub supervises for
discovery what is advertised, and its maps hold just those services. -/
theorem mdns_consistent {both : MdnsHub × List Advert} (reached : Reachable (mdnsSystem.guarded Orderly) both) :
    Consistent both.1 both.2 :=
  (sound_invariant.reachable reached).consistent

instance (spot advert : Advert) : Decidable (Replaces spot advert) := by
  unfold Replaces
  infer_instance

instance (adverts : List Advert) (advert : Advert) : Decidable (Alone adverts advert) := by
  unfold Alone
  infer_instance

instance (hub : MdnsHub) (adverts : List Advert) (spot : Advert) (answers : Answers) :
    Decidable (GoesWell hub adverts spot answers) :=
  decidable_of_iff
    ((∀ advert ∈ adverts, advert.service = spot.service → advert.deviceId = spot.deviceId ∧ hub.manual spot.endpoint = false) ∧
      (∀ advert ∈ adverts, Replaces spot advert → advert.endpoint ≠ spot.endpoint → Alone adverts advert) ∧
      (∀ advert ∈ adverts, advert.service ≠ spot.service → advert.deviceId = spot.deviceId → answers.supersededQuiet = true) ∧
      (∀ advert ∈ adverts, advert.service = spot.service → advert.endpoint ≠ spot.endpoint → answers.movedQuiet = true) ∧
      (answers.lockFree = true ∨ ((hub.tasks spot.endpoint = true ∨ hub.locks spot.endpoint = true) ∧
        ∀ advert ∈ adverts, advert.endpoint = spot.endpoint → advert.deviceId = spot.deviceId → advert.service = spot.service)))
    ⟨fun ⟨keeps, alone, superseded, moved, locked⟩ => ⟨keeps, alone, superseded, moved, locked⟩,
      fun well => ⟨well.keeps, well.alone, well.superseded, well.moved, well.locked⟩⟩

instance (both : MdnsHub × List Advert) (event : Notification) : Decidable (Orderly both event) := by
  unfold Orderly
  split <;> infer_instance

def emptyHub : MdnsHub where
  services := fun _ => none
  devices := fun _ => none
  states := fun _ => none
  tasks := fun _ => false
  locks := fun _ => false
  maintenance := fun _ => false

theorem emptyHub_undiscovered : Undiscovered emptyHub where
  services := rfl
  devices := rfl
  states := by
    intro endpoint state is
    cases is
  tasks := by
    intro endpoint is
    cases is
  maintenance := by
    intro endpoint is
    cases is

theorem emptyHub_start : mdnsSystem.start (emptyHub, []) := ⟨emptyHub_undiscovered, rfl⟩

def advertised (service deviceId host : String) : Notification :=
  .service ⟨service, deviceId, host, 19772, "normal", "none"⟩ ⟨true, true, true⟩

/-- Two services of which one moves and the other is removed. -/
theorem mdns_consistent_moved : ∃ both : MdnsHub × List Advert, Consistent both.1 both.2 ∧ both.2.map Advert.endpoint = ["tcp:192.0.2.9:19772"] := by
  obtain ⟨both, run, checked⟩ : ∃ both, Run (mdnsSystem.guarded Orderly) (emptyHub, [])
      [advertised "first" "11" "192.0.2.8", advertised "second" "22" "192.0.2.10", advertised "first" "11" "192.0.2.9",
        .removed "second" true] both ∧ decide (both.2.map Advert.endpoint = ["tcp:192.0.2.9:19772"]) = true :=
    Run.of_guarded_check (by decide +kernel)
  exact ⟨both, mdns_consistent ⟨_, _, emptyHub_start, run⟩, of_decide_eq_true checked⟩

/-- Of two services at one endpoint the first is removed, and with it the endpoint of the second. -/
theorem shared_endpoint_lost : ¬ ∀ both, Reachable mdnsSystem both → Consistent both.1 both.2 := by
  intro consistent
  obtain ⟨both, run, checked⟩ : ∃ both, Run mdnsSystem (emptyHub, [])
      [advertised "first" "11" "192.0.2.8", advertised "second" "22" "192.0.2.8", .removed "first" true] both ∧
      decide (both.2 = [⟨"second", "22", "tcp:192.0.2.8:19772"⟩] ∧ both.1.discovered "tcp:192.0.2.8:19772" = false) = true :=
    Run.of_check (by decide +kernel)
  obtain ⟨adverts, lost⟩ := of_decide_eq_true checked
  have supervised := (consistent both ⟨_, _, emptyHub_start, run⟩).supervised "tcp:192.0.2.8:19772"
  rw [adverts, lost] at supervised
  exact Bool.noConfusion (supervised.mpr ⟨_, List.mem_cons_self, rfl⟩)

end EspIris.Gateway.Mdns
