import EspIris.Gateway.RegistryCalls
import EspIris.Gateway.RegistryMoves
import EspIris.Gateway.Supervisor

/-! The registry over whole runs: every entry is the session of the supervisor of its endpoint, and every session
behind `_on_ready` has its entry, while no call lets go of a device that lives at another endpoint. A supervisor of a
fleet that ends leaves it alike. -/

namespace EspIris.Gateway.Registry
open Machine
variable {supervisor : Supervisor} {deviceId : DeviceId} {active : Option Nat} {after : Hub} {task : Nat}

section steps
variable {hub : Hub} (sound : Sound hub)

include sound in
theorem Sound.next {event : HubEvent} (careful : Careful hub event) (step : next hub event = some after) :
    Sound after := by
  cases event with
  | add endpoint advertised lockFree =>
    cases step
    exact sound.addSupervisor careful
  | quiesce endpoint lockFree =>
    cases step
    exact sound.quiesceEndpoint careful
  | remove endpoint discovery =>
    cases step
    exact sound.removeEndpoint endpoint discovery
  | resume endpoint lockFree =>
    cases step
    exact sound.resumeMaintenanceEndpoint endpoint lockFree
  | waited index => exact sound.resumeWaiting careful step
  | run task event =>
    obtain ⟨supervisor, runs, moves⟩ := Option.bind_eq_some_iff.mp step
    exact sound.move runs (supervise_moves runs careful moves)
  | close =>
    cases step
    exact sound.closeHub

end steps

theorem sound_new : Sound .new := by
  constructor
  all_goals
    intros
    contradiction

theorem sound_reserved (leases : List EndpointState) : ∀ hub, Sound hub → hub.devices = ∅ →
    Sound (leases.foldl reserveMaintenanceEndpoint hub) := by
  induction leases with
  | nil =>
    intro hub sound _
    exact sound
  | cons lease leases ih =>
    intro hub sound empty
    rw [List.foldl_cons]
    apply ih
    · unfold reserveMaintenanceEndpoint
      split
      · exact sound
      · have described : Sound { hub.setState hub.made lease with
            endpointStates := Function.update hub.endpointStates lease.endpoint (some hub.made)
            made := hub.made + 1 } := by
          apply sound.describe rfl
          intro entry registered
          rw [empty] at registered
          contradiction
        exact described.relock _ _ _
    · unfold reserveMaintenanceEndpoint
      split
      · exact empty
      · exact empty

theorem sound_invariant : Invariant (registry.guarded Careful) Sound where
  start := by
    rintro _ ⟨leases, rfl⟩
    exact sound_reserved leases .new sound_new rfl
  step := by
    intro before event after sound moves
    exact sound.next moves.1 moves.2

def actor (hub : Hub) : HubEvent → Option Endpoint
  | .add endpoint _ _ | .quiesce endpoint _ | .remove endpoint _ | .resume endpoint _ => some endpoint
  | .waited index => (hub.waiting[index]?).map fun waits => waits.2.endpoint
  | .run task _ => (hub.tasks task).map Supervisor.endpoint
  | .close => none

/-- The registry agrees with the supervisors: an entry is the active session of the supervisor of its endpoint, which
has shaken hands under that device id, and the session of a read loop behind `_on_ready` has its entry. -/
structure Consistent (hub : Hub) : Prop where
  entries : ∀ deviceId number, hub.devices.lookup deviceId = some number →
    ∃ session info supervisor, hub.sessions number = some session ∧ session.info = some info ∧
      info.deviceId = deviceId ∧ hub.tasks session.task = some supervisor ∧
      supervisor.endpoint = session.endpoint ∧ supervisor.phase.held = some number
  announced : ∀ task supervisor number, hub.tasks task = some supervisor →
    supervisor.phase.enrolled = some number →
    ∃ session info, hub.sessions number = some session ∧ session.info = some info ∧
      hub.devices.lookup info.deviceId = some number

def KeepsOthers (hub : Hub) (event : HubEvent) (after : Hub) : Prop :=
  ∀ deviceId number session, hub.devices.lookup deviceId = some number → hub.sessions number = some session →
    live hub number = true → actor hub event ≠ some session.endpoint → after.devices.lookup deviceId = some number

theorem Sound.consistent {hub : Hub} (sound : Sound hub) : Consistent hub where
  entries := by
    intro deviceId number registered
    obtain ⟨session, info, supervisor, opened, identity, named, runs, held⟩ := sound.entry registered
    obtain ⟨_, opened', -, endpoint⟩ := sound.owner runs (Phase.active_of_held held)
    cases opened.symm.trans opened'
    exact ⟨session, info, supervisor, opened, identity, named, runs, endpoint.symm, held⟩
  announced := fun _ _ _ runs enrolled => sound.enrolled runs enrolled

section others
variable {hub : Hub} (sound : Sound hub)

def Keeps (hub after : Hub) (endpoint : Endpoint) : Prop :=
  ∀ deviceId number, hub.devices.lookup deviceId = some number → after.devices.lookup deviceId = some number ∨
    ∃ session, hub.sessions number = some session ∧ session.endpoint = endpoint

theorem keeps_of_devices {endpoint : Endpoint} (same : after.devices = hub.devices) :
    Keeps hub after endpoint := by
  intro deviceId number registered
  rw [same]
  exact .inl registered

include sound in
theorem Sound.finish_keeps (quiet : Bool) (runs : hub.tasks task = some supervisor)
    (mine : ∀ number, active = some number → supervisor.phase.active = some number) :
    Keeps hub (Registry.finish hub task supervisor active quiet) supervisor.endpoint := by
  obtain ⟨same, -⟩ | ⟨number, session, info, rfl, -, -, registered, erased⟩ := devicesWithout_cases hub active
  · exact keeps_of_devices same
  · intro deviceId other found
    by_cases same : deviceId = info.deviceId
    · subst same
      cases registered.symm.trans found
      obtain ⟨mine', opened, -, endpoint⟩ := sound.owner runs (mine number rfl)
      exact .inr ⟨mine', opened, endpoint⟩
    · change (devicesWithout hub (some number)).lookup deviceId = some other ∨ _
      rw [erased, AList.lookup_erase_ne same]
      exact .inl found

theorem settle_devices (task : Nat) (supervisor : Supervisor) :
    (settle hub task supervisor).devices = hub.devices := by
  unfold settle
  split
  · rfl
  · exact devicesWithout_none hub

include sound in
theorem Sound.disconnect_keeps (runs : hub.tasks task = some supervisor)
    (mine : ∀ number, active = some number → supervisor.phase.active = some number) :
    Keeps hub (Registry.disconnect hub task supervisor active) supervisor.endpoint := by
  unfold Registry.disconnect
  split
  next => exact sound.finish_keeps false runs mine
  split
  next => exact keeps_of_devices (settle_devices task supervisor)
  split
  next => exact keeps_of_devices (settle_devices task supervisor)
  split
  next => exact keeps_of_devices rfl
  next => exact keeps_of_devices (settle_devices task supervisor)

include sound in
theorem Sound.afterReport_keeps {current : Nat} (runs : hub.tasks task = some supervisor)
    (reports : supervisor.phase = .reporting active deviceId current)
    (same : hub.devices.lookup deviceId = none ∨ hub.devices.lookup deviceId = some current) :
    Keeps hub (Registry.afterReport hub task supervisor active deviceId) supervisor.endpoint := by
  unfold Registry.afterReport
  split
  next =>
    apply sound.finish_keeps false runs
    intro number held
    rw [reports]
    exact held
  next found registered =>
    intro other number present
    rw [settle_devices]
    by_cases here : other = deviceId
    · subst here
      obtain absent | kept := same
      · rw [absent] at present
        contradiction
      · cases kept.symm.trans present
        exact .inr (sound.found runs reports)
    · change (hub.devices.erase deviceId).lookup other = some number ∨ _
      rw [AList.lookup_erase_ne here]
      exact .inl present

theorem onReady_keeps (task number : Nat) (supervisor : Supervisor) (session : Session) (endpoint : Endpoint) :
    Keeps hub (onReady hub task supervisor number session) endpoint := by
  unfold onReady
  split
  next => exact keeps_of_devices rfl
  next => exact keeps_of_devices rfl
  next info dictionary identity known =>
    split
    next => exact keeps_of_devices rfl
    split
    next => exact keeps_of_devices rfl
    next free =>
      split
      next => exact keeps_of_devices rfl
      intro deviceId other registered
      refine .inl ?_
      change (hub.devices.insert info.deviceId number).lookup deviceId = some other
      by_cases same : deviceId = info.deviceId
      · subst same
        rw [registered, Option.any_some] at free
        have old : other = number := by simpa using free
        rw [AList.lookup_insert, old]
      · rw [AList.lookup_insert_ne same]
        exact registered

include sound in
theorem Sound.move_keeps (runs : hub.tasks task = some supervisor) (move : Move hub task supervisor after) :
    Keeps hub after supervisor.endpoint := by
  cases move with
  | rests | closes | announces | connects | greets => exact keeps_of_devices rfl
  | readies number session => exact onReady_keeps task number supervisor session supervisor.endpoint
  | finishes active quiet leaves => exact sound.finish_keeps quiet runs leaves.mine
  | disconnects active leaves => exact sound.disconnect_keeps runs leaves.mine
  | reports active deviceId current awake reporting same => exact sound.afterReport_keeps runs reporting same

theorem ensureState_devices (endpoint : Endpoint) : (ensureState hub endpoint).1.devices = hub.devices := by
  unfold ensureState
  split
  · rfl
  · rfl

theorem announce_devices (number : Nat) (advertised : Option DeviceId) :
    (announce hub number advertised).devices = hub.devices := by
  cases advertised with
  | none => rfl
  | some deviceId => rfl

theorem addSupervisor_devices (endpoint : Endpoint) (advertised : Option DeviceId) (lockFree : Bool) :
    (addSupervisor hub endpoint advertised lockFree).devices = hub.devices := by
  unfold addSupervisor
  split
  · rfl
  · dsimp only
    have same : (announce (ensureState hub endpoint).1 (ensureState hub endpoint).2 advertised).devices = hub.devices :=
      (announce_devices (ensureState hub endpoint).2 advertised).trans (ensureState_devices endpoint)
    split_ifs
    · exact same
    · exact same
    · exact same
    · exact same

/-- A call that returns lets go of what is live only if it is asked to spare it. -/
theorem complete_keeps {call : Call} (spares : Spares hub call) {number : Nat}
    (registered : hub.devices.lookup deviceId = some number) (lives : live hub number = true) :
    (complete hub call).devices.lookup deviceId = some number := by
  cases call with
  | remove endpoint => exact registered
  | quiesce endpoint dictionary named =>
    cases named with
    | none => exact registered
    | some erased =>
      have different := (spares ⟨deviceId, number⟩ (mem_of_lookup registered) lives).1
      have apart : deviceId ≠ erased := by
        rintro rfl
        exact different rfl
      exact (AList.lookup_erase_ne apart).trans registered

theorem detach_keeps {call : Call} (spares : returnsAtOnce hub call.endpoint = true → Spares hub call) {number : Nat}
    (registered : hub.devices.lookup deviceId = some number) (lives : live hub number = true) :
    (detach hub call).devices.lookup deviceId = some number := by
  unfold detach
  split
  next none' =>
    apply complete_keeps (spares _) registered lives
    rw [returnsAtOnce, none']
    rfl
  next task supervisor found =>
    dsimp only
    split
    next ended =>
      have spared : Spares hub call := by
        apply spares
        rw [returnsAtOnce, found, Option.all_some, ended, decide_eq_true_eq]
      have popped : Spares { hub with endpointTasks := Function.update hub.endpointTasks call.endpoint none } call :=
        spared
      exact complete_keeps popped registered lives
    next => exact registered
    next => exact registered

theorem prepareQuiesce_same (hub : Hub) (endpoint : Endpoint) (lockFree : Bool) :
    match prepareQuiesce hub endpoint lockFree with
    | .error raised => raised.devices = hub.devices
    | .ok (prepared, call) => prepared.devices = hub.devices ∧ prepared.sessions = hub.sessions ∧
        prepared.tasks = hub.tasks ∧ call.endpoint = endpoint := by
  have resolved : (ensureState hub endpoint).1.devices = hub.devices ∧
      (ensureState hub endpoint).1.sessions = hub.sessions ∧ (ensureState hub endpoint).1.tasks = hub.tasks := by
    unfold ensureState
    split
    · exact ⟨rfl, rfl, rfl⟩
    · exact ⟨rfl, rfl, rfl⟩
  unfold prepareQuiesce
  cases endpoint with
  | tcp host port => rfl
  | usb name =>
    dsimp only
    split
    next raised failed =>
      split_ifs at failed
      · cases failed
        exact resolved.1
      · cases failed
        exact resolved.1
    next prepared call succeeded =>
      split_ifs at succeeded
      cases succeeded
      exact ⟨resolved.1, resolved.2.1, resolved.2.2, rfl⟩

include sound in
/-- No step on one endpoint lets go of a session that lives at another one. -/
theorem Sound.keepsOthers {event : HubEvent} (careful : Careful hub event) (step : Registry.next hub event = some after)
    : KeepsOthers hub event after := by
  intro deviceId number session registered opened lives elsewhere
  cases event with
  | add endpoint advertised lockFree =>
    cases step
    rw [addSupervisor_devices]
    exact registered
  | quiesce endpoint lockFree =>
    cases step
    have spared := careful.2
    unfold QuiescesSparing at spared
    have same := prepareQuiesce_same hub endpoint lockFree
    unfold Registry.quiesceEndpoint
    split
    next raised failed =>
      rw [failed] at same
      rw [same]
      exact registered
    next prepared call succeeded =>
      rw [succeeded] at same spared
      obtain ⟨devices, sessions, tasks, place⟩ := same
      rw [← devices] at registered
      apply detach_keeps _ registered
      · rw [live, sessions, tasks]
        exact lives
      · rw [place]
        exact spared
  | remove endpoint discovery =>
    cases step
    unfold Registry.removeEndpoint
    split
    · apply detach_keeps _ registered lives
      intro _
      trivial
    · exact registered
  | resume endpoint lockFree =>
    cases step
    unfold Registry.resumeMaintenanceEndpoint
    split
    · rw [addSupervisor_devices]
      exact registered
    · exact registered
  | waited index =>
    unfold Registry.next Registry.resumeWaiting at step
    obtain ⟨⟨task, call⟩, waits, rest⟩ := Option.bind_eq_some_iff.mp step
    obtain ⟨supervisor, runs, ended⟩ := Option.bind_eq_some_iff.mp rest
    dsimp only at ended
    split at ended
    next quiet gone =>
      cases ended
      cases quiet with
      | false => exact registered
      | true =>
        have spared : Spares { hub with waiting := hub.waiting.eraseIdx index } call := by
          simp only [Careful, waits] at careful
          apply careful
          rw [hasEnded, runs, Option.any_some, gone, decide_eq_true_eq]
        exact complete_keeps spared registered lives
    next => contradiction
  | run task event =>
    obtain ⟨supervisor, runs, moves⟩ := Option.bind_eq_some_iff.mp step
    obtain kept | ⟨_, opened', endpoint⟩ :=
      sound.move_keeps runs (supervise_moves runs careful moves) deviceId number registered
    · exact kept
    · cases opened.symm.trans opened'
      rw [actor, runs, Option.map_some, endpoint] at elsewhere
      exact absurd rfl elsewhere
  | close =>
    cases step
    exact registered

end others

section fleet
variable {whole : Gateway.Hub} {hub : Hub}

/-- What the hub of a fleet has in common with the one here. -/
structure Describes (whole : Gateway.Hub) (hub : Hub) : Prop where
  devices : ∀ deviceId, whole.lookup deviceId = hub.devices.lookup deviceId
  sessions : ∀ number, ((whole.sessions number).bind DeviceSession.info).map DeviceInfo.deviceId =
    ((hub.sessions number).bind Session.info).map Identity.deviceId

theorem Describes.forget (describes : Describes whole hub) (erased : DeviceId) :
    Describes (whole.forget erased) { hub with devices := hub.devices.erase erased } where
  devices := by
    intro deviceId
    by_cases same : deviceId = erased
    · subst same
      rw [AList.lookup_erase, Gateway.Hub.lookup, Gateway.Hub.forget, List.find?_filter]
      simp
    · have kept : (whole.forget erased).lookup deviceId = whole.lookup deviceId := by
        rw [Gateway.Hub.lookup, Gateway.Hub.forget, List.find?_filter, Gateway.Hub.lookup]
        congr 2
        funext entry
        by_cases here : entry.1 = deviceId <;> simp_all
      rw [kept, AList.lookup_erase_ne same]
      exact describes.devices deviceId
  sessions := describes.sessions

/-- The two `finally` of `_supervise`. -/
theorem Describes.leave (describes : Describes whole hub) (active : Option Nat) :
    Describes (whole.leave active) { hub with devices := devicesWithout hub active } := by
  cases active with
  | none => exact describes
  | some number =>
    have same := describes.sessions number
    unfold Gateway.Hub.leave devicesWithout
    simp only [Option.bind_some]
    split
    next found =>
      obtain ⟨session, opened, identified⟩ := Option.bind_eq_some_iff.mp found
      obtain ⟨info, identity, pair⟩ := Option.map_eq_some_iff.mp identified
      cases pair
      rw [opened, Option.bind_some, identity] at same
      obtain ⟨mine, here, named⟩ := Option.map_eq_some_iff.mp same.symm
      simp only [here, Option.map_some, named, ← describes.devices]
      split
      · exact describes.forget _
      · exact describes
    next unknown =>
      have anonymous : (whole.sessions number).bind DeviceSession.info = none := by
        cases opened : whole.sessions number <;> simp_all
      rw [anonymous] at same
      simp only [Option.map_eq_none_iff.mp same.symm, Option.map_none]
      exact describes

/-- An exception that `_supervise` does not expect ends the supervisor and leaves the registry alike in both models. -/
theorem Describes.unexpected {fleet : Fleet} (describes : Describes fleet.hub hub) {raised : Raised}
    (foreign : handledException raised = false) (active : Option Nat) (name : String) (task : Nat)
    (supervisor : Supervisor) :
    (fleet.except name active raised).supervisors name = .terminated raised ∧
      Describes (fleet.except name active raised).hub (finish hub task supervisor active false) := by
  have ends : fleet.except name active raised = fleet.terminate name active raised := by
    rw [Fleet.except, foreign]
    rfl
  have left := describes.leave active
  rw [ends]
  exact ⟨if_pos rfl, left.devices, left.sessions⟩

end fleet
/-- In every careful run the registry agrees with the supervisors in each state, and no step on one endpoint lets go
of a session that lives at another one. -/
theorem registry_consistent {hub : Hub} (reached : Reachable (registry.guarded Careful) hub) :
    Consistent hub ∧ ∀ event after, (registry.guarded Careful).step hub event after → KeepsOthers hub event after := by
  have sound := sound_invariant.reachable reached
  refine ⟨sound.consistent, ?_⟩
  rintro event after ⟨careful, step⟩
  exact sound.keepsOthers careful step

instance (hub : Hub) (endpoint : Endpoint) : Decidable (NoneLiveAt hub endpoint) :=
  inferInstanceAs (Decidable (∀ _ ∈ _, _))

instance (hub : Hub) : ∀ call, Decidable (Spares hub call)
  | .remove _ => .isTrue trivial
  | .quiesce _ _ _ => inferInstanceAs (Decidable (∀ _ ∈ _, _))

instance (hub : Hub) (endpoint : Endpoint) (lockFree : Bool) : Decidable (QuiescesSparing hub endpoint lockFree) := by
  unfold QuiescesSparing
  split <;> infer_instance

instance (hub : Hub) (event : HubEvent) : Decidable (Careful hub event) := by
  unfold Careful
  split
  · infer_instance
  · infer_instance
  · split <;> infer_instance
  · infer_instance
  · split <;> infer_instance
  · infer_instance

def firstPort : Endpoint := .usb "location=1-1"

def secondPort : Endpoint := .usb "location=1-2"

def board : DeviceId := List.replicate 16 7

def plugged (task : Nat) : List HubEvent :=
  [.run task .attempted, .run task .connected, .run task (.hello ⟨board, []⟩), .run task .readied,
    .run task (.announced none)]

def boardMoves : List HubEvent :=
  [.add firstPort none true] ++ plugged 0 ++
    [.run 0 (.broke true), .run 0 (.closed none), .run 0 (.reported false), .add secondPort none true] ++ plugged 1

/-- A board that has moved is registered at its new port. -/
theorem registry_consistent_moved : ∃ hub, hub.devices.lookup board = some 1 ∧ Consistent hub ∧
    ∀ event after, (registry.guarded Careful).step hub event after → KeepsOthers hub event after := by
  obtain ⟨hub, run, checked⟩ : ∃ hub, Run (registry.guarded Careful) .new boardMoves hub ∧
      decide (hub.devices.lookup board = some 1) = true := Run.of_guarded_check (by decide +kernel)
  exact ⟨hub, of_decide_eq_true checked, registry_consistent ⟨.new, boardMoves, ⟨[], rfl⟩, run⟩⟩

/-- Then maintenance takes the first port, which still remembers the board: the session of the second port runs on,
and is not registered any more. -/
theorem moved_board_forgotten : ∃ hub, Reachable registry hub ∧ ¬Consistent hub := by
  obtain ⟨hub, run, checked⟩ : ∃ hub, Run registry .new
      (boardMoves ++ [.quiesce firstPort true, .run 0 .stopped, .waited 0]) hub ∧
      decide (hub.tasks 1 = some ⟨secondPort, false, .running 1 .ready⟩ ∧
        hub.sessions 1 = some ⟨1, secondPort, some ⟨board, []⟩⟩ ∧ hub.devices.lookup board = none) = true :=
    Run.of_check (by decide +kernel)
  obtain ⟨runs, opened, absent⟩ := of_decide_eq_true checked
  refine ⟨hub, ⟨.new, _, ⟨[], rfl⟩, run⟩, ?_⟩
  intro consistent
  obtain ⟨session, info, found, identity, registered⟩ := consistent.announced 1 _ 1 runs rfl
  cases opened.symm.trans found
  cases identity
  rw [absent] at registered
  contradiction

end EspIris.Gateway.Registry
