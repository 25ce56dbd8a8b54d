import EspIris.Gateway.Registry

/-! What holds of the registry between any two steps, and what the parts of a step keep of it. -/

namespace EspIris.Gateway.Registry
open Machine
variable {number : Nat} {supervisor : Supervisor} {deviceId : DeviceId} {phase : Phase} {endpoint : Endpoint}
variable {task : Nat}

def Phase.active : Phase → Option Nat
  | .running session _ | .closing session _ => some session
  | .reporting active _ _ => active
  | _ => none

/-- The session that a read loop behind `_on_ready` handles. -/
def Phase.enrolled : Phase → Option Nat
  | .running session .announcing | .running session .ready => some session
  | _ => none

def Phase.held : Phase → Option Nat
  | .running _ .handshaking => none
  | phase => phase.active

def Phase.isEnded : Phase → Bool
  | .ended _ => true
  | _ => false

def Phase.isIdle : Phase → Bool
  | .created | .connecting | .sleeping | .ended _ => true
  | _ => false

theorem Phase.active_of_idle (idle : phase.isIdle = true) : phase.active = none := by
  unfold Phase.isIdle at idle
  split at idle
  · rfl
  · rfl
  · rfl
  · rfl
  · contradiction

theorem Phase.active_of_held (held : phase.held = some number) :
    phase.active = some number := by
  unfold Phase.held at held
  split at held
  · contradiction
  · exact held

theorem Phase.alive_of_active (active : phase.active = some number) :
    phase.isEnded = false := by
  unfold Phase.isEnded
  split
  · contradiction
  · rfl

theorem Phase.held_of_enrolled (enrolled : phase.enrolled = some number) :
    phase.held = some number := by
  unfold Phase.enrolled at enrolled
  split at enrolled
  · exact enrolled
  · exact enrolled
  · contradiction

def live (hub : Hub) (number : Nat) : Bool :=
  (hub.sessions number).any fun session => (hub.tasks session.task).any fun supervisor =>
    !supervisor.cancelled && supervisor.phase.active = some number

theorem live_of_held {hub : Hub} {session : Session} (opened : hub.sessions number = some session)
    (runs : hub.tasks session.task = some supervisor) (awake : supervisor.cancelled = false)
    (held : supervisor.phase.held = some number) : live hub number = true := by
  unfold live
  rw [opened, Option.any_some, runs, Option.any_some, awake, Phase.active_of_held held]
  simp

theorem lookup_of_erase {devices : AList fun _ : DeviceId => Nat} {erased deviceId : DeviceId}
    (found : (devices.erase erased).lookup deviceId = some number) :
    deviceId ≠ erased ∧ devices.lookup deviceId = some number := by
  by_cases same : deviceId = erased
  · subst same
    rw [AList.lookup_erase] at found
    contradiction
  · rw [AList.lookup_erase_ne same] at found
    exact ⟨same, found⟩

theorem mem_of_lookup {devices : AList fun _ : DeviceId => Nat} (found : devices.lookup deviceId = some number) :
    (⟨deviceId, number⟩ : Sigma fun _ => Nat) ∈ devices.entries :=
  AList.mem_lookup_iff.mp found

def NoneLiveAt (hub : Hub) (endpoint : Endpoint) : Prop :=
  ∀ entry ∈ hub.devices.entries, live hub entry.2 = true →
    (hub.sessions entry.2).map Session.endpoint ≠ some endpoint

/-- A call that is about to return finds nothing live under the device id that it has read, nor at its endpoint while
its dictionary still describes it. -/
def Spares (hub : Hub) : Call → Prop
  | .remove _ => True
  | .quiesce endpoint number deviceId => ∀ entry ∈ hub.devices.entries, live hub entry.2 = true →
      deviceId ≠ some entry.1 ∧ (hub.endpointStates endpoint = some number →
        (hub.sessions entry.2).map Session.endpoint ≠ some endpoint)

def returnsAtOnce (hub : Hub) (endpoint : Endpoint) : Bool :=
  (taskOf hub endpoint).all fun found => found.2.phase = .ended true

def hasEnded (hub : Hub) (task : Nat) : Bool :=
  (hub.tasks task).any fun supervisor => supervisor.phase = .ended true

def QuiescesSparing (hub : Hub) (endpoint : Endpoint) (lockFree : Bool) : Prop :=
  match prepareQuiesce hub endpoint lockFree with
  | .error _ => True
  | .ok (prepared, call) => returnsAtOnce prepared endpoint = true → Spares prepared call

def Careful (hub : Hub) : HubEvent → Prop
  | .add endpoint _ _ => hub.closing = false → hub.endpointStates endpoint = none → NoneLiveAt hub endpoint
  | .quiesce endpoint lockFree =>
    (hub.endpointStates endpoint = none → NoneLiveAt hub endpoint) ∧ QuiescesSparing hub endpoint lockFree
  | .waited index =>
    match hub.waiting[index]? with
    | none => True
    | some (task, call) => hasEnded hub task = true → Spares hub call
  | .run task (.closed (some true)) => ((hub.tasks task).all fun supervisor => !supervisor.cancelled) = true
  | .run task (.reported false) =>
    match (hub.tasks task).map Supervisor.phase with
    | some (.reporting _ deviceId current) =>
      hub.devices.lookup deviceId = none ∨ hub.devices.lookup deviceId = some current
    | _ => True
  | _ => True

structure Sound (hub : Hub) : Prop where
  entry : ∀ {deviceId number}, hub.devices.lookup deviceId = some number →
    ∃ session info supervisor, hub.sessions number = some session ∧ session.info = some info ∧
      info.deviceId = deviceId ∧ hub.tasks session.task = some supervisor ∧ supervisor.phase.held = some number
  enrolled : ∀ {task supervisor number}, hub.tasks task = some supervisor →
    supervisor.phase.enrolled = some number →
    ∃ session info, hub.sessions number = some session ∧ session.info = some info ∧
      hub.devices.lookup info.deviceId = some number
  owner : ∀ {task supervisor number}, hub.tasks task = some supervisor → supervisor.phase.active = some number →
    ∃ session, hub.sessions number = some session ∧ session.task = task ∧ session.endpoint = supervisor.endpoint
  supervised : ∀ {task supervisor}, hub.tasks task = some supervisor → supervisor.cancelled = false →
    supervisor.phase.isEnded = false → hub.endpointTasks supervisor.endpoint = some task
  remembered : ∀ {deviceId number session supervisor dictionary}, hub.devices.lookup deviceId = some number →
    hub.sessions number = some session → hub.tasks session.task = some supervisor → supervisor.cancelled = false →
    hub.endpointStates supervisor.endpoint = some dictionary → (hub.states dictionary).deviceId = some deviceId
  unwinding : ∀ {task supervisor}, hub.tasks task = some supervisor → supervisor.cancelled = true →
    ∀ number stage, supervisor.phase ≠ .running number stage
  reported : ∀ {task supervisor number deviceId current other}, hub.tasks task = some supervisor →
    supervisor.phase = .reporting (some number) deviceId current → hub.devices.lookup other = some number →
    other = deviceId
  found : ∀ {task supervisor active deviceId current}, hub.tasks task = some supervisor →
    supervisor.phase = .reporting active deviceId current →
    ∃ session, hub.sessions current = some session ∧ session.endpoint = supervisor.endpoint
  dictionary : ∀ {endpoint number}, hub.endpointStates endpoint = some number →
    number < hub.made ∧ (hub.states number).endpoint = endpoint
  calls : ∀ {task endpoint number deviceId}, (task, Call.quiesce endpoint number deviceId) ∈ hub.waiting →
    number < hub.made ∧ (hub.states number).endpoint = endpoint
  numbered : ∀ {number session}, hub.sessions number = some session → number < hub.opened
  counted : ∀ {task supervisor}, hub.tasks task = some supervisor → task < hub.spawned
  named : ∀ {number session info}, hub.sessions number = some session → session.info = some info →
    info.deviceId ≠ []

section rules
variable {hub : Hub} (sound : Sound hub)

include sound in
/-- The supervisor that holds a registered session is the one that runs it. -/
theorem Sound.held_registered (registered : hub.devices.lookup deviceId = some number)
    (runs : hub.tasks task = some supervisor) (active : supervisor.phase.active = some number) :
    supervisor.phase.held = some number := by
  obtain ⟨session, info, holder, opened, -, -, held, holds⟩ := sound.entry registered
  obtain ⟨same, found, owned, -⟩ := sound.owner runs active
  rw [opened] at found
  cases found
  subst owned
  rw [runs] at held
  cases held
  exact holds

include sound in
theorem Sound.awake_of_enrolled (runs : hub.tasks task = some supervisor)
    (enrolled : supervisor.phase.enrolled = some number) : supervisor.cancelled = false := by
  rw [← Bool.not_eq_true]
  intro cancelled
  unfold Phase.enrolled at enrolled
  split at enrolled
  next running => exact sound.unwinding runs cancelled _ _ running
  next running => exact sound.unwinding runs cancelled _ _ running
  next => contradiction

include sound in
/-- An endpoint has at most one supervisor that was neither cancelled nor has ended. -/
theorem Sound.unique {task other : Nat} {supervisor rival : Supervisor} (runs : hub.tasks task = some supervisor)
    (awake : supervisor.cancelled = false) (alive : supervisor.phase.isEnded = false)
    (rivals : hub.tasks other = some rival) (rivalAwake : rival.cancelled = false)
    (rivalAlive : rival.phase.isEnded = false) (same : rival.endpoint = supervisor.endpoint) : other = task := by
  have first := sound.supervised runs awake alive
  have second := sound.supervised rivals rivalAwake rivalAlive
  rw [same, first] at second
  exact (Option.some.inj second).symm

structure Follows (hub : Hub) (before after : Supervisor) : Prop where
  endpoint : after.endpoint = before.endpoint
  awake : after.cancelled = false → before.cancelled = false
  alive : after.cancelled = false → after.phase.isEnded = false → before.phase.isEnded = false
  held : ∀ deviceId number, hub.devices.lookup deviceId = some number → before.phase.held = some number →
    after.phase.held = some number
  active : ∀ number, after.phase.active = some number → before.phase.active = some number
  enrolled : ∀ number, after.phase.enrolled = some number → before.phase.enrolled = some number
  unwinding : after.cancelled = true → ∀ number stage, after.phase ≠ .running number stage
  reporting : ∀ active deviceId current, after.phase = .reporting active deviceId current →
    before.phase = .reporting active deviceId current ∨
      (∀ number other, active = some number → hub.devices.lookup other = some number → other = deviceId) ∧
        ∃ session, hub.sessions current = some session ∧ session.endpoint = before.endpoint

include sound in
theorem Sound.follows_self (runs : hub.tasks task = some supervisor) :
    Follows hub supervisor supervisor where
  endpoint := rfl
  awake := id
  alive := fun _ alive => alive
  held := fun _ _ _ held => held
  active := fun _ active => active
  enrolled := fun _ enrolled => enrolled
  unwinding := sound.unwinding runs
  reporting := fun _ _ _ reports => .inl reports

include sound in
theorem Sound.retask {tasks : Nat → Option Supervisor}
    (back : ∀ task after, tasks task = some after → ∃ before, hub.tasks task = some before ∧ Follows hub before after)
    (forth : ∀ task before, hub.tasks task = some before → ∃ after, tasks task = some after) :
    Sound { hub with tasks := tasks } where
  entry := by
    intro deviceId number registered
    obtain ⟨session, info, supervisor, opened, identity, named, runs, holds⟩ := sound.entry registered
    obtain ⟨after, moved⟩ := forth _ _ runs
    obtain ⟨before, runs', follows⟩ := back _ _ moved
    cases runs.symm.trans runs'
    exact ⟨session, info, after, opened, identity, named, moved, follows.held deviceId number registered holds⟩
  enrolled := by
    intro task supervisor number moved enrolled
    obtain ⟨before, runs, follows⟩ := back _ _ moved
    exact sound.enrolled runs (follows.enrolled number enrolled)
  owner := by
    intro task supervisor number moved active
    obtain ⟨before, runs, follows⟩ := back _ _ moved
    rw [follows.endpoint]
    exact sound.owner runs (follows.active number active)
  supervised := by
    intro task supervisor moved awake alive
    obtain ⟨before, runs, follows⟩ := back _ _ moved
    rw [follows.endpoint]
    exact sound.supervised runs (follows.awake awake) (follows.alive awake alive)
  remembered := by
    intro deviceId number session supervisor dictionary registered opened moved awake known
    obtain ⟨before, runs, follows⟩ := back _ _ moved
    rw [follows.endpoint] at known
    exact sound.remembered registered opened runs (follows.awake awake) known
  unwinding := by
    intro task supervisor moved cancelled
    obtain ⟨before, runs, follows⟩ := back _ _ moved
    exact follows.unwinding cancelled
  reported := by
    intro task supervisor number deviceId current other moved reports registered
    obtain ⟨before, runs, follows⟩ := back _ _ moved
    obtain earlier | ⟨fresh, -⟩ := follows.reporting _ _ _ reports
    · exact sound.reported runs earlier registered
    · exact fresh number other rfl registered
  found := by
    intro task supervisor active deviceId current moved reports
    obtain ⟨before, runs, follows⟩ := back _ _ moved
    rw [follows.endpoint]
    obtain earlier | ⟨-, fresh⟩ := follows.reporting _ _ _ reports
    · exact sound.found runs earlier
    · exact fresh
  dictionary := sound.dictionary
  calls := sound.calls
  numbered := sound.numbered
  counted := by
    intro task supervisor moved
    obtain ⟨before, runs, -⟩ := back _ _ moved
    exact sound.counted runs
  named := sound.named

include sound in
theorem Sound.setTask {before after : Supervisor} (runs : hub.tasks task = some before)
    (follows : Follows hub before after) : Sound (hub.setTask task after) := by
  apply sound.retask
  · intro other found moved
    obtain ⟨rfl, rfl⟩ | ⟨-, old⟩ := tasks_setTask_cases moved
    · exact ⟨before, runs, follows⟩
    · exact ⟨found, old, sound.follows_self old⟩
  · intro other found old
    by_cases same : other = task
    · subst same
      exact ⟨after, tasks_setTask_same ..⟩
    · exact ⟨found, (tasks_setTask_other hub after same).trans old⟩

include sound in
theorem Sound.rest {before : Supervisor} (runs : hub.tasks task = some before) (alive : before.phase.isEnded = false)
    (idle : phase.isIdle = true)
    (free : ∀ deviceId number, hub.devices.lookup deviceId = some number → before.phase.held ≠ some number) :
    Sound (hub.setTask task (before.move phase)) := by
  apply sound.setTask runs
  refine ⟨rfl, id, fun _ _ => alive, ?_, ?_, ?_, ?_, ?_⟩
  · intro deviceId number registered holds
    exact absurd holds (free deviceId number registered)
  · intro number holds
    rw [Supervisor.move, Phase.active_of_idle idle] at holds
    contradiction
  · intro number runsOn
    have holds := Phase.active_of_held (Phase.held_of_enrolled runsOn)
    rw [Supervisor.move, Phase.active_of_idle idle] at holds
    contradiction
  · intro _ number stage running
    have same : phase = .running number stage := running
    rw [same] at idle
    contradiction
  · intro active deviceId current reports
    have same : phase = .reporting active deviceId current := reports
    rw [same] at idle
    contradiction

include sound in
theorem Sound.close {before : Supervisor} {handled : Bool} (runs : hub.tasks task = some before)
    (active : before.phase.active = some number) (alive : before.phase.isEnded = false) (cancelled : Bool)
    (awake : cancelled = false → before.cancelled = false) :
    Sound (hub.setTask task ⟨before.endpoint, cancelled, .closing number handled⟩) := by
  apply sound.setTask runs
  refine ⟨rfl, awake, fun _ _ => alive, ?_, ?_, ?_, ?_, ?_⟩
  · intro deviceId other registered holds
    rw [Phase.active_of_held holds] at active
    cases active
    rfl
  · intro other holds
    cases holds
    exact active
  · intro other runsOn
    cases runsOn
  · intro _ other stage running
    cases running
  · intro held deviceId current reports
    cases reports

include sound in
/-- An entry may go when no read loop behind `_on_ready` handles its session. -/
theorem Sound.erase {deviceId : DeviceId}
    (free : ∀ number, hub.devices.lookup deviceId = some number → ∀ task supervisor,
      hub.tasks task = some supervisor → supervisor.phase.enrolled ≠ some number) :
    Sound { hub with devices := hub.devices.erase deviceId } where
  entry := fun registered => sound.entry (lookup_of_erase registered).2
  enrolled := by
    intro task supervisor number runs enrolled
    obtain ⟨session, info, opened, identity, registered⟩ := sound.enrolled runs enrolled
    refine ⟨session, info, opened, identity, ?_⟩
    have other : info.deviceId ≠ deviceId := by
      intro same
      rw [same] at registered
      exact free number registered task supervisor runs enrolled
    exact (AList.lookup_erase_ne other).trans registered
  owner := sound.owner
  supervised := sound.supervised
  remembered := fun registered => sound.remembered (lookup_of_erase registered).2
  unwinding := sound.unwinding
  reported := fun runs reports registered => sound.reported runs reports (lookup_of_erase registered).2
  found := sound.found
  dictionary := sound.dictionary
  calls := sound.calls
  numbered := sound.numbered
  counted := sound.counted
  named := sound.named

include sound in
/-- The dictionary of an endpoint may change where it still remembers what is registered there. -/
theorem Sound.setState (number : Nat) (state : EndpointState) (same : state.endpoint = (hub.states number).endpoint)
    (keeps : ∀ deviceId session holder entry, hub.devices.lookup deviceId = some entry →
      hub.sessions entry = some session → hub.tasks session.task = some holder → holder.cancelled = false →
      hub.endpointStates holder.endpoint = some number → state.deviceId = some deviceId) :
    Sound (hub.setState number state) where
  entry := sound.entry
  enrolled := sound.enrolled
  owner := sound.owner
  supervised := sound.supervised
  remembered := by
    intro deviceId entry session supervisor dictionary registered opened runs awake known
    by_cases here : dictionary = number
    · subst here
      rw [states_setState_same]
      exact keeps deviceId session supervisor entry registered opened runs awake known
    · rw [states_setState_other hub state here]
      exact sound.remembered registered opened runs awake known
  unwinding := sound.unwinding
  reported := sound.reported
  found := sound.found
  dictionary := by
    intro endpoint other known
    obtain ⟨small, here⟩ := sound.dictionary known
    exact ⟨small, (endpoint_setState hub number state same other).trans here⟩
  calls := by
    intro task endpoint other deviceId waits
    obtain ⟨small, here⟩ := sound.calls waits
    exact ⟨small, (endpoint_setState hub number state same other).trans here⟩
  numbered := sound.numbered
  counted := sound.counted
  named := sound.named

include sound in
/-- A registered session whose supervisor was not cancelled is live, at the endpoint of that supervisor. -/
theorem Sound.live_of_registered {session : Session} (registered : hub.devices.lookup deviceId = some number)
    (opened : hub.sessions number = some session) (runs : hub.tasks session.task = some supervisor)
    (awake : supervisor.cancelled = false) :
    live hub number = true ∧ (hub.sessions number).map Session.endpoint = some supervisor.endpoint := by
  obtain ⟨_, _, _, opened', -, -, runs', holds⟩ := sound.entry registered
  cases opened.symm.trans opened'
  cases runs.symm.trans runs'
  obtain ⟨_, opened', -, endpoint⟩ := sound.owner runs (Phase.active_of_held holds)
  cases opened.symm.trans opened'
  refine ⟨live_of_held opened runs awake holds, ?_⟩
  rw [opened, Option.map_some, endpoint]

include sound in
theorem Sound.describe {state : EndpointState} (same : state.endpoint = endpoint) (vacant : NoneLiveAt hub endpoint) :
    Sound { hub.setState hub.made state with
      endpointStates := Function.update hub.endpointStates endpoint (some hub.made)
      made := hub.made + 1 } where
  entry := sound.entry
  enrolled := sound.enrolled
  owner := sound.owner
  supervised := sound.supervised
  remembered := by
    intro deviceId entry session supervisor dictionary registered opened runs awake known
    have elsewhere : supervisor.endpoint ≠ endpoint := by
      intro here
      obtain ⟨lives, place⟩ := sound.live_of_registered registered opened runs awake
      rw [here] at place
      exact vacant ⟨deviceId, entry⟩ (mem_of_lookup registered) lives place
    change Function.update hub.endpointStates endpoint _ supervisor.endpoint = _ at known
    rw [Function.update_of_ne elsewhere] at known
    have older := Nat.ne_of_lt (sound.dictionary known).1
    exact (congrArg EndpointState.deviceId (states_setState_other hub state older)).trans
      (sound.remembered registered opened runs awake known)
  unwinding := sound.unwinding
  reported := sound.reported
  found := sound.found
  dictionary := by
    intro place number known
    by_cases here : place = endpoint
    · subst here
      change Function.update hub.endpointStates place _ place = _ at known
      rw [Function.update_self] at known
      cases known
      exact ⟨Nat.lt_succ_self _, (congrArg EndpointState.endpoint (states_setState_same hub _ state)).trans same⟩
    · change Function.update hub.endpointStates endpoint _ place = _ at known
      rw [Function.update_of_ne here] at known
      obtain ⟨small, there⟩ := sound.dictionary known
      exact ⟨Nat.lt_succ_of_lt small,
        (congrArg EndpointState.endpoint (states_setState_other hub state (Nat.ne_of_lt small))).trans there⟩
  calls := by
    intro task place number deviceId waits
    obtain ⟨small, there⟩ := sound.calls waits
    exact ⟨Nat.lt_succ_of_lt small,
      (congrArg EndpointState.endpoint (states_setState_other hub state (Nat.ne_of_lt small))).trans there⟩
  numbered := sound.numbered
  counted := sound.counted
  named := sound.named

include sound in
/-- A supervisor is taken out of the table when it was cancelled or has ended. -/
theorem Sound.pop {endpoint : Endpoint} (gone : ∀ task supervisor, hub.tasks task = some supervisor →
      hub.endpointTasks endpoint = some task → supervisor.cancelled = false → supervisor.phase.isEnded = true) :
    Sound { hub with endpointTasks := Function.update hub.endpointTasks endpoint none } where
  entry := sound.entry
  enrolled := sound.enrolled
  owner := sound.owner
  supervised := by
    intro task supervisor runs awake alive
    have supervised := sound.supervised runs awake alive
    have elsewhere : supervisor.endpoint ≠ endpoint := by
      rintro rfl
      rw [gone task supervisor runs supervised awake] at alive
      contradiction
    exact (Function.update_of_ne elsewhere ..).trans supervised
  remembered := sound.remembered
  unwinding := sound.unwinding
  reported := sound.reported
  found := sound.found
  dictionary := sound.dictionary
  calls := sound.calls
  numbered := sound.numbered
  counted := sound.counted
  named := sound.named

include sound in
theorem Sound.setWaiting {waiting : List (Nat × Call)}
    (known : ∀ task endpoint number deviceId, (task, Call.quiesce endpoint number deviceId) ∈ waiting →
      number < hub.made ∧ (hub.states number).endpoint = endpoint) :
    Sound { hub with waiting := waiting } :=
  ⟨sound.entry, sound.enrolled, sound.owner, sound.supervised, sound.remembered, sound.unwinding, sound.reported,
    sound.found, sound.dictionary, known _ _ _ _, sound.numbered, sound.counted, sound.named⟩

include sound in
/-- Locks, reservations and the flag of `close` do not matter. -/
theorem Sound.relock (locks maintenanceEndpoints : Endpoint → Bool) (closing : Bool) :
    Sound { hub with locks := locks, maintenanceEndpoints := maintenanceEndpoints, closing := closing } :=
  ⟨sound.entry, sound.enrolled, sound.owner, sound.supervised, sound.remembered, sound.unwinding, sound.reported,
    sound.found, sound.dictionary, sound.calls, sound.numbered, sound.counted, sound.named⟩

include sound in
theorem Sound.spawn (vacant : hub.endpointTasks endpoint = none) :
    Sound ({ hub with
      endpointTasks := Function.update hub.endpointTasks endpoint (some hub.spawned)
      spawned := hub.spawned + 1 }.setTask hub.spawned ⟨endpoint, false, .created⟩) where
  entry := by
    intro deviceId number registered
    obtain ⟨session, info, supervisor, opened, identity, named, runs, holds⟩ := sound.entry registered
    refine ⟨session, info, supervisor, opened, identity, named, ?_, holds⟩
    exact (tasks_setTask_other _ _ (Nat.ne_of_lt (sound.counted runs))).trans runs
  enrolled := by
    intro task supervisor number runs enrolled
    obtain ⟨-, rfl⟩ | ⟨-, old⟩ := tasks_setTask_cases runs
    · cases enrolled
    · exact sound.enrolled old enrolled
  owner := by
    intro task supervisor number runs active
    obtain ⟨-, rfl⟩ | ⟨-, old⟩ := tasks_setTask_cases runs
    · cases active
    · exact sound.owner old active
  supervised := by
    intro task supervisor runs awake alive
    obtain ⟨rfl, rfl⟩ | ⟨-, old⟩ := tasks_setTask_cases runs
    · exact Function.update_self ..
    · have supervised := sound.supervised old awake alive
      have elsewhere : supervisor.endpoint ≠ endpoint := by
        rintro rfl
        rw [vacant] at supervised
        contradiction
      exact (Function.update_of_ne elsewhere ..).trans supervised
  remembered := by
    intro deviceId number session supervisor dictionary registered opened runs awake known
    obtain ⟨_, _, holder, opened', -, -, runs', -⟩ := sound.entry registered
    cases (show hub.sessions number = some session from opened).symm.trans opened'
    rw [tasks_setTask_other _ _ (Nat.ne_of_lt (sound.counted runs'))] at runs
    exact sound.remembered registered opened runs awake known
  unwinding := by
    intro task supervisor runs cancelled
    obtain ⟨-, rfl⟩ | ⟨-, old⟩ := tasks_setTask_cases runs
    · contradiction
    · exact sound.unwinding old cancelled
  reported := by
    intro task supervisor number deviceId current other runs reports registered
    obtain ⟨-, rfl⟩ | ⟨-, old⟩ := tasks_setTask_cases runs
    · cases reports
    · exact sound.reported old reports registered
  found := by
    intro task supervisor active deviceId current runs reports
    obtain ⟨-, rfl⟩ | ⟨-, old⟩ := tasks_setTask_cases runs
    · cases reports
    · exact sound.found old reports
  dictionary := sound.dictionary
  calls := sound.calls
  numbered := sound.numbered
  counted := by
    intro task supervisor runs
    obtain ⟨rfl, -⟩ | ⟨-, old⟩ := tasks_setTask_cases runs
    · exact Nat.lt_succ_self _
    · exact Nat.lt_succ_of_lt (sound.counted old)
  named := sound.named

end rules

end EspIris.Gateway.Registry
