import EspIris.Gateway.RegistrySound

/-! What a supervisor does keeps the registry sound: its sessions from the link to the report of their end. -/

namespace EspIris.Gateway.Registry
open Machine

section supervisors
variable {hub : Hub} (sound : Sound hub)

/-- The `finally` of a supervisor either finds its own session registered, and takes it out, or changes nothing. -/
theorem devicesWithout_cases (hub : Hub) (active : Option Nat) :
    (devicesWithout hub active = hub.devices ∧ ∀ number session info, active = some number →
      hub.sessions number = some session → session.info = some info →
        hub.devices.lookup info.deviceId ≠ some number) ∨
    ∃ number session info, active = some number ∧ hub.sessions number = some session ∧ session.info = some info ∧
      hub.devices.lookup info.deviceId = some number ∧ devicesWithout hub active = hub.devices.erase info.deviceId := by
  unfold devicesWithout
  split
  next none' =>
    refine .inl ⟨rfl, ?_⟩
    rintro number session info rfl opened identity
    rw [Option.bind_some, opened, Option.bind_some, identity] at none'
    contradiction
  next number info bound =>
    obtain ⟨active', rfl, named⟩ := Option.bind_eq_some_iff.mp bound
    obtain ⟨info', found, same⟩ := Option.map_eq_some_iff.mp named
    obtain ⟨session, opened, identity⟩ := Option.bind_eq_some_iff.mp found
    cases same
    split
    next registered => exact .inr ⟨number, session, info, rfl, opened, identity, registered, rfl⟩
    next absent =>
      refine .inl ⟨rfl, ?_⟩
      rintro other session' info' same opened' identity'
      cases same
      rw [opened] at opened'
      cases opened'
      rw [identity] at identity'
      cases identity'
      exact absent

theorem devicesWithout_none (hub : Hub) : devicesWithout hub none = hub.devices := rfl

/-- What the rules below ask of a supervisor behind its read loop: a registered session that it holds is `active`. -/
structure Leaves (hub : Hub) (task : Nat) (supervisor : Supervisor) (active : Option Nat) : Prop where
  runs : hub.tasks task = some supervisor
  alive : supervisor.phase.isEnded = false
  past : supervisor.phase.enrolled = none
  mine : ∀ number, active = some number → supervisor.phase.active = some number
  own : ∀ deviceId number, hub.devices.lookup deviceId = some number → supervisor.phase.held = some number →
    active = some number

def Free (hub : Hub) (supervisor : Supervisor) : Prop :=
  ∀ deviceId number, hub.devices.lookup deviceId = some number → supervisor.phase.held ≠ some number

include sound in
theorem Sound.finish {task : Nat} {supervisor : Supervisor} {active : Option Nat} (quiet : Bool)
    (leaves : Leaves hub task supervisor active) : Sound (finish hub task supervisor active quiet) := by
  unfold Registry.finish
  obtain ⟨same, absent⟩ | ⟨number, session, info, rfl, opened, identity, registered, erased⟩ :=
    devicesWithout_cases hub active
  · rw [same]
    apply sound.rest leaves.runs leaves.alive rfl
    intro deviceId number registered holds
    obtain ⟨session, info, -, opened, identity, rfl, -⟩ := sound.entry registered
    exact absent number session info (leaves.own _ number registered holds) opened identity registered
  · rw [erased]
    have smaller : Sound { hub with devices := hub.devices.erase info.deviceId } := by
      apply sound.erase
      intro other found task' runner runs enrolled
      rw [registered] at found
      cases found
      -- the session that is taken out is the one of this supervisor, which is past its read loop
      obtain ⟨_, first, rfl, -⟩ := sound.owner runs (Phase.active_of_held (Phase.held_of_enrolled enrolled))
      obtain ⟨_, second, rfl, -⟩ := sound.owner leaves.runs (leaves.mine number rfl)
      rw [first] at second
      cases second
      rw [leaves.runs] at runs
      cases runs
      rw [leaves.past] at enrolled
      contradiction
    apply smaller.rest leaves.runs leaves.alive rfl
    intro deviceId other found holds
    obtain ⟨different, old⟩ := lookup_of_erase found
    have same := leaves.own deviceId other old holds
    cases same
    obtain ⟨_, _, -, opened', identity', rfl, -⟩ := sound.entry old
    rw [opened] at opened'
    cases opened'
    rw [identity] at identity'
    cases identity'
    exact different rfl

include sound in
theorem Sound.settle {task : Nat} {supervisor : Supervisor} (runs : hub.tasks task = some supervisor)
    (alive : supervisor.phase.isEnded = false) (past : supervisor.phase.enrolled = none)
    (free : Free hub supervisor) : Sound (settle hub task supervisor) := by
  unfold Registry.settle
  split
  · exact sound.rest runs alive rfl free
  · apply sound.finish false
    refine ⟨runs, alive, past, nofun, ?_⟩
    intro deviceId number registered holds
    exact absurd holds (free deviceId number registered)

include sound in
/-- The endpoint of a supervisor remembers the device of the registered session that it holds. -/
theorem Sound.remembers {task number dictionary : Nat} {supervisor : Supervisor} {deviceId : DeviceId}
    (runs : hub.tasks task = some supervisor) (awake : supervisor.cancelled = false)
    (known : hub.endpointStates supervisor.endpoint = some dictionary)
    (registered : hub.devices.lookup deviceId = some number) (active : supervisor.phase.active = some number) :
    (hub.states dictionary).remembered = some deviceId ∧
      ∃ session, hub.sessions number = some session ∧ session.endpoint = supervisor.endpoint := by
  obtain ⟨session, opened, rfl, endpoint⟩ := sound.owner runs active
  obtain ⟨_, info, -, opened', identity, rfl, -⟩ := sound.entry registered
  rw [opened] at opened'
  cases opened'
  refine ⟨?_, session, opened, endpoint⟩
  rw [EndpointState.remembered, sound.remembered registered opened runs awake known, Option.filter_some]
  have named := sound.named opened identity
  simp [named]

include sound in
theorem Sound.disconnect {task : Nat} {supervisor : Supervisor} {active : Option Nat}
    (leaves : Leaves hub task supervisor active) (awake : supervisor.cancelled = false) :
    Sound (disconnect hub task supervisor active) := by
  unfold Registry.disconnect
  split
  next => exact sound.finish false leaves
  next dictionary known =>
    have settles : (∀ deviceId number, (hub.states dictionary).remembered = some deviceId →
        hub.devices.lookup deviceId = some number →
        ¬∃ session, hub.sessions number = some session ∧ session.endpoint = supervisor.endpoint) →
        Sound (Registry.settle hub task supervisor) := by
      intro nothing
      apply sound.settle leaves.runs leaves.alive leaves.past
      intro deviceId number registered holds
      obtain ⟨remembered, here⟩ := sound.remembers leaves.runs awake known registered (Phase.active_of_held holds)
      exact nothing deviceId number remembered registered here
    split
    next forgotten =>
      apply settles
      intro deviceId number remembered
      rw [forgotten] at remembered
      contradiction
    next deviceId remembered =>
      split
      next absent =>
        apply settles
        intro other number same registered
        rw [remembered] at same
        cases same
        rw [absent] at registered
        contradiction
      next current registered =>
        split
        next here =>
          obtain ⟨session, opened, endpoint⟩ := (Option.any_eq_true _ _).mp here
          apply sound.setTask leaves.runs
          refine ⟨rfl, id, fun _ _ => leaves.alive, leaves.own, leaves.mine, ?_, ?_, ?_⟩
          · intro number enrolled
            cases enrolled
          · intro _ number stage running
            cases running
          · intro held key other same
            cases same
            refine .inr ⟨?_, session, opened, by simpa using endpoint⟩
            rintro number other rfl found
            obtain ⟨same, -⟩ := sound.remembers leaves.runs awake known found (leaves.mine number rfl)
            rw [remembered] at same
            exact (Option.some.inj same).symm
        next elsewhere =>
          apply settles
          intro other number same found
          rw [remembered] at same
          cases same
          rw [registered] at found
          cases found
          rintro ⟨session, opened, endpoint⟩
          rw [opened, Option.any_some, endpoint] at elsewhere
          simp at elsewhere

include sound in
theorem Sound.afterReport {task : Nat} {supervisor : Supervisor} {active : Option Nat} {deviceId : DeviceId}
    {current : Nat} (runs : hub.tasks task = some supervisor) (awake : supervisor.cancelled = false)
    (reports : supervisor.phase = .reporting active deviceId current)
    (same : hub.devices.lookup deviceId = none ∨ hub.devices.lookup deviceId = some current) :
    Sound (afterReport hub task supervisor active deviceId) := by
  have alive : supervisor.phase.isEnded = false := by rw [reports]; rfl
  have past : supervisor.phase.enrolled = none := by rw [reports]; rfl
  unfold Registry.afterReport
  split
  next =>
    apply sound.finish false
    refine ⟨runs, alive, past, ?_, ?_⟩
    · intro number held
      rw [reports]
      exact held
    · intro key number _ holds
      rw [reports] at holds
      exact holds
  next number registered =>
    have kept : hub.devices.lookup deviceId = some current := by
      obtain absent | kept := same
      · rw [absent] at registered
        contradiction
      · exact kept
    have smaller : Sound { hub with devices := hub.devices.erase deviceId } := by
      apply sound.erase
      intro other found task' runner runs' enrolled
      rw [kept] at found
      cases found
      -- a read loop of that session would belong to a second supervisor of the endpoint
      have active' := Phase.active_of_held (Phase.held_of_enrolled enrolled)
      obtain ⟨session, opened, rfl, endpoint⟩ := sound.owner runs' active'
      obtain ⟨session', opened', endpoint'⟩ := sound.found runs reports
      rw [opened] at opened'
      cases opened'
      have calm := sound.awake_of_enrolled runs' enrolled
      have one := sound.unique runs awake alive runs' calm (Phase.alive_of_active active')
        (endpoint.symm.trans endpoint')
      rw [one, runs] at runs'
      cases runs'
      rw [past] at enrolled
      contradiction
    apply smaller.settle runs alive past
    intro key other found holds
    obtain ⟨different, old⟩ := lookup_of_erase found
    rw [reports] at holds
    cases (show active = some other from holds)
    exact different (sound.reported runs reports old)

include sound in
/-- A HELLO names the device of a session, or names the same one again. -/
theorem Sound.hello {number : Nat} {session : Session} {offered : Identity}
    (opened : hub.sessions number = some session)
    (accepted : acceptsHello session offered = true) :
    Sound { hub with
      sessions := Function.update hub.sessions number (some { session with info := some offered }) } := by
  unfold acceptsHello at accepted
  simp only [Bool.and_eq_true, decide_eq_true_eq] at accepted
  obtain ⟨⟨sized, -⟩, agrees⟩ := accepted
  -- the session as it was, with the device it had if it had one
  have old : ∀ {other found}, Function.update hub.sessions number (some { session with info := some offered }) other =
      some found → ∃ before, hub.sessions other = some before ∧ found.task = before.task ∧
        found.endpoint = before.endpoint := by
    intro other found present
    by_cases same : other = number
    · subst same
      rw [Function.update_self] at present
      cases present
      exact ⟨session, opened, rfl, rfl⟩
    · rw [Function.update_of_ne same] at present
      exact ⟨found, present, rfl, rfl⟩
  have new : ∀ {other before}, hub.sessions other = some before → ∃ found,
      Function.update hub.sessions number (some { session with info := some offered }) other = some found ∧
        found.task = before.task ∧ found.endpoint = before.endpoint ∧ ∀ info, before.info = some info →
          ∃ info', found.info = some info' ∧ info'.deviceId = info.deviceId := by
    intro other before present
    by_cases same : other = number
    · subst same
      rw [opened] at present
      cases present
      refine ⟨_, Function.update_self .., rfl, rfl, ?_⟩
      intro info identity
      rw [identity, Option.all_some, decide_eq_true_eq] at agrees
      exact ⟨offered, rfl, agrees.symm⟩
    · refine ⟨before, ?_, rfl, rfl, fun info identity => ⟨info, identity, rfl⟩⟩
      rw [Function.update_of_ne same]
      exact present
  constructor
  case entry =>
    intro deviceId other registered
    obtain ⟨before, info, supervisor, present, identity, rfl, runs, holds⟩ := sound.entry registered
    obtain ⟨found, renewed, task, -, names⟩ := new present
    obtain ⟨info', identity', named⟩ := names info identity
    rw [← task] at runs
    exact ⟨found, info', supervisor, renewed, identity', named, runs, holds⟩
  case enrolled =>
    intro task supervisor other runs enrolled
    obtain ⟨before, info, present, identity, registered⟩ := sound.enrolled runs enrolled
    obtain ⟨found, renewed, -, -, names⟩ := new present
    obtain ⟨info', identity', named⟩ := names info identity
    rw [← named] at registered
    exact ⟨found, info', renewed, identity', registered⟩
  case owner =>
    intro task supervisor other runs active
    obtain ⟨before, present, owned, endpoint⟩ := sound.owner runs active
    obtain ⟨found, renewed, task', endpoint', -⟩ := new present
    exact ⟨found, renewed, task'.trans owned, endpoint'.trans endpoint⟩
  case supervised => exact sound.supervised
  case remembered =>
    intro deviceId other found supervisor dictionary registered present runs
    obtain ⟨before, present', task, -⟩ := old present
    rw [task] at runs
    exact sound.remembered registered present' runs
  case unwinding => exact sound.unwinding
  case reported => exact sound.reported
  case found =>
    intro task supervisor active deviceId current runs reports
    obtain ⟨before, present, endpoint⟩ := sound.found runs reports
    obtain ⟨found, renewed, -, endpoint', -⟩ := new present
    exact ⟨found, renewed, endpoint'.trans endpoint⟩
  case dictionary => exact sound.dictionary
  case calls => exact sound.calls
  case numbered =>
    intro other found present
    obtain ⟨before, present', -⟩ := old present
    exact sound.numbered present'
  case counted => exact sound.counted
  case named =>
    intro other found info present identity
    by_cases same : other = number
    · subst same
      change Function.update hub.sessions other _ other = _ at present
      rw [Function.update_self] at present
      cases present
      cases identity
      intro empty
      rw [empty] at sized
      contradiction
    · change Function.update hub.sessions number _ other = _ at present
      rw [Function.update_of_ne same] at present
      exact sound.named present identity

include sound in
theorem Sound.connected {task : Nat} {supervisor : Supervisor} (runs : hub.tasks task = some supervisor)
    (awake : supervisor.cancelled = false) (connecting : supervisor.phase = .connecting) :
    Sound ({ hub with
      sessions := Function.update hub.sessions hub.opened (some ⟨task, supervisor.endpoint, none⟩)
      opened := hub.opened + 1 }.setTask task (supervisor.move (.running hub.opened .handshaking))) := by
  have others : ∀ {number session}, hub.sessions number = some session →
      Function.update hub.sessions hub.opened (some ⟨task, supervisor.endpoint, none⟩) number = some session := by
    intro number session present
    rw [Function.update_of_ne (Nat.ne_of_lt (sound.numbered present))]
    exact present
  have old : ∀ {number session info},
      Function.update hub.sessions hub.opened (some ⟨task, supervisor.endpoint, none⟩) number = some session →
        session.info = some info → hub.sessions number = some session := by
    intro number session info present identity
    by_cases same : number = hub.opened
    · subst same
      rw [Function.update_self] at present
      cases present
      contradiction
    · rw [Function.update_of_ne same] at present
      exact present
  -- the registered sessions are held by other supervisors
  have apart : ∀ {deviceId number session found}, hub.devices.lookup deviceId = some number →
      hub.sessions number = some session → hub.tasks session.task = some found → session.task ≠ task := by
    intro deviceId number session found registered opened running same
    obtain ⟨_, _, holder, opened', -, -, running', holds⟩ := sound.entry registered
    rw [opened] at opened'
    cases opened'
    rw [same, runs] at running'
    cases running'
    rw [connecting] at holds
    contradiction
  constructor
  case entry =>
    intro deviceId number registered
    obtain ⟨session, info, holder, opened, identity, named, running, holds⟩ := sound.entry registered
    refine ⟨session, info, holder, others opened, identity, named, ?_, holds⟩
    exact (tasks_setTask_other _ _ (apart registered opened running)).trans running
  case enrolled =>
    intro other found number running enrolled
    obtain ⟨rfl, rfl⟩ | ⟨-, earlier⟩ := tasks_setTask_cases running
    · cases enrolled
    · obtain ⟨session, info, opened, identity, registered⟩ := sound.enrolled earlier enrolled
      exact ⟨session, info, others opened, identity, registered⟩
  case owner =>
    intro other found number running active
    obtain ⟨rfl, rfl⟩ | ⟨-, earlier⟩ := tasks_setTask_cases running
    · cases active
      exact ⟨_, Function.update_self .., rfl, rfl⟩
    · obtain ⟨session, opened, owned, endpoint⟩ := sound.owner earlier active
      exact ⟨session, others opened, owned, endpoint⟩
  case supervised =>
    intro other found running calm alive
    obtain ⟨rfl, rfl⟩ | ⟨-, earlier⟩ := tasks_setTask_cases running
    · have held := sound.supervised runs awake (by rw [connecting]; rfl)
      exact held
    · exact sound.supervised earlier calm alive
  case remembered =>
    intro deviceId number session found dictionary registered opened running calm known
    obtain ⟨before, _, holder, opened', -, -, running', -⟩ := sound.entry registered
    have same := (others opened').symm.trans opened
    cases same
    have different := apart registered opened' running'
    rw [tasks_setTask_other _ _ different] at running
    exact sound.remembered registered opened' running calm known
  case unwinding =>
    intro other found running cancelled
    obtain ⟨rfl, rfl⟩ | ⟨-, earlier⟩ := tasks_setTask_cases running
    · rw [Supervisor.move, awake] at cancelled
      contradiction
    · exact sound.unwinding earlier cancelled
  case reported =>
    intro other found number deviceId current key running reports registered
    obtain ⟨rfl, rfl⟩ | ⟨-, earlier⟩ := tasks_setTask_cases running
    · cases reports
    · exact sound.reported earlier reports registered
  case found =>
    intro other found active deviceId current running reports
    obtain ⟨rfl, rfl⟩ | ⟨-, earlier⟩ := tasks_setTask_cases running
    · cases reports
    · obtain ⟨session, opened, endpoint⟩ := sound.found earlier reports
      exact ⟨session, others opened, endpoint⟩
  case dictionary => exact sound.dictionary
  case calls => exact sound.calls
  case numbered =>
    intro number session present
    by_cases same : number = hub.opened
    · subst same
      exact Nat.lt_succ_self _
    · change Function.update hub.sessions hub.opened _ number = _ at present
      rw [Function.update_of_ne same] at present
      exact Nat.lt_succ_of_lt (sound.numbered present)
  case counted =>
    intro other found running
    obtain ⟨rfl, rfl⟩ | ⟨-, earlier⟩ := tasks_setTask_cases running
    · exact sound.counted runs
    · exact sound.counted earlier
  case named =>
    intro number session info present identity
    exact sound.named (old present identity) identity

include sound in
/-- `_on_ready` registers a session that has passed its checks. -/
theorem Sound.register {task number dictionary : Nat} {supervisor : Supervisor} {session : Session} {info : Identity}
    (runs : hub.tasks task = some supervisor) (awake : supervisor.cancelled = false)
    (running : supervisor.phase = .running number .handshaking) (opened : hub.sessions number = some session)
    (identity : session.info = some info) (known : hub.endpointStates session.endpoint = some dictionary)
    (vacant : hub.devices.lookup info.deviceId = none) :
    Sound ({ hub.setState dictionary { hub.states dictionary with deviceId := some info.deviceId } with
      devices := hub.devices.insert info.deviceId number }.setTask task
        (supervisor.move (.running number .announcing))) := by
  have active : supervisor.phase.active = some number := by rw [running]; rfl
  obtain ⟨_, opened', rfl, endpoint⟩ := sound.owner runs active
  rw [opened] at opened'
  cases opened'
  rw [endpoint] at known
  -- the other registered sessions are held by other supervisors
  have apart : ∀ {deviceId other found}, hub.devices.lookup deviceId = some other →
      hub.sessions other = some found → found.task ≠ session.task := by
    intro deviceId other found registered present same
    obtain ⟨_, _, holder, present', -, -, running', holds⟩ := sound.entry registered
    rw [present] at present'
    cases present'
    rw [same, runs] at running'
    cases running'
    rw [running] at holds
    contradiction
  have older : ∀ {deviceId other}, deviceId ≠ info.deviceId →
      (hub.devices.insert info.deviceId number).lookup deviceId = some other →
        hub.devices.lookup deviceId = some other := by
    intro deviceId other different registered
    rw [AList.lookup_insert_ne different] at registered
    exact registered
  have kept : ∀ {deviceId other}, hub.devices.lookup deviceId = some other →
      (hub.devices.insert info.deviceId number).lookup deviceId = some other := by
    intro deviceId other registered
    have different : deviceId ≠ info.deviceId := by
      rintro rfl
      rw [vacant] at registered
      contradiction
    rw [AList.lookup_insert_ne different]
    exact registered
  constructor
  case entry =>
    intro deviceId other registered
    by_cases same : deviceId = info.deviceId
    · subst same
      cases (AList.lookup_insert _).symm.trans registered
      exact ⟨session, info, _, opened, identity, rfl, tasks_setTask_same .., rfl⟩
    · obtain ⟨found, info', holder, present, identity', named, running', holds⟩ := sound.entry (older same registered)
      refine ⟨found, info', holder, present, identity', named, ?_, holds⟩
      exact (tasks_setTask_other _ _ (apart (older same registered) present)).trans running'
  case enrolled =>
    intro other found current running' enrolled
    obtain ⟨rfl, rfl⟩ | ⟨-, earlier⟩ := tasks_setTask_cases running'
    · cases enrolled
      exact ⟨session, info, opened, identity, AList.lookup_insert _⟩
    · obtain ⟨before, info', present, identity', registered⟩ := sound.enrolled earlier enrolled
      exact ⟨before, info', present, identity', kept registered⟩
  case owner =>
    intro other found current running' active
    obtain ⟨rfl, rfl⟩ | ⟨-, earlier⟩ := tasks_setTask_cases running'
    · cases active
      exact ⟨session, opened, rfl, endpoint⟩
    · exact sound.owner earlier active
  case supervised =>
    intro other found running' calm alive
    obtain ⟨rfl, rfl⟩ | ⟨-, earlier⟩ := tasks_setTask_cases running'
    · have held := sound.supervised runs awake (by rw [running]; rfl)
      exact held
    · exact sound.supervised earlier calm alive
  case remembered =>
    intro deviceId other found holder dictionary' registered present running' calm known'
    by_cases same : deviceId = info.deviceId
    · subst same
      cases (AList.lookup_insert _).symm.trans registered
      rw [show hub.sessions number = some found from present] at opened
      cases opened
      cases (tasks_setTask_same ..).symm.trans running'
      cases known.symm.trans known'
      exact congrArg EndpointState.deviceId (states_setState_same hub dictionary _)
    · have earlier := older same registered
      have different := apart earlier present
      rw [tasks_setTask_other _ _ different] at running'
      have other' : dictionary' ≠ dictionary := by
        rintro rfl
        -- the dictionary belongs to one endpoint, and the endpoint has one supervisor
        have here := (sound.dictionary known).2.symm.trans (sound.dictionary known').2
        obtain ⟨_, _, _, present', -, -, running'', holds⟩ := sound.entry earlier
        cases present.symm.trans present'
        cases (show hub.tasks found.task = some holder from running').symm.trans running''
        exact different (sound.unique runs awake (by rw [running]; rfl) running'' calm
          (Phase.alive_of_active (Phase.active_of_held holds)) here.symm)
      have unchanged := sound.remembered earlier present running' calm known'
      exact (congrArg EndpointState.deviceId (states_setState_other hub _ other')).trans unchanged
  case unwinding =>
    intro other found running' cancelled
    obtain ⟨rfl, rfl⟩ | ⟨-, earlier⟩ := tasks_setTask_cases running'
    · rw [Supervisor.move, awake] at cancelled
      contradiction
    · exact sound.unwinding earlier cancelled
  case reported =>
    intro other found held deviceId current key running' reports registered
    obtain ⟨rfl, rfl⟩ | ⟨different, earlier⟩ := tasks_setTask_cases running'
    · cases reports
    · by_cases same : key = info.deviceId
      · subst same
        cases (AList.lookup_insert _).symm.trans registered
        -- the session that is registered now is not the one that the other supervisor reports
        have active : found.phase.active = some number := by rw [reports]; rfl
        obtain ⟨_, opened', rfl, -⟩ := sound.owner earlier active
        cases opened.symm.trans opened'
        exact absurd rfl different
      · exact sound.reported earlier reports (older same registered)
  case found =>
    intro other found active deviceId current running' reports
    obtain ⟨rfl, rfl⟩ | ⟨-, earlier⟩ := tasks_setTask_cases running'
    · cases reports
    · exact sound.found earlier reports
  case dictionary =>
    intro place dictionary' known'
    obtain ⟨small, here⟩ := sound.dictionary known'
    exact ⟨small, (endpoint_setState hub dictionary { hub.states dictionary with deviceId := some info.deviceId }
      rfl dictionary').trans here⟩
  case calls =>
    intro other place dictionary' deviceId waits
    obtain ⟨small, here⟩ := sound.calls waits
    exact ⟨small, (endpoint_setState hub dictionary { hub.states dictionary with deviceId := some info.deviceId }
      rfl dictionary').trans here⟩
  case numbered => exact sound.numbered
  case counted =>
    intro other found running'
    obtain ⟨rfl, rfl⟩ | ⟨-, earlier⟩ := tasks_setTask_cases running'
    · exact sound.counted runs
    · exact sound.counted earlier
  case named => exact sound.named

/-- A supervisor that is past its read loop leaves with its active session. -/
theorem leaves_active {task : Nat} {supervisor : Supervisor} {active : Option Nat}
    (runs : hub.tasks task = some supervisor) (alive : supervisor.phase.isEnded = false)
    (past : supervisor.phase.enrolled = none) (same : supervisor.phase.active = active) :
    Leaves hub task supervisor active where
  runs := runs
  alive := alive
  past := past
  mine := by
    intro number held
    rw [same, held]
  own := by
    intro _ number _ held
    rw [← same]
    exact Phase.active_of_held held

theorem leaves_at {task : Nat} {supervisor : Supervisor} {phase : Phase} (runs : hub.tasks task = some supervisor)
    (was : supervisor.phase = phase) (alive : phase.isEnded = false) (past : phase.enrolled = none) :
    Leaves hub task supervisor phase.active := by
  subst was
  exact leaves_active runs alive past rfl

inductive Move (hub : Hub) (task : Nat) (supervisor : Supervisor) : Hub → Prop
  | rests (phase : Phase) (was : supervisor.phase.isIdle = true) (alive : supervisor.phase.isEnded = false)
      (idle : phase.isIdle = true) : Move hub task supervisor (hub.setTask task (supervisor.move phase))
  | closes (number : Nat) (handled : Bool) (active : supervisor.phase.active = some number) :
      Move hub task supervisor (hub.setTask task (supervisor.move (.closing number handled)))
  | announces (number : Nat) (awake : supervisor.cancelled = false)
      (announcing : supervisor.phase = .running number .announcing) :
      Move hub task supervisor (hub.setTask task (supervisor.move (.running number .ready)))
  | connects (awake : supervisor.cancelled = false) (connecting : supervisor.phase = .connecting) :
      Move hub task supervisor ({ hub with
        sessions := Function.update hub.sessions hub.opened (some ⟨task, supervisor.endpoint, none⟩)
        opened := hub.opened + 1 }.setTask task (supervisor.move (.running hub.opened .handshaking)))
  | greets (number : Nat) (session : Session) (offered : Identity) (opened : hub.sessions number = some session)
      (accepted : acceptsHello session offered = true) :
      Move hub task supervisor { hub with
        sessions := Function.update hub.sessions number (some { session with info := some offered }) }
  | readies (number : Nat) (session : Session) (awake : supervisor.cancelled = false)
      (running : supervisor.phase = .running number .handshaking) (opened : hub.sessions number = some session) :
      Move hub task supervisor (onReady hub task supervisor number session)
  | finishes (active : Option Nat) (quiet : Bool) (leaves : Leaves hub task supervisor active) :
      Move hub task supervisor (finish hub task supervisor active quiet)
  | disconnects (active : Option Nat) (leaves : Leaves hub task supervisor active)
      (awake : supervisor.cancelled = false) : Move hub task supervisor (disconnect hub task supervisor active)
  | reports (active : Option Nat) (deviceId : DeviceId) (current : Nat) (awake : supervisor.cancelled = false)
      (reporting : supervisor.phase = .reporting active deviceId current)
      (same : hub.devices.lookup deviceId = none ∨ hub.devices.lookup deviceId = some current) :
      Move hub task supervisor (afterReport hub task supervisor active deviceId)

section moves
variable {task : Nat} {supervisor : Supervisor} {event : TaskEvent} {after : Hub}

theorem unwind_moves (runs : hub.tasks task = some supervisor) (cancelled : supervisor.cancelled = true)
    (careful : Careful hub (.run task event)) (step : unwind hub task supervisor event = some after) :
    Move hub task supervisor after := by
  unfold unwind at step
  split at step
  next raised =>
    split at step
    next session handled closing =>
      have leaves : Leaves hub task supervisor (some session) := leaves_at runs closing rfl rfl
      split at step
      next =>
        cases step
        exact .finishes _ _ leaves
      next =>
        -- the environment is asked not to raise here
        simp only [Careful, runs, Option.all_some, cancelled] at careful
        contradiction
      cases step
      exact .finishes _ _ leaves
    next => contradiction
  next =>
    split at step
    next created =>
      cases step
      apply Move.rests _ _ _ rfl
      all_goals
        rw [created]
        rfl
    next connecting =>
      cases step
      exact .finishes _ _ (leaves_at runs connecting rfl rfl)
    next sleeping =>
      cases step
      exact .finishes _ _ (leaves_at runs sleeping rfl rfl)
    next active deviceId current reporting =>
      cases step
      exact .finishes _ _ (leaves_at runs reporting rfl rfl)
    next => contradiction
  next => contradiction

theorem handleFrame_moves {number : Nat} {stage : Stage} (awake : supervisor.cancelled = false)
    (running : supervisor.phase = .running number stage)
    (step : handleFrame hub task supervisor number stage event = some after) : Move hub task supervisor after := by
  have active : supervisor.phase.active = some number := by rw [running]; rfl
  unfold handleFrame at step
  split at step
  next offered =>
    obtain ⟨session, opened, same⟩ := Option.map_eq_some_iff.mp step
    split at same
    next accepted =>
      cases same
      exact .greets number session offered opened accepted
    cases same
    exact .closes number true active
  next =>
    split at step
    next shaking =>
      subst shaking
      obtain ⟨session, opened, same⟩ := Option.map_eq_some_iff.mp step
      cases same
      exact .readies number session awake running opened
    next => contradiction
  next handled =>
    cases step
    exact .closes number handled active
  next => contradiction

theorem attempted_moves (runs : hub.tasks task = some supervisor) (idle : supervisor.phase.isIdle = true)
    (alive : supervisor.phase.isEnded = false)
    (step : (if (hub.endpointStates supervisor.endpoint).isSome then
        some (hub.setTask task (supervisor.move .connecting))
      else some (finish hub task supervisor none false)) = some after) : Move hub task supervisor after := by
  split at step
  next =>
    cases step
    exact .rests _ idle alive rfl
  cases step
  have inactive := Phase.active_of_idle idle
  apply Move.finishes
  apply leaves_active runs alive _ inactive
  cases enrolled : supervisor.phase.enrolled with
  | none => rfl
  | some number =>
    rw [Phase.active_of_held (Phase.held_of_enrolled enrolled)] at inactive
    contradiction

theorem proceed_moves (runs : hub.tasks task = some supervisor) (awake : supervisor.cancelled = false)
    (careful : Careful hub (.run task event)) (step : proceed hub task supervisor event = some after) :
    Move hub task supervisor after := by
  unfold proceed at step
  split at step
  next created =>
    split at step
    next => exact attempted_moves runs (by rw [created]; rfl) (by rw [created]; rfl) step
    next => contradiction
  next sleeping =>
    split at step
    next => exact attempted_moves runs (by rw [sleeping]; rfl) (by rw [sleeping]; rfl) step
    next => contradiction
  next connecting =>
    have leaves : Leaves hub task supervisor none := leaves_at runs connecting rfl rfl
    split at step
    next =>
      split at step
      next =>
        cases step
        exact .connects awake connecting
      cases step
      exact .finishes _ _ leaves
    next =>
      cases step
      exact .disconnects _ leaves awake
    next =>
      cases step
      exact .finishes _ _ leaves
    next => contradiction
  next number announcing =>
    split at step
    next =>
      cases step
      exact .announces number awake announcing
    next handled =>
      cases step
      exact .closes number handled (by rw [announcing]; rfl)
    next => contradiction
  next number stage still running => exact handleFrame_moves awake running step
  next session handled closing =>
    have leaves : Leaves hub task supervisor (some session) := leaves_at runs closing rfl rfl
    split at step
    next =>
      split at step
      next =>
        cases step
        exact .disconnects _ leaves awake
      cases step
      exact .finishes _ _ leaves
    next =>
      cases step
      exact .disconnects _ leaves awake
    next =>
      cases step
      exact .finishes _ _ leaves
    next => contradiction
  next active deviceId current reporting =>
    split at step
    next =>
      cases step
      exact .finishes _ _ (leaves_at runs reporting rfl rfl)
    next =>
      cases step
      simp only [Careful, runs, Option.map_some, reporting] at careful
      exact .reports active deviceId current awake reporting careful
    next => contradiction
  next => contradiction

theorem supervise_moves (runs : hub.tasks task = some supervisor) (careful : Careful hub (.run task event))
    (step : supervise hub task supervisor event = some after) : Move hub task supervisor after := by
  unfold supervise at step
  split at step
  next cancelled => exact unwind_moves runs cancelled careful step
  next awake => exact proceed_moves runs (by simpa using awake) careful step

end moves

include sound in
theorem Sound.onReady {task number : Nat} {supervisor : Supervisor} {session : Session}
    (runs : hub.tasks task = some supervisor) (awake : supervisor.cancelled = false)
    (running : supervisor.phase = .running number .handshaking) (opened : hub.sessions number = some session) :
    Sound (onReady hub task supervisor number session) := by
  have active : supervisor.phase.active = some number := by rw [running]; rfl
  have closes : ∀ handled, Sound (hub.setTask task (supervisor.move (.closing number handled))) := by
    intro handled
    exact sound.close runs active (Phase.alive_of_active active) supervisor.cancelled id
  unfold Registry.onReady
  split
  next => exact closes false
  next => exact closes false
  next info dictionary identity known =>
    split
    next => exact closes true
    split
    next => exact closes true
    next free =>
      split
      next => exact closes true
      apply sound.register runs awake running opened identity known
      -- what is registered under the device id would be this session, which nothing holds yet
      cases registered : hub.devices.lookup info.deviceId with
      | none => rfl
      | some other =>
        rw [registered, Option.any_some] at free
        have same : other = number := by simpa using free
        subst same
        have held := sound.held_registered registered runs active
        rw [running] at held
        contradiction

include sound in
theorem Sound.move {task : Nat} {supervisor : Supervisor} {after : Hub} (runs : hub.tasks task = some supervisor)
    (move : Move hub task supervisor after) : Sound after := by
  cases move with
  | rests phase was alive idle =>
    apply sound.rest runs alive idle
    intro deviceId number _ held
    have active := Phase.active_of_held held
    rw [Phase.active_of_idle was] at active
    contradiction
  | closes number handled active =>
    exact sound.close runs active (Phase.alive_of_active active) supervisor.cancelled id
  | announces number awake announcing =>
    have active : supervisor.phase.active = some number := by rw [announcing]; rfl
    apply sound.setTask runs
    refine ⟨rfl, id, fun _ _ => Phase.alive_of_active active, ?_, ?_, ?_, ?_, ?_⟩
    · intro _ other _ held
      rw [announcing] at held
      exact held
    · intro other holds
      rw [announcing]
      exact holds
    · intro other enrolled
      rw [announcing]
      exact enrolled
    · intro cancelled
      rw [Supervisor.move, awake] at cancelled
      contradiction
    · intro _ _ _ reports
      cases reports
  | connects awake connecting => exact sound.connected runs awake connecting
  | greets number session offered opened accepted => exact sound.hello opened accepted
  | readies number session awake running opened => exact sound.onReady runs awake running opened
  | finishes active quiet leaves => exact sound.finish quiet leaves
  | disconnects active leaves awake => exact sound.disconnect leaves awake
  | reports active deviceId current awake reporting same => exact sound.afterReport runs awake reporting same

end supervisors

end EspIris.Gateway.Registry
