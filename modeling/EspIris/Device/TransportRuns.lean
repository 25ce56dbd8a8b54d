import EspIris.Device.Binding
import EspIris.Device.TransportOwner

/-! The ownership of the session over whole runs: one transport holds it from its claim on, the others wait for it or
are stopped, and a claim that is not committed in time is given up. -/

namespace EspIris.Device
open Machine
variable {before after : DeviceState} {choices : Choices}

section task
variable (config : Config)

/-- `iris_transport_start`, up to the first transport that does not start. -/
def irisTransportStart (manager : TransportManager) (input : LinkInput) : Option TransportManager :=
  config.transports.foldlM (fun manager kind =>
    let started := manager.startKind kind input
    if (started.stateFor kind).driverStarted then some started else none)
    { clearActive manager with scanStart := 0, retryAfterUs := fun _ => 0 }

/-- No transport has a link, as before the first start and as `iris_transport_stop` leaves them. -/
structure Detached (manager : TransportManager) : Prop where
  silent : ∀ kind, (manager.stateFor kind).reportedLinkUp = false
  link : manager.tcp.linkUp = false
  client : manager.tcp.client = none

def owners : System DeviceState DeviceEvent :=
  .ofPartial (fun state => ∃ deviceId bootId manager input transport, Detached manager ∧
    irisTransportStart config manager input = some transport ∧
    state = { DeviceState.initial deviceId bootId with transport := transport }) (ownersNext config)

structure Claim where
  claimedUs : Int
  refused : Bool
  deriving DecidableEq, Repr

def Phase.isReopening : Phase → Bool
  | .reopening _ => true
  | _ => false

def claims (before after : DeviceState) : Bool :=
  before.transport.active.isNone && after.transport.active.isSome ||
    before.phase.isReopening && !after.phase.isReopening

def noteClaim (claim : Claim) (before : DeviceState) (event : DeviceEvent) (after : DeviceState) : Claim :=
  match event with
  | .task choices =>
    { claimedUs := if claims before after then choices.link.now else claim.claimedUs
      refused :=
        if !before.transport.committed && after.transport.committed then !choices.link.stops else claim.refused }
  | _ => claim

def claimed : System (DeviceState × Claim) DeviceEvent := (owners config).recorded ⟨0, false⟩ noteClaim

inductive TransportMoves (before : DeviceState) (choices : Choices) (after : DeviceState) : Prop
  | polled (phase : before.phase = .poll)
      (transport : after.transport = (irisTransportPoll config before.transport choices.link).1)
  | closed (closes : Closes before.transport after.transport) (elsewhere : before.phase.isReopening = false)
  | committed (waits : before.runtime.sessionState = .negotiating)
      (transport : after.transport = irisTransportCommit config before.transport choices.link)
      (elsewhere : before.phase.isReopening = false)
  | renewed (here : before.phase.isReopening = true) (goes : after.phase.isReopening = false)
      (transport : after.transport = irisTransportRenewClaim config before.transport choices.link.now)

variable {claim : Claim}

theorem leaveServices_transport (device : DeviceState) : (leaveServices device).transport = device.transport := by
  unfold leaveServices
  split <;> rfl

theorem startSession_transport (device : DeviceState) (choices : Choices) :
    (startSession config device choices).transport = device.transport := by
  unfold startSession
  split
  · rfl
  · split <;> rfl

theorem pollLink_transport (device : DeviceState) (choices : Choices) :
    (pollLink config device choices).transport = (irisTransportPoll config device.transport choices.link).1 := by
  unfold pollLink
  dsimp only
  split
  · exact startSession_transport config _ choices
  · exact leaveServices_transport _
  · rfl

theorem taskStep_transport (device : DeviceState) (choices : Choices) (reported : Reported device.transport) :
    TransportMoves config device choices (taskStep config device choices) := by
  have moves := taskStep_moves config device choices reported
  generalize taken : taskStep config device choices = after at moves
  have polled (phase : device.phase = .poll) : TransportMoves config device choices after := by
    refine .polled phase ?_
    rw [← taken, taskStep, phase]
    exact pollLink_transport config device choices
  cases moves with
  | connected transport phase | lost transport phase | still transport phase => exact polled phase
  | ended phase => exact .closed (.inl rfl) (by rw [phase]; rfl)
  | pumped burst phase runtime transport rxFrom next wrote reads same closes =>
    exact .closed closes (by rw [phase]; rfl)
  | fed feed phase _ feeds =>
    have elsewhere : device.phase.isReopening = false := by rw [phase]; rfl
    cases feeds with
    | finished => exact .closed (.inl rfl) elsewhere
    | kept => exact .closed (.inl rfl) elsewhere
    | completed value frame later runtime _ same handled =>
      cases handled with
      | kept => exact .closed (.inl rfl) elsewhere
      | served => exact .closed (.inl rfl) elsewhere
      | accepted frame runtime psaSucceeds accepts waits =>
        exact .committed (same.sessionState.symm.trans waits) rfl elsewhere
      | leaving runtime => exact .closed (.inl (leaveServices_transport _)) elsewhere
  | done feed phase => exact .closed (.inl rfl) (by rw [phase]; rfl)
  | reopened feed phase begun runtime more begins =>
    subst begins
    refine .renewed (by rw [phase]; rfl) rfl ?_
    change irisTransportRenewClaim config (startSession config (resetSession device) choices).transport _ = _
    rw [startSession_transport]
    rfl
  | produced burst progressed phase | drains burst progressed phase
  | filled burst progressed phase => exact .closed (.inl rfl) (by rw [phase]; rfl)
  | finished burst progressed phase runtime transport next wrote same closes =>
    exact .closed closes (by rw [phase]; rfl)

structure Rules (device : DeviceState) (claim : Claim) : Prop where
  flags : FlagsAgree device
  owned : Owned device.transport
  losers : device.transport.committed = true → LosersDown config device.transport claim.refused
  deadline : device.transport.active ≠ none → device.transport.committed = false →
    device.transport.claimDeadlineUs = claim.claimedUs + config.claimTimeoutUs

theorem LosersDown.kept {before after : TransportManager} {refused : Bool} (losers : LosersDown config before refused)
    (active : after.active = before.active)
    (started : ∀ kind, (after.stateFor kind).driverStarted = (before.stateFor kind).driverStarted) :
    LosersDown config after refused := by
  intro kind member loser
  rw [started]
  exact losers kind member (active ▸ loser)

theorem closes_started {before after : TransportManager} (closes : Closes before after) (kind : TransportKind) :
    (after.stateFor kind).driverStarted = (before.stateFor kind).driverStarted := by
  obtain rfl | ⟨_, rfl⟩ := closes
  · rfl
  · cases kind <;> rfl

theorem closes_deadline {before after : TransportManager} (closes : Closes before after) :
    after.claimDeadlineUs = before.claimDeadlineUs := by
  obtain rfl | ⟨_, rfl⟩ := closes <;> rfl

theorem Rules.kept {before after : DeviceState} {claim noted : Claim} (rules : Rules config before claim)
    (flags : FlagsAgree after) (owned : Owned after.transport)
    (active : after.transport.active = before.transport.active)
    (committed : after.transport.committed = before.transport.committed)
    (deadline : after.transport.claimDeadlineUs = before.transport.claimDeadlineUs)
    (started : ∀ kind,
      (after.transport.stateFor kind).driverStarted = (before.transport.stateFor kind).driverStarted)
    (same : noted = claim) : Rules config after noted where
  flags := flags
  owned := owned
  losers := by
    rw [committed, same]
    intro held
    exact (rules.losers held).kept config active started
  deadline := by
    rw [committed, active, deadline, same]
    exact rules.deadline

theorem noteClaim_same (choices : Choices) (active : after.transport.active = before.transport.active)
    (committed : after.transport.committed = before.transport.committed)
    (elsewhere : before.phase.isReopening = false ∨ after.phase = before.phase) :
    noteClaim claim before (.task choices) after = claim := by
  have quiet : claims before after = false := by
    unfold claims
    rw [active]
    obtain phase | phase := elsewhere
    · rw [phase]
      cases before.transport.active <;> rfl
    · rw [phase]
      cases before.transport.active <;> cases before.phase.isReopening <;> rfl
  have settled : (!before.transport.committed && after.transport.committed) = false := by
    rw [committed]
    cases before.transport.committed <;> rfl
  unfold noteClaim
  dsimp only
  rw [quiet, settled]
  rfl

theorem Rules.polled (rules : Rules config before claim) (flags : FlagsAgree after) (phase : before.phase = .poll)
    (transport : after.transport = (irisTransportPoll config before.transport choices.link).1) :
    Rules config after (noteClaim claim before (.task choices) after) := by
  have polling := irisTransportPoll_polling config rules.owned choices.link
  have elsewhere : before.phase.isReopening = false := by rw [phase]; rfl
  revert transport polling
  generalize irisTransportPoll config before.transport choices.link = result
  intro transport polling
  cases polling with
  | lost manager held idle uncommitted owned tried =>
    change after.transport = manager at transport
    rw [← transport] at idle uncommitted owned
    exact ⟨flags, owned, fun held => absurd (uncommitted.symm.trans held) Bool.false_ne_true,
      fun active => absurd idle active⟩
  | kept manager held active committed deadline owned started due =>
    change after.transport = manager at transport
    rw [← transport] at active committed deadline owned started
    exact rules.kept config flags owned active committed deadline started
      (noteClaim_same choices active committed (.inl elsewhere))
  | claimed manager free active uncommitted deadline owned tried =>
    change after.transport = manager at transport
    rw [← transport] at active uncommitted deadline owned
    have claimed : claims before after = true := by
      obtain ⟨kind, here⟩ := Option.ne_none_iff_exists'.mp active
      unfold claims
      rw [free, here]
      rfl
    refine ⟨flags, owned, fun held => absurd (uncommitted.symm.trans held) Bool.false_ne_true, fun _ _ => ?_⟩
    unfold noteClaim
    dsimp only
    rw [if_pos claimed]
    exact deadline
  | searched manager free idle committed owned tried =>
    change after.transport = manager at transport
    rw [← transport] at idle committed owned
    have uncommitted := rules.flags.uncommitted free
    exact ⟨flags, owned, fun held => absurd ((committed.trans uncommitted).symm.trans held) Bool.false_ne_true,
      fun active => absurd idle active⟩

theorem Rules.committed (rules : Rules config before claim) (flags : FlagsAgree after)
    (waits : before.runtime.sessionState = .negotiating)
    (transport : after.transport = irisTransportCommit config before.transport choices.link)
    (elsewhere : before.phase.isReopening = false) :
    Rules config after (noteClaim claim before (.task choices) after) := by
  have uncommitted : before.transport.committed = false := by
    refine Bool.eq_false_iff.mpr fun held => ?_
    have ready := rules.flags.committed held
    rw [rules.flags.helloAcked, waits] at ready
    contradiction
  obtain ⟨owned, active⟩ := irisTransportCommit_owned config rules.owned choices.link
  rw [← transport] at owned active
  by_cases idle : before.transport.active = none
  · have same : after.transport = before.transport := by
      rw [transport, irisTransportCommit, if_pos (.inl idle)]
    refine rules.kept config flags owned active ?_ ?_ ?_ ?_
    · rw [same]
    · rw [same]
    · intro kind
      rw [same]
    · exact noteClaim_same choices active (by rw [same]) (.inl elsewhere)
  · have stopped : after.transport =
        stopLosers config { before.transport with committed := true, claimDeadlineUs := 0 } choices.link := by
      rw [transport, irisTransportCommit, if_neg]
      rw [uncommitted]
      simpa using idle
    have opened : Owned { before.transport with committed := true, claimDeadlineUs := 0 } :=
      ⟨rules.owned.reported, rules.owned.running⟩
    have held : after.transport.committed = true := by
      rw [stopped]
      exact (stopLosers_owned config opened choices.link).2.2
    refine ⟨flags, owned, fun _ => ?_, fun _ free => absurd (free.symm.trans held) Bool.false_ne_true⟩
    unfold noteClaim
    dsimp only
    rw [uncommitted, held, stopped]
    exact stopLosers_down config _ choices.link

theorem Rules.renewed (rules : Rules config before claim) (flags : FlagsAgree after)
    (here : before.phase.isReopening = true) (goes : after.phase.isReopening = false)
    (transport : after.transport = irisTransportRenewClaim config before.transport choices.link.now) :
    Rules config after (noteClaim claim before (.task choices) after) := by
  have claimed : claims before after = true := by
    unfold claims
    rw [here, goes, Bool.not_false, Bool.and_true, Bool.or_true]
  have renewing : before.transport.active ≠ none := by
    have resting := rules.flags.resting (by intro poll; rw [poll] at here; contradiction)
    exact (rules.flags.owned (by intro ending; rw [ending] at here; contradiction)).mpr resting
  have shape : after.transport = { before.transport with
      committed := false
      claimDeadlineUs := choices.link.now + config.claimTimeoutUs } := by
    rw [transport, irisTransportRenewClaim, if_neg renewing]
  refine ⟨flags, ?_, ?_, ?_⟩
  · rw [shape]
    exact ⟨rules.owned.reported, rules.owned.running⟩
  · intro held
    rw [shape] at held
    contradiction
  · intro _ _
    unfold noteClaim
    dsimp only
    rw [if_pos claimed, shape]

theorem Rules.task {device : DeviceState} (rules : Rules config device claim) (choices : Choices) :
    Rules config (taskStep config device choices)
      (noteClaim claim device (.task choices) (taskStep config device choices)) := by
  have flags := (taskStep_moves config device choices rules.flags.reported).agrees config rules.flags
  cases taskStep_transport config device choices rules.flags.reported with
  | polled phase transport => exact rules.polled config flags phase transport
  | closed closes elsewhere =>
    obtain ⟨active, committed⟩ := closes.owner
    exact rules.kept config flags (rules.owned.closes closes) active committed (closes_deadline closes)
      (closes_started closes) (noteClaim_same choices active committed (.inl elsewhere))
  | committed waits transport elsewhere => exact rules.committed config flags waits transport elsewhere
  | renewed here goes transport => exact rules.renewed config flags here goes transport

/-- A step of another task: it leaves the session and the protocol task where they are. -/
theorem Rules.aside {claim noted : Claim} (rules : Rules config before claim)
    (same : SameSession before.runtime after.runtime) (transport : after.transport = before.transport)
    (phase : after.phase = before.phase) (quiet : noted = claim) : Rules config after noted := by
  have flags : FlagsAgree after := by
    refine rules.flags.stays same ?_ (by rw [transport]) (by rw [transport]) (by rw [phase]) ?_
    · rw [transport]
      exact rules.flags.reported
    · rw [phase]
      exact rules.flags.resting
  refine rules.kept config flags ?_ (by rw [transport]) (by rw [transport]) (by rw [transport]) ?_ quiet
  · rw [transport]
    exact rules.owned
  · intro kind
    rw [transport]

theorem Rules.line {device : DeviceState} (rules : Rules config device claim) (hostOpen : Bool) :
    Rules config { device with transport := { device.transport with usb := lineState device.transport.usb hostOpen } }
      claim := by
  have line : (lineState device.transport.usb hostOpen).driverStarted = device.transport.usb.driverStarted ∧
      (lineState device.transport.usb hostOpen).reportedLinkUp = device.transport.usb.reportedLinkUp := by
    unfold lineState
    split <;> exact ⟨rfl, rfl⟩
  refine rules.kept config ?_ ?_ rfl rfl rfl ?_ rfl
  · exact rules.flags.stays ⟨rfl, rfl, rfl, rfl⟩ (rules.flags.reported.same rfl rfl) rfl rfl Iff.rfl rules.flags.resting
  · refine rules.owned.of_other .usb rfl ?_ (line.2.trans (rules.owned.reported .usb)) ?_
    · intro other apart
      cases other <;> first | rfl | exact absurd rfl apart
    · intro here
      exact line.1.trans (rules.owned.running .usb here)
  · intro kind
    cases kind with
    | usb => exact line.1
    | tcp => rfl
    | usbSerialJtag => rfl

theorem Rules.next {device after : DeviceState} {event : DeviceEvent} (rules : Rules config device claim)
    (step : ownersNext config device event = some after) :
    Rules config after (noteClaim claim device event after) := by
  cases event with
  | task choices =>
    unfold ownersNext at step
    dsimp only at step
    split at step
    next =>
      cases step
      exact rules.task config choices
    obtain ⟨result, moved, rfl⟩ := Option.map_eq_some_iff.mp step
    exact rules.aside config (callStep_untouched moved).sameInput.toSameSession rfl rfl
      (noteClaim_same choices rfl rfl (.inr rfl))
  | worker input =>
    obtain ⟨result, moved, rfl⟩ := Option.map_eq_some_iff.mp step
    exact rules.aside config ⟨rfl, rfl, rfl, rfl⟩ rfl rfl rfl
  | line hostOpen =>
    cases step
    exact rules.line config hostOpen
  | schedule type =>
    cases step
    exact rules.aside config (scheduleEvent_untouched _ _).sameInput.toSameSession rfl rfl rfl
  | facts healthy previousBootCrash coreDumpPresent crashLoopTriggered =>
    cases step
    exact rules.aside config ⟨rfl, rfl, rfl, rfl⟩ rfl rfl rfl

theorem startKind_up (manager : TransportManager) {kind : TransportKind} (input : LinkInput)
    (up : (manager.stateFor kind).driverStarted = true) : manager.startKind kind input = manager := by
  cases kind with
  | usb =>
    have same : usbStart manager.usb input = manager.usb := if_pos (.inl up)
    rw [TransportManager.startKind, same]
  | tcp =>
    have same : tcpStart manager.tcp input = manager.tcp := if_pos up
    rw [TransportManager.startKind, same]
  | usbSerialJtag =>
    have same : usbSerialJtagStart manager.usbSerialJtag input = manager.usbSerialJtag := if_pos (.inl up)
    rw [TransportManager.startKind, same]

theorem Detached.startKind {manager : TransportManager} (detached : Detached manager) (kind : TransportKind)
    (input : LinkInput) : Detached (manager.startKind kind input) := by
  have silent : ∀ other, ((manager.startKind kind input).stateFor other).reportedLinkUp = false := by
    intro other
    by_cases same : other = kind
    · subst same
      cases up : (manager.stateFor other).driverStarted with
      | false => exact (startKind_same manager other input up).2 (detached.silent other)
      | true =>
        rw [startKind_up manager input up]
        exact detached.silent other
    · rw [startKind_other manager input same]
      exact detached.silent other
  cases kind with
  | usb | usbSerialJtag => exact ⟨silent, detached.link, detached.client⟩
  | tcp =>
    obtain same | ⟨link, client, _⟩ := tcpStart_cases manager.tcp input
    · exact ⟨silent, (congrArg TransportState.linkUp same).trans detached.link,
        (congrArg TransportState.client same).trans detached.client⟩
    · exact ⟨silent, link, client⟩

theorem irisTransportStart_detached {manager started : TransportManager} {input : LinkInput}
    (detached : Detached manager) (starts : irisTransportStart config manager input = some started) :
    Detached started ∧ started.active = none ∧ started.committed = false := by
  unfold irisTransportStart at starts
  have cleared : Detached { clearActive manager with scanStart := 0, retryAfterUs := fun _ => 0 } :=
    ⟨detached.silent, detached.link, detached.client⟩
  have idle : TransportManager.active { clearActive manager with scanStart := 0, retryAfterUs := fun _ => 0 } = none :=
    rfl
  have open' : TransportManager.committed { clearActive manager with scanStart := 0, retryAfterUs := fun _ => 0 } =
    false := rfl
  revert starts cleared idle open'
  generalize { clearActive manager with scanStart := 0, retryAfterUs := fun _ => 0 } = first
  generalize config.transports = kinds
  intro starts detached idle uncommitted
  induction kinds generalizing first with
  | nil =>
    cases starts
    exact ⟨detached, idle, uncommitted⟩
  | cons kind kinds ih =>
    rw [List.foldlM_cons] at starts
    obtain ⟨next, here, later⟩ := Option.bind_eq_some_iff.mp starts
    obtain ⟨_, ⟨⟩⟩ := Option.ite_none_right_eq_some.mp here
    obtain ⟨active, committed⟩ := startKind_active first kind input
    exact ih _ later (detached.startKind kind input) (active.trans idle) (committed.trans uncommitted)

theorem claimed_rules : Invariant (claimed config) fun state => Rules config state.1 state.2 where
  start := by
    rintro ⟨_, _⟩ ⟨⟨deviceId, bootId, manager, input, transport, detached, starts, rfl⟩, rfl⟩
    obtain ⟨free, idle, uncommitted⟩ := irisTransportStart_detached config detached starts
    have other : transport.active ≠ some .tcp := by rw [idle]; nofun
    refine ⟨⟨rfl, rfl, .reset free.link free.client (free.silent .tcp) other, ?_, nofun, ?_, fun _ => uncommitted, ?_⟩,
      owned_idle idle free.silent, ?_, fun active => absurd idle active⟩
    · exact fun _ => iff_of_false (not_not_intro idle) Bool.false_ne_true
    · exact fun running => absurd rfl running
    · exact fun held => absurd (uncommitted.symm.trans held) Bool.false_ne_true
    · exact fun held => absurd (uncommitted.symm.trans held) Bool.false_ne_true
  step := by
    rintro ⟨before, claim⟩ event ⟨after, noted⟩ rules ⟨step, note⟩
    dsimp only at note
    subst note
    exact rules.next config step

/-- The transport whose link is reported is the active one, the session is open exactly while there is one, and its
claim runs out a timeout behind its last renewal. After a commit the other transports are stopped, but for a
USB-Serial-JTAG whose driver refused to be uninstalled then. A poll gives up a claim that has run out, tries to start
what does not run while there is no active link, and claims a link that waits. -/
theorem transport_ownership {device : DeviceState} {claim : Claim}
    (reached : Reachable (claimed config) (device, claim)) :
    (∀ kind, (device.transport.stateFor kind).reportedLinkUp = true ↔ device.transport.active = some kind) ∧
    (device.phase = .poll → (device.runtime.sessionState ≠ .disconnected ↔ device.transport.active ≠ none)) ∧
    (device.transport.committed = true → ∀ kind ∈ config.transports, device.transport.active ≠ some kind →
      (device.transport.stateFor kind).driverStarted = false ∨ kind = .usbSerialJtag ∧ claim.refused = true) ∧
    ∀ choices, device.phase = .poll →
      (device.transport.active ≠ none → device.transport.committed = false →
        claim.claimedUs + config.claimTimeoutUs ≤ choices.link.now →
        (taskStep config device choices).transport.active = none ∧
          (taskStep config device choices).phase = .ending) ∧
      ((taskStep config device choices).transport.active = none → ∀ kind ∈ config.transports,
        ((taskStep config device choices).transport.stateFor kind).driverStarted = true ∨
          choices.link.starts kind = false) ∧
      (device.transport.active = none → ∀ kind ∈ config.transports,
        device.transport.retryAfterUs kind ≤ choices.link.now →
        ((startMissing config device.transport choices.link).stateFor kind).driverStarted = true →
        Offers ((startMissing config device.transport choices.link).stateFor kind) choices.link kind →
        (taskStep config device choices).transport.active ≠ none) := by
  have rules := (claimed_rules config).reachable reached
  refine ⟨?_, ?_, rules.losers, ?_⟩
  · intro kind
    rw [rules.owned.reported kind, decide_eq_true_eq]
  · intro phase
    have owned := rules.flags.owned (by rw [phase]; nofun)
    rw [rules.flags.linkConnected, decide_eq_true_eq] at owned
    exact owned.symm
  intro choices phase
  have polling := irisTransportPoll_polling config rules.owned choices.link
  have taken : taskStep config device choices = pollLink config device choices := by rw [taskStep, phase]
  have transport := pollLink_transport config device choices
  rw [taken]
  refine ⟨?_, ?_, ?_⟩
  · intro held uncommitted expired
    rw [← rules.deadline held uncommitted] at expired
    unfold pollLink
    revert polling
    generalize irisTransportPoll config device.transport choices.link = result
    intro polling
    cases polling with
    | lost manager _ idle => exact ⟨(congrArg TransportManager.active (leaveServices_transport _)).trans idle, rfl⟩
    | kept manager _ _ _ _ _ _ due =>
      obtain committed | early := due
      · exact absurd (uncommitted.symm.trans committed) Bool.false_ne_true
      · exact absurd expired (not_le.mpr early)
    | claimed manager free => exact absurd free held
    | searched manager free => exact absurd free held
  · rw [transport]
    intro idle
    revert polling idle
    generalize irisTransportPoll config device.transport choices.link = result
    intro polling idle
    cases polling with
    | lost manager held idle uncommitted owned tried => exact tried
    | kept manager held active => exact absurd (active.symm.trans idle) held
    | claimed manager free active => exact absurd idle active
    | searched manager free idle committed owned tried => exact tried
  · intro idle kind member due started offers
    have connected := irisTransportPoll_claims config rules.owned idle member due started offers
    rw [transport]
    revert polling connected
    generalize irisTransportPoll config device.transport choices.link = result
    intro polling connected
    cases polling with
    | lost => contradiction
    | kept => contradiction
    | claimed manager free active => exact active
    | searched => contradiction

end task

def tcpAndJtag : Config := { tcpOnly with transports := [.tcp, .usbSerialJtag] }

/-- The device behind `iris_transport_start`, with every transport running. -/
def listeningDevice : DeviceState :=
  { DeviceState.initial [] 0 with
    transport := (irisTransportStart tcpAndJtag .initial Choices.quiet.link).getD .initial }

theorem listeningDevice_starts : (owners tcpAndJtag).start listeningDevice := by
  refine ⟨[], 0, .initial, Choices.quiet.link, _, ⟨?_, rfl, rfl⟩, rfl, rfl⟩
  intro kind
  cases kind <;> rfl

/-- A host is authenticated over TCP, and the driver of the USB-Serial-JTAG is uninstalled. -/
theorem transport_ownership_over_tcp : ∃ (device : DeviceState)
    (claim : Claim), device.transport.active = some .tcp ∧ claim.refused = false ∧
    (device.transport.stateFor .usbSerialJtag).driverStarted = false := by
  obtain ⟨⟨device, claim⟩, run, checked⟩ : ∃ state,
      Run (claimed tcpAndJtag) (listeningDevice, ⟨0, false⟩) readyRun state ∧
      decide (state.1.transport.active = some .tcp ∧ state.1.transport.committed = true ∧
        state.2.refused = false) = true := by
    unfold claimed owners
    rw [System.recorded_ofPartial]
    exact Run.of_check (by decide +kernel)
  obtain ⟨active, committed, agreed⟩ := of_decide_eq_true checked
  have reached : Reachable (claimed tcpAndJtag) (device, claim) :=
    ⟨_, readyRun, ⟨listeningDevice_starts, rfl⟩, run⟩
  obtain ⟨-, -, losers, -⟩ := transport_ownership tcpAndJtag reached
  refine ⟨device, claim, active, agreed, ?_⟩
  obtain down | ⟨-, refused⟩ := losers committed .usbSerialJtag (by decide) (by rw [active]; decide)
  · exact down
  · exact absurd (agreed.symm.trans refused) Bool.false_ne_true

def refusingRun : List DeviceEvent :=
  let refusing := { Choices.quiet with link := { Choices.quiet.link with stops := false } }
  [.task refusing.accepting, .task (refusing.reading helloAck)] ++
    List.replicate (helloAck.length + 11) (.task refusing)

/-- At the head of the loop the session is committed to TCP while the USB-Serial-JTAG still runs. -/
theorem loser_still_runs : ∃ device : DeviceState, Reachable (owners tcpAndJtag) device ∧ device.phase = .poll ∧
    device.transport.committed = true ∧ device.transport.active = some .tcp ∧
    TransportKind.usbSerialJtag ∈ tcpAndJtag.transports ∧
    (device.transport.stateFor .usbSerialJtag).driverStarted = true := by
  obtain ⟨device, run, checked⟩ : ∃ device, Run (owners tcpAndJtag) listeningDevice refusingRun device ∧
      decide (device.phase = .poll ∧ device.transport.committed = true ∧ device.transport.active = some .tcp ∧
        (device.transport.stateFor .usbSerialJtag).driverStarted = true) = true :=
    Run.of_check (by decide +kernel)
  obtain ⟨phase, committed, active, runs⟩ := of_decide_eq_true checked
  exact ⟨device, ⟨_, _, listeningDevice_starts, run⟩, phase, committed, active, by decide, runs⟩

end EspIris.Device
