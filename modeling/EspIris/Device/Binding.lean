import EspIris.Device.SessionFlags

/-! A session stays on the TCP connection it was opened on, as long as no poll accepts a connection
before it has reported the end of the one before. -/

namespace EspIris.Device
open Codec.Device Machine

section shapes
variable {connection : Option Nat} {device : DeviceState}

/-- The connections of the last session: the one its host was authenticated on, and those it was
fed from or wrote to. -/
structure SessionLink where
  authenticated : Option (Option Nat)
  used : List (Option Nat)

def SessionLink.note (link : SessionLink) : Observation → SessionLink
  | .begun _ _ => ⟨none, []⟩
  | .fed connection _ => { link with used := link.used ++ [connection] }
  | .wrote connection _ => { link with used := link.used ++ [connection] }
  | .authenticated connection _ _ _ => { link with authenticated := some connection }
  | _ => link

def sessionLink (log : List Observation) : SessionLink := log.foldl SessionLink.note ⟨none, []⟩

theorem sessionLink_snoc (log : List Observation) (observation : Observation) :
    sessionLink (log ++ [observation]) = (sessionLink log).note observation := by
  simp [sessionLink, List.foldl_append]

def Observation.Uses (connection : Option Nat) : Observation → Prop
  | .begun _ _ => False
  | .fed other _ | .wrote other _ | .authenticated other _ _ _ => other = connection
  | _ => True

structure SessionLink.Of (link : SessionLink) (connection : Option Nat) : Prop where
  used : ∀ other ∈ link.used, other = connection
  authenticated : ∀ other, link.authenticated = some other → other = connection

theorem SessionLink.Of.note {link : SessionLink} (known : link.Of connection) {observation : Observation}
    (uses : observation.Uses connection) : (link.note observation).Of connection := by
  have added {other : Option Nat} (same : other = connection) :
      SessionLink.Of { link with used := link.used ++ [other] } connection := by
    refine ⟨fun one inside => ?_, known.authenticated⟩
    rcases List.mem_append.mp inside with earlier | last
    · exact known.used one earlier
    · exact (List.mem_singleton.mp last).trans same
  cases observation with
  | begun => exact uses.elim
  | fed => exact added uses
  | wrote => exact added uses
  | authenticated => exact ⟨known.used, fun other same => (Option.some.inj same).symm.trans uses⟩
  | _ => exact known

theorem SessionLink.note_isSome {link : SessionLink} {observation : Observation} (uses : observation.Uses connection)
    (known : link.authenticated.isSome = true) :
    (link.note observation).authenticated.isSome = true := by
  cases observation with
  | begun => exact uses.elim
  | authenticated => rfl
  | _ => exact known

theorem sessionLink_append {log more : List Observation} (known : (sessionLink log).Of connection)
    (uses : ∀ other ∈ more, other.Uses connection) :
    (sessionLink (log ++ more)).Of connection ∧
      ((sessionLink log).authenticated.isSome = true → (sessionLink (log ++ more)).authenticated.isSome = true) := by
  induction more generalizing log with
  | nil => exact ⟨by rwa [List.append_nil], by rw [List.append_nil]; exact id⟩
  | cons first more ih =>
    have head := uses first (by simp)
    obtain ⟨of, authenticated⟩ := ih (by rw [sessionLink_snoc]; exact known.note head)
      fun other inside => uses other (List.mem_cons_of_mem _ inside)
    rw [List.append_assoc, List.singleton_append, sessionLink_snoc] at authenticated
    rw [List.append_assoc, List.singleton_append] at of
    exact ⟨of, fun held => authenticated (SessionLink.note_isSome head held)⟩

structure Bound (device : DeviceState) (connection : Option Nat) : Prop where
  known : (sessionLink device.log).Of connection
  ready : device.runtime.sessionState = .ready → (sessionLink device.log).authenticated.isSome = true
  link : device.transport.active ≠ none →
    linkConnection device.transport = connection ∨ ¬ Carries device.transport
  source : device.rxFrom = connection ∨ device.runtime.rxPending = [] ∧ device.phase.between = true

theorem Bound.carried (bound : Bound device connection) (active : device.transport.active ≠ none)
    (carries : Carries device.transport) :
    linkConnection device.transport = connection := (bound.link active).resolve_right (not_not.mpr carries)

theorem Bound.feeding (bound : Bound device connection) (inside : device.phase.between = false) :
    device.rxFrom = connection := by
  rcases bound.source with same | ⟨-, between⟩
  · exact same
  · exact absurd (inside.symm.trans between) Bool.false_ne_true

theorem Bound.stays {before after : DeviceState} {connection : Option Nat} (bound : Bound before connection)
    {more : List Observation} (log : after.log = before.log ++ more) (uses : ∀ other ∈ more, other.Uses connection)
    (state : after.runtime.sessionState = before.runtime.sessionState)
    (link : after.transport.active ≠ none →
      linkConnection after.transport = connection ∨ ¬ Carries after.transport)
    (source : after.rxFrom = connection ∨ after.runtime.rxPending = [] ∧ after.phase.between = true) :
    Bound after connection := by
  obtain ⟨known, authenticated⟩ := sessionLink_append bound.known uses
  rw [← log] at known authenticated
  exact ⟨known, fun ready => authenticated (bound.ready (state.symm.trans ready)), link, source⟩

theorem Bound.closes (bound : Bound device connection) {transport : TransportManager}
    (closes : Closes device.transport transport) (active : transport.active ≠ none) :
    linkConnection transport = connection ∨ ¬ Carries transport := by
  rcases closes with rfl | ⟨tcp, rfl⟩
  · exact bound.link active
  · exact .inr fun carries => carries tcp rfl

/-- Nor does a manager that keeps its active transport and that transport's client. -/
theorem Bound.keeps (bound : Bound device connection) {transport : TransportManager}
    (active : transport.active = device.transport.active)
    (client : device.transport.active = some .tcp → transport.tcp.client = device.transport.tcp.client)
    (owned : transport.active ≠ none) : linkConnection transport = connection ∨ ¬ Carries transport := by
  have held := bound.link (active ▸ owned)
  simp only [linkConnection, Carries] at held ⊢
  rw [active]
  by_cases onTcp : device.transport.active = some .tcp
  · rwa [client onTcp]
  · rw [if_neg onTcp] at held ⊢
    exact held.imp id fun refused carries => refused fun isTcp => absurd isTcp onTcp

theorem Bound.writes (bound : Bound device connection) (active : device.transport.active ≠ none)
    {wrote : List Observation} (writes : Writes device.transport wrote) :
    ∀ other ∈ wrote, other.Uses connection := by
  rcases writes with rfl | ⟨⟨count, rfl⟩, carries⟩
  · simp
  · simpa [Observation.Uses] using bound.carried active carries

theorem executor_uses (traces : List Trace) (connection : Option Nat) :
    ∀ other ∈ traces.map Observation.executor, other.Uses connection := by
  intro other inside
  obtain ⟨trace, -, rfl⟩ := List.mem_map.mp inside
  trivial

def ReplacesUnreported (device : DeviceState) (choices : Choices) : Prop :=
  device.phase = .poll ∧ device.mailbox.call = .idle ∧ device.transport.tcp.reportedLinkUp = true ∧
    Accepts device.transport.tcp choices.link

def NoReplacement (device : DeviceState) : DeviceEvent → Prop
  | .task choices => ¬ ReplacesUnreported device choices
  | _ => True

instance (device : DeviceState) (choices : Choices) : Decidable (ReplacesUnreported device choices) :=
  inferInstanceAs (Decidable (_ ∧ _ ∧ _ ∧ _ ∧ _ ∧ _))

instance (device : DeviceState) : (event : DeviceEvent) → Decidable (NoReplacement device event)
  | .task choices => inferInstanceAs (Decidable (¬ ReplacesUnreported device choices))
  | .worker _ => isTrue trivial
  | .line _ => isTrue trivial
  | .schedule _ => isTrue trivial
  | .facts _ _ _ _ => isTrue trivial

end shapes

section task
variable (config : Config)

theorem SessionLink.Of.nothing (connection : Option Nat) : SessionLink.Of ⟨none, []⟩ connection :=
  ⟨fun _ inside => (by cases inside), fun _ none => (by cases none)⟩

theorem hellos_use {more : List Observation} {hello : Option (List UInt8)} (connection : Option Nat)
    (hellos : more = [] ∨ more = [.hello hello]) : ∀ other ∈ more, other.Uses connection := by
  rcases hellos with rfl | rfl <;> simp [Observation.Uses]

theorem Handled.bound {before after : DeviceState} {connection : Option Nat} (agree : FlagsAgree before)
    (bound : Bound before connection) {feed later : Feed} (phase : before.phase = .feeding feed) {link : LinkInput}
    (handled : Handled config before later link after) : Bound after connection := by
  have source : before.rxFrom = connection := bound.feeding (by rw [phase]; rfl)
  cases handled with
  | kept runtime same =>
    exact bound.stays (List.append_nil _).symm (by simp) same.sessionState bound.link (.inl source)
  | served frame runtime mailbox issued same =>
    exact bound.stays rfl (by simp [Observation.Uses]) same.sessionState bound.link (.inl source)
  | accepted frame runtime psaSucceeds accepts waits session ready linkConnected helloAcked rxPending =>
    obtain ⟨-, active, tcp⟩ := irisTransportCommit_cases config before.transport link agree.reported
    have uses : ∀ other ∈ [Observation.authenticated before.rxFrom before.runtime.sessionId before.challenge
        frame.payload, .ready], other.Uses connection := by simp [Observation.Uses, source]
    refine ⟨(sessionLink_append bound.known uses).1, fun _ => ?_, bound.keeps active fun onTcp => ?_, .inl source⟩
    · dsimp only
      rw [← List.singleton_append, ← List.append_assoc, sessionLink_snoc, sessionLink_snoc]
      rfl
    · rw [tcp onTcp]
  | leaving runtime same =>
    rw [leaveServices_eq]
    exact bound.stays rfl (executor_uses _ _) same.sessionState bound.link (.inl source)

theorem TaskMoves.bound {before after : DeviceState} {choices : Choices} {connection : Option Nat}
    (agree : FlagsAgree before) (bound : Bound before connection) (outside : before.mailbox.call = .idle)
    (allowed : NoReplacement before (.task choices)) (moves : TaskMoves config before choices after) :
    ∃ connection, Bound after connection := by
  have owned (away : before.phase ≠ .poll) (running : before.phase ≠ .ending) : before.transport.active ≠ none :=
    (agree.owned running).mpr (agree.resting away)
  cases moves with
  | connected transport phase reports polled next goes =>
    cases polled with
    | connected _ idle active committed reported =>
      obtain ⟨opened, same, -, -, drawn, log⟩ := startSession_opened config { before with transport := transport }
        choices (agree.closed (by rw [phase]; simp) idle)
      refine ⟨linkConnection transport, ?_, fun ready => ?_, fun _ => .inl (by rw [same]),
        .inr ⟨opened.rxPending, by rw [goes]; split <;> rfl⟩⟩
      · rw [log, sessionLink_snoc]
        exact .nothing _
      · exact absurd (opened.sessionState.symm.trans ready) (by decide)
  | lost transport phase polled =>
    cases polled with
    | disconnected _ owned cleared committed reported =>
      rw [leaveServices_eq]
      refine ⟨connection, bound.stays rfl (executor_uses _ _) rfl (fun active => absurd cleared active) ?_⟩
      exact bound.source.imp id fun idle => ⟨idle.1, rfl⟩
  | still transport phase polled next goes =>
    cases polled with
    | quiet _ active committed reported client =>
      refine ⟨connection, bound.stays (List.append_nil _).symm (by simp) rfl (bound.keeps active fun onTcp => ?_) ?_⟩
      · refine (client (active.trans onTcp)).resolve_right fun accepts => ?_
        have told : before.transport.tcp.reportedLinkUp = true := by rw [agree.reported.reported, onTcp]; rfl
        exact allowed ⟨phase, outside, told, accepts⟩
      · exact bound.source.imp id fun idle => ⟨idle.1, by rw [goes]; split <;> rfl⟩
  | ended phase =>
    have uses : ∀ other ∈ [Observation.ended], other.Uses connection := by simp [Observation.Uses]
    exact ⟨connection, (sessionLink_append bound.known uses).1, fun ready => (by cases ready),
      fun active => absurd (agree.released phase) active, .inr ⟨rfl, rfl⟩⟩
  | pumped burst phase runtime transport rxFrom next wrote reads same closes writes receives goes =>
    have active : before.transport.active ≠ none := owned (by rw [phase]; simp) (by rw [phase]; simp)
    have source : rxFrom = connection ∨ runtime.rxPending = [] := by
      rcases receives with ⟨-, rfl, pending⟩ | ⟨-, rfl, carries⟩
      · refine bound.source.imp id fun idle => ?_
        exact pending.elim (fun kept => kept.trans idle.1) id
      · exact .inl (bound.carried active carries)
    have uses : ∀ other ∈ wrote ++ reads, other.Uses connection := by
      intro other inside
      rcases List.mem_append.mp inside with written | read
      · exact bound.writes active writes other written
      · rcases receives with ⟨rfl, -⟩ | ⟨⟨bytes, rfl⟩, -⟩
        · cases read
        · rw [List.mem_singleton.mp read]
          trivial
    refine ⟨connection, bound.stays rfl uses same.sessionState (bound.closes closes) ?_⟩
    rcases source with kept | nothing
    · exact .inl kept
    · refine .inr ⟨nothing, ?_⟩
      cases next with
      | feeding feed => exact absurd nothing goes.2
      | handled | reopening | ending | drained | finish => exact goes.elim
      | _ => rfl
  | fed feed phase _ feeds =>
    have source : before.rxFrom = connection := bound.feeding (by rw [phase]; rfl)
    cases feeds with
    | finished runtime same =>
      exact ⟨connection, bound.stays (List.append_nil _).symm (by simp) same.sessionState bound.link (.inl source)⟩
    | kept value later next runtime same goes =>
      exact ⟨connection, bound.stays rfl (by simp [Observation.Uses, source]) same.sessionState bound.link (.inl source)⟩
    | completed value frame later runtime _ same handled =>
      have up : before.runtime.linkConnected = true := agree.resting (by rw [phase]; simp)
      have fedAgree : FlagsAgree { before with
          runtime := runtime
          log := before.log ++ [.fed before.rxFrom value, .frame frame] } :=
        agree.stays same.toSameSession agree.reported rfl rfl Iff.rfl fun _ => up
      have fedBound : Bound { before with
          runtime := runtime
          log := before.log ++ [.fed before.rxFrom value, .frame frame] } connection :=
        bound.stays rfl (by simp [Observation.Uses, source]) same.sessionState bound.link (.inl source)
      exact ⟨connection, handled.bound config fedAgree fedBound phase⟩
  | done feed phase runtime next same goes =>
    have source : before.rxFrom = connection := bound.feeding (by rw [phase]; rfl)
    exact ⟨connection, bound.stays (List.append_nil _).symm (by simp) same.sessionState bound.link (.inl source)⟩
  | reopened feed phase begun runtime more begins same hellos =>
    subst begins
    have source : before.rxFrom = connection := bound.feeding (by rw [phase]; rfl)
    obtain ⟨opened, transport, -, rxFrom, drawn, log⟩ := startSession_opened config (resetSession before) choices rfl
    obtain ⟨active, tcp, -⟩ := irisTransportRenewClaim_cases config
      (startSession config (resetSession before) choices).transport choices.link.now
    have known : (sessionLink (startSession config (resetSession before) choices).log).Of connection := by
      rw [log, sessionLink_snoc]
      exact .nothing connection
    rw [transport] at active tcp
    refine ⟨connection, (sessionLink_append known (hellos_use connection hellos)).1, fun ready => ?_,
      bound.keeps (by rw [transport]; exact active) fun _ => (by rw [transport, tcp]; rfl),
      .inl (rxFrom.trans source)⟩
    exact absurd ((same.sessionState.trans opened.sessionState).symm.trans ready) (by decide)
  | produced burst progressed phase runtime more same hellos =>
    have source : before.rxFrom = connection ∨ runtime.rxPending = [] :=
      bound.source.imp id fun idle => same.rxPending.trans idle.1
    exact ⟨connection, bound.stays rfl (hellos_use connection hellos) same.sessionState bound.link
      (source.imp id fun idle => ⟨idle, rfl⟩)⟩
  | drains burst progressed phase ready =>
    exact ⟨connection, bound.stays (List.append_nil _).symm (by simp) rfl bound.link
      (bound.source.imp id fun idle => ⟨idle.1, rfl⟩)⟩
  | filled burst progressed phase runtime same =>
    exact ⟨connection, bound.stays (List.append_nil _).symm (by simp) same.sessionState bound.link
      (bound.source.imp id fun idle => ⟨same.rxPending.trans idle.1, rfl⟩)⟩
  | finished burst progressed phase runtime transport next wrote same closes writes goes =>
    have active : before.transport.active ≠ none := owned (by rw [phase]; simp) (by rw [phase]; simp)
    refine ⟨connection, bound.stays rfl (bound.writes active writes) same.sessionState (bound.closes closes) ?_⟩
    refine bound.source.imp id fun idle => ⟨same.rxPending.trans idle.1, ?_⟩
    rcases goes with rfl | ⟨_, rfl⟩ <;> rfl

theorem DeviceMoves.bound {before after : DeviceState} {event : DeviceEvent} {connection : Option Nat}
    (agree : FlagsAgree before) (bound : Bound before connection) (allowed : NoReplacement before event)
    (moves : DeviceMoves config before event after) : ∃ connection, Bound after connection := by
  cases moves with
  | task choices _ admissible outside moves => exact moves.bound config agree bound outside allowed
  | call choices mailbox runtime traces same step =>
    exact ⟨connection, bound.stays rfl (executor_uses _ _) same.sessionState bound.link
      (bound.source.imp id fun idle => ⟨same.rxPending.trans idle.1, idle.2⟩)⟩
  | worker input mailbox traces step =>
    refine ⟨connection, bound.stays (List.append_assoc _ _ _) (fun other inside => ?_) rfl bound.link bound.source⟩
    rcases List.mem_append.mp inside with picked | traced
    · split at picked
      · rw [List.mem_singleton.mp picked]
        trivial
      · cases picked
    · exact executor_uses traces connection other traced
  | line hostOpen =>
    exact ⟨connection, bound.stays (List.append_nil _).symm (by simp) rfl bound.link bound.source⟩
  | facts event runtime same =>
    exact ⟨connection, bound.stays (List.append_nil _).symm (by simp) same.sessionState bound.link
      (bound.source.imp id fun idle => ⟨same.rxPending.trans idle.1, idle.2⟩)⟩

theorem device_bound : Invariant ((device config).guarded NoReplacement)
    fun state => FlagsAgree state ∧ ∃ connection, Bound state connection :=
  ((device_flagsAgree config).guarded NoReplacement).over
    (by
      rintro state ⟨deviceId, bootId, rfl⟩
      exact ⟨none, .nothing none, fun ready => (by cases ready), fun active => absurd rfl active, .inl rfl⟩)
    (by
      rintro before event after agree ⟨connection, bound⟩ ⟨allowed, step⟩
      exact (deviceNext_moves config step agree.reported).bound config agree bound allowed)

end task

/-- All that the last session was fed and wrote was on the connection its host was authenticated
on, and while it is ready the client is that connection or gone. -/
structure OnOneConnection (state : DeviceState) : Prop where
  used : ∀ connection, (sessionLink state.log).authenticated = some connection →
    ∀ other ∈ (sessionLink state.log).used, other = connection
  client : state.runtime.sessionState = .ready → state.transport.active ≠ none →
    (sessionLink state.log).authenticated = some (linkConnection state.transport) ∨
      state.transport.active = some .tcp ∧ state.transport.tcp.client = none

/-- A session never changes its connection, in every run in which no poll accepts a connection
while the end of the last one is still to be reported. -/
theorem session_on_one_connection (config : Config) (state : DeviceState)
    (reached : Reachable ((device config).guarded NoReplacement) state) : OnOneConnection state := by
  obtain ⟨agree, connection, bound⟩ := (device_bound config).reachable reached
  refine ⟨fun authenticated isThat other inside => ?_, fun ready active => ?_⟩
  · rw [bound.known.authenticated authenticated isThat]
    exact bound.known.used other inside
  · obtain ⟨authenticated, isThat⟩ := Option.isSome_iff_exists.mp (bound.ready ready)
    rcases bound.link active with same | gone
    · left
      rw [isThat, same, bound.known.authenticated authenticated isThat]
    · right
      simpa [Carries] using gone

def DeviceState.isReady (state : DeviceState) : Bool := state.runtime.sessionState = .ready

theorem session_on_one_connection_when_ready :
    ∃ state, Reachable ((device tcpOnly).guarded NoReplacement) state ∧ state.runtime.sessionState = .ready ∧
      OnOneConnection state := by
  obtain ⟨state, run, isReady⟩ : ∃ state, Run ((device tcpOnly).guarded NoReplacement) (DeviceState.initial [] 0)
      readyRun state ∧ state.isReady = true := Run.of_guarded_check (by decide +kernel)
  have reached : Reachable ((device tcpOnly).guarded NoReplacement) state := ⟨_, readyRun, ⟨[], 0, rfl⟩, run⟩
  exact ⟨state, reached, of_decide_eq_true isReady, session_on_one_connection tcpOnly state reached⟩

def takeoverRun : List DeviceEvent :=
  readyRun ++ List.replicate 2 (.task Choices.quiet) ++
    List.replicate 5 (.task { Choices.quiet with received := .closed }) ++
    [.task Choices.quiet.accepting, .task (Choices.quiet.reading ping)] ++
    List.replicate ping.length (.task Choices.quiet)

def DeviceState.isTakenOver (state : DeviceState) : Bool :=
  (sessionLink state.log).authenticated = some (some 0) ∧ some 1 ∈ (sessionLink state.log).used ∧
    (sessionRecord state.log).frames.length = 2

/-- The PING of the second connection is dispatched in the session of the first. -/
theorem session_taken_over :
    ∃ state, Reachable (device tcpOnly) state ∧ ¬ OnOneConnection state ∧
      (sessionLink state.log).authenticated = some (some 0) ∧ some 1 ∈ (sessionLink state.log).used ∧
      (sessionRecord state.log).frames.length = 2 := by
  obtain ⟨state, run, isTaken⟩ : ∃ state, Run (device tcpOnly) (DeviceState.initial [] 0) takeoverRun state ∧
      state.isTakenOver = true := Run.of_check (by decide +kernel)
  obtain ⟨authenticated, second, dispatched⟩ := of_decide_eq_true isTaken
  refine ⟨state, ⟨_, takeoverRun, ⟨[], 0, rfl⟩, run⟩, fun one => ?_, authenticated, second, dispatched⟩
  exact absurd (one.used (some 0) authenticated (some 1) second) (by decide)

end EspIris.Device
