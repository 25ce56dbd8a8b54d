import EspIris.Device.Ownership
import EspIris.Device.Binding

/-! The authentication gate: which frames are served, which requests the executor takes up, and how
a session becomes ready, read off what can be seen of the device. -/

namespace EspIris.Device
open Codec.Device Machine

/-- What the log says of the session: its number, the challenges it published, whether its host was
authenticated, and the requests it had accepted; and every request that was ever taken up. -/
structure GateRecord where
  session : Option UInt32
  shown : List (List UInt8)
  authenticated : Bool
  ready : Bool
  accepted : List Nat
  picked : List Nat

def GateRecord.closed (picked : List Nat) : GateRecord where
  session := none
  shown := []
  authenticated := false
  ready := false
  accepted := []
  picked := picked

def GateRecord.note (gate : GateRecord) : Observation → GateRecord
  | .begun session _ => { GateRecord.closed gate.picked with session := some session }
  | .ended => .closed gate.picked
  | .hello challenge => { gate with shown := gate.shown ++ challenge.toList }
  | .authenticated _ _ _ _ => { gate with authenticated := true }
  | .ready => { gate with ready := true }
  | .executor (.accepted ticket _) => { gate with accepted := ticket :: gate.accepted }
  | .picked ticket => { gate with picked := ticket :: gate.picked }
  | _ => gate

def gateRecord (log : List Observation) : GateRecord := log.foldl GateRecord.note (.closed [])

def ProofAccepted (config : Config) (connection : Option Nat) (session : UInt32) (challenge payload : List UInt8) :
    Prop :=
  ∃ runtime kind psaSucceeds, runtime.sessionId = session ∧ (kind = some .tcp ↔ connection.isSome = true) ∧
    irisServicesAuthenticate config kind runtime challenge payload psaSucceeds = EspErr.ok

def Allowed (config : Config) (gate : GateRecord) : Observation → Prop
  | .served frame => gate.ready = true ∧ gate.session = some frame.header.sessionId
  | .executor (.accepted _ session) => gate.ready = true ∧ gate.session = some session
  | .picked ticket => gate.ready = true ∧ ticket ∈ gate.accepted
  | .executor (.entered ticket) => ticket ∈ gate.picked
  | .authenticated connection session challenge payload => gate.session = some session ∧ gate.ready = false ∧
      (∀ shown ∈ gate.shown, shown = challenge) ∧ ProofAccepted config connection session challenge payload
  | .ready => gate.authenticated = true
  | _ => True

def GatedFrom (config : Config) : GateRecord → List Observation → Prop
  | _, [] => True
  | gate, observation :: more => Allowed config gate observation ∧ GatedFrom config (gate.note observation) more

def Gated (config : Config) (log : List Observation) : Prop := GatedFrom config (.closed []) log

section task
variable (config : Config)

theorem gatedFrom_append (gate : GateRecord) (log more : List Observation) :
    GatedFrom config gate (log ++ more) ↔ GatedFrom config gate log ∧
      GatedFrom config (log.foldl GateRecord.note gate) more := by
  induction log generalizing gate with
  | nil => simp [GatedFrom]
  | cons first log ih => simp only [List.cons_append, GatedFrom, ih, List.foldl_cons, and_assoc]

theorem gateRecord_append (log more : List Observation) :
    gateRecord (log ++ more) = more.foldl GateRecord.note (gateRecord log) := List.foldl_append

theorem gated_append {log more : List Observation} (gated : Gated config log)
    (allowed : GatedFrom config (gateRecord log) more) : Gated config (log ++ more) :=
  (gatedFrom_append config _ log more).mpr ⟨gated, allowed⟩

def Observation.plain : Observation → Bool
  | .read _ _ | .fed _ _ | .wrote _ _ | .frame _ => true
  | .executor trace => trace.plain
  | _ => false

theorem plain_note {observation : Observation} (plain : observation.plain = true) (gate : GateRecord) :
    gate.note observation = gate ∧ Allowed config gate observation := by
  cases observation with
  | executor trace => cases trace <;> simp_all [Observation.plain, Trace.plain, GateRecord.note, Allowed]
  | read | fed | wrote | frame => exact ⟨rfl, trivial⟩
  | _ => contradiction

theorem plain_all {more : List Observation} (plain : ∀ other ∈ more, other.plain = true) (gate : GateRecord) :
    more.foldl GateRecord.note gate = gate ∧ GatedFrom config gate more := by
  induction more with
  | nil => exact ⟨rfl, trivial⟩
  | cons first more ih =>
    obtain ⟨note, allowed⟩ := plain_note config (plain first (by simp)) gate
    obtain ⟨rest, gated⟩ := ih fun other inside => plain other (List.mem_cons_of_mem _ inside)
    rw [List.foldl_cons, GatedFrom, note]
    exact ⟨rest, allowed, gated⟩

theorem executor_plain {traces : List Trace} (plain : ∀ trace ∈ traces, trace.plain = true) :
    ∀ other ∈ traces.map Observation.executor, other.plain = true := by
  intro other inside
  obtain ⟨trace, isIn, rfl⟩ := List.mem_map.mp inside
  exact plain trace isIn

theorem writes_plain {transport : TransportManager} {wrote : List Observation} (writes : Writes transport wrote) :
    ∀ other ∈ wrote, other.plain = true := by
  rcases writes with rfl | ⟨⟨count, rfl⟩, -⟩ <;> simp [Observation.plain]

theorem receives_plain {device : DeviceState} {runtime : Runtime} {rxFrom : Option Nat} {reads : List Observation}
    (receives : Receives device runtime rxFrom reads) : ∀ other ∈ reads, other.plain = true := by
  rcases receives with ⟨rfl, -⟩ | ⟨⟨bytes, rfl⟩, -⟩ <;> simp [Observation.plain]

def Sourced (device : DeviceState) : Prop :=
  (device.rxFrom.isSome = true ↔ device.transport.active = some .tcp) ∨
    (device.runtime.rxPending = [] ∨ device.phase = .ending) ∧ device.phase.between = true

structure SessionGate (device : DeviceState) : Prop where
  gated : Gated config device.log
  session : device.runtime.linkConnected = true →
    (gateRecord device.log).session = some device.runtime.sessionId
  ready : (gateRecord device.log).ready = decide (device.runtime.sessionState = .ready)
  shown : ∀ challenge ∈ (gateRecord device.log).shown, challenge = device.challenge
  source : Sourced device

def Phase.leaves : Phase → Bool
  | .ending | .reopening _ => true
  | _ => false

structure MailGate (gate : GateRecord) (mailbox : Mailbox) (phase : Phase) : Prop where
  own : Ownership mailbox
  live : Pending mailbox → gate.ready = true ∧ mailbox.ticket ∈ gate.accepted
  entering : mailbox.worker = .entering → mailbox.ticket ∈ gate.picked
  calling : mailbox.call.reserves = true → gate.ready = true ∧ phase.leaves = false
  leaving : phase.leaves = true → (∃ deinit, mailbox.call = .abandoning deinit) ∨ ¬ Pending mailbox

theorem SessionGate.stays {before after : DeviceState} (gate : SessionGate config before) {more : List Observation}
    (log : after.log = before.log ++ more) (plain : ∀ other ∈ more, other.plain = true)
    (same : SameSession before.runtime after.runtime) (challenge : after.challenge = before.challenge)
    (source : Sourced after) : SessionGate config after := by
  obtain ⟨record, allowed⟩ := plain_all config plain (gateRecord before.log)
  rw [← gateRecord_append, ← log] at record
  refine ⟨?_, ?_, ?_, ?_, source⟩
  · rw [log]
    exact gated_append config gate.gated allowed
  · rw [record, same.linkConnected, same.sessionId]
    exact gate.session
  · rw [record, same.sessionState]
    exact gate.ready
  · rw [record, challenge]
    exact gate.shown

theorem Sourced.same {before after : DeviceState} (sourced : Sourced before) (rxFrom : after.rxFrom = before.rxFrom)
    (active : after.transport.active = before.transport.active)
    (rxPending : after.runtime.rxPending = before.runtime.rxPending) (running : before.phase ≠ .ending)
    (between : before.phase.between = true → after.phase.between = true) : Sourced after := by
  rcases sourced with left | ⟨empty, inside⟩
  · left
    rw [rxFrom, active]
    exact left
  · exact .inr ⟨.inl (rxPending.trans (empty.resolve_right running)), between inside⟩

theorem Sourced.during {before after : DeviceState} (sourced : Sourced before) (rxFrom : after.rxFrom = before.rxFrom)
    (transport : after.transport = before.transport) (rxPending : after.runtime.rxPending = before.runtime.rxPending)
    (phase : after.phase = before.phase) : Sourced after := by
  unfold Sourced
  rw [rxFrom, transport, rxPending, phase]
  exact sourced

theorem Sourced.feeding {device : DeviceState} (sourced : Sourced device) (inside : device.phase.between = false) :
    device.rxFrom.isSome = true ↔ device.transport.active = some .tcp := by
  rcases sourced with left | ⟨-, between⟩
  · exact left
  · exact absurd (inside.symm.trans between) Bool.false_ne_true

theorem linkConnection_isSome {transport : TransportManager} (carries : Carries transport) :
    (linkConnection transport).isSome = true ↔ transport.active = some .tcp := by
  unfold linkConnection
  split
  next tcp => exact iff_of_true (Option.isSome_iff_ne_none.mpr (carries tcp)) tcp
  next other => exact iff_of_false (by simp) other

theorem MailGate.goesOn {gate : GateRecord} {mailbox : Mailbox} {phase next : Phase}
    (mail : MailGate gate mailbox phase) (outside : mailbox.call = .idle) (goes : next.leaves = false) :
    MailGate gate mailbox next := by
  refine ⟨mail.own, mail.live, mail.entering, fun reserves => ?_, fun leaves => ?_⟩
  · rw [outside] at reserves
    contradiction
  · exact absurd (goes.symm.trans leaves) Bool.false_ne_true

theorem MailGate.idle {gate after : GateRecord} {mailbox : Mailbox} {phase next : Phase}
    (mail : MailGate gate mailbox phase) (outside : mailbox.call = .idle) (none : ¬ Pending mailbox)
    (picked : after.picked = gate.picked) : MailGate after mailbox next := by
  refine ⟨mail.own, fun pending => absurd pending none, ?_, fun reserves => ?_, fun _ => .inr none⟩
  · rw [picked]
    exact mail.entering
  · rw [outside] at reserves
    contradiction

structure Gates (device : DeviceState) : Prop where
  session : SessionGate config device
  mail : MailGate (gateRecord device.log) device.mailbox device.phase

theorem Gates.stays {before after : DeviceState} (gates : Gates config before) (outside : before.mailbox.call = .idle)
    {more : List Observation} (log : after.log = before.log ++ more) (plain : ∀ other ∈ more, other.plain = true)
    (same : SameSession before.runtime after.runtime) (challenge : after.challenge = before.challenge)
    (mailbox : after.mailbox = before.mailbox) (source : Sourced after) (goes : after.phase.leaves = false) :
    Gates config after := by
  refine ⟨gates.session.stays config log plain same challenge source, ?_⟩
  have record := (plain_all config plain (gateRecord before.log)).1
  rw [log, gateRecord_append, record, mailbox]
  exact gates.mail.goesOn outside goes

/-- A step that ends the session: the executor is told before it is reset. -/
theorem Gates.leaves {before : DeviceState} (gates : Gates config before) (agree : FlagsAgree before)
    (outside : before.mailbox.call = .idle) (runtime : Runtime) (transport : TransportManager)
    (same : SameInput before.runtime runtime) (next : Phase)
    (source : Sourced { leaveServices { before with runtime := runtime, transport := transport } with phase := next }) :
    Gates config { leaveServices { before with runtime := runtime, transport := transport } with phase := next } := by
  obtain ⟨own, pending, ticket, worker, reserves, withdraws, plain⟩ := abandonStart_ownership false gates.mail.own outside
  have silent : ∀ trace ∈ (if runtime.helloAcked then (abandonStart before.mailbox false).2 else []),
      trace.plain = true := by
    intro trace inside
    split at inside
    · exact plain trace inside
    · cases inside
  have record := (plain_all config (executor_plain silent) (gateRecord before.log)).1
  rw [leaveServices_eq] at source ⊢
  refine ⟨gates.session.stays config rfl (executor_plain silent) same.toSameSession rfl source, ?_⟩
  rw [gateRecord_append]
  dsimp only
  rw [record]
  split
  next ready =>
    refine ⟨own, fun live => ?_, fun entering => ?_, fun calls => ?_, fun _ => withdraws⟩
    · rw [ticket]
      exact gates.mail.live (pending live)
    · rw [ticket]
      exact gates.mail.entering (worker.symm.trans entering)
    · exact absurd (reserves.symm.trans calls) Bool.false_ne_true
  next waits =>
    refine gates.mail.idle outside (fun live => waits ?_) rfl
    rw [same.helloAcked, agree.helloAcked, ← gates.session.ready]
    exact (gates.mail.live live).1

theorem Handled.gates {before after : DeviceState} {feed later : Feed} {link : LinkInput} (agree : FlagsAgree before)
    (gates : Gates config before) (outside : before.mailbox.call = .idle) (phase : before.phase = .feeding feed)
    (handled : Handled config before later link after) : Gates config after := by
  have running : before.phase ≠ .ending := by rw [phase]; simp
  have up : before.runtime.linkConnected = true := agree.resting (by rw [phase]; simp)
  have source := gates.session.source.feeding (by rw [phase]; rfl)
  have session := gates.session.session up
  cases handled with
  | kept runtime same =>
    exact gates.stays config outside (List.append_nil _).symm (by simp) same.toSameSession rfl rfl (.inl source) rfl
  | served frame runtime mailbox issued same ready number dispatch =>
    have isReady : (gateRecord before.log).ready = true := by
      rw [gates.session.ready, ← agree.helloAcked]
      exact ready
    have record : gateRecord (before.log ++ [.served frame]) = gateRecord before.log := gateRecord_append _ _
    refine ⟨⟨gated_append config gates.session.gated ⟨⟨isReady, number ▸ session⟩, trivial⟩, fun _ => ?_, ?_, ?_,
      .inl source⟩, ?_⟩
    · dsimp only
      rw [record, same.sessionId]
      exact session
    · dsimp only
      rw [record, same.sessionState]
      exact gates.session.ready
    · dsimp only
      rw [record]
      exact gates.session.shown
    · dsimp only
      rw [record]
      rcases dispatch with rfl | rfl
      · exact gates.mail.goesOn outside rfl
      · obtain ⟨own, pending, ticket, worker⟩ :=
          dispatchStart_ownership config.otaEnabled frame gates.mail.own outside
        refine ⟨own, fun live => ?_, fun entering => ?_, fun _ => ⟨isReady, rfl⟩, fun leaves => ?_⟩
        · rw [ticket]
          exact gates.mail.live (pending live)
        · rw [ticket]
          exact gates.mail.entering (worker.symm.trans entering)
        · contradiction
  | accepted frame runtime psaSucceeds accepts waits number ready linkConnected helloAcked rxPending =>
    have notReady : (gateRecord before.log).ready = false := by
      rw [gates.session.ready, waits]
      rfl
    have owned : before.transport.active ≠ none := (agree.owned running).mpr up
    have kind : irisTransportKind config before.transport = before.transport.active := by
      unfold irisTransportKind
      cases active : before.transport.active with
      | none => exact absurd active owned
      | some kind => rfl
    have proof : ProofAccepted config before.rxFrom before.runtime.sessionId before.challenge frame.payload := by
      refine ⟨before.runtime, _, psaSucceeds, rfl, ?_, accepts⟩
      rw [kind]
      exact source.symm
    have idle : ¬ Pending before.mailbox := by
      intro pending
      exact absurd (notReady.symm.trans (gates.mail.live pending).1) Bool.false_ne_true
    obtain ⟨-, active, -⟩ := irisTransportCommit_cases config before.transport link agree.reported
    have record : gateRecord (before.log ++ [.authenticated before.rxFrom before.runtime.sessionId before.challenge
        frame.payload, .ready]) = { gateRecord before.log with authenticated := true, ready := true } :=
      gateRecord_append _ _
    refine ⟨⟨gated_append config gates.session.gated
      ⟨⟨session, notReady, gates.session.shown, proof⟩, rfl, trivial⟩, fun _ => ?_, ?_, ?_, .inl ?_⟩, ?_⟩
    · dsimp only
      rw [record, number]
      exact session
    · dsimp only
      rw [record, ready]
      rfl
    · dsimp only
      rw [record]
      exact gates.session.shown
    · dsimp only
      rw [active]
      exact source
    · dsimp only
      rw [record]
      exact gates.mail.idle outside idle rfl
  | leaving runtime same =>
    exact gates.leaves config agree outside runtime before.transport same (.reopening later)
      (.inl (by rw [leaveServices_eq]; exact source))

theorem startSession_gates (device : DeviceState) (choices : Choices) (gated : Gated config device.log)
    (mail : MailGate (gateRecord device.log) device.mailbox device.phase) (outside : device.mailbox.call = .idle)
    (idle : ¬ Pending device.mailbox) (closed : device.runtime.sessionState = .disconnected) (next : Phase)
    (source : Sourced { startSession config device choices with phase := next }) :
    Gates config { startSession config device choices with phase := next } := by
  obtain ⟨opened, -, mailbox, -, drawn, log⟩ := startSession_opened config device choices closed
  have record : gateRecord (startSession config device choices).log =
      { GateRecord.closed (gateRecord device.log).picked with session := some choices.session } := by
    rw [log]
    exact gateRecord_append _ _
  refine ⟨⟨?_, fun _ => ?_, ?_, ?_, source⟩, ?_⟩
  · dsimp only
    rw [log]
    exact gated_append config gated ⟨trivial, trivial⟩
  · dsimp only
    rw [record, opened.sessionId]
  · dsimp only
    rw [record, opened.sessionState]
    rfl
  · dsimp only
    rw [record]
    simp [GateRecord.closed]
  · dsimp only
    rw [record, mailbox]
    exact mail.idle outside idle rfl

theorem resetSession_gates {device : DeviceState} (gates : Gates config device)
    (outside : device.mailbox.call = .idle) (idle : ¬ Pending device.mailbox) (next : Phase)
    (source : Sourced { resetSession device with phase := next }) :
    Gates config { resetSession device with phase := next } := by
  have record : gateRecord (device.log ++ [.ended]) = .closed (gateRecord device.log).picked := gateRecord_append _ _
  refine ⟨⟨gated_append config gates.session.gated ⟨trivial, trivial⟩, fun up => (by cases up), ?_, ?_, source⟩, ?_⟩
  · exact congrArg GateRecord.ready record
  · have shown : (gateRecord (device.log ++ [.ended])).shown = [] := congrArg GateRecord.shown record
    intro challenge inside
    rw [resetSession, shown] at inside
    cases inside
  · change MailGate (gateRecord (device.log ++ [.ended])) device.mailbox next
    rw [record]
    exact gates.mail.idle outside idle rfl

theorem Gates.hello {device sender : DeviceState} (gates : Gates config device) {more : List Observation}
    (outside : device.mailbox.call = .idle)
    (hellos : more = [] ∨ more = [.hello (published config sender)]) (same : sender.challenge = device.challenge)
    {after : DeviceState} (log : after.log = device.log ++ more) (session : SameSession device.runtime after.runtime)
    (challenge : after.challenge = device.challenge) (mailbox : after.mailbox = device.mailbox)
    (source : Sourced after) (goes : after.phase.leaves = false) : Gates config after := by
  rcases hellos with rfl | rfl
  · exact gates.stays config outside log (by simp) session challenge mailbox source goes
  have record : gateRecord after.log = { gateRecord device.log with
      shown := (gateRecord device.log).shown ++ (published config sender).toList } := by
    rw [log]
    exact gateRecord_append _ _
  have own : ∀ one ∈ (published config sender).toList, one = device.challenge := by
    intro one inside
    rw [Option.mem_toList, published, irisServicesAuthChallenge] at inside
    split at inside
    · exact (Option.some.inj inside).symm.trans same
    · cases inside
  refine ⟨⟨?_, ?_, ?_, ?_, source⟩, ?_⟩
  · rw [log]
    exact gated_append config gates.session.gated ⟨trivial, trivial⟩
  · rw [record, session.linkConnected, session.sessionId]
    exact gates.session.session
  · rw [record, session.sessionState]
    exact gates.session.ready
  · rw [record, challenge]
    intro one inside
    exact (List.mem_append.mp inside).elim (gates.session.shown one) (own one)
  · rw [record, mailbox]
    exact ⟨gates.mail.own, gates.mail.live, gates.mail.entering, (gates.mail.goesOn outside goes).calling,
      fun leaves => absurd (goes.symm.trans leaves) Bool.false_ne_true⟩

theorem TaskMoves.gates {before after : DeviceState} {choices : Choices} (agree : FlagsAgree before)
    (gates : Gates config before) (outside : before.mailbox.call = .idle)
    (moves : TaskMoves config before choices after) : Gates config after := by
  have withdrawn (leaves : before.phase.leaves = true) : ¬ Pending before.mailbox := by
    rcases gates.mail.leaving leaves with ⟨deinit, abandoning⟩ | idle
    · rw [outside] at abandoning
      cases abandoning
    · exact idle
  cases moves with
  | connected transport phase reports polled next goes =>
    cases polled with
    | connected _ released active committed reported =>
      have closed := agree.closed (by rw [phase]; simp) released
      have idle : ¬ Pending before.mailbox := by
        intro pending
        have ready := (gates.mail.live pending).1
        rw [gates.session.ready, closed] at ready
        cases ready
      have between : next.between = true := by rw [goes]; split <;> rfl
      obtain ⟨opened, -⟩ := startSession_opened config { before with transport := transport } choices closed
      exact startSession_gates config { before with transport := transport } choices gates.session.gated gates.mail
        outside idle closed next (.inr ⟨.inl opened.rxPending, between⟩)
  | lost transport phase polled =>
    refine gates.leaves config agree outside before.runtime transport (.refl _) .ending ?_
    exact .inr ⟨.inr rfl, rfl⟩
  | still transport phase polled next goes =>
    cases polled with
    | quiet _ active committed reported client =>
      have between : next.between = true := by rw [goes]; split <;> rfl
      refine gates.stays config outside (List.append_nil _).symm (by simp) ⟨rfl, rfl, rfl, rfl⟩ rfl rfl ?_ ?_
      · exact gates.session.source.same rfl active rfl (by rw [phase]; simp) fun _ => between
      · rw [goes]
        split <;> rfl
  | ended phase =>
    exact resetSession_gates config gates outside (withdrawn (by rw [phase]; rfl)) .poll (.inr ⟨.inl rfl, rfl⟩)
  | pumped burst phase runtime transport rxFrom next wrote reads same closes writes receives goes =>
    have plain : ∀ other ∈ wrote ++ reads, other.plain = true := by
      intro other inside
      exact (List.mem_append.mp inside).elim (writes_plain writes other) (receives_plain receives other)
    have source : (rxFrom.isSome = true ↔ transport.active = some .tcp) ∨ runtime.rxPending = [] := by
      rw [closes.owner.1]
      rcases receives with ⟨-, rfl, pending⟩ | ⟨-, rfl, carries⟩
      · rcases gates.session.source with left | ⟨empty, -⟩
        · exact .inl left
        · exact .inr (pending.elim (fun kept => kept.trans (empty.resolve_right (by rw [phase]; simp))) id)
      · exact .inl (linkConnection_isSome carries)
    refine gates.stays config outside rfl plain same rfl rfl ?_ ?_
    · rcases source with left | nothing
      · exact .inl left
      · refine .inr ⟨.inl nothing, ?_⟩
        cases next with
        | feeding feed => exact absurd nothing goes.2
        | handled | reopening | ending | drained | finish => exact goes.elim
        | _ => rfl
    · cases next with
      | reopening | ending => exact goes.elim
      | _ => rfl
  | fed feed phase _ feeds =>
    have source := gates.session.source.feeding (by rw [phase]; rfl)
    cases feeds with
    | finished runtime same =>
      exact gates.stays config outside (List.append_nil _).symm (by simp) same.toSameSession rfl rfl (.inl source) rfl
    | kept value later next runtime same goes =>
      refine gates.stays config outside rfl (by simp [Observation.plain]) same.toSameSession rfl rfl (.inl source) ?_
      rcases goes with rfl | rfl <;> rfl
    | completed value frame later runtime _ same handled =>
      have up : before.runtime.linkConnected = true := agree.resting (by rw [phase]; simp)
      have fedAgree : FlagsAgree { before with
          runtime := runtime
          log := before.log ++ [.fed before.rxFrom value, .frame frame] } :=
        agree.stays same.toSameSession agree.reported rfl rfl Iff.rfl fun _ => up
      have fedGates : Gates config { before with
          runtime := runtime
          log := before.log ++ [.fed before.rxFrom value, .frame frame] } :=
        gates.stays config outside rfl (by simp [Observation.plain]) same.toSameSession rfl rfl (.inl source)
          (by rw [phase]; rfl)
      exact handled.gates config fedAgree fedGates outside phase
  | done feed phase runtime next same goes =>
    have source := gates.session.source.feeding (by rw [phase]; rfl)
    refine gates.stays config outside (List.append_nil _).symm (by simp) same.toSameSession rfl rfl (.inl source) ?_
    rcases goes with rfl | rfl <;> rfl
  | reopened feed phase begun runtime more begins same hellos =>
    subst begins
    have source := gates.session.source.feeding (by rw [phase]; rfl)
    have idle := withdrawn (by rw [phase]; rfl)
    have reset := resetSession_gates config gates outside idle before.phase (.inl source)
    obtain ⟨opened, transport, mailbox, rxFrom, -⟩ := startSession_opened config (resetSession before) choices rfl
    have sourced : (startSession config (resetSession before) choices).rxFrom.isSome = true ↔
        (startSession config (resetSession before) choices).transport.active = some .tcp := by
      rw [rxFrom, transport]
      exact source
    have begun := startSession_gates config (resetSession before) choices reset.session.gated reset.mail outside idle rfl
      (.handled feed) (.inl sourced)
    obtain ⟨active, -⟩ := irisTransportRenewClaim_cases config
      (startSession config (resetSession before) choices).transport choices.link.now
    refine begun.hello config (by dsimp only; rw [mailbox]; exact outside) hellos rfl rfl same.toSameSession rfl rfl
      (.inl ?_) rfl
    dsimp only
    rw [active]
    exact sourced
  | produced burst progressed phase runtime more same hellos =>
    refine gates.hello config outside hellos rfl rfl same.toSameSession rfl rfl ?_ rfl
    exact gates.session.source.same rfl rfl same.rxPending (by rw [phase]; simp) fun _ => rfl
  | drains burst progressed phase ready =>
    obtain ⟨own, pending, ticket, worker, reserves⟩ := drainStart_ownership before.runtime gates.mail.own
    have source : Sourced { before with
        mailbox := drainStart before.mailbox before.runtime
        phase := .drained burst progressed } :=
      gates.session.source.same rfl rfl rfl (by rw [phase]; simp) fun _ => rfl
    refine ⟨⟨gates.session.gated, gates.session.session, gates.session.ready, gates.session.shown, source⟩, own,
      fun live => ?_, fun entering => ?_, fun calls => ?_, fun leaves => (by cases leaves)⟩
    · rw [ticket]
      exact gates.mail.live (pending live)
    · rw [ticket]
      exact gates.mail.entering (worker.symm.trans entering)
    · have calling := reserves calls
      rw [outside] at calling
      contradiction
  | filled burst progressed phase runtime same =>
    refine gates.stays config outside (List.append_nil _).symm (by simp) same.toSameSession rfl rfl ?_ rfl
    exact gates.session.source.same rfl rfl same.rxPending (by rw [phase]; simp) fun _ => rfl
  | finished burst progressed phase runtime transport next wrote same closes writes goes =>
    refine gates.stays config outside rfl (writes_plain writes) same.toSameSession rfl rfl ?_ ?_
    · refine gates.session.source.same rfl closes.owner.1 same.rxPending (by rw [phase]; simp) fun _ => ?_
      rcases goes with rfl | ⟨_, rfl⟩ <;> rfl
    · rcases goes with rfl | ⟨_, rfl⟩ <;> rfl

def workerShows (mailbox : Mailbox) (input : WorkerInput) (traces : List Trace) : List Observation :=
  (if picks mailbox input then [.picked mailbox.ticket] else []) ++ traces.map .executor

/-- The worker takes up only what is pending, and enters only what it took up. -/
theorem worker_gated {gate : GateRecord} {mailbox : Mailbox} {phase : Phase} {input : WorkerInput}
    {result : Mailbox × List Trace} (mail : MailGate gate mailbox phase)
    (step : workerStep mailbox input = some result) :
    GatedFrom config gate (workerShows mailbox input result.2) ∧
      (workerShows mailbox input result.2).foldl GateRecord.note gate =
        { gate with picked := if picks mailbox input then mailbox.ticket :: gate.picked else gate.picked } := by
  unfold workerShows
  rcases workerStep_traces step with plain | ⟨entering, traces⟩
  · by_cases picked : picks mailbox input = true
    · obtain ⟨record, allowed⟩ := plain_all config (executor_plain plain)
        { gate with picked := mailbox.ticket :: gate.picked }
      rw [if_pos picked, if_pos picked]
      exact ⟨⟨mail.live (picks_pending picked), allowed⟩, record⟩
    · obtain ⟨record, allowed⟩ := plain_all config (executor_plain plain) gate
      rw [if_neg picked, if_neg picked]
      exact ⟨allowed, record⟩
  · have waits : picks mailbox input = false := by
      unfold picks
      rw [entering]
    rw [waits, traces]
    exact ⟨⟨mail.entering entering, trivial⟩, rfl⟩

theorem DeviceMoves.gates {before after : DeviceState} {event : DeviceEvent} (agree : FlagsAgree before)
    (gates : Gates config before) (moves : DeviceMoves config before event after) : Gates config after := by
  cases moves with
  | task choices _ admissible outside moves => exact moves.gates config agree gates outside
  | call choices mailbox runtime traces same step =>
    have source : Sourced { before with
        mailbox := mailbox
        runtime := runtime
        log := before.log ++ traces.map .executor } := gates.session.source.during rfl rfl same.rxPending rfl
    rcases callStep_calls gates.mail.own step with ⟨frame, submitting, result⟩ | calls
    · obtain ⟨rfl, rfl, rfl⟩ : mailbox = executorSubmit before.mailbox before.runtime.sessionId frame before.issued ∧
          runtime = before.runtime ∧ traces = [.accepted before.issued before.runtime.sessionId] := by
        simpa using result
      obtain ⟨ready, goes⟩ := gates.mail.calling (by rw [submitting]; rfl)
      have up : before.runtime.linkConnected = true := by
        rw [gates.session.ready] at ready
        rw [agree.linkConnected, of_decide_eq_true ready]
        rfl
      have record : gateRecord (before.log ++ [.executor (.accepted before.issued before.runtime.sessionId)]) =
          { gateRecord before.log with accepted := before.issued :: (gateRecord before.log).accepted } :=
        gateRecord_append _ _
      refine ⟨⟨gated_append config gates.session.gated ⟨⟨ready, gates.session.session up⟩, trivial⟩, ?_, ?_, ?_,
        source⟩, ?_⟩
      · dsimp only [List.map]
        rw [record]
        exact gates.session.session
      · dsimp only [List.map]
        rw [record]
        exact gates.session.ready
      · dsimp only [List.map]
        rw [record]
        exact gates.session.shown
      · dsimp only [List.map]
        rw [record]
        refine ⟨executorSubmit_ownership _ _ gates.mail.own submitting, fun _ => ⟨ready, List.mem_cons_self⟩,
          fun entering => ?_, fun reserves => (by cases reserves), fun leaves => ?_⟩
        · have running := gates.mail.own.runs (by rw [show before.mailbox.worker = .entering from entering]; rfl)
          have reserved := gates.mail.own.reserves (by rw [submitting]; rfl)
          rw [running] at reserved
          cases reserved
        · exact absurd (goes.symm.trans leaves) Bool.false_ne_true
    · have record := (plain_all config (executor_plain calls.plain) (gateRecord before.log)).1
      refine ⟨gates.session.stays config rfl (executor_plain calls.plain) same.toSameSession rfl source, ?_⟩
      rw [gateRecord_append]
      dsimp only
      rw [record]
      refine ⟨calls.own, fun live => ?_, fun entering => ?_, fun reserves => ?_, fun leaves => .inr ?_⟩
      · rw [show mailbox.ticket = before.mailbox.ticket from calls.ticket]
        exact gates.mail.live (calls.pending live)
      · rw [show mailbox.ticket = before.mailbox.ticket from calls.ticket]
        exact gates.mail.entering (calls.worker entering)
      · exact gates.mail.calling (calls.reserves reserves)
      · rcases gates.mail.leaving leaves with abandoning | idle
        · exact calls.abandons abandoning
        · exact fun live => idle (calls.pending live)
  | worker input mailbox traces step =>
    obtain ⟨allowed, record⟩ := worker_gated config gates.mail step
    rw [← gateRecord_append] at record
    obtain ⟨ticket, call⟩ := workerStep_ticket step
    dsimp only at allowed record ticket call
    rw [List.append_assoc, ← workerShows]
    refine ⟨⟨gated_append config gates.session.gated allowed, ?_, ?_, ?_,
      gates.session.source.during rfl rfl rfl rfl⟩, ?_⟩
    · dsimp only
      rw [record]
      exact gates.session.session
    · dsimp only
      rw [record]
      exact gates.session.ready
    · dsimp only
      rw [record]
      exact gates.session.shown
    · dsimp only
      rw [record]
      refine ⟨workerStep_ownership gates.mail.own step, fun live => ?_, fun entering => ?_, fun reserves => ?_,
        fun leaves => ?_⟩
      · rw [ticket]
        exact gates.mail.live (workerStep_pending gates.mail.own step live)
      · rw [ticket, if_pos (workerStep_entering step entering)]
        exact List.mem_cons_self
      · exact gates.mail.calling (call ▸ reserves)
      · rw [call]
        exact (gates.mail.leaving leaves).imp id fun idle live => idle (workerStep_pending gates.mail.own step live)
  | line hostOpen =>
    refine ⟨⟨gates.session.gated, gates.session.session, gates.session.ready, gates.session.shown, ?_⟩, gates.mail⟩
    exact gates.session.source
  | facts event runtime same =>
    refine ⟨gates.session.stays config (List.append_nil _).symm (by simp) same.toSameSession rfl ?_, gates.mail⟩
    exact gates.session.source.during rfl rfl same.rxPending rfl

theorem device_gates : Invariant (device config) fun state => FlagsAgree state ∧ Gates config state :=
  (device_flagsAgree config).over
    (by
      rintro state ⟨deviceId, bootId, rfl⟩
      refine ⟨⟨trivial, fun up => (by cases up), rfl, fun challenge inside => (by cases inside),
        .inr ⟨.inl rfl, rfl⟩⟩, ?_⟩
      refine ⟨⟨rfl, fun runs => (by cases runs), fun reserves => (by cases reserves), fun drains => (by cases drains),
        fun busy => absurd rfl busy, fun frame submits => (by cases submits)⟩, fun pending => ?_,
        fun entering => (by cases entering), fun reserves => (by cases reserves), fun leaves => (by cases leaves)⟩
      rcases pending with ⟨-, queued | checking⟩
      · cases queued
      · cases checking)
    (by
      intro before event after agree gates step
      exact (deviceNext_moves config step agree.reported).gates config agree gates)

end task

/-- The log was allowed by the gate, the session is ready exactly while the log says so, and the
derived flags agree with its state. -/
structure Gatekept (config : Config) (state : DeviceState) : Prop where
  gated : Gated config state.log
  ready : state.runtime.sessionState = .ready ↔ (gateRecord state.log).ready = true
  helloAcked : state.runtime.helloAcked = true ↔ state.runtime.sessionState = .ready
  linkConnected : state.runtime.linkConnected = true ↔ state.runtime.sessionState ≠ .disconnected
  committed : state.transport.committed = true → state.runtime.sessionState = .ready

/-- Frames are served and requests taken up only in a ready session, and it takes an accepted proof
to get there. -/
theorem device_gatekept (config : Config) (state : DeviceState) (reached : Reachable (device config) state) :
    Gatekept config state := by
  obtain ⟨agree, gates⟩ := (device_gates config).reachable reached
  have helloAcked : state.runtime.helloAcked = true ↔ state.runtime.sessionState = .ready := by
    rw [agree.helloAcked, decide_eq_true_iff]
  refine ⟨gates.session.gated, ?_, helloAcked, ?_, fun held => helloAcked.mp (agree.committed held)⟩
  · rw [gates.session.ready, decide_eq_true_iff]
  · rw [agree.linkConnected, decide_eq_true_iff]

theorem device_gatekept_when_ready :
    ∃ state, Reachable (device tcpOnly) state ∧ state.runtime.sessionState = .ready ∧ Gatekept tcpOnly state := by
  obtain ⟨state, run, isReady⟩ : ∃ state, Run (device tcpOnly) (DeviceState.initial [] 0) readyRun state ∧
      state.isReady = true := Run.of_check (by decide +kernel)
  have reached : Reachable (device tcpOnly) state := ⟨_, readyRun, ⟨[], 0, rfl⟩, run⟩
  exact ⟨state, reached, of_decide_eq_true isReady, device_gatekept tcpOnly state reached⟩

def EnteredWhenReady (log : List Observation) : Prop :=
  ∀ before ticket after, log = before ++ .executor (.entered ticket) :: after → (gateRecord before).ready = true

def lateEntryRun : List DeviceEvent :=
  let both := helloAck ++ hostWire Channel.control ControlType.request 0 2 [1]
  [.task Choices.quiet.accepting, .task (Choices.quiet.reading both)] ++
    List.replicate (both.length + 4) (.task Choices.quiet) ++ List.replicate 3 (.worker .advance) ++
    List.replicate 11 (.task { Choices.quiet with received := .closed }) ++ [.worker .advance]

def DeviceState.enteredLate (state : DeviceState) : Bool :=
  match state.log.getLast? with
  | some (.executor (.entered _)) => !(gateRecord state.log.dropLast).ready
  | _ => false

/-- A handler is entered after its session was closed. -/
theorem entered_after_close : ∃ state, Reachable (device tcpOnly) state ∧ ¬ EnteredWhenReady state.log := by
  obtain ⟨state, run, isLate⟩ : ∃ state, Run (device tcpOnly) (DeviceState.initial [] 0) lateEntryRun state ∧
      state.enteredLate = true := Run.of_check (by decide +kernel)
  refine ⟨state, ⟨_, lateEntryRun, ⟨[], 0, rfl⟩, run⟩, fun timely => ?_⟩
  unfold DeviceState.enteredLate at isLate
  split at isLate
  next ticket last =>
    obtain ⟨earlier, log⟩ := List.getLast?_eq_some_iff.mp last
    rw [log, List.dropLast_concat, timely earlier ticket [] log] at isLate
    exact Bool.false_ne_true isLate
  next => exact Bool.false_ne_true isLate

end EspIris.Device
