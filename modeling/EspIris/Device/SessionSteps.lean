import EspIris.Device.Link
import EspIris.Device.ReceiveIntegrity

/-! What one step of the protocol task can do to its session, function by function: what the
device keeps over its runs is proved from these inversions, and never from the functions again. -/

namespace EspIris.Device
open Codec.Device Machine

structure SameSession (before after : Runtime) : Prop where
  sessionId : after.sessionId = before.sessionId
  sessionState : after.sessionState = before.sessionState
  linkConnected : after.linkConnected = before.linkConnected
  helloAcked : after.helloAcked = before.helloAcked

structure SameInput (before after : Runtime) : Prop extends SameSession before after where
  rxPending : after.rxPending = before.rxPending

theorem SameSession.trans {first middle last : Runtime} (left : SameSession first middle)
    (right : SameSession middle last) : SameSession first last where
  sessionId := right.sessionId.trans left.sessionId
  sessionState := right.sessionState.trans left.sessionState
  linkConnected := right.linkConnected.trans left.linkConnected
  helloAcked := right.helloAcked.trans left.helloAcked

theorem SameInput.refl (runtime : Runtime) : SameInput runtime runtime := ⟨⟨rfl, rfl, rfl, rfl⟩, rfl⟩

theorem SameInput.trans {first middle last : Runtime} (left : SameInput first middle)
    (right : SameInput middle last) : SameInput first last :=
  ⟨left.toSameSession.trans right.toSameSession, right.rxPending.trans left.rxPending⟩

theorem Undisturbed.sameInput {before after : Runtime} (same : Undisturbed before after) : SameInput before after :=
  ⟨⟨same.sessionId, same.sessionState, same.linkConnected, same.helloAcked⟩, same.rxPending⟩

theorem Untouched.sameInput {before after : Runtime} (same : Untouched before after) : SameInput before after :=
  same.toUndisturbed.sameInput

def Writes (transport : TransportManager) (more : List Observation) : Prop :=
  more = [] ∨ (∃ count, more = [.wrote (linkConnection transport) count]) ∧ Carries transport

theorem flushTx_cases (device : DeviceState) (sent : LinkWrite) :
    ∃ runtime transport more, SameInput device.runtime runtime ∧ Closes device.transport transport ∧
      Writes device.transport more ∧
      (flushTx device sent).1 =
        { device with runtime := runtime, transport := transport, log := device.log ++ more } := by
  unfold flushTx
  split
  · exact ⟨_, _, [], .refl _, .inl rfl, .inl rfl, by rw [List.append_nil]⟩
  obtain ⟨closes, wrote⟩ := irisTransportWrite_cases device.transport sent
    (device.runtime.txWire.drop device.runtime.txWireOffset).length
  dsimp only
  split
  · exact ⟨_, _, [], .refl _, closes, .inl rfl, by rw [List.append_nil]⟩
  next some =>
    refine ⟨_, _, _, ?_, closes, .inr ⟨⟨_, rfl⟩, wrote some⟩, rfl⟩
    split <;> exact ⟨⟨rfl, rfl, rfl, rfl⟩, rfl⟩

theorem nextBurst_shape (device : DeviceState) (burst : Nat) (progressed : Bool) :
    ∃ phase, (phase = .poll ∨ ∃ next, phase = .pump next) ∧
      nextBurst device burst progressed = { device with phase := phase } := by
  unfold nextBurst
  split
  · exact ⟨_, .inr ⟨_, rfl⟩, rfl⟩
  · exact ⟨_, .inl rfl, rfl⟩

theorem endOfBurst_cases (device : DeviceState) (sent : LinkWrite) (burst : Nat) (progressed : Bool) :
    ∃ runtime transport phase more, SameInput device.runtime runtime ∧ Closes device.transport transport ∧
      Writes device.transport more ∧ (phase = .poll ∨ ∃ next, phase = .pump next) ∧
      nextBurst (disconnectAfterTx (flushTx device sent).1) burst progressed =
        { device with runtime := runtime, transport := transport, phase := phase, log := device.log ++ more } := by
  obtain ⟨runtime, transport, more, same, closes, writes, shape⟩ := flushTx_cases device sent
  obtain ⟨phase, next, moves⟩ := nextBurst_shape (disconnectAfterTx (flushTx device sent).1) burst progressed
  rw [moves, shape]
  exact ⟨{ runtime with disconnectAfterTx := false }, irisTransportDisconnect transport, phase, more,
    same.trans ⟨⟨rfl, rfl, rfl, rfl⟩, rfl⟩, closes.trans (irisTransportDisconnect_closes transport), writes, next, rfl⟩

theorem finishPump_cases (device : DeviceState) (burst : Nat) (progressed : Bool) (choices : Choices) :
    ∃ runtime transport phase more, SameInput device.runtime runtime ∧ Closes device.transport transport ∧
      Writes device.transport more ∧ (phase = .poll ∨ ∃ next, phase = .pump next) ∧
      finishPump device burst progressed choices =
        { device with runtime := runtime, transport := transport, phase := phase, log := device.log ++ more } := by
  unfold finishPump
  dsimp only
  split
  · exact endOfBurst_cases device choices.sent burst true
  · obtain ⟨runtime, transport, more, same, closes, writes, shape⟩ := flushTx_cases device choices.sent
    obtain ⟨phase, next, moves⟩ := nextBurst_shape (flushTx device choices.sent).1 burst
      (progressed || device.runtime.txWire ≠ [])
    rw [moves, shape]
    exact ⟨_, _, phase, more, same, closes, writes, next, rfl⟩

def Receives (device : DeviceState) (runtime : Runtime) (rxFrom : Option Nat) (more : List Observation) : Prop :=
  more = [] ∧ rxFrom = device.rxFrom ∧
      (runtime.rxPending = device.runtime.rxPending ∨ runtime.rxPending = []) ∨
    (∃ bytes, more = [.read (linkConnection device.transport) bytes]) ∧
      rxFrom = linkConnection device.transport ∧ Carries device.transport

theorem fetchPending_cases (device : DeviceState) (received : LinkRead) :
    ∃ runtime transport rxFrom more, SameSession device.runtime runtime ∧ Closes device.transport transport ∧
      Receives device runtime rxFrom more ∧
      fetchPending device received =
        { device with runtime := runtime, transport := transport, rxFrom := rxFrom, log := device.log ++ more } := by
  unfold fetchPending
  split
  · obtain ⟨closes, some⟩ := irisTransportRead_cases device.transport received
    dsimp only
    let read : Runtime := { device.runtime with
      rxPending := (irisTransportRead device.transport received).2
      rxPendingOffset := 0 }
    split
    next none =>
      exact ⟨read, _, _, [], ⟨rfl, rfl, rfl, rfl⟩, closes, .inl ⟨rfl, rfl, .inr none⟩, by rw [List.append_nil]⟩
    next bytes =>
      exact ⟨read, _, _, _, ⟨rfl, rfl, rfl, rfl⟩, closes, .inr ⟨⟨_, rfl⟩, rfl, some bytes⟩, rfl⟩
  · exact ⟨_, _, _, [], ⟨rfl, rfl, rfl, rfl⟩, .inl rfl, .inl ⟨rfl, rfl, .inl rfl⟩, by rw [List.append_nil]⟩

def PumpsTo (runtime : Runtime) : Phase → Prop
  | .poll | .pump _ | .produce _ _ => True
  | .feeding feed => feed.session = runtime.sessionId ∧ runtime.rxPending ≠ []
  | _ => False

theorem PumpsTo.of_next {runtime : Runtime} {phase : Phase} (next : phase = .poll ∨ ∃ next, phase = .pump next) :
    PumpsTo runtime phase := by
  rcases next with rfl | ⟨_, rfl⟩ <;> trivial

theorem Receives.none {device : DeviceState} {runtime : Runtime} (same : SameInput device.runtime runtime) :
    Receives device runtime device.rxFrom [] := .inl ⟨rfl, rfl, .inl same.rxPending⟩

theorem pumpLink_cases (device : DeviceState) (burst : Nat) (choices : Choices) :
    ∃ runtime transport rxFrom phase wrote reads, SameSession device.runtime runtime ∧
      Closes device.transport transport ∧ Writes device.transport wrote ∧ Receives device runtime rxFrom reads ∧
      PumpsTo runtime phase ∧
      pumpLink device burst choices =
        { device with
          runtime := runtime
          transport := transport
          rxFrom := rxFrom
          phase := phase
          log := device.log ++ (wrote ++ reads) } := by
  unfold pumpLink
  dsimp only
  split
  · obtain ⟨runtime, transport, phase, wrote, same, closes, writes, next, shape⟩ :=
      endOfBurst_cases device choices.sent burst true
    refine ⟨runtime, transport, _, phase, wrote, [], same.toSameSession, closes, writes, .none same, .of_next next, ?_⟩
    rw [shape, List.append_nil]
  obtain ⟨sentRuntime, sentTransport, wrote, same, closes, writes, sent⟩ := flushTx_cases device choices.sent
  split
  · obtain ⟨phase, next, moves⟩ := nextBurst_shape (flushTx device choices.sent).1 burst
      (flushTx device choices.sent).2
    refine ⟨sentRuntime, sentTransport, _, phase, wrote, [], same.toSameSession, closes, writes, .none same,
      .of_next next, ?_⟩
    rw [moves, sent, List.append_nil]
  obtain ⟨runtime, transport, rxFrom, reads, session, closesMore, receives, fetched⟩ :=
    fetchPending_cases (flushTx device choices.sent).1 choices.received
  rw [fetched, sent]
  rw [sent] at session closesMore receives
  have received : Receives device runtime rxFrom reads := by
    rcases receives with ⟨rfl, rfl, pending⟩ | ⟨⟨bytes, rfl⟩, rfl, carries⟩
    · exact .inl ⟨rfl, rfl, by rw [← same.rxPending]; exact pending⟩
    · obtain rfl := closes.same carries
      exact .inr ⟨⟨bytes, rfl⟩, rfl, carries⟩
  have sessions := same.toSameSession.trans session
  dsimp only
  split
  · exact ⟨runtime, transport, rxFrom, .produce burst _, wrote, reads, sessions, closes.trans closesMore, writes,
      received, trivial, by rw [List.append_assoc]⟩
  next some =>
    have pending : runtime.rxPending ≠ [] := fun none => some (by rw [none, List.drop_nil])
    exact ⟨runtime, transport, rxFrom, .feeding ⟨burst, runtime.sessionId, _, 0⟩, wrote, reads, sessions,
      closes.trans closesMore, writes, received, ⟨rfl, pending⟩, by rw [List.append_assoc]⟩

theorem leaveServices_eq (device : DeviceState) :
    leaveServices device = { device with
      mailbox := if device.runtime.helloAcked then (abandonStart device.mailbox false).1 else device.mailbox
      log := device.log ++
        (if device.runtime.helloAcked then (abandonStart device.mailbox false).2 else []).map .executor } := by
  unfold leaveServices
  split
  · rfl
  · rw [List.map_nil, List.append_nil]

inductive Handled (config : Config) (before : DeviceState) (feed : Feed) (link : LinkInput) : DeviceState → Prop
  | kept (runtime : Runtime) (same : SameInput before.runtime runtime) :
      Handled config before feed link { before with runtime := runtime, phase := .handled feed }
  | served (frame : DecodedFrame) (runtime : Runtime) (mailbox : Mailbox) (issued : Nat)
      (same : SameInput before.runtime runtime) (ready : before.runtime.helloAcked = true)
      (session : frame.header.sessionId = before.runtime.sessionId)
      (dispatch : mailbox = before.mailbox ∨ mailbox = dispatchStart config.otaEnabled before.mailbox frame) :
      Handled config before feed link { before with
        runtime := runtime
        mailbox := mailbox
        issued := issued
        phase := .handled feed
        log := before.log ++ [.served frame] }
  | accepted (frame : DecodedFrame) (runtime : Runtime) (psaSucceeds : Bool)
      (accepts : irisServicesAuthenticate config (irisTransportKind config before.transport) before.runtime
        before.challenge frame.payload psaSucceeds = EspErr.ok)
      (waits : before.runtime.sessionState = .negotiating) (session : runtime.sessionId = before.runtime.sessionId)
      (ready : runtime.sessionState = .ready) (linkConnected : runtime.linkConnected = true)
      (helloAcked : runtime.helloAcked = true) (rxPending : runtime.rxPending = before.runtime.rxPending) :
      Handled config before feed link { before with
        runtime := runtime
        transport := irisTransportCommit config before.transport link
        phase := .handled feed
        log := before.log ++
          [.authenticated before.rxFrom before.runtime.sessionId before.challenge frame.payload, .ready] }
  | leaving (runtime : Runtime) (same : SameInput before.runtime runtime) :
      Handled config before feed link { leaveServices { before with runtime := runtime } with phase := .reopening feed }

theorem transitionSession_authenticated {runtime ready : Runtime}
    (moves : transitionSession runtime .authenticated = some ready) :
    runtime.sessionState = .negotiating ∧ ready.sessionId = runtime.sessionId ∧ ready.sessionState = .ready ∧
      ready.linkConnected = true ∧ ready.helloAcked = true ∧ ready.rxPending = runtime.rxPending := by
  obtain ⟨next, allowed, rfl⟩ := Option.map_eq_some_iff.mp moves
  simp only [irisSessionTransition] at allowed
  split at allowed
  next negotiating =>
    cases allowed
    exact ⟨negotiating, rfl, rfl, rfl, rfl, rfl⟩
  next => contradiction

section task
variable (config : Config)

theorem handleHelloAck_handled (device : DeviceState) (feed : Feed) (frame : DecodedFrame) (choices : Choices) :
    Handled config device feed choices.link (handleHelloAck config device feed frame choices) := by
  unfold handleHelloAck
  dsimp only
  generalize judged : irisServicesAuthenticate _ _ _ _ _ _ = verdict
  split
  · split
    · exact .kept _ (refuse_untouched _ _ _).sameInput
    · exact .leaving _ (.refl _)
  split
  · exact .kept _ (.refl _)
  have answered := (answerAuth_untouched config (irisTransportKind config device.transport) device.runtime
    frame.header verdict).sameInput
  split
  · exact .kept _ answered
  next accepts =>
    split
    · exact .kept _ answered
    next ready moves =>
      obtain ⟨negotiating, session, state, linkConnected, helloAcked, pending⟩ := transitionSession_authenticated moves
      have scheduled := (scheduleSessionEvents_untouched ready).sameInput
      refine .accepted frame _ choices.psaSucceeds (judged.trans (not_not.mp accepts)) ?_ ?_ ?_ ?_ ?_ ?_
      · exact answered.sessionState.symm.trans negotiating
      · exact (scheduled.sessionId.trans session).trans answered.sessionId
      · exact scheduled.sessionState.trans state
      · exact scheduled.linkConnected.trans linkConnected
      · exact scheduled.helloAcked.trans helloAcked
      · exact (scheduled.rxPending.trans pending).trans answered.rxPending

theorem serveFrame_handled (device : DeviceState) (feed : Feed) {frame : DecodedFrame} (choices : Choices)
    (ready : device.runtime.helloAcked = true) (session : frame.header.sessionId = device.runtime.sessionId) :
    Handled config device feed choices.link (serveFrame config device feed frame choices) := by
  unfold serveFrame DeviceState.note
  dsimp only
  split
  · exact .served frame _ _ _ (handleControl_undisturbed _ _ _).sameInput ready session (.inl rfl)
  split
  · exact .served frame _ _ _ (handleCrash_undisturbed _ _ _).sameInput ready session (.inl rfl)
  · refine .served frame _ _ _ ?_ ready session (.inr rfl)
    split
    · exact (serveInline_undisturbed _ _ _).sameInput
    · exact .refl _

/-- A runtime that differs only in its counters handles a frame the same way. -/
theorem Handled.counted {before after : DeviceState} {feed : Feed} {link : LinkInput} {runtime : Runtime}
    (handled : Handled config { before with runtime := runtime } feed link after)
    (same : SameInput before.runtime runtime) (deviceId : runtime.deviceId = before.runtime.deviceId)
    (bootId : runtime.bootId = before.runtime.bootId) : Handled config before feed link after := by
  cases handled with
  | kept next kept => exact .kept next (same.trans kept)
  | served frame next mailbox issued kept ready session dispatch =>
    exact .served frame next mailbox issued (same.trans kept) (same.helloAcked.symm.trans ready)
      (session.trans same.sessionId) dispatch
  | accepted frame next psaSucceeds accepts waits session ready linkConnected helloAcked pending =>
    have message (challenge nonce : List UInt8) :
        authMessage runtime challenge nonce = authMessage before.runtime challenge nonce := by
      simp only [authMessage, deviceId, bootId, same.sessionId]
    dsimp only at accepts waits session pending ⊢
    rw [same.sessionId]
    refine .accepted frame next psaSucceeds ?_ (same.sessionState.symm.trans waits) (session.trans same.sessionId)
      ready linkConnected helloAcked (pending.trans same.rxPending)
    rw [← accepts]
    simp only [irisServicesAuthenticate, message]
  | leaving next kept => exact .leaving next (same.trans kept)

theorem handleFrame_handled (device : DeviceState) (feed : Feed) (frame : DecodedFrame) (choices : Choices) :
    Handled config device feed choices.link (handleFrame config device feed frame choices) := by
  unfold handleFrame gateFrame countInvalid
  dsimp only
  split
  · exact .kept _ ⟨⟨rfl, rfl, rfl, rfl⟩, rfl⟩
  next session =>
    rw [not_not] at session
    split
    · exact .kept _ ⟨⟨rfl, rfl, rfl, rfl⟩, rfl⟩
    next gate =>
      split
      next hello =>
        exact (handleHelloAck_handled config _ feed frame choices).counted config ⟨⟨rfl, rfl, rfl, rfl⟩, rfl⟩ rfl rfl
      next other =>
        split
        · exact .kept _ ⟨⟨rfl, rfl, rfl, rfl⟩, rfl⟩
        · have ready : device.runtime.helloAcked = true := by
            by_contra waits
            exact gate ⟨Bool.eq_false_of_not_eq_true waits, Bool.eq_false_of_not_eq_true other⟩
          have served := serveFrame_handled config { device with
            runtime := noteSequence { device.runtime with rxFrames := device.runtime.rxFrames + 1 } frame.header }
            feed choices ready session
          exact served.counted config ⟨⟨rfl, rfl, rfl, rfl⟩, rfl⟩ rfl rfl

theorem finishFeed_shape (device : DeviceState) (feed : Feed) :
    ∃ runtime, SameInput device.runtime runtime ∧
      finishFeed device feed = { device with runtime := runtime, phase := .produce feed.burst true } := by
  unfold finishFeed
  refine ⟨_, ?_, rfl⟩
  split <;> exact ⟨⟨rfl, rfl, rfl, rfl⟩, rfl⟩

theorem receiveByte_input (runtime : Runtime) (value : UInt8) : SameInput runtime (receiveByte runtime value).1 := by
  obtain ⟨_, _, _, _, shape⟩ := receiveByte_shape runtime value
  rw [shape]
  exact ⟨⟨rfl, rfl, rfl, rfl⟩, rfl⟩

/-- What a turn of the loop in `feed_rx` does: it ends the loop, or feeds a byte that may complete
a frame. -/
inductive Feeds (before : DeviceState) (feed : Feed) (link : LinkInput) : DeviceState → Prop
  | finished (runtime : Runtime) (same : SameInput before.runtime runtime) :
      Feeds before feed link { before with runtime := runtime, phase := .produce feed.burst true }
  | kept (value : UInt8) (later : Feed) (phase : Phase) (runtime : Runtime) (same : SameInput before.runtime runtime)
      (next : phase = .feeding later ∨ phase = .handled later) :
      Feeds before feed link { before with
        runtime := runtime
        phase := phase
        log := before.log ++ [.fed before.rxFrom value] }
  | completed (value : UInt8) (frame : DecodedFrame) (later : Feed) (runtime : Runtime) (after : DeviceState)
      (same : SameInput before.runtime runtime)
      (handled : Handled config
        { before with runtime := runtime, log := before.log ++ [.fed before.rxFrom value, .frame frame] } later link
        after) : Feeds before feed link after

theorem feedRx_feeds (device : DeviceState) (feed : Feed) (choices : Choices) :
    Feeds config device feed choices.link (feedRx config device feed choices) := by
  unfold feedRx
  split
  next =>
    obtain ⟨runtime, same, shape⟩ := finishFeed_shape device feed
    rw [shape]
    exact .finished runtime same
  next value rest _ =>
    have fed := receiveByte_input device.runtime value
    dsimp only [DeviceState.note, countInvalid]
    split
    · exact .kept value _ _ _ fed (.inl rfl)
    · exact .kept value _ _ _ (fed.trans ⟨⟨rfl, rfl, rfl, rfl⟩, rfl⟩) (.inr rfl)
    next frame _ =>
      refine .completed value frame { feed with data := rest, consumed := feed.consumed + 1 } _ _ fed ?_
      rw [List.append_assoc]
      exact handleFrame_handled config _ _ frame choices

theorem frameDone_shape (device : DeviceState) (feed : Feed) :
    ∃ runtime phase, SameInput device.runtime runtime ∧ (phase = .feeding feed ∨ phase = .produce feed.burst true) ∧
      frameDone device feed = { device with runtime := runtime, phase := phase } := by
  unfold frameDone
  dsimp only
  split
  · obtain ⟨runtime, same, shape⟩ :=
      finishFeed_shape { device with runtime := { device.runtime with rxWireLength := 0 } } feed
    rw [shape]
    have cleared : SameInput device.runtime { device.runtime with rxWireLength := 0 } := ⟨⟨rfl, rfl, rfl, rfl⟩, rfl⟩
    exact ⟨runtime, _, cleared.trans same, .inr rfl, rfl⟩
  · exact ⟨{ device.runtime with rxWireLength := 0 }, _, ⟨⟨rfl, rfl, rfl, rfl⟩, rfl⟩, .inl rfl, rfl⟩

structure Opened (runtime : Runtime) (session : UInt32) : Prop where
  sessionId : runtime.sessionId = session
  sessionState : runtime.sessionState = .negotiating
  linkConnected : runtime.linkConnected = true
  helloAcked : runtime.helloAcked = false
  rxPending : runtime.rxPending = []

/-- Opening a session draws a challenge, but not while the executor is busy. -/
theorem startSession_cases (device : DeviceState) (choices : Choices)
    (closed : device.runtime.sessionState = .disconnected) :
    ∃ runtime, Opened runtime choices.session ∧
      ((executorBusy device.mailbox = true ∨ config.pairing = none) ∧
          startSession config device choices =
            { device with runtime := runtime, log := device.log ++ [.begun choices.session none] } ∨
        ¬ (executorBusy device.mailbox = true ∨ config.pairing = none) ∧
          startSession config device choices =
            { device with
              runtime := runtime
              challenge := choices.random
              drawn := choices.random :: device.drawn
              log := device.log ++ [.begun choices.session (some choices.random)] }) := by
  obtain ⟨begun, starts⟩ : ∃ begun, beginSession device.runtime choices.session = some begun := by
    simp [beginSession, transitionSession, irisSessionTransition, closed]
  obtain ⟨-, -, -, pending, -, session, -, state, linkConnected, helloAcked⟩ := beginSession_shape starts
  refine ⟨begun, ⟨session, state, linkConnected, helloAcked, pending⟩, ?_⟩
  unfold startSession
  rw [starts]
  dsimp only
  split
  next skipped => exact .inl ⟨skipped, rfl⟩
  next drawn => exact .inr ⟨drawn, rfl⟩

/-- What holds of an opened session whether or not a challenge was drawn. -/
theorem startSession_opened (device : DeviceState) (choices : Choices)
    (closed : device.runtime.sessionState = .disconnected) :
    Opened (startSession config device choices).runtime choices.session ∧
      (startSession config device choices).transport = device.transport ∧
      (startSession config device choices).mailbox = device.mailbox ∧
      (startSession config device choices).rxFrom = device.rxFrom ∧
      ∃ drawn, (startSession config device choices).log = device.log ++ [.begun choices.session drawn] := by
  obtain ⟨runtime, opened, ⟨-, shape⟩ | ⟨-, shape⟩⟩ := startSession_cases config device choices closed
  all_goals
    rw [shape]
    exact ⟨opened, rfl, rfl, rfl, _, rfl⟩

def published (device : DeviceState) : Option (List UInt8) :=
  irisServicesAuthChallenge config (irisTransportKind config device.transport) device.challenge

theorem greet_cases (device : DeviceState) (choices : Choices) :
    ∃ runtime more, SameInput device.runtime runtime ∧ (more = [] ∨ more = [.hello (published config device)]) ∧
      (greet config device choices).1 = { device with runtime := runtime, log := device.log ++ more } := by
  unfold greet
  dsimp only
  have queued := (queueHello_untouched device.runtime choices.helloFields (published config device)).sameInput
  split
  · exact ⟨_, _, queued, .inr rfl, rfl⟩
  · exact ⟨_, [], queued, .inl rfl, by rw [List.append_nil]; rfl⟩

theorem reopen_cases (device : DeviceState) (feed : Feed) (choices : Choices) :
    ∃ begun runtime more, startSession config (resetSession device) choices = begun ∧
      SameInput begun.runtime runtime ∧
      (more = [] ∨ more = [.hello (published config { begun with
        transport := irisTransportRenewClaim config begun.transport choices.link.now })]) ∧
      reopen config device feed choices =
        { begun with
          runtime := runtime
          transport := irisTransportRenewClaim config begun.transport choices.link.now
          phase := .handled feed
          log := begun.log ++ more } := by
  unfold reopen
  dsimp only
  generalize startSession config (resetSession device) choices = begun
  obtain ⟨runtime, more, same, hellos, shape⟩ := greet_cases config
    { begun with transport := irisTransportRenewClaim config begun.transport choices.link.now } choices
  rw [shape]
  refine ⟨begun, _, more, rfl, ?_, hellos, rfl⟩
  exact same.trans ⟨⟨rfl, rfl, rfl, rfl⟩, rfl⟩

theorem produceFrame_cases (device : DeviceState) (burst : Nat) (progressed : Bool) (choices : Choices) :
    (∃ runtime more, SameInput device.runtime runtime ∧ (more = [] ∨ more = [.hello (published config device)]) ∧
        produceFrame config device burst progressed choices =
          { device with runtime := runtime, phase := .finish burst progressed, log := device.log ++ more }) ∨
      device.runtime.helloAcked = true ∧ produceFrame config device burst progressed choices =
        { device with
          mailbox := drainStart device.mailbox device.runtime
          phase := .drained burst progressed } := by
  unfold produceFrame
  dsimp only
  split
  · exact .inl ⟨_, [], .refl _, .inl rfl, by rw [List.append_nil]⟩
  split
  · obtain ⟨runtime, more, same, hellos, shape⟩ := greet_cases config device choices
    rw [shape]
    split
    · refine .inl ⟨_, more, ?_, hellos, rfl⟩
      exact same.trans ⟨⟨rfl, rfl, rfl, rfl⟩, rfl⟩
    · exact .inl ⟨_, more, same, hellos, rfl⟩
  split
  next ready =>
    split
    · exact .inl ⟨_, [], (queueEvent_untouched _ _ _).sameInput, .inl rfl, by rw [List.append_nil]⟩
    · exact .inr ⟨ready, rfl⟩
  · exact .inl ⟨_, [], .refl _, .inl rfl, by rw [List.append_nil]⟩

theorem produceService_input (device : DeviceState) (choices : Choices) :
    SameInput device.runtime (produceService device choices) := by
  have logged (runtime : Runtime) := (logIfFree_untouched runtime choices.record).sameInput
  have filed := (queueSome_untouched device.runtime choices.file).sameInput
  unfold produceService
  split
  · exact logged _
  dsimp only
  split
  · exact filed
  split
  · exact (filed.trans (queueFrame_untouched _ _).sameInput).trans (logged _)
  · exact (filed.trans (queueMedia_undisturbed _ _).sameInput).trans (logged _)

theorem drainedFrame_shape (device : DeviceState) (burst : Nat) (progressed : Bool) (choices : Choices) :
    ∃ runtime, SameInput device.runtime runtime ∧
      drainedFrame device burst progressed choices =
        { device with runtime := runtime, phase := .finish burst progressed } := by
  unfold drainedFrame
  split
  · exact ⟨_, .refl _, rfl⟩
  · exact ⟨_, produceService_input device choices, rfl⟩

inductive TaskMoves (before : DeviceState) (choices : Choices) : DeviceState → Prop
  | connected (transport : TransportManager) (phase : before.phase = .poll)
      (reports : irisTransportPoll config before.transport choices.link = (transport, .connected))
      (polled : Polled choices.link before.transport (transport, .connected)) (next : Phase)
      (goes : next = if (startSession config { before with transport := transport } choices).runtime.linkConnected
        then .pump 0 else .poll) :
      TaskMoves before choices { startSession config { before with transport := transport } choices with phase := next }
  | lost (transport : TransportManager) (phase : before.phase = .poll)
      (polled : Polled choices.link before.transport (transport, .disconnected)) :
      TaskMoves before choices { leaveServices { before with transport := transport } with phase := .ending }
  | still (transport : TransportManager) (phase : before.phase = .poll)
      (polled : Polled choices.link before.transport (transport, .none)) (next : Phase)
      (goes : next = if before.runtime.linkConnected then .pump 0 else .poll) :
      TaskMoves before choices { before with transport := transport, phase := next }
  | ended (phase : before.phase = .ending) : TaskMoves before choices { resetSession before with phase := .poll }
  | pumped (burst : Nat) (phase : before.phase = .pump burst) (runtime : Runtime) (transport : TransportManager)
      (rxFrom : Option Nat) (next : Phase) (wrote reads : List Observation)
      (same : SameSession before.runtime runtime) (closes : Closes before.transport transport)
      (writes : Writes before.transport wrote) (receives : Receives before runtime rxFrom reads)
      (goes : PumpsTo runtime next) :
      TaskMoves before choices { before with
        runtime := runtime
        transport := transport
        rxFrom := rxFrom
        phase := next
        log := before.log ++ (wrote ++ reads) }
  | fed (feed : Feed) (phase : before.phase = .feeding feed) (after : DeviceState)
      (feeds : Feeds config before feed choices.link after) : TaskMoves before choices after
  | done (feed : Feed) (phase : before.phase = .handled feed) (runtime : Runtime) (next : Phase)
      (same : SameInput before.runtime runtime) (goes : next = .feeding feed ∨ next = .produce feed.burst true) :
      TaskMoves before choices { before with runtime := runtime, phase := next }
  | reopened (feed : Feed) (phase : before.phase = .reopening feed) (begun : DeviceState) (runtime : Runtime)
      (more : List Observation) (begins : startSession config (resetSession before) choices = begun)
      (same : SameInput begun.runtime runtime)
      (hellos : more = [] ∨ more = [.hello (published config { begun with
        transport := irisTransportRenewClaim config begun.transport choices.link.now })]) :
      TaskMoves before choices { begun with
        runtime := runtime
        transport := irisTransportRenewClaim config begun.transport choices.link.now
        phase := .handled feed
        log := begun.log ++ more }
  | produced (burst : Nat) (progressed : Bool) (phase : before.phase = .produce burst progressed) (runtime : Runtime)
      (more : List Observation) (same : SameInput before.runtime runtime)
      (hellos : more = [] ∨ more = [.hello (published config before)]) :
      TaskMoves before choices { before with
        runtime := runtime
        phase := .finish burst progressed
        log := before.log ++ more }
  | drains (burst : Nat) (progressed : Bool) (phase : before.phase = .produce burst progressed)
      (ready : before.runtime.helloAcked = true) :
      TaskMoves before choices { before with
        mailbox := drainStart before.mailbox before.runtime
        phase := .drained burst progressed }
  | filled (burst : Nat) (progressed : Bool) (phase : before.phase = .drained burst progressed) (runtime : Runtime)
      (same : SameInput before.runtime runtime) :
      TaskMoves before choices { before with runtime := runtime, phase := .finish burst progressed }
  | finished (burst : Nat) (progressed : Bool) (phase : before.phase = .finish burst progressed) (runtime : Runtime)
      (transport : TransportManager) (next : Phase) (wrote : List Observation)
      (same : SameInput before.runtime runtime) (closes : Closes before.transport transport)
      (writes : Writes before.transport wrote) (goes : next = .poll ∨ ∃ burst, next = .pump burst) :
      TaskMoves before choices { before with
        runtime := runtime
        transport := transport
        phase := next
        log := before.log ++ wrote }

theorem pollLink_moves {device : DeviceState} (choices : Choices) (phase : device.phase = .poll)
    (reported : Reported device.transport) : TaskMoves config device choices (pollLink config device choices) := by
  have polled := irisTransportPoll_polled config choices.link reported
  unfold pollLink
  dsimp only
  generalize reports : irisTransportPoll config device.transport choices.link = result at polled ⊢
  obtain ⟨transport, event⟩ := result
  cases event with
  | connected => exact .connected transport phase reports polled _ rfl
  | disconnected => exact .lost transport phase polled
  | none => exact .still transport phase polled _ rfl

theorem taskStep_moves (device : DeviceState) (choices : Choices) (reported : Reported device.transport) :
    TaskMoves config device choices (taskStep config device choices) := by
  unfold taskStep
  split
  next phase => exact pollLink_moves config choices phase reported
  next phase => exact .ended phase
  next burst phase =>
    obtain ⟨runtime, transport, rxFrom, next, wrote, reads, same, closes, writes, receives, goes, shape⟩ :=
      pumpLink_cases device burst choices
    rw [shape]
    exact .pumped burst phase runtime transport rxFrom next wrote reads same closes writes receives goes
  next feed phase => exact .fed feed phase _ (feedRx_feeds config device feed choices)
  next feed phase =>
    obtain ⟨runtime, next, same, goes, shape⟩ := frameDone_shape device feed
    rw [shape]
    exact .done feed phase runtime next same goes
  next feed phase =>
    obtain ⟨begun, runtime, more, begins, same, hellos, shape⟩ := reopen_cases config device feed choices
    rw [shape]
    exact .reopened feed phase begun runtime more begins same hellos
  next burst progressed phase =>
    rcases produceFrame_cases config device burst progressed choices with
      ⟨runtime, more, same, hellos, shape⟩ | ⟨ready, shape⟩
    · rw [shape]
      exact .produced burst progressed phase runtime more same hellos
    · rw [shape]
      exact .drains burst progressed phase ready
  next burst progressed phase =>
    obtain ⟨runtime, same, shape⟩ := drainedFrame_shape device burst progressed choices
    rw [shape]
    exact .filled burst progressed phase runtime same
  next burst progressed phase =>
    obtain ⟨runtime, transport, next, wrote, same, closes, writes, goes, shape⟩ :=
      finishPump_cases device burst progressed choices
    rw [shape]
    exact .finished burst progressed phase runtime transport next wrote same closes writes goes

inductive DeviceMoves (before : DeviceState) : DeviceEvent → DeviceState → Prop
  | task (choices : Choices) (after : DeviceState) (admissible : choices.Admissible before)
      (outside : before.mailbox.call = .idle) (moves : TaskMoves config before choices after) :
      DeviceMoves before (.task choices) after
  | call (choices : Choices) (mailbox : Mailbox) (runtime : Runtime) (traces : List Trace)
      (same : SameInput before.runtime runtime)
      (step : callStep before.mailbox before.runtime before.issued choices.call = some (mailbox, runtime, traces)) :
      DeviceMoves before (.task choices) { before with
        mailbox := mailbox
        runtime := runtime
        log := before.log ++ traces.map .executor }
  | worker (input : WorkerInput) (mailbox : Mailbox) (traces : List Trace)
      (step : workerStep before.mailbox input = some (mailbox, traces)) :
      DeviceMoves before (.worker input) { before with
        mailbox := mailbox
        log := before.log ++ (if picks before.mailbox input then [.picked before.mailbox.ticket] else []) ++
          traces.map .executor }
  | line (hostOpen : Bool) :
      DeviceMoves before (.line hostOpen)
        { before with transport := { before.transport with usb := lineState before.transport.usb hostOpen } }
  | facts (event : DeviceEvent) (runtime : Runtime) (same : SameInput before.runtime runtime) :
      DeviceMoves before event { before with runtime := runtime }

theorem deviceNext_moves {device after : DeviceState} {event : DeviceEvent}
    (step : deviceNext config device event = some after) (reported : Reported device.transport) :
    DeviceMoves config device event after := by
  cases deviceNext_step config step with
  | task choices admissible outside =>
    exact .task choices _ admissible outside (taskStep_moves config device choices reported)
  | call choices result _ moved =>
    exact .call choices result.1 result.2.1 result.2.2 (callStep_untouched moved).sameInput moved
  | worker input result moved => exact .worker input result.1 result.2 moved
  | line hostOpen => exact .line hostOpen
  | schedule type => exact .facts _ _ (scheduleEvent_untouched _ _).sameInput
  | facts _ _ _ _ => exact .facts _ _ ⟨⟨rfl, rfl, rfl, rfl⟩, rfl⟩

end task

end EspIris.Device
