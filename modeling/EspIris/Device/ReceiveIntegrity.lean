import EspIris.Device.ProtocolTask
import EspIris.Device.Receive
import EspIris.Device.Undisturbed

/-! Whatever the device sends between two reads, it dispatches the frames of its session as if
they had arrived in one read, as long as no media frame is built over a frame received in part. -/

namespace EspIris.Device
open Codec.Device Machine Framing
variable (config : Config) (runtime : Runtime)

section shapes
variable {device : DeviceState} {choices : Choices} {feed : Feed} {burst : Nat} {progressed : Bool}

structure SessionRecord where
  read : List UInt8
  fed : List UInt8
  frames : List DecodedFrame

def SessionRecord.note (record : SessionRecord) : Observation → SessionRecord
  | .begun _ _ => ⟨[], [], []⟩
  | .ended => ⟨[], [], []⟩
  | .read _ bytes => { record with read := record.read ++ bytes }
  | .fed _ value => { record with fed := record.fed ++ [value] }
  | .frame frame => { record with frames := record.frames ++ [frame] }
  | _ => record

def sessionRecord (log : List Observation) : SessionRecord := log.foldl SessionRecord.note ⟨[], [], []⟩

theorem sessionRecord_snoc (log : List Observation) (observation : Observation) :
    sessionRecord (log ++ [observation]) = (sessionRecord log).note observation := by
  simp [sessionRecord, List.foldl_append]

def Observation.receives : Observation → Bool
  | .begun _ _ | .ended | .read _ _ | .fed _ _ | .frame _ => true
  | _ => false

theorem sessionRecord_append (log more : List Observation) (others : ∀ other ∈ more, other.receives = false) :
    sessionRecord (log ++ more) = sessionRecord log := by
  rw [sessionRecord, List.foldl_append, ← sessionRecord]
  induction more with
  | nil => rfl
  | cons other more ih =>
    have first : (sessionRecord log).note other = sessionRecord log := by
      have unrelated := others other (by simp)
      cases other <;> first | rfl | cases unrelated
    rw [List.foldl_cons, first]
    exact ih fun one inside => others one (List.mem_cons_of_mem _ inside)

theorem executor_receives (traces : List Trace) :
    ∀ other ∈ traces.map Observation.executor, other.receives = false := by
  intro other inside
  obtain ⟨trace, -, rfl⟩ := List.mem_map.mp inside
  rfl

def unread (device : DeviceState) : List UInt8 :=
  match device.phase with
  | .feeding feed | .handled feed | .reopening feed =>
    device.runtime.rxPending.drop (device.runtime.rxPendingOffset + feed.consumed)
  | _ => device.runtime.rxPending.drop device.runtime.rxPendingOffset

def ReceptionAt (runtime : Runtime) (fed : List UInt8) : Phase → Prop
  | .feeding feed => received runtime = wireRest fed ∧
      feed.data = runtime.rxPending.drop (runtime.rxPendingOffset + feed.consumed) ∧ runtime.sessionId = feed.session
  | .handled feed => wireRest fed = .empty ∧ runtime.rxDiscarding = false ∧
      (runtime.txWire = [] → feed.data = runtime.rxPending.drop (runtime.rxPendingOffset + feed.consumed) ∧
        runtime.sessionId = feed.session) ∧
      (runtime.sessionId = feed.session ∨ runtime.rxPending = [])
  | .reopening _ => True
  | _ => received runtime = wireRest fed

structure Intact (device : DeviceState) : Prop where
  room : RxRoom device.runtime
  challenge : device.challenge.length = authChallengeBytes
  frames : (sessionRecord device.log).frames = wireFrames (sessionRecord device.log).fed
  split : (sessionRecord device.log).read = (sessionRecord device.log).fed ++ unread device
  reception : ReceptionAt device.runtime (sessionRecord device.log).fed device.phase

def sendsMedia (device : DeviceState) (choices : Choices) : Bool :=
  match device.phase with
  | .drained _ _ =>
    decide (device.mailbox.call = .idle) && device.runtime.txWire.isEmpty && !executorBusy device.mailbox &&
      (queueSome device.runtime choices.file).txWire.isEmpty &&
      choices.job.isNone && (readySlot choices.media Channel.screen).isSome
  | _ => false

def NoMediaOverPartial (device : DeviceState) : DeviceEvent → Prop
  | .task choices => sendsMedia device choices = true → device.runtime.rxWireLength = 0
  | _ => True

instance (device : DeviceState) : (event : DeviceEvent) → Decidable (NoMediaOverPartial device event)
  | .task choices => inferInstanceAs (Decidable (sendsMedia device choices = true → device.runtime.rxWireLength = 0))
  | .worker _ => isTrue trivial
  | .line _ => isTrue trivial
  | .schedule _ => isTrue trivial
  | .facts _ _ _ _ => isTrue trivial

theorem SameReception.rxRoom {before after : Runtime} (same : SameReception before after) (room : RxRoom before) :
    RxRoom after :=
  ⟨room.buffer.trans same.room, same.rxWireLength ▸ room.short, by
    rw [same.rxWireLength, same.rxDiscarding]
    exact room.dropping⟩

theorem Untouched.received {before after : Runtime} (same : Untouched before after) :
    received after = received before := by
  simp only [Device.received, same.rxWire, same.rxWireLength, same.rxDiscarding]

/-- A step that leaves reception alone keeps everything, in a phase that asks for the same. -/
theorem Intact.untouched {before after : DeviceState} (intact : Intact before)
    (same : Untouched before.runtime after.runtime) (phase : after.phase = before.phase)
    (challenge : after.challenge = before.challenge)
    (log : sessionRecord after.log = sessionRecord before.log) : Intact after := by
  have held := same.received
  obtain ⟨room, size, frames, split, reception⟩ := intact
  refine ⟨same.toSameReception.rxRoom room, challenge ▸ size, log ▸ frames, ?_, ?_⟩
  · rw [log, split]
    simp only [unread, phase, same.rxPending, same.rxPendingOffset]
  · rw [log, phase]
    cases at_phase : before.phase with
    | handled feed =>
      rw [at_phase] at reception
      obtain ⟨rest, discarding, data, session⟩ := reception
      refine ⟨rest, same.rxDiscarding.trans discarding, fun free => ?_, ?_⟩
      · rw [same.rxPending, same.rxPendingOffset, same.sessionId]
        exact data (same.slot free)
      · rw [same.rxPending, same.sessionId]
        exact session
    | feeding feed =>
      rw [at_phase] at reception
      obtain ⟨rest, data, session⟩ := reception
      exact ⟨held.trans rest, by rw [same.rxPending, same.rxPendingOffset]; exact data, same.sessionId.trans session⟩
    | reopening feed => trivial
    | _ =>
      rw [at_phase] at reception
      exact held.trans reception

def Phase.between : Phase → Bool
  | .feeding _ | .handled _ | .reopening _ => false
  | _ => true

/-- Between two calls of `feed_rx` the phases ask for the same. -/
theorem Intact.moved {phase : Phase} (intact : Intact device) (leaves : device.phase.between = true)
    (enters : phase.between = true) : Intact { device with phase := phase } := by
  obtain ⟨room, size, frames, split, reception⟩ := intact
  have unreadSame : unread { device with phase := phase } = unread device := by
    unfold unread
    cases at_phase : device.phase <;> rw [at_phase] at leaves <;> first | contradiction | skip
    all_goals cases phase <;> first | contradiction | rfl
  refine ⟨room, size, frames, split.trans (congrArg _ unreadSame.symm), ?_⟩
  have held : received device.runtime = wireRest (sessionRecord device.log).fed := by
    cases at_phase : device.phase <;> rw [at_phase] at leaves reception <;>
      first | contradiction | exact reception
  cases phase <;> first | contradiction | exact held

theorem Intact.passes {before after : DeviceState} (intact : Intact before)
    (same : Untouched before.runtime after.runtime) (challenge : after.challenge = before.challenge)
    (log : sessionRecord after.log = sessionRecord before.log) (leaves : before.phase.between = true)
    (enters : after.phase.between = true) : Intact after := by
  have kept : Intact { after with phase := before.phase } := intact.untouched same rfl challenge log
  exact kept.moved leaves enters

theorem Intact.reset (buffer : maxWireFrameSize ≤ device.runtime.rxWire.length)
    (challenge : device.challenge.length = authChallengeBytes) (record : sessionRecord device.log = ⟨[], [], []⟩)
    (pending : device.runtime.rxPending = []) (length : device.runtime.rxWireLength = 0)
    (discarding : device.runtime.rxDiscarding = false) (phase : device.phase.between = true) : Intact device := by
  have empty : received device.runtime = wireRest [] := by simp [received, length, discarding, wireRest, receive, Receiver.empty]
  refine ⟨⟨buffer, by rw [length]; exact Nat.zero_le _, fun _ => length⟩, challenge, ?_, ?_, ?_⟩
  · rw [record]
    rfl
  · rw [record]
    unfold unread
    split <;> simp [pending]
  · rw [record]
    cases at_phase : device.phase <;> rw [at_phase] at phase <;> first | contradiction | exact empty

theorem beginSession_shape {runtime begun : Runtime} {session : UInt32}
    (starts : beginSession runtime session = some begun) :
    begun.rxWire = runtime.rxWire ∧ begun.rxWireLength = 0 ∧ begun.rxDiscarding = false ∧ begun.rxPending = [] ∧
      begun.txWire = [] ∧ begun.sessionId = session ∧ runtime.sessionState = .disconnected ∧
      begun.sessionState = .negotiating ∧ begun.linkConnected = true ∧ begun.helloAcked = false := by
  obtain ⟨linked, moves, rfl⟩ := Option.map_eq_some_iff.mp starts
  obtain ⟨next, allowed, rfl⟩ := Option.map_eq_some_iff.mp moves
  simp only [irisSessionTransition] at allowed
  split at allowed
  · cases allowed
    simp_all
  · contradiction

theorem startSession_intact (intact : Intact device) (between : device.phase.between = true)
    (admissible : choices.Admissible device) :
    Intact (startSession config device choices) := by
  unfold startSession
  split
  · exact intact
  next begun starts =>
    obtain ⟨wire, length, discarding, pending, -⟩ := beginSession_shape starts
    have buffer : maxWireFrameSize ≤ begun.rxWire.length := wire ▸ intact.room.buffer
    split
    · exact .reset buffer intact.challenge (sessionRecord_snoc _ _) pending length discarding between
    · exact .reset buffer admissible.size (sessionRecord_snoc _ _) pending length discarding between

theorem leaveServices_record (device : DeviceState) :
    sessionRecord (leaveServices device).log = sessionRecord device.log := by
  unfold leaveServices
  split
  · exact sessionRecord_append _ _ (executor_receives _)
  · rfl

theorem leaveServices_runtime (device : DeviceState) :
    (leaveServices device).runtime = device.runtime ∧ (leaveServices device).phase = device.phase ∧
      (leaveServices device).challenge = device.challenge := by
  unfold leaveServices
  split <;> exact ⟨rfl, rfl, rfl⟩

theorem leaveServices_intact (intact : Intact device) : Intact (leaveServices device) := by
  obtain ⟨runtime, phase, challenge⟩ := leaveServices_runtime device
  exact intact.untouched (runtime ▸ .refl _) phase challenge (leaveServices_record device)

theorem startSession_phase (device : DeviceState) (choices : Choices) :
    (startSession config device choices).phase = device.phase := by
  unfold startSession
  split
  · rfl
  · split <;> rfl

theorem pollLink_intact (intact : Intact device) (phase : device.phase = .poll) (admissible : choices.Admissible device) :
    Intact (pollLink config device choices) := by
  have goOn {next : DeviceState} (intact : Intact next) (phase : next.phase = .poll) :
      Intact { next with phase := if next.runtime.linkConnected then .pump 0 else .poll } := by
    refine intact.moved (by rw [phase]; rfl) ?_
    split <;> rfl
  have polled : Intact { device with transport := (irisTransportPoll config device.transport choices.link).1 } :=
    intact.untouched (.refl _) rfl rfl rfl
  unfold pollLink
  dsimp only
  split
  · refine goOn (startSession_intact config polled (by rw [phase]; rfl) ⟨admissible.1, admissible.2, admissible.3, admissible.4⟩) ?_
    rw [startSession_phase]
    exact phase
  · refine (leaveServices_intact polled).moved ?_ rfl
    rw [(leaveServices_runtime _).2.1, phase]
    rfl
  · exact goOn polled phase

theorem resetSession_intact (intact : Intact device) (phase : Phase) (enters : phase.between = true) :
    Intact { resetSession device with phase := phase } :=
  .reset intact.room.buffer intact.challenge (sessionRecord_snoc _ _) rfl rfl rfl enters

theorem flushTx_shape (device : DeviceState) (sent : LinkWrite) :
    ∃ txWire txWireOffset txFrames transport more,
      (flushTx device sent).1 = { device with
        runtime := { device.runtime with txWire := txWire, txWireOffset := txWireOffset, txFrames := txFrames }
        transport := transport
        log := device.log ++ more } ∧
      ∀ other ∈ more, ∃ connection count, other = .wrote connection count := by
  unfold flushTx
  split
  · exact ⟨device.runtime.txWire, device.runtime.txWireOffset, device.runtime.txFrames, device.transport, [],
      by rw [List.append_nil], by simp⟩
  dsimp only
  split
  · exact ⟨_, _, _, _, [], by rw [List.append_nil], by simp⟩
  · split <;> exact ⟨_, _, _, _, [_], rfl, by simp⟩

theorem flushTx_intact (intact : Intact device) (sent : LinkWrite) (between : device.phase.between = true) :
    Intact (flushTx device sent).1 := by
  obtain ⟨txWire, txWireOffset, txFrames, transport, more, shape, others⟩ := flushTx_shape device sent
  have record : sessionRecord (device.log ++ more) = sessionRecord device.log :=
    sessionRecord_append _ _ fun other inside => by
      obtain ⟨connection, count, rfl⟩ := others other inside
      rfl
  obtain ⟨room, challenge, frames, split, reception⟩ := intact
  rw [shape]
  refine ⟨⟨room.buffer, room.short, room.dropping⟩, challenge, record ▸ frames, record ▸ split, ?_⟩
  rw [record]
  cases at_phase : device.phase <;> rw [at_phase] at between reception <;>
    first | contradiction | exact reception

theorem flushTx_phase (device : DeviceState) (sent : LinkWrite) : (flushTx device sent).1.phase = device.phase := by
  obtain ⟨_, _, _, _, _, shape, -⟩ := flushTx_shape device sent
  rw [shape]

theorem nextBurst_intact (intact : Intact device) (burst : Nat) (progressed : Bool)
    (between : device.phase.between = true) : Intact (nextBurst device burst progressed) := by
  unfold nextBurst
  refine intact.moved between ?_
  split <;> rfl

theorem disconnectAfterTx_intact (intact : Intact device) :
    Intact (disconnectAfterTx device) :=
  intact.untouched ⟨⟨⟨rfl, rfl, rfl, rfl, rfl, le_refl _, id⟩, rfl, rfl, rfl⟩, rfl⟩ rfl rfl rfl

theorem fetchPending_intact (intact : Intact device) (read : LinkRead) (phase : device.phase = .pump burst) :
    Intact (fetchPending device read) := by
  obtain ⟨room, challenge, frames, split, reception⟩ := intact
  have unreadIs : unread device = device.runtime.rxPending.drop device.runtime.rxPendingOffset := by
    rw [unread, phase]
  unfold fetchPending
  split
  next used =>
    have none : unread device = [] := by rw [unreadIs, used, List.drop_length]
    rw [phase] at reception
    dsimp only
    split
    next nothing =>
      refine ⟨⟨room.buffer, room.short, room.dropping⟩, challenge, frames, ?_, phase ▸ reception⟩
      rw [split, none]
      simp [unread, phase, nothing]
    next something =>
      have record := sessionRecord_snoc device.log (.read (linkConnection device.transport)
        (irisTransportRead device.transport read).2)
      refine ⟨⟨room.buffer, room.short, room.dropping⟩, challenge, ?_, ?_, ?_⟩
      · rw [record]
        exact frames
      · rw [record, SessionRecord.note, split, none]
        simp [unread, phase]
      · rw [record, phase]
        exact reception
  next => exact ⟨room, challenge, frames, split, reception⟩

theorem fetchPending_phase (device : DeviceState) (read : LinkRead) :
    (fetchPending device read).phase = device.phase := by
  unfold fetchPending
  split
  · dsimp only
    split <;> rfl
  · rfl

theorem pumpLink_intact (intact : Intact device) (phase : device.phase = .pump burst) :
    Intact (pumpLink device burst choices) := by
  have between : device.phase.between = true := by rw [phase]; rfl
  have flushed := flushTx_intact intact choices.sent between
  have flushedPhase : (flushTx device choices.sent).1.phase = .pump burst := (flushTx_phase _ _).trans phase
  have fetched := fetchPending_intact flushed choices.received flushedPhase
  have fetchedPhase := (fetchPending_phase (flushTx device choices.sent).1 choices.received).trans flushedPhase
  unfold pumpLink
  dsimp only
  split
  · exact nextBurst_intact (disconnectAfterTx_intact flushed) _ _ (by rw [disconnectAfterTx, flushedPhase]; rfl)
  split
  · exact nextBurst_intact flushed _ _ (by rw [flushedPhase]; rfl)
  split
  · exact fetched.moved (by rw [fetchedPhase]; rfl) rfl
  · obtain ⟨room, challenge, frames, split, reception⟩ := fetched
    rw [fetchedPhase] at reception
    refine ⟨room, challenge, frames, ?_, reception, rfl, rfl⟩
    rw [split, unread, fetchedPhase]
    rfl

structure Handles (before after : DeviceState) (feed : Feed) : Prop where
  reception : SameReception before.runtime after.runtime
  phase : after.phase = .handled feed ∨ after.phase = .reopening feed
  challenge : after.challenge = before.challenge
  record : sessionRecord after.log = sessionRecord before.log

theorem transitionSession_reception {runtime next : Runtime} {event : SessionEvent}
    (moves : transitionSession runtime event = some next) : SameReception runtime next := by
  obtain ⟨state, -, rfl⟩ := Option.map_eq_some_iff.mp moves
  exact ⟨rfl, rfl, rfl, rfl, rfl, le_refl _, id⟩

theorem answerAuth_untouched (kind : Option TransportKind) (runtime : Runtime) (header : WireHeader) (verdict : EspErr)
    : Untouched runtime (answerAuth config kind runtime header verdict) := by
  unfold answerAuth
  split
  · exact .refl runtime
  dsimp only
  split
  · exact queueFrame_untouched _ _
  · exact (queueFrame_untouched _ _).trans ⟨⟨⟨rfl, rfl, rfl, rfl, rfl, le_refl _, id⟩, rfl, rfl, rfl⟩, rfl⟩

theorem handleHelloAck_handles (device : DeviceState) (feed : Feed) (frame : DecodedFrame) (choices : Choices) :
    Handles device (handleHelloAck config device feed frame choices) feed := by
  unfold handleHelloAck
  dsimp only
  generalize irisServicesAuthenticate _ _ _ _ _ _ = verdict
  have answered := (answerAuth_untouched config (irisTransportKind config device.transport) device.runtime
    frame.header verdict).toSameReception
  split
  · split
    · exact ⟨(refuse_untouched _ _ _).toSameReception, .inl rfl, rfl, rfl⟩
    · obtain ⟨runtime, -, challenge⟩ := leaveServices_runtime device
      refine ⟨?_, .inr rfl, challenge, leaveServices_record device⟩
      rw [runtime]
      exact (Untouched.refl _).toSameReception
  split
  · exact ⟨(Untouched.refl _).toSameReception, .inl rfl, rfl, rfl⟩
  split
  · exact ⟨answered, .inl rfl, rfl, rfl⟩
  split
  · exact ⟨answered, .inl rfl, rfl, rfl⟩
  next ready moves =>
    have moved := transitionSession_reception moves
    refine ⟨(answered.trans moved).trans (scheduleSessionEvents_untouched ready).toSameReception, .inl rfl, rfl, ?_⟩
    refine sessionRecord_append _ _ ?_
    simp [Observation.receives]

theorem serveFrame_handles (device : DeviceState) (feed : Feed) (frame : DecodedFrame) (choices : Choices) :
    Handles device (serveFrame config device feed frame choices) feed := by
  have record : sessionRecord (device.log ++ [.served frame]) = sessionRecord device.log :=
    sessionRecord_snoc _ _
  unfold serveFrame DeviceState.note
  dsimp only
  split
  · exact ⟨(handleControl_undisturbed _ _ _).toSameReception, .inl rfl, rfl, record⟩
  split
  · exact ⟨(handleCrash_undisturbed _ _ _).toSameReception, .inl rfl, rfl, record⟩
  · refine ⟨?_, .inl rfl, rfl, record⟩
    split
    · exact (serveInline_undisturbed _ _ _).toSameReception
    · exact (Untouched.refl _).toSameReception

theorem Handles.after {before middle after : DeviceState} (handles : Handles middle after feed)
    (reception : SameReception before.runtime middle.runtime) (challenge : middle.challenge = before.challenge)
    (record : sessionRecord middle.log = sessionRecord before.log) : Handles before after feed :=
  ⟨reception.trans handles.reception, handles.phase, handles.challenge.trans challenge, handles.record.trans record⟩

theorem countInvalid_handles (device : DeviceState) (feed : Feed) :
    Handles device { countInvalid device with phase := .handled feed } feed :=
  ⟨⟨rfl, rfl, rfl, rfl, rfl, le_refl _, id⟩, .inl rfl, rfl, rfl⟩

theorem gateFrame_handles (device : DeviceState) (feed : Feed) (frame : DecodedFrame) (choices : Choices) :
    Handles device (gateFrame config device feed frame choices) feed := by
  unfold gateFrame
  split
  · exact countInvalid_handles device feed
  split
  · exact countInvalid_handles device feed
  split
  · exact handleHelloAck_handles config device feed frame choices
  split
  · exact countInvalid_handles device feed
  · have noted := (noteSequence_untouched device.runtime frame.header).toSameReception
    exact (serveFrame_handles config { device with runtime := noteSequence device.runtime frame.header } feed frame
      choices).after noted rfl rfl

theorem handleFrame_handles (device : DeviceState) (feed : Feed) (frame : DecodedFrame) (choices : Choices) :
    Handles device (handleFrame config device feed frame choices) feed :=
  (gateFrame_handles config _ feed frame choices).after ⟨rfl, rfl, rfl, rfl, rfl, le_refl _, id⟩ rfl rfl

theorem finishFeed_intact {device : DeviceState} {feed : Feed} (room : RxRoom device.runtime)
    (challenge : device.challenge.length = authChallengeBytes)
    (frames : (sessionRecord device.log).frames = wireFrames (sessionRecord device.log).fed)
    (split : (sessionRecord device.log).read = (sessionRecord device.log).fed ++
      device.runtime.rxPending.drop (device.runtime.rxPendingOffset + feed.consumed))
    (held : received device.runtime = wireRest (sessionRecord device.log).fed)
    (session : device.runtime.sessionId = feed.session ∨ device.runtime.rxPending = []) :
    Intact (finishFeed device feed) := by
  have runtime : (finishFeed device feed).runtime = { device.runtime with
      rxPendingOffset := if device.runtime.sessionId = feed.session then
        device.runtime.rxPendingOffset + feed.consumed else device.runtime.rxPendingOffset } := by
    unfold finishFeed
    split <;> rfl
  refine ⟨?_, challenge, frames, ?_, ?_⟩
  · rw [runtime]
    exact ⟨room.buffer, room.short, room.dropping⟩
  · refine split.trans (congrArg _ ?_)
    simp only [unread, finishFeed]
    split
    · rfl
    next other =>
      rw [session.resolve_left other]
      simp
  · change received (finishFeed device feed).runtime = _
    rw [runtime]
    exact held

theorem Handles.intact {before after : DeviceState} {feed : Feed} (handles : Handles before after feed)
    (room : RxRoom before.runtime) (challenge : before.challenge.length = authChallengeBytes)
    (frames : (sessionRecord before.log).frames = wireFrames (sessionRecord before.log).fed)
    (split : (sessionRecord before.log).read = (sessionRecord before.log).fed ++
      before.runtime.rxPending.drop (before.runtime.rxPendingOffset + feed.consumed))
    (rest : wireRest (sessionRecord before.log).fed = .empty) (keeps : before.runtime.rxDiscarding = false)
    (data : feed.data = before.runtime.rxPending.drop (before.runtime.rxPendingOffset + feed.consumed))
    (session : before.runtime.sessionId = feed.session) : Intact after := by
  obtain ⟨reception, phase, challengeSame, record⟩ := handles
  refine ⟨reception.rxRoom room, challengeSame ▸ challenge, record ▸ frames, ?_, ?_⟩
  · rw [record, split]
    rcases phase with handled | reopens
    · simp only [unread, handled, reception.rxPending, reception.rxPendingOffset]
    · simp only [unread, reopens, reception.rxPending, reception.rxPendingOffset]
  · rcases phase with handled | reopens
    · rw [handled, record]
      refine ⟨rest, reception.rxDiscarding.trans keeps, fun _ => ⟨?_, ?_⟩, .inl ?_⟩
      · rw [reception.rxPending, reception.rxPendingOffset]
        exact data
      · exact reception.sessionId.trans session
      · exact reception.sessionId.trans session
    · rw [reopens]
      trivial

theorem feedRx_intact (intact : Intact device) (phase : device.phase = .feeding feed) :
    Intact (feedRx config device feed choices) := by
  obtain ⟨room, challenge, frames, split, reception⟩ := intact
  rw [phase] at reception
  obtain ⟨held, data, session⟩ := reception
  simp only [unread, phase] at split
  unfold feedRx
  split
  next => exact finishFeed_intact room challenge frames split held (.inl session)
  next value rest isData =>
    have fed := sessionRecord_snoc device.log (.fed device.rxFrom value)
    have restIs : rest = device.runtime.rxPending.drop (device.runtime.rxPendingOffset + (feed.consumed + 1)) := by
      rw [← Nat.add_assoc, ← List.drop_drop, ← data, isData]
      rfl
    have readIs : (sessionRecord device.log).read = (sessionRecord device.log).fed ++ [value] ++
        device.runtime.rxPending.drop (device.runtime.rxPendingOffset + (feed.consumed + 1)) := by
      rw [split, ← restIs, ← data, isData]
      simp
    have framesWith (frames' : List DecodedFrame)
        (grows : frames' = ((take rxLimit 0 (received device.runtime) value).2.bind decodeWire).toList) :
        (sessionRecord device.log).frames ++ frames' = wireFrames ((sessionRecord device.log).fed ++ [value]) := by
      rw [wireFrames_snoc, frames, grows, held]
    have restWith : wireRest ((sessionRecord device.log).fed ++ [value]) =
        (take rxLimit 0 (received device.runtime) value).1 := by
      rw [wireRest_snoc, held]
    dsimp only [DeviceState.note]
    split
    next nothing =>
      obtain ⟨roomAfter, taken⟩ := receiveByte_none room nothing
      obtain ⟨rxWire, rxWireLength, rxDiscarding, invalidFrames, shape⟩ := receiveByte_shape device.runtime value
      refine ⟨roomAfter, challenge, ?_, ?_, ?_⟩
      · rw [fed]
        exact (List.append_nil _).symm.trans (framesWith [] (by rw [taken]; rfl))
      · rw [fed]
        simp only [unread, shape]
        exact readIs
      · rw [fed]
        refine ⟨?_, ?_, ?_⟩
        · rw [SessionRecord.note, restWith, taken]
        · rw [shape]
          exact restIs
        · rw [shape]
          exact session
    next reason completes =>
      obtain ⟨rxWire, shape, buffer, keeps, taken, decodes⟩ := receiveByte_some room completes
      rw [shape]
      refine ⟨⟨buffer, room.short, room.dropping⟩, challenge, ?_, ?_, ?_⟩
      · rw [countInvalid, fed]
        refine (List.append_nil _).symm.trans (framesWith [] ?_)
        rw [taken, Option.bind_some, ← decodes]
        rfl
      · rw [countInvalid, fed]
        exact readIs
      · rw [countInvalid, fed]
        refine ⟨by rw [SessionRecord.note, restWith, taken], keeps, fun _ => ⟨restIs, session⟩, .inl session⟩
    next frame completes =>
      obtain ⟨rxWire, shape, buffer, keeps, taken, decodes⟩ := receiveByte_some room completes
      rw [shape]
      have noted := sessionRecord_snoc (device.log ++ [.fed device.rxFrom value]) (.frame frame)
      rw [fed] at noted
      refine (handleFrame_handles config _ _ frame choices).intact ⟨buffer, room.short, room.dropping⟩ challenge
        ?_ ?_ ?_ keeps restIs session
      · rw [noted]
        refine framesWith [frame] ?_
        rw [taken, Option.bind_some, ← decodes]
        rfl
      · rw [noted]
        exact readIs
      · rw [noted, SessionRecord.note, SessionRecord.note, restWith, taken]

theorem frameDone_intact (intact : Intact device) (phase : device.phase = .handled feed) :
    Intact (frameDone device feed) := by
  obtain ⟨room, challenge, frames, split, reception⟩ := intact
  rw [phase] at reception
  obtain ⟨rest, keeps, data, session⟩ := reception
  simp only [unread, phase] at split
  have roomAfter : RxRoom { device.runtime with rxWireLength := 0 } := ⟨room.buffer, Nat.zero_le _, fun _ => rfl⟩
  have held : received { device.runtime with rxWireLength := 0 } = wireRest (sessionRecord device.log).fed := by
    rw [rest]
    simp [received, keeps, Receiver.empty]
  unfold frameDone
  dsimp only
  split
  · exact finishFeed_intact roomAfter challenge frames split held session
  next free =>
    rw [not_not] at free
    refine ⟨roomAfter, challenge, frames, split, held, data free⟩

/-- The fields of a HELLO fit, so that it is always queued in a free slot. -/
theorem queueHello_fills (fields : List UInt8) (challenge : Option (List UInt8)) (free : runtime.txWire = [])
    (fits : (helloPayload fields challenge).length ≤ helloPayloadSize) :
    (queueHello runtime fields challenge).1.txWire ≠ [] := by
  have reply : Reply.Fits ⟨Channel.control, ControlType.hello, Flag.reliable, 0, 0, helloPayload fields challenge⟩ :=
    ⟨(by decide : Channel.control < Channel.count), fits.trans (by decide)⟩
  rw [queueHello, if_neg (not_lt.mpr fits), queueFrame_empty runtime _ free reply]
  simp

theorem greet_fills (device : DeviceState) (choices : Choices)
    (admissible : choices.helloFields.length + (3 + authChallengeBytes) ≤ helloPayloadSize)
    (challenge : device.challenge.length = authChallengeBytes) (free : device.runtime.txWire = []) :
    (greet config device choices).1.runtime.txWire ≠ [] := by
  refine queueHello_fills _ _ _ free ?_
  unfold irisServicesAuthChallenge
  split
  · simp only [helloPayload, List.length_append, List.length_cons, challenge]
    simp only [irisPutLe16, List.length_cons, List.length_nil]
    omega
  · simp only [helloPayload]
    omega

theorem greet_shape (device : DeviceState) (choices : Choices) :
    ∃ runtime more, Untouched device.runtime runtime ∧ (∀ other ∈ more, ∃ challenge, other = .hello challenge) ∧
      (greet config device choices).1 = { device with runtime := runtime, log := device.log ++ more } := by
  unfold greet
  dsimp only
  split
  · exact ⟨_, _, queueHello_untouched _ _ _, by simp, rfl⟩
  · exact ⟨_, [], queueHello_untouched _ _ _, by simp, by rw [List.append_nil]⟩

theorem greet_record (device : DeviceState) (choices : Choices) :
    sessionRecord (greet config device choices).1.log = sessionRecord device.log := by
  obtain ⟨_, more, -, others, shape⟩ := greet_shape config device choices
  rw [shape]
  exact sessionRecord_append _ _ fun other inside => by
    obtain ⟨challenge, rfl⟩ := others other inside
    rfl

/-- A session that starts has received nothing, and its challenge has its size. -/
theorem startSession_fresh {begun : Runtime} (starts : beginSession device.runtime choices.session = some begun)
    (challenge : device.challenge.length = authChallengeBytes) (size : choices.random.length = authChallengeBytes) :
    (startSession config device choices).runtime = begun ∧
      (startSession config device choices).challenge.length = authChallengeBytes ∧
      sessionRecord (startSession config device choices).log = ⟨[], [], []⟩ := by
  unfold startSession
  rw [starts]
  dsimp only
  split
  · exact ⟨rfl, challenge, sessionRecord_snoc _ _⟩
  · exact ⟨rfl, size, sessionRecord_snoc _ _⟩

/-- A session that is opened again has begun anew, and its HELLO is in the TX slot. -/
theorem reopen_fresh (challenge : device.challenge.length = authChallengeBytes) (admissible : choices.Admissible device) :
    ∃ begun, beginSession (resetSession device).runtime choices.session = some begun ∧
      SameReception begun (reopen config device feed choices).runtime ∧
      (reopen config device feed choices).challenge.length = authChallengeBytes ∧
      sessionRecord (reopen config device feed choices).log = ⟨[], [], []⟩ ∧
      (reopen config device feed choices).runtime.txWire ≠ [] := by
  obtain ⟨begun, starts⟩ : ∃ begun, beginSession (resetSession device).runtime choices.session = some begun :=
    ⟨_, rfl⟩
  obtain ⟨-, -, -, -, free, -⟩ := beginSession_shape starts
  obtain ⟨runtime, fresh, record⟩ := startSession_fresh config starts challenge admissible.size
  refine ⟨begun, starts, ?_⟩
  unfold reopen
  dsimp only
  generalize startSession config (resetSession device) choices = started at runtime fresh record ⊢
  subst runtime
  have fills := greet_fills config { started with
    transport := irisTransportRenewClaim config started.transport choices.link.now } choices admissible.fields
    fresh free
  obtain ⟨runtime, more, same, -, shape⟩ := greet_shape config { started with
    transport := irisTransportRenewClaim config started.transport choices.link.now } choices
  have recordAfter := greet_record config { started with
    transport := irisTransportRenewClaim config started.transport choices.link.now } choices
  rw [shape] at fills recordAfter ⊢
  exact ⟨same.toSameReception.trans ⟨rfl, rfl, rfl, rfl, rfl, le_refl _, id⟩, fresh, recordAfter.trans record, fills⟩

theorem reopen_intact (intact : Intact device) (admissible : choices.Admissible device) :
    Intact (reopen config device feed choices) := by
  obtain ⟨begun, starts, same, challenge, empty, fills⟩ := reopen_fresh config intact.challenge admissible
  obtain ⟨wire, length, discarding, pending, -⟩ := beginSession_shape starts
  have buffer : maxWireFrameSize ≤ begun.rxWire.length := wire ▸ intact.room.buffer
  have nothing := same.rxPending.trans pending
  refine ⟨⟨?_, ?_, fun _ => same.rxWireLength.trans length⟩, challenge, ?_, ?_, ?_⟩
  · exact buffer.trans same.room
  · exact (same.rxWireLength.trans length).le.trans (Nat.zero_le _)
  · rw [empty]
    rfl
  · rw [empty]
    simp [unread, nothing, show (reopen config device feed choices).phase = .handled feed from rfl]
  · rw [empty]
    exact ⟨rfl, same.rxDiscarding.trans discarding, fun free => absurd free fills, .inr nothing⟩

theorem produceFrame_intact (intact : Intact device) (phase : device.phase = .produce burst progressed) :
    Intact (produceFrame config device burst progressed choices) := by
  have leaves : device.phase.between = true := by rw [phase]; rfl
  unfold produceFrame
  dsimp only
  split
  · exact intact.passes (.refl _) rfl rfl leaves rfl
  split
  · have record := greet_record config device choices
    obtain ⟨runtime, more, same, -, shape⟩ := greet_shape config device choices
    rw [shape] at record ⊢
    split
    · exact intact.passes (same.trans ⟨⟨⟨rfl, rfl, rfl, rfl, rfl, le_refl _, id⟩, rfl, rfl, rfl⟩, rfl⟩) rfl record
        leaves rfl
    · exact intact.passes same rfl record leaves rfl
  split
  · split
    · exact intact.passes (queueEvent_untouched _ _ _) rfl rfl leaves rfl
    · exact intact.passes (.refl _) rfl rfl leaves rfl
  · exact intact.passes (.refl _) rfl rfl leaves rfl

theorem queueSome_untouched (reply : Option Reply) :
    Untouched runtime (queueSome runtime reply) := by
  cases reply with
  | none => exact .refl runtime
  | some reply => exact queueFrame_untouched runtime reply

theorem logIfFree_untouched (record : Option (List UInt8)) :
    Untouched runtime (logIfFree runtime record) := by
  unfold logIfFree
  split
  · exact queueNextLog_untouched runtime record
  · exact .refl runtime

theorem queueMedia_received {runtime : Runtime} {slots : List MediaSlot}
    (safe : (readySlot slots Channel.screen).isSome = true → runtime.rxWireLength = 0) :
    received (queueMedia runtime slots) = received runtime := by
  unfold queueMedia
  split
  · rfl
  next channel slot payload ready =>
    have none : runtime.rxWireLength = 0 := safe (by rw [ready]; rfl)
    have queued := (queueFrame_untouched (runtime.scribble payload)
      ⟨channel, MediaType.data, 0, 0, slot.streamId, payload⟩).received
    rw [queued]
    simp [received, Runtime.scribble, none]

/-- What a service adds leaves the received part of a frame alone, if there is one. -/
theorem produceService_keeps (phase : device.phase = .drained burst progressed) (outside : device.mailbox.call = .idle)
    (free : device.runtime.txWire = []) (allowed : NoMediaOverPartial device (.task choices)) :
    Undisturbed device.runtime (produceService device choices) ∧
      received (produceService device choices) = received device.runtime := by
  have logged (runtime : Runtime) := logIfFree_untouched runtime choices.record
  have filed := queueSome_untouched device.runtime choices.file
  unfold produceService
  split
  · exact ⟨(logged _).toUndisturbed, (logged _).received⟩
  next notBusy =>
    dsimp only
    split
    · exact ⟨filed.toUndisturbed, filed.received⟩
    next empty =>
      split
      next reply _ =>
        have queued := (filed.trans (queueFrame_untouched _ reply)).trans (logged _)
        exact ⟨queued.toUndisturbed, queued.received⟩
      next noJob =>
        have media := filed.toUndisturbed.trans (queueMedia_undisturbed _ choices.media)
        refine ⟨media.trans (logged _).toUndisturbed, ?_⟩
        rw [(logged _).received, queueMedia_received, filed.received]
        intro ready
        rw [not_not] at empty
        rw [filed.rxWireLength]
        refine allowed ?_
        simp [sendsMedia, phase, outside, free, notBusy, empty, noJob, ready]

theorem drainedFrame_intact (intact : Intact device) (phase : device.phase = .drained burst progressed)
    (outside : device.mailbox.call = .idle) (allowed : NoMediaOverPartial device (.task choices)) :
    Intact (drainedFrame device burst progressed choices) := by
  have leaves : device.phase.between = true := by rw [phase]; rfl
  unfold drainedFrame
  split
  · exact intact.passes (.refl _) rfl rfl leaves rfl
  next free =>
    obtain ⟨same, held⟩ := produceService_keeps phase outside (not_not.mp free) allowed
    obtain ⟨room, challenge, frames, split, reception⟩ := intact
    refine ⟨same.toSameReception.rxRoom room, challenge, frames, split.trans (congrArg _ ?_), ?_⟩
    · simp only [unread, phase, same.rxPending, same.rxPendingOffset]
    · rw [phase] at reception
      exact held.trans reception

theorem finishPump_intact (intact : Intact device) (phase : device.phase = .finish burst progressed) :
    Intact (finishPump device burst progressed choices) := by
  have between : device.phase.between = true := by rw [phase]; rfl
  have flushed := flushTx_intact intact choices.sent between
  have flushedPhase : (flushTx device choices.sent).1.phase = .finish burst progressed := (flushTx_phase _ _).trans phase
  unfold finishPump
  dsimp only
  split
  · exact nextBurst_intact (disconnectAfterTx_intact flushed) _ _ (by rw [disconnectAfterTx, flushedPhase]; rfl)
  · exact nextBurst_intact flushed _ _ (by rw [flushedPhase]; rfl)

theorem taskStep_intact (intact : Intact device) (outside : device.mailbox.call = .idle)
    (admissible : choices.Admissible device) (allowed : NoMediaOverPartial device (.task choices)) :
    Intact (taskStep config device choices) := by
  unfold taskStep
  split
  next phase => exact pollLink_intact config intact phase admissible
  next => exact resetSession_intact intact .poll rfl
  next burst phase => exact pumpLink_intact intact phase
  next feed phase => exact feedRx_intact config intact phase
  next feed phase => exact frameDone_intact intact phase
  next feed => exact reopen_intact config intact admissible
  next burst progressed phase => exact produceFrame_intact config intact phase
  next burst progressed phase => exact drainedFrame_intact intact phase outside allowed
  next burst progressed phase => exact finishPump_intact intact phase

/-- The executor queues frames for the protocol task and does nothing else to the runtime. -/
theorem callStep_untouched {mailbox : Mailbox} {runtime : Runtime} {ticket : Nat} {input : CallInput}
    {result : Mailbox × Runtime × List Trace} (step : callStep mailbox runtime ticket input = some result) :
    Untouched runtime result.2.1 := by
  unfold callStep at step
  split at step
  case h_1 => contradiction
  case h_2 =>
    cases step
    exact queueFrame_untouched _ _
  case h_3 =>
    split at step
    · cases step
      exact .refl runtime
    · cases step
      exact queueFrame_untouched _ _
  case h_8 =>
    cases step
    unfold drainResult
    split
    · exact .refl runtime
    split
    · split
      · dsimp only
        split
        · exact queueFrame_untouched _ _
        · exact queueFrame_untouched _ _
      · exact ⟨⟨⟨rfl, rfl, rfl, rfl, rfl, le_refl _, id⟩, rfl, rfl, rfl⟩, rfl⟩
    · exact .refl runtime
  all_goals
    cases step
    exact .refl runtime

theorem deviceNext_intact {device after : DeviceState} {event : DeviceEvent} (intact : Intact device)
    (allowed : NoMediaOverPartial device event) (step : deviceNext config device event = some after) :
    Intact after := by
  cases deviceNext_step config step with
  | task choices admissible outside => exact taskStep_intact config intact outside admissible allowed
  | call choices result _ moved =>
    exact intact.untouched (callStep_untouched moved) rfl rfl (sessionRecord_append _ _ (executor_receives _))
  | worker input result moved =>
    refine intact.untouched (.refl _) rfl rfl ?_
    rw [List.append_assoc]
    exact sessionRecord_append _ _ (workerStep_observes rfl fun _ => rfl)
  | line hostOpen => exact intact.untouched (.refl _) rfl rfl rfl
  | schedule type => exact intact.untouched (scheduleEvent_untouched _ _) rfl rfl rfl
  | facts _ _ _ _ =>
    exact intact.untouched ⟨⟨⟨rfl, rfl, rfl, rfl, rfl, le_refl _, id⟩, rfl, rfl, rfl⟩, rfl⟩ rfl rfl rfl

end shapes

theorem device_intact : Invariant ((device config).guarded NoMediaOverPartial) Intact where
  start := by
    rintro state ⟨deviceId, bootId, rfl⟩
    exact .reset (by simp [DeviceState.initial, Runtime.zero]) (List.length_replicate ..) rfl rfl rfl rfl rfl
  step := fun _ _ _ intact step => deviceNext_intact config intact step.1 step.2

/-- The frames dispatched in a session are those of its bytes in one read, the bytes fed are a
prefix of the bytes read, and what is held of an unfinished frame is exactly its bytes. -/
structure ReceivedInOneRead (state : DeviceState) : Prop where
  dispatched : (sessionRecord state.log).frames = wireFrames (sessionRecord state.log).fed
  consumed : (sessionRecord state.log).read = (sessionRecord state.log).fed ++ unread state
  held : state.phase.between = true →
    state.runtime.rxWire.take state.runtime.rxWireLength = (wireRest (sessionRecord state.log).fed).held

/-- Reception does not depend on the reads or on what is sent, in every run in which no media
frame is sent while a frame has been received in part. -/
theorem received_in_one_read (config : Config) (state : DeviceState)
    (reached : Reachable ((device config).guarded NoMediaOverPartial) state) : ReceivedInOneRead state := by
  have ⟨room, challenge, frames, split, reception⟩ := (device_intact config).reachable reached
  refine ⟨frames, split, fun between => ?_⟩
  have held : received state.runtime = wireRest (sessionRecord state.log).fed := by
    cases phase : state.phase <;> rw [phase] at between reception <;> first | contradiction | exact reception
  rw [← held]
  rfl

def mirrorStart : List UInt8 := hostWire Channel.image MediaType.mirrorStart 0 1 (List.replicate 20 1)
def mediaCredit : List UInt8 := hostWire Channel.control ControlType.credit 0 1 [Channel.image, 0, 0, 0, 100, 0, 0, 0]
def helloAck : List UInt8 := hostWire Channel.control ControlType.helloAck 0 1 []
def ping : List UInt8 := hostWire Channel.control ControlType.ping 0 2 []

/-- A session up to its first frame. -/
def readyRun : List DeviceEvent :=
  [.task Choices.quiet.accepting, .task (Choices.quiet.reading helloAck)] ++
    List.replicate helloAck.length (.task Choices.quiet)

def firstFrame (state : DeviceState) : Bool := (sessionRecord state.log).frames.length = 1

theorem firstFrame_reached : ∃ state, Reachable ((device tcpOnly).guarded NoMediaOverPartial) state ∧
    (sessionRecord state.log).frames.length = 1 := by
  obtain ⟨state, run, first⟩ : ∃ state, Run ((device tcpOnly).guarded NoMediaOverPartial) (DeviceState.initial [] 0)
      readyRun state ∧ firstFrame state = true := Run.of_guarded_check (by decide +kernel)
  exact ⟨state, ⟨_, readyRun, ⟨[], 0, rfl⟩, run⟩, of_decide_eq_true first⟩

theorem received_in_one_read_after_helloAck :
    ∃ state, Reachable ((device tcpOnly).guarded NoMediaOverPartial) state ∧
      (sessionRecord state.log).frames.length = 1 ∧ ReceivedInOneRead state := by
  obtain ⟨state, reached, first⟩ := firstFrame_reached
  exact ⟨state, reached, first, received_in_one_read tcpOnly state reached⟩

def imageByte : MediaSlot where
  active := true
  pending := true
  data := some [1]
  fits := by decide
  credit := 100
  monotonicUs := 0
  frameId := 0
  dropped := 0
  flags := 0
  description := [0, 0, 1, 1, 0, 0]
  stride := 1
  streamId := 1

/-- A host starts an image stream and gives it credit, then its PING arrives in two reads, and an
image is submitted in between. -/
def splitPingRun : List DeviceEvent :=
  let mirrored := { Choices.quiet with
    handler := { Choices.quiet.handler with
      replies := [⟨Channel.image, MediaType.mirrorState, Flag.response, 1, 1, []⟩] } }
  let idle (count : Nat) : List DeviceEvent := List.replicate count (.task mirrored)
  [.task mirrored.accepting, .task (mirrored.reading (helloAck ++ mirrorStart))] ++
    idle (helloAck.length + mirrorStart.length + 4) ++
    [.task (mirrored.reading (mediaCredit ++ ping.take 4))] ++
    idle (mediaCredit.length + 6 + 7) ++ [.task { mirrored with media := [imageByte] }] ++ idle 1 ++
    [.task (mirrored.reading (ping.drop 4))] ++ idle (ping.length - 4)

def pingLost (state : DeviceState) : Bool :=
  (sessionRecord state.log).frames.length = 3 ∧ (wireFrames (sessionRecord state.log).fed).length = 4

theorem pingLost_reached : ∃ state, Reachable (device tcpOnly) state ∧
    (sessionRecord state.log).frames.length = 3 ∧ (wireFrames (sessionRecord state.log).fed).length = 4 := by
  obtain ⟨state, run, lost⟩ : ∃ state, Run (device tcpOnly) (DeviceState.initial [] 0) splitPingRun state ∧
      pingLost state = true := Run.of_check (by decide +kernel)
  exact ⟨state, ⟨_, splitPingRun, ⟨[], 0, rfl⟩, run⟩, of_decide_eq_true lost⟩

/-- The image is built over the first bytes of the PING, which is then lost. -/
theorem media_overwrites_partial_frame :
    ∃ state, Reachable (device tcpOnly) state ∧ ¬ ReceivedInOneRead state ∧
      (sessionRecord state.log).frames.length = 3 ∧ (wireFrames (sessionRecord state.log).fed).length = 4 := by
  obtain ⟨state, reached, dispatched, whole⟩ := pingLost_reached
  refine ⟨state, reached, fun intact => ?_, dispatched, whole⟩
  have same := congrArg List.length intact.dispatched
  omega

end EspIris.Device
