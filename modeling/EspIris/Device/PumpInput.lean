import EspIris.Device.SessionSteps

/-! The pending bytes between the link and the decoder: within a session every byte that was read
is fed once and in order, through early returns, parked input and sessions reset in the middle. -/

namespace EspIris.Device
open Codec.Device Machine

section shapes
variable {device : DeviceState} {choices : Choices} {before after : DeviceState} {feed : Feed} {burst : Nat}
variable {progressed : Bool}

/-- Where `feed_rx` stands in the pending bytes. A session that was reopened has none, and its
HELLO keeps `feed_rx` from going on with those of the old one. -/
def FeedAt (runtime : Runtime) : Phase → Prop
  | .feeding feed => runtime.sessionId = feed.session ∧
      runtime.rxPendingOffset + feed.consumed ≤ runtime.rxPending.length ∧
      feed.data = runtime.rxPending.drop (runtime.rxPendingOffset + feed.consumed)
  | .handled feed =>
    (runtime.sessionId = feed.session ∧ runtime.rxPendingOffset + feed.consumed ≤ runtime.rxPending.length ∧
        feed.data = runtime.rxPending.drop (runtime.rxPendingOffset + feed.consumed)) ∨
      runtime.sessionId ≠ feed.session ∧ runtime.rxPending = [] ∧ runtime.txWire ≠ []
  | .reopening feed => runtime.sessionId = feed.session
  | _ => True

structure Parked (device : DeviceState) : Prop where
  challenge : device.challenge.length = authChallengeBytes
  split : (sessionRecord device.log).read = (sessionRecord device.log).fed ++ unread device
  bound : device.runtime.rxPendingOffset ≤ device.runtime.rxPending.length
  feeds : FeedAt device.runtime device.phase

def DrawsOther (device : DeviceState) : DeviceEvent → Prop
  | .task choices => (∃ feed, device.phase = .reopening feed) → choices.session ≠ device.runtime.sessionId
  | _ => True

instance (device : DeviceState) (event : DeviceEvent) : Decidable (DrawsOther device event) :=
  match event with
  | .task choices =>
    match phase : device.phase with
    | .reopening feed =>
      decidable_of_iff (choices.session ≠ device.runtime.sessionId)
        ⟨fun other _ => other, fun draws => draws ⟨feed, phase⟩⟩
    | .poll | .ending | .pump _ | .feeding _ | .handled _ | .produce _ _ | .drained _ _ | .finish _ _ =>
      .isTrue fun ⟨feed, reopens⟩ => by rw [phase] at reopens; cases reopens
  | .worker _ | .line _ | .schedule _ | .facts _ _ _ _ => .isTrue trivial

theorem Parked.same (parked : Parked before) (same : SameReception before.runtime after.runtime)
    (phase : after.phase = before.phase) (challenge : after.challenge = before.challenge)
    (log : sessionRecord after.log = sessionRecord before.log) :
    Parked after := by
  obtain ⟨size, split, bound, feeds⟩ := parked
  refine ⟨challenge ▸ size, ?_, ?_, ?_⟩
  · rw [log, split]
    simp only [unread, phase, same.rxPending, same.rxPendingOffset]
  · rw [same.rxPending, same.rxPendingOffset]
    exact bound
  · rw [phase]
    cases at_phase : before.phase <;> rw [at_phase] at feeds
    case feeding feed =>
      unfold FeedAt at feeds ⊢
      rwa [same.rxPending, same.rxPendingOffset, same.sessionId]
    case handled feed =>
      unfold FeedAt at feeds ⊢
      rw [same.rxPending, same.rxPendingOffset, same.sessionId]
      rcases feeds with own | ⟨other, none, filled⟩
      · exact .inl own
      · exact .inr ⟨other, none, fun free => filled (same.slot free)⟩
    case reopening feed => exact same.sessionId.trans feeds
    all_goals trivial

/-- Between two calls of `feed_rx` only the pending bytes count. -/
theorem Parked.between (parked : Parked before) (pending : after.runtime.rxPending = before.runtime.rxPending)
    (offset : after.runtime.rxPendingOffset = before.runtime.rxPendingOffset)
    (challenge : after.challenge = before.challenge) (log : sessionRecord after.log = sessionRecord before.log)
    (leaves : before.phase.between = true) (enters : after.phase.between = true) : Parked after := by
  obtain ⟨size, split, bound, feeds⟩ := parked
  have direct {device : DeviceState} (between : device.phase.between = true) :
      unread device = device.runtime.rxPending.drop device.runtime.rxPendingOffset := by
    unfold unread
    cases at_phase : device.phase <;> rw [at_phase] at between <;> contradiction
  refine ⟨challenge ▸ size, ?_, ?_, ?_⟩
  · rw [log, split, direct leaves, direct enters, pending, offset]
  · rw [pending, offset]
    exact bound
  · cases at_phase : after.phase <;> rw [at_phase] at enters <;> first | contradiction | trivial

theorem Parked.fresh (challenge : device.challenge.length = authChallengeBytes)
    (record : sessionRecord device.log = ⟨[], [], []⟩) (pending : device.runtime.rxPending = [])
    (offset : device.runtime.rxPendingOffset = 0) (between : device.phase.between = true) : Parked device := by
  refine ⟨challenge, ?_, ?_, ?_⟩
  · rw [record]
    unfold unread
    split <;> simp [pending]
  · rw [offset]
    exact Nat.zero_le _
  · cases at_phase : device.phase <;> rw [at_phase] at between <;> first | contradiction | trivial

theorem beginSession_pending {runtime begun : Runtime} {session : UInt32}
    (starts : beginSession runtime session = some begun) : begun.rxPendingOffset = 0 := by
  obtain ⟨linked, moves, rfl⟩ := Option.map_eq_some_iff.mp starts
  rfl

theorem startSession_parked (config : Config) (parked : Parked device) (between : device.phase.between = true)
    (size : choices.random.length = authChallengeBytes) :
    Parked (startSession config device choices) := by
  cases starts : beginSession device.runtime choices.session with
  | none =>
    have same : startSession config device choices = device := by
      unfold startSession
      rw [starts]
    rwa [same]
  | some begun =>
    obtain ⟨runtime, challenge, record⟩ := startSession_fresh config starts parked.challenge size
    obtain ⟨-, -, -, pending, -⟩ := beginSession_shape starts
    refine .fresh challenge record (runtime ▸ pending) (runtime ▸ beginSession_pending starts) ?_
    rw [startSession_phase]
    exact between

theorem pollLink_parked (config : Config) (parked : Parked device) (phase : device.phase = .poll)
    (size : choices.random.length = authChallengeBytes) :
    Parked (pollLink config device choices) := by
  have between : device.phase.between = true := by rw [phase]; rfl
  have goOn {next : DeviceState} (parked : Parked next) (between : next.phase.between = true) :
      Parked { next with phase := if next.runtime.linkConnected then .pump 0 else .poll } := by
    refine parked.between rfl rfl rfl rfl between ?_
    split <;> rfl
  have polled : Parked { device with transport := (irisTransportPoll config device.transport choices.link).1 } :=
    parked.between rfl rfl rfl rfl between between
  unfold pollLink
  dsimp only
  split
  · refine goOn (startSession_parked config polled between size) ?_
    rw [startSession_phase]
    exact between
  · obtain ⟨runtime, -, challenge⟩ := leaveServices_runtime
      { device with transport := (irisTransportPoll config device.transport choices.link).1 }
    refine polled.between ?_ ?_ challenge (leaveServices_record _) between rfl
    · exact congrArg Runtime.rxPending runtime
    · exact congrArg Runtime.rxPendingOffset runtime
  · exact goOn polled between

section parked
variable (parked : Parked device)
include parked

theorem flushTx_parked (sent : LinkWrite) (between : device.phase.between = true) :
    Parked (flushTx device sent).1 := by
  obtain ⟨txWire, txWireOffset, txFrames, transport, more, shape, others⟩ := flushTx_shape device sent
  rw [shape]
  refine parked.between rfl rfl rfl (sessionRecord_append _ _ ?_) between between
  intro other inside
  obtain ⟨connection, count, rfl⟩ := others other inside
  rfl

theorem nextBurst_parked (burst : Nat) (progressed : Bool) (between : device.phase.between = true) :
    Parked (nextBurst device burst progressed) := by
  unfold nextBurst
  refine parked.between rfl rfl rfl rfl between ?_
  split <;> rfl

theorem disconnectAfterTx_parked (between : device.phase.between = true) :
    Parked (disconnectAfterTx device) :=
  parked.between rfl rfl rfl rfl between between

theorem fetchPending_parked (read : LinkRead) (phase : device.phase = .pump burst) :
    Parked (fetchPending device read) := by
  obtain ⟨challenge, split, bound, feeds⟩ := parked
  have unreadIs : unread device = device.runtime.rxPending.drop device.runtime.rxPendingOffset := by
    rw [unread, phase]
  unfold fetchPending
  split
  next used =>
    have none : unread device = [] := by rw [unreadIs, used, List.drop_length]
    dsimp only
    split
    next nothing =>
      refine ⟨challenge, ?_, Nat.zero_le _, ?_⟩
      · rw [split, none]
        simp [unread, phase, nothing]
      · rw [phase]
        trivial
    next something =>
      have record := sessionRecord_snoc device.log (.read (linkConnection device.transport)
        (irisTransportRead device.transport read).2)
      refine ⟨challenge, ?_, Nat.zero_le _, ?_⟩
      · rw [record, SessionRecord.note, split, none]
        simp [unread, phase]
      · rw [phase]
        trivial
  next => exact ⟨challenge, split, bound, feeds⟩

theorem pumpLink_parked (phase : device.phase = .pump burst) :
    Parked (pumpLink device burst choices) := by
  have between : device.phase.between = true := by rw [phase]; rfl
  have flushed := flushTx_parked parked choices.sent between
  have flushedPhase : (flushTx device choices.sent).1.phase = .pump burst := (flushTx_phase _ _).trans phase
  have flushedBetween : (flushTx device choices.sent).1.phase.between = true := by rw [flushedPhase]; rfl
  have fetched := fetchPending_parked flushed choices.received flushedPhase
  have fetchedPhase := (fetchPending_phase (flushTx device choices.sent).1 choices.received).trans flushedPhase
  unfold pumpLink
  dsimp only
  split
  · exact nextBurst_parked (disconnectAfterTx_parked flushed flushedBetween) _ _ flushedBetween
  split
  · exact nextBurst_parked flushed _ _ flushedBetween
  split
  · exact fetched.between rfl rfl rfl rfl (by rw [fetchedPhase]; rfl) rfl
  · obtain ⟨challenge, split, bound, feeds⟩ := fetched
    refine ⟨challenge, ?_, bound, rfl, bound, rfl⟩
    rw [split, unread, fetchedPhase]
    rfl

theorem finishFeed_parked (phase : device.phase = .feeding feed ∨ device.phase = .handled feed) :
    Parked (finishFeed device feed) := by
  obtain ⟨challenge, split, bound, feeds⟩ := parked
  have stands : device.runtime.sessionId = feed.session ∧
        device.runtime.rxPendingOffset + feed.consumed ≤ device.runtime.rxPending.length ∨
      device.runtime.sessionId ≠ feed.session ∧ device.runtime.rxPending = [] := by
    rcases phase with phase | phase <;> rw [phase] at feeds
    · exact .inl ⟨feeds.1, feeds.2.1⟩
    · rcases feeds with own | other
      · exact .inl ⟨own.1, own.2.1⟩
      · exact .inr ⟨other.1, other.2.1⟩
  have unreadIs : unread device = device.runtime.rxPending.drop (device.runtime.rxPendingOffset + feed.consumed) := by
    rcases phase with phase | phase <;> rw [unread, phase]
  unfold finishFeed
  rcases stands with ⟨same, room⟩ | ⟨other, none⟩
  · simp only [if_pos same]
    exact ⟨challenge, split.trans (congrArg _ unreadIs), room, trivial⟩
  · simp only [if_neg other]
    refine ⟨challenge, split.trans (congrArg _ ?_), bound, trivial⟩
    rw [unreadIs]
    simp [unread, none]

end parked

/-- After a frame was handled the pending bytes stand where they stood. -/
theorem Handles.parked (handles : Handles before after feed) (parked : Parked { before with phase := .feeding feed }) :
    Parked after := by
  obtain ⟨reception, phase, challengeSame, record⟩ := handles
  obtain ⟨challenge, split, bound, session, room, data⟩ := parked
  refine ⟨challengeSame ▸ challenge, ?_, ?_, ?_⟩
  · rw [record]
    refine split.trans (congrArg _ ?_)
    rcases phase with handled | reopens
    · simp only [unread, handled, reception.rxPending, reception.rxPendingOffset]
    · simp only [unread, reopens, reception.rxPending, reception.rxPendingOffset]
  · rw [reception.rxPending, reception.rxPendingOffset]
    exact bound
  · rcases phase with handled | reopens
    · rw [handled]
      refine .inl ⟨reception.sessionId.trans session, ?_, ?_⟩
      · rw [reception.rxPending, reception.rxPendingOffset]
        exact room
      · rw [reception.rxPending, reception.rxPendingOffset]
        exact data
    · rw [reopens]
      exact reception.sessionId.trans session

theorem feedRx_parked (config : Config) (parked : Parked device) (phase : device.phase = .feeding feed) :
    Parked (feedRx config device feed choices) := by
  unfold feedRx
  split
  next => exact finishFeed_parked parked (.inl phase)
  next value rest isData =>
    obtain ⟨challenge, split, bound, feeds⟩ := parked
    rw [phase] at feeds
    obtain ⟨session, room, data⟩ := feeds
    have fed := sessionRecord_snoc device.log (.fed device.rxFrom value)
    have inside : device.runtime.rxPendingOffset + feed.consumed < device.runtime.rxPending.length := by
      have some : 0 < (device.runtime.rxPending.drop (device.runtime.rxPendingOffset + feed.consumed)).length := by
        rw [← data, isData]
        exact Nat.zero_lt_succ _
      rw [List.length_drop] at some
      omega
    have restIs : rest = device.runtime.rxPending.drop (device.runtime.rxPendingOffset + (feed.consumed + 1)) := by
      rw [← Nat.add_assoc, ← List.drop_drop, ← data, isData]
      rfl
    have readIs : (sessionRecord device.log).read = (sessionRecord device.log).fed ++ [value] ++
        device.runtime.rxPending.drop (device.runtime.rxPendingOffset + (feed.consumed + 1)) := by
      simp only [unread, phase] at split
      rw [split, ← restIs, ← data, isData]
      simp
    obtain ⟨rxWire, rxWireLength, rxDiscarding, invalidFrames, shape⟩ := receiveByte_shape device.runtime value
    have moved (log : List Observation) (record : sessionRecord log = sessionRecord (device.log ++ [.fed device.rxFrom value]))
        (runtime : Runtime) (same : SameReception { device.runtime with
          rxWire := rxWire, rxWireLength := rxWireLength, rxDiscarding := rxDiscarding } runtime) :
        Parked { device with
          runtime := runtime
          phase := .feeding { feed with data := rest, consumed := feed.consumed + 1 }
          log := log } := by
      refine ⟨challenge, ?_, ?_, ?_⟩
      · rw [record, fed]
        simp only [unread, same.rxPending, same.rxPendingOffset]
        exact readIs
      · dsimp only
        rw [same.rxPending, same.rxPendingOffset]
        exact bound
      · refine ⟨same.sessionId.trans session, ?_, ?_⟩
        · rw [same.rxPending, same.rxPendingOffset]
          exact inside
        · rw [same.rxPending, same.rxPendingOffset]
          exact restIs
    have counted (invalid : UInt32) : SameReception { device.runtime with
          rxWire := rxWire, rxWireLength := rxWireLength, rxDiscarding := rxDiscarding }
        { device.runtime with
          rxWire := rxWire, rxWireLength := rxWireLength, rxDiscarding := rxDiscarding, invalidFrames := invalid } :=
      ⟨rfl, rfl, rfl, rfl, rfl, le_refl _, id⟩
    dsimp only [DeviceState.note]
    rw [shape]
    split
    next => exact moved _ rfl _ (counted invalidFrames)
    next reason completes =>
      have feeding := moved _ rfl _ (counted (invalidFrames + 1))
      refine ⟨feeding.challenge, feeding.split, feeding.bound, .inl feeding.feeds⟩
    next frame completes =>
      have noted := sessionRecord_snoc (device.log ++ [.fed device.rxFrom value]) (.frame frame)
      refine (handleFrame_handles config _ _ frame choices).parked ?_
      obtain ⟨challenge, split, bound, feeds⟩ := moved _ rfl _ (counted invalidFrames)
      refine ⟨challenge, ?_, bound, feeds⟩
      dsimp only
      rw [noted]
      exact split

theorem frameDone_parked (parked : Parked device) (phase : device.phase = .handled feed) :
    Parked (frameDone device feed) := by
  have cleared : Parked { device with runtime := { device.runtime with rxWireLength := 0 } } := by
    obtain ⟨challenge, split, bound, feeds⟩ := parked
    refine ⟨challenge, split, bound, ?_⟩
    rw [phase] at feeds
    dsimp only
    rw [phase]
    exact feeds
  unfold frameDone
  dsimp only
  split
  · exact finishFeed_parked cleared (.inr phase)
  next free =>
    rw [not_not] at free
    obtain ⟨challenge, split, bound, feeds⟩ := cleared
    dsimp only at feeds
    rw [phase] at feeds
    rcases feeds with own | ⟨-, -, filled⟩
    · refine ⟨challenge, split.trans (congrArg _ ?_), bound, own⟩
      simp only [unread, phase]
    · exact absurd free filled

theorem reopen_parked (config : Config) (parked : Parked device) (phase : device.phase = .reopening feed)
    (admissible : choices.Admissible device) (other : choices.session ≠ device.runtime.sessionId) :
    Parked (reopen config device feed choices) := by
  have old : device.runtime.sessionId = feed.session := by
    have feeds := parked.feeds
    rwa [phase] at feeds
  obtain ⟨begun, starts, same, challenge, empty, fills⟩ := reopen_fresh config parked.challenge admissible
  obtain ⟨-, -, -, pending, -, own, -⟩ := beginSession_shape starts
  have offset := beginSession_pending starts
  have nothing := same.rxPending.trans pending
  refine ⟨challenge, ?_, ?_, ?_⟩
  · rw [empty]
    simp [unread, nothing, show (reopen config device feed choices).phase = .handled feed from rfl]
  · rw [same.rxPendingOffset]
    exact offset.le.trans (Nat.zero_le _)
  · refine .inr ⟨?_, nothing, fills⟩
    intro again
    exact other (own.symm.trans (same.sessionId.symm.trans (again.trans old.symm)))

theorem produceFrame_parked (config : Config) (parked : Parked device)
    (phase : device.phase = .produce burst progressed) :
    Parked (produceFrame config device burst progressed choices) := by
  have leaves : device.phase.between = true := by rw [phase]; rfl
  unfold produceFrame
  dsimp only
  split
  · exact parked.between rfl rfl rfl rfl leaves rfl
  split
  · have record := greet_record config device choices
    obtain ⟨runtime, more, same, -, shape⟩ := greet_shape config device choices
    rw [shape] at record ⊢
    split <;> exact parked.between same.rxPending same.rxPendingOffset rfl record leaves rfl
  split
  · split
    · have same := queueEvent_untouched device.runtime
      exact parked.between (same _ _).rxPending (same _ _).rxPendingOffset rfl rfl leaves rfl
    · exact parked.between rfl rfl rfl rfl leaves rfl
  · exact parked.between rfl rfl rfl rfl leaves rfl

theorem produceService_undisturbed (device : DeviceState) (choices : Choices) :
    Undisturbed device.runtime (produceService device choices) := by
  have logged (runtime : Runtime) := (logIfFree_untouched runtime choices.record).toUndisturbed
  have filed := (queueSome_untouched device.runtime choices.file).toUndisturbed
  unfold produceService
  split
  · exact logged _
  dsimp only
  split
  · exact filed
  split
  · exact (filed.trans (queueFrame_untouched _ _).toUndisturbed).trans (logged _)
  · exact (filed.trans (queueMedia_undisturbed _ _)).trans (logged _)

theorem drainedFrame_parked (parked : Parked device) (phase : device.phase = .drained burst progressed) :
    Parked (drainedFrame device burst progressed choices) := by
  have leaves : device.phase.between = true := by rw [phase]; rfl
  have same := produceService_undisturbed device choices
  unfold drainedFrame
  split
  · exact parked.between rfl rfl rfl rfl leaves rfl
  · exact parked.between same.rxPending same.rxPendingOffset rfl rfl leaves rfl

theorem finishPump_parked (parked : Parked device) (phase : device.phase = .finish burst progressed) :
    Parked (finishPump device burst progressed choices) := by
  have between : device.phase.between = true := by rw [phase]; rfl
  have flushed := flushTx_parked parked choices.sent between
  have flushedBetween : (flushTx device choices.sent).1.phase.between = true := by rw [flushTx_phase]; exact between
  unfold finishPump
  dsimp only
  split
  · exact nextBurst_parked (disconnectAfterTx_parked flushed flushedBetween) _ _ flushedBetween
  · exact nextBurst_parked flushed _ _ flushedBetween

theorem taskStep_parked (config : Config) (parked : Parked device) (admissible : choices.Admissible device)
    (draws : DrawsOther device (.task choices)) :
    Parked (taskStep config device choices) := by
  unfold taskStep
  split
  next phase => exact pollLink_parked config parked phase admissible.size
  next => exact .fresh parked.challenge (sessionRecord_snoc _ _) rfl rfl rfl
  next burst phase => exact pumpLink_parked parked phase
  next feed phase => exact feedRx_parked config parked phase
  next feed phase => exact frameDone_parked parked phase
  next feed phase => exact reopen_parked config parked phase admissible (draws ⟨feed, phase⟩)
  next burst progressed phase => exact produceFrame_parked config parked phase
  next burst progressed phase => exact drainedFrame_parked parked phase
  next burst progressed phase => exact finishPump_parked parked phase

theorem deviceNext_parked (config : Config) {event : DeviceEvent} (parked : Parked device)
    (draws : device.mailbox.call = .idle → DrawsOther device event)
    (step : deviceNext config device event = some after) : Parked after := by
  cases deviceNext_step config step with
  | task choices admissible outside => exact taskStep_parked config parked admissible (draws outside)
  | call choices result _ moved =>
    exact parked.same (callStep_untouched moved).toSameReception rfl rfl
      (sessionRecord_append _ _ (executor_receives _))
  | worker input result moved =>
    refine parked.same (Untouched.refl _).toSameReception rfl rfl ?_
    rw [List.append_assoc]
    exact sessionRecord_append _ _ (workerStep_observes rfl fun _ => rfl)
  | line hostOpen => exact parked.same (Untouched.refl _).toSameReception rfl rfl rfl
  | schedule type => exact parked.same (scheduleEvent_untouched _ _).toSameReception rfl rfl rfl
  | facts _ _ _ _ => exact parked.same ⟨rfl, rfl, rfl, rfl, rfl, le_refl _, id⟩ rfl rfl rfl

end shapes

theorem device_parked (config : Config) : Invariant ((device config).guarded DrawsOther) Parked where
  start := by
    rintro state ⟨deviceId, bootId, rfl⟩
    exact .fresh (List.length_replicate ..) rfl rfl rfl rfl
  step := fun _ _ _ parked step => deviceNext_parked config parked (fun _ => step.1) step.2

end EspIris.Device
