import EspIris.Device.Pump

/-! A device that draws the id of its session again for a NEW_SESSION: `pump_link` takes the bytes
that were consumed in the old session for bytes of the new one, so that `rx_pending_offset` stands
behind `rx_pending_length`, and the device reads nothing more until the link goes down. -/

namespace EspIris.Device
open Codec.Device Machine

section shapes
variable {device : DeviceState} {choices : Choices} {burst : Nat} {progressed : Bool}

def DeafAt (runtime : Runtime) : Phase → Prop
  | .feeding _ | .reopening _ => False
  | .handled feed => runtime.txWire ≠ [] ∧ runtime.sessionId = feed.session ∧
      runtime.rxPending.length < runtime.rxPendingOffset + feed.consumed
  | _ => runtime.rxPending.length < runtime.rxPendingOffset

structure Deaf (device : DeviceState) : Prop where
  challenge : device.challenge.length = authChallengeBytes
  spent : DeafAt device.runtime device.phase

def Phase.consumes : Phase → Prop
  | .handled feed | .reopening feed => 0 < feed.consumed
  | _ => True

theorem DeafAt.same {before after : Runtime} {phase : Phase} (deaf : DeafAt before phase)
    (same : SameReception before after) : DeafAt after phase := by
  cases phase with
  | feeding feed => exact deaf
  | reopening feed => exact deaf
  | handled feed =>
    unfold DeafAt at deaf ⊢
    rw [same.rxPending, same.rxPendingOffset, same.sessionId]
    exact ⟨fun free => deaf.1 (same.slot free), deaf.2⟩
  | _ =>
    unfold DeafAt at deaf ⊢
    rw [same.rxPending, same.rxPendingOffset]
    exact deaf

theorem Deaf.same {before after : DeviceState} (deaf : Deaf before) (same : SameReception before.runtime after.runtime)
    (phase : after.phase = before.phase) (challenge : after.challenge = before.challenge) : Deaf after :=
  ⟨challenge ▸ deaf.challenge, phase ▸ deaf.spent.same same⟩

/-- Between two calls of `feed_rx` only the pending bytes count. -/
theorem Deaf.between {before after : DeviceState} (deaf : Deaf before)
    (pending : after.runtime.rxPending = before.runtime.rxPending)
    (offset : after.runtime.rxPendingOffset = before.runtime.rxPendingOffset)
    (challenge : after.challenge = before.challenge) (leaves : before.phase.between = true)
    (enters : after.phase.between = true) : Deaf after := by
  have short : before.runtime.rxPending.length < before.runtime.rxPendingOffset := by
    have spent := deaf.spent
    cases at_phase : before.phase <;> rw [at_phase] at spent leaves <;> first | contradiction | exact spent
  refine ⟨challenge ▸ deaf.challenge, ?_⟩
  cases at_phase : after.phase <;> rw [at_phase] at enters <;> first
    | contradiction
    | (unfold DeafAt; rw [pending, offset]; exact short)

theorem flushTx_deaf (deaf : Deaf device) (sent : LinkWrite) (between : device.phase.between = true) :
    Deaf (flushTx device sent).1 := by
  obtain ⟨txWire, txWireOffset, txFrames, transport, more, shape, -⟩ := flushTx_shape device sent
  rw [shape]
  exact deaf.between rfl rfl rfl between between

theorem nextBurst_deaf (deaf : Deaf device) (burst : Nat) (progressed : Bool) (between : device.phase.between = true) :
    Deaf (nextBurst device burst progressed) := by
  unfold nextBurst
  refine deaf.between rfl rfl rfl between ?_
  split <;> rfl

theorem disconnectAfterTx_deaf (deaf : Deaf device) (between : device.phase.between = true) :
    Deaf (disconnectAfterTx device) :=
  deaf.between rfl rfl rfl between between

theorem pumpLink_deaf (deaf : Deaf device) (phase : device.phase = .pump burst) :
    Deaf (pumpLink device burst choices) := by
  have between : device.phase.between = true := by rw [phase]; rfl
  have flushed := flushTx_deaf deaf choices.sent between
  have flushedPhase : (flushTx device choices.sent).1.phase = .pump burst := (flushTx_phase _ _).trans phase
  have flushedBetween : (flushTx device choices.sent).1.phase.between = true := by rw [flushedPhase]; rfl
  have short : (flushTx device choices.sent).1.runtime.rxPending.length <
      (flushTx device choices.sent).1.runtime.rxPendingOffset := by
    have spent := flushed.spent
    rwa [flushedPhase] at spent
  have unfetched : fetchPending (flushTx device choices.sent).1 choices.received = (flushTx device choices.sent).1 :=
    if_neg (Nat.ne_of_gt short)
  unfold pumpLink
  dsimp only
  rw [unfetched]
  split
  · exact nextBurst_deaf (disconnectAfterTx_deaf flushed flushedBetween) _ _ flushedBetween
  split
  · exact nextBurst_deaf flushed _ _ flushedBetween
  rw [if_pos (List.drop_eq_nil_of_le (Nat.le_of_lt short))]
  exact flushed.between rfl rfl rfl flushedBetween rfl

theorem frameDone_deaf {feed : Feed} (deaf : Deaf device) (phase : device.phase = .handled feed) :
    Deaf (frameDone device feed) := by
  have spent := deaf.spent
  rw [phase] at spent
  obtain ⟨filled, session, short⟩ := spent
  unfold frameDone
  dsimp only
  rw [if_pos filled]
  unfold finishFeed
  dsimp only
  rw [if_pos session]
  exact ⟨deaf.challenge, short⟩

theorem produceFrame_deaf (config : Config) (deaf : Deaf device) (phase : device.phase = .produce burst progressed) :
    Deaf (produceFrame config device burst progressed choices) := by
  have leaves : device.phase.between = true := by rw [phase]; rfl
  unfold produceFrame
  dsimp only
  split
  · exact deaf.between rfl rfl rfl leaves rfl
  split
  · obtain ⟨runtime, more, same, -, shape⟩ := greet_shape config device choices
    rw [shape]
    split <;> exact deaf.between same.rxPending same.rxPendingOffset rfl leaves rfl
  split
  · split
    · have same := queueEvent_untouched device.runtime
      exact deaf.between (same _ _).rxPending (same _ _).rxPendingOffset rfl leaves rfl
    · exact deaf.between rfl rfl rfl leaves rfl
  · exact deaf.between rfl rfl rfl leaves rfl

theorem drainedFrame_deaf (deaf : Deaf device) (phase : device.phase = .drained burst progressed) :
    Deaf (drainedFrame device burst progressed choices) := by
  have leaves : device.phase.between = true := by rw [phase]; rfl
  have same := produceService_undisturbed device choices
  unfold drainedFrame
  split
  · exact deaf.between rfl rfl rfl leaves rfl
  · exact deaf.between same.rxPending same.rxPendingOffset rfl leaves rfl

theorem finishPump_deaf (deaf : Deaf device) (phase : device.phase = .finish burst progressed) :
    Deaf (finishPump device burst progressed choices) := by
  have between : device.phase.between = true := by rw [phase]; rfl
  have flushed := flushTx_deaf deaf choices.sent between
  have flushedBetween : (flushTx device choices.sent).1.phase.between = true := by rw [flushTx_phase]; exact between
  unfold finishPump
  dsimp only
  split
  · exact nextBurst_deaf (disconnectAfterTx_deaf flushed flushedBetween) _ _ flushedBetween
  · exact nextBurst_deaf flushed _ _ flushedBetween

def StaysDeaf (before after : DeviceState) : Prop :=
  Deaf after ∨ (before.phase = .ending ∨ before.runtime.linkConnected = false) ∧ Parked after

end shapes

section task
variable (config : Config)

theorem pollLink_deaf {device : DeviceState} {choices : Choices} (agree : FlagsAgree device) (deaf : Deaf device)
    (phase : device.phase = .poll) (size : choices.random.length = authChallengeBytes) :
    StaysDeaf device (pollLink config device choices) := by
  have running : device.phase ≠ .ending := by rw [phase]; simp
  have leaves : device.phase.between = true := by rw [phase]; rfl
  have polled := irisTransportPoll_polled config choices.link agree.reported
  have entered (runtime : Runtime) : (if runtime.linkConnected then Phase.pump 0 else .poll).between = true := by
    split <;> rfl
  unfold pollLink
  dsimp only
  generalize irisTransportPoll config device.transport choices.link = result at polled ⊢
  cases polled with
  | connected transport idle =>
    have closed := agree.closed running idle
    have down : device.runtime.linkConnected = false := by
      rw [agree.linkConnected, closed]
      rfl
    cases starts : beginSession device.runtime choices.session with
    | none =>
      refine .inl ?_
      unfold startSession
      rw [starts]
      exact deaf.between rfl rfl rfl leaves (entered _)
    | some begun =>
      let opened : DeviceState := { device with transport := transport }
      have begins : beginSession opened.runtime choices.session = some begun := starts
      obtain ⟨runtime, challenge, record⟩ := startSession_fresh config begins deaf.challenge size
      obtain ⟨-, -, -, pending, -⟩ := beginSession_shape starts
      refine .inr ⟨.inr down, .fresh challenge record ?_ ?_ (entered _)⟩
      · exact runtime ▸ pending
      · exact runtime ▸ beginSession_pending starts
  | disconnected =>
    refine .inl ?_
    dsimp only
    rw [leaveServices_eq]
    exact deaf.between rfl rfl rfl leaves rfl
  | quiet => exact .inl (deaf.between rfl rfl rfl leaves (entered _))

theorem taskStep_deaf {device : DeviceState} {choices : Choices} (agree : FlagsAgree device) (deaf : Deaf device)
    (size : choices.random.length = authChallengeBytes) : StaysDeaf device (taskStep config device choices) := by
  have spent := deaf.spent
  unfold taskStep
  split
  next phase => exact pollLink_deaf config agree deaf phase size
  next phase => exact .inr ⟨.inl phase, .fresh deaf.challenge (sessionRecord_snoc _ _) rfl rfl rfl⟩
  next burst phase => exact .inl (pumpLink_deaf deaf phase)
  next feed phase =>
    rw [phase] at spent
    exact absurd spent id
  next feed phase => exact .inl (frameDone_deaf deaf phase)
  next feed phase =>
    rw [phase] at spent
    exact absurd spent id
  next burst progressed phase => exact .inl (produceFrame_deaf config deaf phase)
  next burst progressed phase => exact .inl (drainedFrame_deaf deaf phase)
  next burst progressed phase => exact .inl (finishPump_deaf deaf phase)

theorem deviceNext_deaf {before after : DeviceState} {event : DeviceEvent} (agree : FlagsAgree before)
    (deaf : Deaf before) (step : deviceNext config before event = some after) : StaysDeaf before after := by
  cases deviceNext_step config step with
  | task choices admissible _ => exact taskStep_deaf config agree deaf admissible.size
  | call choices result _ moved => exact .inl (deaf.same (callStep_untouched moved).toSameReception rfl rfl)
  | worker _ _ _ | line _ => exact .inl (deaf.same (Untouched.refl _).toSameReception rfl rfl)
  | schedule type => exact .inl (deaf.same (scheduleEvent_untouched _ _).toSameReception rfl rfl)
  | facts _ _ _ _ => exact .inl (deaf.same ⟨rfl, rfl, rfl, rfl, rfl, le_refl _, id⟩ rfl rfl)

theorem reopen_deaf {device : DeviceState} {feed : Feed} {choices : Choices} (parked : Parked device)
    (phase : device.phase = .reopening feed) (consumed : 0 < feed.consumed) (admissible : choices.Admissible device)
    (again : choices.session = device.runtime.sessionId) : Deaf (reopen config device feed choices) := by
  have old : device.runtime.sessionId = feed.session := by
    have feeds := parked.feeds
    rwa [phase] at feeds
  obtain ⟨begun, starts, same, challenge, -, fills⟩ := reopen_fresh config parked.challenge admissible
  obtain ⟨-, -, -, pending, -, own, -⟩ := beginSession_shape starts
  have offset := beginSession_pending starts
  refine ⟨challenge, fills, (same.sessionId.trans (own.trans again)).trans old, ?_⟩
  rw [same.rxPending, same.rxPendingOffset, pending, offset, Nat.zero_add]
  exact consumed

theorem taskStep_consumes {device : DeviceState} {choices : Choices} (consumes : device.phase.consumes) :
    (taskStep config device choices).phase.consumes := by
  unfold taskStep
  split
  next phase =>
    unfold pollLink
    dsimp only
    split
    · split <;> trivial
    · trivial
    · split <;> trivial
  next => trivial
  next burst phase =>
    obtain ⟨runtime, transport, rxFrom, next, wrote, reads, same, closes, writes, receives, goes, shape⟩ :=
      pumpLink_cases device burst choices
    rw [shape]
    cases next <;> trivial
  next feed phase =>
    unfold feedRx
    split
    · trivial
    · dsimp only
      split
      · trivial
      · exact Nat.succ_pos _
      next frame _ =>
        rcases (handleFrame_handles config _ _ frame choices).phase with handled | reopens
        · rw [handled]
          exact Nat.succ_pos _
        · rw [reopens]
          exact Nat.succ_pos _
  next feed phase =>
    obtain ⟨runtime, next, same, goes, shape⟩ := frameDone_shape device feed
    rw [shape]
    rcases goes with rfl | rfl <;> trivial
  next feed phase =>
    rw [phase] at consumes
    exact consumes
  next burst progressed phase =>
    rcases produceFrame_cases config device burst progressed choices with
      ⟨runtime, more, same, hellos, shape⟩ | ⟨ready, shape⟩
    · rw [shape]
      trivial
    · rw [shape]
      trivial
  next burst progressed phase =>
    obtain ⟨runtime, same, shape⟩ := drainedFrame_shape device burst progressed choices
    rw [shape]
    trivial
  next burst progressed phase =>
    obtain ⟨runtime, transport, next, wrote, same, closes, writes, goes, shape⟩ :=
      finishPump_cases device burst progressed choices
    rw [shape]
    rcases goes with rfl | ⟨_, rfl⟩ <;> trivial

theorem deviceNext_consumes {before after : DeviceState} {event : DeviceEvent} (consumes : before.phase.consumes)
    (step : deviceNext config before event = some after) : after.phase.consumes := by
  cases deviceNext_step config step with
  | task choices _ _ => exact taskStep_consumes config consumes
  | call _ _ _ _ | worker _ _ _ | line _ | schedule _ | facts _ _ _ _ => exact consumes

theorem deviceNext_again {before after : DeviceState} {choices : Choices} {feed : Feed} (parked : Parked before)
    (outside : before.mailbox.call = .idle) (phase : before.phase = .reopening feed) (consumed : 0 < feed.consumed)
    (again : choices.session = before.runtime.sessionId)
    (step : deviceNext config before (.task choices) = some after) : Deaf after := by
  cases deviceNext_step config step with
  | task _ admissible _ =>
    unfold taskStep
    rw [phase]
    exact reopen_deaf config parked phase consumed admissible again
  | call _ _ inside _ => exact absurd outside inside

theorem deviceNext_hears {before after : DeviceState} {event : DeviceEvent} (agree : FlagsAgree before)
    (hears : Parked before ∨ Deaf before) (consumes : before.phase.consumes)
    (step : deviceNext config before event = some after) : Parked after ∨ Deaf after := by
  rcases hears with parked | deaf
  · by_cases draws : before.mailbox.call = .idle → DrawsOther before event
    · exact .inl (deviceNext_parked config parked draws step)
    · -- The id of the session was drawn again.
      obtain ⟨outside, draws⟩ := Classical.not_imp.mp draws
      cases event with
      | task choices =>
        obtain ⟨⟨feed, phase⟩, again⟩ := Classical.not_imp.mp draws
        rw [phase] at consumes
        exact .inr (deviceNext_again config parked outside phase consumes (not_not.mp again) step)
      | _ => exact absurd trivial draws
  · rcases deviceNext_deaf config agree deaf step with deaf | ⟨_, parked⟩
    · exact .inr deaf
    · exact .inl parked

def servingDevice : System (DeviceState × WireRecord) DeviceEvent :=
  ((device config).guarded fun _ => Serves).recorded ⟨[], []⟩ WireRecord.note

structure PumpStands (both : DeviceState × WireRecord) : Prop where
  agree : FlagsAgree both.1
  transmits : Transmits both.1 both.2
  free : DownFree both.1
  consumes : both.1.phase.consumes
  hears : Parked both.1 ∨ Deaf both.1

theorem PumpStands.challenge {both : DeviceState × WireRecord} (stands : PumpStands both) :
    both.1.challenge.length = authChallengeBytes := by
  rcases stands.hears with parked | deaf
  · exact parked.challenge
  · exact deaf.challenge

theorem device_stands : Invariant (servingDevice config) PumpStands where
  start := by
    rintro ⟨state, record⟩ ⟨start, rfl⟩
    have holds := (device_pumps config).start (state, ⟨[], []⟩) ⟨start, rfl⟩
    obtain ⟨deviceId, bootId, rfl⟩ := start
    exact ⟨holds.agree, holds.transmits, holds.free, trivial, .inl holds.parked⟩
  step := by
    rintro ⟨before, record⟩ event ⟨after, later⟩ stands ⟨⟨serves, step⟩, noted⟩
    obtain rfl : later = record.note before event after := noted
    exact ⟨(deviceNext_moves config step stands.agree.reported).agrees config stands.agree,
      deviceNext_transmits config stands.transmits serves step,
      deviceNext_downFree config stands.agree stands.transmits stands.free step,
      deviceNext_consumes config stands.consumes step, deviceNext_hears config stands.agree stands.hears stands.consumes step⟩

end task

end EspIris.Device
