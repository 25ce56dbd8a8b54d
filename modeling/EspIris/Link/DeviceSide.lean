import EspIris.Link.Handshake

/-! What a step of the device is to the handshake. -/

namespace EspIris.Link
open Codec (hostFrame)
open Codec.Device (irisPutLe16)
open Codec.Host (Frame decodeFrame)
open Device
open Machine
variable {device : DeviceState} {choices : Choices} {event : DeviceEvent} {before after : DeviceState}

def AsksAnew (device : DeviceState) (frame : DecodedFrame) : Prop :=
  isHelloAck frame.header = true ∧ frame.header.sessionId = device.runtime.sessionId ∧
    frame.header.flags &&& Flag.newSession ≠ 0

theorem completes_feeding {frame : DecodedFrame} (completes : completes device event = some frame) :
    ∃ feed, device.phase = .feeding feed := by
  unfold Link.completes at completes
  split at completes
  · split at completes
    next feed _ phase => exact ⟨feed, phase⟩
    next => contradiction
  · contradiction

theorem reopens_at (reopens : reopens device event = true) :
    ∃ feed, device.mailbox.call = .idle ∧ device.phase = .reopening feed := by
  unfold Link.reopens at reopens
  split at reopens
  · split at reopens
    next feed outside phase => exact ⟨feed, outside, phase⟩
    next => contradiction
  · contradiction

section device
variable (config : Config)

theorem handleFrame_reopening (device : DeviceState) (feed : Feed) (frame : DecodedFrame) (choices : Choices) :
    (∃ later, (handleFrame config device feed frame choices).phase = .reopening later) ↔
      AsksAnew device frame ∧ accepts config device frame choices = true := by
  have handled : ¬ ∃ later, Phase.handled feed = .reopening later := by
    rintro ⟨_, same⟩
    cases same
  have count : ∀ runtime, runtime = { device.runtime with rxFrames := device.runtime.rxFrames + 1 } →
      irisServicesAuthenticate config (irisTransportKind config device.transport) runtime device.challenge frame.payload
        choices.psaSucceeds = irisServicesAuthenticate config (irisTransportKind config device.transport) device.runtime
          device.challenge frame.payload choices.psaSucceeds := by
    rintro _ rfl
    rfl
  unfold handleFrame gateFrame
  dsimp only
  split
  next other =>
    refine iff_of_false handled ?_
    rintro ⟨⟨_, same, _⟩, _⟩
    exact other same
  next session =>
    rw [not_not] at session
    split
    next closed =>
      refine iff_of_false handled ?_
      rintro ⟨⟨isAck, _⟩, _⟩
      rw [closed.2] at isAck
      contradiction
    split
    next isAck =>
      unfold handleHelloAck
      dsimp only
      rw [count _ rfl]
      split
      next asks =>
        split
        next refused =>
          refine iff_of_false handled ?_
          rintro ⟨_, accepted⟩
          exact refused (of_decide_eq_true accepted)
        next accepted =>
          rw [not_not] at accepted
          exact iff_of_true ⟨feed, rfl⟩ ⟨⟨isAck, session, asks⟩, decide_eq_true accepted⟩
      next plain =>
        refine iff_of_false ?_ (fun both => plain both.1.2.2)
        split
        · exact handled
        split
        · exact handled
        split
        · exact handled
        · exact handled
    next other =>
      refine iff_of_false ?_ (fun both => other both.1.1)
      split
      · exact handled
      · unfold serveFrame
        dsimp only
        split
        · exact handled
        split
        · exact handled
        · exact handled

theorem slot_of_session {record : WireRecord} (transmits : Transmits device record)
    (up : device.runtime.linkConnected = true) : device.runtime.txWire = [] ∨
      ∃ frame : SentFrame, device.runtime.txWire = frame.wire ∧ frame.header.sessionId = device.runtime.sessionId := by
  rcases transmits.wire with ⟨frames, slot, wire⟩ | silent
  · cases slot with
    | none => exact .inl wire.held
    | some frame =>
      refine .inr ⟨frame, wire.held, ?_⟩
      have numbered := wire.numbered
      generalize all : frames ++ (some frame).toList = together at numbered
      cases numbered with
      | nil => simp at all
      | snoc earlier own number =>
        obtain ⟨_, last⟩ := List.append_inj' all rfl
        rw [List.singleton_inj.mp last]
        exact own
  · exact absurd (silent.down.symm.trans up) Bool.false_ne_true

theorem flushes_cases (after : DeviceState) {frame : SentFrame} (slot : before.runtime.txWire = frame.wire) :
    flushes before after = [] ∧ after.runtime.txWire ≠ [] ∨
      flushes before after = [hostFrame frame.header frame.payload] := by
  unfold flushes
  rw [slot]
  by_cases empty : after.runtime.txWire = []
  · rw [if_pos ⟨frame.wire_ne_nil, empty⟩]
    have trip := Codec.roundTrip (List.replicate maxWireFrameSize 0) frame.header frame.payload
      (List.length_replicate).ge frame.known frame.bounded
    refine .inr ?_
    rw [SentFrame.wire, List.dropLast_concat, trip.hostDecodes]
    rfl
  · exact .inl ⟨if_neg fun both => empty both.2, empty⟩

theorem flushes_free (after : DeviceState) (free : before.runtime.txWire = []) :
    flushes before after = [] := if_neg fun both => both.1 free

def Greets (device : DeviceState) : Prop :=
  ∃ frame : SentFrame, device.runtime.txWire = frame.wire ∧ frame.header.sessionId = device.runtime.sessionId ∧
    frame.header.channel = Channel.control ∧ frame.header.type = ControlType.hello

theorem greet_greets (device : DeviceState) (free : device.runtime.txWire = [])
    (challenge : device.challenge.length = authChallengeBytes)
    (fields : choices.helloFields.length + (3 + authChallengeBytes) ≤ helloPayloadSize) :
    Greets (greet config device choices).1 ∧
      (greet config device choices).1.runtime.sessionId = device.runtime.sessionId := by
  have short : (helloPayload choices.helloFields (published config device)).length ≤ helloPayloadSize := by
    unfold published irisServicesAuthChallenge
    split
    · rw [helloPayload, List.length_append, List.length_append, List.length_cons, challenge]
      have two : (irisPutLe16 (UInt16.ofNat authChallengeBytes)).length = 2 := rfl
      rw [two]
      omega
    · rw [helloPayload]
      omega
  have fits : Reply.Fits ⟨Channel.control, ControlType.hello, Flag.reliable, 0, 0,
      helloPayload choices.helloFields (published config device)⟩ :=
    ⟨(by decide : Channel.control < Channel.count), short.trans (by decide)⟩
  have queued := queueFrame_empty device.runtime _ free fits
  unfold greet
  dsimp only
  rw [← published, queueHello, if_neg (not_lt.mpr short), queued]
  exact ⟨⟨Reply.frame _ fits device.runtime, rfl, rfl, rfl, rfl⟩, rfl⟩

theorem reopen_greets (feed : Feed) (challenge : device.challenge.length = authChallengeBytes)
    (admissible : choices.Admissible device) :
    Greets (reopen config device feed choices) ∧
      (reopen config device feed choices).runtime.sessionId = choices.session ∧
      (reopen config device feed choices).phase = .handled feed := by
  obtain ⟨begun, starts⟩ : ∃ begun, beginSession (resetSession device).runtime choices.session = some begun := ⟨_, rfl⟩
  obtain ⟨-, -, -, -, free, session, -⟩ := beginSession_shape starts
  have shape : (startSession config (resetSession device) choices).runtime = begun ∧
      (startSession config (resetSession device) choices).challenge.length = authChallengeBytes := by
    unfold startSession
    rw [starts]
    dsimp only
    split
    · exact ⟨rfl, challenge⟩
    · exact ⟨rfl, admissible.size⟩
  unfold reopen
  dsimp only
  generalize startSession config (resetSession device) choices = started at shape
  obtain ⟨rfl, drawn⟩ := shape
  obtain ⟨greets, same⟩ := greet_greets config { started with
    transport := irisTransportRenewClaim config started.transport choices.link.now } free drawn admissible.fields
  exact ⟨greets, same.trans session, rfl⟩

/-- What a step of the device is to the handshake: it handles no frame, it handles one, or it
opens the session anew. -/
inductive DeviceSide (before : DeviceState) (event : DeviceEvent) (after : DeviceState) : Prop
  | quiet (completes : completes before event = none) (reopens : reopens before event = false)
      (session : after.runtime.sessionId = before.runtime.sessionId)
      (phase : (∃ feed, after.phase = .reopening feed) ↔ ∃ feed, before.phase = .reopening feed)
  | frame (frame : DecodedFrame) (choices : Choices) (is : event = .task choices)
      (completes : completes before event = some frame) (reopens : reopens before event = false)
      (session : after.runtime.sessionId = before.runtime.sessionId)
      (before_phase : ¬ ∃ feed, before.phase = .reopening feed)
      (phase : (∃ feed, after.phase = .reopening feed) ↔ AsksAnew before frame ∧ accepts config before frame choices = true)
  | reopened (choices : Choices) (is : event = .task choices) (reopens : reopens before event = true)
      (completes : completes before event = none) (before_phase : ∃ feed, before.phase = .reopening feed)
      (session : after.runtime.sessionId = choices.session)
      (greets : Greets after) (phase : ¬ ∃ feed, after.phase = .reopening feed)

theorem feedRx_side {feed : Feed} (phase : device.phase = .feeding feed) (outside : device.mailbox.call = .idle) :
    DeviceSide config device (.task choices) (feedRx config device feed choices) := by
  have elsewhere : ¬ ∃ other, device.phase = .reopening other := by
    rintro ⟨_, same⟩
    rw [phase] at same
    cases same
  have calm : reopens device (.task choices) = false := by
    unfold reopens
    rw [outside, phase]
  unfold feedRx
  split
  next empty =>
    refine .quiet ?_ calm ?_ (iff_of_false ?_ elsewhere)
    · simp only [completes, outside, phase, empty]
    · unfold finishFeed
      dsimp only
      split <;> rfl
    · rintro ⟨_, same⟩
      cases same
  next value rest fed =>
    obtain ⟨rxWire, rxWireLength, rxDiscarding, invalidFrames, shape⟩ := receiveByte_shape device.runtime value
    dsimp only [DeviceState.note]
    rw [shape]
    split
    next nothing =>
      refine .quiet ?_ calm rfl (iff_of_false ?_ elsewhere)
      · simp only [completes, outside, phase, fed, nothing, Option.bind_none]
      · rintro ⟨_, same⟩
        cases same
    next reason broken =>
      refine .quiet ?_ calm rfl (iff_of_false ?_ elsewhere)
      · simp only [completes, outside, phase, fed, broken, Option.bind_some]
        rfl
      · rintro ⟨_, same⟩
        cases same
    next frame whole =>
      refine .frame frame choices rfl ?_ calm ?_ elsewhere ?_
      · simp only [completes, outside, phase, fed, whole, Option.bind_some]
        rfl
      · have handled := handleFrame_handled config { device with
            runtime := { device.runtime with
              rxWire := rxWire, rxWireLength := rxWireLength, rxDiscarding := rxDiscarding
              invalidFrames := invalidFrames }
            log := device.log ++ [.fed device.rxFrom value] ++ [.frame frame] }
          { feed with data := rest, consumed := feed.consumed + 1 } frame choices
        generalize handleFrame config _ _ _ _ = after at handled
        cases handled with
        | kept runtime same => exact same.sessionId
        | served _ runtime _ _ same => exact same.sessionId
        | accepted _ runtime _ _ _ session => exact session
        | leaving runtime same =>
          rw [leaveServices_eq]
          exact same.sessionId
      · exact handleFrame_reopening config _ _ frame choices

theorem DeviceSide.of_phase (feeding : ∀ feed, before.phase ≠ .feeding feed)
    (reopening : ∀ feed, before.phase ≠ .reopening feed) (session : after.runtime.sessionId = before.runtime.sessionId)
    (later : ∀ feed, after.phase ≠ .reopening feed) :
    DeviceSide config before (.task choices) after := by
  have unopened : ¬ ∃ feed, after.phase = .reopening feed := not_exists.mpr later
  have closed : ¬ ∃ feed, before.phase = .reopening feed := not_exists.mpr reopening
  refine .quiet ?_ ?_ session (iff_of_false unopened closed)
  · unfold completes
    dsimp only
    split
    next feed _ same => exact absurd same (feeding feed)
    next => rfl
  · unfold reopens
    dsimp only
    split
    next feed _ same => exact absurd same (reopening feed)
    next => rfl

theorem pollLink_side (agree : FlagsAgree device) (up : device.runtime.linkConnected = true)
    (phase : device.phase = .poll) (stays : (pollLink config device choices).phase ≠ .ending) :
    DeviceSide config device (.task choices) (pollLink config device choices) := by
  have running : device.phase ≠ .ending := by rw [phase]; simp
  have polled := irisTransportPoll_polled config choices.link agree.reported
  unfold pollLink at stays ⊢
  dsimp only at stays ⊢
  generalize irisTransportPoll config device.transport choices.link = result at polled stays ⊢
  cases polled with
  | connected _ idle => exact absurd idle ((agree.owned running).mpr up)
  | disconnected => exact absurd rfl stays
  | quiet =>
    refine .of_phase config (by simp [phase]) (by simp [phase]) rfl ?_
    intro feed
    dsimp only
    split <;> simp

theorem taskStep_side (agree : FlagsAgree device) (up : device.runtime.linkConnected = true)
    (running : device.phase ≠ .ending) (challenge : device.challenge.length = authChallengeBytes)
    (admissible : choices.Admissible device) (outside : device.mailbox.call = .idle)
    (stays : (taskStep config device choices).phase ≠ .ending) :
    DeviceSide config device (.task choices) (taskStep config device choices) := by
  unfold taskStep at stays ⊢
  split
  next phase =>
    rw [phase] at stays
    exact pollLink_side config agree up phase stays
  next phase => exact absurd phase running
  next burst phase =>
    obtain ⟨runtime, transport, rxFrom, next, wrote, reads, same, closes, writes, receives, goes, shape⟩ :=
      pumpLink_cases device burst choices
    rw [shape]
    refine .of_phase config (by simp [phase]) (by simp [phase]) same.sessionId ?_
    rintro feed rfl
    exact goes
  next feed phase => exact feedRx_side config phase outside
  next feed phase =>
    obtain ⟨runtime, next, same, goes, shape⟩ := frameDone_shape device feed
    rw [shape]
    refine .of_phase config (by simp [phase]) (by simp [phase]) same.sessionId ?_
    rintro later rfl
    rcases goes with same | same <;> cases same
  next feed phase =>
    obtain ⟨greets, session, handled⟩ := reopen_greets config feed challenge admissible
    refine .reopened choices rfl ?_ ?_ ⟨feed, phase⟩ session greets ?_
    · unfold reopens
      rw [outside, phase]
    · unfold completes
      rw [outside, phase]
    · rintro ⟨later, same⟩
      rw [handled] at same
      cases same
  next burst progressed phase =>
    rcases produceFrame_cases config device burst progressed choices with
      ⟨runtime, more, same, hellos, shape⟩ | ⟨ready, shape⟩
    · rw [shape]
      exact .of_phase config (by simp [phase]) (by simp [phase]) same.sessionId (by simp)
    · rw [shape]
      exact .of_phase config (by simp [phase]) (by simp [phase]) rfl (by simp)
  next burst progressed phase =>
    obtain ⟨runtime, same, shape⟩ := drainedFrame_shape device burst progressed choices
    rw [shape]
    exact .of_phase config (by simp [phase]) (by simp [phase]) same.sessionId (by simp)
  next burst progressed phase =>
    obtain ⟨runtime, transport, next, wrote, same, closes, writes, goes, shape⟩ :=
      finishPump_cases device burst progressed choices
    rw [shape]
    refine .of_phase config (by simp [phase]) (by simp [phase]) same.sessionId ?_
    rintro feed rfl
    rcases goes with same | ⟨_, same⟩ <;> cases same

theorem deviceNext_side (agree : FlagsAgree before) (up : before.runtime.linkConnected = true)
    (running : before.phase ≠ .ending) (challenge : before.challenge.length = authChallengeBytes)
    (step : deviceNext config before event = some after) (stays : after.phase ≠ .ending) :
    DeviceSide config before event after := by
  cases deviceNext_step config step with
  | task choices admissible outside => exact taskStep_side config agree up running challenge admissible outside stays
  | call choices result inside moved =>
    refine .quiet ?_ ?_ (callStep_untouched moved).sessionId Iff.rfl
    · unfold completes
      dsimp only
      split
      next outside _ => exact absurd outside inside
      next => rfl
    · unfold reopens
      dsimp only
      split
      next outside _ => exact absurd outside inside
      next => rfl
  | schedule type => exact .quiet rfl rfl (scheduleEvent_untouched _ _).sessionId Iff.rfl
  | worker _ _ _ | line _ | facts _ _ _ _ => exact .quiet rfl rfl rfl Iff.rfl

theorem deviceNext_up (agree : FlagsAgree before) (up : before.runtime.linkConnected = true)
    (running : before.phase ≠ .ending) (step : deviceNext config before event = some after)
    (stays : after.phase ≠ .ending) :
    after.runtime.linkConnected = true := by
  by_cases resting : after.phase = .poll
  · cases deviceNext_moves config step agree.reported with
    | task choices _ admissible outside moves =>
      by_cases online : before.phase.offline = false
      · exact moves.linked config agree online
      · cases moves with
        | connected transport phase reports polled =>
          cases polled with
          | connected _ idle => exact absurd idle ((agree.owned running).mpr up)
        | lost => exact absurd rfl stays
        | still => exact up
        | ended phase => exact absurd phase running
        | pumped _ phase | fed _ phase | done _ phase | reopened _ phase | produced _ _ phase | drains _ _ phase
        | filled _ _ phase | finished _ _ phase => simp [phase, Phase.offline] at online
    | call choices mailbox runtime traces same => exact same.linkConnected.trans up
    | worker => exact up
    | line => exact up
    | facts _ runtime same => exact same.linkConnected.trans up
  · exact ((deviceNext_moves config step agree.reported).agrees config agree).resting resting

end device

end EspIris.Link
