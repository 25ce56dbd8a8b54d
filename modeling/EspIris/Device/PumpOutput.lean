import EspIris.Device.Ownership
import EspIris.Device.PumpInput
import EspIris.Device.Wire

/-! The transmit slot through every step of the device: it is filled only when it is free, and
only flushing or the end of the session empties it. -/

namespace EspIris.Device
open Codec.Device Machine
variable {device : DeviceState} {event : DeviceEvent} {record : WireRecord} {choices : Choices} {runtime : Runtime}
variable {feed : Feed}

def CallAt (call : CallPoint) : Phase → Prop
  | .handled _ | .drained _ _ => True
  | .ending | .reopening _ => call = .idle ∨ call.abandons = true
  | _ => call = .idle

def FreeAt (runtime : Runtime) : Phase → Prop
  | .feeding _ | .reopening _ => runtime.txWire = []
  | _ => True

def Phase.offline : Phase → Bool
  | .poll | .ending => true
  | _ => false

structure Silent (device : DeviceState) (sent : List UInt8) : Prop where
  down : device.runtime.linkConnected = false
  offline : device.phase.offline = true
  free : device.runtime.txWire = []
  whole : WholeFrames sent

structure Transmits (device : DeviceState) (record : WireRecord) : Prop where
  completion : CompletionFits device.mailbox
  calls : CallAt device.mailbox.call device.phase
  free : FreeAt device.runtime device.phase
  earlier : EarlierSessions record.earlier
  wire : (∃ frames slot, OnWire device.runtime record.session frames slot) ∨ Silent device record.session

theorem Transmits.fills {before after : DeviceState} (transmits : Transmits before record)
    (online : before.phase.offline = false) (fills : Fills before.runtime after.runtime)
    (completion : CompletionFits after.mailbox) (calls : CallAt after.mailbox.call after.phase)
    (free : FreeAt after.runtime after.phase) (more : List Observation) (log : after.log = before.log ++ more)
    (others : ∀ other ∈ more, other.transmits = false) : Transmits after (record.note before event after) := by
  rw [WireRecord.note_silent more log others]
  refine ⟨completion, calls, free, transmits.earlier, .inl ?_⟩
  rcases transmits.wire with ⟨frames, slot, wire⟩ | silent
  · exact ⟨frames, wire.fills fills⟩
  · exact absurd (online.symm.trans silent.offline) Bool.false_ne_true

theorem Transmits.still {before after : DeviceState} (transmits : Transmits before record)
    (sessionId : after.runtime.sessionId = before.runtime.sessionId)
    (txWire : after.runtime.txWire = before.runtime.txWire)
    (txWireOffset : after.runtime.txWireOffset = before.runtime.txWireOffset)
    (sequence : after.runtime.sequence = before.runtime.sequence)
    (linkConnected : after.runtime.linkConnected = before.runtime.linkConnected)
    (completion : CompletionFits after.mailbox) (calls : CallAt after.mailbox.call after.phase)
    (free : FreeAt after.runtime after.phase)
    (offline : before.runtime.linkConnected = false → before.phase.offline = true → after.phase.offline = true)
    (more : List Observation) (log : after.log = before.log ++ more) (others : ∀ other ∈ more, other.transmits = false)
    : Transmits after (record.note before event after) := by
  rw [WireRecord.note_silent more log others]
  refine ⟨completion, calls, free, transmits.earlier, ?_⟩
  rcases transmits.wire with ⟨frames, slot, wire⟩ | ⟨down, off, empty, whole⟩
  · exact .inl ⟨frames, wire.fills (.kept sessionId txWire txWireOffset sequence)⟩
  · exact .inr ⟨linkConnected.trans down, offline down off, txWire.trans empty, whole⟩

theorem WireRecord.note_flushed {before after : DeviceState} {wrote : List Observation} (more : List Observation)
    (flushes : Flushes before.runtime runtime wrote) (log : after.log = before.log ++ (wrote ++ more))
    (others : ∀ other ∈ more, other.transmits = false) :
    record.note before event after = record ∧ runtime = before.runtime ∨
      ∃ connection count, wrote = [.wrote connection count] ∧ record.note before event after =
        { record with
          session := record.session ++ (before.runtime.txWire.drop before.runtime.txWireOffset).take count } := by
  have counted (connection : Option Nat) (count : Nat) (only : wrote = [.wrote connection count]) :
      record.note before event after = { record with
        session := record.session ++ (before.runtime.txWire.drop before.runtime.txWireOffset).take count } := by
    let written := { record with
      session := record.session ++ (before.runtime.txWire.drop before.runtime.txWireOffset).take count }
    have silent : written.note before event { before with log := before.log ++ more } = written :=
      WireRecord.note_silent more rfl others
    unfold WireRecord.note at silent ⊢
    rw [List.drop_left] at silent
    rw [log, List.drop_left, only, List.cons_append, List.nil_append, List.foldl_cons]
    exact silent
  cases flushes with
  | nothing => exact .inl ⟨WireRecord.note_silent more log others, rfl⟩
  | part connection count some left
  | whole connection count some all => exact .inr ⟨connection, count, rfl, counted _ _ rfl⟩

/-- The end and the head of a pump: the slot is flushed and then left alone. -/
theorem Transmits.flushed {before after : DeviceState} {wrote more : List Observation}
    (transmits : Transmits before record) (online : before.phase.offline = false)
    (flushes : Flushes before.runtime runtime wrote) (fills : Fills runtime after.runtime)
    (log : after.log = before.log ++ (wrote ++ more)) (others : ∀ other ∈ more, other.transmits = false)
    (completion : CompletionFits after.mailbox) (calls : CallAt after.mailbox.call after.phase)
    (free : FreeAt after.runtime after.phase) :
    Transmits after (record.note before event after) := by
  rcases transmits.wire with ⟨frames, slot, wire⟩ | silent
  · rcases wire.flushes flushes with ⟨rfl, rfl⟩ | ⟨connection, count, frames, slot, rfl, wire⟩
    · rw [WireRecord.note_silent more log others]
      exact ⟨completion, calls, free, transmits.earlier, .inl ⟨frames, wire.fills fills⟩⟩
    · rcases WireRecord.note_flushed more flushes log others with ⟨-, same⟩ | ⟨_, _, only, noted⟩
      · cases flushes with
        | part _ _ some left =>
          have offset := congrArg Runtime.txWireOffset same
          simp only at offset
          omega
        | whole _ _ some all =>
          have wire := congrArg Runtime.txWire same
          simp only at wire
          rw [← wire] at all
          simp only [List.length_nil] at all
          omega
      · cases only
        rw [noted]
        exact ⟨completion, calls, free, transmits.earlier, .inl ⟨frames, wire.fills fills⟩⟩
  · exact absurd (online.symm.trans silent.offline) Bool.false_ne_true

theorem Transmits.unsent (transmits : Transmits device record) :
    device.runtime.txWire ≠ [] → device.runtime.txWireOffset < device.runtime.txWire.length := by
  intro filled
  rcases transmits.wire with ⟨frames, slot, wire⟩ | silent
  · apply wire.unsent
    cases slot with
    | none => exact absurd wire.held filled
    | some frame => rfl
  · exact absurd silent.free filled

theorem executor_transmits (traces : List Trace) :
    ∀ other ∈ traces.map Observation.executor, other.transmits = false := by
  intro other inside
  obtain ⟨trace, -, rfl⟩ := List.mem_map.mp inside
  rfl

/-- Ending a session may leave the protocol task inside `executor_abandon`. -/
theorem abandonStart_call (mailbox : Mailbox) (deinit : Bool) (outside : mailbox.call = .idle) :
    (abandonStart mailbox deinit).1.call = .idle ∨ (abandonStart mailbox deinit).1.call.abandons = true := by
  unfold abandonStart
  split
  · exact .inl outside
  · exact .inr rfl

theorem abandonStart_completion {mailbox : Mailbox} (deinit : Bool) (fits : CompletionFits mailbox) :
    CompletionFits (abandonStart mailbox deinit).1 := by
  unfold abandonStart
  split <;> exact fits

theorem startSession_transmits (config : Config) {phase : Phase} {before : DeviceState}
    (transmits : Transmits before record) (polls : before.phase = .poll) (runtime : device.runtime = before.runtime)
    (mailbox : device.mailbox = before.mailbox) (log : device.log = before.log)
    (next : phase = .poll ∨ ∃ burst, phase = .pump burst)
    (down : (startSession config device choices).runtime.linkConnected = false → phase = .poll) :
    Transmits { startSession config device choices with phase := phase }
      (record.note before event { startSession config device choices with phase := phase }) := by
  have outside : before.mailbox.call = .idle := by
    have calls := transmits.calls
    rwa [polls] at calls
  have calls : CallAt before.mailbox.call phase := by
    rcases next with rfl | ⟨_, rfl⟩ <;> exact outside
  have free (runtime : Runtime) : FreeAt runtime phase := by
    rcases next with rfl | ⟨_, rfl⟩ <;> trivial
  cases starts : beginSession device.runtime choices.session with
  | none =>
    have same : startSession config device choices = device := by
      unfold startSession
      rw [starts]
    rw [same] at down ⊢
    refine transmits.still ?_ ?_ ?_ ?_ ?_ (mailbox ▸ transmits.completion) (mailbox ▸ calls) (free _) ?_ []
      (by rw [log, List.append_nil]) (by simp)
    · rw [runtime]
    · rw [runtime]
    · rw [runtime]
    · rw [runtime]
    · rw [runtime]
    · intro linkDown _
      have polling := down (runtime ▸ linkDown)
      rw [polling]
      rfl
  | some begun =>
    obtain ⟨-, -, -, -, empty, -⟩ := beginSession_shape starts
    have counters : begun.sequence = fun _ => 0 := by
      obtain ⟨linked, -, rfl⟩ := Option.map_eq_some_iff.mp starts
      rfl
    have shape : (startSession config device choices).runtime = begun ∧
        (startSession config device choices).mailbox = device.mailbox ∧
        ∃ drawn, (startSession config device choices).log = device.log ++ [.begun choices.session drawn] := by
      unfold startSession
      rw [starts]
      dsimp only
      split <;> exact ⟨rfl, rfl, _, rfl⟩
    obtain ⟨started, sameMailbox, drawn, newLog⟩ := shape
    have noted : record.note before event { startSession config device choices with phase := phase } = ⟨[], []⟩ := by
      unfold WireRecord.note
      dsimp only
      rw [newLog, log, List.drop_left]
      simp [polls]
    rw [noted]
    refine ⟨?_, ?_, free _, .nil, .inl ⟨[], none, ?_⟩⟩
    · dsimp only
      rw [sameMailbox, mailbox]
      exact transmits.completion
    · dsimp only
      rw [sameMailbox, mailbox]
      exact calls
    · dsimp only
      rw [started]
      exact .empty counters empty

theorem pollLink_transmits (config : Config) (transmits : Transmits device record) (phase : device.phase = .poll) :
    Transmits (pollLink config device choices) (record.note device event (pollLink config device choices)) := by
  have outside : device.mailbox.call = .idle := by
    have calls := transmits.calls
    rwa [phase] at calls
  unfold pollLink
  dsimp only
  split
  · refine startSession_transmits config transmits phase rfl rfl rfl ?_ ?_
    · split
      · exact .inr ⟨0, rfl⟩
      · exact .inl rfl
    · intro down
      simp only [down, Bool.false_eq_true, if_false]
  · rw [leaveServices_eq]
    dsimp only
    refine transmits.still rfl rfl rfl rfl rfl ?_ ?_ trivial (fun _ _ => rfl) _ rfl (executor_transmits _)
    · dsimp only
      split
      · exact abandonStart_completion false transmits.completion
      · exact transmits.completion
    · dsimp only
      split
      · exact abandonStart_call _ false outside
      · exact .inl outside
  · refine transmits.still rfl rfl rfl rfl rfl transmits.completion ?_ ?_ ?_ [] (List.append_nil _).symm (by simp)
    · dsimp only
      split <;> exact outside
    · dsimp only
      split <;> trivial
    · intro down _
      simp only [down, Bool.false_eq_true, if_false]
      rfl

theorem resetSession_transmits (transmits : Transmits device record) (outside : device.mailbox.call = .idle) :
    Transmits { resetSession device with phase := .poll }
      (record.note device event { resetSession device with phase := .poll }) := by
  have silent : record.note device event { resetSession device with phase := .poll } = record := by
    refine WireRecord.note_silent [.ended] rfl ?_
    simp [Observation.transmits]
  have whole : WholeFrames record.session := by
    rcases transmits.wire with ⟨frames, slot, wire⟩ | silent
    · exact wire.whole
    · exact silent.whole
  rw [silent]
  exact ⟨transmits.completion, outside, trivial, transmits.earlier, .inr ⟨rfl, rfl, rfl, whole⟩⟩

/-- Hanging up and choosing the next burst leave the slot as flushing left it. -/
theorem nextBurst_hangUp (device : DeviceState) (burst : Nat) (progressed : Bool) :
    ∃ transport phase, (phase = .poll ∨ ∃ next, phase = .pump next) ∧
      nextBurst (disconnectAfterTx device) burst progressed = { device with
        runtime := { device.runtime with disconnectAfterTx := false }
        transport := transport
        phase := phase } := by
  obtain ⟨phase, next, moves⟩ := nextBurst_shape (disconnectAfterTx device) burst progressed
  exact ⟨_, phase, next, moves⟩

structure SameSlot (before after : Runtime) : Prop where
  sessionId : after.sessionId = before.sessionId
  txWire : after.txWire = before.txWire
  txWireOffset : after.txWireOffset = before.txWireOffset
  sequence : after.sequence = before.sequence
  linkConnected : after.linkConnected = before.linkConnected

theorem SameSlot.fills {before after : Runtime} (same : SameSlot before after) : Fills before after :=
  .kept same.sessionId same.txWire same.txWireOffset same.sequence

structure Pumped (before after : DeviceState) : Prop where
  wires : ∃ runtime wrote more, Flushes before.runtime runtime wrote ∧ SameSlot runtime after.runtime ∧
    after.log = before.log ++ (wrote ++ more) ∧ ∀ other ∈ more, other.transmits = false
  mailbox : after.mailbox = before.mailbox
  phase : (after.phase = .poll ∨ ∃ next, after.phase = .pump next) ∨
    (∃ burst progressed, after.phase = .produce burst progressed) ∨
    (∃ feed, after.phase = .feeding feed) ∧ after.runtime.txWire = []

theorem fetchPending_slot (device : DeviceState) (received : LinkRead) :
    ∃ rxPending rxPendingOffset transport rxFrom more, (∀ other ∈ more, other.transmits = false) ∧
      fetchPending device received = { device with
        runtime := { device.runtime with rxPending := rxPending, rxPendingOffset := rxPendingOffset }
        transport := transport
        rxFrom := rxFrom
        log := device.log ++ more } := by
  unfold fetchPending
  split
  · dsimp only
    split
    · exact ⟨_, _, _, _, [], by simp, by rw [List.append_nil]⟩
    · exact ⟨_, _, _, _, [_], by simp [Observation.transmits], rfl⟩
  · exact ⟨_, _, _, _, [], by simp, by rw [List.append_nil]⟩

theorem pumpLink_pumped (burst : Nat) (choices : Choices)
    (unsent : device.runtime.txWire ≠ [] → device.runtime.txWireOffset < device.runtime.txWire.length) :
    Pumped device (pumpLink device burst choices) := by
  obtain ⟨runtime, transport, wrote, flushes, shape⟩ := flushTx_flushes device choices.sent unsent
  unfold pumpLink
  dsimp only
  rw [shape]
  split
  · obtain ⟨transport, phase, next, moves⟩ := nextBurst_hangUp
      { device with runtime := runtime, transport := transport, log := device.log ++ wrote } burst true
    rw [moves]
    refine ⟨⟨runtime, wrote, [], flushes, ⟨rfl, rfl, rfl, rfl, rfl⟩, ?_, by simp⟩, rfl, .inl next⟩
    rw [List.append_nil]
  split
  · obtain ⟨phase, next, moves⟩ := nextBurst_shape
      { device with runtime := runtime, transport := transport, log := device.log ++ wrote } burst
      (flushTx device choices.sent).2
    rw [moves]
    refine ⟨⟨runtime, wrote, [], flushes, ⟨rfl, rfl, rfl, rfl, rfl⟩, ?_, by simp⟩, rfl, .inl next⟩
    rw [List.append_nil]
  next free =>
    rw [not_not] at free
    obtain ⟨rxPending, rxPendingOffset, transport, rxFrom, more, others, fetched⟩ := fetchPending_slot
      { device with runtime := runtime, transport := transport, log := device.log ++ wrote } choices.received
    rw [fetched]
    split
    · refine ⟨⟨runtime, wrote, more, flushes, ⟨rfl, rfl, rfl, rfl, rfl⟩, ?_, others⟩, rfl, .inr (.inl ⟨_, _, rfl⟩)⟩
      rw [List.append_assoc]
    · refine ⟨⟨runtime, wrote, more, flushes, ⟨rfl, rfl, rfl, rfl, rfl⟩, ?_, others⟩, rfl, .inr (.inr ⟨⟨_, rfl⟩, free⟩)⟩
      rw [List.append_assoc]

theorem finishPump_pumped (burst : Nat) (progressed : Bool) (choices : Choices)
    (unsent : device.runtime.txWire ≠ [] → device.runtime.txWireOffset < device.runtime.txWire.length) :
    Pumped device (finishPump device burst progressed choices) := by
  obtain ⟨runtime, transport, wrote, flushes, shape⟩ := flushTx_flushes device choices.sent unsent
  unfold finishPump
  dsimp only
  rw [shape]
  split
  · obtain ⟨transport, phase, next, moves⟩ := nextBurst_hangUp
      { device with runtime := runtime, transport := transport, log := device.log ++ wrote } burst true
    rw [moves]
    refine ⟨⟨runtime, wrote, [], flushes, ⟨rfl, rfl, rfl, rfl, rfl⟩, ?_, by simp⟩, rfl, .inl next⟩
    rw [List.append_nil]
  · obtain ⟨phase, next, moves⟩ := nextBurst_shape
      { device with runtime := runtime, transport := transport, log := device.log ++ wrote } burst
      (progressed || device.runtime.txWire ≠ [])
    rw [moves]
    refine ⟨⟨runtime, wrote, [], flushes, ⟨rfl, rfl, rfl, rfl, rfl⟩, ?_, by simp⟩, rfl, .inl next⟩
    rw [List.append_nil]

theorem Pumped.transmits {before after : DeviceState} (pumped : Pumped before after)
    (transmits : Transmits before record) (online : before.phase.offline = false)
    (outside : before.mailbox.call = .idle) : Transmits after (record.note before event after) := by
  obtain ⟨⟨runtime, wrote, more, flushes, same, log, others⟩, mailbox, phase⟩ := pumped
  refine transmits.flushed online flushes same.fills log others (mailbox ▸ transmits.completion) ?_ ?_
  · rw [mailbox]
    rcases phase with (same | ⟨_, same⟩) | ⟨_, _, same⟩ | ⟨⟨_, same⟩, -⟩ <;> rw [same] <;> exact outside
  · rcases phase with (same | ⟨_, same⟩) | ⟨_, _, same⟩ | ⟨⟨_, same⟩, free⟩ <;> rw [same] <;> trivial

structure Answers (before after : DeviceState) : Prop where
  fills : Fills before.runtime after.runtime
  completion : CompletionFits before.mailbox → CompletionFits after.mailbox
  log : ∃ more, after.log = before.log ++ more ∧ ∀ other ∈ more, other.transmits = false
  phase : (∃ feed, after.phase = .handled feed) ∨ (∃ feed, after.phase = .reopening feed) ∧
    after.runtime.txWire = before.runtime.txWire ∧
      (after.mailbox.call = .idle ∨ after.mailbox.call.abandons = true)

theorem Answers.after {before middle after : DeviceState} (answers : Answers middle after)
    (kept : Fills before.runtime middle.runtime) (slot : middle.runtime.txWire = before.runtime.txWire)
    (mailbox : middle.mailbox = before.mailbox)
    (log : ∃ more, middle.log = before.log ++ more ∧ ∀ other ∈ more, other.transmits = false) :
    Answers before after := by
  obtain ⟨fills, completion, ⟨later, laterLog, laterOthers⟩, phase⟩ := answers
  obtain ⟨more, moreLog, others⟩ := log
  refine ⟨kept.trans fills, mailbox ▸ completion, ⟨more ++ later, ?_, ?_⟩, slot ▸ phase⟩
  · rw [laterLog, moreLog, List.append_assoc]
  · intro other inside
    rcases List.mem_append.mp inside with first | second
    · exact others other first
    · exact laterOthers other second

theorem Answers.handled {before : DeviceState} (feed : Feed) (fills : Fills before.runtime runtime) :
    Answers before { before with runtime := runtime, phase := .handled feed } :=
  ⟨fills, id, ⟨[], (List.append_nil _).symm, by simp⟩, .inl ⟨feed, rfl⟩⟩

section task
variable (config : Config)

theorem handleHelloAck_answers (feed : Feed) (frame : DecodedFrame) (choices : Choices)
    (outside : device.mailbox.call = .idle) : Answers device (handleHelloAck config device feed frame choices) := by
  unfold handleHelloAck
  dsimp only
  generalize irisServicesAuthenticate _ _ _ _ _ _ = verdict
  have answered := answerAuth_fills config (irisTransportKind config device.transport) device.runtime frame.header verdict
  split
  · split
    · exact .handled feed (refuse_fills _ _ _)
    · rw [leaveServices_eq]
      refine ⟨.refl _, ?_, ⟨_, rfl, executor_transmits _⟩, .inr ⟨⟨feed, rfl⟩, rfl, ?_⟩⟩
      · intro fits
        dsimp only
        split
        · exact abandonStart_completion false fits
        · exact fits
      · dsimp only
        split
        · exact abandonStart_call _ false outside
        · exact .inl outside
  split
  · exact .handled feed (.refl _)
  split
  · exact .handled feed answered
  split
  · exact .handled feed answered
  next ready moves =>
    have moved : Fills (answerAuth config (irisTransportKind config device.transport) device.runtime frame.header verdict)
        ready := by
      obtain ⟨state, -, rfl⟩ := Option.map_eq_some_iff.mp moves
      exact .kept rfl rfl rfl rfl
    refine ⟨(answered.trans moved).trans (scheduleSessionEvents_fills ready), id, ⟨_, rfl, ?_⟩, .inl ⟨feed, rfl⟩⟩
    simp [Observation.transmits]

theorem serveFrame_answers (feed : Feed) {frame : DecodedFrame} (fit : choices.Fit)
    (bounded : frame.payload.length ≤ maxPayloadSize) :
    Answers device (serveFrame config device feed frame choices) := by
  have noted : ∃ more, device.log ++ [.served frame] = device.log ++ more ∧ ∀ other ∈ more, other.transmits = false :=
    ⟨_, rfl, by simp [Observation.transmits]⟩
  unfold serveFrame DeviceState.note
  dsimp only
  split
  · exact ⟨handleControl_fills _ _ fit bounded, id, noted, .inl ⟨feed, rfl⟩⟩
  split
  · exact ⟨handleCrash_fills _ _ fit, id, noted, .inl ⟨feed, rfl⟩⟩
  · refine ⟨?_, ?_, noted, .inl ⟨feed, rfl⟩⟩
    · dsimp only
      split
      · exact serveInline_fills _ _ fit
      · exact .refl _
    · intro fits
      dsimp only
      unfold dispatchStart
      split <;> exact fits

theorem gateFrame_answers (feed : Feed) {frame : DecodedFrame} (outside : device.mailbox.call = .idle)
    (fit : choices.Fit) (bounded : frame.payload.length ≤ maxPayloadSize) :
    Answers device (gateFrame config device feed frame choices) := by
  have invalid : Fills device.runtime (countInvalid device).runtime := .kept rfl rfl rfl rfl
  unfold gateFrame
  split
  · exact .handled feed invalid
  split
  · exact .handled feed invalid
  split
  · exact handleHelloAck_answers config feed frame choices outside
  split
  · exact .handled feed invalid
  · exact (serveFrame_answers config feed fit bounded).after (.kept rfl rfl rfl rfl) rfl rfl
      ⟨[], (List.append_nil _).symm, by simp⟩

theorem feedRx_transmits (transmits : Transmits device record) (phase : device.phase = .feeding feed)
    (fit : choices.Fit) :
    Transmits (feedRx config device feed choices) (record.note device event (feedRx config device feed choices)) := by
  have online : device.phase.offline = false := by rw [phase]; rfl
  have outside : device.mailbox.call = .idle := by
    have calls := transmits.calls
    rwa [phase] at calls
  have empty : device.runtime.txWire = [] := by
    have free := transmits.free
    rwa [phase] at free
  unfold feedRx
  split
  next =>
    refine transmits.fills online ?_ transmits.completion outside trivial [] (List.append_nil _).symm (by simp)
    unfold finishFeed
    dsimp only
    split <;> exact .kept rfl rfl rfl rfl
  next value rest _ =>
    obtain ⟨rxWire, rxWireLength, rxDiscarding, invalidFrames, shape⟩ := receiveByte_shape device.runtime value
    have fed : ∃ more, device.log ++ [.fed device.rxFrom value] = device.log ++ more ∧
        ∀ other ∈ more, other.transmits = false := ⟨_, rfl, by simp [Observation.transmits]⟩
    dsimp only [DeviceState.note]
    rw [shape]
    split
    next =>
      exact transmits.fills online (.kept rfl rfl rfl rfl) transmits.completion outside empty _ rfl
        (by simp [Observation.transmits])
    next =>
      exact transmits.fills online (.kept rfl rfl rfl rfl) transmits.completion trivial trivial _ rfl
        (by simp [Observation.transmits])
    next frame completes =>
      have bounded : frame.payload.length ≤ maxPayloadSize := by
        unfold receiveByte at completes
        split at completes
        · split at completes
          · contradiction
          split at completes
          · contradiction
          · exact (irisFrameDecodeInPlace_fits (Option.some.inj completes)).2
        split at completes
        · contradiction
        split at completes <;> contradiction
      have answers : Answers device (handleFrame config
          { device with
            runtime := { device.runtime with
              rxWire := rxWire, rxWireLength := rxWireLength, rxDiscarding := rxDiscarding
              invalidFrames := invalidFrames }
            log := device.log ++ [.fed device.rxFrom value] ++ [.frame frame] }
          { feed with data := rest, consumed := feed.consumed + 1 } frame choices) := by
        refine Answers.after (gateFrame_answers config _ ?_ fit bounded) (.kept rfl rfl rfl rfl) rfl rfl
          ⟨_, List.append_assoc _ _ _, by simp [Observation.transmits]⟩
        exact outside
      obtain ⟨fills, completion, ⟨more, log, others⟩, next⟩ := answers
      refine transmits.fills online fills (completion transmits.completion) ?_ ?_ more log others
      · rcases next with ⟨_, handled⟩ | ⟨⟨_, reopens⟩, -, calls⟩
        · rw [handled]
          trivial
        · rw [reopens]
          exact calls
      · rcases next with ⟨_, handled⟩ | ⟨⟨_, reopens⟩, same, -⟩
        · rw [handled]
          trivial
        · rw [reopens]
          exact same.trans empty

theorem frameDone_transmits (transmits : Transmits device record) (phase : device.phase = .handled feed)
    (outside : device.mailbox.call = .idle) :
    Transmits (frameDone device feed) (record.note device event (frameDone device feed)) := by
  have online : device.phase.offline = false := by rw [phase]; rfl
  unfold frameDone
  dsimp only
  split
  · refine transmits.fills online ?_ transmits.completion outside trivial [] (List.append_nil _).symm (by simp)
    unfold finishFeed
    dsimp only
    split <;> exact .kept rfl rfl rfl rfl
  next free =>
    rw [not_not] at free
    exact transmits.fills online (.kept rfl rfl rfl rfl) transmits.completion outside free [] (List.append_nil _).symm
      (by simp)

theorem greet_slot (device : DeviceState) (choices : Choices) :
    ∃ runtime more, Fills device.runtime runtime ∧ (∀ other ∈ more, other.transmits = false) ∧
      (greet config device choices).1 = { device with runtime := runtime, log := device.log ++ more } := by
  unfold greet
  dsimp only
  split
  · exact ⟨_, _, queueHello_slot _ _ _, by simp [Observation.transmits], rfl⟩
  · exact ⟨_, [], queueHello_slot _ _ _, by simp, by rw [List.append_nil]⟩

/-- A new session finds the slot free, so the bytes of the old one are whole frames. -/
theorem reopen_transmits (transmits : Transmits device record) (phase : device.phase = .reopening feed) :
    Transmits (reopen config device feed choices) (record.note device event (reopen config device feed choices)) := by
  have empty : device.runtime.txWire = [] := by
    have free := transmits.free
    rwa [phase] at free
  have whole : EarlierSessions (record.earlier ++ record.session) := by
    rcases transmits.wire with ⟨frames, slot, wire⟩ | silent
    · have none : slot = none := by
        cases slot with
        | none => rfl
        | some frame => exact absurd (wire.held.symm.trans empty) frame.wire_ne_nil
      subst none
      have numbered := wire.numbered
      have bytes := wire.bytes
      rw [empty, List.take_nil, List.append_nil] at bytes
      rw [Option.toList_none, List.append_nil] at numbered
      exact bytes ▸ transmits.earlier.snoc numbered
    · have offline := silent.offline
      rw [phase] at offline
      contradiction
  obtain ⟨begun, starts⟩ : ∃ begun, beginSession (resetSession device).runtime choices.session = some begun :=
    ⟨_, rfl⟩
  obtain ⟨-, -, -, -, free, -⟩ := beginSession_shape starts
  have counters : begun.sequence = fun _ => 0 := by
    obtain ⟨linked, -, rfl⟩ := Option.map_eq_some_iff.mp starts
    rfl
  have shape : (startSession config (resetSession device) choices).runtime = begun ∧
      (startSession config (resetSession device) choices).mailbox = device.mailbox ∧
      ∃ drawn, (startSession config (resetSession device) choices).log =
        device.log ++ [.ended, .begun choices.session drawn] := by
    unfold startSession
    rw [starts]
    dsimp only
    by_cases skipped : executorBusy (resetSession device).mailbox = true ∨ config.pairing = none
    · rw [if_pos skipped]
      exact ⟨rfl, rfl, _, List.append_assoc _ _ _⟩
    · rw [if_neg skipped]
      exact ⟨rfl, rfl, _, List.append_assoc _ _ _⟩
  unfold reopen
  dsimp only
  generalize startSession config (resetSession device) choices = started at shape
  obtain ⟨rfl, mailbox, drawn, log⟩ := shape
  obtain ⟨runtime, more, fills, others, greeted⟩ := greet_slot config { started with
    transport := irisTransportRenewClaim config started.transport choices.link.now } choices
  rw [greeted]
  have noted (after : DeviceState) (same : after.log = started.log ++ more) :
      record.note device event after = ⟨record.earlier ++ record.session, []⟩ := by
    have silent : WireRecord.note ⟨record.earlier ++ record.session, []⟩ device event
        { device with log := device.log ++ more } = ⟨record.earlier ++ record.session, []⟩ :=
      WireRecord.note_silent more rfl others
    unfold WireRecord.note at silent ⊢
    rw [List.drop_left] at silent
    rw [same, log, List.append_assoc, List.drop_left, List.cons_append, List.cons_append, List.nil_append,
      List.foldl_cons, List.foldl_cons]
    simp only [phase, reduceCtorEq, if_false]
    simp only [phase] at silent
    exact silent
  rw [noted _ rfl]
  refine ⟨?_, trivial, trivial, whole, .inl ⟨[], ?_⟩⟩
  · dsimp only
    rw [mailbox]
    exact transmits.completion
  · exact (OnWire.empty counters free).fills (fills.trans (.kept rfl rfl rfl rfl))

theorem produceFrame_transmits {burst : Nat} {progressed : Bool} (transmits : Transmits device record)
    (phase : device.phase = .produce burst progressed) (fit : choices.Fit) :
    Transmits (produceFrame config device burst progressed choices)
      (record.note device event (produceFrame config device burst progressed choices)) := by
  have online : device.phase.offline = false := by rw [phase]; rfl
  have outside : device.mailbox.call = .idle := by
    have calls := transmits.calls
    rwa [phase] at calls
  unfold produceFrame
  dsimp only
  split
  · exact transmits.fills online (.refl _) transmits.completion outside trivial [] (List.append_nil _).symm (by simp)
  split
  · obtain ⟨runtime, more, fills, others, shape⟩ := greet_slot config device choices
    rw [shape]
    split
    · exact transmits.fills online (fills.trans (.kept rfl rfl rfl rfl)) transmits.completion outside trivial more rfl
        others
    · exact transmits.fills online fills transmits.completion outside trivial more rfl others
  split
  · split
    · exact transmits.fills online (queueEvent_fills _ _ _ fit.event) transmits.completion outside trivial []
        (List.append_nil _).symm (by simp)
    · refine transmits.fills online (.refl _) ?_ trivial trivial [] (List.append_nil _).symm (by simp)
      dsimp only
      unfold drainStart
      split <;> exact transmits.completion
  · exact transmits.fills online (.refl _) transmits.completion outside trivial [] (List.append_nil _).symm (by simp)

theorem drainedFrame_transmits {burst : Nat} {progressed : Bool} (transmits : Transmits device record)
    (phase : device.phase = .drained burst progressed) (outside : device.mailbox.call = .idle) (fit : choices.Fit) :
    Transmits (drainedFrame device burst progressed choices)
      (record.note device event (drainedFrame device burst progressed choices)) := by
  have online : device.phase.offline = false := by rw [phase]; rfl
  refine transmits.fills online ?_ transmits.completion outside trivial [] (List.append_nil _).symm (by simp)
  unfold drainedFrame
  dsimp only
  split
  · exact .refl _
  · exact produceService_fills device fit

theorem taskStep_transmits (transmits : Transmits device record) (outside : device.mailbox.call = .idle)
    (fit : choices.Fit) :
    Transmits (taskStep config device choices) (record.note device event (taskStep config device choices)) := by
  unfold taskStep
  split
  next phase => exact pollLink_transmits config transmits phase
  next => exact resetSession_transmits transmits outside
  next burst phase =>
    exact (pumpLink_pumped burst choices transmits.unsent).transmits transmits (by rw [phase]; rfl) outside
  next feed phase => exact feedRx_transmits config transmits phase fit
  next feed phase => exact frameDone_transmits transmits phase outside
  next feed phase => exact reopen_transmits config transmits phase
  next burst progressed phase => exact produceFrame_transmits config transmits phase fit
  next burst progressed phase => exact drainedFrame_transmits transmits phase outside fit
  next burst progressed phase =>
    exact (finishPump_pumped burst progressed choices transmits.unsent).transmits transmits (by rw [phase]; rfl) outside

def Serves : DeviceEvent → Prop
  | .task choices => choices.Fit
  | _ => True

instance : (event : DeviceEvent) → Decidable (Serves event)
  | .task choices => inferInstanceAs (Decidable choices.Fit)
  | .worker _ | .line _ | .schedule _ | .facts _ _ _ _ => .isTrue trivial

def PumpRuns (device : DeviceState) : DeviceEvent → Prop
  | .task choices => choices.Fit ∧ DrawsOther device (.task choices)
  | _ => True

instance (device : DeviceState) (event : DeviceEvent) : Decidable (PumpRuns device event) :=
  match event with
  | .task choices => inferInstanceAs (Decidable (choices.Fit ∧ DrawsOther device (.task choices)))
  | .worker _ | .line _ | .schedule _ | .facts _ _ _ _ => .isTrue trivial

theorem PumpRuns.serves (runs : PumpRuns device event) : Serves event := by
  cases event with
  | task choices => exact runs.1
  | _ => trivial

theorem PumpRuns.draws (runs : PumpRuns device event) :
    DrawsOther device event := by
  cases event with
  | task choices => exact runs.2
  | _ => trivial

theorem callStep_abandons {mailbox : Mailbox} {ticket : Nat} {input : CallInput}
    {result : Mailbox × Runtime × List Trace} (inside : mailbox.call.abandons = true)
    (step : callStep mailbox runtime ticket input = some result) :
    result.2.1 = runtime ∧ (result.1.call = .idle ∨ result.1.call.abandons = true) := by
  cases call : mailbox.call <;> rw [call] at inside <;> simp only [callStep, call] at step <;>
    first | contradiction | cases step
  case abandoning deinit =>
    refine ⟨rfl, .inr ?_⟩
    unfold executorAbandon
    dsimp only
    split
    · split
      · dsimp only
        rw [call]
        rfl
      · rfl
    · rfl
  case notifyingAbandon =>
    refine ⟨rfl, ?_⟩
    unfold notifyTask
    split
    · exact .inl rfl
    · refine .inr ?_
      dsimp only
      rw [call]
      rfl

theorem callStep_transmits {event : DeviceEvent} {result : Mailbox × Runtime × List Trace}
    (transmits : Transmits device record) (fit : choices.Fit)
    (step : callStep device.mailbox device.runtime device.issued choices.call = some result) :
    let after := { device with
      mailbox := result.1
      runtime := result.2.1
      log := device.log ++ result.2.2.map .executor }
    Transmits after (record.note device event after) := by
  obtain ⟨fills, completion⟩ := callStep_fills transmits.completion fit.call step
  have inside : device.mailbox.call ≠ .idle := by
    intro outside
    simp [callStep, outside] at step
  have calls := transmits.calls
  have free := transmits.free
  -- Outside the handlers the executor only abandons a session.
  have abandons (only : device.mailbox.call = .idle ∨ device.mailbox.call.abandons = true) :=
    callStep_abandons (only.resolve_left inside) step
  cases phase : device.phase with
  | handled feed =>
    exact transmits.fills (by rw [phase]; rfl) fills completion trivial trivial _ rfl (executor_transmits _)
  | drained burst progressed =>
    exact transmits.fills (by rw [phase]; rfl) fills completion trivial trivial _ rfl (executor_transmits _)
  | ending =>
    rw [phase] at calls
    obtain ⟨same, after⟩ := abandons calls
    refine transmits.still ?_ ?_ ?_ ?_ ?_ completion after trivial (fun _ _ => rfl) _ rfl (executor_transmits _)
    · exact congrArg Runtime.sessionId same
    · exact congrArg Runtime.txWire same
    · exact congrArg Runtime.txWireOffset same
    · exact congrArg Runtime.sequence same
    · exact congrArg Runtime.linkConnected same
  | reopening feed =>
    rw [phase] at calls free
    obtain ⟨same, after⟩ := abandons calls
    refine transmits.fills (by rw [phase]; rfl) fills completion after ?_ _ rfl (executor_transmits _)
    exact (congrArg Runtime.txWire same).trans free
  | _ =>
    rw [phase] at calls
    exact absurd calls inside

theorem deviceNext_transmits {device after : DeviceState} (transmits : Transmits device record) (serves : Serves event)
    (step : deviceNext config device event = some after) : Transmits after (record.note device event after) := by
  cases deviceNext_step config step with
  | task choices _ outside => exact taskStep_transmits config transmits outside serves
  | call choices result _ moved => exact callStep_transmits transmits serves moved
  | worker input result moved =>
    refine transmits.still rfl rfl rfl rfl rfl (workerStep_completion transmits.completion moved) ?_ transmits.free
      (fun _ off => off) _ (List.append_assoc _ _ _) (workerStep_observes rfl fun _ => rfl)
    dsimp only
    rw [(workerStep_ticket moved).2]
    exact transmits.calls
  | line hostOpen =>
    exact transmits.still rfl rfl rfl rfl rfl transmits.completion transmits.calls transmits.free (fun _ off => off) []
      (List.append_nil _).symm (by simp)
  | schedule type =>
    have same : ∃ events, scheduleEvent device.runtime type = { device.runtime with pendingEvents := events } := by
      unfold scheduleEvent
      split
      · exact ⟨_, rfl⟩
      · exact ⟨_, rfl⟩
    obtain ⟨events, same⟩ := same
    rw [same]
    exact transmits.still rfl rfl rfl rfl rfl transmits.completion transmits.calls transmits.free (fun _ off => off) []
      (List.append_nil _).symm (by simp)
  | facts _ _ _ _ =>
    exact transmits.still rfl rfl rfl rfl rfl transmits.completion transmits.calls transmits.free (fun _ off => off) []
      (List.append_nil _).symm (by simp)

end task

end EspIris.Device
