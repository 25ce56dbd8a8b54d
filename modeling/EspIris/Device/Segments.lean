import EspIris.Codec.FrameDecoder
import EspIris.Device.ReceiveIntegrity

/-! Both stream decoders hand on the segments between the delimiters, however the stream is cut:
the gateway's always, the device's within a session as long as nothing writes over what it holds. -/

namespace EspIris.Device
open Codec.Device Machine Framing

/-- The bytes that `feed_rx` hands to the decoder at one byte. -/
def handedSegment (runtime : Runtime) (value : UInt8) : Option (List UInt8) :=
  (receiveByte runtime value).2.map fun _ => runtime.rxWire.take runtime.rxWireLength

theorem segments_snoc (stream : List UInt8) (value : UInt8) :
    segments rxLimit 0 (stream ++ [value]) =
      segments rxLimit 0 stream ++ (take rxLimit 0 (wireRest stream) value).2.toList := by
  have whole := receive_snoc rxLimit 0 .empty stream value
  rw [receive_segments, receive_segments] at whole
  rw [wireRest, receive_segments]
  exact (Prod.mk.inj whole).2

theorem handedSegment_take {runtime : Runtime} (room : RxRoom runtime) (value : UInt8) :
    (take rxLimit 0 (received runtime) value).2 = handedSegment runtime value := by
  unfold handedSegment
  cases completes : (receiveByte runtime value).2 with
  | none => exact congrArg Prod.snd (receiveByte_none room completes).2
  | some result =>
    obtain ⟨_, _, _, _, taken, _⟩ := receiveByte_some room completes
    rw [taken]
    rfl

theorem decodeWire_host (segment : List UInt8) :
    Codec.Host.segmentFrame segment = (decodeWire segment).map fun frame => Codec.hostFrame frame.header frame.payload := by
  have agree := Codec.decoders_agree segment []
  rw [List.append_nil] at agree
  unfold Codec.Host.segmentFrame decodeWire
  cases device : (irisFrameDecodeInPlace segment segment.length).2 <;>
    cases host : Codec.Host.decodeFrame segment <;> rw [device, host] at agree
  · rfl
  · exact absurd agree id
  · exact absurd agree id
  · exact congrArg some agree.1

/-- The device hands on exactly the segments of the bytes it was fed, one at each byte that ends
one; it dispatches what they decode to, which is what the gateway's decoder makes of the same
bytes; and what it was fed is what it read, less what is parked. -/
structure HandsSegments (state : DeviceState) : Prop where
  handed : ∀ feed value rest, state.phase = .feeding feed → feed.data = value :: rest →
    segments rxLimit 0 ((sessionRecord state.log).fed ++ [value]) =
      segments rxLimit 0 (sessionRecord state.log).fed ++ (handedSegment state.runtime value).toList
  dispatched : (sessionRecord state.log).frames =
    (segments rxLimit 0 (sessionRecord state.log).fed).filterMap decodeWire
  gateway : (Codec.Host.feed .new (sessionRecord state.log).fed).2 =
    (sessionRecord state.log).frames.map fun frame => Codec.hostFrame frame.header frame.payload
  consumed : (sessionRecord state.log).read = (sessionRecord state.log).fed ++ unread state
  parked : ∀ feed, state.phase = .feeding feed → feed.data = unread state

theorem Intact.handsSegments {state : DeviceState} (intact : Intact state) : HandsSegments state := by
  obtain ⟨room, challenge, frames, split, reception⟩ := intact
  have dispatched : (sessionRecord state.log).frames =
      (segments rxLimit 0 (sessionRecord state.log).fed).filterMap decodeWire := by
    rw [frames, wireFrames, receive_segments]
  refine ⟨?_, dispatched, ?_, split, ?_⟩
  · intro feed value rest phase next
    rw [phase] at reception
    rw [segments_snoc, ← reception.1, handedSegment_take room]
  · rw [dispatched, Codec.Host.feed_segments, List.map_filterMap]
    exact congrArg (List.filterMap · _) (funext decodeWire_host)
  · intro feed phase
    rw [phase] at reception
    rw [unread, phase]
    exact reception.2.1

/-- The gateway's decoder is given by the segments of the stream alone, and a valid frame behind a
delimiter always comes through; the device hands on the same segments within a session, in every
run in which no media frame is built over a frame received in part. -/
theorem decoders_take_segments :
    (∀ chunks : List (List UInt8),
      (Codec.Host.feedAll .new chunks).2 =
          (segments Codec.Host.segmentLimit 0 chunks.flatten).filterMap Codec.Host.segmentFrame ∧
        (Codec.Host.feedAll .new chunks).1.invalidFrames = Codec.Host.invalidSegments chunks.flatten) ∧
    (∀ (chunks : List (List UInt8)) (garbage wire : List UInt8) (frame : Codec.Host.Frame),
      Codec.Host.encodeFrame frame = .ok wire → chunks.flatten = garbage ++ [0] ++ wire →
        (Codec.Host.feedAll .new chunks).2 = (Codec.Host.feed .new (garbage ++ [0])).2 ++ [frame]) ∧
    (∀ config state, Reachable ((device config).guarded NoMediaOverPartial) state → HandsSegments state) := by
  refine ⟨?_, ?_, ?_⟩
  · intro chunks
    rw [Codec.Host.feedAll_flatten, Codec.Host.feed_segments]
    exact ⟨rfl, rfl⟩
  · intro chunks garbage wire frame encoded arrives
    exact Codec.Host.feedAll_resynchronises encoded arrives
  · intro config state reached
    exact ((device_intact config).reachable reached).handsSegments

/-- A PING after garbage at the gateway, and a session up to its first frame. -/
theorem decoders_take_segments_ping :
    ∃ (body : List UInt8) (frame : Codec.Host.Frame) (state : DeviceState),
      (Codec.Host.feedAll .new [[1, 2], [0] ++ body ++ [0]]).2 = (Codec.Host.feed .new [1, 2, 0]).2 ++ [frame] ∧
        (sessionRecord state.log).frames.length = 1 ∧ HandsSegments state := by
  obtain ⟨body, trip⟩ : ∃ body, Codec.RoundTrip (List.replicate maxWireFrameSize 0)
      ⟨Channel.control, ControlType.ping, 0, 7, 1, 0, 1, 0⟩ [] body :=
    ⟨_, Codec.roundTrip _ _ [] (List.length_replicate ▸ le_refl _) (by decide) (by decide)⟩
  have delivered := decoders_take_segments.2.1 [[1, 2], [0] ++ body ++ [0]] [1, 2] _ _ trip.hostEncodes (by simp)
  obtain ⟨state, reached, first⟩ := firstFrame_reached
  exact ⟨body, _, state, delivered, first, decoders_take_segments.2.2 tcpOnly state reached⟩

def linkRead (log : List Observation) : List UInt8 :=
  log.flatMap fun observation =>
    match observation with
    | .read _ bytes => bytes
    | _ => []

def linkFrames (log : List Observation) : List DecodedFrame :=
  log.filterMap fun observation =>
    match observation with
    | .frame frame => some frame
    | _ => none

def newSession : List UInt8 := hostWire Channel.control ControlType.helloAck Flag.newSession 0 []

def reopenedRun : List DeviceEvent :=
  let next := { Choices.quiet with session := 8 }
  [.task Choices.quiet.accepting, .task (next.reading (newSession ++ ping))] ++
    List.replicate (newSession.length + 3) (.task next)

def parkedDropped (state : DeviceState) : Bool := state.phase.between = true ∧ unread state = [] ∧
  linkRead state.log = newSession ++ ping ∧ (linkFrames state.log).length = 1 ∧
  (wireFrames (newSession ++ ping)).length = 2

/-- A new session drops what is parked, so the PING is never decoded; and within a session the
image of `splitPingRun` destroys another. -/
theorem segments_lost :
    (∃ state, Reachable (device tcpOnly) state ∧ state.phase.between = true ∧ unread state = [] ∧
      linkRead state.log = newSession ++ ping ∧ (linkFrames state.log).length = 1 ∧
      (wireFrames (newSession ++ ping)).length = 2) ∧
    (∃ state, Reachable (device tcpOnly) state ∧ ¬ HandsSegments state) := by
  constructor
  · obtain ⟨state, run, dropped⟩ : ∃ state, Run (device tcpOnly) (DeviceState.initial [] 0) reopenedRun state ∧
        parkedDropped state = true := Run.of_check (by decide +kernel)
    exact ⟨state, ⟨_, reopenedRun, ⟨[], 0, rfl⟩, run⟩, of_decide_eq_true dropped⟩
  · obtain ⟨state, reached, dispatched, whole⟩ := pingLost_reached
    refine ⟨state, reached, fun hands => ?_⟩
    have dispatchedAll := hands.dispatched
    rw [wireFrames, receive_segments] at whole
    dsimp only at whole
    rw [← dispatchedAll, dispatched] at whole
    exact absurd whole (by decide)

end EspIris.Device
