import EspIris.Codec.Agreement

/-! The state of the device runtime, `iris_runtime_t`, its session state machine and the
single transmit slot that every response goes through. -/

namespace EspIris.Device
open Codec.Device

inductive SessionState
  | disconnected
  | negotiating
  | ready
  deriving DecidableEq, Repr

inductive SessionEvent
  | linkUp
  | authenticated
  | linkDown
  deriving DecidableEq, Repr

/-- `iris_session_transition`; a refused event has no next state. -/
def irisSessionTransition (current : SessionState) : SessionEvent → Option SessionState
  | .linkUp => if current = .disconnected then some .negotiating else none
  | .authenticated => if current = .negotiating then some .ready else none
  | .linkDown => some .disconnected

/-- `iris_runtime_t`. The pending and transmit buffers are the bytes they hold; the receive
buffer is whole, since others write into it. -/
structure Runtime where
  linkConnected : Bool
  helloAcked : Bool
  healthy : Bool
  previousBootCrash : Bool
  coreDumpPresent : Bool
  crashLoopTriggered : Bool
  sessionState : SessionState
  deviceId : List UInt8
  bootId : UInt64
  sessionId : UInt32
  sequence : UInt8 → UInt32
  rxSequence : UInt8 → UInt32
  rxSequenceSeen : UInt8 → Bool
  logCredit : UInt32
  nextHelloUs : Int
  pendingEvents : UInt8 → Bool
  rxPending : List UInt8
  rxPendingOffset : Nat
  rxWire : List UInt8
  rxWireLength : Nat
  rxDiscarding : Bool
  disconnectAfterTx : Bool
  txWire : List UInt8
  txWireOffset : Nat
  rxFrames : UInt32
  txFrames : UInt32
  invalidFrames : UInt32
  linkCount : UInt32

def Runtime.zero : Runtime where
  linkConnected := false
  helloAcked := false
  healthy := false
  previousBootCrash := false
  coreDumpPresent := false
  crashLoopTriggered := false
  sessionState := .disconnected
  deviceId := List.replicate 16 0
  bootId := 0
  sessionId := 0
  sequence := fun _ => 0
  rxSequence := fun _ => 0
  rxSequenceSeen := fun _ => false
  logCredit := 0
  nextHelloUs := 0
  pendingEvents := fun _ => false
  rxPending := []
  rxPendingOffset := 0
  rxWire := List.replicate maxWireFrameSize 0
  rxWireLength := 0
  rxDiscarding := false
  disconnectAfterTx := false
  txWire := []
  txWireOffset := 0
  rxFrames := 0
  txFrames := 0
  invalidFrames := 0
  linkCount := 0

def transitionSession (runtime : Runtime) (event : SessionEvent) : Option Runtime :=
  (irisSessionTransition runtime.sessionState event).map fun next =>
    { runtime with
      sessionState := next
      linkConnected := decide (next ≠ .disconnected)
      helloAcked := decide (next = .ready) }

/-- The arguments of `iris_queue_frame` besides the runtime. -/
structure Reply where
  channel : UInt8
  type : UInt8
  flags : UInt16
  requestId : UInt32
  streamId : UInt32
  payload : List UInt8
  deriving DecidableEq, Repr

def replyHeader (runtime : Runtime) (reply : Reply) : WireHeader where
  channel := reply.channel
  type := reply.type
  flags := reply.flags
  sessionId := runtime.sessionId
  requestId := reply.requestId
  streamId := reply.streamId
  sequence := runtime.sequence reply.channel + 1
  payloadSize := UInt32.ofNat reply.payload.length

def setSequence (runtime : Runtime) (channel : UInt8) : Runtime :=
  { runtime with
    sequence := fun other => if other = channel then runtime.sequence channel + 1 else runtime.sequence other }

/-- `queue_frame`. What the transmit buffer holds before is overwritten and never read. -/
def queueFrame (runtime : Runtime) (reply : Reply) : Runtime × EspErr :=
  if runtime.txWire ≠ [] then (runtime, EspErr.invalidState)
  else
    match irisFrameEncode (List.replicate maxWireFrameSize 0) maxWireFrameSize (replyHeader runtime reply)
      reply.payload with
    | .ok wire => ({ setSequence runtime reply.channel with txWire := wire, txWireOffset := 0 }, EspErr.ok)
    | .error reason => (setSequence runtime reply.channel, reason)

def queueReplies (runtime : Runtime) (replies : List Reply) : Runtime :=
  replies.foldl (fun runtime reply => (queueFrame runtime reply).1) runtime

def errorReply (requestId : UInt32) (code : EspErr) (channel type : UInt8) : Reply where
  channel := Channel.control
  type := ControlType.error
  flags := Flag.response ||| Flag.error
  requestId := requestId
  streamId := 0
  payload := irisPutLe32 code ++ [channel, type, 0, 0]

def queueError (runtime : Runtime) (requestId : UInt32) (code : EspErr) (channel type : UInt8) :
    Runtime × EspErr :=
  queueFrame runtime (errorReply requestId code channel type)

structure Reply.Fits (reply : Reply) : Prop where
  channel : reply.channel < Channel.count
  payload : reply.payload.length ≤ maxPayloadSize

instance (reply : Reply) : Decidable reply.Fits :=
  decidable_of_iff (reply.channel < Channel.count ∧ reply.payload.length ≤ maxPayloadSize)
    ⟨fun both => ⟨both.1, both.2⟩, fun fits => ⟨fits.channel, fits.payload⟩⟩

def replyBody (runtime : Runtime) (reply : Reply) : List UInt8 :=
  Cobs.encode (Codec.plainFrame (Codec.normalized (replyHeader runtime reply) reply.payload) reply.payload)

theorem replyBody_roundTrip (runtime : Runtime) (reply : Reply) (fits : reply.Fits) :
    Codec.RoundTrip (List.replicate maxWireFrameSize 0) (replyHeader runtime reply) reply.payload
      (replyBody runtime reply) :=
  Codec.roundTrip _ _ _ (List.length_replicate ▸ le_refl _) fits.channel fits.payload

theorem queueFrame_empty (runtime : Runtime) (reply : Reply) (free : runtime.txWire = []) (fits : reply.Fits) :
    queueFrame runtime reply =
      ({ setSequence runtime reply.channel with txWire := replyBody runtime reply ++ [0], txWireOffset := 0 },
        EspErr.ok) := by
  have encodes := (replyBody_roundTrip runtime reply fits).deviceEncodes
  rw [List.length_replicate] at encodes
  rw [queueFrame, if_neg (not_not.mpr free), encodes]

theorem queueFrame_busy (runtime : Runtime) (reply : Reply) (busy : runtime.txWire ≠ []) :
    queueFrame runtime reply = (runtime, EspErr.invalidState) := if_pos busy

theorem irisFrameEncode_error (header : WireHeader) (payload : List UInt8)
    (bad : ¬ (header.channel < Channel.count ∧ payload.length ≤ maxPayloadSize)) :
    ∃ reason, irisFrameEncode (List.replicate maxWireFrameSize 0) maxWireFrameSize header payload = .error reason := by
  rw [irisFrameEncode]
  by_cases long : payload.length > maxPayloadSize
  · exact ⟨_, if_pos long⟩
  · have channel : header.channel ≥ Channel.count := by
      by_contra inside
      exact bad ⟨UInt8.not_le.mp inside, not_lt.mp long⟩
    rw [if_neg long]
    exact ⟨_, if_pos channel⟩

/-- Queueing a frame writes the transmit slot and a sequence number, and nothing else. -/
theorem queueFrame_shape (runtime : Runtime) (reply : Reply) :
    ∃ sequence txWire txWireOffset, (queueFrame runtime reply).1 =
      { runtime with sequence := sequence, txWire := txWire, txWireOffset := txWireOffset } := by
  rw [queueFrame]
  split
  · exact ⟨_, _, _, rfl⟩
  · split
    · exact ⟨_, _, _, rfl⟩
    · exact ⟨_, _, _, rfl⟩

def SlotHolds (txWire : List UInt8) : Prop :=
  txWire = [] ∨ ∃ sender reply, Reply.Fits reply ∧ txWire = replyBody sender reply ++ [0]

theorem SlotHolds.empty : SlotHolds [] := Or.inl rfl

theorem queueFrame_slot (runtime : Runtime) (reply : Reply) (holds : SlotHolds runtime.txWire) :
    SlotHolds (queueFrame runtime reply).1.txWire := by
  by_cases free : runtime.txWire = []
  · by_cases fits : reply.Fits
    · rw [queueFrame_empty runtime reply free fits]
      exact Or.inr ⟨runtime, reply, fits, rfl⟩
    · obtain ⟨reason, failed⟩ := irisFrameEncode_error (replyHeader runtime reply) reply.payload
        (fun both => fits ⟨both.1, both.2⟩)
      rw [queueFrame, if_neg (not_not.mpr free), failed]
      exact Or.inl free
  · rw [queueFrame_busy runtime reply free]
    exact holds

end EspIris.Device
