import EspIris.Device.Session

/-! What sending leaves alone: no function that only builds and queues frames touches the
session, the pending bytes or the count of received bytes, and none empties the transmit slot. -/

namespace EspIris.Device
open Codec.Device

structure SameReception (before after : Runtime) : Prop where
  sessionId : after.sessionId = before.sessionId
  rxPending : after.rxPending = before.rxPending
  rxPendingOffset : after.rxPendingOffset = before.rxPendingOffset
  rxWireLength : after.rxWireLength = before.rxWireLength
  rxDiscarding : after.rxDiscarding = before.rxDiscarding
  room : before.rxWire.length ≤ after.rxWire.length
  slot : after.txWire = [] → before.txWire = []

structure Undisturbed (before after : Runtime) : Prop extends SameReception before after where
  linkConnected : after.linkConnected = before.linkConnected
  helloAcked : after.helloAcked = before.helloAcked
  sessionState : after.sessionState = before.sessionState

structure Untouched (before after : Runtime) : Prop extends Undisturbed before after where
  rxWire : after.rxWire = before.rxWire

theorem SameReception.trans {first middle last : Runtime} (left : SameReception first middle)
    (right : SameReception middle last) : SameReception first last where
  sessionId := right.sessionId.trans left.sessionId
  rxPending := right.rxPending.trans left.rxPending
  rxPendingOffset := right.rxPendingOffset.trans left.rxPendingOffset
  rxWireLength := right.rxWireLength.trans left.rxWireLength
  rxDiscarding := right.rxDiscarding.trans left.rxDiscarding
  room := left.room.trans right.room
  slot := fun free => left.slot (right.slot free)

theorem Undisturbed.refl (runtime : Runtime) : Undisturbed runtime runtime :=
  ⟨⟨rfl, rfl, rfl, rfl, rfl, le_refl _, id⟩, rfl, rfl, rfl⟩

theorem Undisturbed.trans {first middle last : Runtime} (left : Undisturbed first middle)
    (right : Undisturbed middle last) : Undisturbed first last where
  toSameReception := left.toSameReception.trans right.toSameReception
  linkConnected := right.linkConnected.trans left.linkConnected
  helloAcked := right.helloAcked.trans left.helloAcked
  sessionState := right.sessionState.trans left.sessionState

theorem Untouched.refl (runtime : Runtime) : Untouched runtime runtime := ⟨.refl runtime, rfl⟩

theorem Untouched.trans {first middle last : Runtime} (left : Untouched first middle)
    (right : Untouched middle last) : Untouched first last :=
  ⟨left.toUndisturbed.trans right.toUndisturbed, right.rxWire.trans left.rxWire⟩

theorem queueFrame_untouched (runtime : Runtime) (reply : Reply) :
    Untouched runtime (queueFrame runtime reply).1 := by
  have slot : (queueFrame runtime reply).1.txWire = [] → runtime.txWire = [] := by
    intro free
    by_contra busy
    rw [queueFrame_busy runtime reply busy] at free
    exact busy free
  obtain ⟨sequence, txWire, txWireOffset, shape⟩ := queueFrame_shape runtime reply
  rw [shape] at slot ⊢
  exact ⟨⟨⟨rfl, rfl, rfl, rfl, rfl, le_refl _, slot⟩, rfl, rfl, rfl⟩, rfl⟩

theorem queueReplies_untouched (replies : List Reply) (runtime : Runtime) :
    Untouched runtime (queueReplies runtime replies) := by
  induction replies generalizing runtime with
  | nil => exact .refl runtime
  | cons reply replies ih => exact (queueFrame_untouched runtime reply).trans (ih _)

section runtime
variable (runtime : Runtime)
include runtime

theorem refuse_untouched (header : WireHeader) (code : EspErr) :
    Untouched runtime (refuse runtime header code) := queueFrame_untouched _ _

theorem scribble_undisturbed (bytes : List UInt8) :
    Undisturbed runtime (runtime.scribble bytes) := by
  refine ⟨⟨rfl, rfl, rfl, rfl, rfl, ?_, id⟩, rfl, rfl, rfl⟩
  simp only [Runtime.scribble, List.length_append, List.length_drop]
  omega

theorem queueHello_untouched (fields : List UInt8) (challenge : Option (List UInt8)) :
    Untouched runtime (queueHello runtime fields challenge).1 := by
  unfold queueHello
  split
  · exact .refl runtime
  · exact queueFrame_untouched _ _

theorem queueEvent_untouched (type : UInt8) (body : List UInt8) :
    Untouched runtime (queueEvent runtime type body) := by
  have queued := queueFrame_untouched runtime ⟨Channel.event, type, Flag.reliable, 0, 0, body⟩
  unfold queueEvent
  dsimp only
  split
  · exact queued.trans ⟨⟨⟨rfl, rfl, rfl, rfl, rfl, le_refl _, id⟩, rfl, rfl, rfl⟩, rfl⟩
  · exact queued

theorem queueNextLog_untouched (record : Option (List UInt8)) :
    Untouched runtime (queueNextLog runtime record) := by
  unfold queueNextLog
  split
  · exact .refl runtime
  next payload =>
    have queued := queueFrame_untouched runtime ⟨Channel.log, 0x01, 0, 0, 0, payload⟩
    split
    · exact .refl runtime
    dsimp only
    split
    · exact queued.trans ⟨⟨⟨rfl, rfl, rfl, rfl, rfl, le_refl _, id⟩, rfl, rfl, rfl⟩, rfl⟩
    · exact queued

theorem queueMedia_undisturbed (slots : List MediaSlot) :
    Undisturbed runtime (queueMedia runtime slots) := by
  unfold queueMedia
  split
  · exact .refl runtime
  · exact (scribble_undisturbed _ _).trans (queueFrame_untouched _ _).toUndisturbed

theorem scheduleEvent_untouched (type : UInt8) :
    Untouched runtime (scheduleEvent runtime type) := by
  unfold scheduleEvent
  split
  · exact .refl runtime
  · exact ⟨⟨⟨rfl, rfl, rfl, rfl, rfl, le_refl _, id⟩, rfl, rfl, rfl⟩, rfl⟩

theorem scheduleSessionEvents_untouched :
    Untouched runtime (scheduleSessionEvents runtime) := by
  have all (types : List UInt8) (runtime : Runtime) : Untouched runtime (types.foldl scheduleEvent runtime) := by
    induction types generalizing runtime with
    | nil => exact .refl runtime
    | cons type types ih => exact (scheduleEvent_untouched runtime type).trans (ih _)
  exact all _ _

theorem noteSequence_untouched (header : WireHeader) :
    Untouched runtime (noteSequence runtime header) :=
  ⟨⟨⟨rfl, rfl, rfl, rfl, rfl, le_refl _, id⟩, rfl, rfl, rfl⟩, rfl⟩

theorem handleControl_undisturbed (frame : DecodedFrame) (input : HandlerInput) :
    Undisturbed runtime (handleControl runtime frame input) := by
  have queued (reply : Reply) := (queueFrame_untouched runtime reply).toUndisturbed
  have refused (code : EspErr) := (refuse_untouched runtime frame.header code).toUndisturbed
  unfold handleControl
  dsimp only
  split
  · exact queued _
  split
  · split
    · exact queued _
    · exact refused _
  split
  · exact queued _
  split
  · split
    · exact ⟨⟨rfl, rfl, rfl, rfl, rfl, le_refl _, id⟩, rfl, rfl, rfl⟩
    split
    · exact .refl runtime
    · exact refused _
  · exact refused _

theorem respondCrash_undisturbed (header : WireHeader) (answer : Except EspErr (List UInt8)) (type : UInt8)
    (flags : UInt16) (stream : UInt32) :
    Undisturbed runtime (respondCrash runtime header answer type flags stream) := by
  unfold respondCrash
  split
  · exact (refuse_untouched _ _ _).toUndisturbed
  next payload =>
    have queued (reply : Reply) := (scribble_undisturbed runtime payload).trans
      (queueFrame_untouched (runtime.scribble payload) reply).toUndisturbed
    dsimp only
    split
    · exact queued _
    · exact (queued _).trans (refuse_untouched _ _ _).toUndisturbed

theorem handleCrash_undisturbed (frame : DecodedFrame) (input : HandlerInput) :
    Undisturbed runtime (handleCrash runtime frame input) := by
  have refused (code : EspErr) := (refuse_untouched runtime frame.header code).toUndisturbed
  unfold handleCrash
  dsimp only
  split
  · split
    · exact refused _
    · exact respondCrash_undisturbed _ _ _ _ _ _
  split
  · split
    · exact refused _
    · exact respondCrash_undisturbed _ _ _ _ _ _
  · exact refused _

theorem serveInline_undisturbed (frame : DecodedFrame) (input : HandlerInput) :
    Undisturbed runtime (serveInline runtime frame input) := by
  have built := (scribble_undisturbed runtime input.scratch).trans
    (queueReplies_untouched input.replies _).toUndisturbed
  unfold serveInline
  dsimp only
  split
  · exact built
  · exact built.trans (refuse_untouched _ _ _).toUndisturbed

end runtime

end EspIris.Device
