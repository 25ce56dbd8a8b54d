import EspIris.Device.SessionSteps

/-! What sending does to the transmit slot. A function of the device that builds frames leaves
the slot alone, or fills it, if it was free, with one whole frame that has the next number of its
channel, provided that what it builds fits the codec. -/

namespace EspIris.Device
open Codec.Device Machine
variable (runtime : Runtime)

structure SentFrame where
  header : WireHeader
  payload : List UInt8
  known : header.channel < Channel.count
  bounded : payload.length ≤ maxPayloadSize

def SentFrame.wire (frame : SentFrame) : List UInt8 :=
  Cobs.encode (Codec.plainFrame (Codec.normalized frame.header frame.payload) frame.payload) ++ [0]

theorem SentFrame.wire_ne_nil (frame : SentFrame) : frame.wire ≠ [] := by
  simp [SentFrame.wire]

def Reply.frame (reply : Reply) (fits : reply.Fits) (runtime : Runtime) : SentFrame :=
  ⟨replyHeader runtime reply, reply.payload, fits.channel, fits.payload⟩

def nextSequence (sequence : UInt8 → UInt32) (channel : UInt8) : UInt8 → UInt32 :=
  fun other => if other = channel then sequence channel + 1 else sequence other

inductive Fills (before after : Runtime) : Prop
  | kept (sessionId : after.sessionId = before.sessionId) (txWire : after.txWire = before.txWire)
      (txWireOffset : after.txWireOffset = before.txWireOffset) (sequence : after.sequence = before.sequence)
  | queued (frame : SentFrame) (free : before.txWire = []) (sessionId : after.sessionId = before.sessionId)
      (session : frame.header.sessionId = before.sessionId)
      (number : frame.header.sequence = before.sequence frame.header.channel + 1)
      (txWire : after.txWire = frame.wire) (txWireOffset : after.txWireOffset = 0)
      (sequence : after.sequence = nextSequence before.sequence frame.header.channel)

theorem Fills.refl : Fills runtime runtime := .kept rfl rfl rfl rfl

theorem Fills.trans {first middle last : Runtime} (left : Fills first middle) (right : Fills middle last) :
    Fills first last := by
  cases left with
  | kept session wire offset sequence =>
    cases right with
    | kept session' wire' offset' sequence' =>
      exact .kept (session'.trans session) (wire'.trans wire) (offset'.trans offset) (sequence'.trans sequence)
    | queued frame free session' own number wire' offset' sequence' =>
      rw [session, wire, sequence] at *
      exact .queued frame free session' own number wire' offset' sequence'
  | queued frame free session own number wire offset sequence =>
    cases right with
    | kept session' wire' offset' sequence' =>
      exact .queued frame free (session'.trans session) own number (wire'.trans wire) (offset'.trans offset)
        (sequence'.trans sequence)
    | queued other empty => exact absurd (wire.symm.trans empty) frame.wire_ne_nil

theorem queueFrame_fills (reply : Reply) (fits : reply.Fits) :
    Fills runtime (queueFrame runtime reply).1 := by
  by_cases free : runtime.txWire = []
  · rw [queueFrame_empty runtime reply free fits]
    exact .queued (reply.frame fits runtime) free rfl rfl rfl rfl rfl rfl
  · rw [queueFrame_busy runtime reply free]
    exact .refl runtime

theorem errorReply_fits (requestId : UInt32) (code : EspErr) (channel type : UInt8) :
    (errorReply requestId code channel type).Fits :=
  ⟨(by decide : Channel.control < Channel.count), by simp [errorReply, irisPutLe32, maxPayloadSize]⟩

theorem refuse_fills (header : WireHeader) (code : EspErr) :
    Fills runtime (refuse runtime header code) := queueFrame_fills _ _ (errorReply_fits _ _ _ _)

theorem queueReplies_fills (replies : List Reply) (runtime : Runtime) (fits : ∀ reply ∈ replies, reply.Fits) :
    Fills runtime (queueReplies runtime replies) := by
  induction replies generalizing runtime with
  | nil => exact .refl runtime
  | cons reply replies ih =>
    have first := queueFrame_fills runtime reply (fits reply List.mem_cons_self)
    exact first.trans (ih _ fun other inside => fits other (List.mem_cons_of_mem _ inside))

theorem queueHello_slot (fields : List UInt8) (challenge : Option (List UInt8)) :
    Fills runtime (queueHello runtime fields challenge).1 := by
  unfold queueHello
  split
  · exact .refl runtime
  next short =>
    apply queueFrame_fills
    exact ⟨(by decide : Channel.control < Channel.count), (Nat.not_lt.mp short).trans (by decide)⟩

theorem queueEvent_fills (type : UInt8) (body : List UInt8) (fits : body.length ≤ maxPayloadSize) :
    Fills runtime (queueEvent runtime type body) := by
  have queued := queueFrame_fills runtime ⟨Channel.event, type, Flag.reliable, 0, 0, body⟩
    ⟨(by decide : Channel.event < Channel.count), fits⟩
  unfold queueEvent
  dsimp only
  split
  · exact queued.trans (.kept rfl rfl rfl rfl)
  · exact queued

theorem queueNextLog_fills (record : Option (List UInt8))
    (fits : ∀ payload, record = some payload → payload.length ≤ maxPayloadSize) :
    Fills runtime (queueNextLog runtime record) := by
  unfold queueNextLog
  split
  · exact .refl runtime
  next payload =>
    have queued := queueFrame_fills runtime ⟨Channel.log, 0x01, 0, 0, 0, payload⟩
      ⟨(by decide : Channel.log < Channel.count), fits payload rfl⟩
    split
    · exact .refl runtime
    dsimp only
    split
    · exact queued.trans (.kept rfl rfl rfl rfl)
    · exact queued

theorem MediaSlot.ready_length {slot : MediaSlot} {payload : List UInt8} (ready : slot.ready = some payload) :
    payload.length ≤ maxPayloadSize := by
  unfold MediaSlot.ready at ready
  split at ready
  · contradiction
  next bytes data =>
    have short := slot.fits bytes data
    have two (values : List UInt16) : (values.flatMap irisPutLe16).length = 2 * values.length := by
      induction values with
      | nil => rfl
      | cons value values ih =>
        rw [List.flatMap_cons, List.length_append, ih, List.length_cons]
        simp only [irisPutLe16, List.length_cons, List.length_nil]
        omega
    dsimp only at ready
    split at ready
    · cases ready
      simp only [List.length_append, two, List.length_take, List.length_drop, irisPutLe16, irisPutLe32, irisPutLe64,
        List.length_cons, List.length_nil]
      simp only [mediaLatestBytes, maxPayloadSize] at *
      omega
    · contradiction

theorem readySlot_some {slots : List MediaSlot} {channel found : UInt8} {slot : MediaSlot} {payload : List UInt8}
    (ready : readySlot slots channel = some (found, slot, payload)) :
    slot.ready = some payload ∧ ∃ place < slots.length, found = channel + UInt8.ofNat place := by
  induction slots generalizing channel with
  | nil => contradiction
  | cons first slots ih =>
    unfold readySlot at ready
    split at ready
    next own =>
      cases ready
      exact ⟨own, 0, Nat.zero_lt_succ _, (UInt8.add_zero _).symm⟩
    obtain ⟨own, place, inside, rfl⟩ := ih ready
    refine ⟨own, place + 1, Nat.succ_lt_succ inside, ?_⟩
    rw [UInt8.add_assoc, UInt8.ofNat_add, UInt8.add_comm 1]
    rfl

theorem queueMedia_fills (slots : List MediaSlot) (three : slots.length ≤ 3) :
    Fills runtime (queueMedia runtime slots) := by
  unfold queueMedia
  split
  · exact .refl runtime
  next channel slot payload ready =>
    obtain ⟨own, place, inside, rfl⟩ := readySlot_some ready
    have known : Channel.screen + UInt8.ofNat place < Channel.count := by
      have cases : place = 0 ∨ place = 1 ∨ place = 2 := by omega
      rcases cases with rfl | rfl | rfl <;> decide
    have scribbled : Fills runtime (runtime.scribble payload) := .kept rfl rfl rfl rfl
    exact scribbled.trans (queueFrame_fills _ _ ⟨known, slot.ready_length own⟩)

theorem scheduleEvent_fills (type : UInt8) : Fills runtime (scheduleEvent runtime type) := by
  unfold scheduleEvent
  split
  · exact .refl runtime
  · exact .kept rfl rfl rfl rfl

theorem scheduleSessionEvents_fills : Fills runtime (scheduleSessionEvents runtime) := by
  have all (types : List UInt8) (runtime : Runtime) : Fills runtime (types.foldl scheduleEvent runtime) := by
    induction types generalizing runtime with
    | nil => exact .refl runtime
    | cons type types ih => exact (scheduleEvent_fills runtime type).trans (ih _)
  exact all _ _

theorem answerAuth_fills (config : Config) (kind : Option TransportKind) (runtime : Runtime) (header : WireHeader)
    (verdict : EspErr) : Fills runtime (answerAuth config kind runtime header verdict) := by
  have fits (flags : UInt16) (value : UInt8) :
      Reply.Fits ⟨Channel.control, ControlType.authResult, flags, header.requestId, 0, [value]⟩ :=
    ⟨(by decide : Channel.control < Channel.count), (by decide : 1 ≤ maxPayloadSize)⟩
  unfold answerAuth
  split
  · exact .refl runtime
  dsimp only
  split
  · exact queueFrame_fills _ _ (fits _ _)
  · exact (queueFrame_fills _ _ (fits _ _)).trans (.kept rfl rfl rfl rfl)

/-- What the services give a step to send fits the codec: their buffers are smaller than its
largest payload, and there are three media slots. -/
structure Choices.Fit (choices : Choices) : Prop where
  event : choices.eventFields.length ≤ maxPayloadSize
  status : choices.handler.status.length ≤ maxPayloadSize
  crash : ∀ payload, choices.handler.crash = .ok payload → payload.length ≤ maxPayloadSize
  replies : ∀ reply ∈ choices.handler.replies, reply.Fits
  file : ∀ reply, choices.file = some reply → reply.Fits
  job : ∀ reply, choices.job = some reply → reply.Fits
  media : choices.media.length ≤ 3
  record : ∀ payload, choices.record = some payload → payload.length ≤ maxPayloadSize
  call : choices.call.reply.Fits

theorem eq_ok_of_mem {made : Except EspErr (List UInt8)} {payload : List UInt8} (inside : payload ∈ made.toOption) :
    made = .ok payload := by
  cases made with
  | error reason => cases inside
  | ok value =>
    cases inside
    rfl

instance (choices : Choices) : Decidable choices.Fit :=
  decidable_of_iff
    (choices.eventFields.length ≤ maxPayloadSize ∧ choices.handler.status.length ≤ maxPayloadSize ∧
      (∀ payload ∈ choices.handler.crash.toOption, payload.length ≤ maxPayloadSize) ∧
      (∀ reply ∈ choices.handler.replies, reply.Fits) ∧ (∀ reply ∈ choices.file, reply.Fits) ∧
      (∀ reply ∈ choices.job, reply.Fits) ∧ choices.media.length ≤ 3 ∧
      (∀ payload ∈ choices.record, payload.length ≤ maxPayloadSize) ∧ choices.call.reply.Fits)
    ⟨fun ⟨event, status, crash, replies, file, job, media, record, call⟩ =>
      ⟨event, status, fun payload isThat => crash payload (by rw [isThat]; rfl), replies, file, job, media, record, call⟩,
    fun ⟨event, status, crash, replies, file, job, media, record, call⟩ =>
      ⟨event, status, fun payload inside => crash payload (eq_ok_of_mem inside), replies, file, job,
        media, record, call⟩⟩

theorem handleControl_fills (frame : DecodedFrame) {choices : Choices} (fit : choices.Fit)
    (bounded : frame.payload.length ≤ maxPayloadSize) :
    Fills runtime (handleControl runtime frame choices.handler) := by
  have queued (type : UInt8) (payload : List UInt8) (short : payload.length ≤ maxPayloadSize) :=
    queueFrame_fills runtime ⟨Channel.control, type, Flag.response, frame.header.requestId, 0, payload⟩
      ⟨(by decide : Channel.control < Channel.count), short⟩
  have refused (code : EspErr) := refuse_fills runtime frame.header code
  unfold handleControl
  dsimp only
  split
  · exact queued _ _ bounded
  split
  · split
    · apply queued
      simp only [List.length_append, List.length_take, irisPutLe64, irisPutLe32, List.length_cons, List.length_nil,
        maxPayloadSize]
      omega
    · exact refused _
  split
  · exact queued _ _ fit.status
  split
  · split
    · exact .kept rfl rfl rfl rfl
    split
    · exact .refl runtime
    · exact refused _
  · exact refused _

theorem respondCrash_fills (header : WireHeader) (answer : Except EspErr (List UInt8)) (type : UInt8) (flags : UInt16)
    (stream : UInt32) (short : ∀ payload, answer = .ok payload → payload.length ≤ maxPayloadSize) :
    Fills runtime (respondCrash runtime header answer type flags stream) := by
  unfold respondCrash
  split
  · exact refuse_fills _ _ _
  next payload =>
    have scribbled : Fills runtime (runtime.scribble payload) := .kept rfl rfl rfl rfl
    have queued := scribbled.trans (queueFrame_fills (runtime.scribble payload)
      ⟨Channel.crash, type, flags, header.requestId, stream, payload⟩
      ⟨(by decide : Channel.crash < Channel.count), short payload rfl⟩)
    dsimp only
    split
    · exact queued
    · exact queued.trans (refuse_fills _ _ _)

theorem handleCrash_fills (frame : DecodedFrame) {choices : Choices} (fit : choices.Fit) :
    Fills runtime (handleCrash runtime frame choices.handler) := by
  have refused (code : EspErr) := refuse_fills runtime frame.header code
  unfold handleCrash
  dsimp only
  split
  · split
    · exact refused _
    · exact respondCrash_fills _ _ _ _ _ _ fit.crash
  split
  · split
    · exact refused _
    · exact respondCrash_fills _ _ _ _ _ _ fit.crash
  · exact refused _

theorem serveInline_fills (frame : DecodedFrame) {choices : Choices} (fit : choices.Fit) :
    Fills runtime (serveInline runtime frame choices.handler) := by
  have scribbled : Fills runtime (runtime.scribble choices.handler.scratch) := .kept rfl rfl rfl rfl
  have built := scribbled.trans (queueReplies_fills choices.handler.replies _ fit.replies)
  unfold serveInline
  dsimp only
  split
  · exact built
  · exact built.trans (refuse_fills _ _ _)

theorem queueSome_fills (reply : Option Reply) (fits : ∀ one, reply = some one → one.Fits) :
    Fills runtime (queueSome runtime reply) := by
  cases reply with
  | none => exact .refl runtime
  | some reply => exact queueFrame_fills runtime reply (fits reply rfl)

theorem produceService_fills (device : DeviceState) {choices : Choices} (fit : choices.Fit) :
    Fills device.runtime (produceService device choices) := by
  have logged (runtime : Runtime) : Fills runtime (logIfFree runtime choices.record) := by
    unfold logIfFree
    split
    · exact queueNextLog_fills runtime choices.record fit.record
    · exact .refl runtime
  have filed := queueSome_fills device.runtime choices.file fit.file
  unfold produceService
  split
  · exact logged _
  dsimp only
  split
  · exact filed
  split
  next reply job => exact (filed.trans (queueFrame_fills _ _ (fit.job reply job))).trans (logged _)
  next => exact (filed.trans (queueMedia_fills _ _ fit.media)).trans (logged _)

theorem irisFrameDecodeInPlace_fits {wire : List UInt8} {wireSize : Nat} {frame : DecodedFrame}
    (decoded : (irisFrameDecodeInPlace wire wireSize).2 = .ok frame) :
    frame.header.channel < Channel.count ∧ frame.payload.length ≤ maxPayloadSize := by
  unfold irisFrameDecodeInPlace at decoded
  split at decoded
  · contradiction
  split at decoded
  · contradiction
  next bytes size _ =>
    dsimp only at decoded
    unfold readFrame at decoded
    split at decoded
    · contradiction
    next shape =>
      dsimp only at decoded
      split at decoded
      · contradiction
      next sized =>
        split at decoded
        · contradiction
        · cases decoded
          simp only [not_or, not_lt] at shape sized
          refine ⟨UInt8.not_le.mp shape.2.2.2.2.1, ?_⟩
          rw [List.length_take]
          exact (Nat.min_le_left _ _).trans sized.1

def CompletionFits (mailbox : Mailbox) : Prop :=
  ∀ frame, mailbox.completion = some frame → (completionReply frame).Fits

theorem decodeCompletion_ok {mailbox : Mailbox} {work : Runtime} {frame : DecodedFrame} (fits : CompletionFits mailbox)
    (decoded : decodeCompletion mailbox work = some frame) : (completionReply frame).Fits := by
  unfold decodeCompletion at decoded
  split at decoded
  next kept =>
    cases decoded
    exact fits _ kept
  cases result : (irisFrameDecodeInPlace work.txWire (work.txWire.length - 1)).2 with
  | error reason => simp [result, Except.toOption] at decoded
  | ok other =>
    rw [result] at decoded
    cases decoded
    obtain ⟨channel, payload⟩ := irisFrameDecodeInPlace_fits result
    exact ⟨channel, payload⟩

theorem drainResult_fills {mailbox : Mailbox} (fits : CompletionFits mailbox) :
    Fills runtime (drainResult mailbox runtime).2.1 ∧ CompletionFits (drainResult mailbox runtime).1 := by
  unfold drainResult
  split
  · exact ⟨.refl runtime, fits⟩
  next work _ =>
    split
    · split
      next frame decoded =>
        have ok := decodeCompletion_ok fits decoded
        have queued := queueFrame_fills runtime (completionReply frame) ok
        dsimp only
        split
        all_goals
          refine ⟨queued, ?_⟩
          intro other same
          cases same
          exact ok
      next => exact ⟨.kept rfl rfl rfl rfl, fits⟩
    · exact ⟨.refl runtime, fits⟩

/-- A step of the protocol task inside the executor sends at most one frame. -/
theorem callStep_fills {mailbox : Mailbox} {runtime : Runtime} {ticket : Nat} {input : CallInput}
    {result : Mailbox × Runtime × List Trace} (fits : CompletionFits mailbox) (reply : input.reply.Fits)
    (step : callStep mailbox runtime ticket input = some result) :
    Fills runtime result.2.1 ∧ CompletionFits result.1 := by
  have queued := queueFrame_fills runtime input.reply reply
  unfold callStep at step
  split at step
  case h_1 => contradiction
  case h_2 path header point =>
    cases step
    refine ⟨queued, ?_⟩
    unfold cancelWhileBusy
    split
    · split <;> exact fits
    · split <;> exact fits
    · split <;> exact fits
    · exact fits
  case h_3 frame point =>
    split at step
    next ready ensured =>
      cases step
      have completion : ready.completion = mailbox.completion := by
        unfold executorEnsure at ensured
        split at ensured
        · contradiction
        split at ensured
        · contradiction
        cases ensured
        rfl
      exact ⟨.refl runtime, completion ▸ fits⟩
    cases step
    exact ⟨queued, fits⟩
  case h_4 frame point =>
    cases step
    refine ⟨.refl runtime, ?_⟩
    intro other same
    cases same
  case h_6 deinit point =>
    cases step
    refine ⟨.refl runtime, ?_⟩
    unfold executorAbandon
    dsimp only
    split
    · split <;> exact fits
    · exact fits
  case h_8 point =>
    cases step
    exact drainResult_fills runtime fits
  all_goals
    cases step
    refine ⟨.refl runtime, ?_⟩
    first
      | exact fits
      | (unfold notifyTask
         split <;> exact fits)

theorem workerStep_completion {mailbox : Mailbox} {input : WorkerInput} {result : Mailbox × List Trace}
    (fits : CompletionFits mailbox) (step : workerStep mailbox input = some result) : CompletionFits result.1 := by
  have none : CompletionFits { mailbox with work := none, task := false, completion := none, worker := .absent } :=
    fun _ same => by cases same
  unfold workerStep at step
  split at step
  all_goals first
    | contradiction
    | (cases step
       first
         | exact fits
         | (unfold reapIdle
            split
            · exact none
            · exact fits)
         | (unfold settle
            split <;> exact fits))
    | (split at step <;> first
        | contradiction
        | (cases step
           exact fits))

end EspIris.Device
