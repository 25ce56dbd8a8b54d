import EspIris.Device.Media

/-! What one step can do to the media channels, case by case: the invariants of the other modules are
read off these cases and never unfold a handler. -/

namespace EspIris.Device.Media
open Codec.Device Jobs

variable {config : MediaConfig}

@[simp] theorem setSlot_same (state : MediaState) (index : Fin 3) (slot : MediaSlot) :
    (state.setSlot index slot).media index = slot := Function.update_self _ _ _

@[simp] theorem setSlot_capture (state : MediaState) (index : Fin 3) (slot : MediaSlot) :
    (state.setSlot index slot).capture = state.capture := rfl

theorem setSlot_other (state : MediaState) {index other : Fin 3} (different : other ≠ index) (slot : MediaSlot) :
    (state.setSlot index slot).media other = state.media other := Function.update_of_ne different _ _

theorem setSlot_media (state : MediaState) (index other : Fin 3) (slot : MediaSlot) :
    (state.setSlot index slot).media other = if other = index then slot else state.media other :=
  Function.update_apply _ _ _ _

inductive Found (services : Option MediaState) : MediaState → Prop
  | present {state : MediaState} (there : services = some state) : Found services state
  | made (missing : services = none) : Found services .fresh

theorem createState_found {services : Option MediaState} {allocated : Bool} {state : MediaState}
    (created : createState services allocated = some state) : Found services state := by
  unfold createState at created
  split at created
  next => exact .present created
  split at created
  next =>
    cases created
    exact .made rfl
  next => cases created

/-- The slot of a MIRROR_START with its buffer; nothing else is changed yet. -/
theorem ensureMediaBuffer_some {slot buffered : MediaSlot} {buffer : Option (List UInt8)}
    (ensured : ensureMediaBuffer slot buffer = some buffered) :
    ∃ data, buffered = { slot with data := some data } := by
  unfold ensureMediaBuffer at ensured
  split at ensured
  next data present =>
    cases ensured
    exact ⟨data, by rw [← present]⟩
  obtain ⟨data, _, rfl⟩ := Option.map_eq_some_iff.mp ensured
  exact ⟨data, rfl⟩

structure Startable (state : MediaState) (index : Fin 3) : Prop where
  idle : (state.media index).active = false
  free : index = 0 → state.capture.active = false

/-- What `handle_media` can do. -/
inductive Handled (config : MediaConfig) (services : Option MediaState) (frame : DecodedFrame)
    (answers : MediaAnswers) : MediaMove → Prop
  | ignored : Handled config services frame answers (.done services [])
  | answered (reply : Reply) : Handled config services frame answers (.done services [.reply reply])
  | made {state : MediaState} (found : Found services state) (reply : Reply) :
      Handled config services frame answers (.done (some state) [.reply reply])
  | refusedOpen {state : MediaState} (there : services = some state) (idle : state.capture.active = false)
      (unmirrored : (state.media 0).active = false) (isOpen : frame.header.type = MediaType.opening)
      (failed : answers.begins.code ≠ EspErr.ok ∨ answers.begins.totalSize = 0) (reply : Reply) :
      Handled config services frame answers (.done services [.begins answers.begins.code, .reply reply])
  | opened {state : MediaState} (there : services = some state) (backed : state.screen.isSome = true)
      (idle : state.capture.active = false) (unmirrored : (state.media 0).active = false)
      (ok : answers.begins.code = EspErr.ok) (capture : Capture) (active : capture.active = true) (reply : Reply) :
      Handled config services frame answers
        (.done (some { state with capture := capture }) [.begins answers.begins.code, .reply reply])
  | read {state : MediaState} (there : services = some state) (active : state.capture.active = true)
      (offset : UInt32) (capacity : Nat) (reply : Reply) :
      Handled config services frame answers (.done services [.reads offset capacity, .reply reply])
  | closed {state : MediaState} (there : services = some state) (reply : Reply) :
      Handled config services frame answers
        (.done (some (closeCapture state).1) ((closeCapture state).2 ++ [.reply reply]))
  | rejected {state : MediaState} {buffered : MediaSlot} {index : Fin 3} (found : Found services state)
      (startable : Startable state index)
      (data : List UInt8) (ensured : buffered = { state.media index with data := some data })
      (first : index = 0) (backed : state.screen.isSome = true) (notRaw : rawFrame config answers.begins = false)
      (reply : Reply) :
      Handled config services frame answers
        (.done (some (state.setSlot index (releaseMediaBuffer (requestedSlot buffered frame))))
          ([.begins answers.begins.code] ++ (if answers.begins.code = EspErr.ok then endScreen state else []) ++
            [.reply reply]))
  | pulled {state : MediaState} {buffered : MediaSlot} {index : Fin 3} (found : Found services state)
      (startable : Startable state index)
      (data : List UInt8) (ensured : buffered = { state.media index with data := some data })
      (first : index = 0) (backed : state.screen.isSome = true) (raw : rawFrame config answers.begins = true)
      (rate : irisGetLe16 frame.payload 16 ≠ 0) :
      Handled config services frame answers
        (activate state index (pulledSlot (requestedSlot buffered frame) answers.begins) frame.header
          [.begins answers.begins.code])
  | pushed {state : MediaState} {buffered : MediaSlot} {index : Fin 3} (found : Found services state)
      (startable : Startable state index)
      (data : List UInt8) (ensured : buffered = { state.media index with data := some data })
      (unbacked : index = 0 → state.screen = none) :
      Handled config services frame answers (activate state index (requestedSlot buffered frame) frame.header [])
  | stopped {state : MediaState} {index : Fin 3} (there : services = some state) (reply : Reply) :
      Handled config services frame answers
        (.done (maybeReleaseState answers.held (stopMirror state index).1)
          ((stopMirror state index).2 ++ [.reply reply]))

theorem withoutState_reply (header : WireHeader) : ∃ reply, withoutState header = [.reply reply] := by
  unfold withoutState
  split
  next => exact ⟨_, rfl⟩
  split
  next => exact ⟨_, rfl⟩
  next => split <;> exact ⟨_, rfl⟩

theorem startMirror_handled {services : Option MediaState} {state : MediaState} (found : Found services state)
    (index : Fin 3) (frame : DecodedFrame) (answers : MediaAnswers) :
    Handled config services frame answers (startMirror config state index frame answers) := by
  unfold startMirror
  dsimp only
  split
  next => exact .made found _
  next tests =>
    simp only [not_or, not_and, Bool.not_eq_true] at tests
    obtain ⟨⟨idle, free⟩, rate, _, _⟩ := tests
    have startable : Startable state index := ⟨idle, free⟩
    split
    next => exact .made found _
    next buffered ensured =>
      obtain ⟨data, same⟩ := ensureMediaBuffer_some ensured
      split
      next pull =>
        split
        next notRaw => exact .rejected found startable data same pull.1 pull.2 notRaw _
        next raw => exact .pulled found startable data same pull.1 pull.2 (Bool.of_not_eq_false raw) rate
      next push =>
        refine .pushed found startable data same ?_
        intro first
        by_contra backed
        exact push ⟨first, Option.isSome_iff_ne_none.mpr backed⟩

theorem openCapture_handled {services : Option MediaState} {state : MediaState} (there : services = some state)
    (frame : DecodedFrame) (answers : MediaAnswers) (isOpen : frame.header.type = MediaType.opening) :
    Handled config services frame answers
      (.done (some (openCapture state frame.header answers.begins).1) (openCapture state frame.header answers.begins).2) := by
  subst there
  unfold openCapture
  split
  next => exact .answered _
  next backed =>
    split
    next => exact .answered _
    next free =>
      simp only [not_or, Bool.not_eq_true] at free
      split
      next failed => exact .refusedOpen rfl free.1 free.2 isOpen failed _
      next good =>
        simp only [not_or, ne_eq, not_not] at good
        rw [Option.isNone_iff_eq_none, ← ne_eq, ← Option.isSome_iff_ne_none] at backed
        exact .opened rfl backed free.1 free.2 good.1 _ rfl _

theorem readCapture_handled {services : Option MediaState} {state : MediaState} (there : services = some state)
    (frame : DecodedFrame) (answers : MediaAnswers) :
    Handled config services frame answers (.done (some state) (readCapture config state frame answers.reads)) := by
  subst there
  unfold readCapture
  dsimp only
  split
  next => exact .answered _
  next tests =>
    simp only [not_or, Bool.not_eq_false] at tests
    split
    next => exact .answered _
    next => split <;> exact .read rfl tests.1 _ _ _

theorem handleOn_handled {services : Option MediaState} {state : MediaState} (found : Found services state)
    (index : Fin 3) (frame : DecodedFrame) (answers : MediaAnswers)
    (present : frame.header.type ≠ MediaType.mirrorStart → services = some state) :
    Handled config services frame answers (handleOn config state index frame answers) := by
  have apart : MediaType.opening ≠ MediaType.mirrorStart ∧ MediaType.read ≠ MediaType.mirrorStart ∧
      MediaType.close ≠ MediaType.mirrorStart ∧ MediaType.mirrorStop ≠ MediaType.mirrorStart := by decide
  unfold handleOn
  dsimp only
  split
  next is => exact openCapture_handled (present (is.1 ▸ apart.1)) frame answers is.1
  split
  next is => exact readCapture_handled (present (is.1 ▸ apart.2.1)) frame answers
  split
  next is => exact .closed (present (is.1 ▸ apart.2.2.1)) _
  split
  next => exact startMirror_handled found index frame answers
  split
  next is => exact .stopped (present (is ▸ apart.2.2.2)) _
  next => exact .made found _

theorem handleMedia_handled (services : Option MediaState) (frame : DecodedFrame) (answers : MediaAnswers) :
    Handled config services frame answers (handleMedia config services frame answers) := by
  unfold handleMedia
  dsimp only
  split
  next => exact .ignored
  next index _ =>
    split
    next => exact .answered _
    by_cases starts : frame.header.type = MediaType.mirrorStart
    · rw [if_pos starts]
      split
      next missing =>
        obtain ⟨reply, silent⟩ := withoutState_reply frame.header
        have none : services = none := by
          unfold createState at missing
          split at missing
          next => cases missing
          next => rfl
        rw [silent, none]
        exact .answered reply
      next state created =>
        exact handleOn_handled (createState_found created) index frame answers (absurd starts)
    · rw [if_neg starts]
      cases services with
      | none =>
        obtain ⟨reply, silent⟩ := withoutState_reply frame.header
        rw [silent]
        exact .answered reply
      | some state => exact handleOn_handled (.present rfl) index frame answers fun _ => rfl

inductive Stepped (config : MediaConfig) (world : MediaWorld) : MediaEvent → MediaMove → Prop
  | created (allocated : Bool) :
      Stepped config world (.created allocated) (world.keeping (createState world.services allocated))
  | released (held : Bool) :
      Stepped config world (.released held) (world.keeping (world.services.bind (maybeReleaseState held)))
  | register (backend : ScreenBackend) (allocated : Bool) :
      Stepped config world (.register backend allocated)
        (world.keeping ((createState world.services allocated).map (screenRegister · backend)))
  | unregister (userCtx : Nat) (held : Bool) :
      Stepped config world (.unregister userCtx held)
        (world.keeping (world.services.bind fun state =>
          match screenUnregister state userCtx with
          | none => some state
          | some removed => maybeReleaseState held removed))
  | acquire :
      Stepped config world .acquire
        (world.keeping (world.services.map fun state => { state with mediaUsers := state.mediaUsers + 1 }))
  | submit {state : MediaState} (there : world.services = some state) (channel : UInt8) (submission : Submission) :
      Stepped config world (.submit channel submission)
        (world.keeping (some (mediaSubmit config state channel submission).1))
  | giveBack :
      Stepped config world .giveBack
        (world.keeping (world.services.map fun state => { state with mediaUsers := state.mediaUsers - 1 }))
  | frame (resting : world.point = .resting) (frame : DecodedFrame) (answers : MediaAnswers) {move : MediaMove}
      (handled : Handled config world.services frame answers move) : Stepped config world (.frame frame answers) move
  | credit (resting : world.point = .resting) (channel : UInt8) (amount : UInt32) :
      Stepped config world (.credit channel amount) (.done (irisServicesCredit world.services channel amount).1 [])
  | settle {state : MediaState} {index : Fin 3} {stage : StartStage} {header : WireHeader}
      (there : world.services = some state) (point : world.point = .starting index stage header) :
      Stepped config world .settle (settleStart state index stage header)
  | poll (resting : world.point = .resting) :
      Stepped config world .poll ⟨world.services, if world.services.isSome then .looking 0 else .resting, []⟩
  | look {state : MediaState} {index : Fin 3} (there : world.services = some state) (point : world.point = .looking index)
      (answer : ReadAnswer) (now : Nat) : Stepped config world (.look answer now) (lookSlot config state index answer now)
  | check {state : MediaState} {index : Fin 3} {payloadSize : Nat} (there : world.services = some state)
      (point : world.point = .sized index payloadSize) :
      Stepped config world .check
        ⟨some state, if sendable (state.media index) payloadSize then .checked index payloadSize else nextLook index, []⟩
  | copy {state : MediaState} {index : Fin 3} {payloadSize : Nat} {data : List UInt8} (there : world.services = some state)
      (point : world.point = .checked index payloadSize) (present : (state.media index).data = some data)
      (rxWire : Vector UInt8 maxWireFrameSize) :
      Stepped config world (.copy rxWire)
        (.done (some (state.setSlot index (copySlot (state.media index) index data rxWire.toList payloadSize).1))
          [.data index (copySlot (state.media index) index data rxWire.toList payloadSize).2])
  | endNothing (resting : world.point = .resting) (missing : world.services = none) :
      Stepped config world .endSession (.done none [])
  | endSession {state : MediaState} (there : world.services = some state) (resting : world.point = .resting) :
      Stepped config world .endSession ⟨some (closeCapture state).1, .ending 0, (closeCapture state).2⟩
  | endLast {state : MediaState} (there : world.services = some state) (point : world.point = .ending 2) (held : Bool) :
      Stepped config world (.endSlot held)
        (.done (maybeReleaseState held (stopMirror state 2).1) (stopMirror state 2).2)
  | endSlot {state : MediaState} {index : Fin 3} (there : world.services = some state) (point : world.point = .ending index)
      (before : index ≠ 2) (held : Bool) :
      Stepped config world (.endSlot held) ⟨some (stopMirror state index).1, .ending (index + 1), (stopMirror state index).2⟩

theorem mediaStep_stepped {world : MediaWorld} {event : MediaEvent} {move : MediaMove}
    (moved : mediaStep config world event = some move) : Stepped config world event move := by
  cases event with
  | created allocated => cases moved; exact .created allocated
  | released held => cases moved; exact .released held
  | register backend allocated => cases moved; exact .register backend allocated
  | unregister userCtx held => cases moved; exact .unregister userCtx held
  | acquire => cases moved; exact .acquire
  | submit channel submission =>
    simp only [mediaStep, applicationCall, taskStep, Option.or_none] at moved
    split at moved
    next state there =>
      split at moved
      next => cases moved; exact .submit there channel submission
      next => cases moved
    next => cases moved
  | giveBack => cases moved; exact .giveBack
  | frame frame answers =>
    simp only [mediaStep, applicationCall, taskStep, Option.none_or] at moved
    split at moved
    next resting => cases moved; exact .frame resting frame answers (handleMedia_handled _ _ _)
    next => cases moved
  | credit channel amount =>
    simp only [mediaStep, applicationCall, taskStep, Option.none_or] at moved
    split at moved
    next resting => cases moved; exact .credit resting channel amount
    next => cases moved
  | settle =>
    simp only [mediaStep, applicationCall, taskStep, Option.none_or] at moved
    split at moved
    next point there => cases moved; exact .settle there point
    next => cases moved
  | poll =>
    simp only [mediaStep, applicationCall, taskStep, Option.none_or] at moved
    split at moved
    next resting => cases moved; exact .poll resting
    next => cases moved
  | look answer now =>
    simp only [mediaStep, applicationCall, taskStep, Option.none_or] at moved
    split at moved
    next point there => cases moved; exact .look there point answer now
    next => cases moved
  | check =>
    simp only [mediaStep, applicationCall, taskStep, Option.none_or] at moved
    split at moved
    next point there => cases moved; exact .check there point
    next => cases moved
  | copy rxWire =>
    simp only [mediaStep, applicationCall, taskStep, Option.none_or] at moved
    split at moved
    next point there =>
      obtain ⟨data, present, rfl⟩ := Option.map_eq_some_iff.mp moved
      exact .copy there point present rxWire
    next => cases moved
  | endSession =>
    simp only [mediaStep, applicationCall, taskStep, Option.none_or] at moved
    split at moved
    next resting =>
      split at moved
      next missing => cases moved; exact .endNothing resting missing
      next state there => cases moved; exact .endSession there resting
    next => cases moved
  | endSlot held =>
    simp only [mediaStep, applicationCall, taskStep, Option.none_or] at moved
    split at moved
    next index state point there =>
      split at moved
      next last => subst last; cases moved; exact .endLast there point held
      next before => cases moved; exact .endSlot there point before held
    next => cases moved

theorem mediaSystem_stepped {before after : MediaRun} {event : MediaEvent}
    (step : (mediaSystem config).step before event after) :
    ∃ move, Stepped config before.world event move ∧
      after = ⟨⟨move.services, move.point⟩, before.outputs ++ move.outputs⟩ := by
  obtain ⟨move, moved, rfl⟩ := Option.map_eq_some_iff.mp step
  exact ⟨move, mediaStep_stepped moved, rfl⟩

/-! A device with the smallest buffer, and what is sent to it. -/

def screenRequest (type : UInt8) (payload : List UInt8) : DecodedFrame :=
  ⟨⟨Channel.screen, type, 0, 1, 7, 0, 1, UInt32.ofNat payload.length⟩, payload⟩

/-- A heap with room and a backend whose begin returns `ESP_OK` with this size. -/
def beginsWith (totalSize : UInt32) : MediaAnswers where
  allocated := true
  buffer := some (List.replicate 256 0)
  begins := ⟨EspErr.ok, .zero, totalSize⟩
  reads := ⟨EspErr.ok, [], 0⟩
  held := false

def smallestConfig : MediaConfig := ⟨256, by decide⟩

end EspIris.Device.Media
