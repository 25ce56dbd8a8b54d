import EspIris.Device.MediaSteps
import EspIris.Codec.Agreement

/-! What a step does to the slots of the media channels: most steps leave each as it was or empty it. -/

namespace EspIris.Device.Media
open Codec Codec.Device Jobs Bytes

variable {config : MediaConfig}

def slotOf (services : Option MediaState) (index : Fin 3) : MediaSlot :=
  match services with
  | none => .zero
  | some state => state.media index

/-- Whether `esp_iris_media_submit` returns `ESP_OK`. -/
def submitAccepted (config : MediaConfig) (services : Option MediaState) (channel : UInt8) (submission : Submission) : Bool :=
  services.any fun state => (mediaSubmit config state channel submission).2 = EspErr.ok

def dataOf (outputs : List MediaOutput) : List (List UInt8) :=
  outputs.filterMap fun output =>
    match output with
    | .data _ reply => some reply.payload
    | _ => none

theorem mem_dataOf {outputs : List MediaOutput} {payload : List UInt8} :
    payload ∈ dataOf outputs ↔ ∃ index reply, .data index reply ∈ outputs ∧ reply.payload = payload := by
  unfold dataOf
  rw [List.mem_filterMap]
  constructor
  · rintro ⟨output, member, carries⟩
    cases output with
    | data index reply => exact ⟨index, reply, member, Option.some.inj carries⟩
    | _ => cases carries
  · rintro ⟨index, reply, member, carries⟩
    exact ⟨_, member, congrArg some carries⟩

theorem dataOf_append (left right : List MediaOutput) : dataOf (left ++ right) = dataOf left ++ dataOf right :=
  List.filterMap_append

theorem endScreen_silent (state : MediaState) : dataOf (endScreen state) = [] := by
  unfold endScreen
  split <;> rfl

theorem closeCapture_silent (state : MediaState) : dataOf (closeCapture state).2 = [] := by
  unfold closeCapture
  dsimp only
  split
  next => exact endScreen_silent state
  next => rfl

theorem stopMirror_silent (state : MediaState) (index : Fin 3) : dataOf (stopMirror state index).2 = [] := by
  unfold stopMirror
  dsimp only
  split
  next => exact endScreen_silent state
  next => rfl

theorem lookSlot_silent {state : MediaState} {index : Fin 3} (answer : ReadAnswer) (now : Nat) :
    dataOf (lookSlot config state index answer now).outputs = [] := by
  unfold lookSlot preparePullScreen
  dsimp only
  split
  next =>
    split
    next => rfl
    next => split <;> rfl
  next => rfl

def dataPayload (now : UInt64) (frameId dropped : UInt32) (flags size : UInt16) (description : MediaDesc)
    (bytes : List UInt8) : List UInt8 :=
  irisPutLe64 now ++ irisPutLe32 frameId ++ irisPutLe32 dropped ++ irisPutLe16 flags ++ irisPutLe16 size ++
    mediaDescEncode description ++ bytes

structure Unpacked (payload : List UInt8) (frameId : UInt32) (description : MediaDesc) (bytes : List UInt8) : Prop where
  frameId : field payload 8 4 = frameId.toNat
  x : field payload 20 2 = description.x.toNat
  y : field payload 22 2 = description.y.toNat
  width : field payload 24 2 = description.width.toNat
  height : field payload 26 2 = description.height.toNat
  stride : field payload 28 4 = description.stride.toNat
  format : field payload 32 2 = description.format.toNat
  quality : field payload 34 2 = description.quality.toNat
  data : payload.drop dataHeaderSize = bytes

theorem dataPayload_unpacked (now : UInt64) (frameId dropped : UInt32) (flags size : UInt16) (description : MediaDesc)
    (bytes : List UInt8) :
    Unpacked (dataPayload now frameId dropped flags size description bytes) frameId description bytes := by
  unfold dataPayload mediaDescEncode
  simp only [irisPutLe64_eq, irisPutLe32_eq, irisPutLe16_eq, List.append_assoc]
  constructor
  case frameId =>
    simp (disch := simp) only [field_skip, littleEndian_length, Nat.reduceSub]
    exact field_littleEndian 4 _ _ frameId.toNat_lt
  case x =>
    simp (disch := simp) only [field_skip, littleEndian_length, Nat.reduceSub]
    exact field_littleEndian 2 _ _ description.x.toNat_lt
  case y =>
    simp (disch := simp) only [field_skip, littleEndian_length, Nat.reduceSub]
    exact field_littleEndian 2 _ _ description.y.toNat_lt
  case width =>
    simp (disch := simp) only [field_skip, littleEndian_length, Nat.reduceSub]
    exact field_littleEndian 2 _ _ description.width.toNat_lt
  case height =>
    simp (disch := simp) only [field_skip, littleEndian_length, Nat.reduceSub]
    exact field_littleEndian 2 _ _ description.height.toNat_lt
  case stride =>
    simp (disch := simp) only [field_skip, littleEndian_length, Nat.reduceSub]
    exact field_littleEndian 4 _ _ description.stride.toNat_lt
  case format =>
    simp (disch := simp) only [field_skip, littleEndian_length, Nat.reduceSub]
    exact field_littleEndian 2 _ _ description.format.toNat_lt
  case quality =>
    simp (disch := simp) only [field_skip, littleEndian_length, Nat.reduceSub]
    exact field_littleEndian 2 _ _ description.quality.toNat_lt
  case data => rfl

section payload
variable {slot : MediaSlot}

theorem dataHeader_length (slot : MediaSlot) : (dataHeader slot).length = dataHeaderSize := rfl

theorem dataHeader_size (rest : List UInt8) (small : slot.size ≤ config.latestBytes) :
    (irisGetLe16 (dataHeader slot ++ rest) 18).toNat = slot.size := by
  have range := config.range
  have below : slot.size < 2 ^ 16 := by omega
  have field : irisGetLe16 (dataHeader slot) 18 = irisGetLe16 (irisPutLe16 (UInt16.ofNat slot.size)) 0 := rfl
  have value : (UInt16.ofNat slot.size).toNat = slot.size := UInt16.toNat_ofNat_of_lt' below
  rw [irisGetLe16_append _ _ _ (by rw [dataHeader_length]; decide), field, irisGetLe16_toNat, irisPutLe16_eq, value]
  simpa using field_littleEndian 2 slot.size [] below

/-- The frame that is queued: the header, and as many bytes as the size says. -/
theorem copySlot_payload (index : Fin 3) (data : List UInt8) (rxWire : Vector UInt8 maxWireFrameSize)
    (small : slot.size ≤ config.latestBytes) :
    ∃ body, (copySlot slot index data rxWire.toList (dataHeaderSize + slot.size)).2.payload = dataHeader slot ++ body ∧
      body.length = slot.size ∧ ((data.take slot.size).length = slot.size → body = data.take slot.size) := by
  have range := config.range
  refine ⟨(data.take slot.size ++
    rxWire.toList.drop (dataHeader slot ++ data.take slot.size).length).take slot.size, ?_, ?_, fun whole => ?_⟩
  · unfold copySlot overwrite
    dsimp only
    rw [List.append_assoc, ← dataHeader_length slot, List.take_length_add_append]
  · rw [List.length_take, List.length_append, List.length_drop, List.length_append, dataHeader_length,
      Vector.length_toList, maxWireFrameSize, dataHeaderSize]
    omega
  · exact List.take_left' whole

end payload

def Kept (before after : MediaSlot) : Prop :=
  after = before ∨ after.active = false ∧ after.pull = false ∧ after.pending = false ∧ after.size = 0

def Held (before after : MediaSlot) : Prop := before.data.isSome = true → after = before

section records
variable {services : Option MediaState} {state : MediaState}

theorem slotOf_found (found : Found services state) (index : Fin 3) : state.media index = slotOf services index := by
  cases found with
  | present there => rw [there]; rfl
  | made missing => rw [missing]; rfl

theorem maybeReleaseState_kept (state : MediaState) (held : Bool) (index : Fin 3) :
    Kept (state.media index) (slotOf (maybeReleaseState held state) index) ∧
      Held (state.media index) (slotOf (maybeReleaseState held state) index) := by
  unfold maybeReleaseState
  split
  next => exact ⟨.inl rfl, fun _ => rfl⟩
  next free =>
    refine ⟨.inr ⟨rfl, rfl, rfl, rfl⟩, fun present => absurd ?_ free⟩
    have used : (List.finRange 3).any (fun index => (state.media index).data.isSome) = true :=
      List.any_eq_true.mpr ⟨index, List.mem_finRange index, present⟩
    rw [used, Bool.or_true]

theorem createState_kept (allocated : Bool) (index : Fin 3) :
    slotOf (createState services allocated) index = slotOf services index := by
  unfold createState
  split
  next => rfl
  next => split <;> rfl

theorem screenRegister_slots (backend : ScreenBackend) : (screenRegister state backend).media = state.media := by
  unfold screenRegister
  split <;> rfl

theorem screenUnregister_slots {removed : MediaState} {userCtx : Nat}
    (unregistered : screenUnregister state userCtx = some removed) : removed.media = state.media := by
  unfold screenUnregister at unregistered
  split at unregistered
  next => cases unregistered
  cases unregistered
  rfl

theorem stopMirror_kept (state : MediaState) (index other : Fin 3) :
    Kept (state.media other) ((stopMirror state index).1.media other) := by
  unfold stopMirror
  rw [setSlot_media]
  split
  next => exact .inr ⟨rfl, rfl, rfl, rfl⟩
  next => exact .inl rfl

theorem Kept.trans {first second third : MediaSlot} (left : Kept first second) (right : Kept second third) :
    Kept first third := by
  rcases right with same | empty
  · exact same ▸ left
  · exact .inr empty

end records

section submissions

theorem submitSlot_refused {slot : MediaSlot} {submission : Submission}
    (refused : (submitSlot slot submission).2 ≠ EspErr.ok) : (submitSlot slot submission).1 = slot := by
  unfold submitSlot at refused ⊢
  split
  next => rfl
  next data present =>
    split
    next => rfl
    next pushed =>
      rw [present] at refused
      dsimp only at refused
      rw [if_neg pushed] at refused
      exact absurd rfl refused

theorem mediaSubmit_refused {state : MediaState} {channel : UInt8} {submission : Submission}
    (refused : (mediaSubmit config state channel submission).2 ≠ EspErr.ok) :
    (mediaSubmit config state channel submission).1.media = state.media := by
  unfold mediaSubmit at refused ⊢
  split
  next => rfl
  next index named =>
    rw [named] at refused
    dsimp only at refused
    split
    next => rfl
    next fits =>
      rw [if_neg fits] at refused
      dsimp only
      rw [submitSlot_refused refused]
      exact Function.update_eq_self _ _

structure Taken (config : MediaConfig) (state : MediaState) (index : Fin 3) (channel : UInt8) (submission : Submission) :
    Prop where
  small : submission.bytes.length ≤ config.latestBytes
  stored : (submitSlot (state.media index) submission).2 = EspErr.ok
  result : (mediaSubmit config state channel submission).1 =
    state.setSlot index (submitSlot (state.media index) submission).1

theorem mediaSubmit_taken {state : MediaState} {channel : UInt8} {submission : Submission} {index : Fin 3}
    (named : slotIndex channel = some index) (taken : (mediaSubmit config state channel submission).2 = EspErr.ok) :
    Taken config state index channel submission := by
  unfold mediaSubmit at taken
  rw [named] at taken
  dsimp only at taken
  split at taken
  next => cases taken
  next fits =>
    simp only [not_or, Nat.not_lt] at fits
    refine ⟨fits.2, taken, ?_⟩
    unfold mediaSubmit
    rw [named]
    dsimp only
    rw [if_neg (by simp only [not_or, Nat.not_lt]; exact fits)]

theorem submitSlot_stored {slot : MediaSlot} {submission : Submission} (stored : (submitSlot slot submission).2 = EspErr.ok) :
    (submitSlot slot submission).1.pending = true ∧ (submitSlot slot submission).1.data.isSome = true ∧
      (submitSlot slot submission).1.dropped = if slot.pending then slot.dropped + 1 else slot.dropped := by
  unfold submitSlot at stored ⊢
  split
  next missing =>
    rw [missing] at stored
    cases stored
  next data present =>
    rw [present] at stored
    dsimp only at stored
    split
    next refused =>
      rw [if_pos refused] at stored
      cases stored
    next => exact ⟨rfl, rfl, rfl⟩

end submissions

def MediaPoint.quiet : MediaPoint → Bool
  | .starting _ _ _ => false
  | .checked _ _ => false
  | _ => true

def MediaPoint.between : MediaPoint → Bool
  | .resting => true
  | .looking _ => true
  | .ending _ => true
  | _ => false

theorem between_quiet {point : MediaPoint} (between : point.between = true) : point.quiet = true := by
  cases point <;> first | rfl | cases between

def MediaEvent.isCall : MediaEvent → Bool
  | .created _ => true
  | .released _ => true
  | .register _ _ => true
  | .unregister _ _ => true
  | .acquire => true
  | .submit _ _ => true
  | .giveBack => true
  | _ => false

def MediaEvent.passes : MediaEvent → Bool
  | .frame _ _ => true
  | .poll => true
  | .check => true
  | .endSession => true
  | .endSlot _ => true
  | _ => false

structure Begun (config : MediaConfig) (slot : MediaSlot) : Prop where
  pull : slot.pull = true
  stride : slot.frameDescription.stride ≠ 0
  height : slot.frameDescription.height ≠ 0
  total : slot.totalSize.toNat = slot.frameDescription.stride.toNat * slot.frameDescription.height.toNat
  offset : slot.offset = 0
  frameId : slot.pullFrameId = 1

inductive SlotsMoved (config : MediaConfig) (world : MediaWorld) : MediaEvent → MediaMove → Prop
  | called {event : MediaEvent} {services : Option MediaState} (call : event.isCall = true)
      (refused : ∀ channel submission, event = .submit channel submission →
        submitAccepted config world.services channel submission = false)
      (kept : ∀ index, Kept (slotOf world.services index) (slotOf services index))
      (held : ∀ index, Held (slotOf world.services index) (slotOf services index)) :
      SlotsMoved config world event (world.keeping services)
  | submitted {state : MediaState} {index : Fin 3} (there : world.services = some state) {channel : UInt8}
      {submission : Submission} (named : slotIndex channel = some index)
      (accepted : submitAccepted config world.services channel submission = true)
      (taken : Taken config state index channel submission) :
      SlotsMoved config world (.submit channel submission)
        (world.keeping (some (state.setSlot index (submitSlot (state.media index) submission).1)))
  | passed {event : MediaEvent} {move : MediaMove} (passes : event.passes = true)
      (settled : ∀ index stage header, world.point ≠ .starting index stage header) (between : move.point.between = true)
      (silent : dataOf move.outputs = []) (kept : ∀ index, Kept (slotOf world.services index) (slotOf move.services index)) :
      SlotsMoved config world event move
  | started {state : MediaState} {index : Fin 3} {slot : MediaSlot} (resting : world.point = .resting)
      (found : ∀ other, state.media other = slotOf world.services other) (idle : (state.media index).active = false)
      (size : slot.size = (state.media index).size) (active : slot.active = true)
      (pending : slot.pending = (state.media index).pending) (begun : slot.pull = false ∨ Begun config slot)
      (frame : DecodedFrame) (answers : MediaAnswers) {outputs : List MediaOutput} (silent : dataOf outputs = []) :
      SlotsMoved config world (.frame frame answers)
        ⟨some (state.setSlot index slot), .starting index .pending frame.header, outputs⟩
  | credited {state : MediaState} {index : Fin 3} (there : world.services = some state) (resting : world.point = .resting)
      (channel : UInt8) (amount : UInt32) (credit : UInt32) :
      SlotsMoved config world (.credit channel amount)
        (.done (some (state.setSlot index { state.media index with credit := credit })) [])
  | uncredited (resting : world.point = .resting) (channel : UInt8) (amount : UInt32) :
      SlotsMoved config world (.credit channel amount) (.done world.services [])
  | settled {state : MediaState} {index : Fin 3} {stage : StartStage} {header : WireHeader}
      (there : world.services = some state) (point : world.point = .starting index stage header) :
      SlotsMoved config world .settle (settleStart state index stage header)
  | looked {state : MediaState} {index : Fin 3} (there : world.services = some state) (point : world.point = .looking index)
      (answer : ReadAnswer) (now : Nat) :
      SlotsMoved config world (.look answer now) (lookSlot config state index answer now)
  | checked {state : MediaState} {index : Fin 3} {payloadSize : Nat} (there : world.services = some state)
      (point : world.point = .sized index payloadSize) (sends : sendable (state.media index) payloadSize = true) :
      SlotsMoved config world .check ⟨some state, .checked index payloadSize, []⟩
  | copied {state : MediaState} {index : Fin 3} {payloadSize : Nat} {data : List UInt8} (there : world.services = some state)
      (point : world.point = .checked index payloadSize) (present : (state.media index).data = some data)
      (rxWire : Vector UInt8 maxWireFrameSize) :
      SlotsMoved config world (.copy rxWire)
        (.done (some (state.setSlot index (copySlot (state.media index) index data rxWire.toList payloadSize).1))
          [.data index (copySlot (state.media index) index data rxWire.toList payloadSize).2])

section moves
variable {world : MediaWorld}

theorem SlotsMoved.still {event : MediaEvent} {services : Option MediaState} (call : event.isCall = true)
    (refused : ∀ channel submission, event = .submit channel submission →
      submitAccepted config world.services channel submission = false)
    (same : ∀ index, slotOf services index = slotOf world.services index) :
    SlotsMoved config world event (world.keeping services) :=
  .called call refused (fun index => .inl (same index)) fun index _ => same index

theorem submit_moved {state : MediaState} (there : world.services = some state) (channel : UInt8) (submission : Submission) :
    SlotsMoved config world (.submit channel submission)
      (world.keeping (some (mediaSubmit config state channel submission).1)) := by
  have accepts : submitAccepted config world.services channel submission =
      decide ((mediaSubmit config state channel submission).2 = EspErr.ok) := by
    rw [submitAccepted, there, Option.any_some]
  by_cases taken : (mediaSubmit config state channel submission).2 = EspErr.ok
  · cases named : slotIndex channel with
    | none =>
      unfold mediaSubmit at taken
      rw [named] at taken
      cases taken
    | some index =>
      have fits := mediaSubmit_taken named taken
      rw [fits.result]
      exact .submitted there named (accepts.trans (decide_eq_true taken)) fits
  · refine .still rfl ?_ fun index => ?_
    · intro other another same
      cases same
      exact accepts.trans (decide_eq_false taken)
    · rw [there]
      exact congrFun (mediaSubmit_refused taken) index

/-- A frame leaves the slots as they were, or stops some, or starts one. -/
theorem handled_moved {frame : DecodedFrame} {answers : MediaAnswers} {move : MediaMove} (resting : world.point = .resting)
    (handled : Handled config world.services frame answers move) : SlotsMoved config world (.frame frame answers) move := by
  have settled : ∀ index stage header, world.point ≠ .starting index stage header := by
    intro index stage header same
    rw [resting] at same
    cases same
  cases handled with
  | ignored | answered reply => exact .passed rfl settled rfl rfl fun _ => .inl rfl
  | made found reply => exact .passed rfl settled rfl rfl fun index => .inl (slotOf_found found index)
  | refusedOpen there idle unmirrored isOpen failed reply => exact .passed rfl settled rfl rfl fun _ => .inl rfl
  | @opened state there backed idle unmirrored ok capture active reply =>
    have same := slotOf_found (.present there)
    exact .passed rfl settled rfl rfl fun index => .inl (same index)
  | read there active offset capacity reply => exact .passed rfl settled rfl rfl fun _ => .inl rfl
  | @closed state there reply =>
    have same := slotOf_found (.present there)
    refine .passed rfl settled rfl ?_ fun index => .inl (same index)
    show dataOf ((closeCapture state).2 ++ [.reply reply]) = []
    rw [dataOf_append, closeCapture_silent]
    rfl
  | @rejected state buffered index found startable data ensured first backed notRaw reply =>
    refine .passed rfl settled rfl ?_ fun other => ?_
    · show dataOf ([.begins answers.begins.code] ++ (if answers.begins.code = EspErr.ok then endScreen state else []) ++
        [.reply reply]) = []
      rw [dataOf_append, dataOf_append]
      split
      next =>
        rw [endScreen_silent]
        rfl
      next => rfl
    · show Kept _ ((state.setSlot index _).media other)
      rw [← slotOf_found found, setSlot_media]
      split
      next => exact .inr ⟨rfl, rfl, rfl, rfl⟩
      next => exact .inl rfl
  | @pulled state buffered index found startable data ensured first backed raw rate =>
    subst ensured
    have silent : dataOf [.begins answers.begins.code] = [] := rfl
    refine .started resting (slotOf_found found) startable.idle ?_ ?_ ?_ (.inr ?_) frame answers silent
    · rfl
    · rfl
    · rfl
    · unfold rawFrame at raw
      simp only [Bool.and_eq_true, decide_eq_true_eq] at raw
      exact ⟨rfl, raw.1.1.1.2, raw.1.1.2, raw.2, rfl, rfl⟩
  | @pushed state buffered index found startable data ensured unbacked =>
    subst ensured
    have silent : dataOf [] = [] := rfl
    refine .started resting (slotOf_found found) startable.idle ?_ ?_ ?_ (.inl ?_) frame answers silent
    · rfl
    · rfl
    · rfl
    · rfl
  | @stopped state index there reply =>
    refine .passed rfl settled rfl ?_ fun other => ?_
    · show dataOf ((stopMirror state index).2 ++ [.reply reply]) = []
      rw [dataOf_append, stopMirror_silent]
      rfl
    · rw [there]
      exact (stopMirror_kept state index other).trans (maybeReleaseState_kept _ answers.held other).1

theorem stepped_moved {event : MediaEvent} {move : MediaMove} (stepped : Stepped config world event move) :
    SlotsMoved config world event move := by
  have apart : ∀ {point : MediaPoint}, world.point = point → (∀ index stage header, point ≠ .starting index stage header) →
      ∀ index stage header, world.point ≠ .starting index stage header := by
    intro point here other index stage header same
    exact other index stage header (here.symm.trans same)
  cases stepped with
  | created allocated => exact .still rfl (by intro _ _ same; cases same) (createState_kept allocated)
  | released held =>
    cases there : world.services with
    | none => exact .still rfl (by intro _ _ same; cases same) fun index => by rw [there]; rfl
    | some state =>
      refine .called rfl (by intro _ _ same; cases same) (fun index => ?_) fun index => ?_
      · rw [there]
        exact (maybeReleaseState_kept state held index).1
      · rw [there]
        exact (maybeReleaseState_kept state held index).2
  | register backend allocated =>
    refine .still rfl (by intro _ _ same; cases same) fun index => ?_
    refine Eq.trans ?_ (@createState_kept world.services allocated index)
    cases createState world.services allocated with
    | none => rfl
    | some state => exact congrFun (screenRegister_slots backend) index
  | unregister userCtx held =>
    cases there : world.services with
    | none => exact .still rfl (by intro _ _ same; cases same) fun index => by rw [there]; rfl
    | some state =>
      rw [Option.bind_some]
      split
      next => exact .still rfl (by intro _ _ same; cases same) fun index => by rw [there]
      next removed unregistered =>
        have same : ∀ index, slotOf world.services index = removed.media index := by
          intro index
          rw [there, screenUnregister_slots unregistered]
          rfl
        refine .called rfl (by intro _ _ same; cases same) (fun index => ?_) fun index => ?_
        · rw [same]
          exact (maybeReleaseState_kept removed held index).1
        · rw [same]
          exact (maybeReleaseState_kept removed held index).2
  | acquire =>
    refine .still rfl (by intro _ _ same; cases same) fun index => ?_
    cases world.services <;> rfl
  | submit there channel submission => exact submit_moved there channel submission
  | giveBack =>
    refine .still rfl (by intro _ _ same; cases same) fun index => ?_
    cases world.services <;> rfl
  | frame resting frame answers handled => exact handled_moved resting handled
  | credit resting channel amount =>
    unfold irisServicesCredit
    split
    next there => exact .credited there resting channel amount _
    next => exact .uncredited resting channel amount
  | settle there point => exact .settled there point
  | poll resting =>
    refine .passed rfl (apart resting (by intro _ _ _ same; cases same)) ?_ rfl fun _ => .inl rfl
    dsimp only
    split <;> rfl
  | look there point answer now => exact .looked there point answer now
  | @check state index payloadSize there point =>
    split
    next sends => exact .checked there point sends
    refine .passed rfl (apart point (by intro _ _ _ same; cases same)) ?_ rfl fun other => ?_
    · unfold nextLook
      dsimp only
      split
      next => rfl
      next => split <;> rfl
    · rw [there]
      exact .inl rfl
  | copy there point present rxWire => exact .copied there point present rxWire
  | endNothing resting missing =>
    refine .passed rfl (apart resting (by intro _ _ _ same; cases same)) rfl rfl fun index => ?_
    rw [missing]
    exact .inl rfl
  | @endSession state there resting =>
    refine .passed rfl (apart resting (by intro _ _ _ same; cases same)) rfl (closeCapture_silent state) fun index => ?_
    rw [there]
    exact .inl rfl
  | @endLast state there point held =>
    refine .passed rfl (apart point (by intro _ _ _ same; cases same)) rfl (stopMirror_silent state 2) fun other => ?_
    rw [there]
    exact (stopMirror_kept state 2 other).trans (maybeReleaseState_kept _ held other).1
  | @endSlot state index there point before held =>
    refine .passed rfl (apart point (by intro _ _ _ same; cases same)) rfl (stopMirror_silent state index) fun other => ?_
    rw [there]
    exact stopMirror_kept state index other

end moves

end EspIris.Device.Media
