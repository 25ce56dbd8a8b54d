import EspIris.Codec.Host
import EspIris.Device.OtaRuns
import EspIris.Gateway.OtaUpdate

/-! An OTA update of the gateway to the services of a device. Requests and answers may be lost, held up, overtaken
and repeated on their way, and an answer may reach any request that waits; what else the device does goes on. -/

namespace EspIris.Link
open Device (Reply dispatchPath)
open Device.Jobs Gateway.OtaUpdate Bytes Codec.Device
open Machine (System Reachable Run Invariant)

structure OtaSetup where
  config : ServiceConfig
  sha256 : List UInt8 → List UInt8
  request : UpdateRequest

/-- Both parties, and all their requests and answers on the OTA channel. The answer in the slot of the
executor is for `served`. -/
structure OtaWorld where
  updater : Updater
  device : ServiceWorld
  record : OtaRecord
  served : Option DecodedFrame
  requests : List OtaRequest
  answers : List OtaFrame

inductive OtaLinkEvent
  | act (event : UpdateEvent)
  | receive (position index : Nat)
  /-- JOB_QUERY is answered, with anything. -/
  | answerJob (frame : OtaFrame)
  | deliver (index : Nat) (header : WireHeader) (ensured : Bool)
  | device (event : ServiceEvent)

def requestOn (header : WireHeader) (request : OtaRequest) : DecodedFrame where
  header := { header with
    channel := request.channel
    type := request.type
    payloadSize := UInt32.ofNat request.payload.length }
  payload := request.payload

def servedAfter (served : Option DecodedFrame) (before : ServiceWorld) (event : ServiceEvent) (after : ServiceWorld) :
    Option DecodedFrame :=
  match event, before.point with
  | .work _, .handling frame | .work _, .continuing frame _ =>
    if after.point = .settling false then some frame else served
  | _, _ => served

/-- The answer that an event of the device sends, with its request. -/
def OtaWorld.sent (config : ServiceConfig) (world : OtaWorld) : ServiceEvent → Option (DecodedFrame × Reply)
  | .drain => world.served.bind fun frame => world.device.completion.map fun reply => (frame, reply)
  | .answerBusy => world.device.call.map fun frame => (frame, (busyAnswer config world.device frame).2)
  | _ => none

def OtaWorld.serve (setup : OtaSetup) (world : OtaWorld) (event : ServiceEvent) : Option OtaWorld :=
  (serviceStep setup.sha256 setup.config world.device event).map fun after =>
    { world with
      device := after
      record := noteOta world.record world.device event after
      served := servedAfter world.served world.device event after
      answers := world.answers ++ ((world.sent setup.config event).toList.filter fun sent =>
        sent.1.header.channel = Channel.ota).map fun sent => ⟨sent.2.type, sent.2.payload⟩ }

def OtaWorld.take (world : OtaWorld) (step : Step) : OtaWorld :=
  { world with updater := step.1, requests := world.requests ++ step.2 }

def nextOta (setup : OtaSetup) (world : OtaWorld) : OtaLinkEvent → Option OtaWorld
  | .act (.answer _ _) => none
  | .act event => (world.updater.next event).map world.take
  | .receive position index =>
    (world.answers[index]?).bind fun frame => (world.updater.next (.answer position frame)).map world.take
  | .answerJob frame =>
    if world.updater.point = .checkingJob then (world.updater.next (.answer 0 frame)).map world.take else none
  | .deliver index header ensured =>
    (world.requests[index]?).bind fun request =>
      if request.payload.length ≤ Codec.Host.maxPayload then
        world.serve setup (.dispatch (requestOn header request) ensured)
      else none
  | .device (.dispatch frame ensured) =>
    if frame.header.channel = Channel.ota then none else world.serve setup (.dispatch frame ensured)
  | .device event => world.serve setup event

/-- The call of `ota_update`. -/
def startOta (setup : OtaSetup) (backendRegistered : Bool) : OtaWorld where
  updater := (startUpdate setup.request).1
  device := .initial setup.config backendRegistered
  record := .empty
  served := none
  requests := (startUpdate setup.request).2
  answers := []

def FitsLink : OtaLinkEvent → Prop
  | .device event => FitsFlash event
  | _ => True

/-- No other client sends on the OTA channel. -/
def otaLink (setup : OtaSetup) : System OtaWorld OtaLinkEvent :=
  (System.ofPartial (fun world => ∃ backendRegistered, world = startOta setup backendRegistered)
    (nextOta setup)).guarded fun _ event => FitsLink event

/-- A request of the update on the OTA channel. -/
structure Ours (request : UpdateRequest) (sent : OtaRequest) : Prop where
  channel : sent.channel = Channel.ota
  short : request.image.length < 2 ^ 32
  begins : sent.type = OtaType.begin → sent.payload = beginPayload request
  carries : sent.type = OtaType.data → ∃ offset part, sent.payload = littleEndian 4 offset ++ part ∧
    offset < request.image.length ∧ part <+: request.image.drop offset

def requestOf (frame : DecodedFrame) : OtaRequest := ⟨frame.header.channel, frame.header.type, frame.payload⟩

/-- What the services take for an OTA request is one that was sent. -/
def OtaAsked (requests : List OtaRequest) (frame : DecodedFrame) : Prop :=
  frame.header.channel ≠ Channel.control → frame.header.channel ≠ Channel.systemUpdate → requestOf frame ∈ requests

/-- A successful END_RESPONSE comes after a selection. -/
def Announces (record : OtaRecord) (type : UInt8) (payload : List UInt8) : Prop :=
  type = OtaType.finishResponse → field payload 4 4 = 0 → record.selections ≠ []

section updater
variable {updater : Updater} {event : UpdateEvent} {step : Step}

theorem batchFrom_part {image : List UInt8} {chunkSize count offset : Nat} {part : Nat × List UInt8}
    (member : part ∈ batchFrom image chunkSize offset count) :
    part.1 < image.length ∧ part.2 <+: image.drop part.1 := by
  induction count generalizing offset with
  | zero => contradiction
  | succ count ih =>
    unfold batchFrom at member
    split at member
    next => contradiction
    next inside =>
      rcases List.mem_cons.mp member with rfl | later
      · exact ⟨not_le.mp inside, List.take_prefix _ _⟩
      · exact ih later

/-- What a step of the coroutine sends and when it succeeds. -/
structure StepSound (updater : Updater) (event : UpdateEvent) (step : Step) : Prop where
  request : step.1.request = updater.request
  live : updater.point ≠ .failed
  asks : updater.request.image.length < 2 ^ 32 →
    ∀ sent ∈ step.2, sent.channel = Channel.control ∨ Ours updater.request sent
  ends : step.1.point = .succeeded .endResponse → ∃ position frame, event = .answer position frame ∧
    updater.point = .ending ∧ frame.type = OtaType.finishResponse ∧ field frame.payload 4 4 = 0

theorem Updater.stop_sound {point : Point} (live : updater.point ≠ .failed) (short : point ≠ .succeeded .endResponse) :
    StepSound updater event (updater.stop point) := ⟨rfl, live, nofun, fun is => absurd is short⟩

theorem Updater.ask_sound {point : Point} {type : UInt8} (live : updater.point ≠ .failed)
    (short : point ≠ .succeeded .endResponse) (plain : type ≠ OtaType.begin ∧ type ≠ OtaType.data) :
    StepSound updater event (updater.ask point type) := by
  refine ⟨rfl, live, fun bounded sent member => ?_, fun is => absurd is short⟩
  cases List.mem_singleton.mp member
  exact .inr ⟨rfl, bounded, fun is => absurd is plain.1, fun is => absurd is plain.2⟩

theorem Updater.cancel_sound (live : updater.point ≠ .failed) : StepSound updater event updater.cancel :=
  ask_sound live Point.noConfusion (by decide)

theorem Updater.raise_sound (goes : updater.onRaise = some step) : StepSound updater event step := by
  unfold Updater.onRaise at goes
  split at goes <;> cases goes
  all_goals first
    | exact stop_sound (by simp [*]) Point.noConfusion
    | exact cancel_sound (by simp [*])

theorem Updater.begun_sound {frame : OtaFrame} (live : updater.point ≠ .failed) :
    StepSound updater event (updater.onBegun frame) := by
  unfold Updater.onBegun
  dsimp only
  split_ifs
  · exact stop_sound live Point.noConfusion
  · exact stop_sound live Point.noConfusion
  · exact ⟨rfl, live, nofun, Point.noConfusion⟩

theorem Updater.status_sound {batch : List (Nat × List UInt8)} {frame : OtaFrame} (live : updater.point ≠ .failed) :
    StepSound updater event (updater.onStatus batch frame) := by
  unfold Updater.onStatus
  dsimp only
  split_ifs
  · exact cancel_sound live
  · exact cancel_sound live
  · exact ⟨rfl, live, nofun, Point.noConfusion⟩
  · exact cancel_sound live

theorem Updater.answer_sound {position : Nat} {frame : OtaFrame} (goes : updater.onAnswer position frame = some step) :
    StepSound updater (.answer position frame) step := by
  unfold Updater.onAnswer at goes
  split at goes
  next => exact raise_sound goes
  next =>
    split at goes
    next point =>
      cases goes
      exact begun_sound (by rw [point]; exact Point.noConfusion)
    next batch answers point =>
      have live : updater.point ≠ .failed := by rw [point]; exact Point.noConfusion
      dsimp only at goes
      split at goes
      next =>
        split at goes <;> cases goes
        · exact cancel_sound live
        · exact ⟨rfl, live, nofun, Point.noConfusion⟩
      next =>
        cases goes
        exact ⟨rfl, live, nofun, Point.noConfusion⟩
    next batch point =>
      cases goes
      exact status_sound (by rw [point]; exact Point.noConfusion)
    next point =>
      have live : updater.point ≠ .failed := by rw [point]; exact Point.noConfusion
      cases goes
      unfold Updater.onEnded
      split_ifs with malformed failed
      · exact stop_sound live Point.noConfusion
      · exact stop_sound live Point.noConfusion
      · rw [not_or, not_not] at malformed
        rw [not_or, not_not, not_not] at failed
        exact ⟨rfl, live, nofun, fun _ => ⟨position, frame, rfl, point, malformed.1, failed.2⟩⟩
    next point =>
      have live : updater.point ≠ .failed := by rw [point]; exact Point.noConfusion
      cases goes
      unfold Updater.onJob
      split_ifs
      · exact cancel_sound live
      · exact cancel_sound live
      · exact stop_sound live nofun
    next point =>
      cases goes
      exact stop_sound (by rw [point]; exact Point.noConfusion) Point.noConfusion
    all_goals contradiction

theorem Updater.proceed_sound (live : updater.point ≠ .failed) : StepSound updater event updater.proceed := by
  unfold Updater.proceed
  split
  next =>
    refine ⟨rfl, live, fun short sent member => ?_, Point.noConfusion⟩
    obtain ⟨part, inBatch, rfl⟩ := List.mem_map.mp member
    obtain ⟨inside, slice⟩ := batchFrom_part inBatch
    exact .inr ⟨rfl, short, fun is => absurd is (show OtaType.data ≠ OtaType.begin by decide),
      fun _ => ⟨part.1, part.2, rfl, inside, slice⟩⟩
  next => exact ask_sound live Point.noConfusion (by decide)

theorem Updater.next_sound (goes : updater.next event = some step) : StepSound updater event step := by
  unfold Updater.next at goes
  split at goes
  next => exact answer_sound goes
  next =>
    unfold Updater.onTimeout at goes
    split at goes
    next point =>
      cases goes
      exact ask_sound (by rw [point]; exact Point.noConfusion) Point.noConfusion (by decide)
    next point =>
      have live : updater.point ≠ .failed := by rw [point]; exact Point.noConfusion
      split at goes <;> cases goes
      · exact cancel_sound live
      · refine ⟨rfl, live, fun _ sent member => ?_, Point.noConfusion⟩
        cases List.mem_singleton.mp member
        exact .inl rfl
    next => exact raise_sound goes
  next =>
    split at goes
    next point =>
      cases goes
      exact stop_sound (by rw [point]; exact Point.noConfusion) nofun
    next => exact raise_sound goes
  next => exact raise_sound goes
  next =>
    split at goes
    next point =>
      cases goes
      refine proceed_sound fun failed => ?_
      rw [failed] at point
      rcases point with opened | advancing <;> contradiction
    next => contradiction

end updater

section device
variable {sha256 : List UInt8 → List UInt8} {config : ServiceConfig} {services : Services} {frame : DecodedFrame}
  {reply : Reply}

theorem reserve_channel {enabled : Bool} {header : WireHeader} (path : dispatchPath enabled false header = .reserve) :
    header.channel = Channel.control ∨ header.channel = Channel.ota ∨ header.channel = Channel.systemUpdate := by
  unfold dispatchPath at path
  dsimp only at path
  split_ifs at path
  tauto

/-- An answer that is no END_RESPONSE. -/
def Plain (reply : Reply) : Prop := reply.type ≠ OtaType.finishResponse

theorem plain_of_type {type : UInt8} (type_is : reply.type = type) (other : type ≠ OtaType.finishResponse) : Plain reply :=
  fun finished => other (type_is.symm.trans finished)

theorem refuse_plain (header : WireHeader) (code : EspErr) : Plain (refuse header code) :=
  plain_of_type rfl (show ControlType.error ≠ OtaType.finishResponse by decide)

/-- What a handler on the OTA channel has come to. -/
def Tells (record : OtaRecord) : Progress → Prop
  | .answered reply => Announces record reply.type reply.payload
  | .otaDecided result => result = EspErr.ok → record.selections ≠ []
  | _ => False

theorem Plain.announces {record : OtaRecord} (plain : Plain reply) : Announces record reply.type reply.payload :=
  fun finished => absurd finished plain

/-- Only END decides, and only its last part answers with END_RESPONSE. -/
theorem handleOta_plain {answers : OtaAnswers} :
    (∃ reply, (handleOta sha256 config services frame answers).2 = .answered reply ∧ Plain reply) ∨
      ∃ result, (handleOta sha256 config services frame answers).2 = .otaDecided result := by
  unfold handleOta
  dsimp only
  split
  next =>
    refine .inl ⟨_, rfl, ?_⟩
    unfold otaStatus
    split
    next => exact refuse_plain _ _
    next => exact plain_of_type rfl (show OtaType.status ≠ OtaType.finishResponse by decide)
  split
  next =>
    refine .inl ⟨_, rfl, ?_⟩
    unfold otaBegin
    split
    next => exact refuse_plain _ _
    split
    next => exact refuse_plain _ _
    dsimp only
    generalize (if answers.hashReady = true then answers.otaBegin else EspErr.fail) = err
    split
    next => exact refuse_plain _ _
    next => exact plain_of_type rfl (show OtaType.beginResponse ≠ OtaType.finishResponse by decide)
  split
  next => exact .inl ⟨_, rfl, refuse_plain _ _⟩
  split
  next => exact .inl ⟨_, rfl, plain_of_type rfl (show OtaType.status ≠ OtaType.finishResponse by decide)⟩
  split
  next =>
    refine .inl ⟨_, rfl, ?_⟩
    unfold otaData
    split
    next => exact refuse_plain _ _
    dsimp only
    generalize (if answers.hashUpdated = true then answers.otaWrite else EspErr.fail) = err
    split
    next => exact refuse_plain _ _
    next => exact plain_of_type rfl (show OtaType.dataResponse ≠ OtaType.finishResponse by decide)
  split
  next => exact .inr ⟨_, rfl⟩
  next => exact .inl ⟨_, rfl, refuse_plain _ _⟩

/-- The busy branches of the OTA channel. -/
theorem ota_path {enabled : Bool} {header : WireHeader} (ota : header.channel = Channel.ota) :
    dispatchPath enabled true header = .otaStatus ∧ header.type = OtaType.status ∨
      dispatchPath enabled true header = .otaCancel ∨ dispatchPath enabled true header = .refuse := by
  have noUpdate : Channel.ota ≠ Channel.systemUpdate := by decide
  have noControl : Channel.ota ≠ Channel.control := by decide
  simp only [dispatchPath, ota, noUpdate, noControl, false_and, true_and, if_true, if_false]
  split_ifs with status
  · exact .inl ⟨rfl, status.2.1⟩
  · exact .inr (.inl rfl)
  · exact .inr (.inr rfl)

theorem busyAnswer_plain (world : ServiceWorld) (ota : frame.header.channel = Channel.ota) :
    Plain (busyAnswer config world frame).2 := by
  unfold busyAnswer
  rcases @ota_path config.otaEnabled _ ota with ⟨path, type⟩ | path | path
  · rw [path]
    exact plain_of_type type (show OtaType.status ≠ OtaType.finishResponse by decide)
  · rw [path]
    dsimp only
    split
    next => exact refuse_plain _ _
    next => exact plain_of_type rfl (show OtaType.status ≠ OtaType.finishResponse by decide)
  · rw [path]
    exact refuse_plain _ _

theorem otaFinish_announces {record : OtaRecord} {result : EspErr}
    (decided : result = EspErr.ok → record.selections ≠ []) :
    Announces record (otaFinish services frame result).2.type (otaFinish services frame result).2.payload := by
  intro _ zero
  apply decided
  have coded : field (otaFinish services frame result).2.payload 4 4 = result.toNat := by
    unfold otaFinish respond
    dsimp only
    rw [irisPutLe32_eq, irisPutLe32_eq, ← List.append_nil (littleEndian 4 result.toNat)]
    exact field_behind (littleEndian_length 4 _) result.toNat_lt
  exact UInt32.toNat_inj.mp (coded.symm.trans zero)

end device

section record
variable {sha256 : List UInt8 → List UInt8} {config : ServiceConfig} {services : Services} {frame : DecodedFrame}
  {answers : OtaAnswers} {request : UpdateRequest} {record : OtaRecord} {begun written : List UInt8}

/-- The transfer that BEGIN opened is of the image of the request, as far as it has come. -/
structure OtaCarries (request : UpdateRequest) (begun written : List UInt8) : Prop where
  short : request.image.length < 2 ^ 32
  begun : begun = beginPayload request
  written : written <+: request.image

theorem OtaCarries.total (carries : OtaCarries request begun written) :
    (irisGetLe32 begun 0).toNat = request.image.length := by
  rw [carries.begun, irisGetLe32_toNat]
  unfold beginPayload
  simp only [List.append_assoc]
  exact field_littleEndian 4 _ _ carries.short

theorem OtaCarries.whole {selection : Selection} (carries : OtaCarries request selection.begun selection.written)
    (complete : selection.Complete sha256) : selection.written = request.image := by
  apply carries.written.eq_of_length
  calc selection.written.length
      = (irisGetLe32 selection.begun 0).toNat := complete.size
    _ = request.image.length := carries.total

theorem OtaCarries.part {part : List UInt8} (carries : OtaCarries request begun written)
    (slice : part <+: request.image.drop written.length) : OtaCarries request begun (written ++ part) := by
  obtain ⟨rest, image⟩ := carries.written
  rw [← image, List.drop_left] at slice
  refine ⟨carries.short, carries.begun, ?_⟩
  rw [← image]
  exact (List.prefix_append_right_inj written).mpr slice

/-- All that a record tells is of the image of the request. -/
structure OtaFollows (request : UpdateRequest) (active : Bool) (record : OtaRecord) : Prop where
  carried : active = true → OtaCarries request record.begun record.written
  selected : ∀ selection ∈ record.selections, OtaCarries request selection.begun selection.written

theorem spares_follows {done : Services} (spares : Spares services done)
    (follows : OtaFollows request services.ota.active record) :
    OtaFollows request done.ota.active (record.note services frame answers done) := by
  rw [note_eq (spares.calls.trans (List.append_nil _).symm), extend_nil]
  constructor
  case carried =>
    intro active
    rcases spares.ota with same | gone
    · rw [same] at active
      rw [if_pos active]
      exact follows.carried active
    · exact absurd (gone.symm.trans active) Bool.false_ne_true
  case selected => split <;> exact follows.selected

theorem otaMove_follows {done : Services × Progress} (move : OtaMove sha256 config services frame answers done)
    (ours : Ours request (requestOf frame))
    (accords : services.ota.active = true → services.ota.Accords record)
    (follows : OtaFollows request services.ota.active record) :
    OtaFollows request done.1.ota.active (record.note services frame answers done.1) := by
  cases move with
  | spared spares undecided => exact spares_follows spares follows
  | begun accepted type ota calls undecided =>
    rw [note_eq (calls.trans (List.append_nil _).symm), extend_nil,
      if_neg (Bool.eq_false_iff.mp (otaBegin_refused accepted))]
    exact ⟨fun _ => ⟨ours.short, ours.begins type, List.nil_prefix⟩, follows.selected⟩
  | wrote placed active type ota calls undecided =>
    have held := accords active
    obtain ⟨_, _, here, _⟩ := otaDataPlaced placed
    obtain ⟨offset, part, payload, inside, slice⟩ := ours.carries type
    replace payload : frame.payload = littleEndian 4 offset ++ part := payload
    have at_end : offset = record.written.length := by
      calc offset
          = (irisGetLe32 frame.payload 0).toNat := by
            rw [irisGetLe32_toNat, payload, field_littleEndian 4 offset part (inside.trans ours.short)]
        _ = record.written.length := by rw [here, held.received]
    rw [note_eq calls, if_pos active]
    constructor
    case carried =>
      intro _
      simp only [OtaRecord.extend, otaWrites, List.flatMap_singleton]
      refine (follows.carried active).part (List.IsPrefix.trans (List.take_prefix _ _) ?_)
      rw [payload, List.drop_left' (littleEndian_length 4 offset), ← at_end]
      exact slice
    case selected => simpa [OtaRecord.extend] using follows.selected
  | decided active type ota calls decision =>
    have carried := follows.carried active
    rw [note_eq calls, if_pos active]
    constructor
    case carried =>
      intro _
      simp only [OtaRecord.extend]
      split <;> simpa [otaWrites] using carried
    case selected =>
      intro selection member
      rcases List.mem_append.mp member with old | new
      · exact follows.selected selection old
      · split at new
        next =>
          cases List.mem_singleton.mp new
          exact carried
        next => exact absurd new List.not_mem_nil

theorem handleRequest_follows {answers : WorkAnswers}
    (ours : frame.header.channel ≠ Channel.control → frame.header.channel ≠ Channel.systemUpdate →
      Ours request (requestOf frame))
    (accords : services.ota.active = true → services.ota.Accords record)
    (follows : OtaFollows request services.ota.active record) :
    OtaFollows request (handleRequest sha256 config services frame answers).1.ota.active
      (record.note services frame answers.ota (handleRequest sha256 config services frame answers).1) := by
  by_cases other : frame.header.channel = Channel.control ∨ frame.header.channel = Channel.systemUpdate
  · exact spares_follows (handleRequest_spares answers other).1 follows
  · obtain ⟨control, update⟩ := not_or.mp other
    exact otaMove_follows (handleRequest_move answers) (ours control update) accords follows

theorem note_spared {done : Services} (spares : Spares services done) :
    (record.note services frame answers done).selections = record.selections := by
  rw [note_eq (spares.calls.trans (List.append_nil _).symm), extend_nil]
  split <;> rfl

/-- Only END on the OTA channel selects. -/
theorem handleRequest_selects {answers : WorkAnswers}
    (selected : (record.note services frame answers.ota
      (handleRequest sha256 config services frame answers).1).selections ≠ []) :
    record.selections ≠ [] ∨ frame.header.channel ≠ Channel.control ∧ frame.header.channel ≠ Channel.systemUpdate ∧
      frame.header.type = OtaType.finish := by
  by_cases other : frame.header.channel = Channel.control ∨ frame.header.channel = Channel.systemUpdate
  · rw [note_spared (handleRequest_spares answers other).1] at selected
    exact .inl selected
  · obtain ⟨control, update⟩ := not_or.mp other
    have move := @handleRequest_move sha256 config services frame answers
    cases move with
    | spared spares undecided =>
      rw [note_spared spares] at selected
      exact .inl selected
    | begun accepted type ota calls undecided =>
      rw [note_eq (calls.trans (List.append_nil _).symm), extend_nil] at selected
      split at selected <;> exact .inl selected
    | wrote placed active type ota calls undecided =>
      rw [note_eq calls, if_pos active] at selected
      simp only [OtaRecord.extend, List.mem_singleton, reduceCtorEq, if_false, List.append_nil] at selected
      exact .inl selected
    | decided active type ota calls decision => exact .inr ⟨control, update, type⟩

theorem noteOta_grows {before after : ServiceWorld} {event : ServiceEvent} (selected : record.selections ≠ []) :
    (noteOta record before event after).selections ≠ [] := by
  unfold noteOta
  split
  next =>
    unfold OtaRecord.note
    dsimp only
    split <;> exact List.append_ne_nil_of_left_ne_nil selected _
  next => exact selected

theorem Announces.grow {later : OtaRecord} {type : UInt8} {payload : List UInt8}
    (announces : Announces record type payload) (grows : record.selections ≠ [] → later.selections ≠ []) :
    Announces later type payload := fun finished zero => grows (announces finished zero)

end record

section speech
variable {sha256 : List UInt8 → List UInt8} {config : ServiceConfig} {world after : ServiceWorld} {record later : OtaRecord}
  {served : Option DecodedFrame} {frame : DecodedFrame} {done : Services × Progress} {event : ServiceEvent}

theorem handleRequest_tells {answers : WorkAnswers} (ota : frame.header.channel = Channel.ota) :
    Tells (record.note world.services frame answers.ota (handleRequest sha256 config world.services frame answers).1)
      (handleRequest sha256 config world.services frame answers).2 := by
  have noUpdate : Channel.ota ≠ Channel.systemUpdate := by decide
  have noControl : Channel.ota ≠ Channel.control := by decide
  unfold handleRequest
  rw [ota, if_neg noControl, if_neg noUpdate]
  split
  next =>
    rcases @handleOta_plain sha256 config world.services frame answers.ota with ⟨reply, answered, plain⟩ | ⟨result, decides⟩
    · rw [answered]
      exact plain.announces
    · have move := @handleOta_move sha256 config world.services frame answers.ota
      rw [decides]
      intro accepts
      cases move with
      | decided active type ota calls decision =>
        rw [decides] at decision
        cases decision
        rw [note_eq calls, if_pos active, if_pos accepts]
        exact List.append_ne_nil_of_right_ne_nil _ (List.cons_ne_nil _ _)
      | _ =>
        rename_i undecided
        rw [decides] at undecided
        contradiction
  next => exact (refuse_plain _ _).announces

theorem continueRequest_tells {progress : Progress} {answers : WorkAnswers} (tells : Tells record progress) :
    Tells record (continueRequest config world.services frame progress answers).2 := by
  cases progress with
  | answered reply => exact tells
  | otaDecided result => exact otaFinish_announces tells
  | _ => exact tells.elim

/-- What the device is about to say on the OTA channel is true. -/
structure Truthful (record : OtaRecord) (served : Option DecodedFrame) (world : ServiceWorld) : Prop where
  decided : ∀ frame progress, world.point = .continuing frame progress → frame.header.channel = Channel.ota →
    Tells record progress
  answered : ∀ frame reply, served = some frame → world.completion = some reply →
    frame.header.channel = Channel.ota → Announces record reply.type reply.payload

theorem Truthful.part (truthful : Truthful record served world)
    (grows : record.selections ≠ [] → later.selections ≠ [])
    (tells : frame.header.channel = Channel.ota → Tells later done.2)
    (point : after.point = (afterPart world frame done).point)
    (completion : after.completion = (afterPart world frame done).completion) :
    Truthful later (if after.point = .settling false then some frame else served) after := by
  obtain ⟨services, progress⟩ := done
  cases progress with
  | answered reply =>
    replace point : after.point = .settling false := point
    rw [if_pos point]
    refine ⟨fun other progress continues => ?_, fun other told is completed ota => ?_⟩
    · rw [point] at continues
      contradiction
    · cases is
      rw [completion] at completed
      cases completed
      exact tells ota
  | _ =>
    have goes : after.point ≠ .settling false := by
      rw [point]
      exact WorkPoint.noConfusion
    rw [if_neg goes]
    refine ⟨fun other progress continues ota => ?_, fun other told is completed ota => ?_⟩
    · rw [point] at continues
      cases continues
      exact tells ota
    · exact (truthful.answered other told is (completion.symm.trans completed) ota).grow grows

theorem Truthful.move (truthful : Truthful record served world) (move : ServiceMove sha256 config world event after) :
    Truthful (noteOta record world event after) (servedAfter served world event after) after := by
  cases move with
  | aside spares idle queued point completion =>
    have same : servedAfter served world event after = served := by
      cases event <;> first | rfl | contradiction
    rw [noteOta_aside idle, same]
    refine ⟨fun frame progress continues ota => ?_, fun frame reply is completed ota => ?_⟩
    · rcases point with kept | free | ⟨_, handling, _⟩
      · exact truthful.decided frame progress (kept.symm.trans continues) ota
      · rw [continues] at free
        exact free.elim
      · rw [continues] at handling
        contradiction
    · rcases completion with kept | gone
      · exact truthful.answered frame reply is (kept.symm.trans completed) ota
      · rw [gone] at completed
        contradiction
  | @part _ answers frame done part services point queued completion =>
    rcases part with ⟨here, rfl⟩ | ⟨progress, here, rfl⟩
    · have grows := @noteOta_grows record world after (.work answers)
      unfold noteOta at grows ⊢
      unfold servedAfter
      rw [here] at grows ⊢
      refine truthful.part grows (fun ota => ?_) point completion
      rw [services]
      exact handleRequest_tells ota
    · unfold noteOta servedAfter
      rw [here]
      refine truthful.part id (fun ota => ?_) point completion
      exact continueRequest_tells (truthful.decided frame progress here ota)

end speech

section runs
variable {setup : OtaSetup} {world after : OtaWorld} {event : ServiceEvent}

/-- Whatever was sent, is held or is heard is of this update. -/
structure OtaLinkSound (setup : OtaSetup) (world : OtaWorld) : Prop where
  request : world.updater.request = setup.request
  short : world.updater.point ≠ .failed → setup.request.image.length < 2 ^ 32
  requests : ∀ sent ∈ world.requests, sent.channel = Channel.control ∨ Ours setup.request sent
  sound : OtaSound setup.sha256 (world.device, world.record)
  asked : HeldFrames (OtaAsked world.requests) world.device
  follows : OtaFollows setup.request world.device.services.ota.active world.record
  truthful : Truthful world.record world.served world.device
  answers : ∀ answer ∈ world.answers, Announces world.record answer.type answer.payload
  ended : world.updater.point = .succeeded .endResponse → world.record.selections ≠ []
  closed : world.record.selections ≠ [] → ∃ payload, ⟨Channel.ota, OtaType.finish, payload⟩ ∈ world.requests

theorem noteOta_follows {request : UpdateRequest} {sha256 : List UInt8 → List UInt8} {config : ServiceConfig}
    {before later : ServiceWorld} {record : OtaRecord} (move : ServiceMove sha256 config before event later)
    (ours : ∀ frame, before.point = .handling frame → frame.header.channel ≠ Channel.control →
      frame.header.channel ≠ Channel.systemUpdate → Ours request (requestOf frame))
    (accords : before.services.ota.active = true → before.services.ota.Accords record)
    (follows : OtaFollows request before.services.ota.active record) :
    OtaFollows request later.services.ota.active (noteOta record before event later) := by
  have spared : Spares before.services later.services → OtaFollows request later.services.ota.active record := by
    intro spares
    refine ⟨fun active => ?_, follows.selected⟩
    rcases spares.ota with same | gone
    · rw [same] at active
      exact follows.carried active
    · exact absurd (gone.symm.trans active) Bool.false_ne_true
  cases move with
  | aside spares idle =>
    rw [noteOta_aside idle]
    exact spared spares
  | @part _ answers frame done part services =>
    rcases part with ⟨here, rfl⟩ | ⟨progress, here, rfl⟩
    · unfold noteOta
      rw [here]
      dsimp only
      rw [services]
      exact handleRequest_follows (ours frame here) accords follows
    · unfold noteOta
      rw [here]
      exact spared (services ▸ continueRequest_spares before.services frame progress answers)

theorem noteOta_selects {sha256 : List UInt8 → List UInt8} {config : ServiceConfig} {before later : ServiceWorld}
    {record : OtaRecord} (move : ServiceMove sha256 config before event later)
    (selected : (noteOta record before event later).selections ≠ []) :
    record.selections ≠ [] ∨ ∃ frame, before.point = .handling frame ∧ frame.header.channel ≠ Channel.control ∧
      frame.header.channel ≠ Channel.systemUpdate ∧ frame.header.type = OtaType.finish := by
  cases move with
  | aside spares idle =>
    rw [noteOta_aside idle] at selected
    exact .inl selected
  | @part _ answers frame done part services =>
    rcases part with ⟨here, rfl⟩ | ⟨progress, here, rfl⟩
    · unfold noteOta at selected
      rw [here] at selected
      dsimp only at selected
      rw [services] at selected
      exact (handleRequest_selects selected).imp_right fun finishes => ⟨frame, here, finishes⟩
    · unfold noteOta at selected
      rw [here] at selected
      exact .inl selected

/-- An answer on the OTA channel that leaves the device is true. -/
theorem sent_announces {config : ServiceConfig} {frame : DecodedFrame} {reply : Reply}
    (truthful : Truthful world.record world.served world.device)
    (sent : world.sent config event = some (frame, reply)) (ota : frame.header.channel = Channel.ota) :
    Announces world.record reply.type reply.payload := by
  unfold OtaWorld.sent at sent
  split at sent
  next =>
    obtain ⟨told, is, mapped⟩ := Option.bind_eq_some_iff.mp sent
    obtain ⟨completed, there, same⟩ := Option.map_eq_some_iff.mp mapped
    cases same
    exact truthful.answered frame reply is there ota
  next =>
    obtain ⟨called, _, same⟩ := Option.map_eq_some_iff.mp sent
    cases same
    exact (busyAnswer_plain world.device ota).announces
  next => contradiction

theorem OtaLinkSound.serve (sound : OtaLinkSound setup world) (fits : FitsFlash event)
    (admitted : ∀ frame ensured, event = .dispatch frame ensured →
      dispatchPath setup.config.otaEnabled false frame.header = .reserve → OtaAsked world.requests frame)
    (step : world.serve setup event = some after) : OtaLinkSound setup after := by
  obtain ⟨device, stepped, rfl⟩ := Option.map_eq_some_iff.mp step
  have move := serviceStep_move stepped
  have grows := @noteOta_grows world.record world.device device event
  have ours : ∀ frame, world.device.point = .handling frame → frame.header.channel ≠ Channel.control →
      frame.header.channel ≠ Channel.systemUpdate → Ours setup.request (requestOf frame) :=
    fun frame here control update =>
      (sound.requests _ (sound.asked.handling frame here control update)).resolve_left control
  constructor
  case request => exact sound.request
  case short => exact sound.short
  case requests => exact sound.requests
  case sound => exact sound.sound.move fits move
  case asked => exact sound.asked.move admitted move
  case follows => exact noteOta_follows move ours sound.sound.accords sound.follows
  case truthful => exact sound.truthful.move move
  case answers =>
    intro answer member
    rcases List.mem_append.mp member with old | new
    · exact (sound.answers answer old).grow grows
    · obtain ⟨⟨frame, reply⟩, kept, rfl⟩ := List.mem_map.mp new
      obtain ⟨sent, ota⟩ := List.mem_filter.mp kept
      exact (sent_announces sound.truthful (Option.mem_toList.mp sent) (of_decide_eq_true ota)).grow grows
  case ended => exact fun ended => grows (sound.ended ended)
  case closed =>
    intro selected
    rcases noteOta_selects move selected with old | ⟨frame, here, control, update, type⟩
    · exact sound.closed old
    · have sent := sound.asked.handling frame here control update
      refine ⟨frame.payload, ?_⟩
      rw [← (ours frame here control update).channel, ← type]
      exact sent

theorem OtaLinkSound.take {event : UpdateEvent} {step : Step} (sound : OtaLinkSound setup world)
    (heard : ∀ position frame, event = .answer position frame → world.updater.point = .ending →
      Announces world.record frame.type frame.payload)
    (goes : world.updater.next event = some step) : OtaLinkSound setup (world.take step) := by
  have next := Updater.next_sound goes
  have short := sound.short next.live
  constructor
  case request => exact next.request.trans sound.request
  case short => exact fun _ => short
  case requests =>
    intro sent member
    rcases List.mem_append.mp member with old | new
    · exact sound.requests sent old
    · rw [← sound.request] at short ⊢
      exact next.asks short sent new
  case sound => exact sound.sound
  case asked =>
    exact sound.asked.imp fun frame asked control update => List.mem_append_left _ (asked control update)
  case follows => exact sound.follows
  case truthful => exact sound.truthful
  case answers => exact sound.answers
  case ended =>
    intro ended
    obtain ⟨position, frame, is, point, type, result⟩ := next.ends ended
    exact heard position frame is point type result
  case closed =>
    intro selected
    obtain ⟨payload, sent⟩ := sound.closed selected
    exact ⟨payload, List.mem_append_left _ sent⟩

theorem requestOn_sized {header : WireHeader} {request : OtaRequest}
    (fits : request.payload.length ≤ Codec.Host.maxPayload) : Sized (requestOn header request) := by
  have below : request.payload.length < 2 ^ 32 := fits.trans_lt (by decide)
  exact (UInt32.toNat_ofNat_of_lt' below).symm

theorem OtaLinkSound.next {event : OtaLinkEvent} (sound : OtaLinkSound setup world) (fits : FitsLink event)
    (step : nextOta setup world event = some after) : OtaLinkSound setup after := by
  unfold nextOta at step
  split at step
  next => contradiction
  next event other =>
    obtain ⟨taken, goes, rfl⟩ := Option.map_eq_some_iff.mp step
    exact sound.take (fun position frame is => absurd is (other position frame)) goes
  next position index =>
    obtain ⟨frame, there, rest⟩ := Option.bind_eq_some_iff.mp step
    obtain ⟨taken, goes, rfl⟩ := Option.map_eq_some_iff.mp rest
    refine sound.take (fun _ _ is _ => ?_) goes
    cases is
    exact sound.answers frame (List.mem_of_getElem? there)
  next frame =>
    split at step
    next checking =>
      obtain ⟨taken, goes, rfl⟩ := Option.map_eq_some_iff.mp step
      refine sound.take (fun _ _ _ ending => ?_) goes
      rw [checking] at ending
      contradiction
    next => contradiction
  next index header ensured =>
    obtain ⟨request, there, rest⟩ := Option.bind_eq_some_iff.mp step
    split at rest
    next small =>
      have fits : FitsFlash (.dispatch (requestOn header request) ensured) := requestOn_sized small
      refine sound.serve fits (fun _ _ is _ _ _ => ?_) rest
      cases is
      exact List.mem_of_getElem? there
    next => contradiction
  next frame ensured =>
    split at step
    next => contradiction
    next foreign =>
      have fits : FitsFlash (.dispatch frame ensured) := fits
      refine sound.serve fits (fun _ _ is path control update => ?_) step
      cases is
      rcases reserve_channel path with is | is | is
      · exact absurd is control
      · exact absurd is foreign
      · exact absurd is update
  next event other => exact sound.serve fits (fun frame ensured is => absurd is (other frame ensured)) step

theorem startUpdate_cases (request : UpdateRequest) :
    (startUpdate request).1.request = request ∧
      ((startUpdate request).1.point = .failed ∧ (startUpdate request).2 = [] ∨
        (startUpdate request).1.point = .beginning ∧ request.image.length < 2 ^ 32 ∧
          (startUpdate request).2 = [⟨Channel.ota, OtaType.begin, beginPayload request⟩]) := by
  unfold startUpdate
  dsimp only
  split
  next => exact ⟨rfl, .inl ⟨rfl, rfl⟩⟩
  next fits =>
    simp only [not_or, not_le] at fits
    exact ⟨rfl, .inr ⟨rfl, fits.2.2.2.2, rfl⟩⟩

theorem OtaLinkSound.start (backendRegistered : Bool) : OtaLinkSound setup (startOta setup backendRegistered) := by
  obtain ⟨request, starts⟩ := startUpdate_cases setup.request
  constructor
  case request => exact request
  case short =>
    intro live
    rcases starts with ⟨failed, _⟩ | ⟨_, short, _⟩
    · exact absurd failed live
    · exact short
  case requests =>
    intro sent member
    replace member : sent ∈ (startUpdate setup.request).2 := member
    rcases starts with ⟨_, none⟩ | ⟨_, short, one⟩
    · rw [none] at member
      exact absurd member List.not_mem_nil
    · rw [one] at member
      cases List.mem_singleton.mp member
      exact .inr ⟨rfl, short, fun _ => rfl, fun is => absurd is (show OtaType.begin ≠ OtaType.data by decide)⟩
  case sound => exact ⟨⟨nofun, nofun⟩, nofun, nofun⟩
  case asked => exact ⟨nofun, nofun⟩
  case follows => exact ⟨nofun, nofun⟩
  case truthful => exact ⟨nofun, nofun⟩
  case answers => exact nofun
  case closed => exact fun selected => absurd rfl selected
  case ended =>
    intro ended
    replace ended : (startUpdate setup.request).1.point = _ := ended
    rcases starts with ⟨failed, _⟩ | ⟨beginning, _⟩
    · exact absurd (failed.symm.trans ended) Point.noConfusion
    · exact absurd (beginning.symm.trans ended) Point.noConfusion

theorem otaLink_invariant (setup : OtaSetup) : Invariant (otaLink setup) (OtaLinkSound setup) where
  start := by
    rintro _ ⟨backendRegistered, rfl⟩
    exact .start backendRegistered
  step := fun _ _ _ sound ⟨fits, step⟩ => sound.next fits step

/-- An update makes the device select no other image than the one that it was asked for, and none before it has
sent END; a coroutine that ends with END_RESPONSE has made the device select it. -/
theorem ota_update_faithful (reached : Reachable (otaLink setup) world) :
    (∀ selection ∈ world.record.selections,
        selection.written = setup.request.image ∧ selection.Complete setup.sha256) ∧
      (world.record.selections ≠ [] → ∃ payload, ⟨Channel.ota, OtaType.finish, payload⟩ ∈ world.requests) ∧
      (world.updater.point = .succeeded .endResponse → world.record.selections ≠ []) := by
  have sound := (otaLink_invariant setup).reachable reached
  refine ⟨fun selection member => ?_, sound.closed, sound.ended⟩
  have complete := sound.sound.complete selection member
  exact ⟨(sound.follows.selected selection member).whole complete, complete⟩

end runs

instance (event : OtaLinkEvent) : Decidable (FitsLink event) := by
  unfold FitsLink
  split <;> infer_instance

/-- An update with one byte, on a link that loses nothing. -/
def oneByteUpdate : OtaSetup where
  config := oneJobConfig
  sha256 := digestOfSeven
  request := { image := [7], digest := digestOfSeven [7], project := [], release := [] }

/-- A request is served, and its answer is taken. -/
def otaRoundTrip (index parts : Nat) : List OtaLinkEvent :=
  [.deliver index ⟨0, 0, 0, 1, 1, 0, 1, 0⟩ true, .device .claim] ++
    List.replicate parts (.device (.work withTarget)) ++
    [.device (.settle fun _ => none), .device .drain, .receive 0 index]

theorem one_byte_updated : ∃ world, Reachable (otaLink oneByteUpdate) world ∧
    (∃ selection ∈ world.record.selections, selection.written = [7]) ∧
    world.updater.point = .succeeded .endResponse ∧ world.record.selections ≠ [] := by
  obtain ⟨world, run, checked⟩ : ∃ world, Run (otaLink oneByteUpdate) (startOta oneByteUpdate true)
      (otaRoundTrip 0 1 ++ [.act .proceed] ++ otaRoundTrip 1 1 ++ [.act .proceed] ++ otaRoundTrip 2 2) world ∧
      (decide (world.updater.point = .succeeded .endResponse) &&
        world.record.selections.any fun selection => selection.written == [7]) = true :=
    Run.of_guarded_check (by decide +kernel)
  rw [Bool.and_eq_true, decide_eq_true_eq] at checked
  have start : (otaLink oneByteUpdate).start (startOta oneByteUpdate true) := ⟨true, rfl⟩
  have reached : Reachable (otaLink oneByteUpdate) world := ⟨_, _, start, run⟩
  obtain ⟨selection, member, _⟩ := List.any_eq_true.mp checked.2
  obtain ⟨faithful, _, selected⟩ := ota_update_faithful reached
  exact ⟨world, reached, ⟨selection, member, (faithful selection member).1⟩, checked.1, selected checked.1⟩

end EspIris.Link
