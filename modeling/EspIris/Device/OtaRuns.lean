import EspIris.Device.HandleRuns

/-! The OTA transfer in every run of the services: whatever cancels, session ends and requests of other
services come between, the boot partition is selected only for an image that has come whole. -/

namespace EspIris.Device.Jobs
open Codec.Device Bytes Machine

def FlashCall.ofOta : FlashCall → Bool
  | .otaWrite _ | .otaSelect => true
  | _ => false

/-- What the transfer has done to the flash. -/
def otaCalls (services : Services) : List FlashCall := services.calls.filter FlashCall.ofOta

/-- The transfer stays as it is, or is over, and the flash is left alone. -/
structure Spares (before after : Services) : Prop where
  ota : after.ota = before.ota ∨ after.ota.active = false
  calls : otaCalls after = otaCalls before

section spares
variable {before middle after services : Services}

theorem Spares.same (ota : after.ota = before.ota) (calls : after.calls = before.calls) : Spares before after :=
  ⟨.inl ota, congrArg (List.filter FlashCall.ofOta) calls⟩

theorem Spares.trans (first : Spares before middle) (second : Spares middle after) : Spares before after := by
  refine ⟨?_, second.calls.trans first.calls⟩
  rcases second.ota with kept | gone
  · rw [kept]
    exact first.ota
  · exact .inr gone

theorem Spares.when {next : Services} (condition : Bool) (first : Spares before middle) (second : Spares middle next) :
    Spares before (if condition then next else middle) := by
  cases condition with
  | true => exact first.trans second
  | false => exact first

theorem logCall_spares (services : Services) {call : FlashCall} (foreign : call.ofOta = false) :
    Spares services (logCall services call) :=
  ⟨.inl rfl, by simp [otaCalls, logCall, foreign]⟩

theorem otaAbort_spares (services : Services) (result : EspErr) : Spares services (otaAbort services result) := by
  unfold otaAbort
  split
  next => exact ⟨.inr rfl, rfl⟩
  next => exact .same rfl rfl

theorem backendAbort_spares (services : Services) (reason : EspErr) (phase : UpdatePhase) :
    Spares services (backendAbort services reason phase) := by
  have called : Spares services (logCall services (.abort services.update.status.operationId reason)) :=
    logCall_spares services rfl
  unfold backendAbort
  split
  next => exact called.trans (.same rfl rfl)
  next => exact .same rfl rfl

theorem failUpdate_spares (services : Services) (header : WireHeader) (err : EspErr) :
    Spares services (failUpdate services header err).1 :=
  (backendAbort_spares services err .failed).trans (.same rfl rfl)

section handlers
variable (sha256 : List UInt8 → List UInt8) (config : ServiceConfig) (services : Services) (frame : DecodedFrame)

theorem handleBegin_spares (answers : BackendAnswers) :
    Spares services (handleBegin sha256 config services frame answers).1 := by
  have prepared : Spares services (logCall services (.prepare (frame.payload.take 16) answers.prepare)) :=
    logCall_spares services rfl
  unfold handleBegin
  dsimp only
  split
  next => exact .same rfl rfl
  split
  next => split <;> exact .same rfl rfl
  split
  next => exact prepared.trans (logCall_spares _ rfl)
  next => exact prepared.trans (.same rfl rfl)

theorem handleComponentBegin_spares (answers : BackendAnswers) :
    Spares services (handleComponentBegin config services frame answers).1 := by
  have called : Spares services
      (logCall services (.beginComponent (readComponent frame.payload) answers.beginComponent)) :=
    logCall_spares services rfl
  unfold handleComponentBegin
  dsimp only
  split
  next => exact .same rfl rfl
  split
  next => exact .same rfl rfl
  generalize (if answers.beginComponent ≠ EspErr.ok then answers.beginComponent
    else if answers.hashReady = true then EspErr.ok else EspErr.fail) = err
  split
  next => exact called.trans (failUpdate_spares _ frame.header err)
  next => exact called.trans (.same rfl rfl)

theorem handleData_spares (answers : BackendAnswers) : Spares services (handleData config services frame answers).1 := by
  unfold handleData
  dsimp only
  split
  next => exact .same rfl rfl
  have called : Spares services (if answers.hashUpdated = true then
      logCall services (.writeComponent services.update.component services.update.status.componentReceived
        ((frame.payload.drop systemDataHeaderSize).take (dataSize frame)) answers.writeComponent) else services) :=
    .when _ (.same rfl rfl) (logCall_spares services rfl)
  generalize (if answers.hashUpdated = true then answers.writeComponent else EspErr.fail) = err
  split
  next => exact called.trans (failUpdate_spares _ frame.header err)
  next => exact called.trans (.same rfl rfl)

theorem handleComponentEnd_spares (answers : BackendAnswers) :
    Spares services (handleComponentEnd sha256 services frame answers).1 := by
  unfold handleComponentEnd
  dsimp only
  split
  next => exact .same rfl rfl
  have closed : Spares services { services with update := { services.update with hashActive := false } } :=
    .same rfl rfl
  generalize componentEndResult sha256 services answers = err
  split
  next =>
    refine .trans ?_ (failUpdate_spares _ frame.header err)
    split
    next => exact closed.trans (logCall_spares _ rfl)
    next => exact closed
  split
  next =>
    have ended := closed.trans (@logCall_spares _ (.endComponent services.update.component answers.endComponent) rfl)
    exact ended.trans (.same rfl rfl)
  next => exact closed.trans (.same rfl rfl)

theorem handleUpdate_spares (answers : BackendAnswers) :
    Spares services (handleUpdate sha256 config services frame answers).1 := by
  unfold handleUpdate
  dsimp only
  split
  next => exact .same rfl rfl
  split
  next => exact handleBegin_spares sha256 config services frame answers
  split
  next => exact handleComponentBegin_spares config services frame answers
  split
  next => exact handleData_spares config services frame answers
  split
  next => exact handleComponentEnd_spares sha256 services frame answers
  split
  next =>
    unfold handleCommit
    dsimp only
    split <;> exact .same rfl rfl
  split
  next =>
    unfold handleCancel
    split
    next => exact .same rfl rfl
    next => exact (backendAbort_spares services _ _).trans (.same rfl rfl)
  next => exact .same rfl rfl

theorem commitDecide_spares (answers : BackendAnswers) : Spares services (commitDecide services answers).1 := by
  unfold commitDecide
  dsimp only
  generalize (services.updateCancel || services.update.job.any (jobCancelRequested services.table)) = cancelled
  generalize (if cancelled = true then EspErr.invalidState else answers.commit) = err
  have called : Spares services (if cancelled = true then services else
      logCall services (.commit services.update.status.operationId answers.commit)) := by
    split
    next => exact .same rfl rfl
    next => exact logCall_spares services rfl
  split
  next =>
    refine .trans ?_ (logCall_spares _ rfl)
    exact called.trans (.same rfl rfl)
  next => exact called.trans (.same rfl rfl)

theorem beginJob_spares : Spares services (beginJob config services frame).1 := by
  unfold beginJob
  split
  next table code _ =>
    have tabled : Spares services { services with table := table } := .same rfl rfl
    exact tabled.trans (backendAbort_spares _ code .failed)
  next => exact .same rfl rfl

end handlers

theorem runCallback_spares (services : Services) (slot : Nat) (job : Job) (sessionEnd : Bool)
    (finishing : Nat → Option EspErr) : Spares services (runCallback services slot job sessionEnd finishing) := by
  unfold runCallback
  dsimp only
  split
  next => exact .same rfl rfl
  next => exact .same rfl rfl
  next =>
    have noted : Spares services (noteJob services (.called job.serial sessionEnd)) := .same rfl rfl
    exact (noted.trans (backendAbort_spares _ EspErr.invalidState .cancelled)).trans (.same rfl rfl)
  next => split <;> exact .same rfl rfl

theorem handleJobCancel_spares (services : Services) (frame : DecodedFrame) (finishing : Nat → Option EspErr) :
    Spares services (handleJobCancel services frame finishing).1 := by
  unfold handleJobCancel
  split
  next => exact .same rfl rfl
  split
  next => exact .same rfl rfl
  next slot _ =>
    split
    next => exact .same rfl rfl
    next job _ =>
      dsimp only
      split
      next =>
        have marked : Spares services (setTable services (services.table.write slot (job.marked false) [])) :=
          .same rfl rfl
        exact marked.trans (runCallback_spares _ slot (job.marked false) false finishing)
      next => exact .same rfl rfl

theorem endSlots_spares (finishing : Nat → Option EspErr) (slots : List Nat) (services : Services) :
    Spares services (slots.foldl (endSlot finishing) services) := by
  induction slots generalizing services with
  | nil => exact .same rfl rfl
  | cons slot rest ih =>
    refine .trans ?_ (ih (endSlot finishing services slot))
    unfold endSlot
    split
    next => exact .same rfl rfl
    next job _ =>
      split
      next =>
        have marked : Spares services (setTable services (services.table.write slot job.ending [])) := .same rfl rfl
        exact (marked.trans (runCallback_spares _ slot job.ending true finishing)).trans (.same rfl rfl)
      next => exact .same rfl rfl

theorem sessionEndNow_spares (services : Services) (finishing : Nat → Option EspErr) :
    Spares services (sessionEndNow services finishing) := by
  have ended : Spares services (updateSessionEnd services) :=
    (backendAbort_spares services EspErr.invalidState .cancelled).trans (.same rfl rfl)
  exact (ended.trans (otaAbort_spares _ EspErr.invalidState)).trans (endSlots_spares finishing _ _)

theorem settleServices_spares (services : Services) (finishing : Nat → Option EspErr) :
    Spares services (settleServices services finishing) := by
  rw [settleServices_eq]
  have served : Spares (taken services) (serveCancel (taken services) finishing) := by
    unfold serveCancel
    split
    next => exact .same rfl rfl
    next slot _ =>
      split
      next => exact .same rfl rfl
      next job _ =>
        have unmarked : Spares (taken services) (setTable (taken services)
            ((taken services).table.write slot { job with cancelPending := false } [])) := .same rfl rfl
        exact unmarked.trans (runCallback_spares _ slot _ false finishing)
  have polls : Spares (serveCancel (taken services) finishing)
      (pollUpdateCancel (serveCancel (taken services) finishing)) := by
    unfold pollUpdateCancel jobCancel
    split
    next =>
      have cleared : Spares (serveCancel (taken services) finishing)
          { serveCancel (taken services) finishing with updateCancel := false } := .same rfl rfl
      exact (cleared.trans (backendAbort_spares _ EspErr.invalidState .cancelled)).trans (.same rfl rfl)
    next => exact .same rfl rfl
  have begun : Spares services (taken services) := .same rfl rfl
  have polled := (begun.trans served).when services.updateCancel polls
  have aborted := polled.when services.otaCancel (otaAbort_spares _ EspErr.invalidState)
  exact aborted.when services.abandoned (sessionEndNow_spares _ finishing)

end spares

/-- The name that BEGIN gives the image, and its version; an empty one is not compared. -/
def begunName (begun : List UInt8) : List UInt8 := cString ((begun.drop 40).take (byteAt begun 36).toNat)

def begunVersion (begun : List UInt8) : List UInt8 :=
  cString ((begun.drop (40 + (byteAt begun 36).toNat)).take (byteAt begun 37).toNat)

/-- A selection of the boot partition: the BEGIN of its transfer, what was written since, the target, what
the image says of itself, and whether a cancel flag was up. -/
structure Selection where
  begun : List UInt8
  written : List UInt8
  target : Option OtaTarget
  description : Except EspErr (List UInt8 × List UInt8)
  cancelled : Bool

/-- The BEGIN of the transfer in progress, what was written since, and every selection so far. -/
structure OtaRecord where
  begun : List UInt8
  written : List UInt8
  selections : List Selection

def OtaRecord.empty : OtaRecord := ⟨[], [], []⟩

def otaWrites (calls : List FlashCall) : List UInt8 :=
  calls.flatMap fun call => match call with
    | .otaWrite data => data
    | _ => []

def OtaRecord.extend (record : OtaRecord) (services : Services) (answers : OtaAnswers) (made : List FlashCall) :
    OtaRecord :=
  { record with
    written := record.written ++ otaWrites made
    selections := record.selections ++
      if .otaSelect ∈ made then
        [⟨record.begun, record.written, services.ota.partition, answers.description, executorCancelled services⟩]
      else [] }

/-- The record after a request is handled; where no transfer is active it may begin one. -/
def OtaRecord.note (record : OtaRecord) (services : Services) (frame : DecodedFrame) (answers : OtaAnswers)
    (after : Services) : OtaRecord :=
  let current := if services.ota.active then record else { record with begun := frame.payload, written := [] }
  current.extend services answers ((otaCalls after).drop (otaCalls services).length)

def noteOta (record : OtaRecord) (before : ServiceWorld) (event : ServiceEvent) (after : ServiceWorld) : OtaRecord :=
  match event, before.point with
  | .work answers, .handling frame => record.note before.services frame answers.ota after.services
  | _, _ => record

/-- The services with the record of their transfers. -/
def otaSystem (sha256 : List UInt8 → List UInt8) (config : ServiceConfig) : System (ServiceWorld × OtaRecord) ServiceEvent :=
  (serviceSystem sha256 config).recorded .empty noteOta

/-- The image is what BEGIN announced, it is whole, and nothing had cancelled it. -/
structure Selection.Complete (sha256 : List UInt8 → List UInt8) (selection : Selection) : Prop where
  size : selection.written.length = (irisGetLe32 selection.begun 0).toNat
  digest : sha256 selection.written = (selection.begun.drop 4).take 32
  target : ∃ target, selection.target = some target ∧ target.isApp = true ∧ target.isRunning = false ∧
    selection.written.length ≤ target.size.toNat
  named : ∀ project version, selection.description = .ok (project, version) →
    (begunName selection.begun = [] ∨ cString project = begunName selection.begun) ∧
      (begunVersion selection.begun = [] ∨ cString version = begunVersion selection.begun)
  willing : selection.cancelled = false

/-- A frame has the size that its header says. -/
def Sized (frame : DecodedFrame) : Prop := frame.payload.length = frame.header.payloadSize.toNat

/-- Frames are decoded ones, and a partition ends below 4 GiB by the largest payload or more. -/
def FitsFlash : ServiceEvent → Prop
  | .dispatch frame _ => Sized frame
  | .work answers => ∀ target ∈ answers.ota.target, target.size.toNat + 0x10000 ≤ 2 ^ 32
  | _ => True

/-- The state of a transfer is what its BEGIN and its writes make it. -/
structure Ota.Accords (ota : Ota) (record : OtaRecord) : Prop where
  totalSize : ota.totalSize = irisGetLe32 record.begun 0
  digest : ota.expectedSha256 = (record.begun.drop 4).take 32
  name : ota.projectName = begunName record.begun
  version : ota.version = begunVersion record.begun
  target : ∃ target, ota.partition = some target ∧ target.isApp = true ∧ target.isRunning = false ∧
    ota.totalSize ≤ target.size
  hashed : ota.hashed = record.written
  received : ota.received.toNat = record.written.length
  within : ota.received ≤ ota.totalSize
  room : ota.totalSize.toNat + 0x10000 ≤ 2 ^ 32

section moves
variable {sha256 : List UInt8 → List UInt8} {config : ServiceConfig} {services : Services} {frame : DecodedFrame}
  {answers : OtaAnswers} {record : OtaRecord}

variable (sha256 config services frame answers) in
/-- What a request does to the transfer. -/
inductive OtaMove (done : Services × Progress) : Prop
  | spared (spares : Spares services done.1) (undecided : done.2.decided = false)
  | begun {target : OtaTarget} {handle : JobHandle} (accepted : otaBeginRefusal services frame answers = .ok target)
      (type : frame.header.type = OtaType.begin) (ota : done.1.ota = otaOpened frame target handle)
      (calls : otaCalls done.1 = otaCalls services) (undecided : done.2.decided = false)
  | wrote (placed : otaDataMisplaced config services.ota frame = false) (active : services.ota.active = true)
      (type : frame.header.type = OtaType.data)
      (ota : done.1.ota = { services.ota with
        received := services.ota.received + otaDataSize frame
        hashed := services.ota.hashed ++ (frame.payload.drop 4).take (otaDataSize frame).toNat })
      (calls : otaCalls done.1 =
        otaCalls services ++ [.otaWrite ((frame.payload.drop 4).take (otaDataSize frame).toNat)])
      (undecided : done.2.decided = false)
  | decided (active : services.ota.active = true) (type : frame.header.type = OtaType.finish)
      (ota : done.1.ota = { services.ota with hashActive := false })
      (calls : otaCalls done.1 =
        otaCalls services ++ if otaDecide sha256 config services answers = EspErr.ok then [.otaSelect] else [])
      (decision : done.2 = .otaDecided (otaDecide sha256 config services answers))

theorem handleOta_move : OtaMove sha256 config services frame answers (handleOta sha256 config services frame answers) := by
  unfold handleOta
  dsimp only
  split
  next => exact .spared (.same rfl rfl) rfl
  split
  next type =>
    unfold otaBegin
    split
    next => exact .spared (.same rfl rfl) rfl
    next target accepted =>
      split
      next => exact .spared ⟨.inr rfl, rfl⟩ rfl
      dsimp only
      generalize (if answers.hashReady = true then answers.otaBegin else EspErr.fail) = err
      split
      next => exact .spared ⟨.inr rfl, rfl⟩ rfl
      next => exact .begun accepted type rfl rfl rfl
  split
  next => exact .spared (.same rfl rfl) rfl
  next inactive =>
    have active := Bool.of_not_eq_false inactive
    split
    next =>
      have marked : Spares services { services with table := markThrough services.table services.ota.job } :=
        .same rfl rfl
      exact .spared (marked.trans (otaAbort_spares _ EspErr.invalidState)) rfl
    split
    next data =>
      unfold otaData
      split
      next => exact .spared (.same rfl rfl) rfl
      next placed =>
        dsimp only
        generalize (if answers.hashUpdated = true then answers.otaWrite else EspErr.fail) = err
        split
        next => exact .spared (otaAbort_spares services err) rfl
        next => exact .wrote (Bool.eq_false_iff.mpr placed) active data rfl (List.filter_append ..) rfl
    split
    next type =>
      refine .decided active type rfl ?_ rfl
      unfold otaCalls
      dsimp only
      split
      next => exact List.filter_append ..
      next => exact (List.append_nil _).symm
    next => exact .spared (.same rfl rfl) rfl

/-- A request on another channel. -/
theorem handleRequest_spares (answers : WorkAnswers)
    (other : frame.header.channel = Channel.control ∨ frame.header.channel = Channel.systemUpdate) :
    Spares services (handleRequest sha256 config services frame answers).1 ∧
      (handleRequest sha256 config services frame answers).2.decided = false := by
  unfold handleRequest
  split
  next =>
    split
    next => exact ⟨.same rfl rfl, rfl⟩
    next => exact ⟨handleJobCancel_spares services frame answers.finishing, rfl⟩
  next control =>
    rw [if_pos (other.resolve_left control)]
    split
    next => exact ⟨.same rfl rfl, rfl⟩
    next =>
      have stands := @handleUpdate_stands sha256 config services frame answers.backend
      exact ⟨handleUpdate_spares sha256 config services frame answers.backend, stands.1⟩

theorem handleRequest_move (answers : WorkAnswers) :
    OtaMove sha256 config services frame answers.ota (handleRequest sha256 config services frame answers) := by
  by_cases other : frame.header.channel = Channel.control ∨ frame.header.channel = Channel.systemUpdate
  · have spared := @handleRequest_spares sha256 config services frame answers other
    exact .spared spared.1 spared.2
  · obtain ⟨control, update⟩ := not_or.mp other
    unfold handleRequest
    rw [if_neg control, if_neg update]
    split
    next => exact handleOta_move
    next => exact .spared (.same rfl rfl) rfl

theorem otaDataPlaced (placed : otaDataMisplaced config services.ota frame = false) :
    4 < frame.header.payloadSize ∧ otaDataSize frame ≤ config.otaChunkBytes.toUInt32 ∧
      irisGetLe32 frame.payload 0 = services.ota.received ∧
      services.ota.received + otaDataSize frame ≤ services.ota.totalSize := by
  simpa [otaDataMisplaced, not_lt, not_le, and_assoc] using placed

/-- The bytes of a DATA frame that is in its place. -/
theorem otaData_length (sized : Sized frame) (large : 4 < frame.header.payloadSize) :
    ((frame.payload.drop 4).take (otaDataSize frame).toNat).length = (otaDataSize frame).toNat := by
  have size : (otaDataSize frame).toNat = frame.header.payloadSize.toNat - 4 :=
    UInt32.toNat_sub_of_le _ _ (UInt32.le_of_lt large)
  rw [List.length_take, List.length_drop, sized, size, Nat.min_self]

theorem otaBegin_accepted {target : OtaTarget} (accepted : otaBeginRefusal services frame answers = .ok target) :
    target ∈ answers.target ∧ target.isApp = true ∧ target.isRunning = false ∧
      irisGetLe32 frame.payload 0 ≤ target.size := by
  unfold otaBeginRefusal at accepted
  dsimp only at accepted
  split at accepted
  next => contradiction
  next found named =>
    split_ifs at accepted with _ _ _ refused
    cases accepted
    simp only [not_or, Bool.not_eq_true, Bool.not_eq_false] at refused
    exact ⟨named, refused.2.2.1, refused.2.1, UInt32.not_lt.mp refused.2.2.2.2⟩

/-- What END has found when it selects the image. -/
theorem otaDecide_ok (decides : otaDecide sha256 config services answers = EspErr.ok) :
    services.ota.received = services.ota.totalSize ∧ sha256 services.ota.hashed = services.ota.expectedSha256 ∧
      executorCancelled services = false ∧
      ∀ project version, answers.description = .ok (project, version) →
        (services.ota.projectName = [] ∨ cString project = services.ota.projectName) ∧
          (services.ota.version = [] ∨ cString version = services.ota.version) := by
  unfold otaDecide at decides
  dsimp only at decides
  split at decides
  next failed => exact absurd decides failed
  next verified =>
    rw [not_not] at verified
    split at decides
    next => contradiction
    next willing =>
      unfold otaVerify at verified
      split at verified
      next => contradiction
      next whole =>
        split at verified
        next => contradiction
        split at verified
        next => contradiction
        next digest =>
          split at verified
          next failed => exact absurd verified failed
          refine ⟨not_not.mp whole, not_not.mp digest, Bool.eq_false_iff.mpr willing, fun project version described => ?_⟩
          rw [described] at verified
          dsimp only at verified
          split_ifs at verified with wrongName wrongVersion
          all_goals first
            | contradiction
            | exact ⟨by tauto, by tauto⟩

theorem note_eq {after : Services} {made : List FlashCall} (calls : otaCalls after = otaCalls services ++ made) :
    record.note services frame answers after =
      (if services.ota.active then record else { record with begun := frame.payload, written := [] }).extend
        services answers made := by
  unfold OtaRecord.note
  rw [calls, List.drop_left]

theorem extend_nil : record.extend services answers [] = record := by simp [OtaRecord.extend, otaWrites]

/-- A request keeps the state of the transfer in accord with the record, and selects a complete image only. -/
theorem OtaMove.sound {done : Services × Progress} (move : OtaMove sha256 config services frame answers done)
    (sized : Sized frame) (roomy : ∀ target ∈ answers.target, target.size.toNat + 0x10000 ≤ 2 ^ 32)
    (accords : services.ota.active = true → services.ota.Accords record)
    (complete : ∀ selection ∈ record.selections, selection.Complete sha256) :
    (done.1.ota.active = true → done.1.ota.Accords (record.note services frame answers done.1)) ∧
      ∀ selection ∈ (record.note services frame answers done.1).selections, selection.Complete sha256 := by
  cases move with
  | spared spares undecided =>
    rw [note_eq (spares.calls.trans (List.append_nil _).symm), extend_nil]
    refine ⟨fun active => ?_, ?_⟩
    · rcases spares.ota with same | gone
      · rw [same] at active ⊢
        rw [if_pos active]
        exact accords active
      · exact absurd (gone.symm.trans active) Bool.false_ne_true
    · split <;> exact complete
  | @begun target handle accepted type ota calls undecided =>
    have idle := otaBegin_refused accepted
    obtain ⟨named, isApp, still, fits⟩ := otaBegin_accepted accepted
    have room := roomy target named
    rw [note_eq (calls.trans (List.append_nil _).symm), extend_nil, if_neg (Bool.eq_false_iff.mp idle), ota]
    refine ⟨fun _ => ?_, complete⟩
    constructor
    case target => exact ⟨target, rfl, isApp, still, fits⟩
    case within => exact UInt32.le_iff_toNat_le.mpr (Nat.zero_le _)
    case room =>
      have := UInt32.le_iff_toNat_le.mp fits
      show (irisGetLe32 frame.payload 0).toNat + 0x10000 ≤ 2 ^ 32
      omega
    all_goals rfl
  | wrote placed active type ota calls undecided =>
    have held := accords active
    obtain ⟨large, small, _, below⟩ := otaDataPlaced placed
    have length := otaData_length sized large
    rw [note_eq calls, if_pos active, ota]
    refine ⟨fun _ => ?_, by simpa [OtaRecord.extend] using complete⟩
    have small := UInt32.le_iff_toNat_le.mp small
    have within := UInt32.le_iff_toNat_le.mp held.within
    have room := held.room
    have chunk := config.otaChunkBytes.toNat_lt
    rw [UInt16.toNat_toUInt32] at small
    have sum : (services.ota.received + otaDataSize frame).toNat =
        services.ota.received.toNat + (otaDataSize frame).toNat := by
      rw [UInt32.toNat_add]
      apply Nat.mod_eq_of_lt
      omega
    constructor
    case totalSize => exact held.totalSize
    case digest => exact held.digest
    case name => exact held.name
    case version => exact held.version
    case target => exact held.target
    case hashed => simp [OtaRecord.extend, otaWrites, held.hashed]
    case received => simp [OtaRecord.extend, otaWrites, sum, held.received, length]
    case within => exact below
    case room => exact room
  | decided active type ota calls decision =>
    have held := accords active
    rw [note_eq calls, if_pos active, ota]
    have same : otaWrites (if otaDecide sha256 config services answers = EspErr.ok then [.otaSelect] else []) = [] := by
      split <;> rfl
    refine ⟨fun _ => ?_, fun selection member => ?_⟩
    · simp only [OtaRecord.extend, same, List.append_nil]
      exact ⟨held.totalSize, held.digest, held.name, held.version, held.target, held.hashed, held.received,
        held.within, held.room⟩
    · rcases List.mem_append.mp member with old | new
      · exact complete selection old
      · split at new
        next decides =>
          rw [if_pos (List.mem_singleton_self _)] at new
          obtain ⟨whole, digest, willing, named⟩ := otaDecide_ok decides
          rw [held.name, held.version] at named
          have size := held.received
          rw [whole] at size
          cases List.mem_singleton.mp new
          obtain ⟨target, is, isApp, still, fits⟩ := held.target
          constructor
          case size => rw [← size, held.totalSize]
          case digest => rw [← held.hashed, digest, held.digest]
          case target =>
            refine ⟨target, is, isApp, still, ?_⟩
            rw [← size]
            exact UInt32.le_iff_toNat_le.mp fits
          case named => exact named
          case willing => exact willing
        next => exact absurd new List.not_mem_nil

end moves

section steps
variable {sha256 : List UInt8 → List UInt8} {config : ServiceConfig} {world after : ServiceWorld}

theorem busyAnswer_calls (world : ServiceWorld) (frame : DecodedFrame) :
    (busyAnswer config world frame).1.calls = world.services.calls := by
  unfold busyAnswer deferJobCancel requestUpdateCancel
  dsimp only
  repeat' (first | rfl | split)

theorem afterPart_services (world : ServiceWorld) (frame : DecodedFrame) (done : Services × Progress) :
    (afterPart world frame done).services = done.1 := by
  obtain ⟨services, progress⟩ := done
  cases progress <;> rfl

theorem afterPart_queued (world : ServiceWorld) (frame : DecodedFrame) (done : Services × Progress) :
    (afterPart world frame done).queued = world.queued := by
  obtain ⟨services, progress⟩ := done
  cases progress <;> rfl

/-- A part of a handler that is not the head of a request touches the transfer only to end it. -/
theorem continueRequest_spares (services : Services) (frame : DecodedFrame) (progress : Progress) (answers : WorkAnswers) :
    Spares services (continueRequest config services frame progress answers).1 := by
  cases progress with
  | answered reply => exact .same rfl rfl
  | otaDecided result => exact ⟨.inr rfl, rfl⟩
  | updatePrepared => exact beginJob_spares config services frame
  | commitEntered => exact commitDecide_spares services answers.backend
  | commitDecided err => exact .same rfl rfl

/-- The worker has no request in hand. -/
def WorkPoint.free : WorkPoint → Prop
  | .resting | .settling _ => True
  | .handling _ | .continuing _ _ => False

def ServiceEvent.works : ServiceEvent → Bool
  | .work _ => true
  | _ => false

/-- A part of the handler of a request in hand. -/
def PartOf (sha256 : List UInt8 → List UInt8) (config : ServiceConfig) (world : ServiceWorld) (answers : WorkAnswers)
    (frame : DecodedFrame) (done : Services × Progress) : Prop :=
  world.point = .handling frame ∧ done = handleRequest sha256 config world.services frame answers ∨
    ∃ progress, world.point = .continuing frame progress ∧
      done = continueRequest config world.services frame progress answers

variable (sha256 config world) in
/-- What an event does to the transfer, to the frames that the executor holds and to the answer. -/
inductive ServiceMove : ServiceEvent → ServiceWorld → Prop
  | part {after : ServiceWorld} {answers : WorkAnswers} {frame : DecodedFrame} {done : Services × Progress}
      (part : PartOf sha256 config world answers frame done) (services : after.services = done.1)
      (point : after.point = (afterPart world frame done).point) (queued : after.queued = world.queued)
      (completion : after.completion = (afterPart world frame done).completion) : ServiceMove (.work answers) after
  | aside {event : ServiceEvent} {after : ServiceWorld} (spares : Spares world.services after.services)
      (idle : event.works = false)
      (queued : after.queued = world.queued ∨ ∃ frame ensured, event = .dispatch frame ensured ∧
        dispatchPath config.otaEnabled false frame.header = .reserve ∧ after.queued = some frame)
      (point : after.point = world.point ∨ after.point.free ∨
        ∃ frame, after.point = .handling frame ∧ world.queued = some frame)
      (completion : after.completion = world.completion ∨ after.completion = none) : ServiceMove event after

theorem dispatchStep_move {frame : DecodedFrame} {ensured : Bool}
    (step : dispatchStep config world frame ensured = some after) :
    ServiceMove sha256 config world (.dispatch frame ensured) after := by
  unfold dispatchStep at step
  split at step
  next => contradiction
  split at step
  next path =>
    have free : dispatchPath config.otaEnabled false frame.header = .reserve := by
      cases busy : decide (world.stage ≠ .idle) with
      | false => rwa [busy] at path
      | true =>
        rw [busy] at path
        unfold dispatchPath at path
        dsimp only at path
        split_ifs at path
        contradiction
    split at step <;> cases step
    · exact .aside (.same rfl rfl) rfl (.inr ⟨frame, _, rfl, free, rfl⟩) (.inl rfl) (.inr rfl)
    · exact .aside (.same rfl rfl) rfl (.inl rfl) (.inl rfl) (.inl rfl)
  all_goals
    cases step
    exact .aside (.same rfl rfl) rfl (.inl rfl) (.inl rfl) (.inl rfl)

theorem settleStep_move {finishing : Nat → Option EspErr} (step : settleStep world finishing = some after) :
    ServiceMove sha256 config world (.settle finishing) after := by
  unfold settleStep at step
  split at step
  next =>
    dsimp only at step
    split at step
    next =>
      cases step
      exact .aside (.same rfl rfl) rfl (.inl rfl) (.inr (.inl trivial)) (.inl rfl)
    have spares := settleServices_spares world.services finishing
    generalize settleServices world.services finishing = settled at step spares
    cases step
    refine .aside spares rfl (.inl rfl) (.inr (.inl trivial)) ?_
    dsimp only
    split
    next => exact .inr rfl
    next => exact .inl rfl
  next => contradiction

theorem sessionEndStep_move {finishing : Nat → Option EspErr} :
    ServiceMove sha256 config world (.sessionEnd finishing) (sessionEndStep world finishing) := by
  unfold sessionEndStep
  split
  next => exact .aside (sessionEndNow_spares world.services finishing) rfl (.inl rfl) (.inl rfl) (.inl rfl)
  next => exact .aside (.same rfl rfl) rfl (.inl rfl) (.inl rfl) (.inl rfl)

theorem serviceStep_move {event : ServiceEvent} (step : serviceStep sha256 config world event = some after) :
    ServiceMove sha256 config world event after := by
  cases event with
  | work answers =>
    replace step : workStep sha256 config world answers = some after := step
    unfold workStep at step
    dsimp only at step
    split at step
    next frame here =>
      cases step
      exact .part (.inl ⟨here, rfl⟩) (afterPart_services ..) rfl (afterPart_queued ..) rfl
    next frame progress here =>
      cases step
      exact .part (.inr ⟨progress, here, rfl⟩) (afterPart_services ..) rfl (afterPart_queued ..) rfl
    next => contradiction
  | dispatch frame ensured => exact dispatchStep_move step
  | settle finishing => exact settleStep_move step
  | answerBusy =>
    obtain ⟨frame, _, rfl⟩ := Option.map_eq_some_iff.mp step
    have spares : Spares world.services (busyAnswer config world frame).1 :=
      .same (busyAnswer_shape world frame).1 (busyAnswer_calls world frame)
    exact .aside spares rfl (.inl rfl) (.inl rfl) (.inl rfl)
  | claim =>
    rw [serviceStep] at step
    split at step
    next frame _ _ queued =>
      cases step
      refine .aside (.same rfl rfl) rfl (.inl rfl) (.inr ?_) (.inl rfl)
      dsimp only
      split
      next => exact .inl trivial
      next => exact .inr ⟨frame, rfl, queued⟩
    next => contradiction
  | appCreate kind userCtx =>
    rw [serviceStep] at step
    split at step <;> cases step <;> exact .aside (.same rfl rfl) rfl (.inl rfl) (.inl rfl) (.inl rfl)
  | drain =>
    rw [serviceStep, Option.ite_none_right_eq_some] at step
    cases step.2
    exact .aside (.same rfl rfl) rfl (.inl rfl) (.inl rfl) (.inr rfl)
  | sessionEnd finishing =>
    rw [serviceStep, Option.ite_none_right_eq_some] at step
    cases step.2
    exact sessionEndStep_move
  | appUpdate | appFinish | reap =>
    rw [serviceStep, Option.ite_none_right_eq_some] at step
    cases step.2
    exact .aside (.same rfl rfl) rfl (.inl rfl) (.inl rfl) (.inl rfl)

/-- What is said of every frame of the executor: the one in its slot and the one in hand. -/
structure HeldFrames (holds : DecodedFrame → Prop) (world : ServiceWorld) : Prop where
  queued : ∀ frame, world.queued = some frame → holds frame
  handling : ∀ frame, world.point = .handling frame → holds frame

theorem HeldFrames.imp {holds later : DecodedFrame → Prop} (held : HeldFrames holds world)
    (all : ∀ frame, holds frame → later frame) : HeldFrames later world :=
  ⟨fun frame slot => all frame (held.queued frame slot), fun frame here => all frame (held.handling frame here)⟩

theorem HeldFrames.move {holds : DecodedFrame → Prop} {event : ServiceEvent} (held : HeldFrames holds world)
    (admitted : ∀ frame ensured, event = .dispatch frame ensured →
      dispatchPath config.otaEnabled false frame.header = .reserve → holds frame)
    (move : ServiceMove sha256 config world event after) : HeldFrames holds after := by
  cases move with
  | @part _ _ frame done part services point queued completion =>
    refine ⟨fun other => ?_, fun other handling => ?_⟩
    · rw [queued]
      exact held.queued other
    · obtain ⟨_, progress⟩ := done
      rw [point] at handling
      cases progress <;> contradiction
  | aside spares idle queued point completion =>
    refine ⟨fun frame slot => ?_, fun frame handling => ?_⟩
    · rcases queued with same | ⟨taken, ensured, is, path, new⟩
      · exact held.queued frame (same.symm.trans slot)
      · rw [new] at slot
        cases slot
        exact admitted frame ensured is path
    · rcases point with same | free | ⟨taken, is, slot⟩
      · exact held.handling frame (same.symm.trans handling)
      · rw [handling] at free
        exact free.elim
      · cases handling.symm.trans is
        exact held.queued frame slot

/-- The record tells the state of the transfer, and every selection so far was of a complete image. -/
structure OtaSound (sha256 : List UInt8 → List UInt8) (recorded : ServiceWorld × OtaRecord) : Prop where
  sized : HeldFrames Sized recorded.1
  accords : recorded.1.services.ota.active = true → recorded.1.services.ota.Accords recorded.2
  complete : ∀ selection ∈ recorded.2.selections, selection.Complete sha256

theorem noteOta_aside {record : OtaRecord} {event : ServiceEvent} (idle : event.works = false) :
    noteOta record world event after = record := by
  cases event <;> first | rfl | contradiction

theorem OtaSound.move {record : OtaRecord} {event : ServiceEvent} (sound : OtaSound sha256 (world, record))
    (fits : FitsFlash event) (move : ServiceMove sha256 config world event after) :
    OtaSound sha256 (after, noteOta record world event after) := by
  have sized : HeldFrames Sized after := by
    refine sound.sized.move (fun frame ensured is _ => ?_) move
    rw [is] at fits
    exact fits
  have spared : Spares world.services after.services → OtaSound sha256 (after, record) := by
    intro spares
    refine ⟨sized, fun active => ?_, sound.complete⟩
    rcases spares.ota with same | gone
    · rw [same] at active ⊢
      exact sound.accords active
    · exact absurd (gone.symm.trans active) Bool.false_ne_true
  cases move with
  | aside spares idle =>
    rw [noteOta_aside idle]
    exact spared spares
  | @part _ answers frame done part services =>
    rcases part with ⟨here, rfl⟩ | ⟨progress, here, rfl⟩
    · have moved := @handleRequest_move sha256 config world.services frame answers
      have kept := moved.sound (sound.sized.handling frame here) fits sound.accords sound.complete
      rw [← services] at kept
      unfold noteOta
      rw [here]
      exact ⟨sized, kept.1, kept.2⟩
    · have spares := spared (services ▸ continueRequest_spares world.services frame progress answers)
      unfold noteOta
      rw [here]
      exact spares

end steps

section runs
variable {sha256 : List UInt8 → List UInt8} {config : ServiceConfig}

theorem otaSound_invariant : Invariant ((otaSystem sha256 config).guarded fun _ event => FitsFlash event)
    (OtaSound sha256) where
  start := by
    rintro ⟨world, record⟩ ⟨⟨backendRegistered, started⟩, empty⟩
    cases started
    cases empty
    exact ⟨⟨nofun, nofun⟩, nofun, nofun⟩
  step := by
    rintro ⟨world, record⟩ event ⟨after, later⟩ sound ⟨fits, step, noted⟩
    have is : later = noteOta record world event after := noted
    rw [is]
    exact sound.move fits (serviceStep_move step)

/-- In no run is the boot partition selected for an image that is not whole, that differs from what BEGIN
announced, or whose transfer was cancelled. -/
theorem boot_selection_complete {recorded : ServiceWorld × OtaRecord}
    (reached : Reachable ((otaSystem sha256 config).guarded fun _ event => FitsFlash event) recorded) :
    ∀ selection ∈ recorded.2.selections, selection.Complete sha256 :=
  (otaSound_invariant.reachable reached).complete

end runs

theorem fitsFlash_iff (answers : WorkAnswers) :
    answers.ota.target.all (·.size.toNat + 0x10000 ≤ 2 ^ 32) ↔ FitsFlash (.work answers) := by
  simp [FitsFlash, Option.all_eq_true]

instance : DecidablePred FitsFlash
  | .dispatch frame _ => instDecidableEqNat frame.payload.length frame.header.payloadSize.toNat
  | .work answers => decidable_of_iff _ (fitsFlash_iff answers)
  | .appCreate .. | .appUpdate .. | .appFinish .. | .answerBusy | .claim | .settle _ | .drain | .reap
  | .sessionEnd _ => isTrue trivial

/-- A transfer of one byte selects its image. -/
theorem one_byte_selected : ∃ recorded,
    Reachable ((otaSystem digestOfSeven oneJobConfig).guarded fun _ event => FitsFlash event) recorded ∧
      ∃ selection ∈ recorded.2.selections, selection.written = [7] ∧ selection.Complete digestOfSeven := by
  obtain ⟨recorded, run, checked⟩ : ∃ recorded,
      Run ((otaSystem digestOfSeven oneJobConfig).guarded fun _ event => FitsFlash event)
        (.initial oneJobConfig true, .empty)
        (otaBeginRequest ++ otaRequest OtaType.data (irisPutLe32 0 ++ [7]) 1 ++ otaEndRequest) recorded ∧
      recorded.2.selections.any (fun selection => selection.written == [7]) = true := by
    unfold otaSystem serviceSystem
    rw [System.recorded_ofPartial]
    exact Run.of_guarded_check (by decide +kernel)
  have start : (otaSystem digestOfSeven oneJobConfig).start (.initial oneJobConfig true, .empty) := ⟨⟨true, rfl⟩, rfl⟩
  have reached : Reachable ((otaSystem digestOfSeven oneJobConfig).guarded fun _ event => FitsFlash event) recorded :=
    ⟨_, _, start, run⟩
  obtain ⟨selection, member, written⟩ := List.any_eq_true.mp checked
  exact ⟨recorded, reached, selection, member, beq_iff_eq.mp written, boot_selection_complete reached selection member⟩

end EspIris.Device.Jobs
