import EspIris.Device.Jobs
import EspIris.Device.Runtime

/-! The OTA transfer of `esp_iris_services.c`, and the record that it shares with the job table and
the system update. What the flash, the crypto library and the product answer comes with a call. -/

namespace EspIris.Device.Jobs
open Codec.Device Bytes

structure ServiceConfig where
  maxJobs : Nat
  otaEnabled : Bool
  otaChunkBytes : UInt16
  requireProjectNameMatch : Bool
  updateChunkBytes : UInt16
  manifestBytes : UInt16
  signatureBytes : UInt16
  maxComponents : UInt8

/-- What `handle_ota` reads of an `esp_partition_t`. -/
structure OtaTarget where
  label : List UInt8
  size : UInt32
  isApp : Bool
  isRunning : Bool
  deriving DecidableEq, Repr

/-- `iris_ota_t`; `hashed` is what the running digest took. -/
structure Ota where
  active : Bool
  partition : Option OtaTarget
  totalSize : UInt32
  received : UInt32
  expectedSha256 : List UInt8
  hashed : List UInt8
  hashActive : Bool
  projectName : List UInt8
  version : List UInt8
  job : Option JobHandle
  deriving DecidableEq, Repr

def Ota.zero : Ota where
  active := false
  partition := none
  totalSize := 0
  received := 0
  expectedSha256 := []
  hashed := []
  hashActive := false
  projectName := []
  version := []
  job := none

/-- `esp_iris_system_update_phase_t`. -/
inductive UpdatePhase
  | idle
  | prepared
  | receiving
  | componentVerified
  | committing
  | committed
  | cancelled
  | failed
  deriving DecidableEq, Repr

/-- `esp_iris_system_update_status_t`. -/
structure UpdateStatus where
  operationId : List UInt8
  phase : UpdatePhase
  componentCount : UInt8
  completedComponents : UInt8
  activeComponentId : UInt8
  componentReceived : UInt32
  componentSize : UInt32
  result : EspErr
  deriving DecidableEq, Repr

def UpdateStatus.zero : UpdateStatus where
  operationId := List.replicate 16 0
  phase := .idle
  componentCount := 0
  completedComponents := 0
  activeComponentId := 0
  componentReceived := 0
  componentSize := 0
  result := EspErr.ok

/-- `esp_iris_system_update_component_t`. -/
structure Component where
  id : UInt8
  kind : UInt8
  flags : UInt16
  targetOffset : UInt32
  size : UInt32
  sha256 : List UInt8
  deriving DecidableEq, Repr

def Component.zero : Component where
  id := 0
  kind := 0
  flags := 0
  targetOffset := 0
  size := 0
  sha256 := List.replicate 32 0

/-- `iris_system_update_state_t`; `completedIds` is the used part of the array. -/
structure SystemUpdate where
  backendRegistered : Bool
  status : UpdateStatus
  publishedStatus : UpdateStatus
  publishedJobId : UInt32
  component : Component
  manifestSha256 : List UInt8
  flags : UInt8
  completedIds : List UInt8
  hashed : List UInt8
  hashActive : Bool
  job : Option JobHandle
  deriving DecidableEq, Repr

def SystemUpdate.zero (backendRegistered : Bool) : SystemUpdate where
  backendRegistered := backendRegistered
  status := .zero
  publishedStatus := .zero
  publishedJobId := 0
  component := .zero
  manifestSha256 := []
  flags := 0
  completedIds := []
  hashed := []
  hashActive := false
  job := none

/-- The OTA writes that succeeded and the selection of an image, and the calls into the backend of
the system update with their results. -/
inductive FlashCall
  | otaWrite (data : List UInt8)
  | otaSelect
  | prepare (operationId : List UInt8) (result : EspErr)
  | beginComponent (component : Component) (result : EspErr)
  | writeComponent (component : Component) (offset : UInt32) (data : List UInt8) (result : EspErr)
  | endComponent (component : Component) (result : EspErr)
  | commit (operationId : List UInt8) (result : EspErr)
  | abort (operationId : List UInt8) (reason : EspErr)
  deriving DecidableEq, Repr

/-- The job table, the OTA transfer, `s_system_update` and the flags through which a cancel reaches
the worker: `s_cancel_requested` and two of `s_executor`. -/
structure Services where
  table : JobTable
  ota : Ota
  update : SystemUpdate
  updateCancel : Bool
  otaCancel : Bool
  abandoned : Bool
  calls : List FlashCall
  deriving DecidableEq, Repr

def Services.initial (config : ServiceConfig) (backendRegistered : Bool) : Services where
  table := .initial config.maxJobs
  ota := .zero
  update := .zero backendRegistered
  updateCancel := false
  otaCancel := false
  abandoned := false
  calls := []

def finishThrough (table : JobTable) (job : Option JobHandle) (result : EspErr) : JobTable :=
  match job with
  | none => table
  | some handle => (jobFinish table handle result).1

def updateThrough (table : JobTable) (job : Option JobHandle) (progressPermille : UInt16) : JobTable :=
  match job with
  | none => table
  | some handle => (jobUpdate table handle progressPermille).1

def infoThrough (table : JobTable) (job : Option JobHandle) : JobInfo :=
  (job.map (jobGetInfo table)).getD JobInfo.zero

def executorCancelled (services : Services) : Bool := services.abandoned || services.otaCancel

inductive Progress
  | answered (reply : Reply)
  | otaDecided (result : EspErr)
  | updatePrepared
  | commitEntered
  | commitDecided (result : EspErr)
  deriving DecidableEq, Repr

def respond (header : WireHeader) (type : UInt8) (flags : UInt16) (streamId : UInt32) (payload : List UInt8) : Reply where
  channel := header.channel
  type := type
  flags := Flag.response ||| flags
  requestId := header.requestId
  streamId := streamId
  payload := payload

/-- `iris_queue_error` for a request. -/
def refuse (header : WireHeader) (code : EspErr) : Reply :=
  errorReply header.requestId code header.channel header.type

structure OtaAnswers where
  target : Option OtaTarget
  runningKnown : Bool
  hashReady : Bool
  otaBegin : EspErr
  hashUpdated : Bool
  otaWrite : EspErr
  hashFinished : Bool
  otaEnd : EspErr
  description : Except EspErr (List UInt8 × List UInt8)
  runningProject : List UInt8
  prepareOta : EspErr
  crashLoopReset : EspErr
  setBoot : EspErr

def otaAbort (services : Services) (result : EspErr) : Services :=
  if services.ota.active then
    { services with
      table := finishThrough services.table services.ota.job result
      ota := .zero }
  else services

/-- The payload of OTA STATUS, which `executor_snapshot` also writes. -/
def otaStatusPayload (services : Services) : List UInt8 :=
  let info := infoThrough services.table services.ota.job
  let label := ((services.ota.partition.map OtaTarget.label).getD []).take 5
  irisPutLe32 info.id ++ irisPutLe32 services.ota.totalSize ++ irisPutLe32 services.ota.received ++
    irisPutLe16 info.progressPermille ++ [if services.ota.active then 1 else 0, UInt8.ofNat label.length] ++
    irisPutLe32 info.result ++ label

def otaStatus (services : Services) (frame : DecodedFrame) : Reply :=
  if frame.header.payloadSize ≠ 0 then refuse frame.header EspErr.invalidSize
  else
    respond frame.header OtaType.status 0 (infoThrough services.table services.ota.job).id (otaStatusPayload services)

def otaBeginFixedSize : Nat := 40

def cString (bytes : List UInt8) : List UInt8 := bytes.takeWhile fun byte => byte ≠ 0

/-- `iris_ota_t` as BEGIN fills it. -/
def otaOpened (frame : DecodedFrame) (target : OtaTarget) (handle : JobHandle) : Ota :=
  let projectLength := (byteAt frame.payload 36).toNat
  let versionLength := (byteAt frame.payload 37).toNat
  { Ota.zero with
    active := true
    partition := some target
    totalSize := irisGetLe32 frame.payload 0
    expectedSha256 := (frame.payload.drop 4).take 32
    hashActive := true
    projectName := cString ((frame.payload.drop 40).take projectLength)
    version := cString ((frame.payload.drop (40 + projectLength)).take versionLength)
    job := some handle }

def otaBeginRefusal (services : Services) (frame : DecodedFrame) (answers : OtaAnswers) : Except EspErr OtaTarget :=
  let projectLength := (byteAt frame.payload 36).toNat
  let versionLength := (byteAt frame.payload 37).toNat
  let totalSize := irisGetLe32 frame.payload 0
  match answers.target with
  | none => .error EspErr.notFound
  | some target =>
    if services.ota.active then .error EspErr.invalidState
    else if frame.header.payloadSize.toNat < otaBeginFixedSize then .error EspErr.invalidSize
    else if projectLength ≥ 33 ∨ versionLength ≥ 33 ∨
        frame.header.payloadSize.toNat ≠ otaBeginFixedSize + projectLength + versionLength then
      .error EspErr.invalidSize
    else if answers.runningKnown = false ∨ target.isRunning ∨ target.isApp = false ∨ totalSize = 0 ∨
        totalSize > target.size then .error EspErr.notFound
    else .ok target

/-- The `ESP_IRIS_OTA_BEGIN` branch of `handle_ota`. -/
def otaBegin (config : ServiceConfig) (services : Services) (frame : DecodedFrame) (answers : OtaAnswers) :
    Services × Reply :=
  match otaBeginRefusal services frame answers with
  | .error code => (services, refuse frame.header code)
  | .ok target =>
    match jobCreate services.table 0x100 (some .otaJobCancel) with
    | (table, .error code) => ({ services with table := table, ota := .zero }, refuse frame.header code)
    | (table, .ok handle) =>
      let err := if answers.hashReady then answers.otaBegin else EspErr.fail
      if err ≠ EspErr.ok then
        ({ services with table := (jobFinish table handle err).1, ota := .zero }, refuse frame.header err)
      else
        let info := jobGetInfo table handle
        let label := target.label.take 5
        ({ services with table := table, ota := otaOpened frame target handle },
          respond frame.header OtaType.beginResponse Flag.streamBegin info.id
            (irisPutLe32 info.id ++ irisPutLe32 (irisGetLe32 frame.payload 0) ++
              irisPutLe16 config.otaChunkBytes ++ [UInt8.ofNat label.length] ++ label))

/-- `header->payload_size - 4`. -/
def otaDataSize (frame : DecodedFrame) : UInt32 := frame.header.payloadSize - 4

def otaDataMisplaced (config : ServiceConfig) (ota : Ota) (frame : DecodedFrame) : Bool :=
  frame.header.payloadSize ≤ 4 || otaDataSize frame > config.otaChunkBytes.toUInt32 ||
    irisGetLe32 frame.payload 0 ≠ ota.received || ota.received + otaDataSize frame > ota.totalSize

def otaProgress (received totalSize : UInt32) : UInt16 :=
  UInt16.ofNat (received.toNat * 900 / totalSize.toNat)

/-- The `ESP_IRIS_OTA_DATA` branch of `handle_ota`. -/
def otaData (config : ServiceConfig) (services : Services) (frame : DecodedFrame) (answers : OtaAnswers) :
    Services × Reply :=
  if otaDataMisplaced config services.ota frame then (services, refuse frame.header EspErr.invalidSize)
  else
    let data := (frame.payload.drop 4).take (otaDataSize frame).toNat
    let err := if answers.hashUpdated then answers.otaWrite else EspErr.fail
    if err ≠ EspErr.ok then (otaAbort services err, refuse frame.header err)
    else
      let received := services.ota.received + otaDataSize frame
      let progress := otaProgress received services.ota.totalSize
      ({ services with
          ota := { services.ota with received := received, hashed := services.ota.hashed ++ data }
          table := updateThrough services.table services.ota.job progress
          calls := services.calls ++ [.otaWrite data] },
        respond frame.header OtaType.dataResponse 0 frame.header.streamId
          (irisPutLe32 received ++ irisPutLe16 progress ++ irisPutLe16 0))

section digest
variable (sha256 : List UInt8 → List UInt8)

def otaVerify (config : ServiceConfig) (ota : Ota) (answers : OtaAnswers) : EspErr :=
  if ota.received ≠ ota.totalSize then EspErr.invalidSize
  else if answers.hashFinished = false then EspErr.fail
  else if sha256 ota.hashed ≠ ota.expectedSha256 then EspErr.invalidCrc
  else if answers.otaEnd ≠ EspErr.ok then answers.otaEnd
  else
    match answers.description with
    | .error code => code
    | .ok (project, version) =>
      if ota.projectName ≠ [] ∧ cString project ≠ ota.projectName then EspErr.invalidVersion
      else if ota.version ≠ [] ∧ cString version ≠ ota.version then EspErr.invalidVersion
      else if config.requireProjectNameMatch ∧ cString project ≠ cString answers.runningProject then
        EspErr.invalidVersion
      else answers.prepareOta

def otaDecide (config : ServiceConfig) (services : Services) (answers : OtaAnswers) : EspErr :=
  let verified := otaVerify sha256 config services.ota answers
  if verified ≠ EspErr.ok then verified
  else if executorCancelled services then EspErr.invalidState
  else if answers.crashLoopReset ≠ EspErr.ok then answers.crashLoopReset
  else answers.setBoot

def otaFinish (services : Services) (frame : DecodedFrame) (result : EspErr) : Services × Reply :=
  let table := finishThrough services.table services.ota.job result
  let jobId := (infoThrough table services.ota.job).id
  ({ services with table := table, ota := .zero },
    respond frame.header OtaType.finishResponse
      (Flag.streamEnd ||| if result = EspErr.ok then 0 else Flag.error) jobId
      (irisPutLe32 jobId ++ irisPutLe32 result))

/-- `ota->job->info.cancel_requested = true`, through the handle as it stands. -/
def markThrough (table : JobTable) (job : Option JobHandle) : JobTable :=
  match job with
  | none => table
  | some handle =>
    match table.job handle.slot with
    | none => table
    | some held =>
      table.write handle.slot { held with info := { held.info with cancelRequested := true } }
        [.acted handle.serial held.serial]

/-- The `ESP_IRIS_OTA_CANCEL` branch of `handle_ota`. -/
def otaCancelNow (services : Services) (frame : DecodedFrame) : Services × Reply :=
  (otaAbort { services with table := markThrough services.table services.ota.job } EspErr.invalidState,
    respond frame.header OtaType.status Flag.streamEnd frame.header.streamId [])

def handleOta (config : ServiceConfig) (services : Services) (frame : DecodedFrame) (answers : OtaAnswers) :
    Services × Progress :=
  let type := frame.header.type
  if type = OtaType.status then (services, .answered (otaStatus services frame))
  else if type = OtaType.begin then
    let done := otaBegin config services frame answers
    (done.1, .answered done.2)
  else if services.ota.active = false then (services, .answered (refuse frame.header EspErr.invalidState))
  else if type = OtaType.cancel then
    let done := otaCancelNow services frame
    (done.1, .answered done.2)
  else if type = OtaType.data then
    let done := otaData config services frame answers
    (done.1, .answered done.2)
  else if type = OtaType.finish then
    let result := otaDecide sha256 config services answers
    ({ services with
        ota := { services.ota with hashActive := false }
        calls := if result = EspErr.ok then services.calls ++ [.otaSelect] else services.calls }, .otaDecided result)
  else (services, .answered (refuse frame.header EspErr.notSupported))

end digest

end EspIris.Device.Jobs
