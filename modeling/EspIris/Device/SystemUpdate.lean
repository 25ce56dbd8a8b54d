import EspIris.Device.OtaTransfer

/-! The system update, `esp_iris_system_update.c`. A handler that publishes a status before it is
done is cut there, and `handle_commit` also at its last look at the cancel flags. -/

namespace EspIris.Device.Jobs
open Codec.Device Bytes

structure BackendAnswers where
  hashReady : Bool
  hashUpdated : Bool
  hashFinished : Bool
  prepare : EspErr
  beginComponent : EspErr
  writeComponent : EspErr
  endComponent : EspErr
  commit : EspErr

def systemBeginFixedSize : Nat := 56
def systemComponentBeginSize : Nat := 60
def systemDataHeaderSize : Nat := 24
def systemOperationPayloadSize : Nat := 16
def systemJobKind : UInt16 := 0x101

/-- `job_id`. -/
def updateJobId (services : Services) : UInt32 := (infoThrough services.table services.update.job).id

def publishStatus (services : Services) : Services :=
  { services with
    update := { services.update with
      publishedStatus := services.update.status
      publishedJobId := updateJobId services } }

def setStatus (services : Services) (status : UpdateStatus) : Services :=
  { services with update := { services.update with status := status } }

def logCall (services : Services) (call : FlashCall) : Services :=
  { services with calls := services.calls ++ [call] }

def finishUpdateJob (services : Services) (result : EspErr) : Services :=
  { services with table := finishThrough services.table services.update.job result }

def updateUpdateJob (services : Services) (progressPermille : UInt16) : Services :=
  { services with table := updateThrough services.table services.update.job progressPermille }

/-- The phases of `update_in_progress`. -/
def UpdatePhase.inProgress (phase : UpdatePhase) : Bool :=
  phase = .prepared || phase = .receiving || phase = .componentVerified || phase = .committing

def UpdatePhase.code : UpdatePhase → UInt8
  | .idle => 0
  | .prepared => 1
  | .receiving => 2
  | .componentVerified => 3
  | .committing => 4
  | .committed => 5
  | .cancelled => 6
  | .failed => 7

def updateInProgress (services : Services) : Bool := services.update.status.phase.inProgress

/-- `operation_matches` on the head of a payload. -/
def operationMatches (services : Services) (payload : List UInt8) : Bool :=
  payload.take 16 = services.update.status.operationId

def backendAbort (services : Services) (reason : EspErr) (phase : UpdatePhase) : Services :=
  if updateInProgress services then
    let called := logCall services (.abort services.update.status.operationId reason)
    publishStatus { called with
      update := { called.update with
        hashActive := false
        component := .zero
        status := { called.update.status with
          phase := phase
          result := reason
          activeComponentId := 0
          componentReceived := 0
          componentSize := 0 } } }
  else services

/-- `job_cancel`, the cancel callback of the job of a system update. -/
def jobCancel (services : Services) : Services :=
  finishUpdateJob (backendAbort services EspErr.invalidState .cancelled) EspErr.invalidState

def transferProgress (status : UpdateStatus) : UInt16 :=
  if status.componentCount = 0 then 0
  else
    let units := status.completedComponents.toNat * 850 +
      if status.componentSize > 0 then status.componentReceived.toNat * 850 / status.componentSize.toNat else 0
    UInt16.ofNat (min (50 + units / status.componentCount.toNat) 900)

def completedId (services : Services) (id : UInt8) : Bool := id ∈ services.update.completedIds

/-- `encode_status`: the published status, whatever the worker is doing. -/
def encodeStatus (services : Services) : List UInt8 :=
  let status := services.update.publishedStatus
  status.operationId ++ irisPutLe32 services.update.publishedJobId ++
    [status.phase.code, status.componentCount, status.completedComponents, status.activeComponentId] ++
    irisPutLe32 status.componentReceived ++ irisPutLe32 status.componentSize ++ irisPutLe32 status.result

def handleStatus (services : Services) (frame : DecodedFrame) : Reply :=
  if services.update.backendRegistered = false then refuse frame.header EspErr.notSupported
  else if frame.header.payloadSize ≠ 0 then refuse frame.header EspErr.invalidSize
  else
    respond frame.header SystemUpdateType.statusResponse 0 services.update.publishedJobId (encodeStatus services)

def beginResponse (config : ServiceConfig) (services : Services) (frame : DecodedFrame) : Reply :=
  respond frame.header SystemUpdateType.beginResponse Flag.streamBegin (updateJobId services)
    (services.update.status.operationId ++ irisPutLe32 (updateJobId services) ++
      irisPutLe16 config.updateChunkBytes ++ [services.update.status.componentCount, services.update.flags])

section digest
variable (sha256 : List UInt8 → List UInt8)

def beginManifest (payload : List UInt8) : List UInt8 :=
  (payload.drop systemBeginFixedSize).take (irisGetLe16 payload 16).toNat

/-- The checks of `handle_begin` on the frame alone. -/
def beginRefusal (config : ServiceConfig) (services : Services) (frame : DecodedFrame) (answers : BackendAnswers) :
    EspErr :=
  let payload := frame.payload
  let manifestSize := irisGetLe16 payload 16
  let signatureSize := irisGetLe16 payload 18
  let componentCount := byteAt payload 20
  if services.update.backendRegistered = false then EspErr.notSupported
  else if frame.header.payloadSize.toNat < systemBeginFixedSize then EspErr.invalidSize
  else if payload.take 16 = List.replicate 16 0 ∨ irisGetLe16 payload 22 ≠ 0 ∨ manifestSize = 0 ∨
      manifestSize > config.manifestBytes ∨ signatureSize > config.signatureBytes ∨ componentCount = 0 ∨
      componentCount > config.maxComponents ∨
      frame.header.payloadSize.toNat ≠ systemBeginFixedSize + manifestSize.toNat + signatureSize.toNat then
    EspErr.invalidSize
  else if answers.hashReady = false then EspErr.fail
  else if sha256 (beginManifest payload) ≠ (payload.drop 24).take 32 then EspErr.invalidCrc
  else EspErr.ok

def duplicateBegin (services : Services) (payload : List UInt8) : Bool :=
  let status := services.update.status
  operationMatches services payload && status.phase = .prepared && status.completedComponents = 0 &&
    status.activeComponentId = 0 && status.componentCount = byteAt payload 20 &&
    services.update.flags = byteAt payload 21 && sha256 (beginManifest payload) = services.update.manifestSha256

/-- `handle_begin` up to the job: the backend has prepared, and the new status is published. -/
def handleBegin (config : ServiceConfig) (services : Services) (frame : DecodedFrame) (answers : BackendAnswers) :
    Services × Progress :=
  let payload := frame.payload
  let refusal := beginRefusal sha256 config services frame answers
  if refusal ≠ EspErr.ok then (services, .answered (refuse frame.header refusal))
  else if updateInProgress services then
    if duplicateBegin sha256 services payload then (services, .answered (beginResponse config services frame))
    else (services, .answered (refuse frame.header EspErr.invalidState))
  else
    let prepared := logCall services (.prepare (payload.take 16) answers.prepare)
    if answers.prepare ≠ EspErr.ok then
      (logCall prepared (.abort (payload.take 16) answers.prepare),
        .answered (refuse frame.header answers.prepare))
    else
      let opened := publishStatus { prepared with
        update := { prepared.update with
          completedIds := []
          manifestSha256 := sha256 (beginManifest payload)
          flags := byteAt payload 21
          status := { UpdateStatus.zero with
            operationId := payload.take 16
            phase := .prepared
            componentCount := byteAt payload 20 } } }
      ({ opened with update := { opened.update with job := none } }, .updatePrepared)

/-- The rest of `handle_begin`. -/
def beginJob (config : ServiceConfig) (services : Services) (frame : DecodedFrame) : Services × Reply :=
  match jobCreate services.table systemJobKind (some .systemJobCancel) with
  | (table, .error code) =>
    (backendAbort { services with table := table } code .failed, refuse frame.header code)
  | (table, .ok handle) =>
    let created := { services with table := table, update := { services.update with job := some handle } }
    let started := publishStatus (updateUpdateJob created 50)
    (started, beginResponse config started frame)

def readComponent (payload : List UInt8) : Component where
  id := byteAt payload 16
  kind := byteAt payload 17
  flags := irisGetLe16 payload 18
  targetOffset := irisGetLe32 payload 20
  size := irisGetLe32 payload 24
  sha256 := (payload.drop 28).take 32

def failUpdate (services : Services) (header : WireHeader) (err : EspErr) : Services × Reply :=
  (finishUpdateJob (backendAbort services err .failed) err, refuse header err)

def handleComponentBegin (config : ServiceConfig) (services : Services) (frame : DecodedFrame)
    (answers : BackendAnswers) : Services × Reply :=
  let status := services.update.status
  let component := readComponent frame.payload
  if frame.header.payloadSize.toNat ≠ systemComponentBeginSize ∨ operationMatches services frame.payload = false ∨
      status.phase ≠ .prepared ∨ status.activeComponentId ≠ 0 then
    (services, refuse frame.header EspErr.invalidState)
  else if component.id = 0 ∨ component.size = 0 ∨ component.kind < 1 ∨ component.kind > 5 ∨
      completedId services component.id then
    (services, refuse frame.header EspErr.invalidArg)
  else
    let called := logCall services (.beginComponent component answers.beginComponent)
    let err := if answers.beginComponent ≠ EspErr.ok then answers.beginComponent
      else if answers.hashReady then EspErr.ok else EspErr.fail
    if err ≠ EspErr.ok then failUpdate called frame.header err
    else
      let opened := publishStatus { called with
        update := { called.update with
          component := component
          hashed := []
          hashActive := true
          status := { status with
            phase := .receiving
            activeComponentId := component.id
            componentReceived := 0
            componentSize := component.size } } }
      (opened, respond frame.header SystemUpdateType.componentBeginResponse 0 (updateJobId opened)
        (status.operationId ++ [component.id, component.kind] ++ irisPutLe16 config.updateChunkBytes ++
          irisPutLe32 component.size))

def dataSize (frame : DecodedFrame) : Nat := frame.header.payloadSize.toNat - systemDataHeaderSize

/-- What `handle_data` refuses a frame for. -/
def dataMisplaced (config : ServiceConfig) (services : Services) (frame : DecodedFrame) : Bool :=
  let status := services.update.status
  let payload := frame.payload
  frame.header.payloadSize.toNat ≤ systemDataHeaderSize || dataSize frame > config.updateChunkBytes.toNat ||
    status.phase ≠ .receiving || !operationMatches services payload ||
    byteAt payload 16 ≠ services.update.component.id || byteAt payload 17 ≠ 0 || irisGetLe16 payload 18 ≠ 0 ||
    irisGetLe32 payload 20 ≠ status.componentReceived ||
    dataSize frame > (services.update.component.size - status.componentReceived).toNat

def handleData (config : ServiceConfig) (services : Services) (frame : DecodedFrame) (answers : BackendAnswers) :
    Services × Reply :=
  let status := services.update.status
  let component := services.update.component
  if dataMisplaced config services frame then (services, refuse frame.header EspErr.invalidSize)
  else
    let data := (frame.payload.drop systemDataHeaderSize).take (dataSize frame)
    let called := if answers.hashUpdated then
        logCall services (.writeComponent component status.componentReceived data answers.writeComponent)
      else services
    let err := if answers.hashUpdated then answers.writeComponent else EspErr.fail
    if err ≠ EspErr.ok then failUpdate called frame.header err
    else
      let received := status.componentReceived + UInt32.ofNat (dataSize frame)
      let written := publishStatus { called with
        update := { called.update with
          hashed := called.update.hashed ++ data
          status := { status with componentReceived := received } } }
      let progress := transferProgress written.update.status
      let updated := updateUpdateJob written progress
      (updated, respond frame.header SystemUpdateType.dataResponse 0 (updateJobId updated)
        (status.operationId ++ [component.id, 0] ++ irisPutLe16 progress ++ irisPutLe32 received))

def componentEndResult (services : Services) (answers : BackendAnswers) : EspErr :=
  if answers.hashFinished = false then EspErr.fail
  else if sha256 services.update.hashed ≠ services.update.component.sha256 then EspErr.invalidCrc
  else answers.endComponent

def handleComponentEnd (services : Services) (frame : DecodedFrame) (answers : BackendAnswers) : Services × Reply :=
  let status := services.update.status
  let component := services.update.component
  let payload := frame.payload
  if frame.header.payloadSize.toNat ≠ 20 ∨ operationMatches services payload = false ∨
      byteAt payload 16 ≠ component.id ∨ byteAt payload 17 ≠ 0 ∨ irisGetLe16 payload 18 ≠ 0 ∨
      status.phase ≠ .receiving ∨ status.componentReceived ≠ component.size then
    (services, refuse frame.header EspErr.invalidState)
  else
    let closed := { services with update := { services.update with hashActive := false } }
    let verified := answers.hashFinished ∧ sha256 services.update.hashed = component.sha256
    let called := if verified then logCall closed (.endComponent component answers.endComponent) else closed
    let err := componentEndResult sha256 services answers
    if err ≠ EspErr.ok then failUpdate called frame.header err
    else
      let completed := status.completedComponents + 1
      let ended := publishStatus { called with
        update := { called.update with
          completedIds := called.update.completedIds ++ [component.id]
          component := .zero
          status := { status with
            completedComponents := completed
            phase := if completed < status.componentCount then .prepared else .componentVerified
            activeComponentId := 0
            componentReceived := 0
            componentSize := 0 } } }
      let updated := updateUpdateJob ended (transferProgress ended.update.status)
      (updated, respond frame.header SystemUpdateType.componentEndResponse 0 (updateJobId updated)
        (status.operationId ++ [component.id, completed, 0, 0] ++ irisPutLe32 EspErr.ok))

/-- `handle_commit` up to the published phase. -/
def handleCommit (services : Services) (frame : DecodedFrame) : Services × Progress :=
  let status := services.update.status
  if frame.header.payloadSize.toNat ≠ systemOperationPayloadSize ∨ operationMatches services frame.payload = false ∨
      status.phase ≠ .componentVerified ∨ status.completedComponents ≠ status.componentCount then
    (services, .answered (refuse frame.header EspErr.invalidState))
  else
    let entered := publishStatus (setStatus services { status with phase := .committing })
    (updateUpdateJob entered 950, .commitEntered)

def commitDecide (services : Services) (answers : BackendAnswers) : Services × EspErr :=
  let status := services.update.status
  let cancelled := services.updateCancel || services.update.job.any (jobCancelRequested services.table)
  let called := if cancelled then services else logCall services (.commit status.operationId answers.commit)
  let err := if cancelled then EspErr.invalidState else answers.commit
  let decided := publishStatus (setStatus called
    { status with result := err, phase := if err = EspErr.ok then .committed else .failed })
  (if err ≠ EspErr.ok then logCall decided (.abort status.operationId err) else decided, err)

/-- The rest of `handle_commit`. -/
def commitFinish (services : Services) (frame : DecodedFrame) (err : EspErr) : Services × Reply :=
  let finished := finishUpdateJob services err
  (finished, respond frame.header SystemUpdateType.commitResponse
    (Flag.streamEnd ||| if err = EspErr.ok then 0 else Flag.error) (updateJobId finished)
    (services.update.status.operationId ++ irisPutLe32 (updateJobId finished) ++ irisPutLe32 err))

def handleCancel (services : Services) (frame : DecodedFrame) : Services × Reply :=
  if frame.header.payloadSize.toNat ≠ systemOperationPayloadSize ∨ operationMatches services frame.payload = false ∨
      updateInProgress services = false then
    (services, refuse frame.header EspErr.invalidState)
  else
    let finished := finishUpdateJob (backendAbort services EspErr.invalidState .cancelled) EspErr.invalidState
    (finished, respond frame.header SystemUpdateType.statusResponse Flag.streamEnd (updateJobId finished)
      (encodeStatus finished))

/-- `iris_system_update_request_cancel`. -/
def requestUpdateCancel (services : Services) (frame : DecodedFrame) : Services × EspErr :=
  let published := services.update.publishedStatus
  if frame.header.payloadSize.toNat ≠ systemOperationPayloadSize then (services, EspErr.invalidSize)
  else if frame.payload.take 16 ≠ published.operationId ∨ published.phase.inProgress = false then
    (services, EspErr.invalidState)
  else ({ services with updateCancel := true }, EspErr.ok)

/-- `iris_system_update_poll_cancel`. -/
def pollUpdateCancel (services : Services) : Services :=
  if services.updateCancel then jobCancel { services with updateCancel := false } else services

def updateSessionEnd (services : Services) : Services :=
  let aborted := backendAbort services EspErr.invalidState .cancelled
  { aborted with update := { aborted.update with job := none } }

/-- `iris_system_update_handle_frame`. -/
def handleUpdate (config : ServiceConfig) (services : Services) (frame : DecodedFrame) (answers : BackendAnswers) :
    Services × Progress :=
  let type := frame.header.type
  if type = SystemUpdateType.status then (services, .answered (handleStatus services frame))
  else if type = SystemUpdateType.begin then handleBegin sha256 config services frame answers
  else if type = SystemUpdateType.componentBegin then
    let done := handleComponentBegin config services frame answers
    (done.1, .answered done.2)
  else if type = SystemUpdateType.data then
    let done := handleData config services frame answers
    (done.1, .answered done.2)
  else if type = SystemUpdateType.componentEnd then
    let done := handleComponentEnd sha256 services frame answers
    (done.1, .answered done.2)
  else if type = SystemUpdateType.commit then handleCommit services frame
  else if type = SystemUpdateType.cancel then
    let done := handleCancel services frame
    (done.1, .answered done.2)
  else (services, .answered (refuse frame.header EspErr.notSupported))

end digest

end EspIris.Device.Jobs
