import EspIris.Device.SessionEnd
import EspIris.Lib.Bracket

/-! The calls of the crypto library and of `esp_ota_ops` that the handlers make, which the services
themselves keep no record of. Each list follows its handler branch by branch. -/

namespace EspIris.Device.Jobs
open Codec.Device Bytes Machine

/-- The two records that hold a `psa_hash_operation_t`. -/
inductive HashRecord
  | ota
  | update
  deriving DecidableEq, Repr

inductive HashCall
  | setup (ready : Bool)
  | update
  | finish (finished : Bool)
  | abort
  deriving DecidableEq, Repr

inductive HandleCall
  | hash (record : HashRecord) (call : HashCall)
  | otaBegin (result : EspErr)
  | otaWrite
  | otaEnd
  | otaAbort
  deriving DecidableEq, Repr

def HashCall.use : HashCall → Bracket.Use
  | .setup ready => if ready then .opens else .attempts
  | .update => .uses
  | .finish finished => if finished then .closes else .uses
  | .abort => .closes

def hashUse (record : HashRecord) : HandleCall → Option Bracket.Use
  | .hash other call => if other = record then some call.use else none
  | _ => none

/-- What a call does to the `esp_ota_handle_t`. -/
def otaUse : HandleCall → Option Bracket.Use
  | .hash _ _ => none
  | .otaBegin result => some (if result = EspErr.ok then .opens else .attempts)
  | .otaWrite => some .uses
  | .otaEnd => some .closes
  | .otaAbort => some .closes

/-- `psa_hash_abort` where `hash_active` says so. -/
def otaHashAbort (services : Services) : List HandleCall :=
  if services.ota.hashActive then [.hash .ota .abort] else []

def otaAbortCalls (services : Services) : List HandleCall :=
  if services.ota.active then [.otaAbort] ++ otaHashAbort services else []

def otaBeginCalls (services : Services) (frame : DecodedFrame) (answers : OtaAnswers) : List HandleCall :=
  match otaBeginRefusal services frame answers with
  | .error _ => []
  | .ok _ =>
    match (jobCreate services.table 0x100 (some .otaJobCancel)).2 with
    | .error _ => []
    | .ok _ =>
      if answers.hashReady then
        [.hash .ota (.setup true), .otaBegin answers.otaBegin] ++
          if answers.otaBegin ≠ EspErr.ok then [.hash .ota .abort] else []
      else [.hash .ota (.setup false)]

def otaDataCalls (config : ServiceConfig) (services : Services) (frame : DecodedFrame) (answers : OtaAnswers) :
    List HandleCall :=
  if otaDataMisplaced config services.ota frame then []
  else
    let err := if answers.hashUpdated then answers.otaWrite else EspErr.fail
    [.hash .ota .update] ++ (if answers.hashUpdated then [.otaWrite] else []) ++
      if err ≠ EspErr.ok then otaAbortCalls services else []

def otaEndCalls (sha256 : List UInt8 → List UInt8) (ota : Ota) (answers : OtaAnswers) : List HandleCall :=
  if ota.received ≠ ota.totalSize then [.otaAbort]
  else if answers.hashFinished = false then [.hash .ota (.finish false), .otaAbort]
  else if sha256 ota.hashed ≠ ota.expectedSha256 then [.hash .ota (.finish true), .otaAbort]
  else [.hash .ota (.finish true), .otaEnd]

def handleOtaCalls (sha256 : List UInt8 → List UInt8) (config : ServiceConfig) (services : Services)
    (frame : DecodedFrame) (answers : OtaAnswers) : List HandleCall :=
  let type := frame.header.type
  if type = OtaType.status then []
  else if type = OtaType.begin then otaBeginCalls services frame answers
  else if services.ota.active = false then []
  else if type = OtaType.cancel then otaAbortCalls services
  else if type = OtaType.data then otaDataCalls config services frame answers
  else if type = OtaType.finish then otaEndCalls sha256 services.ota answers
  else []

/-- `backend_abort`, whose first call is `hash_abort`. -/
def backendAbortCalls (services : Services) : List HandleCall :=
  if updateInProgress services ∧ services.update.hashActive then [.hash .update .abort] else []

def componentBeginCalls (services : Services) (frame : DecodedFrame) (answers : BackendAnswers) : List HandleCall :=
  let status := services.update.status
  let component := readComponent frame.payload
  if frame.header.payloadSize.toNat ≠ systemComponentBeginSize ∨ operationMatches services frame.payload = false ∨
      status.phase ≠ .prepared ∨ status.activeComponentId ≠ 0 then []
  else if component.id = 0 ∨ component.size = 0 ∨ component.kind < 1 ∨ component.kind > 5 ∨
      completedId services component.id then []
  else if answers.beginComponent ≠ EspErr.ok then backendAbortCalls services
  else [.hash .update (.setup answers.hashReady)]

def dataCalls (config : ServiceConfig) (services : Services) (frame : DecodedFrame) (answers : BackendAnswers) :
    List HandleCall :=
  if dataMisplaced config services frame then []
  else
    let err := if answers.hashUpdated then answers.writeComponent else EspErr.fail
    [.hash .update .update] ++ if err ≠ EspErr.ok then backendAbortCalls services else []

def componentEndCalls (services : Services) (frame : DecodedFrame) (answers : BackendAnswers) : List HandleCall :=
  let status := services.update.status
  let component := services.update.component
  let payload := frame.payload
  if frame.header.payloadSize.toNat ≠ 20 ∨ operationMatches services payload = false ∨
      byteAt payload 16 ≠ component.id ∨ byteAt payload 17 ≠ 0 ∨ irisGetLe16 payload 18 ≠ 0 ∨
      status.phase ≠ .receiving ∨ status.componentReceived ≠ component.size then []
  else [.hash .update (.finish answers.hashFinished)]

def updateCancelCalls (services : Services) (frame : DecodedFrame) : List HandleCall :=
  if frame.header.payloadSize.toNat ≠ systemOperationPayloadSize ∨ operationMatches services frame.payload = false ∨
      updateInProgress services = false then []
  else backendAbortCalls services

def handleUpdateCalls (config : ServiceConfig) (services : Services) (frame : DecodedFrame) (answers : BackendAnswers) :
    List HandleCall :=
  let type := frame.header.type
  if type = SystemUpdateType.status then []
  else if type = SystemUpdateType.begin then []
  else if type = SystemUpdateType.componentBegin then componentBeginCalls services frame answers
  else if type = SystemUpdateType.data then dataCalls config services frame answers
  else if type = SystemUpdateType.componentEnd then componentEndCalls services frame answers
  else if type = SystemUpdateType.commit then []
  else if type = SystemUpdateType.cancel then updateCancelCalls services frame
  else []

def callbackCalls (services : Services) (job : Job) : List HandleCall :=
  match job.cancel with
  | some .systemJobCancel => backendAbortCalls services
  | _ => []

def jobCancelCalls (services : Services) (frame : DecodedFrame) : List HandleCall :=
  if frame.header.payloadSize ≠ 4 then []
  else
    match (findJob services.table (irisGetLe32 frame.payload 0)).bind services.table.job with
    | none => []
    | some job => if job.info.state = .running then callbackCalls services job else []

def requestCalls (sha256 : List UInt8 → List UInt8) (config : ServiceConfig) (services : Services)
    (frame : DecodedFrame) (answers : WorkAnswers) : List HandleCall :=
  if frame.header.channel = Channel.control then
    if frame.header.type = ControlType.request then [] else jobCancelCalls services frame
  else if frame.header.channel = Channel.systemUpdate then
    if frame.header.type = 0x0e then [] else handleUpdateCalls config services frame answers.backend
  else if config.otaEnabled then handleOtaCalls sha256 config services frame answers.ota
  else []

def continueCalls (services : Services) : Progress → List HandleCall
  | .otaDecided _ => otaHashAbort services
  | .updatePrepared =>
    match (jobCreate services.table systemJobKind (some .systemJobCancel)).2 with
    | .error _ => backendAbortCalls services
    | .ok _ => []
  | _ => []

def endSlotCalls (finishing : Nat → Option EspErr) (noted : Services × List HandleCall) (slot : Nat) :
    Services × List HandleCall :=
  (endSlot finishing noted.1 slot,
    noted.2 ++ match noted.1.table.job slot with
      | none => []
      | some job => if job.info.state = .running then callbackCalls noted.1 job else [])

def sessionEndCalls (services : Services) (finishing : Nat → Option EspErr) : List HandleCall :=
  let updated := updateSessionEnd services
  let aborted := otaAbort updated EspErr.invalidState
  backendAbortCalls services ++ otaAbortCalls updated ++
    ((List.range aborted.table.slots.length).foldl (endSlotCalls finishing) (aborted, [])).2

def serveCancelCalls (services : Services) : List HandleCall :=
  match (pendingSlot services.table).bind services.table.job with
  | none => []
  | some job => callbackCalls services job

def pollUpdateCancelCalls (services : Services) : List HandleCall :=
  if services.updateCancel then backendAbortCalls services else []

def settleCalls (services : Services) (finishing : Nat → Option EspErr) : List HandleCall :=
  serveCancelCalls (taken services) ++
    (if services.updateCancel then pollUpdateCancelCalls (serveCancel (taken services) finishing) else []) ++
    (if services.otaCancel then otaAbortCalls (polledServices services finishing) else []) ++
    (if services.abandoned then sessionEndCalls (abortedServices services finishing) finishing else [])

section machine
variable (sha256 : List UInt8 → List UInt8) (config : ServiceConfig)

def eventCalls (world : ServiceWorld) : ServiceEvent → List HandleCall
  | .work answers =>
    match world.point with
    | .handling frame => requestCalls sha256 config world.services frame answers
    | .continuing _ progress => continueCalls world.services progress
    | _ => []
  | .settle finishing =>
    match world.point with
    | .settling _ => settleCalls world.services finishing
    | _ => []
  | .sessionEnd finishing => if world.worker = false then sessionEndCalls world.services finishing else []
  | _ => []

def handleSystem : System (ServiceWorld × List HandleCall) ServiceEvent :=
  (serviceSystem sha256 config).recorded [] fun calls before event _ => calls ++ eventCalls sha256 config before event

end machine

end EspIris.Device.Jobs
