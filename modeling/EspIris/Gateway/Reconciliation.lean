import EspIris.Gateway.Acceptance
import EspIris.Gateway.Operations
import EspIris.Lib.Bytes

/-! `reconcile_operation`, and what the closed loops of an update leave for it in the row of their
operation. -/

namespace EspIris.Gateway.Reconciliation
open Bytes
open Operations (OperationState)

/-- What `hashlib`, the UTF-8 decoder and `uuid` give; `wireId` is the `hex` of the wire operation ID. -/
structure PythonLibrary where
  sha256 : List UInt8 → List UInt8
  decode : List UInt8 → String
  wireId : String → String
  sha256_length : ∀ data, (sha256 data).length = 32

def hexDigit (value : Nat) : Char := "0123456789abcdef".toList.getD value '0'

/-- `bytes.hex`. -/
def hexText (bytes : List UInt8) : String :=
  String.ofList (bytes.flatMap fun byte => [hexDigit (byte.toNat / 16), hexDigit (byte.toNat % 16)])

structure FirmwareImage where
  sha256 : String
  size : Nat
  chipId : Nat
  projectName : String
  version : String
  elfSha256 : String
  deriving DecidableEq, Repr

/-- `_cstring` of a fixed field. -/
def cstring (library : PythonLibrary) (image : List UInt8) (offset size : Nat) : String :=
  library.decode (((image.drop offset).take size).takeWhile (· ≠ 0))

def inspectFirmwareImage (library : PythonLibrary) (image : List UInt8) : Except String FirmwareImage :=
  if image.length < 112 ∨ byteAt image 0 ≠ 0xe9 then .error "not an ESP application image"
  else if field image 12 2 ≠ 0x20 then
    .error ("firmware chip id 0x" ++ hexText [byteAt image 13, byteAt image 12] ++ " is not ESP32-S31 (0x0020)")
  else if field image 32 4 ≠ 0xabcd5432 then
    .error "ESP application descriptor is missing from first segment"
  else
    let version := cstring library image 48 32
    let projectName := cstring library image 80 32
    if projectName = "" ∨ version = "" then .error "firmware project name and version must be present"
    else
      .ok
        { sha256 := hexText (library.sha256 image)
          size := image.length
          chipId := field image 12 2
          projectName
          version
          elfSha256 := if 208 ≤ image.length then hexText ((image.drop 176).take 32) else "" }

inductive ComponentKind
  | bootloader
  | partitionTable
  | application
  | recovery
  | data
  deriving DecidableEq, Repr

structure SystemUpdateComponent where
  kind : ComponentKind
  sha256 : List UInt8
  data : List UInt8
  deriving DecidableEq, Repr

/-- A bundle that `load_system_update_bundle` has let through. -/
structure SystemUpdateBundle (library : PythonLibrary) where
  targetLayoutSha256 : String
  components : List SystemUpdateComponent
  digests : ∀ component ∈ components, component.sha256 = library.sha256 component.data
  single : ∀ kind ≠ .data, (components.filter (·.kind = kind)).length ≤ 1
  inspected : ∀ component ∈ components, component.kind = .application ∨ component.kind = .recovery →
    ∃ image, inspectFirmwareImage library component.data = .ok image

structure ImageRecord where
  sha256 : Option String
  projectName : Option String
  elfSha256 : Option String
  deriving DecidableEq, Repr

def FirmwareImage.asDict (image : FirmwareImage) : ImageRecord where
  sha256 := some image.sha256
  projectName := some image.projectName
  elfSha256 := some image.elfSha256

def FirmwareImage.metadata (image : FirmwareImage) : Metadata where
  projectName := some image.projectName
  elfSha256 := some image.elfSha256
  version := some image.version

structure ComponentRecord where
  kind : Option ComponentKind
  sha256 : Option String
  deriving DecidableEq, Repr

structure BundleRecord where
  targetLayoutSha256 : Option String
  components : Option (List ComponentRecord)
  deriving DecidableEq, Repr

def SystemUpdateComponent.asDict (component : SystemUpdateComponent) : ComponentRecord where
  kind := some component.kind
  sha256 := some (hexText component.sha256)

def SystemUpdateBundle.asDict {library : PythonLibrary} (bundle : SystemUpdateBundle library) : BundleRecord where
  targetLayoutSha256 := some bundle.targetLayoutSha256
  components := some (bundle.components.map (·.asDict))

structure OperationParams where
  image : Option ImageRecord
  bundle : Option BundleRecord
  deriving DecidableEq, Repr

/-- The keys of `progress` that are read again; a key may be absent, or there and null. -/
structure Progress where
  writerBootId : Option (Option BootId)
  previousBootId : Option (Option BootId)
  targetApplication : Option (Option ImageRecord)
  targetRecovery : Option (Option ImageRecord)
  deriving DecidableEq, Repr

def Progress.empty : Progress := ⟨none, none, none, none⟩

/-- `{**previous, **details}`. -/
def Progress.update (previous details : Progress) : Progress where
  writerBootId := details.writerBootId.or previous.writerBootId
  previousBootId := details.previousBootId.or previous.previousBootId
  targetApplication := details.targetApplication.or previous.targetApplication
  targetRecovery := details.targetRecovery.or previous.targetRecovery

def stored (updates : List Progress) : Progress := updates.foldl Progress.update .empty

def writerUpdate (writerBoot : Option BootId) : Progress := { Progress.empty with writerBootId := some writerBoot }

def previousUpdate (previousBoot : Option BootId) : Progress :=
  { Progress.empty with previousBootId := some previousBoot }

/-- What `closed_loop_ota` stores: on its way through the recovery, before and after the write, and
with each report of the device. -/
def otaUpdates (plan : OtaPlan) (previousBoot : Option BootId) (throughRecovery : Bool) (reports : Nat)
    (healthy : Bool) : List Progress :=
  (if throughRecovery then [previousUpdate previousBoot, previousUpdate previousBoot, .empty] else []) ++
    [writerUpdate plan.writerBoot] ++ List.replicate reports .empty ++ [.empty] ++
    (if healthy then [] else [writerUpdate plan.writerBoot])

def SystemUpdateBundle.target {library : PythonLibrary} (bundle : SystemUpdateBundle library) (kind : ComponentKind) :
    Option FirmwareImage :=
  (bundle.components.find? (·.kind = kind)).bind fun component =>
    (inspectFirmwareImage library component.data).toOption

/-- What `run_system_update` fixes of its bundle. -/
def SystemUpdateBundle.plan {library : PythonLibrary} (bundle : SystemUpdateBundle library) (operationId : String)
    (writerBoot : Option BootId) (timeout : String) : SystemPlan where
  writerBoot := writerBoot
  targetLayoutSha256 := bundle.targetLayoutSha256
  wireOperationId := library.wireId operationId
  bootloaderSha256 := (bundle.components.find? (·.kind = .bootloader)).map fun component => hexText component.sha256
  application := (bundle.target .application).map FirmwareImage.metadata
  targetRecovery := (bundle.target .recovery).map FirmwareImage.metadata
  validationMode := .elfSha256
  timeout := timeout

/-- What `run_system_update` stores. -/
def SystemUpdateBundle.updates {library : PythonLibrary} (bundle : SystemUpdateBundle library)
    (previousBoot writerBoot : Option BootId) (preserved throughRecovery : Bool) (reports : Nat) : List Progress :=
  (if preserved then [.empty] else []) ++ (if throughRecovery then [previousUpdate previousBoot] else []) ++
    [{ writerUpdate writerBoot with
        targetApplication := some ((bundle.target .application).map FirmwareImage.asDict)
        targetRecovery := some ((bundle.target .recovery).map FirmwareImage.asDict) }] ++
    List.replicate reports .empty ++ [writerUpdate writerBoot]

/-- The keys of a row that `reconcile_operation` reads. -/
structure OperationRecord where
  operationId : String
  deviceId : String
  action : String
  status : OperationState
  params : OperationParams
  progress : Progress
  createdNs : Nat
  deriving DecidableEq, Repr

inductive FirmwareMode
  | unknown
  | normal
  | recovery
  deriving DecidableEq, Repr

/-- A result of `hub.status`. -/
structure LiveStatus where
  deviceId : Option String
  bootId : Option BootId
  firmwareMode : Option FirmwareMode
  projectName : Option String
  firmwareSha256 : Option String
  appVersion : Option String
  deriving DecidableEq, Repr

def LiveStatus.read (status : LiveStatus) : Status where
  bootId := status.bootId
  recoveryMode := status.firmwareMode = some .recovery
  projectName := status.projectName
  firmwareSha256 := status.firmwareSha256
  appVersion := status.appVersion

structure DeviceReport where
  deviceId : String
  bootId : BootId
  firmwareMode : FirmwareMode
  projectName : String
  firmwareSha256 : String
  appVersion : String
  deriving DecidableEq, Repr

def DeviceReport.status (report : DeviceReport) : LiveStatus where
  deviceId := some report.deviceId
  bootId := some report.bootId
  firmwareMode := some report.firmwareMode
  projectName := some report.projectName
  firmwareSha256 := some report.firmwareSha256
  appVersion := some report.appVersion

inductive EventCategory
  | log
  | operation
  | device
  deriving DecidableEq, Repr

structure StoredEvent where
  deviceId : Option String
  category : EventCategory
  event : Event
  hostReceiveNs : Nat
  deriving DecidableEq, Repr

/-- `latest_events` of the device, over rows in the order of their ids. -/
def latestEvents (log : List StoredEvent) (deviceId : String) : List StoredEvent :=
  let rows := log.filter fun event => event.deviceId = some deviceId ∧ event.category = .device
  rows.drop (rows.length - 5000)

inductive Outcome
  | outcomeUnknown
  | observedSuccess
  | observedFailure
  deriving DecidableEq, Repr

structure Record where
  outcome : Outcome
  reason : String
  healthyEvent : Option StoredEvent
  deriving DecidableEq, Repr

inductive Refused
  | unknownOperation
  | notUncertain
  deriving DecidableEq, Repr

structure Reads where
  status : Except String LiveStatus
  inventory : Except String Inventory
  after : Except String LiveStatus

def identityMatches (expected : Option (Option ImageRecord)) (component : ComponentRecord) (status : LiveStatus) :
    Bool :=
  let expected := expected.join.getD ⟨none, none, none⟩
  expected.elfSha256.any (· ≠ "") && component.sha256.any (· ≠ "") && expected.sha256 == component.sha256 &&
    status.projectName == expected.projectName &&
    (status.firmwareSha256.getD "").toLower == (expected.elfSha256.getD "").toLower

def componentMatches (progress : Progress) (status : LiveStatus) (inventory : Inventory)
    (component : ComponentRecord) : Bool :=
  match component.kind with
  | some .bootloader => component.sha256.any (· ≠ "") && inventory.bootloaderSha256 == component.sha256
  | some .application => identityMatches progress.targetApplication component status
  | some .recovery => identityMatches progress.targetRecovery component status
  | _ => true

def targetComponentsMatch (params : OperationParams) (progress : Progress) (status : LiveStatus)
    (inventory : Inventory) : Bool :=
  match params.bundle.bind (·.components) with
  | none => false
  | some components => components.all (componentMatches progress status inventory)

def healthyEvent (operation : OperationRecord) (log : List StoredEvent) (boot : BootId) : Option StoredEvent :=
  (latestEvents log operation.deviceId).reverse.find? fun event =>
    event.event.eventName = some .healthy ∧ event.event.bootId = some boot ∧ operation.createdNs ≤ event.hostReceiveNs

def imageMatches (operation : OperationRecord) (status : LiveStatus) : Bool :=
  let image := operation.params.image.getD ⟨none, none, none⟩
  image.elfSha256.any (· ≠ "") &&
    (status.firmwareSha256.getD "").toLower == (image.elfSha256.getD "").toLower &&
    status.projectName == image.projectName

def expectedMode (params : OperationParams) : FirmwareMode :=
  if ((params.bundle.bind (·.components)).getD []).any (·.kind = some .recovery) then .recovery else .normal

def reconcileOta (operation : OperationRecord) (writerBoot : Option BootId) (status : LiveStatus) (boot : BootId)
    (healthy : Option StoredEvent) : Record :=
  if imageMatches operation status ∧ healthy.isSome ∧ status.firmwareMode = some .normal ∧ writerBoot ≠ none ∧
      some boot ≠ writerBoot then
    ⟨.observedSuccess, "expected firmware is healthy on a new boot", healthy⟩
  else ⟨.outcomeUnknown, "insufficient current evidence", healthy⟩

def reconcileSystemUpdate (library : PythonLibrary) (operation : OperationRecord) (writerBoot : Option BootId)
    (status : LiveStatus) (boot : BootId) (healthy : Option StoredEvent) (reads : Reads) : Record :=
  match reads.inventory, reads.after with
  | .error name, _ => ⟨.outcomeUnknown, "live observation unavailable: " ++ name, healthy⟩
  | .ok _, .error name => ⟨.outcomeUnknown, "live observation unavailable: " ++ name, healthy⟩
  | .ok inventory, .ok after =>
    if after.deviceId ≠ some operation.deviceId ∨ after.bootId ≠ some boot then
      ⟨.outcomeUnknown, "live observation unavailable: RuntimeError", healthy⟩
    else
      let receiptMatches : Bool := inventory.lastOperationId = some (library.wireId operation.operationId)
      if receiptMatches ∧ inventory.lastResult ≠ none ∧ inventory.lastResult ≠ some 0 then
        ⟨.observedFailure, "matching device receipt reports failure", healthy⟩
      else if receiptMatches ∧ inventory.lastResult = some 0 ∧ healthy.isSome ∧
          status.firmwareMode = some (expectedMode operation.params) ∧
          after.firmwareMode = some (expectedMode operation.params) ∧ writerBoot ≠ none ∧ some boot ≠ writerBoot ∧
          inventory.partitionTableSha256 = operation.params.bundle.bind (·.targetLayoutSha256) ∧
          targetComponentsMatch operation.params operation.progress after inventory then
        ⟨.observedSuccess, "matching commit receipt, layout and healthy new boot", healthy⟩
      else ⟨.outcomeUnknown, "insufficient current evidence", healthy⟩

def reconcileOperation (library : PythonLibrary) (operation : Option OperationRecord) (log : List StoredEvent)
    (reads : Reads) : Except Refused Record :=
  match operation with
  | none => .error .unknownOperation
  | some operation =>
    if operation.status ≠ .outcomeUnknown ∧ operation.status ≠ .interrupted then .error .notUncertain
    else
      match reads.status with
      | .error name => .ok ⟨.outcomeUnknown, "live observation unavailable: " ++ name, none⟩
      | .ok status =>
        if status.deviceId ≠ some operation.deviceId then
          .ok ⟨.outcomeUnknown, "live device identity is missing or does not match", none⟩
        else
          match status.bootId with
          | none => .ok ⟨.outcomeUnknown, "live device identity is missing or does not match", none⟩
          | some boot =>
            let writerBoot := (operation.progress.writerBootId.or operation.progress.previousBootId).join
            let healthy := healthyEvent operation log boot
            if operation.action = "firmware.ota" then .ok (reconcileOta operation writerBoot status boot healthy)
            else if operation.action = "firmware.system_update" then
              .ok (reconcileSystemUpdate library operation writerBoot status boot healthy reads)
            else
              .ok ⟨.outcomeUnknown, "action has no durable proof contract; live observation retained", healthy⟩

end EspIris.Gateway.Reconciliation
