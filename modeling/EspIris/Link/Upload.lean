import EspIris.Device.FileHolding
import EspIris.Gateway.Upload

/-! An upload of the gateway to the file task of a device. Requests and responses may be lost, held up
and overtaken on their way; each arrives once at most, and a response belongs to one request. -/

namespace EspIris.Link
open Device.Files Gateway.Upload Bytes
open Machine (System Reachable Run)

structure UploadSetup where
  config : FilesConfig
  sha256 : List UInt8 → List UInt8
  sessionId : UInt32
  request : UploadRequest

def uploadTarget (config : FilesConfig) (request : UploadRequest) : Path :=
  match findVolume config.volumes request.volume with
  | some volume => volume.path request.path
  | none => request.path

/-- Both parties and what is under way, each with the serial number of its request. The rest is a
record: what the source has given, what stood at the target first, what a rename put there, whether a
COMMIT was answered with success, and whether a rename went unseen because the `file_stat` failed. -/
structure UploadWorld where
  uploader : Uploader
  waiting : Option Nat
  serial : Nat
  task : FileTask
  requests : List (Nat × FileWork)
  responses : List (Nat × FileCompletion)
  source : List UInt8
  original : Option Node
  replaced : Option Node
  reported : Bool
  unseen : Bool

inductive UploadLinkEvent
  | act (event : UploadEvent)
  | receive (index : Nat)
  | deliver (index : Nat) (answers : Answers)
  /-- The request is answered before it reaches the file task: another one is there. -/
  | refuse (index : Nat) (status : FileStatus)
  | loseRequest (index : Nat)
  | loseResponse (index : Nat)
  /-- A request of another client that changes no file. -/
  | foreign (work : FileWork) (answers : Answers)
  | sessionEnd (sessionId : UInt32) (unlink : Option Errno)
  | restart (unlink : Option Errno)
  | change (path : Path) (node : Option Node)

def workFor (sessionId : UInt32) (serial : Nat) (request : FileRequest) : FileWork where
  token := 0
  type := request.type
  sessionId := sessionId
  requestId := UInt32.ofNat serial
  streamId := request.streamId
  payload := request.payload

def frameOf (completion : FileCompletion) : FileFrame where
  type := completion.type
  streamId := completion.streamId
  payload := completion.payload

def UploadWorld.take (setup : UploadSetup) (world : UploadWorld) (result : Uploader × Option FileRequest) :
    UploadWorld :=
  match result.2 with
  | none => { world with uploader := result.1, waiting := none }
  | some request =>
    { world with
      uploader := result.1
      waiting := some world.serial
      serial := world.serial + 1
      requests := world.requests ++ [(world.serial, workFor setup.sessionId world.serial request)] }

def givenAfter (source : List UInt8) : UploadEvent → List UInt8
  | .chunk data => source ++ data
  | _ => source

def UploadWorld.handle (setup : UploadSetup) (world : UploadWorld) (serial : Nat) (work : FileWork)
    (answers : Answers) : UploadWorld :=
  let (task, completion) := processWork setup.config setup.sha256 world.task work answers
  let commits := work.type == FileType.commit && commitsTransfer world.task work
  { world with
    task
    responses := world.responses ++ [(serial, completion)]
    replaced := noteReplaced setup.sha256 world.task work answers world.replaced
    reported := world.reported || (commits && completion.status == FileStatus.ok.code)
    unseen := world.unseen ||
      (commits && (renamedNode setup.sha256 world.task work answers).isSome && !answers.renamed.isOk) }

def nextUpload (setup : UploadSetup) (world : UploadWorld) : UploadLinkEvent → Option UploadWorld
  | .act (.answer _) => none
  | .act event =>
    (world.uploader.next setup.sha256 event).map fun result =>
      { world.take setup result with source := givenAfter world.source event }
  | .receive index =>
    match world.responses[index]? with
    | none => none
    | some (serial, completion) =>
      let rest := { world with responses := world.responses.eraseIdx index }
      if world.waiting = some serial then
        (world.uploader.next setup.sha256 (.answer (frameOf completion))).map (rest.take setup)
      else some rest
  | .deliver index answers =>
    (world.requests[index]?).map fun entry =>
      { world with requests := world.requests.eraseIdx index }.handle setup entry.1 entry.2 answers
  | .refuse index status =>
    match world.requests[index]? with
    | none => none
    | some (serial, work) =>
      if status = .ok then none
      else
        some { world with
               requests := world.requests.eraseIdx index
               responses := world.responses ++ [(serial, refusal work (responseTypeFor work.type) status)] }
  | .loseRequest index => some { world with requests := world.requests.eraseIdx index }
  | .loseResponse index => some { world with responses := world.responses.eraseIdx index }
  | .foreign work answers =>
    if work.type ∈ readTypes then
      some { world with task := (processWork setup.config setup.sha256 world.task work answers).1 }
    else none
  | .sessionEnd sessionId unlink => some { world with task := sessionEnd world.task sessionId unlink }
  | .restart unlink => some { world with task := restartTask world.task unlink }
  | .change path node =>
    if (world.task.handle.kind = .write ∧ path = world.task.handle.tempPath) ∨
        path = uploadTarget setup.config setup.request then none
    else some { world with task := { world.task with tree := Function.update world.task.tree path node } }

/-- The call of `upload`. -/
def startWorld (setup : UploadSetup) (task : FileTask) : UploadWorld :=
  let start := startUpload setup.request
  { uploader := start.1
    waiting := none
    serial := 0
    task
    requests := []
    responses := []
    source := []
    original := task.tree (uploadTarget setup.config setup.request)
    replaced := none
    reported := false
    unseen := false : UploadWorld }.take setup start

def uploadSystem (setup : UploadSetup) : System UploadWorld UploadLinkEvent :=
  .ofPartial (fun world => ∃ task, task.handle.kind ≠ .write ∧ world = startWorld setup task) (nextUpload setup)

def OpensApart (setup : UploadSetup) (world : UploadWorld) : UploadLinkEvent → Prop
  | .deliver index answers => ∀ entry ∈ world.requests[index]?,
    entry.2.type = FileType.writeOpen → opensApart setup.config world.task.tree entry.2 answers
  | _ => True

instance (setup : UploadSetup) (world : UploadWorld) : ∀ event, Decidable (OpensApart setup world event)
  | .deliver _ _ => inferInstanceAs (Decidable (∀ _ ∈ _, _))
  | .act _ | .receive _ | .refuse _ _ | .loseRequest _ | .loseResponse _ | .foreign _ _ | .sessionEnd _ _
  | .restart _ | .change _ _ => inferInstanceAs (Decidable True)

def UploadWorld.Delivered (setup : UploadSetup) (world : UploadWorld) (result : UploadResult) : Prop :=
  world.task.tree (uploadTarget setup.config setup.request) = some (.regular world.source) ∧
    world.source.length = setup.request.totalSize ∧ result.metadata.size = world.source.length ∧
    result.sha256 = setup.sha256 world.source

/-- The target is what it was, unless the device has committed: by its rename, or, where no rename
went unseen, by its own account. -/
def UploadWorld.Preserved (setup : UploadSetup) (world : UploadWorld) : Prop :=
  world.replaced = none ∨ (world.reported = false ∧ world.unseen = false) →
    world.task.tree (uploadTarget setup.config setup.request) = world.original

end EspIris.Link
