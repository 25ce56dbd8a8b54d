import EspIris.Device.FileReads
import EspIris.Gateway.Download
import EspIris.Link.Upload

/-! A download of the gateway from the file task of a device, over the same link as an upload: requests
and responses may be lost, held up and overtaken, and others use the file task in between. -/

namespace EspIris.Link
open Device.Files Gateway.Upload Gateway.Download Bytes
open Machine (System Reachable Run Invariant)

structure DownloadSetup where
  config : FilesConfig
  sha256 : List UInt8 → List UInt8
  sessionId : UInt32
  request : ReadRequest
  /-- An `off_t` has a sign and 64 bits at most. -/
  offsetLimit_le : config.offsetLimit ≤ 2 ^ 63
  /-- `ESP_IRIS_FILE_CHUNK_BYTES` starts at 256. -/
  chunkBytes_ne : config.chunkBytes ≠ 0

def DownloadSetup.target (setup : DownloadSetup) : Path :=
  match findVolume setup.config.volumes setup.request.volume with
  | some volume => volume.path setup.request.path
  | none => setup.request.path

/-- Both parties and what is under way, each with the serial number of its request. The rest is a record: the
chunks that were yielded, the DATA frames that were sent, and the streams that were opened for the call. -/
structure DownloadWorld where
  reader : Reader
  waiting : Option Nat
  serial : Nat
  task : FileTask
  requests : List (Nat × FileWork)
  responses : List (Nat × FileCompletion)
  yielded : List (List UInt8)
  sent : List FileCompletion
  opened : List UInt32

inductive DownloadEvent
  | act (event : ReadEvent)
  | receive (index : Nat)
  | deliver (index : Nat) (answers : Answers)
  /-- The request is answered before it reaches the file task: another one is there. -/
  | refuse (index : Nat) (status : FileStatus)
  | loseRequest (index : Nat)
  | loseResponse (index : Nat)
  /-- A request of another client; a stream that it opens is a new one. -/
  | foreign (work : FileWork) (answers : Answers)
  | sessionEnd (sessionId : UInt32) (unlink : Option Errno)
  | restart (unlink : Option Errno)

/-- The chunk at a `yield`. -/
def yieldedBy : ReadPoint → List (List UInt8)
  | .yielding data => [data]
  | _ => []

def DownloadWorld.take (setup : DownloadSetup) (world : DownloadWorld) (result : Reader × Option FileRequest) :
    DownloadWorld :=
  let yielded := world.yielded ++ yieldedBy result.1.point
  match result.2 with
  | none => { world with reader := result.1, waiting := none, yielded }
  | some request =>
    { world with
      reader := result.1
      waiting := some world.serial
      serial := world.serial + 1
      requests := world.requests ++ [(world.serial, workFor setup.sessionId world.serial request)]
      yielded }

def dataOf (completion : FileCompletion) : List FileCompletion :=
  if completion.type = FileType.data ∧ completion.status = FileStatus.ok.code then [completion] else []

def openedBy (completion : FileCompletion) : List UInt32 :=
  if completion.type = FileType.readOpened ∧ completion.status = FileStatus.ok.code then [completion.streamId] else []

def DownloadWorld.handle (setup : DownloadSetup) (world : DownloadWorld) (serial : Nat) (work : FileWork)
    (answers : Answers) : DownloadWorld :=
  let (task, completion) := processWork setup.config setup.sha256 world.task work answers
  { world with
    task
    responses := world.responses ++ [(serial, completion)]
    sent := world.sent ++ dataOf completion
    opened := world.opened ++ openedBy completion }

def DownloadWorld.settle (setup : DownloadSetup) (world : DownloadWorld) (task : FileTask) : Option DownloadWorld :=
  if task.tree setup.target = world.task.tree setup.target then some { world with task } else none

def nextDownload (setup : DownloadSetup) (world : DownloadWorld) : DownloadEvent → Option DownloadWorld
  | .act (.answer _) => none
  | .act event => (world.reader.next event).map (world.take setup)
  | .receive index =>
    match world.responses[index]? with
    | none => none
    | some (serial, completion) =>
      let rest := { world with responses := world.responses.eraseIdx index }
      if world.waiting = some serial then
        (world.reader.next (.answer (frameOf completion))).map (rest.take setup)
      else some rest
  | .deliver index answers =>
    (world.requests[index]?).map fun entry =>
      { world with requests := world.requests.eraseIdx index }.handle setup entry.1 entry.2 answers
  | .refuse index status =>
    match world.requests[index]? with
    | none => none
    | some (serial, work) =>
      if status = .ok then none
      else
        some { world with
               requests := world.requests.eraseIdx index
               responses := world.responses ++ [(serial, refusal work (responseTypeFor work.type) status)] }
  | .loseRequest index => some { world with requests := world.requests.eraseIdx index }
  | .loseResponse index => some { world with responses := world.responses.eraseIdx index }
  | .foreign work answers =>
    if answers.streamId ∈ world.opened then none
    else world.settle setup (processWork setup.config setup.sha256 world.task work answers).1
  | .sessionEnd sessionId unlink => world.settle setup (sessionEnd world.task sessionId unlink)
  | .restart unlink => world.settle setup (restartTask world.task unlink)

/-- The call of `read_chunks`. -/
def DownloadWorld.start (setup : DownloadSetup) (task : FileTask) : DownloadWorld :=
  { reader := (startRead setup.request).1
    waiting := none
    serial := 0
    task
    requests := []
    responses := []
    yielded := []
    sent := []
    opened := [] : DownloadWorld }.take setup (startRead setup.request)

/-- The file is there when the call starts, and an `off_t` holds its size. -/
def DownloadSetup.Serves (setup : DownloadSetup) (task : FileTask) (content : List UInt8) : Prop :=
  task.tree setup.target = some (.regular content) ∧ content.length < setup.config.offsetLimit

def downloadSystem (setup : DownloadSetup) (content : List UInt8) : System DownloadWorld DownloadEvent :=
  .ofPartial (fun world => ∃ task, setup.Serves task content ∧ world = .start setup task) (nextDownload setup)

end EspIris.Link
