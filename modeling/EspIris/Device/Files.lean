import EspIris.Device.FilePaths

/-! The file task of `esp_iris_files.c`: one handle, one write receipt, and a handler for each FILE
request. What the file system, the crypto library and the random source answer comes with a request. -/

namespace EspIris.Device.Files
open Codec.Device Bytes

structure FilesConfig where
  volumes : List Volume
  chunkBytes : UInt16
  /-- One past the greatest `off_t`. -/
  offsetLimit : Nat

/-- `iris_file_work_t` of a frame. -/
structure FileWork where
  token : UInt32
  type : UInt8
  sessionId : UInt32
  requestId : UInt32
  streamId : UInt32
  payload : List UInt8
  deriving DecidableEq, Repr

/-- `iris_file_completion_t`. -/
structure FileCompletion where
  token : UInt32
  type : UInt8
  flags : UInt16
  sessionId : UInt32
  requestId : UInt32
  streamId : UInt32
  payload : List UInt8
  deriving DecidableEq, Repr

def FileCompletion.status (completion : FileCompletion) : UInt16 := irisGetLe16 completion.payload 0

inductive HandleKind
  | none
  | list
  | read
  | write
  deriving DecidableEq, Repr

/-- `iris_file_handle_t`. A descriptor is the path that it was opened at; `hashed` is what the
running digest took. -/
structure FileHandle where
  kind : HandleKind
  sessionId : UInt32
  streamId : UInt32
  directory : Bool
  fd : Option Path
  size : Nat
  committed : Nat
  originalEtag : UInt64
  targetExisted : Bool
  overwrite : Bool
  hashActive : Bool
  hashed : List UInt8
  directoryPath : Path
  targetPath : Path
  tempPath : Path
  deriving DecidableEq, Repr

def FileHandle.zero : FileHandle where
  kind := .none
  sessionId := 0
  streamId := 0
  directory := false
  fd := none
  size := 0
  committed := 0
  originalEtag := 0
  targetExisted := false
  overwrite := false
  hashActive := false
  hashed := []
  directoryPath := []
  targetPath := []
  tempPath := []

inductive WriteState
  | active
  | committed
  | aborted
  deriving DecidableEq, Repr

def WriteState.code : WriteState → UInt8
  | .active => 1
  | .committed => 2
  | .aborted => 3

/-- `iris_file_write_receipt_t`; `none` is the state of a receipt that was never set. -/
structure WriteReceipt where
  valid : Bool
  sessionId : UInt32
  streamId : UInt32
  committed : Nat
  expected : Nat
  state : Option WriteState
  result : FileStatus
  deriving DecidableEq, Repr

def WriteReceipt.zero : WriteReceipt where
  valid := false
  sessionId := 0
  streamId := 0
  committed := 0
  expected := 0
  state := none
  result := .ok

structure FileTask where
  tree : Tree
  handle : FileHandle
  receipt : WriteReceipt

def FileTask.zero (tree : Tree) : FileTask := { tree, handle := .zero, receipt := .zero }

/-- One `write`: how much it took, and the error where it took nothing. -/
structure WriteAnswer where
  count : Nat
  errno : Errno
  deriving DecidableEq, Repr

/-- What the calls that one request makes are answered with: `components` and `destination` while paths are
resolved, `target` for the target's metadata, `change` for MKDIR and DELETE, `renamed` for the last `file_stat`. -/
structure Answers where
  components : List StatAnswer
  target : StatAnswer
  destination : List StatAnswer
  opens : List (UInt32 × Option Errno)
  openRead : Option Errno
  openDirectory : Option Errno
  streamId : UInt32
  hashSetup : Bool
  writes : List WriteAnswer
  hashUpdate : Bool
  hashFinish : Bool
  fsync : Option Errno
  close : Option Errno
  rename : Option Errno
  change : Option Errno
  renamed : StatAnswer
  unlink : Option Errno
  entries : List (Path × StatAnswer)
  isEmpty : Except Errno Bool
  seek : Option Errno
  read : Except Errno Nat
  /-- `next_stream_id` draws again until it has something. -/
  streamId_ne : streamId ≠ 0

def refuseIf (refused : Prop) [Decidable refused] (status : FileStatus) : Except FileStatus Unit :=
  if refused then .error status else .ok ()

def checkCall : Option Errno → Except FileStatus Unit
  | some value => .error (statusFromErrno value)
  | none => .ok ()

def ofCall {Result : Type} : Except Errno Result → Except FileStatus Result
  | .error value => .error (statusFromErrno value)
  | .ok result => .ok result

/-- `completion_begin`, with the rest of the payload. -/
def completionBegin (work : FileWork) (type : UInt8) (status : FileStatus) (rest : List UInt8) : FileCompletion where
  token := work.token
  type := type
  flags := Flag.response
  sessionId := work.sessionId
  requestId := work.requestId
  streamId := work.streamId
  payload := irisPutLe16 status.code ++ [0, 0] ++ rest

/-- A request that failed, as `completion_begin` left it but for the status. -/
def refusal (work : FileWork) (type : UInt8) (status : FileStatus) : FileCompletion :=
  completionBegin work type status []

def responseTypeFor (type : UInt8) : UInt8 :=
  if type = FileType.volumesRequest then FileType.volumesResponse
  else if type = FileType.statRequest then FileType.statResponse
  else if type = FileType.listOpen then FileType.listOpened
  else if type = FileType.listNext then FileType.listData
  else if type = FileType.close then FileType.closeResponse
  else if type = FileType.readOpen then FileType.readOpened
  else if type = FileType.read then FileType.data
  else if type = FileType.writeOpen then FileType.writeOpened
  else if type = FileType.write then FileType.writeAck
  else if type = FileType.commit then FileType.commitResponse
  else if type = FileType.abort then FileType.abortResponse
  else if type = FileType.mkdir then FileType.mkdirResponse
  else if type = FileType.delete then FileType.deleteResponse
  else if type = FileType.rename then FileType.renameResponse
  else if type = FileType.writeStatus then FileType.writeStatusResponse
  else type

/-- What `close_handle` does to the file system; the handle is zeroed after it. -/
def closeHandle (tree : Tree) (handle : FileHandle) (unlink : Option Errno) : Tree :=
  if handle.kind = .write ∧ handle.tempPath ≠ [] then
    match unlinkFile tree handle.tempPath unlink with
    | .ok after => after
    | .error _ => tree
  else tree

def FileHandle.matches (handle : FileHandle) (work : FileWork) : Bool :=
  handle.sessionId == work.sessionId && handle.streamId == work.streamId

def handleVolumes (config : FilesConfig) (work : FileWork) : FileCompletion :=
  if work.payload ≠ [] then refusal work FileType.volumesResponse .invalidArgument
  else
    completionBegin work FileType.volumesResponse .ok
      (irisPutLe16 config.chunkBytes ++ irisPutLe16 (UInt16.ofNat pathMax) ++
        [UInt8.ofNat config.volumes.length, 0, 0, 0] ++
        config.volumes.flatMap fun volume =>
          [UInt8.ofNat volume.id.length, 0] ++ irisPutLe16 volume.capabilities.toUInt16 ++ volume.id)

def statMetadata (config : FilesConfig) (tree : Tree) (work : FileWork) (answers : Answers) :
    Except FileStatus Metadata := do
  let request ← decodePathRequest config.volumes work.payload
  let (_, metadata) ← resolveExistingPath request.volume request.relative tree answers.components
  refuseIf (fileKind metadata = 0) .notSupported
  return metadata

def handleStat (config : FilesConfig) (tree : Tree) (work : FileWork) (answers : Answers) : FileCompletion :=
  match statMetadata config tree work answers with
  | .error status => refusal work FileType.statResponse status
  | .ok metadata => completionBegin work FileType.statResponse .ok (encodeMetadata metadata)

def listPath (config : FilesConfig) (tree : Tree) (work : FileWork) (answers : Answers) : Except FileStatus Path := do
  let request ← decodePathRequest config.volumes work.payload
  refuseIf (!request.volume.has Capability.list) .readOnly
  let (path, metadata) ← resolveExistingPath request.volume request.relative tree answers.components
  refuseIf (metadata.type ≠ .directory) .notDirectory
  checkCall answers.openDirectory
  return path

def handleListOpen (config : FilesConfig) (tree : Tree) (work : FileWork) (answers : Answers) (handle : FileHandle) :
    FileHandle × FileCompletion :=
  if handle.kind ≠ .none then (handle, refusal work FileType.listOpened .busy)
  else
    match listPath config tree work answers with
    | .error status => (.zero, refusal work FileType.listOpened status)
    | .ok path =>
      ({ handle with
          kind := .list
          sessionId := work.sessionId
          streamId := answers.streamId
          directory := true
          directoryPath := path },
        { completionBegin work FileType.listOpened .ok (irisPutLe32 answers.streamId) with
          streamId := answers.streamId
          flags := Flag.response ||| Flag.streamBegin })

/-- The loop over `readdir`: the first name that can be reported, with its description. -/
def nextEntry (tree : Tree) (directoryPath : Path) : List (Path × StatAnswer) → Option (Path × Metadata)
  | [] => none
  | (name, answer) :: entries =>
    if name = [] ∨ pathMax < name.length ∨ name = [0x2e] ∨ name = [0x2e, 0x2e] ∨ !validUtf8 name then
      nextEntry tree directoryPath entries
    else
      let child := directoryPath ++ slash :: name
      match fileStat tree child answer with
      | .error _ => nextEntry tree directoryPath entries
      | .ok metadata =>
        if fullPathSize ≤ child.length ∨ metadata.type = .link ∨ fileKind metadata = 0 then
          nextEntry tree directoryPath entries
        else some (name, metadata)

def handleListNext (tree : Tree) (work : FileWork) (answers : Answers) (handle : FileHandle) : FileCompletion :=
  if work.payload ≠ [] ∨ handle.kind ≠ .list ∨ !handle.matches work then
    { refusal work FileType.listData .invalidArgument with streamId := handle.streamId }
  else
    match nextEntry tree handle.directoryPath answers.entries with
    | some (name, metadata) =>
      { completionBegin work FileType.listData .ok [] with
        streamId := handle.streamId
        payload := irisPutLe16 0 ++ [0, 1] ++ (encodeMetadata metadata).set 1 (UInt8.ofNat name.length) ++ name }
    | none =>
      { completionBegin work FileType.listData .ok [] with
        streamId := handle.streamId
        flags := Flag.response ||| Flag.streamEnd
        payload := irisPutLe16 0 ++ [1, 0] }

def readTarget (config : FilesConfig) (tree : Tree) (work : FileWork) (answers : Answers) :
    Except FileStatus (Path × Metadata) := do
  let request ← decodePathRequest config.volumes work.payload
  refuseIf (!request.volume.has Capability.read) .readOnly
  let (path, metadata) ← resolveExistingPath request.volume request.relative tree answers.components
  refuseIf (metadata.type ≠ .regular) .notFile
  checkCall answers.openRead
  let metadata ← ofCall (fileStat tree path answers.target)
  return (path, metadata)

def handleReadOpen (config : FilesConfig) (tree : Tree) (work : FileWork) (answers : Answers) (handle : FileHandle) :
    FileHandle × FileCompletion :=
  if handle.kind ≠ .none then (handle, refusal work FileType.readOpened .busy)
  else
    match readTarget config tree work answers with
    | .error status => (.zero, refusal work FileType.readOpened status)
    | .ok (path, metadata) =>
      ({ handle with
          kind := .read
          sessionId := work.sessionId
          streamId := answers.streamId
          fd := some path
          size := metadata.size },
        { completionBegin work FileType.readOpened .ok
            (irisPutLe32 answers.streamId ++ irisPutLe64 (UInt64.ofNat metadata.size) ++
              irisPutLe64 (UInt64.ofNat metadata.mtime.toNat) ++ irisPutLe64 (weakEtag metadata) ++
              irisPutLe16 config.chunkBytes ++ [0, 0]) with
          streamId := answers.streamId
          flags := Flag.response ||| Flag.streamBegin })

def fileRest (tree : Tree) (fd : Option Path) (offset : Nat) : List UInt8 :=
  match fd.bind tree with
  | some (.regular content) => content.drop offset
  | _ => []

def handleRead (config : FilesConfig) (tree : Tree) (work : FileWork) (answers : Answers) (handle : FileHandle) :
    FileCompletion :=
  let refused := fun status => { refusal work FileType.data status with streamId := handle.streamId }
  if work.payload.length ≠ 12 ∨ handle.kind ≠ .read ∨ !handle.matches work ∨
      irisGetLe16 work.payload 10 ≠ 0 then
    refused .invalidArgument
  else
    let offset := field work.payload 0 8
    let maximum := min (irisGetLe16 work.payload 8).toNat config.chunkBytes.toNat
    if maximum = 0 ∨ handle.size ≤ offset ∨ config.offsetLimit ≤ offset ∨ answers.seek.isSome then
      refused .invalidArgument
    else
      match answers.read with
      | .error value => refused (statusFromErrno value)
      | .ok count =>
        let data := (fileRest tree handle.fd offset).take (min count maximum)
        if data = [] then refused .conflict
        else
          let ended : Bool := offset + data.length = handle.size
          { completionBegin work FileType.data .ok [] with
            streamId := handle.streamId
            flags := if ended then Flag.response ||| Flag.streamEnd else Flag.response
            payload := irisPutLe16 0 ++ (if ended then irisPutLe16 1 else [0, 0]) ++
              irisPutLe64 (UInt64.ofNat offset) ++ irisPutLe64 (UInt64.ofNat handle.size) ++ data }

def setWriteReceipt (handle : FileHandle) (state : WriteState) (result : FileStatus) : WriteReceipt where
  valid := true
  sessionId := handle.sessionId
  streamId := handle.streamId
  committed := handle.committed
  expected := handle.size
  state := some state
  result := result

structure OpenRequest where
  parent : Path
  target : Path
  existing : Option Metadata
  expectedSize : Nat
  overwrite : Bool
  deriving DecidableEq, Repr

def writeOpenRequest (config : FilesConfig) (tree : Tree) (work : FileWork) (answers : Answers) :
    Except FileStatus OpenRequest := do
  let request ← decodePathRequestWithTrailer config.volumes work.payload 20
  let expectedSize := field request.trailer 0 8
  let ifMatch := UInt64.ofNat (field request.trailer 8 8)
  let flags := irisGetLe16 request.trailer 16
  refuseIf (irisGetLe16 request.trailer 18 ≠ 0 ∨ flags &&& 0xfffc ≠ 0 ∨ config.offsetLimit ≤ expectedSize)
    .invalidArgument
  refuseIf (!request.volume.has Capability.write) .readOnly
  let (parent, target) ← resolveParentPath request.volume request.relative tree answers.components
  let existing ← targetMetadata tree target answers.target
  let overwrite := flags &&& 1 != 0
  refuseIf (existing.any fun metadata => metadata.type != .regular) .notFile
  refuseIf (existing.isSome ∧ !overwrite) .exists
  refuseIf (existing.isSome ∧ overwrite ∧ !request.volume.has Capability.atomicReplace) .notSupported
  refuseIf (flags &&& 2 ≠ 0 ∧ !existing.any fun metadata => weakEtag metadata == ifMatch) .conflict
  return { parent, target, existing, expectedSize, overwrite }

def hexDigit (value : UInt32) : UInt8 :=
  if value < 10 then 0x30 + value.toUInt8 else 0x57 + value.toUInt8

/-- `"%s/.iris-%08x.tmp"`. -/
def tempPathFor (parent : Path) (random : UInt32) : Path :=
  parent ++ [slash, 0x2e, 0x69, 0x72, 0x69, 0x73, 0x2d] ++
    ([28, 24, 20, 16, 12, 8, 4, 0] : List UInt32).map (fun shift => hexDigit (random >>> shift &&& 0xf)) ++
    [0x2e, 0x74, 0x6d, 0x70]

def openTemporary (tree : Tree) (parent : Path) :
    Nat → List (UInt32 × Option Errno) → Except FileStatus (Tree × Path)
  | 0, _ => .error .exists
  | attempts + 1, opens =>
    let (random, failure) := opens.headD (0, some .other)
    let temp := tempPathFor parent random
    if tempPathSize ≤ temp.length then .error .invalidArgument
    else
      match createFile tree temp failure with
      | .ok created => .ok (created, temp)
      | .error .eexist => openTemporary tree parent attempts opens.tail
      | .error value => .error (statusFromErrno value)

def writeHandle (work : FileWork) (request : OpenRequest) (temp : Path) (answers : Answers) : FileHandle where
  kind := .write
  sessionId := work.sessionId
  streamId := answers.streamId
  directory := false
  fd := some temp
  size := request.expectedSize
  committed := 0
  originalEtag := (request.existing.map weakEtag).getD 0
  targetExisted := request.existing.isSome
  overwrite := request.overwrite
  hashActive := answers.hashSetup
  hashed := []
  directoryPath := []
  targetPath := request.target
  tempPath := temp

def openForWriting (config : FilesConfig) (tree : Tree) (work : FileWork) (answers : Answers) :
    Except FileStatus (Tree × FileHandle) := do
  let request ← writeOpenRequest config tree work answers
  let (tree, temp) ← openTemporary tree request.parent 8 answers.opens
  return (tree, writeHandle work request temp answers)

def handleWriteOpen (config : FilesConfig) (task : FileTask) (work : FileWork) (answers : Answers) :
    FileTask × FileCompletion :=
  if task.handle.kind ≠ .none then (task, refusal work FileType.writeOpened .busy)
  else
    match openForWriting config task.tree work answers with
    | .error status => ({ task with handle := .zero }, refusal work FileType.writeOpened status)
    | .ok (tree, handle) =>
      if answers.hashSetup then
        ({ tree, handle, receipt := { task.receipt with valid := false } },
          { completionBegin work FileType.writeOpened .ok
              (irisPutLe32 handle.streamId ++ irisPutLe16 config.chunkBytes ++ [0, 0]) with
            streamId := handle.streamId
            flags := Flag.response ||| Flag.streamBegin })
      else
        ({ task with tree := closeHandle tree handle answers.unlink, handle := .zero },
          refusal work FileType.writeOpened .io)

/-- The loop over `write`; `answers` that run out are a failed call. -/
def writeLoop (path : Path) : Tree → List UInt8 → List WriteAnswer → Tree × FileStatus
  | tree, [], _ => (tree, .ok)
  | tree, _ :: _, [] => (tree, .io)
  | tree, byte :: data, answer :: answers =>
    if answer.count = 0 then (tree, statusFromErrno answer.errno)
    else
      writeLoop path (appendFile tree path ((byte :: data).take answer.count)) ((byte :: data).drop answer.count)
        answers

/-- What `handle_write` asks of a request before it writes. -/
def acceptsWrite (config : FilesConfig) (handle : FileHandle) (work : FileWork) : Bool :=
  let dataSize := (irisGetLe16 work.payload 8).toNat
  12 < work.payload.length && handle.kind == .write && handle.matches work &&
    irisGetLe16 work.payload 10 == 0 && dataSize != 0 && decide (dataSize ≤ config.chunkBytes.toNat) &&
    work.payload.length == 12 + dataSize && field work.payload 0 8 == handle.committed &&
    decide (handle.committed ≤ handle.size) && decide (dataSize ≤ handle.size - handle.committed)

def abortTransfer (task : FileTask) (tree : Tree) (result : FileStatus) (unlink : Option Errno) : FileTask where
  tree := closeHandle tree task.handle unlink
  handle := .zero
  receipt := setWriteReceipt task.handle .aborted result

def digestStatus (written : FileStatus) (hashUpdate : Bool) : FileStatus :=
  if written = .ok ∧ !hashUpdate then .io else written

def handleWrite (config : FilesConfig) (task : FileTask) (work : FileWork) (answers : Answers) :
    FileTask × FileCompletion :=
  if !acceptsWrite config task.handle work then (task, refusal work FileType.writeAck .invalidArgument)
  else
    let data := work.payload.drop 12
    let result := writeLoop task.handle.tempPath task.tree data answers.writes
    let status := digestStatus result.2 answers.hashUpdate
    if status ≠ .ok then
      (abortTransfer task result.1 status answers.unlink,
        { refusal work FileType.writeAck status with flags := Flag.response ||| Flag.streamEnd })
    else
      let committed := task.handle.committed + data.length
      ({ task with tree := result.1, handle := { task.handle with committed, hashed := task.handle.hashed ++ data } },
        completionBegin work FileType.writeAck .ok (irisPutLe64 (UInt64.ofNat committed)))

def namesTransfer (handle : FileHandle) (work : FileWork) : Bool := handle.kind == .write && handle.matches work

/-- Everything `handle_commit` does before the rename. -/
def commitChecks (sha256 : List UInt8 → List UInt8) (task : FileTask) (work : FileWork) (answers : Answers) :
    Except FileStatus Unit := do
  let handle := task.handle
  refuseIf (handle.committed ≠ handle.size) .conflict
  refuseIf (!answers.hashFinish) .io
  let digest := sha256 handle.hashed
  refuseIf (digest.length ≠ 32 ∨ digest ≠ work.payload) .hashMismatch
  let existing ← targetMetadata task.tree handle.targetPath answers.target
  refuseIf (existing.isSome ≠ handle.targetExisted ∨
    existing.any fun metadata => weakEtag metadata != handle.originalEtag) .conflict
  checkCall answers.fsync
  checkCall answers.close

/-- The checks, the rename and the `file_stat` after it: the tree, the temporary file that is left,
and the status or the metadata that is answered. -/
def commitFile (sha256 : List UInt8 → List UInt8) (task : FileTask) (work : FileWork) (answers : Answers) :
    Tree × Path × Except FileStatus Metadata :=
  match commitChecks sha256 task work answers with
  | .error status => (task.tree, task.handle.tempPath, .error status)
  | .ok () =>
    match renameNode task.tree task.handle.tempPath task.handle.targetPath answers.rename with
    | .error value => (task.tree, task.handle.tempPath, .error (statusFromErrno value))
    | .ok tree => (tree, [], ofCall (fileStat tree task.handle.targetPath answers.renamed))

def handleCommit (sha256 : List UInt8 → List UInt8) (task : FileTask) (work : FileWork) (answers : Answers) :
    FileTask × FileCompletion :=
  if work.payload.length ≠ 32 ∨ !namesTransfer task.handle work then
    (task, refusal work FileType.commitResponse .invalidArgument)
  else
    let (tree, tempPath, outcome) := commitFile sha256 task work answers
    let closed := closeHandle tree { task.handle with tempPath } answers.unlink
    match outcome with
    | .ok metadata =>
      ({ tree := closed, handle := .zero, receipt := setWriteReceipt task.handle .committed .ok },
        { completionBegin work FileType.commitResponse .ok (encodeMetadata metadata) with
          flags := Flag.response ||| Flag.streamEnd })
    | .error status =>
      ({ tree := closed, handle := .zero, receipt := setWriteReceipt task.handle .aborted status },
        { refusal work FileType.commitResponse status with flags := Flag.response ||| Flag.streamEnd })

def handleAbort (task : FileTask) (work : FileWork) (answers : Answers) : FileTask × FileCompletion :=
  if work.payload ≠ [] ∨ !namesTransfer task.handle work then
    (task, refusal work FileType.abortResponse .invalidArgument)
  else
    (abortTransfer task task.tree .conflict answers.unlink,
      { completionBegin work FileType.abortResponse .ok [] with flags := Flag.response ||| Flag.streamEnd })

def writeStatusPayload (committed expected : Nat) (state : UInt8) (result : FileStatus) : List UInt8 :=
  irisPutLe64 (UInt64.ofNat committed) ++ irisPutLe64 (UInt64.ofNat expected) ++ [state, 0, 0, 0] ++
    irisPutLe16 result.code ++ [0, 0]

def handleWriteStatus (handle : FileHandle) (receipt : WriteReceipt) (work : FileWork) : FileCompletion :=
  if work.payload ≠ [] then refusal work FileType.writeStatusResponse .invalidArgument
  else if namesTransfer handle work then
    completionBegin work FileType.writeStatusResponse .ok
      (writeStatusPayload handle.committed handle.size WriteState.active.code .ok)
  else if receipt.valid && receipt.sessionId == work.sessionId && receipt.streamId == work.streamId then
    completionBegin work FileType.writeStatusResponse .ok
      (writeStatusPayload receipt.committed receipt.expected ((receipt.state.map WriteState.code).getD 0)
        receipt.result)
  else refusal work FileType.writeStatusResponse .notFound

def describe (tree : Tree) (path : Path) (work : FileWork) (type : UInt8) (answer : StatAnswer) : FileCompletion :=
  match fileStat tree path answer with
  | .error value => refusal work type (statusFromErrno value)
  | .ok metadata => completionBegin work type .ok (encodeMetadata metadata)

def mkdirTarget (config : FilesConfig) (tree : Tree) (work : FileWork) (answers : Answers) :
    Except FileStatus Path := do
  let request ← decodePathRequest config.volumes work.payload
  refuseIf (!request.volume.has Capability.mkdir) .readOnly
  let (_, target) ← resolveParentPath request.volume request.relative tree answers.components
  let existing ← targetMetadata tree target answers.target
  refuseIf existing.isSome .exists
  return target

def handleMkdir (config : FilesConfig) (tree : Tree) (work : FileWork) (answers : Answers) (handle : FileHandle) :
    Tree × FileCompletion :=
  if handle.kind ≠ .none then (tree, refusal work FileType.mkdirResponse .busy)
  else
    match mkdirTarget config tree work answers with
    | .error status => (tree, refusal work FileType.mkdirResponse status)
    | .ok target =>
      match makeDirectory tree target answers.change with
      | .error value => (tree, refusal work FileType.mkdirResponse (statusFromErrno value))
      | .ok made => (made, describe made target work FileType.mkdirResponse answers.renamed)

def deletedTree (config : FilesConfig) (tree : Tree) (work : FileWork) (answers : Answers) :
    Except FileStatus Tree := do
  let request ← decodePathRequest config.volumes work.payload
  refuseIf (request.relative = []) .invalidArgument
  refuseIf (!request.volume.has Capability.delete) .readOnly
  let (target, metadata) ← resolveExistingPath request.volume request.relative tree answers.components
  match metadata.type with
  | .directory =>
    let empty ← ofCall answers.isEmpty
    refuseIf (!empty) .notEmpty
    ofCall (removeDirectory tree target answers.change)
  | .regular => ofCall (unlinkFile tree target answers.change)
  | _ => .error .notSupported

def handleDelete (config : FilesConfig) (tree : Tree) (work : FileWork) (answers : Answers) (handle : FileHandle) :
    Tree × FileCompletion :=
  if handle.kind ≠ .none then (tree, refusal work FileType.deleteResponse .busy)
  else
    match deletedTree config tree work answers with
    | .error status => (tree, refusal work FileType.deleteResponse status)
    | .ok deleted => (deleted, completionBegin work FileType.deleteResponse .ok [])

structure RenameRequest where
  volume : Volume
  source : Path
  destination : Path
  deriving DecidableEq, Repr

def decodeRenameRequest (volumes : List Volume) (payload : List UInt8) : Except FileStatus RenameRequest :=
  if payload.length < 8 then .error .invalidArgument
  else
    let volumeSize := (byteAt payload 0).toNat
    let sourceSize := (irisGetLe16 payload 2).toNat
    let destinationSize := (irisGetLe16 payload 4).toNat
    if byteAt payload 1 ≠ 0 ∨ irisGetLe16 payload 6 ≠ 0 ∨ volumeSize = 0 ∨ volumeIdMax < volumeSize ∨
        sourceSize = 0 ∨ pathMax < sourceSize ∨ destinationSize = 0 ∨ pathMax < destinationSize ∨
        payload.length ≠ 8 + volumeSize + sourceSize + destinationSize then .error .invalidArgument
    else
      match findVolume volumes ((payload.drop 8).take volumeSize) with
      | none => .error .notFound
      | some volume =>
        let source := (payload.drop (8 + volumeSize)).take sourceSize
        let destination := (payload.drop (8 + volumeSize + sourceSize)).take destinationSize
        if !validRelativePath source ∨ !validRelativePath destination ∨ source = destination then
          .error .invalidArgument
        else .ok { volume, source, destination }

def renamePaths (config : FilesConfig) (tree : Tree) (work : FileWork) (answers : Answers) :
    Except FileStatus (Path × Path) := do
  let request ← decodeRenameRequest config.volumes work.payload
  refuseIf (!request.volume.has Capability.rename) .readOnly
  let (source, metadata) ← resolveExistingPath request.volume request.source tree answers.components
  refuseIf (metadata.type = .directory ∧ (request.source ++ [slash]) <+: request.destination) .invalidArgument
  let (_, destination) ← resolveParentPath request.volume request.destination tree answers.destination
  let existing ← targetMetadata tree destination answers.target
  refuseIf existing.isSome .exists
  return (source, destination)

def handleRename (config : FilesConfig) (tree : Tree) (work : FileWork) (answers : Answers) (handle : FileHandle) :
    Tree × FileCompletion :=
  if handle.kind ≠ .none then (tree, refusal work FileType.renameResponse .busy)
  else
    match renamePaths config tree work answers with
    | .error status => (tree, refusal work FileType.renameResponse status)
    | .ok (source, destination) =>
      match renameNode tree source destination answers.rename with
      | .error value => (tree, refusal work FileType.renameResponse (statusFromErrno value))
      | .ok renamed => (renamed, describe renamed destination work FileType.renameResponse answers.renamed)

def handleClose (handle : FileHandle) (work : FileWork) : FileHandle × FileCompletion :=
  if work.payload ≠ [] ∨ handle.kind = .none ∨ handle.kind = .write ∨ !handle.matches work then
    (handle, refusal work FileType.closeResponse .invalidArgument)
  else
    (.zero, { completionBegin work FileType.closeResponse .ok [] with flags := Flag.response ||| Flag.streamEnd })

def FileTask.withTree (task : FileTask) (result : Tree × FileCompletion) : FileTask × FileCompletion :=
  ({ task with tree := result.1 }, result.2)

def FileTask.withHandle (task : FileTask) (result : FileHandle × FileCompletion) : FileTask × FileCompletion :=
  ({ task with handle := result.1 }, result.2)

def processWork (config : FilesConfig) (sha256 : List UInt8 → List UInt8) (task : FileTask) (work : FileWork)
    (answers : Answers) : FileTask × FileCompletion :=
  if work.type = FileType.volumesRequest then (task, handleVolumes config work)
  else if work.type = FileType.statRequest then (task, handleStat config task.tree work answers)
  else if work.type = FileType.listOpen then task.withHandle (handleListOpen config task.tree work answers task.handle)
  else if work.type = FileType.listNext then (task, handleListNext task.tree work answers task.handle)
  else if work.type = FileType.readOpen then task.withHandle (handleReadOpen config task.tree work answers task.handle)
  else if work.type = FileType.read then (task, handleRead config task.tree work answers task.handle)
  else if work.type = FileType.writeOpen then handleWriteOpen config task work answers
  else if work.type = FileType.write then handleWrite config task work answers
  else if work.type = FileType.commit then handleCommit sha256 task work answers
  else if work.type = FileType.abort then handleAbort task work answers
  else if work.type = FileType.mkdir then task.withTree (handleMkdir config task.tree work answers task.handle)
  else if work.type = FileType.delete then task.withTree (handleDelete config task.tree work answers task.handle)
  else if work.type = FileType.rename then task.withTree (handleRename config task.tree work answers task.handle)
  else if work.type = FileType.writeStatus then (task, handleWriteStatus task.handle task.receipt work)
  else if work.type = FileType.close then task.withHandle (handleClose task.handle work)
  else (task, refusal work (responseTypeFor work.type) .notSupported)

def sessionEnd (task : FileTask) (sessionId : UInt32) (unlink : Option Errno) : FileTask :=
  let closed : FileTask :=
    if task.handle.kind ≠ .none ∧ task.handle.sessionId = sessionId then
      { task with tree := closeHandle task.tree task.handle unlink, handle := .zero }
    else task
  if task.receipt.valid ∧ task.receipt.sessionId = sessionId then
    { closed with receipt := { task.receipt with valid := false } }
  else closed

/-- `IRIS_FILE_WORK_STOP`, and the task that `iris_files_init` creates after it. -/
def restartTask (task : FileTask) (unlink : Option Errno) : FileTask :=
  .zero (closeHandle task.tree task.handle unlink)

@[simp] theorem completionBegin_status (work : FileWork) (type : UInt8) (status : FileStatus) (rest : List UInt8) :
    (completionBegin work type status rest).status = status.code := by
  apply UInt16.toNat_inj.mp
  unfold completionBegin FileCompletion.status
  rw [irisGetLe16_toNat, irisPutLe16_eq, List.append_assoc]
  exact field_littleEndian 2 _ _ status.code.toNat_lt

@[simp] theorem refusal_status (work : FileWork) (type : UInt8) (status : FileStatus) :
    (refusal work type status).status = status.code :=
  completionBegin_status work type status []

theorem digestStatus_ok {written : FileStatus} {hashUpdate : Bool} (taken : digestStatus written hashUpdate = .ok) :
    written = .ok := by
  unfold digestStatus at taken
  split at taken
  next => contradiction
  next => exact taken

theorem refuseIf_honest {refused : Prop} [Decidable refused] {status : FileStatus} (failure : status ≠ .ok) :
    Honest (refuseIf refused status) := .ite (.error failure) (.ok _)

theorem checkCall_honest (failure : Option Errno) : Honest (checkCall failure) := by
  unfold checkCall
  split
  next => exact .errno _
  next => exact .ok _

theorem openTemporary_honest (tree : Tree) (parent : Path) (attempts : Nat) (opens : List (UInt32 × Option Errno)) :
    Honest (openTemporary tree parent attempts opens) := by
  induction attempts generalizing opens with
  | zero => exact .error (by decide)
  | succ attempts ih =>
    unfold openTemporary
    apply Honest.ite (.error (by decide))
    split
    next => exact .ok _
    next => exact ih _
    next => exact .errno _

theorem writeOpenRequest_honest (config : FilesConfig) (tree : Tree) (work : FileWork) (answers : Answers) :
    Honest (writeOpenRequest config tree work answers) := by
  unfold writeOpenRequest
  apply Honest.bind (decodePathRequestWithTrailer_honest _ _ _)
  intro request
  apply Honest.bind (refuseIf_honest (by decide))
  intro
  apply Honest.bind (refuseIf_honest (by decide))
  intro
  apply Honest.bind (resolveParentPath_honest _ _ _ _)
  intro resolved
  apply Honest.bind (targetMetadata_honest _ _ _)
  intro existing
  apply Honest.bind (refuseIf_honest (by decide))
  intro
  apply Honest.bind (refuseIf_honest (by decide))
  intro
  apply Honest.bind (refuseIf_honest (by decide))
  intro
  exact Honest.bind (refuseIf_honest (by decide)) fun _ => .ok _

theorem openForWriting_honest (config : FilesConfig) (tree : Tree) (work : FileWork) (answers : Answers) :
    Honest (openForWriting config tree work answers) :=
  .bind (writeOpenRequest_honest _ _ _ _) fun _ => .bind (openTemporary_honest _ _ _ _) fun _ => .ok _

theorem commitChecks_honest (sha256 : List UInt8 → List UInt8) (task : FileTask) (work : FileWork)
    (answers : Answers) : Honest (commitChecks sha256 task work answers) := by
  unfold commitChecks
  apply Honest.bind (refuseIf_honest (by decide))
  intro
  apply Honest.bind (refuseIf_honest (by decide))
  intro
  apply Honest.bind (refuseIf_honest (by decide))
  intro
  apply Honest.bind (targetMetadata_honest _ _ _)
  intro existing
  apply Honest.bind (refuseIf_honest (by decide))
  intro
  exact Honest.bind (checkCall_honest _) fun _ => checkCall_honest _

theorem refuseIf_ok {refused : Prop} [Decidable refused] {status : FileStatus} {done : Unit} :
    refuseIf refused status = .ok done ↔ ¬ refused := by
  unfold refuseIf
  split
  next holds => simp [holds]
  next fails => simp [fails]

theorem closeHandle_other {tree : Tree} {handle : FileHandle} {unlink : Option Errno} {path : Path}
    (other : path ≠ handle.tempPath) : closeHandle tree handle unlink path = tree path := by
  unfold closeHandle
  split
  next =>
    cases unlinked : unlinkFile tree handle.tempPath unlink with
    | error value => rfl
    | ok after =>
      show after path = tree path
      rw [unlinkFile_ok unlinked, Function.update_of_ne other]
  next => rfl

theorem closeHandle_committed {tree : Tree} {handle : FileHandle} {unlink : Option Errno}
    (moved : handle.tempPath = []) : closeHandle tree handle unlink = tree := by
  unfold closeHandle
  rw [if_neg fun named => named.2 moved]

theorem appendFile_other {tree : Tree} {path other : Path} {data : List UInt8} (different : other ≠ path) :
    appendFile tree path data other = tree other := by
  unfold appendFile
  cases tree path with
  | none => rfl
  | some node =>
    cases node with
    | regular content => exact Function.update_of_ne different _ _
    | _ => rfl

theorem appendFile_same {tree : Tree} {path : Path} {content data : List UInt8}
    (file : tree path = some (.regular content)) :
    appendFile tree path data path = some (.regular (content ++ data)) := by
  unfold appendFile
  rw [file]
  exact Function.update_self _ _ _

theorem writeLoop_other {path other : Path} (different : other ≠ path) (tree : Tree) (data : List UInt8)
    (answers : List WriteAnswer) : (writeLoop path tree data answers).1 other = tree other := by
  induction answers generalizing tree data with
  | nil =>
    cases data with
    | nil => rfl
    | cons => rfl
  | cons answer answers ih =>
    cases data with
    | nil => rfl
    | cons byte data =>
      unfold writeLoop
      split
      next => rfl
      next => rw [ih, appendFile_other different]

/-- A loop that ends well has appended all the data, however short each write was. -/
theorem writeLoop_ok {path : Path} {tree : Tree} {content data : List UInt8} {answers : List WriteAnswer}
    (file : tree path = some (.regular content)) (written : (writeLoop path tree data answers).2 = .ok) :
    (writeLoop path tree data answers).1 path = some (.regular (content ++ data)) := by
  induction answers generalizing tree content data with
  | nil =>
    cases data with
    | nil => simpa [writeLoop] using file
    | cons => simp [writeLoop] at written
  | cons answer answers ih =>
    cases data with
    | nil => simpa [writeLoop] using file
    | cons byte data =>
      unfold writeLoop at written ⊢
      split at written
      next => exact absurd written (statusFromErrno_ne_ok _)
      next took =>
        rw [if_neg took]
        have rest := ih (appendFile_same file) written
        rwa [List.append_assoc, List.take_append_drop] at rest

end EspIris.Device.Files
