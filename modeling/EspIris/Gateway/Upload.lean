import EspIris.Device.Files

/-! `DeviceFiles.upload` of `iris_gateway/files.py` as a coroutine: it stands at an `await`, and an
event takes it to the next one, with the request that it sends on the way. -/

namespace EspIris.Gateway.Upload
open Bytes Device.Files

/-- What `DeviceFiles` reads of a response frame on the FILE channel. -/
structure FileFrame where
  type : UInt8
  streamId : UInt32
  payload : List UInt8
  deriving DecidableEq, Repr

structure FileRequest where
  type : UInt8
  streamId : UInt32
  payload : List UInt8
  deriving DecidableEq, Repr

inductive FileError
  | service (status : FileStatus)
  | protocol
  deriving DecidableEq, Repr

def fileStatus : Nat → Option FileStatus
  | 0 => some .ok
  | 1 => some .invalidArgument
  | 2 => some .notFound
  | 3 => some .notDirectory
  | 4 => some .notFile
  | 5 => some .readOnly
  | 6 => some .busy
  | 7 => some .noMemory
  | 8 => some .io
  | 9 => some .notSupported
  | 10 => some .conflict
  | 11 => some .exists
  | 12 => some .notEmpty
  | 13 => some .noSpace
  | 14 => some .hashMismatch
  | _ => none

def packUint (width value : Nat) : List UInt8 := littleEndian width value

def checked (frame : FileFrame) (type : UInt8) (minimum : Nat) : Except FileError (List UInt8) :=
  if frame.type ≠ type ∨ frame.payload.length < 4 then .error .protocol
  else
    match fileStatus (field frame.payload 0 2) with
    | none => .error .protocol
    | some .ok => if frame.payload.length < minimum then .error .protocol else .ok frame.payload
    | some status => .error (.service status)

structure UploadRequest where
  volume : List UInt8
  path : Path
  totalSize : Nat
  overwrite : Bool
  ifMatch : Option UInt64
  deriving DecidableEq, Repr

def validIdentifier (byte : UInt8) : Bool :=
  (0x41 ≤ byte && byte ≤ 0x5a) || (0x61 ≤ byte && byte ≤ 0x7a) || (0x30 ≤ byte && byte ≤ 0x39) || byte == 0x5f ||
    byte == 0x2d

/-- `_path_payload`, over the UTF-8 encoding of the path; a `ValueError` is `none`. -/
def pathPayload (volume : List UInt8) (path : Path) : Option (List UInt8) :=
  if volume = [] ∨ 15 < volume.length ∨ !volume.all validIdentifier then none
  else if path.head? = some slash ∨ path.getLast? = some slash ∨ path.contains 0x5c then none
  else if path ≠ [] ∧ (path.splitOn slash).any fun part => part.isEmpty || part == [0x2e] || part == [0x2e, 0x2e] then
    none
  else if 255 < path.length ∨ path.any fun value => value < 0x20 || value == 0x7f then none
  else some ([UInt8.ofNat volume.length, 0] ++ packUint 2 path.length ++ volume ++ path)

def openPayload (request : UploadRequest) : Option (List UInt8) :=
  if 2 ^ 63 ≤ request.totalSize then none
  else
    let flags := (if request.overwrite then 1 else 0) + (if request.ifMatch.isSome then 2 else 0)
    (pathPayload request.volume request.path).map fun payload =>
      payload ++ (packUint 8 request.totalSize ++ packUint 8 (request.ifMatch.getD 0).toNat ++ packUint 2 flags ++
        packUint 2 0)

def openedStream (frame : FileFrame) : Except FileError (UInt32 × Nat) := do
  let payload ← checked frame FileType.writeOpened 12
  let streamId := UInt32.ofNat (field payload 4 4)
  let chunkMax := field payload 8 2
  if payload.length ≠ 12 ∨ streamId = 0 ∨ frame.streamId ≠ streamId ∨ chunkMax = 0 ∨ field payload 10 2 ≠ 0 then
    .error .protocol
  else .ok (streamId, chunkMax)

structure WriteStatus where
  committed : Nat
  expected : Nat
  state : WriteState
  result : FileStatus
  deriving DecidableEq, Repr

def writeStateOf (code : UInt8) : Option WriteState :=
  if code = 1 then some .active
  else if code = 2 then some .committed
  else if code = 3 then some .aborted
  else none

/-- `write_status`, after its request was answered. -/
def writeStatus (frame : FileFrame) (streamId : UInt32) : Except FileError WriteStatus := do
  let payload ← checked frame FileType.writeStatusResponse 28
  if payload.length ≠ 28 ∨ frame.streamId ≠ streamId then .error .protocol
  else if field payload 21 3 ≠ 0 ∨ field payload 26 2 ≠ 0 then .error .protocol
  else
    match writeStateOf (byteAt payload 20), fileStatus (field payload 24 2) with
    | some state, some result => .ok { committed := field payload 4 8, expected := field payload 12 8, state, result }
    | _, _ => .error .protocol

structure FileMetadata where
  kind : UInt8
  size : Nat
  mtime : Nat
  etag : Nat
  deriving DecidableEq, Repr

/-- `_metadata` of a payload that has it behind the status. -/
def metadataOf (payload : List UInt8) : Except FileError FileMetadata :=
  let kind := byteAt payload 4
  if payload.length < 32 ∨ byteAt payload 5 ≠ 0 ∨ field payload 6 2 ≠ 0 ∨ (kind ≠ 1 ∧ kind ≠ 2) then .error .protocol
  else .ok { kind, size := field payload 8 8, mtime := field payload 16 8, etag := field payload 24 8 }

structure UploadResult where
  metadata : FileMetadata
  sha256 : List UInt8
  replaced : Bool
  deriving DecidableEq, Repr

/-- The `await` where the coroutine stands. -/
inductive Point
  | opening
  | choosing
  | writing (part : List UInt8) (attempt : Nat)
  | checkingWrite (part : List UInt8) (attempt tries : Nat)
  | committing (again : Bool)
  | checkingCommit (tries : Nat)
  | stating
  | aborting
  | succeeded (result : UploadResult)
  | failed
  deriving DecidableEq, Repr

/-- The local variables of `upload`; `rest` is what is not sent of the current chunk, and `hashed`
what the digest took. -/
structure Uploader where
  request : UploadRequest
  point : Point
  streamId : UInt32
  chunkMax : Nat
  committed : Nat
  hashed : List UInt8
  rest : List UInt8
  deriving DecidableEq, Repr

inductive UploadEvent
  /-- The pending request is answered. -/
  | answer (frame : FileFrame)
  /-- `asyncio.TimeoutError`, before or after the request was written. -/
  | timeout
  /-- Any other exception: a lost connection, a cancellation, a failing source or progress callback. -/
  | raise
  | chunk (data : List UInt8)
  | ended
  /-- The next part of the current chunk. -/
  | proceed
  deriving DecidableEq, Repr

def Uploader.ask (uploader : Uploader) (point : Point) (type : UInt8) (payload : List UInt8) :
    Uploader × Option FileRequest :=
  ({ uploader with point }, some { type, streamId := uploader.streamId, payload })

def Uploader.stop (uploader : Uploader) (point : Point) : Uploader × Option FileRequest :=
  ({ uploader with point }, none)

/-- The `finally` of an upload that is not complete. -/
def Uploader.abort (uploader : Uploader) : Uploader × Option FileRequest :=
  uploader.ask .aborting FileType.abort []

def Uploader.sendPart (uploader : Uploader) (part : List UInt8) (attempt : Nat) : Uploader × Option FileRequest :=
  uploader.ask (.writing part attempt) FileType.write
    (packUint 8 uploader.committed ++ packUint 2 part.length ++ packUint 2 0 ++ part)

def Uploader.askStatus (uploader : Uploader) (point : Point) : Uploader × Option FileRequest :=
  uploader.ask point FileType.writeStatus []

def Uploader.commit (uploader : Uploader) (sha256 : List UInt8 → List UInt8) (again : Bool) :
    Uploader × Option FileRequest :=
  uploader.ask (.committing again) FileType.commit (sha256 uploader.hashed)

/-- `digest.update(part)` and `committed = target`. -/
def Uploader.acknowledge (uploader : Uploader) (part : List UInt8) : Uploader × Option FileRequest :=
  ({ uploader with
      point := .choosing
      committed := uploader.committed + part.length
      hashed := uploader.hashed ++ part }, none)

def Uploader.takesAck (uploader : Uploader) (part : List UInt8) (frame : FileFrame) : Bool :=
  match checked frame FileType.writeAck 12 with
  | .error _ => false
  | .ok ack =>
    ack.length == 12 && frame.streamId == uploader.streamId && field ack 4 8 == uploader.committed + part.length

/-- `complete = True` and the result, whose metadata may still be malformed. -/
def Uploader.complete (uploader : Uploader) (sha256 : List UInt8 → List UInt8) (payload : List UInt8) :
    Uploader × Option FileRequest :=
  match metadataOf payload with
  | .error _ => uploader.stop .failed
  | .ok metadata =>
    uploader.stop
      (.succeeded { metadata, sha256 := sha256 uploader.hashed, replaced := uploader.request.overwrite })

def Uploader.onAnswer (sha256 : List UInt8 → List UInt8) (uploader : Uploader) (frame : FileFrame) :
    Option (Uploader × Option FileRequest) :=
  match uploader.point with
  | .opening =>
    match openedStream frame with
    | .error _ => some (uploader.stop .failed)
    | .ok (streamId, chunkMax) => some ({ uploader with point := .choosing, streamId, chunkMax }, none)
  | .writing part _ =>
    if uploader.takesAck part frame then some (uploader.acknowledge part) else some uploader.abort
  | .checkingWrite part attempt tries =>
    match writeStatus frame uploader.streamId with
    | .error (.service .busy) =>
      if tries = 11 then some uploader.abort else some (uploader.askStatus (.checkingWrite part attempt (tries + 1)))
    | .error _ => some uploader.abort
    | .ok status =>
      if status.committed = uploader.committed + part.length then some (uploader.acknowledge part)
      else if status.committed ≠ uploader.committed ∨ attempt ≠ 0 then some uploader.abort
      else some (uploader.sendPart part (attempt + 1))
  | .committing _ =>
    match checked frame FileType.commitResponse 32 with
    | .error _ => some uploader.abort
    | .ok result =>
      if result.length ≠ 32 ∨ frame.streamId ≠ uploader.streamId then some uploader.abort
      else some (uploader.complete sha256 result)
  | .checkingCommit tries =>
    match writeStatus frame uploader.streamId with
    | .error (.service .busy) =>
      if tries = 11 then some uploader.abort else some (uploader.askStatus (.checkingCommit (tries + 1)))
    | .error _ => some uploader.abort
    | .ok status =>
      if status.state = .committed ∧ status.result = .ok then
        match pathPayload uploader.request.volume uploader.request.path with
        | none => some (uploader.stop .failed)
        | some payload =>
          some ({ uploader with point := .stating }, some { type := FileType.statRequest, streamId := 0, payload })
      else if status.state ≠ .active then some uploader.abort
      else some (uploader.commit sha256 true)
  | .stating =>
    match checked frame FileType.statResponse 32 with
    | .error _ => some (uploader.stop .failed)
    | .ok payload =>
      if payload.length ≠ 32 then some (uploader.stop .failed) else some (uploader.complete sha256 payload)
  | .aborting => some (uploader.stop .failed)
  | .choosing | .succeeded _ | .failed => none

def Uploader.onTimeout (uploader : Uploader) : Option (Uploader × Option FileRequest) :=
  match uploader.point with
  | .opening | .stating | .aborting => some (uploader.stop .failed)
  | .writing part attempt => some (uploader.askStatus (.checkingWrite part attempt 0))
  | .committing false => some (uploader.askStatus (.checkingCommit 0))
  | .checkingWrite _ _ _ | .committing true | .checkingCommit _ => some uploader.abort
  | .choosing | .succeeded _ | .failed => none

def Uploader.onRaise (uploader : Uploader) : Option (Uploader × Option FileRequest) :=
  match uploader.point with
  | .opening | .stating | .aborting => some (uploader.stop .failed)
  | .choosing | .writing _ _ | .checkingWrite _ _ _ | .committing _ | .checkingCommit _ => some uploader.abort
  | .succeeded _ | .failed => none

def Uploader.next (sha256 : List UInt8 → List UInt8) (uploader : Uploader) :
    UploadEvent → Option (Uploader × Option FileRequest)
  | .answer frame => uploader.onAnswer sha256 frame
  | .timeout => uploader.onTimeout
  | .raise => uploader.onRaise
  | .chunk data =>
    if uploader.point ≠ .choosing ∨ uploader.rest ≠ [] then none
    else if uploader.request.totalSize < uploader.committed + data.length then some uploader.abort
    else some ({ uploader with rest := data }, none)
  | .ended =>
    if uploader.point ≠ .choosing ∨ uploader.rest ≠ [] then none
    else if uploader.committed ≠ uploader.request.totalSize then some uploader.abort
    else some (uploader.commit sha256 false)
  | .proceed =>
    if uploader.point ≠ .choosing ∨ uploader.rest = [] then none
    else
      let part := uploader.rest.take uploader.chunkMax
      some ({ uploader with rest := uploader.rest.drop uploader.chunkMax }.sendPart part 0)

/-- The start of `upload`; without a request it has raised `ValueError`. -/
def startUpload (request : UploadRequest) : Uploader × Option FileRequest :=
  let uploader : Uploader :=
    { request, point := .opening, streamId := 0, chunkMax := 0, committed := 0, hashed := [], rest := [] }
  match openPayload request with
  | none => uploader.stop .failed
  | some payload => uploader.ask .opening FileType.writeOpen payload

theorem fileStatus_ok {code : Nat} (named : fileStatus code = some .ok) : code = 0 := by
  unfold fileStatus at named
  split at named <;> first | rfl | contradiction

theorem checked_ok {frame : FileFrame} {type : UInt8} {minimum : Nat} {payload : List UInt8}
    (taken : checked frame type minimum = .ok payload) : payload = frame.payload ∧ field frame.payload 0 2 = 0 := by
  unfold checked at taken
  split at taken
  next => contradiction
  split at taken
  next => contradiction
  next named =>
    split at taken
    next => contradiction
    cases taken
    exact ⟨rfl, fileStatus_ok named⟩
  next => contradiction

theorem bind_ok {Value Next : Type} {call : Except FileError Value} {rest : Value → Except FileError Next}
    {next : Next} (goes : call >>= rest = .ok next) : ∃ value, call = .ok value ∧ rest value = .ok next := by
  cases call with
  | error failure => contradiction
  | ok value => exact ⟨value, rfl, goes⟩

theorem openedStream_ok {frame : FileFrame} {streamId : UInt32} {chunkMax : Nat}
    (opened : openedStream frame = .ok (streamId, chunkMax)) :
    field frame.payload 0 2 = 0 ∧ frame.streamId = streamId ∧ chunkMax ≠ 0 := by
  obtain ⟨payload, taken, opened⟩ := bind_ok opened
  obtain ⟨rfl, says_ok⟩ := checked_ok taken
  dsimp only at opened
  split at opened
  next => contradiction
  next fine =>
    simp only [not_or, not_not] at fine
    cases opened
    exact ⟨says_ok, fine.2.2.1, fine.2.2.2.1⟩

theorem writeStatus_ok {frame : FileFrame} {streamId : UInt32} {status : WriteStatus}
    (told : writeStatus frame streamId = .ok status) :
    field frame.payload 0 2 = 0 ∧ status.committed = field frame.payload 4 8 ∧
      writeStateOf (byteAt frame.payload 20) = some status.state := by
  obtain ⟨payload, taken, told⟩ := bind_ok told
  obtain ⟨rfl, says_ok⟩ := checked_ok taken
  split at told
  next => contradiction
  split at told
  next => contradiction
  split at told
  next state result found _ =>
    cases told
    exact ⟨says_ok, rfl, found⟩
  next => contradiction

theorem writeStateOf_committed {code : UInt8} (named : writeStateOf code = some .committed) : code = 2 := by
  unfold writeStateOf at named
  split at named
  next => contradiction
  split at named
  next same => exact same
  split at named
  next => contradiction
  next => contradiction

theorem takesAck_ok {uploader : Uploader} {part : List UInt8} {frame : FileFrame}
    (taken : uploader.takesAck part frame = true) : field frame.payload 0 2 = 0 := by
  unfold Uploader.takesAck at taken
  split at taken
  next => contradiction
  next checked => exact (checked_ok checked).2

theorem metadataOf_size {payload : List UInt8} {metadata : FileMetadata} (described : metadataOf payload = .ok metadata) :
    metadata.size = field payload 8 8 := by
  unfold metadataOf at described
  dsimp only at described
  split at described
  next => contradiction
  cases described
  rfl

end EspIris.Gateway.Upload
