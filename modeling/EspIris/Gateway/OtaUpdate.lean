import EspIris.Codec.Device
import EspIris.Protocol

/-! `DeviceSession.ota_update` of `iris_gateway/session.py` as a coroutine: it stands at an `await`, and
an event takes it to the next one, with the requests that it sends on the way. -/

namespace EspIris.Gateway.OtaUpdate
open Bytes

structure OtaFrame where
  type : UInt8
  payload : List UInt8
  deriving DecidableEq, Repr

structure OtaRequest where
  channel : UInt8
  type : UInt8
  payload : List UInt8
  deriving DecidableEq, Repr

/-- The arguments of `ota_update`; the texts are encoded. -/
structure UpdateRequest where
  image : List UInt8
  digest : List UInt8
  project : List UInt8
  release : List UInt8
  deriving DecidableEq, Repr

inductive Evidence
  | endResponse
  | deviceJob
  | sessionClose
  deriving DecidableEq, Repr

/-- The `await` where the coroutine stands; `opened` is before its `try`. -/
inductive Point
  | beginning
  | opened
  | sending (batch : List (Nat × List UInt8)) (answers : List (Option OtaFrame))
  | checking (batch : List (Nat × List UInt8))
  | advancing
  | ending
  | checkingJob
  | cancelling
  | succeeded (evidence : Evidence)
  | failed
  deriving DecidableEq, Repr

structure Updater where
  request : UpdateRequest
  point : Point
  jobId : Nat
  chunkSize : UInt16
  offset : Nat
  deriving DecidableEq, Repr

inductive UpdateEvent
  /-- A pending request is answered. -/
  | answer (position : Nat) (frame : OtaFrame)
  | timeout
  /-- `ConnectionError` or `OSError`. -/
  | disconnect
  /-- Any other exception, such as a cancellation or a failing progress callback. -/
  | raise
  | proceed
  deriving DecidableEq, Repr

def otaInFlightBytes : Nat := 4096

/-- A step: where the coroutine goes, and what it sends. -/
abbrev Step := Updater × List OtaRequest

def Updater.stop (updater : Updater) (point : Point) : Step := ({ updater with point }, [])

def Updater.ask (updater : Updater) (point : Point) (type : UInt8) : Step :=
  ({ updater with point }, [⟨Channel.ota, type, []⟩])

/-- `except BaseException`. -/
def Updater.cancel (updater : Updater) : Step := updater.ask .cancelling OtaType.cancel

def batchFrom (image : List UInt8) (chunkSize offset : Nat) : Nat → List (Nat × List UInt8)
  | 0 => []
  | count + 1 =>
    if image.length ≤ offset then []
    else
      let chunk := (image.drop offset).take chunkSize
      (offset, chunk) :: batchFrom image chunkSize (offset + chunk.length) count

def dataRequest (part : Nat × List UInt8) : OtaRequest :=
  ⟨Channel.ota, OtaType.data, littleEndian 4 part.1 ++ part.2⟩

/-- The head of the loop, and what follows it. -/
def Updater.proceed (updater : Updater) : Step :=
  if updater.offset < updater.request.image.length then
    let chunkSize := updater.chunkSize.toNat
    let batch := batchFrom updater.request.image chunkSize updater.offset (max 1 (otaInFlightBytes / chunkSize))
    ({ updater with point := .sending batch (batch.map fun _ => none) }, batch.map dataRequest)
  else updater.ask .ending OtaType.finish

/-- The answers of a batch in order; the last offset, or the failure of a check. -/
def takeAnswers (offset : Nat) : List (Nat × List UInt8) → List OtaFrame → Option Nat
  | (chunkOffset, chunk) :: batch, frame :: frames =>
    if frame.type ≠ OtaType.dataResponse ∨ frame.payload.length ≠ 8 then none
    else if field frame.payload 0 4 ≠ chunkOffset + chunk.length ∨ field frame.payload 6 2 ≠ 0 then none
    else takeAnswers (chunkOffset + chunk.length) batch frames
  | _, _ => some offset

def Updater.onBegun (updater : Updater) (frame : OtaFrame) : Step :=
  let labelSize := (byteAt frame.payload 10).toNat
  let chunkSize := field frame.payload 8 2
  if frame.type ≠ OtaType.beginResponse ∨ frame.payload.length < 11 then updater.stop .failed
  else if field frame.payload 4 4 ≠ updater.request.image.length ∨ chunkSize = 0 ∨
      frame.payload.length ≠ 11 + labelSize then
    updater.stop .failed
  else ({ updater with point := .opened, jobId := field frame.payload 0 4, chunkSize := UInt16.ofNat chunkSize }, [])

/-- The answer to STATUS after a timeout. -/
def Updater.onStatus (updater : Updater) (batch : List (Nat × List UInt8)) (frame : OtaFrame) : Step :=
  let received := field frame.payload 8 4
  if frame.type ≠ OtaType.status ∨ frame.payload.length < 20 ∨
      frame.payload.length ≠ 20 + (byteAt frame.payload 15).toNat then
    updater.cancel
  else if byteAt frame.payload 14 = 0 ∨ field frame.payload 0 4 ≠ updater.jobId then updater.cancel
  else if received ∉ updater.offset :: batch.map fun part => part.1 + part.2.length then updater.cancel
  else ({ updater with point := .advancing, offset := received }, [])

/-- The checks of END_RESPONSE, which are behind the `try`. -/
def Updater.onEnded (updater : Updater) (frame : OtaFrame) : Step :=
  if frame.type ≠ OtaType.finishResponse ∨ frame.payload.length ≠ 8 then updater.stop .failed
  else if field frame.payload 0 4 ≠ updater.jobId ∨ field frame.payload 4 4 ≠ 0 then updater.stop .failed
  else updater.stop (.succeeded .endResponse)

/-- The answer to JOB_QUERY after END had none. -/
def Updater.onJob (updater : Updater) (frame : OtaFrame) : Step :=
  if frame.type ≠ ControlType.jobStatus ∨ frame.payload.length ≠ 16 ∨ field frame.payload 10 2 ≠ 0 then updater.cancel
  else if byteAt frame.payload 6 ≠ 2 ∨ field frame.payload 12 4 ≠ 0 then updater.cancel
  else updater.stop (.succeeded .deviceJob)

def Updater.onRaise (updater : Updater) : Option Step :=
  match updater.point with
  | .beginning | .opened | .cancelling => some (updater.stop .failed)
  | .sending _ _ | .checking _ | .advancing | .ending | .checkingJob => some updater.cancel
  | .succeeded _ | .failed => none

def Updater.onTimeout (updater : Updater) : Option Step :=
  match updater.point with
  | .sending batch _ => some (updater.ask (.checking batch) OtaType.status)
  | .ending =>
    if updater.jobId = 0 then some updater.cancel
    else
      some ({ updater with point := .checkingJob },
        [⟨Channel.control, ControlType.jobQuery, littleEndian 4 updater.jobId⟩])
  | _ => updater.onRaise

/-- An answer; an ERROR raises in the request that it answers. -/
def Updater.onAnswer (updater : Updater) (position : Nat) (frame : OtaFrame) : Option Step :=
  if frame.type = ControlType.error then updater.onRaise
  else
    match updater.point with
    | .beginning => some (updater.onBegun frame)
    | .sending batch answers =>
      let answers := answers.set position (some frame)
      if answers.all Option.isSome then
        match takeAnswers updater.offset batch answers.reduceOption with
        | none => some updater.cancel
        | some offset => some ({ updater with point := .advancing, offset }, [])
      else some ({ updater with point := .sending batch answers }, [])
    | .checking batch => some (updater.onStatus batch frame)
    | .ending => some (updater.onEnded frame)
    | .checkingJob => some (updater.onJob frame)
    | .cancelling => some (updater.stop .failed)
    | .opened | .advancing | .succeeded _ | .failed => none

def Updater.next (updater : Updater) : UpdateEvent → Option Step
  | .answer position frame => updater.onAnswer position frame
  | .timeout => updater.onTimeout
  | .disconnect => if updater.point = .ending then some (updater.stop (.succeeded .sessionClose)) else updater.onRaise
  | .raise => updater.onRaise
  | .proceed => if updater.point = .opened ∨ updater.point = .advancing then some updater.proceed else none

def beginPayload (request : UpdateRequest) : List UInt8 :=
  littleEndian 4 request.image.length ++ request.digest ++
    [UInt8.ofNat request.project.length, UInt8.ofNat request.release.length, 0, 0] ++ request.project ++ request.release

/-- The start of `ota_update`; without a request it has raised. -/
def startUpdate (request : UpdateRequest) : Step :=
  let updater : Updater := { request, point := .beginning, jobId := 0, chunkSize := 0, offset := 0 }
  if request.image = [] ∨ request.digest.length ≠ 32 ∨ 32 < request.project.length ∨ 32 < request.release.length ∨
      2 ^ 32 ≤ request.image.length then
    updater.stop .failed
  else (updater, [⟨Channel.ota, OtaType.begin, beginPayload request⟩])

end EspIris.Gateway.OtaUpdate
