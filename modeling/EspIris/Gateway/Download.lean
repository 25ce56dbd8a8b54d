import EspIris.Gateway.Upload

/-! `DeviceFiles.read_chunks` of `iris_gateway/files.py` as a coroutine: it stands at an `await` or at
its `yield`, and an event takes it to the next one, with the request that it sends on the way. -/

namespace EspIris.Gateway.Download
open Bytes Device.Files Upload
variable {frame : FileFrame} {streamId : UInt32} {totalSize chunkMax : Nat}
variable {content : List UInt8}

/-- The arguments of `read_chunks`. -/
structure ReadRequest where
  volume : List UInt8
  path : Path
  offset : Int
  length : Option Int
  deriving DecidableEq, Repr

def ReadRequest.InRange (request : ReadRequest) : Prop := 0 ≤ request.offset ∧ ∀ length ∈ request.length, 0 ≤ length

instance (request : ReadRequest) : Decidable request.InRange := inferInstanceAs (Decidable (_ ∧ _))

/-- The `await` or the `yield` where the coroutine stands; `closing` is the `finally`. -/
inductive ReadPoint
  | opening
  | reading (maximum : Nat)
  | yielding (data : List UInt8)
  | closing (completed : Bool)
  | finished
  | failed
  deriving DecidableEq, Repr

/-- The local variables of `read_chunks`; `stop` is its `end`. -/
structure Reader where
  request : ReadRequest
  point : ReadPoint
  streamId : UInt32
  totalSize : Nat
  chunkMax : Nat
  stop : Nat
  cursor : Nat
  deriving DecidableEq, Repr

inductive ReadEvent
  /-- The pending request is answered. -/
  | answer (frame : FileFrame)
  /-- An `Exception` at the `await`: a timeout, a lost connection. -/
  | error
  /-- What is no `Exception`: a cancellation, or a generator that is closed. -/
  | cancel
  /-- The caller asks for the next chunk. -/
  | proceed
  deriving DecidableEq, Repr

def openedFile (frame : FileFrame) : Except FileError (UInt32 × Nat × Nat) := do
  let payload ← checked frame FileType.readOpened 36
  let streamId := UInt32.ofNat (field payload 4 4)
  let chunkMax := field payload 32 2
  if payload.length ≠ 36 then .error .protocol
  else if streamId = 0 ∨ frame.streamId ≠ streamId ∨ chunkMax = 0 ∨ field payload 34 2 ≠ 0 then .error .protocol
  else .ok (streamId, field payload 8 8, chunkMax)

def Reader.takeData (reader : Reader) (maximum : Nat) (frame : FileFrame) : Except FileError (List UInt8) := do
  let payload ← checked frame FileType.data 20
  let data := payload.drop 20
  if frame.streamId ≠ reader.streamId ∨ field payload 4 8 ≠ reader.cursor ∨ field payload 12 8 ≠ reader.totalSize ∨
      data = [] ∨ maximum < data.length then .error .protocol
  else if reader.stop < reader.cursor + data.length then .ok (data.take (reader.stop - reader.cursor))
  else .ok data

def Reader.ask (reader : Reader) (point : ReadPoint) (type : UInt8) (payload : List UInt8) :
    Reader × Option FileRequest :=
  ({ reader with point }, some { type, streamId := reader.streamId, payload })

def Reader.halt (reader : Reader) (point : ReadPoint) : Reader × Option FileRequest :=
  ({ reader with point }, none)

/-- The `finally`. -/
def Reader.close (reader : Reader) (completed : Bool) : Reader × Option FileRequest :=
  reader.ask (.closing completed) FileType.close []

def Reader.maximum (reader : Reader) : Nat := min (min reader.chunkMax (reader.stop - reader.cursor)) 0xffff

def Reader.readPayload (reader : Reader) : List UInt8 :=
  packUint 8 reader.cursor ++ packUint 2 reader.maximum ++ packUint 2 0

def Reader.loop (reader : Reader) : Reader × Option FileRequest :=
  if reader.cursor < reader.stop then reader.ask (.reading reader.maximum) FileType.read reader.readPayload
  else reader.close true

/-- `end`. -/
def ReadRequest.stop (request : ReadRequest) (totalSize : Nat) : Nat :=
  match request.length with
  | none => totalSize
  | some length => min totalSize (request.offset + length).toNat

def ReadRequest.slice (request : ReadRequest) (content : List UInt8) : List UInt8 :=
  match request.length with
  | none => content.drop request.offset.toNat
  | some length => (content.drop request.offset.toNat).take length.toNat

def Reader.onAnswer (reader : Reader) (frame : FileFrame) : Option (Reader × Option FileRequest) :=
  match reader.point with
  | .opening =>
    match openedFile frame with
    | .error _ => some (reader.halt .failed)
    | .ok (streamId, totalSize, chunkMax) =>
      if (totalSize : Int) < reader.request.offset then some (reader.halt .failed)
      else
        some { reader with
               streamId
               totalSize
               chunkMax
               stop := reader.request.stop totalSize
               cursor := reader.request.offset.toNat }.loop
  | .reading maximum =>
    match reader.takeData maximum frame with
    | .error _ => some (reader.close false)
    | .ok data => some ({ reader with cursor := reader.cursor + data.length }.halt (.yielding data))
  | .closing completed => some (reader.halt (if completed then .finished else .failed))
  | .yielding _ | .finished | .failed => none

def Reader.onError (reader : Reader) : Option (Reader × Option FileRequest) :=
  match reader.point with
  | .opening => some (reader.halt .failed)
  | .reading _ => some (reader.close false)
  | .closing completed => some (reader.halt (if completed then .finished else .failed))
  | .yielding _ | .finished | .failed => none

def Reader.onCancel (reader : Reader) : Option (Reader × Option FileRequest) :=
  match reader.point with
  | .opening | .closing _ => some (reader.halt .failed)
  | .reading _ | .yielding _ => some (reader.close false)
  | .finished | .failed => none

def Reader.next (reader : Reader) : ReadEvent → Option (Reader × Option FileRequest)
  | .answer frame => reader.onAnswer frame
  | .error => reader.onError
  | .cancel => reader.onCancel
  | .proceed =>
    match reader.point with
    | .yielding _ => some reader.loop
    | _ => none

/-- The start of `read_chunks`; without a request it has raised `ValueError`. -/
def startRead (request : ReadRequest) : Reader × Option FileRequest :=
  let reader : Reader := { request, point := .opening, streamId := 0, totalSize := 0, chunkMax := 0, stop := 0, cursor := 0 }
  if ¬ request.InRange then reader.halt .failed
  else
    match pathPayload request.volume request.path with
    | none => reader.halt .failed
    | some payload => reader.ask .opening FileType.readOpen payload

variable {reader : Reader} {request : ReadRequest}

theorem ReadRequest.InRange.start_le_stop (inRange : request.InRange) (start : request.offset ≤ content.length) :
    request.offset.toNat ≤ request.stop content.length := by
  have nonnegative := inRange.1
  unfold ReadRequest.stop
  cases asked : request.length with
  | none =>
    dsimp only
    omega
  | some length =>
    have longer := inRange.2 length asked
    dsimp only
    omega

theorem ReadRequest.slice_beyond (request : ReadRequest) (beyond : (content.length : Int) < request.offset) :
    request.slice content = [] := by
  have nothing : content.drop request.offset.toNat = [] := List.drop_eq_nil_of_le (by omega)
  unfold ReadRequest.slice
  rw [nothing]
  split
  next => rfl
  next => exact List.take_nil

theorem ReadRequest.InRange.slice_eq (inRange : request.InRange) (start : request.offset ≤ content.length) :
    request.slice content =
      (content.drop request.offset.toNat).take (request.stop content.length - request.offset.toNat) := by
  have nonnegative := inRange.1
  unfold ReadRequest.slice ReadRequest.stop
  cases asked : request.length with
  | none =>
    dsimp only
    rw [← List.length_drop, List.take_length]
  | some length =>
    have longer := inRange.2 length asked
    dsimp only
    rw [List.take_eq_take_iff, List.length_drop]
    omega

theorem startRead_asks {payload : List UInt8} (inRange : request.InRange)
    (named : pathPayload request.volume request.path = some payload) :
    startRead request = Reader.ask
      { request, point := .opening, streamId := 0, totalSize := 0, chunkMax := 0, stop := 0, cursor := 0 }
      .opening FileType.readOpen payload := by
  unfold startRead
  dsimp only
  rw [if_neg (not_not.mpr inRange), named]

theorem Reader.next_opened (point : reader.point = .opening)
    (opened : openedFile frame = .ok (streamId, totalSize, chunkMax)) (inside : reader.request.offset ≤ totalSize) :
    reader.next (.answer frame) = some
      { reader with
        streamId
        totalSize
        chunkMax
        stop := reader.request.stop totalSize
        cursor := reader.request.offset.toNat }.loop := by
  unfold Reader.next Reader.onAnswer
  dsimp only
  rw [point, opened]
  exact if_neg (Int.not_lt.mpr inside)

theorem Reader.next_beyond (point : reader.point = .opening)
    (opened : openedFile frame = .ok (streamId, totalSize, chunkMax))
    (beyond : (totalSize : Int) < reader.request.offset) : reader.next (.answer frame) = some
    (reader.halt .failed) := by
  unfold Reader.next Reader.onAnswer
  dsimp only
  rw [point, opened]
  exact if_pos beyond

theorem checked_type {type : UInt8} {minimum : Nat} {payload : List UInt8}
    (taken : checked frame type minimum = .ok payload) : frame.type = type := by
  unfold checked at taken
  split at taken
  next => contradiction
  next fine =>
    rw [not_or] at fine
    exact not_not.mp fine.1

theorem openedFile_ok (opened : openedFile frame = .ok (streamId, totalSize, chunkMax)) :
    frame.type = FileType.readOpened ∧ field frame.payload 0 2 = 0 ∧ frame.streamId = streamId ∧
      field frame.payload 8 8 = totalSize := by
  obtain ⟨payload, taken, opened⟩ := bind_ok opened
  obtain ⟨rfl, says_ok⟩ := checked_ok taken
  dsimp only at opened
  split at opened
  next => contradiction
  split at opened
  next => contradiction
  next fine =>
    simp only [not_or, not_not] at fine
    cases opened
    exact ⟨checked_type taken, says_ok, fine.2.1, rfl⟩

theorem takeData_ok {maximum : Nat} {data : List UInt8} (taken : reader.takeData maximum frame = .ok data) :
    frame.type = FileType.data ∧ field frame.payload 0 2 = 0 ∧ field frame.payload 4 8 = reader.cursor ∧
      frame.payload.drop 20 ≠ [] ∧ data = (frame.payload.drop 20).take (reader.stop - reader.cursor) := by
  obtain ⟨payload, checks, taken⟩ := bind_ok taken
  obtain ⟨rfl, says_ok⟩ := checked_ok checks
  dsimp only at taken
  split at taken
  next => contradiction
  next fine =>
    simp only [not_or, not_not] at fine
    refine ⟨checked_type checks, says_ok, fine.2.1, fine.2.2.2.1, ?_⟩
    split at taken
    next =>
      cases taken
      rfl
    next short =>
      cases taken
      rw [List.take_of_length_le (by omega)]

theorem checked_takes {type : UInt8} {minimum : Nat} (typed : frame.type = type) (says_ok : field frame.payload 0 2 = 0)
    (long : minimum ≤ frame.payload.length) (header : 4 ≤ frame.payload.length) :
    checked frame type minimum = .ok frame.payload := by
  unfold checked
  have fine : ¬ (frame.type ≠ type ∨ frame.payload.length < 4) := by
    rw [not_or, not_not, Nat.not_lt]
    exact ⟨typed, header⟩
  rw [if_neg fine, says_ok]
  exact if_neg (Nat.not_lt.mpr long)

theorem takeData_takes {maximum : Nat} {data : List UInt8} (typed : frame.type = FileType.data)
    (says_ok : field frame.payload 0 2 = 0) (stream : frame.streamId = reader.streamId)
    (cursor : field frame.payload 4 8 = reader.cursor) (total : field frame.payload 12 8 = reader.totalSize)
    (carries : frame.payload.drop 20 = data) (some_data : data ≠ []) (size : data.length ≤ maximum)
    (within : reader.cursor + data.length ≤ reader.stop) : reader.takeData maximum frame = .ok data := by
  have long : 20 < frame.payload.length := by
    have positive := List.length_pos_iff.mpr some_data
    rw [← carries, List.length_drop] at positive
    omega
  have taken := checked_takes typed says_ok long.le (by omega)
  unfold Reader.takeData
  rw [taken]
  dsimp only [bind, Except.bind]
  have fine : ¬ (frame.streamId ≠ reader.streamId ∨ field frame.payload 4 8 ≠ reader.cursor ∨
      field frame.payload 12 8 ≠ reader.totalSize ∨ data = [] ∨ maximum < data.length) := by
    simp only [not_or, not_not, Nat.not_lt]
    exact ⟨stream, cursor, total, some_data, size⟩
  rw [carries, if_neg fine, if_neg (Nat.not_lt.mpr within)]

theorem openedFile_takes (typed : frame.type = FileType.readOpened) (says_ok : field frame.payload 0 2 = 0)
    (length : frame.payload.length = 36) (named : field frame.payload 4 4 = streamId.toNat)
    (stream : frame.streamId = streamId) (some_stream : streamId ≠ 0) (chunkMax : field frame.payload 32 2 ≠ 0)
    (reserved : field frame.payload 34 2 = 0) :
    openedFile frame = .ok (streamId, field frame.payload 8 8, field frame.payload 32 2) := by
  have taken := checked_takes typed says_ok length.ge (by omega)
  unfold openedFile
  rw [taken]
  dsimp only [bind, Except.bind]
  rw [named, UInt32.ofNat_toNat, if_neg (not_not.mpr length), if_neg]
  simp only [not_or, not_not]
  exact ⟨some_stream, stream, chunkMax, reserved⟩

end EspIris.Gateway.Download
