import EspIris.Link.Download
import EspIris.Link.UploadAnswers

/-! What the reader of a download knows at each point, and what an answer of the device adds to it. -/

namespace EspIris.Link
open Device.Files Gateway.Upload Gateway.Download Bytes

variable {setup : DownloadSetup} {content : List UInt8} {opened : List UInt32} {reader : Reader}
  {yielded : List (List UInt8)}

structure Downloading (setup : DownloadSetup) (content : List UInt8) (opened : List UInt32) (reader : Reader)
    (yielded : List (List UInt8)) : Prop where
  inRange : setup.request.InRange
  stream : reader.streamId ∈ opened
  total : reader.totalSize = content.length
  stop : reader.stop = setup.request.stop content.length
  start : setup.request.offset ≤ content.length
  low : setup.request.offset.toNat ≤ reader.cursor
  high : reader.cursor ≤ reader.stop
  whole : yielded.flatten = (content.drop setup.request.offset.toNat).take (reader.cursor - setup.request.offset.toNat)
  chunks : ∀ chunk ∈ yielded, chunk ≠ []

def AtPoint (setup : DownloadSetup) (content : List UInt8) (opened : List UInt32) (reader : Reader)
    (yielded : List (List UInt8)) : Prop :=
  match reader.point with
  | .opening => setup.request.InRange ∧ yielded = []
  | .reading _ => Downloading setup content opened reader yielded ∧ reader.cursor < reader.stop
  | .yielding _ | .closing false => Downloading setup content opened reader yielded
  | .closing true | .finished => Downloading setup content opened reader yielded ∧ reader.cursor = reader.stop
  | .failed => yielded.flatten <+: setup.request.slice content ∧ ∀ chunk ∈ yielded, chunk ≠ []

structure ReaderSound (setup : DownloadSetup) (content : List UInt8) (opened : List UInt32) (reader : Reader)
    (yielded : List (List UInt8)) : Prop where
  request : reader.request = setup.request
  point : AtPoint setup content opened reader yielded

structure AnswerSound (content : List UInt8) (opened : List UInt32) (completion : FileCompletion) : Prop where
  opened : completion.type = FileType.readOpened → completion.status = FileStatus.ok.code →
    completion.streamId ∈ opened ∧ field completion.payload 8 8 = content.length
  data : completion.type = FileType.data → completion.status = FileStatus.ok.code → DataFrame content completion

def Asks (setup : DownloadSetup) (opened : List UInt32) (type : UInt8) (streamId : UInt32) (payload : List UInt8) :
    Prop :=
  type = FileType.readOpen ∧ pathPayload setup.request.volume setup.request.path = some payload ∨
    type = FileType.read ∧ streamId ∈ opened ∨ type = FileType.close

structure ReadStep (setup : DownloadSetup) (content : List UInt8) (opened : List UInt32)
    (yielded : List (List UInt8)) (result : Reader × Option FileRequest) : Prop where
  sound : ReaderSound setup content opened result.1 (yielded ++ yieldedBy result.1.point)
  asks : ∀ request ∈ result.2, Asks setup opened request.type request.streamId request.payload

section downloading
variable (downloading : Downloading setup content opened reader yielded)
include downloading

theorem Downloading.moved {point : ReadPoint} :
    Downloading setup content opened { reader with point } yielded where
  inRange := downloading.inRange
  stream := downloading.stream
  total := downloading.total
  stop := downloading.stop
  start := downloading.start
  low := downloading.low
  high := downloading.high
  whole := downloading.whole
  chunks := downloading.chunks

theorem Downloading.isPrefix :
    yielded.flatten <+: setup.request.slice content := by
  have high := downloading.high
  rw [downloading.stop] at high
  rw [downloading.whole, downloading.inRange.slice_eq downloading.start]
  exact List.take_prefix_take_left (Nat.sub_le_sub_right high _)

theorem Downloading.complete (stopped : reader.cursor = reader.stop) :
    yielded.flatten = setup.request.slice content := by
  rw [downloading.whole, downloading.inRange.slice_eq downloading.start, stopped, downloading.stop]

end downloading

theorem ReadStep.failed (request : reader.request = setup.request)
    (parts : yielded.flatten <+: setup.request.slice content) (chunks : ∀ chunk ∈ yielded, chunk ≠ []) :
    ReadStep setup content opened yielded (reader.halt .failed) where
  sound := by
    rw [show yieldedBy (reader.halt .failed).1.point = [] from rfl, List.append_nil]
    exact ⟨request, parts, chunks⟩
  asks := nofun

theorem Downloading.close {completed : Bool} (request : reader.request = setup.request)
    (downloading : Downloading setup content opened reader yielded)
    (stopped : completed = true → reader.cursor = reader.stop) :
    ReadStep setup content opened yielded (reader.close completed) where
  sound := by
    rw [show yieldedBy (reader.close completed).1.point = [] from rfl, List.append_nil]
    refine ⟨request, ?_⟩
    cases completed with
    | true => exact ⟨downloading.moved, stopped rfl⟩
    | false => exact downloading.moved
  asks := by
    intro request sent
    cases sent
    exact .inr (.inr rfl)

theorem Downloading.loop (request : reader.request = setup.request)
    (downloading : Downloading setup content opened reader yielded) :
    ReadStep setup content opened yielded reader.loop := by
  unfold Reader.loop
  split
  next more =>
    constructor
    case sound =>
      refine ⟨request, ?_⟩
      dsimp only [Reader.ask, yieldedBy]
      rw [List.append_nil]
      exact ⟨downloading.moved, more⟩
    case asks =>
      intro request sent
      cases sent
      exact .inr (.inl ⟨rfl, downloading.stream⟩)
  next ended =>
    have high := downloading.high
    exact downloading.close request fun _ => by omega

theorem ReaderSound.starts {streamId : UInt32} {totalSize chunkMax : Nat}
    (sound : ReaderSound setup content opened reader yielded)
    (point : reader.point = .opening) (stream : streamId ∈ opened) (total : totalSize = content.length)
    (start : reader.request.offset ≤ totalSize) :
    ReadStep setup content opened yielded
      { reader with
        streamId
        totalSize
        chunkMax
        stop := reader.request.stop totalSize
        cursor := reader.request.offset.toNat }.loop := by
  have request := sound.request
  have phase := sound.point
  unfold AtPoint at phase
  rw [point] at phase
  obtain ⟨inRange, nothing⟩ := phase
  rw [request, total] at start
  have stop : reader.request.stop totalSize = setup.request.stop content.length := by rw [request, total]
  refine Downloading.loop request ⟨inRange, stream, total, stop, start, ?_, ?_, ?_, ?_⟩
  · rw [request]
  · dsimp only
    rw [stop, request]
    exact inRange.start_le_stop start
  · rw [request, Nat.sub_self, List.take_zero, nothing]
    rfl
  · rw [nothing]
    exact nofun

theorem Downloading.takes {completion : FileCompletion} {data : List UInt8} (request : reader.request = setup.request)
    (downloading : Downloading setup content opened reader yielded) (more : reader.cursor < reader.stop)
    (frame : DataFrame content completion) (cursor : field completion.payload 4 8 = reader.cursor)
    (taken : data = (completion.payload.drop 20).take (reader.stop - reader.cursor)) :
    ReadStep setup content opened yielded
      ({ reader with cursor := reader.cursor + data.length }.halt (.yielding data)) := by
  have some_data := List.length_pos_iff.mpr frame.some_data
  have size : data.length = min (reader.stop - reader.cursor) (completion.payload.drop 20).length := by
    rw [taken, List.length_take]
  have stands : completion.payload.drop 20 = (content.drop reader.cursor).take (completion.payload.drop 20).length :=
    cursor ▸ frame.data
  have carries : data = (content.drop reader.cursor).take data.length := by
    calc data = (completion.payload.drop 20).take (reader.stop - reader.cursor) := taken
      _ = ((content.drop reader.cursor).take (completion.payload.drop 20).length).take (reader.stop - reader.cursor) := by
        rw [← stands]
      _ = (content.drop reader.cursor).take data.length := by rw [List.take_take, size]
  refine ⟨⟨request, ?_⟩, nofun⟩
  dsimp only [Reader.halt, yieldedBy, AtPoint]
  exact {
    inRange := downloading.inRange
    stream := downloading.stream
    total := downloading.total
    stop := downloading.stop
    start := downloading.start
    low := Nat.le_add_right_of_le downloading.low
    high := by
      dsimp only
      omega
    whole := by
      have low := downloading.low
      rw [List.flatten_append, List.flatten_singleton, downloading.whole]
      dsimp only
      rw [show reader.cursor + data.length - setup.request.offset.toNat =
          (reader.cursor - setup.request.offset.toNat) + data.length by omega, List.take_add, List.drop_drop,
        show setup.request.offset.toNat + (reader.cursor - setup.request.offset.toNat) = reader.cursor by omega,
        ← carries]
    chunks := by
      intro chunk member
      rcases List.mem_append.mp member with earlier | last
      · exact downloading.chunks chunk earlier
      · rw [List.mem_singleton.mp last]
        apply List.ne_nil_of_length_pos
        omega }

section sound
variable (sound : ReaderSound setup content opened reader yielded)
include sound

theorem ReaderSound.closed {completed : Bool} (point : reader.point = .closing completed) :
    ReadStep setup content opened yielded (reader.halt (if completed then .finished else .failed)) := by
  have phase := sound.point
  unfold AtPoint at phase
  rw [point] at phase
  cases completed with
  | false => exact .failed sound.request phase.isPrefix phase.chunks
  | true =>
    refine ⟨⟨sound.request, ?_⟩, nofun⟩
    rw [show yieldedBy (reader.halt (if true then .finished else .failed)).1.point = [] from rfl, List.append_nil]
    exact ⟨phase.1.moved, phase.2⟩

/-- Wherever the call stands it has yielded a part of the slice from its start. -/
theorem ReaderSound.part :
    yielded.flatten <+: setup.request.slice content ∧ ∀ chunk ∈ yielded, chunk ≠ [] := by
  have phase := sound.point
  unfold AtPoint at phase
  cases point : reader.point with
  | opening =>
    rw [point] at phase
    rw [phase.2]
    exact ⟨List.nil_prefix, nofun⟩
  | reading maximum =>
    rw [point] at phase
    exact ⟨phase.1.isPrefix, phase.1.chunks⟩
  | yielding data =>
    rw [point] at phase
    exact ⟨phase.isPrefix, phase.chunks⟩
  | closing completed =>
    rw [point] at phase
    cases completed with
    | false => exact ⟨phase.isPrefix, phase.chunks⟩
    | true => exact ⟨phase.1.isPrefix, phase.1.chunks⟩
  | finished =>
    rw [point] at phase
    exact ⟨phase.1.isPrefix, phase.1.chunks⟩
  | failed =>
    rw [point] at phase
    exact phase

theorem ReaderSound.fails :
    ReadStep setup content opened yielded (reader.halt .failed) := .failed sound.request sound.part.1 sound.part.2

theorem ReaderSound.finished (point : reader.point = .finished) :
    yielded.flatten = setup.request.slice content := by
  have phase := sound.point
  unfold AtPoint at phase
  rw [point] at phase
  exact phase.1.complete phase.2

theorem ReaderSound.answer {completion : FileCompletion} {result : Reader × Option FileRequest}
    (answers : AnswerSound content opened completion) (goes : reader.next (.answer (frameOf completion)) = some result) :
    ReadStep setup content opened yielded result := by
  have request := sound.request
  have phase := sound.point
  unfold AtPoint at phase
  unfold Reader.next Reader.onAnswer at goes
  dsimp only at goes
  cases point : reader.point with
  | opening =>
    rw [point] at phase goes
    dsimp only at phase goes
    split at goes
    next =>
      cases goes
      exact sound.fails
    next streamId totalSize chunkMax told =>
      obtain ⟨type, says_ok, stream, total⟩ := openedFile_ok told
      obtain ⟨known, size⟩ := answers.opened type (frameOf_ok says_ok)
      split at goes
      next =>
        cases goes
        exact sound.fails
      next inside =>
        cases goes
        refine sound.starts point ?_ (total.symm.trans size) (by omega)
        rw [← stream]
        exact known
  | reading maximum =>
    rw [point] at phase goes
    dsimp only at phase goes
    split at goes
    next =>
      cases goes
      exact phase.1.close request nofun
    next data taken =>
      cases goes
      obtain ⟨type, says_ok, cursor, _, taken⟩ := takeData_ok taken
      exact phase.1.takes request phase.2 (answers.data type (frameOf_ok says_ok)) cursor taken
  | closing completed =>
    rw [point] at goes
    cases goes
    exact sound.closed point
  | yielding data =>
    rw [point] at goes
    contradiction
  | finished =>
    rw [point] at goes
    contradiction
  | failed =>
    rw [point] at goes
    contradiction

theorem ReaderSound.act {event : ReadEvent} {result : Reader × Option FileRequest}
    (unanswered : ∀ frame, event ≠ .answer frame) (goes : reader.next event = some result) :
    ReadStep setup content opened yielded result := by
  have request := sound.request
  have phase := sound.point
  unfold AtPoint at phase
  unfold Reader.next Reader.onError Reader.onCancel at goes
  cases point : reader.point with
  | opening =>
    rw [point] at goes
    cases event with
    | answer frame => exact absurd rfl (unanswered frame)
    | proceed => contradiction
    | error | cancel =>
      cases goes
      exact sound.fails
  | reading maximum =>
    rw [point] at phase goes
    cases event with
    | answer frame => exact absurd rfl (unanswered frame)
    | proceed => contradiction
    | error | cancel =>
      cases goes
      exact phase.1.close request nofun
  | yielding data =>
    rw [point] at phase goes
    cases event with
    | answer frame => exact absurd rfl (unanswered frame)
    | proceed =>
      cases goes
      exact phase.loop request
    | cancel =>
      cases goes
      exact phase.close request nofun
    | error => contradiction
  | closing completed =>
    rw [point] at goes
    cases event with
    | answer frame => exact absurd rfl (unanswered frame)
    | proceed => contradiction
    | error =>
      cases goes
      exact sound.closed point
    | cancel =>
      cases goes
      exact sound.fails
  | finished | failed =>
    rw [point] at goes
    cases event with
    | answer frame => exact absurd rfl (unanswered frame)
    | _ => contradiction

end sound

theorem AtPoint.mono {more : List UInt32} (phase : AtPoint setup content opened reader yielded) :
    AtPoint setup content (opened ++ more) reader yielded := by
  have keeps (downloading : Downloading setup content opened reader yielded) :
      Downloading setup content (opened ++ more) reader yielded :=
    { downloading with stream := List.mem_append_left _ downloading.stream }
  unfold AtPoint at phase ⊢
  cases point : reader.point with
  | opening | failed =>
    rw [point] at phase
    exact phase
  | reading maximum | finished =>
    rw [point] at phase
    exact ⟨keeps phase.1, phase.2⟩
  | yielding data =>
    rw [point] at phase
    exact keeps phase
  | closing completed =>
    rw [point] at phase
    cases completed with
    | false => exact keeps phase
    | true => exact ⟨keeps phase.1, phase.2⟩

theorem Asks.mono {more : List UInt32} {type : UInt8} {streamId : UInt32} {payload : List UInt8}
    (asks : Asks setup opened type streamId payload) : Asks setup (opened ++ more) type streamId payload := by
  rcases asks with opens | ⟨reads, known⟩ | closes
  · exact .inl opens
  · exact .inr (.inl ⟨reads, List.mem_append_left _ known⟩)
  · exact .inr (.inr closes)

theorem AnswerSound.mono {more : List UInt32} {completion : FileCompletion}
    (answers : AnswerSound content opened completion) : AnswerSound content (opened ++ more) completion where
  opened := fun type done => ⟨List.mem_append_left _ (answers.opened type done).1, (answers.opened type done).2⟩
  data := answers.data

end EspIris.Link
