import EspIris.Link.DownloadSteps

/-! Every run of a download: what the reader has yielded is the slice so far, and every DATA frame carries
what the file has there. Where the device's reads give something the loop comes to its end. -/

namespace EspIris.Link
open Codec.Device Device.Files Gateway.Upload Gateway.Download Bytes
open Machine (System Reachable Run Invariant)
variable {answers : Answers} {completion : FileCompletion} {result : Reader × Option FileRequest}
variable {opened : List UInt32} {serial : Nat}

variable {setup : DownloadSetup} {content : List UInt8} {world : DownloadWorld} {work : FileWork}

def ReadsFile (setup : DownloadSetup) (content : List UInt8) (opened : List UInt32) (handle : FileHandle) : Prop :=
  handle.kind = .read → handle.streamId ∈ opened → handle.fd = some setup.target ∧ handle.size = content.length

structure DownloadSound (setup : DownloadSetup) (content : List UInt8) (world : DownloadWorld) : Prop where
  fits : content.length < setup.config.offsetLimit
  file : world.task.tree setup.target = some (.regular content)
  handle : ReadsFile setup content world.opened world.task.handle
  requests : ∀ entry ∈ world.requests, Asks setup world.opened entry.2.type entry.2.streamId entry.2.payload
  responses : ∀ entry ∈ world.responses, AnswerSound content world.opened entry.2
  sent : ∀ completion ∈ world.sent, DataFrame content completion
  reader : ReaderSound setup content world.opened world.reader world.yielded

theorem DownloadSetup.target_found {volume : Volume}
    (found : findVolume setup.config.volumes setup.request.volume = some volume) :
    setup.target = volume.path setup.request.path := by
  unfold DownloadSetup.target
  rw [found]

structure Handled (setup : DownloadSetup) (content : List UInt8) (opened : List UInt32) (task after : FileTask)
    (completion : FileCompletion) : Prop where
  tree : after.tree = task.tree
  handle : ReadsFile setup content (opened ++ openedBy completion) after.handle
  answer : AnswerSound content (opened ++ openedBy completion) completion
  sent : ∀ frame ∈ dataOf completion, DataFrame content frame

theorem openedBy_other (other : completion.type ≠ FileType.readOpened) :
    openedBy completion = [] := if_neg fun both => other both.1

theorem openedBy_failed (failed : completion.status ≠ FileStatus.ok.code) :
    openedBy completion = [] := if_neg fun both => failed both.2

theorem dataOf_other (other : completion.type ≠ FileType.data) :
    dataOf completion = [] := if_neg fun both => other both.1

theorem ReadsFile.zero : ReadsFile setup content opened .zero := nofun

/-- A request of anyone leaves a stream of the call on the file, unless it is opened again. -/
theorem ReadsFile.after {config : FilesConfig} {task after : FileTask}
    (reads : ReadsFile setup content opened task.handle) (step : ReadsAfter config task work answers after)
    (other : work.type ≠ FileType.readOpen ∨ answers.streamId ∉ opened) :
    ReadsFile setup content opened after.handle := by
  intro kind stream
  rcases step kind with same | ⟨typed, path, metadata, _, opens⟩
  · rw [same] at kind stream ⊢
    exact reads kind stream
  · rw [opens] at stream
    rcases other with untyped | fresh
    · exact absurd typed untyped
    · exact absurd stream fresh

theorem opens_target {tree : Tree} {path : Path} {metadata : Metadata}
    (file : tree setup.target = some (.regular content))
    (found : readTarget setup.config tree work answers = .ok (path, metadata))
    (named : pathPayload setup.request.volume setup.request.path = some work.payload) :
    path = setup.target ∧ metadata.size = content.length := by
  obtain ⟨short, long, payload⟩ := pathPayload_ok named
  obtain ⟨request, stored, decodes, leads, there, size⟩ := readTarget_ok found
  have whole : work.payload = [UInt8.ofNat setup.request.volume.length, 0] ++
      littleEndian 2 setup.request.path.length ++ setup.request.volume ++ setup.request.path ++ [] := by
    rw [payload, List.append_nil]
  rw [decodePathRequest, whole] at decodes
  obtain ⟨volume, relative, _⟩ := decodePathRequestWithTrailer_ok short long decodes
  have same : path = setup.target := by rw [leads, relative, DownloadSetup.target_found volume]
  rw [same] at there
  cases there.symm.trans file
  exact ⟨same, size⟩

section sound
variable (sound : DownloadSound setup content world)
include sound

theorem DownloadSound.bounded : content.length < 2 ^ 64 := by
  have limit := setup.offsetLimit_le
  have fits := sound.fits
  omega

theorem DownloadSound.readOpen (typed : work.type = FileType.readOpen)
    (named : pathPayload setup.request.volume setup.request.path = some work.payload) :
    Handled setup content world.opened world.task (processWork setup.config setup.sha256 world.task work answers).1
      (processWork setup.config setup.sha256 world.task work answers).2 := by
  rw [processWork_readOpen typed]
  have type := handleReadOpen_type setup.config world.task.tree work answers world.task.handle
  have other : (handleReadOpen setup.config world.task.tree work answers world.task.handle).2.type ≠ FileType.data := by
    rw [type]
    decide
  rcases handleReadOpen_cases setup.config world.task.tree work answers world.task.handle with
    ⟨failed, handle⟩ | ⟨path, metadata, found, opens⟩
  · constructor
    case tree => rfl
    case handle =>
      show ReadsFile setup content (world.opened ++ openedBy _) (handleReadOpen _ _ _ _ _).1
      rw [show openedBy (world.task.withHandle _).2 = [] from openedBy_failed failed, List.append_nil]
      rcases handle with same | zero
      · rw [same]
        exact sound.handle
      · rw [zero]
        exact .zero
    case answer => exact ⟨fun _ done => absurd done failed, fun data => absurd data other⟩
    case sent =>
      intro frame member
      rw [show dataOf (world.task.withHandle _).2 = [] from dataOf_other other] at member
      exact absurd member List.not_mem_nil
  · obtain ⟨leads, size⟩ := opens_target sound.file found named
    have fields := openedCompletion_fields setup.config work metadata answers
    rw [opens]
    constructor
    case tree => rfl
    case handle => exact fun _ _ => ⟨congrArg some leads, size⟩
    case answer =>
      refine ⟨fun type done => ⟨?_, ?_⟩, fun data => absurd data (by rw [← opens]; exact other)⟩
      · apply List.mem_append_right
        rw [openedBy, if_pos ⟨type, done⟩]
        exact List.mem_singleton_self _
      · rw [← size]
        exact fields.size (size ▸ sound.bounded)
    case sent =>
      intro frame member
      have opened : FileType.readOpened ≠ FileType.data := by decide
      have none : dataOf (openedCompletion setup.config work metadata answers) = [] := dataOf_other opened
      change frame ∈ dataOf (openedCompletion setup.config work metadata answers) at member
      rw [none] at member
      exact absurd member List.not_mem_nil

theorem DownloadSound.read (typed : work.type = FileType.read) (stream : work.streamId ∈ world.opened) :
    Handled setup content world.opened world.task (processWork setup.config setup.sha256 world.task work answers).1
      (processWork setup.config setup.sha256 world.task work answers).2 := by
  rw [processWork_read typed]
  have type := handleRead_type setup.config world.task.tree work answers world.task.handle
  have other : (handleRead setup.config world.task.tree work answers world.task.handle).type ≠ FileType.readOpened := by
    rw [type]
    decide
  have frame (done : (handleRead setup.config world.task.tree work answers world.task.handle).status =
      FileStatus.ok.code) : DataFrame content (handleRead setup.config world.task.tree work answers world.task.handle) := by
    by_cases named : world.task.handle.kind = .read ∧ world.task.handle.streamId = work.streamId
    · obtain ⟨fd, size⟩ := sound.handle named.1 (named.2 ▸ stream)
      apply handleRead_data _ size sound.bounded done
      rw [fd]
      exact sound.file
    · exact absurd done (handleRead_unnamed named)
  constructor
  case tree => rfl
  case handle =>
    rw [openedBy_other other, List.append_nil]
    exact sound.handle
  case answer => exact ⟨fun opens => absurd opens other, fun _ done => frame done⟩
  case sent =>
    intro sent member
    unfold dataOf at member
    split at member
    next done =>
      rw [List.mem_singleton.mp member]
      exact frame done.2
    next => exact absurd member List.not_mem_nil

theorem DownloadSound.closes (typed : work.type = FileType.close) :
    Handled setup content world.opened world.task (processWork setup.config setup.sha256 world.task work answers).1
      (processWork setup.config setup.sha256 world.task work answers).2 := by
  have notOpen : work.type ≠ FileType.readOpen := by
    rw [typed]
    decide
  have handle : ReadsFile setup content world.opened
      (processWork setup.config setup.sha256 world.task work answers).1.handle :=
    sound.handle.after processWork_reads (.inl notOpen)
  rw [processWork_close typed] at handle ⊢
  have notOpened : (handleClose world.task.handle work).2.type ≠ FileType.readOpened := by
    rw [handleClose_type]
    decide
  have notData : (handleClose world.task.handle work).2.type ≠ FileType.data := by
    rw [handleClose_type]
    decide
  constructor
  case tree => rfl
  case handle =>
    rw [show openedBy (world.task.withHandle _).2 = [] from openedBy_other notOpened, List.append_nil]
    exact handle
  case answer => exact ⟨fun opens => absurd opens notOpened, fun data => absurd data notData⟩
  case sent =>
    intro sent member
    rw [show dataOf (world.task.withHandle _).2 = [] from dataOf_other notData] at member
    exact absurd member List.not_mem_nil

theorem DownloadSound.handled (asks : Asks setup world.opened work.type work.streamId work.payload) :
    Handled setup content world.opened world.task (processWork setup.config setup.sha256 world.task work answers).1
      (processWork setup.config setup.sha256 world.task work answers).2 := by
  rcases asks with ⟨typed, named⟩ | ⟨typed, stream⟩ | typed
  · exact sound.readOpen typed named
  · exact sound.read typed stream
  · exact sound.closes typed

theorem DownloadSound.deliver {index : Nat} {after : DownloadWorld}
    (step : nextDownload setup world (.deliver index answers) = some after) : DownloadSound setup content after := by
  obtain ⟨⟨serial, work⟩, found, handled⟩ := Option.map_eq_some_iff.mp step
  cases handled
  have result : Handled setup content world.opened world.task
      (processWork setup.config setup.sha256 world.task work answers).1
      (processWork setup.config setup.sha256 world.task work answers).2 :=
    sound.handled (sound.requests _ (List.mem_of_getElem? found))
  exact {
    fits := sound.fits
    file := (congrFun result.tree _).trans sound.file
    handle := result.handle
    requests := fun entry member => (sound.requests entry (List.mem_of_mem_eraseIdx member)).mono
    responses := by
      intro entry member
      rcases List.mem_append.mp member with earlier | last
      · exact (sound.responses entry earlier).mono
      · rw [List.mem_singleton.mp last]
        exact result.answer
    sent := by
      intro completion member
      rcases List.mem_append.mp member with earlier | last
      · exact sound.sent completion earlier
      · exact result.sent completion last
    reader := ⟨sound.reader.request, sound.reader.point.mono⟩ }

theorem DownloadSound.lose {requests : List (Nat × FileWork)} {responses : List (Nat × FileCompletion)}
    (fewer : requests.Sublist world.requests) (less : responses.Sublist world.responses) :
    DownloadSound setup content { world with requests, responses } where
  fits := sound.fits
  file := sound.file
  handle := sound.handle
  requests := fun entry member => sound.requests entry (fewer.subset member)
  responses := fun entry member => sound.responses entry (less.subset member)
  sent := sound.sent
  reader := sound.reader

end sound

theorem AnswerSound.refusal {status : FileStatus} (failed : status ≠ .ok) :
    AnswerSound content opened (refusal work (responseTypeFor work.type) status) where
  opened := fun _ done => absurd ((refusal_status work _ status).symm.trans done) (code_ne_ok failed)
  data := fun _ done => absurd ((refusal_status work _ status).symm.trans done) (code_ne_ok failed)

theorem DownloadSound.refuse {status : FileStatus} (sound : DownloadSound setup content world) (index : Nat)
    (failed : status ≠ .ok) :
    DownloadSound setup content
      { world with
        requests := world.requests.eraseIdx index
        responses := world.responses ++ [(serial, refusal work (responseTypeFor work.type) status)] } where
  fits := sound.fits
  file := sound.file
  handle := sound.handle
  requests := fun entry member => sound.requests entry (List.mem_of_mem_eraseIdx member)
  responses := by
    intro entry member
    rcases List.mem_append.mp member with earlier | last
    · exact sound.responses entry earlier
    · rw [List.mem_singleton.mp last]
      exact .refusal failed
  sent := sound.sent
  reader := sound.reader

theorem DownloadSound.take (sound : DownloadSound setup content world)
    (step : ReadStep setup content world.opened world.yielded result) :
    DownloadSound setup content (world.take setup result) := by
  unfold DownloadWorld.take
  dsimp only
  split
  next => exact ⟨sound.fits, sound.file, sound.handle, sound.requests, sound.responses, sound.sent, step.sound⟩
  next request sends =>
    refine ⟨sound.fits, sound.file, sound.handle, ?_, sound.responses, sound.sent, step.sound⟩
    intro entry member
    rcases List.mem_append.mp member with earlier | last
    · exact sound.requests entry earlier
    · rw [List.mem_singleton.mp last]
      exact step.asks request sends

theorem DownloadSound.settle {task : FileTask} {after : DownloadWorld} (sound : DownloadSound setup content world)
    (reads : ReadsFile setup content world.opened task.handle) (step : world.settle setup task = some after) :
    DownloadSound setup content after := by
  unfold DownloadWorld.settle at step
  split at step
  next unmodified =>
    cases step
    exact ⟨sound.fits, unmodified.trans sound.file, reads, sound.requests, sound.responses, sound.sent, sound.reader⟩
  next => contradiction

theorem sessionEnd_reads {task : FileTask} {sessionId : UInt32} {unlink : Option Errno}
    (reads : ReadsFile setup content opened task.handle) :
    ReadsFile setup content opened (sessionEnd task sessionId unlink).handle := by
  unfold sessionEnd
  dsimp only
  split_ifs
  next => exact .zero
  next => exact reads
  next => exact .zero
  next => exact reads

theorem DownloadSound.start {task : FileTask} (serves : setup.Serves task content) :
    DownloadSound setup content (.start setup task) := by
  have handle : ReadsFile setup content [] task.handle := fun _ stream => absurd stream List.not_mem_nil
  have nothing : ([] : List (List UInt8)).flatten <+: setup.request.slice content := List.nil_prefix
  unfold DownloadWorld.start startRead
  dsimp only
  split
  next => exact ⟨serves.2, serves.1, handle, nofun, nofun, nofun, rfl, nothing, nofun⟩
  next inRange =>
    split
    next => exact ⟨serves.2, serves.1, handle, nofun, nofun, nofun, rfl, nothing, nofun⟩
    next payload named =>
      refine ⟨serves.2, serves.1, handle, ?_, nofun, nofun, rfl, not_not.mp inRange, rfl⟩
      intro entry member
      cases List.mem_singleton.mp member
      exact .inl ⟨rfl, named⟩

theorem downloadSound_invariant (setup : DownloadSetup) (content : List UInt8) :
    Invariant (downloadSystem setup content) (DownloadSound setup content) where
  start := by
    rintro world ⟨task, serves, rfl⟩
    exact .start serves
  step := by
    intro before event after sound step
    have step : nextDownload setup before event = some after := step
    cases event with
    | act event =>
      cases event with
      | answer frame => contradiction
      | error | cancel | proceed =>
        obtain ⟨result, goes, taken⟩ := Option.map_eq_some_iff.mp step
        rw [← taken]
        refine sound.take (sound.reader.act ?_ goes)
        intro frame same
        cases same
    | receive index =>
      unfold nextDownload at step
      dsimp only at step
      split at step
      next => contradiction
      next serial completion found =>
        have rest := sound.lose (List.Sublist.refl _) (List.eraseIdx_sublist before.responses index)
        split at step
        next =>
          obtain ⟨result, goes, taken⟩ := Option.map_eq_some_iff.mp step
          rw [← taken]
          exact rest.take (sound.reader.answer (sound.responses _ (List.mem_of_getElem? found)) goes)
        cases step
        exact rest
    | deliver index answers => exact sound.deliver step
    | refuse index status =>
      unfold nextDownload at step
      dsimp only at step
      split at step
      next => contradiction
      next serial work found =>
        split at step
        next => contradiction
        next failed =>
          cases step
          exact sound.refuse index failed
    | loseRequest index =>
      cases step
      exact sound.lose (List.eraseIdx_sublist _ _) (List.Sublist.refl _)
    | loseResponse index =>
      cases step
      exact sound.lose (List.Sublist.refl _) (List.eraseIdx_sublist _ _)
    | foreign work answers =>
      unfold nextDownload at step
      dsimp only at step
      split at step
      next => contradiction
      next fresh => exact sound.settle (sound.handle.after processWork_reads (.inr fresh)) step
    | sessionEnd sessionId unlink => exact sound.settle (sessionEnd_reads sound.handle) step
    | restart unlink => exact sound.settle .zero step

def DownloadWorld.move (world : DownloadWorld) (answers : Answers) : DownloadEvent :=
  if world.requests ≠ [] then .deliver 0 answers
  else if world.responses ≠ [] then .receive 0
  else .act .proceed

def DownloadWorld.advance (setup : DownloadSetup) (answers : Answers) (world : DownloadWorld) : DownloadWorld :=
  (nextDownload setup world (world.move answers)).getD world

def DownloadWorld.drive (setup : DownloadSetup) : (Nat → Answers) → DownloadWorld → Nat → DownloadWorld
  | _, world, 0 => world
  | answers, world, steps + 1 => drive setup (fun step => answers (step + 1)) (world.advance setup (answers 0)) steps

/-- The seek works, and the `read` gives something: how much, is up to the file system. -/
def ShortRead (answers : Answers) : Prop := answers.seek = none ∧ ∃ count, 0 < count ∧ answers.read = .ok count

def openWork (setup : DownloadSetup) (payload : List UInt8) : FileWork :=
  workFor setup.sessionId 0 { type := FileType.readOpen, streamId := 0, payload }

def DownloadSetup.Opens (setup : DownloadSetup) (task : FileTask) (answers : Answers) : Prop :=
  ∃ payload found, pathPayload setup.request.volume setup.request.path = some payload ∧
    readTarget setup.config task.tree (openWork setup payload) answers = .ok found

theorem advance_reachable (reached : Reachable (downloadSystem setup content) world) :
    Reachable (downloadSystem setup content) (world.advance setup answers) := by
  unfold DownloadWorld.advance
  cases step : nextDownload setup world (world.move answers) with
  | none => exact reached
  | some after => exact reached.step step

theorem drive_reachable (answers : Nat → Answers) (steps : Nat)
    (reached : Reachable (downloadSystem setup content) world) :
    Reachable (downloadSystem setup content) (world.drive setup answers steps) := by
  induction steps generalizing world answers with
  | zero => exact reached
  | succ steps ih => exact ih _ (advance_reachable reached)

theorem advance_delivers (asked : world.requests = [(serial, work)]) :
    world.advance setup answers = { world with requests := [] }.handle setup serial work answers := by
  have some_request : world.requests ≠ [] := by
    rw [asked]
    exact List.cons_ne_nil _ _
  unfold DownloadWorld.advance DownloadWorld.move
  rw [if_pos some_request]
  unfold nextDownload
  dsimp only
  rw [asked]
  rfl

theorem advance_receives (nothing : world.requests = []) (answered : world.responses = [(serial, completion)])
    (waits : world.waiting = some serial) (goes : world.reader.next (.answer (frameOf completion)) = some result) :
    world.advance setup answers = { world with responses := [] }.take setup result := by
  have some_response : world.responses ≠ [] := by
    rw [answered]
    exact List.cons_ne_nil _ _
  unfold DownloadWorld.advance DownloadWorld.move
  rw [if_neg (not_not.mpr nothing), if_pos some_response]
  unfold nextDownload
  dsimp only
  rw [answered]
  dsimp only [List.getElem?_cons_zero]
  rw [if_pos waits, goes]
  rfl

theorem advance_proceeds {data : List UInt8} (nothing : world.requests = []) (silent : world.responses = [])
    (point : world.reader.point = .yielding data) :
    world.advance setup answers = world.take setup world.reader.loop := by
  have goes : world.reader.next .proceed = some world.reader.loop := by
    unfold Reader.next
    rw [point]
  unfold DownloadWorld.advance DownloadWorld.move
  rw [if_neg (not_not.mpr nothing), if_neg (not_not.mpr silent)]
  unfold nextDownload
  dsimp only
  rw [goes]
  rfl

structure Serving (setup : DownloadSetup) (content : List UInt8) (task : FileTask) (reader : Reader) : Prop where
  file : task.tree setup.target = some (.regular content)
  kind : task.handle.kind = .read
  session : task.handle.sessionId = setup.sessionId
  stream : task.handle.streamId = reader.streamId
  fd : task.handle.fd = some setup.target
  size : task.handle.size = content.length
  total : reader.totalSize = content.length
  chunkMax : reader.chunkMax = setup.config.chunkBytes.toNat
  stop : reader.stop ≤ content.length

variable {task : FileTask} {reader : Reader}

def readWork (setup : DownloadSetup) (reader : Reader) (serial : Nat) : FileWork :=
  workFor setup.sessionId serial
    { type := FileType.read, streamId := reader.streamId, payload := reader.readPayload }

theorem readPayload_fields (fits : reader.cursor < 2 ^ 64) (small : reader.maximum < 65536) :
    field reader.readPayload 0 8 = reader.cursor ∧ field reader.readPayload 8 2 = reader.maximum ∧
      field reader.readPayload 10 2 = 0 ∧ reader.readPayload.length = 12 := by
  unfold Reader.readPayload packUint
  refine ⟨?_, ?_, ?_, ?_⟩
  · rw [List.append_assoc]
    exact field_littleEndian 8 _ _ fits
  · rw [List.append_assoc]
    simp (disch := simp) only [field_skip, littleEndian_length, Nat.reduceSub]
    exact field_littleEndian 2 _ _ small
  · simp (disch := simp) only [field_skip, littleEndian_length, List.length_append, Nat.reduceSub, Nat.reduceAdd]
    rfl
  · simp

theorem Serving.named (serving : Serving setup content task reader) (fits : content.length < setup.config.offsetLimit)
    (more : reader.cursor < reader.stop) (serial : Nat) :
    NamesRead setup.config task.handle (readWork setup reader serial) ∧
      readMaximum setup.config (readWork setup reader serial) = reader.maximum := by
  have limit := setup.offsetLimit_le
  have stop := serving.stop
  have chunk : 0 < setup.config.chunkBytes.toNat := by
    have positive := setup.chunkBytes_ne
    exact Nat.pos_of_ne_zero fun zero => positive (UInt16.toNat_inj.mp zero)
  have chunkMax := serving.chunkMax
  have maximum : reader.maximum = min (min reader.chunkMax (reader.stop - reader.cursor)) 0xffff := rfl
  have near : reader.cursor < 2 ^ 64 := by omega
  obtain ⟨offset, asked, reserved, length⟩ := readPayload_fields near (by omega)
  have same : readMaximum setup.config (readWork setup reader serial) = reader.maximum := by
    unfold readMaximum
    rw [irisGetLe16_toNat]
    show min (field reader.readPayload 8 2) _ = _
    rw [asked]
    omega
  refine ⟨⟨length, serving.kind, ?_, ?_, ?_, ?_, ?_⟩, same⟩
  · simp [FileHandle.matches, serving.session, serving.stream, readWork, workFor]
  · apply UInt16.toNat_inj.mp
    rw [irisGetLe16_toNat]
    exact reserved
  · rw [same]
    omega
  · show field reader.readPayload 0 8 < task.handle.size
    rw [offset, serving.size]
    omega
  · show field reader.readPayload 0 8 < setup.config.offsetLimit
    rw [offset]
    omega

theorem Serving.reads (serving : Serving setup content task reader) (fits : content.length < setup.config.offsetLimit)
    (more : reader.cursor < reader.stop) (short : ShortRead answers) (serial : Nat)
    : ∃ data completion, data ≠ [] ∧ reader.cursor + data.length ≤ reader.stop ∧
      processWork setup.config setup.sha256 task (readWork setup reader serial) answers = (task, completion) ∧
      { reader with point := .reading reader.maximum }.takeData reader.maximum (frameOf completion) = .ok data := by
  obtain ⟨named, same⟩ := serving.named fits more serial
  obtain ⟨seek, count, positive, read⟩ := short
  have limit := setup.offsetLimit_le
  have stop := serving.stop
  have opened : task.handle.fd.bind task.tree = some (.regular content) := by
    rw [serving.fd]
    exact serving.file
  have offset : field (readWork setup reader serial).payload 0 8 = reader.cursor :=
    (readPayload_fields (by omega) (by unfold Reader.maximum; omega)).1
  obtain ⟨some_data, sends⟩ := handleRead_takes named opened serving.size seek read positive
  rw [offset, same] at some_data sends
  generalize data_eq : (content.drop reader.cursor).take (min count reader.maximum) = data at some_data sends
  have size : data.length ≤ reader.maximum := by
    rw [← data_eq, List.length_take]
    omega
  have within : reader.cursor + data.length ≤ reader.stop := by
    have maximum : reader.maximum = min (min reader.chunkMax (reader.stop - reader.cursor)) 0xffff := rfl
    omega
  obtain ⟨stands, total, carries⟩ := dataCompletion_fields (readWork setup reader serial) task.handle
    reader.cursor data (by rw [serving.size]; omega) (by rw [serving.size]; omega)
  refine ⟨data, _, some_data, within, (processWork_read rfl).trans (congrArg _ sends), ?_⟩
  exact takeData_takes rfl (dataCompletion_ok (readWork setup reader serial) _ _ _) serving.stream stands
    (total.trans (serving.size.trans serving.total.symm)) carries some_data size within

def DownloadWorld.answered (world : DownloadWorld) (reader : Reader) (task : FileTask) (completion : FileCompletion) :
    DownloadWorld :=
  { world with
    reader
    waiting := some world.serial
    serial := world.serial + 1
    task
    yielded := world.yielded ++ yieldedBy reader.point
    sent := world.sent ++ dataOf completion
    opened := world.opened ++ openedBy completion }

theorem advance_exchange {request : FileRequest} {answers later : Answers} {completion : FileCompletion}
    {result : Reader × Option FileRequest} (idle : world.requests = []) (silent : world.responses = [])
    (handled : processWork setup.config setup.sha256 world.task (workFor setup.sessionId world.serial request) answers =
      (task, completion))
    (goes : reader.next (.answer (frameOf completion)) = some result) :
    ((world.take setup (reader, some request)).advance setup answers).advance setup later =
      (world.answered reader task completion).take setup result := by
  have asked : (world.take setup (reader, some request)).requests =
      [(world.serial, workFor setup.sessionId world.serial request)] := by
    show world.requests ++ _ = _
    rw [idle]
    rfl
  rw [advance_delivers asked]
  have moved : ({ world.take setup (reader, some request) with requests := [] }.handle setup world.serial
      (workFor setup.sessionId world.serial request) answers) =
        { world.answered reader task completion with responses := [(world.serial, completion)] } := by
    unfold DownloadWorld.handle DownloadWorld.answered DownloadWorld.take
    dsimp only
    rw [handled, idle, silent]
    rfl
  have received : { world.answered reader task completion with responses := [(world.serial, completion)] }.advance setup
      later = { world.answered reader task completion with responses := [] }.take setup result :=
    advance_receives idle rfl rfl goes
  rw [moved, received]
  unfold DownloadWorld.answered
  dsimp only
  rw [silent]

theorem drive_exchange {request : FileRequest} {answers : Nat → Answers} {completion : FileCompletion}
    {result : Reader × Option FileRequest} {point : ReadPoint} (idle : world.requests = [])
    (silent : world.responses = [])
    (handled : processWork setup.config setup.sha256 world.task (workFor setup.sessionId world.serial request) (answers 0) =
      (task, completion))
    (goes : reader.next (.answer (frameOf completion)) = some result)
    (rest : ∃ steps, (((world.answered reader task completion).take setup result).drive setup
      (fun step => answers (step + 2)) steps).reader.point = point) :
    ∃ steps, ((world.take setup (reader, some request)).drive setup answers steps).reader.point = point := by
  obtain ⟨steps, reached⟩ := rest
  refine ⟨steps + 2, ?_⟩
  rw [← advance_exchange idle silent handled goes] at reached
  exact reached

def Finishes (setup : DownloadSetup) (world : DownloadWorld) : Prop :=
  ∀ answers : Nat → Answers, (∀ step, ShortRead (answers step)) →
    ∃ steps, (world.drive setup answers steps).reader.point = .finished

theorem Finishes.step (moves : ∀ answers, ShortRead answers → Finishes setup (world.advance setup answers)) :
    Finishes setup world := by
  intro answers short
  obtain ⟨steps, finished⟩ := moves (answers 0) (short 0) _ fun step => short (step + 1)
  exact ⟨steps + 1, finished⟩

theorem Finishes.close (idle : world.requests = []) (silent : world.responses = []) :
    Finishes setup (world.take setup (reader.close true)) := by
  refine .step fun answers _ => .step fun later _ => ?_
  unfold Reader.close Reader.ask
  rw [advance_exchange idle silent rfl rfl]
  exact fun _ _ => ⟨0, rfl⟩

theorem Finishes.yields {data : List UInt8} (idle : world.requests = []) (silent : world.responses = [])
    (point : world.reader.point = .yielding data) (rest : Finishes setup (world.take setup world.reader.loop)) :
    Finishes setup world := by
  refine .step fun answers _ => ?_
  rw [advance_proceeds idle silent point]
  exact rest

theorem Serving.moved (serving : Serving setup content task reader) (point : ReadPoint) (cursor : Nat) :
    Serving setup content task { reader with point, cursor } where
  file := serving.file
  kind := serving.kind
  session := serving.session
  stream := serving.stream
  fd := serving.fd
  size := serving.size
  total := serving.total
  chunkMax := serving.chunkMax
  stop := serving.stop

/-- From the head of the loop the call comes to its end: every round takes the cursor further. -/
theorem Finishes.loop (fits : content.length < setup.config.offsetLimit)
    (serving : Serving setup content world.task reader) (idle : world.requests = []) (silent : world.responses = []) :
    Finishes setup (world.take setup reader.loop) := by
  induction left : reader.stop - reader.cursor using Nat.strongRecOn generalizing world reader with
  | ind left ih =>
    by_cases more : reader.cursor < reader.stop
    · rw [show reader.loop = reader.ask (.reading reader.maximum) FileType.read reader.readPayload from if_pos more]
      refine .step fun answers short => .step fun later _ => ?_
      obtain ⟨data, completion, some_data, within, handled, taken⟩ := serving.reads fits more short world.serial
      have positive := List.length_pos_iff.mpr some_data
      have goes : { reader with point := .reading reader.maximum }.next (.answer (frameOf completion)) =
          some (Reader.halt { reader with point := .reading reader.maximum, cursor := reader.cursor + data.length }
            (.yielding data)) := by
        unfold Reader.next Reader.onAnswer
        dsimp only
        rw [taken]
      unfold Reader.ask
      rw [advance_exchange idle silent handled goes]
      refine .yields idle silent rfl (ih _ ?_ (serving.moved _ _) idle silent rfl)
      rw [← left]
      show reader.stop - (reader.cursor + data.length) < _
      omega
    · rw [show reader.loop = reader.close true from if_neg more]
      exact .close idle silent

theorem stop_le (request : ReadRequest) (total : Nat) : request.stop total ≤ total := by
  unfold ReadRequest.stop
  split
  next => exact Nat.le_refl _
  next => exact Nat.min_le_left _ _

theorem opens_reads {payload : List UInt8} {path : Path} {metadata : Metadata} (serves : setup.Serves task content)
    (idle : task.handle.kind = .none) (named : pathPayload setup.request.volume setup.request.path = some payload)
    (found : readTarget setup.config task.tree (openWork setup payload) answers = .ok (path, metadata)) :
    ∃ after completion,
      processWork setup.config setup.sha256 task (openWork setup payload) answers = (after, completion) ∧
      openedFile (frameOf completion) = .ok (answers.streamId, content.length, setup.config.chunkBytes.toNat) ∧
      ∀ reader : Reader, reader.streamId = answers.streamId → reader.totalSize = content.length →
        reader.chunkMax = setup.config.chunkBytes.toNat → reader.stop ≤ content.length →
          Serving setup content after reader := by
  obtain ⟨leads, size⟩ := opens_target serves.1 found named
  have limit := setup.offsetLimit_le
  have fits := serves.2
  have fields := openedCompletion_fields setup.config (openWork setup payload) metadata answers
  refine ⟨_, _, (processWork_readOpen rfl).trans (congrArg _ (handleReadOpen_opens idle found)), ?_, ?_⟩
  · have chunk : field (openedCompletion setup.config (openWork setup payload) metadata answers).payload 32 2 ≠ 0 := by
      rw [fields.chunkMax]
      exact fun zero => setup.chunkBytes_ne (UInt16.toNat_inj.mp zero)
    rw [← fields.chunkMax, ← size, ← fields.size (by omega)]
    exact openedFile_takes rfl fields.status fields.length fields.streamId rfl answers.streamId_ne chunk fields.reserved
  · intro reader stream total chunkMax stop
    exact ⟨serves.1, rfl, rfl, stream.symm, congrArg some leads, size, total, chunkMax, stop⟩

/-- An undisturbed call ends: with the whole slice, or with a `ValueError` where the offset is past the end. -/
theorem download_ends {answers : Nat → Answers} (serves : setup.Serves task content) (idle : task.handle.kind = .none)
    (inRange : setup.request.InRange) (opens : setup.Opens task (answers 0))
    (short : ∀ step, ShortRead (answers step)) :
    ∃ steps, ((DownloadWorld.start setup task).drive setup answers steps).reader.point =
      if setup.request.offset ≤ content.length then .finished else .failed := by
  obtain ⟨payload, ⟨path, metadata⟩, named, found⟩ := opens
  obtain ⟨after, completion, handled, opened, serving⟩ := opens_reads serves idle named found
  unfold DownloadWorld.start
  rw [startRead_asks inRange named]
  unfold Reader.ask
  by_cases inside : setup.request.offset ≤ content.length
  · rw [if_pos inside]
    apply drive_exchange rfl rfl handled (Reader.next_opened rfl opened inside)
    exact Finishes.loop serves.2 (serving _ rfl rfl rfl (stop_le _ _)) rfl rfl _ fun step => short (step + 2)
  · rw [if_neg inside]
    exact drive_exchange rfl rfl handled (Reader.next_beyond rfl opened (Int.not_le.mp inside)) ⟨0, rfl⟩

/-- What was asked for, and nothing else, is yielded: in every run a part of the slice from its start, and all of
it where the call ends normally. Where the device's reads give something, however little, the call comes to
its end. -/
theorem download_exact (setup : DownloadSetup) (content : List UInt8) :
    (∀ world, Reachable (downloadSystem setup content) world →
      world.yielded.flatten <+: setup.request.slice content ∧ (∀ chunk ∈ world.yielded, chunk ≠ []) ∧
        (world.reader.point = .finished → world.yielded.flatten = setup.request.slice content) ∧
        ∀ completion ∈ world.sent, DataFrame content completion) ∧
      ∀ (task : FileTask) (answers : Nat → Answers), setup.Serves task content → task.handle.kind = .none →
        setup.request.InRange → setup.Opens task (answers 0) → (∀ step, ShortRead (answers step)) →
        ∃ steps, ((DownloadWorld.start setup task).drive setup answers steps).reader.point =
            (if setup.request.offset ≤ content.length then .finished else .failed) ∧
          ((DownloadWorld.start setup task).drive setup answers steps).yielded.flatten = setup.request.slice content := by
  have safe (world : DownloadWorld) (reached : Reachable (downloadSystem setup content) world) :
      world.yielded.flatten <+: setup.request.slice content ∧ (∀ chunk ∈ world.yielded, chunk ≠ []) ∧
        (world.reader.point = .finished → world.yielded.flatten = setup.request.slice content) ∧
        ∀ completion ∈ world.sent, DataFrame content completion := by
    have sound := (downloadSound_invariant setup content).reachable reached
    obtain ⟨parts, chunks⟩ := sound.reader.part
    exact ⟨parts, chunks, sound.reader.finished, sound.sent⟩
  refine ⟨safe, fun task answers serves idle inRange opens short => ?_⟩
  obtain ⟨steps, ended⟩ := download_ends serves idle inRange opens short
  refine ⟨steps, ended, ?_⟩
  have reached : Reachable (downloadSystem setup content) ((DownloadWorld.start setup task).drive setup answers steps) :=
    drive_reachable answers steps (.of_start ⟨task, serves, rfl⟩)
  obtain ⟨parts, _, finished, _⟩ := safe _ reached
  by_cases inside : setup.request.offset ≤ content.length
  · rw [if_pos inside] at ended
    exact finished ended
  · have empty : setup.request.slice content = [] := setup.request.slice_beyond (by omega)
    rw [empty] at parts ⊢
    exact List.prefix_nil.mp parts

/-- A volume `d` that can be read, with the file `f` of three bytes. -/
def lettersSetup : DownloadSetup where
  config := { volumeConfig with volumes := [{ id := [0x64], basePath := [0x2f, 0x64], capabilities := Capability.read }] }
  sha256 := letterSha256
  sessionId := 1
  request := { volume := [0x64], path := [0x66], offset := 1, length := none }
  offsetLimit_le := by decide
  chunkBytes_ne := by decide

def lettersTask : FileTask := .zero
    (Function.update volumeTree [0x2f, 0x64, 0x2f, 0x66] (some (.regular [0x61, 0x62, 0x63])))

/-- Every `read` gives one byte. -/
def bytewise : Answers :=
  { willingAnswers with target := .ok { permissions := 0o600, mtime := 0 }, read := .ok 1 }

theorem letters_downloaded : ∃ steps,
    ((DownloadWorld.start lettersSetup lettersTask).drive lettersSetup (fun _ => bytewise) steps).reader.point = .finished ∧
      ((DownloadWorld.start lettersSetup lettersTask).drive lettersSetup (fun _ => bytewise) steps).yielded.flatten =
        [0x62, 0x63] := by
  have serves : lettersSetup.Serves lettersTask [0x61, 0x62, 0x63] := by
    constructor
    · decide +kernel
    · decide
  have opens : lettersSetup.Opens lettersTask bytewise :=
    ⟨[1, 0, 1, 0, 0x64, 0x66], ([0x2f, 0x64, 0x2f, 0x66], { type := .regular, permissions := 0o600, size := 3, mtime := 0 }),
      by decide +kernel, by rfl⟩
  exact (download_exact lettersSetup [0x61, 0x62, 0x63]).2 lettersTask (fun _ => bytewise) serves rfl (by decide) opens
    fun _ => ⟨rfl, 1, Nat.one_pos, rfl⟩

end EspIris.Link
