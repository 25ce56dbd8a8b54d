import EspIris.Device.FileHolding

/-! A download as the file task sees it: which handle it reads from, and what its DATA frames carry. -/

namespace EspIris.Device.Files
open Codec.Device Bytes

variable {config : FilesConfig} {sha256 : List UInt8 → List UInt8} {task : FileTask} {work : FileWork}
  {answers : Answers}
  {handle : FileHandle} {tree : Tree} {content : List UInt8}

structure DataFrame (content : List UInt8) (completion : FileCompletion) : Prop where
  total : field completion.payload 12 8 = content.length
  some_data : completion.payload.drop 20 ≠ []
  inside : field completion.payload 4 8 + (completion.payload.drop 20).length ≤ field completion.payload 12 8
  data : completion.payload.drop 20 =
    (content.drop (field completion.payload 4 8)).take (completion.payload.drop 20).length
  ended : completion.flags &&& Flag.streamEnd ≠ 0 ↔
    field completion.payload 4 8 + (completion.payload.drop 20).length = content.length

theorem dataPayload_fields {mark data : List UInt8} {offset total : Nat} (two : mark.length = 2)
    (near : offset < 2 ^ 64)
    (small : total < 2 ^ 64) :
    field (irisPutLe16 0 ++ mark ++ irisPutLe64 (UInt64.ofNat offset) ++ irisPutLe64 (UInt64.ofNat total) ++ data) 4 8 =
        offset ∧
      field (irisPutLe16 0 ++ mark ++ irisPutLe64 (UInt64.ofNat offset) ++ irisPutLe64 (UInt64.ofNat total) ++ data) 12 8 =
        total ∧
      (irisPutLe16 0 ++ mark ++ irisPutLe64 (UInt64.ofNat offset) ++ irisPutLe64 (UInt64.ofNat total) ++ data).drop 20 =
        data := by
  have first : (irisPutLe16 0 ++ mark).length = 4 := by
    rw [List.length_append, two, irisPutLe16_eq, littleEndian_length]
  have second : (irisPutLe16 0 ++ mark ++ irisPutLe64 (UInt64.ofNat offset)).length = 12 := by
    rw [List.length_append, first, irisPutLe64_eq, littleEndian_length]
  have third : (irisPutLe16 0 ++ mark ++ irisPutLe64 (UInt64.ofNat offset) ++ irisPutLe64 (UInt64.ofNat total)).length =
      20 := by
    rw [List.length_append, second, irisPutLe64_eq, littleEndian_length]
  refine ⟨?_, ?_, ?_⟩
  · rw [List.append_assoc, List.append_assoc, field_skip _ _ _ _ (Nat.le_of_eq first), first, irisPutLe64_eq,
      UInt64.toNat_ofNat_of_lt' near]
    exact field_littleEndian 8 offset _ near
  · rw [List.append_assoc, field_skip _ _ _ _ (Nat.le_of_eq second), second, irisPutLe64_eq,
      UInt64.toNat_ofNat_of_lt' small]
    exact field_littleEndian 8 total _ small
  · rw [← third]
    exact List.drop_left

theorem refused_status {work : FileWork} {type : UInt8} {status : FileStatus} {streamId : UInt32}
    (failed : status ≠ .ok) :
    { refusal work type status with streamId }.status ≠ FileStatus.ok.code := by
  intro done
  exact code_ne_ok failed ((refusal_status work type status).symm.trans done)

theorem statusFromErrno_ne (value : Errno) : statusFromErrno value ≠ .ok := by
  cases value <;> exact FileStatus.noConfusion

theorem fileRest_opened (opened : handle.fd.bind tree = some (.regular content)) (offset : Nat) :
    fileRest tree handle.fd offset = content.drop offset := by
  unfold fileRest
  rw [opened]

def dataCompletion (work : FileWork) (handle : FileHandle) (offset : Nat) (data : List UInt8) : FileCompletion :=
  let ended : Bool := offset + data.length = handle.size
  { completionBegin work FileType.data .ok [] with
    streamId := handle.streamId
    flags := if ended then Flag.response ||| Flag.streamEnd else Flag.response
    payload := irisPutLe16 0 ++ (if ended then irisPutLe16 1 else [0, 0]) ++
      irisPutLe64 (UInt64.ofNat offset) ++ irisPutLe64 (UInt64.ofNat handle.size) ++ data }

def readMaximum (config : FilesConfig) (work : FileWork) : Nat :=
  min (irisGetLe16 work.payload 8).toNat config.chunkBytes.toNat

structure NamesRead (config : FilesConfig) (handle : FileHandle) (work : FileWork) : Prop where
  length : work.payload.length = 12
  kind : handle.kind = .read
  names : handle.matches work = true
  reserved : irisGetLe16 work.payload 10 = 0
  maximum : readMaximum config work ≠ 0
  inside : field work.payload 0 8 < handle.size
  seekable : field work.payload 0 8 < config.offsetLimit

theorem handleRead_cases (config : FilesConfig) (work : FileWork) (answers : Answers)
    (opened : handle.fd.bind tree = some (.regular content)) :
    (handleRead config tree work answers handle).status ≠ FileStatus.ok.code ∨
      NamesRead config handle work ∧ ∃ count, answers.read = .ok count ∧
        (content.drop (field work.payload 0 8)).take (min count (readMaximum config work)) ≠ [] ∧
        handleRead config tree work answers handle = dataCompletion work handle (field work.payload 0 8)
          ((content.drop (field work.payload 0 8)).take (min count (readMaximum config work))) := by
  unfold handleRead
  dsimp only
  split_ifs with refused outside
  · exact .inl (refused_status FileStatus.noConfusion)
  · exact .inl (refused_status FileStatus.noConfusion)
  simp only [not_or, Nat.not_le, not_not, Bool.not_eq_true', Bool.not_eq_false] at refused outside
  cases read : answers.read with
  | error value => exact .inl (refused_status (statusFromErrno_ne value))
  | ok count =>
    dsimp only
    rw [fileRest_opened opened]
    split
    next => exact .inl (refused_status FileStatus.noConfusion)
    next some_data =>
      have named : NamesRead config handle work :=
        ⟨refused.1, refused.2.1, refused.2.2.1, refused.2.2.2, outside.1, outside.2.1, outside.2.2.1⟩
      exact .inr ⟨named, count, rfl, some_data, rfl⟩

/-- A READ of the open file, with a seek that works and a `read` that gives something, succeeds. -/
theorem handleRead_takes {count : Nat} (named : NamesRead config handle work)
    (opened : handle.fd.bind tree = some (.regular content)) (size : handle.size = content.length)
    (seek : answers.seek = none) (read : answers.read = .ok count) (positive : 0 < count) :
    (content.drop (field work.payload 0 8)).take (min count (readMaximum config work)) ≠ [] ∧
      handleRead config tree work answers handle = dataCompletion work handle (field work.payload 0 8)
        ((content.drop (field work.payload 0 8)).take (min count (readMaximum config work))) := by
  have some_data : (content.drop (field work.payload 0 8)).take (min count (readMaximum config work)) ≠ [] := by
    have inside := named.inside
    have maximum := named.maximum
    apply List.ne_nil_of_length_pos
    rw [List.length_take, List.length_drop]
    omega
  refine ⟨some_data, ?_⟩
  unfold handleRead
  dsimp only
  rw [if_neg (by simp [named.length, named.kind, named.names, named.reserved]),
    if_neg (by
      rw [seek]
      simp only [not_or, Nat.not_le, Option.isSome_none, Bool.false_eq_true, not_false_eq_true, and_true]
      exact ⟨named.maximum, named.inside, named.seekable⟩)]
  rw [read]
  dsimp only
  rw [fileRest_opened opened]
  exact if_neg some_data

theorem dataCompletion_fields (work : FileWork) (handle : FileHandle) (offset : Nat) (data : List UInt8)
    (inside : offset + data.length ≤ handle.size)
    (fits : handle.size < 2 ^ 64) :
    field (dataCompletion work handle offset data).payload 4 8 = offset ∧
      field (dataCompletion work handle offset data).payload 12 8 = handle.size ∧
      (dataCompletion work handle offset data).payload.drop 20 = data := by
  apply dataPayload_fields _ (by omega) fits
  split
  next => rw [irisPutLe16_eq, littleEndian_length]
  next => rfl

theorem dataCompletion_ok (work : FileWork) (handle : FileHandle) (offset : Nat) (data : List UInt8) :
    field (dataCompletion work handle offset data).payload 0 2 = 0 := by
  unfold dataCompletion
  dsimp only
  rw [List.append_assoc, List.append_assoc, List.append_assoc, irisPutLe16_eq]
  exact field_littleEndian 2 0 _ (by decide)

theorem dataCompletion_ended {offset : Nat} {data : List UInt8} :
    (dataCompletion work handle offset data).flags &&& Flag.streamEnd ≠ 0 ↔ offset + data.length = handle.size := by
  unfold dataCompletion
  by_cases ended : offset + data.length = handle.size
  · simp only [ended, decide_true, if_true, iff_true]
    decide
  · simp only [ended, decide_false, Bool.false_eq_true, if_false, iff_false]
    decide

theorem handleRead_type (config : FilesConfig) (tree : Tree) (work : FileWork) (answers : Answers)
    (handle : FileHandle) :
    (handleRead config tree work answers handle).type = FileType.data := by
  unfold handleRead
  dsimp only
  split_ifs
  next => rfl
  next => rfl
  split
  next => rfl
  split
  next => rfl
  next => rfl

theorem handleRead_unnamed (unnamed : ¬ (handle.kind = .read ∧ handle.streamId = work.streamId)) :
    (handleRead config tree work answers handle).status ≠ FileStatus.ok.code := by
  have refused : work.payload.length ≠ 12 ∨ handle.kind ≠ .read ∨ !handle.matches work ∨
      irisGetLe16 work.payload 10 ≠ 0 := by
    by_cases kind : handle.kind = .read
    · have other : handle.streamId ≠ work.streamId := fun same => unnamed ⟨kind, same⟩
      exact .inr (.inr (.inl (by simp [FileHandle.matches, other])))
    · exact .inr (.inl kind)
  unfold handleRead
  dsimp only
  rw [if_pos refused]
  exact refused_status FileStatus.noConfusion

theorem dataCompletion_frame {offset count : Nat} (size : handle.size = content.length) (fits : content.length < 2 ^ 64)
    (inside : offset < content.length) (some_data : (content.drop offset).take count ≠ []) :
    DataFrame content (dataCompletion work handle offset ((content.drop offset).take count)) := by
  have short : ((content.drop offset).take count).length ≤ content.length - offset := by
    rw [List.length_take, List.length_drop]
    exact Nat.min_le_right _ _
  obtain ⟨at_offset, total, rest⟩ := dataCompletion_fields work handle offset ((content.drop offset).take count)
    (by omega) (by omega)
  constructor
  · rw [total, size]
  · rwa [rest]
  · rw [at_offset, total, rest]
    omega
  · rw [at_offset, rest, List.length_take]
    exact List.take_eq_take_min
  · rw [at_offset, rest, dataCompletion_ended, size]

theorem handleRead_data (opened : handle.fd.bind tree = some (.regular content)) (size : handle.size = content.length)
    (fits : content.length < 2 ^ 64)
    (done : (handleRead config tree work answers handle).status = FileStatus.ok.code) :
    DataFrame content (handleRead config tree work answers handle) := by
  rcases handleRead_cases config work answers opened with failed | ⟨named, count, _, some_data, sends⟩
  · exact absurd done failed
  · rw [sends]
    exact dataCompletion_frame size fits (size ▸ named.inside) some_data

def readHandle (work : FileWork) (path : Path) (metadata : Metadata) (answers : Answers) (handle : FileHandle) :
    FileHandle :=
  { handle with
    kind := .read
    sessionId := work.sessionId
    streamId := answers.streamId
    fd := some path
    size := metadata.size }

def openedCompletion (config : FilesConfig) (work : FileWork) (metadata : Metadata) (answers : Answers) :
    FileCompletion :=
  { completionBegin work FileType.readOpened .ok
      (irisPutLe32 answers.streamId ++ irisPutLe64 (UInt64.ofNat metadata.size) ++
        irisPutLe64 (UInt64.ofNat metadata.mtime.toNat) ++ irisPutLe64 (weakEtag metadata) ++
        irisPutLe16 config.chunkBytes ++ [0, 0]) with
    streamId := answers.streamId
    flags := Flag.response ||| Flag.streamBegin }

theorem readTarget_honest (config : FilesConfig) (tree : Tree) (work : FileWork) (answers : Answers) :
    Honest (readTarget config tree work answers) := by
  unfold readTarget
  apply Honest.bind (decodePathRequestWithTrailer_honest _ _ _)
  intro request
  apply Honest.bind (refuseIf_honest (by decide))
  intro _
  apply Honest.bind (resolveExistingPath_honest _ _ _ _)
  intro resolved
  apply Honest.bind (refuseIf_honest (by decide))
  intro _
  apply Honest.bind (checkCall_honest _)
  intro _
  apply Honest.bind
  · cases fileStat tree resolved.1 answers.target with
    | error value => exact .errno value
    | ok metadata => exact .ok metadata
  · exact fun _ => .ok _

theorem readTarget_ok {path : Path} {metadata : Metadata}
    (found : readTarget config tree work answers = .ok (path, metadata)) :
    ∃ request content, decodePathRequest config.volumes work.payload = .ok request ∧
      path = request.volume.path request.relative ∧ tree path = some (.regular content) ∧
      metadata.size = content.length := by
  obtain ⟨request, decoded, found⟩ := bind_ok.mp found
  obtain ⟨_, _, found⟩ := bind_ok.mp found
  obtain ⟨⟨resolved, first⟩, leads, found⟩ := bind_ok.mp found
  obtain ⟨_, regular, found⟩ := bind_ok.mp found
  obtain ⟨_, _, found⟩ := bind_ok.mp found
  obtain ⟨second, described, found⟩ := bind_ok.mp found
  cases found
  obtain ⟨same, node, there, type, _⟩ := resolveExistingPath_ok leads
  have is_regular : first.type = .regular := not_not.mp (refuseIf_ok.mp regular)
  cases node with
  | regular content =>
    refine ⟨request, content, decoded, same, there, ?_⟩
    unfold ofCall at described
    cases stated : fileStat tree path answers.target with
    | error value =>
      rw [stated] at described
      contradiction
    | ok metadata =>
      rw [stated] at described
      cases described
      obtain ⟨_, found, _, size⟩ := fileStat_ok stated
      cases there.symm.trans found
      exact size
  | directory | link | special => exact absurd (type.symm.trans is_regular) NodeType.noConfusion

theorem handleReadOpen_opens {path : Path} {metadata : Metadata} (idle : handle.kind = .none)
    (found : readTarget config tree work answers = .ok (path, metadata)) :
    handleReadOpen config tree work answers handle =
      (readHandle work path metadata answers handle, openedCompletion config work metadata answers) := by
  unfold handleReadOpen
  rw [if_neg (not_not.mpr idle), found]
  rfl

theorem handleReadOpen_cases (config : FilesConfig) (tree : Tree) (work : FileWork) (answers : Answers)
    (handle : FileHandle) :
    (handleReadOpen config tree work answers handle).2.status ≠ FileStatus.ok.code ∧
        ((handleReadOpen config tree work answers handle).1 = handle ∨
          (handleReadOpen config tree work answers handle).1 = .zero) ∨
      ∃ path metadata, readTarget config tree work answers = .ok (path, metadata) ∧
        handleReadOpen config tree work answers handle =
          (readHandle work path metadata answers handle, openedCompletion config work metadata answers) := by
  by_cases idle : handle.kind = .none
  · cases found : readTarget config tree work answers with
    | error status =>
      have failure : status ≠ .ok := fun same => readTarget_honest config tree work answers (same ▸ found)
      unfold handleReadOpen
      rw [if_neg (not_not.mpr idle), found]
      refine .inl ⟨fun done => ?_, .inr rfl⟩
      exact code_ne_ok failure ((refusal_status work _ status).symm.trans done)
    | ok both => exact .inr ⟨both.1, both.2, rfl, handleReadOpen_opens idle found⟩
  · unfold handleReadOpen
    rw [if_pos idle]
    refine .inl ⟨fun done => ?_, .inl rfl⟩
    exact code_ne_ok FileStatus.noConfusion ((refusal_status work _ .busy).symm.trans done)

theorem handleReadOpen_type (config : FilesConfig) (tree : Tree) (work : FileWork) (answers : Answers)
    (handle : FileHandle) : (handleReadOpen config tree work answers handle).2.type = FileType.readOpened := by
  unfold handleReadOpen
  split
  next => rfl
  split
  next => rfl
  next => rfl

theorem handleClose_type (handle : FileHandle) : (handleClose handle work).2.type = FileType.closeResponse := by
  unfold handleClose
  split
  next => rfl
  next => rfl

theorem processWork_readOpen (typed : work.type = FileType.readOpen) : processWork config sha256 task work answers =
    task.withHandle (handleReadOpen config task.tree work answers task.handle) := by
  unfold processWork
  rw [typed]
  rfl

theorem processWork_read (typed : work.type = FileType.read) : processWork config sha256 task work answers =
    (task, handleRead config task.tree work answers task.handle) := by
  unfold processWork
  rw [typed]
  rfl

theorem processWork_close (typed : work.type = FileType.close) : processWork config sha256 task work answers =
    task.withHandle (handleClose task.handle work) := by
  unfold processWork
  rw [typed]
  rfl

structure OpenedFields (config : FilesConfig) (metadata : Metadata) (streamId : UInt32) (payload : List UInt8) :
    Prop where
  length : payload.length = 36
  status : field payload 0 2 = 0
  streamId : field payload 4 4 = streamId.toNat
  size : metadata.size < 2 ^ 64 → field payload 8 8 = metadata.size
  chunkMax : field payload 32 2 = config.chunkBytes.toNat
  reserved : field payload 34 2 = 0

theorem openedCompletion_fields (config : FilesConfig) (work : FileWork) (metadata : Metadata) (answers : Answers) :
    OpenedFields config metadata answers.streamId (openedCompletion config work metadata answers).payload := by
  unfold openedCompletion completionBegin
  simp only [irisPutLe64_eq, irisPutLe32_eq, irisPutLe16_eq, List.append_assoc]
  constructor
  case length => simp
  case status => exact field_littleEndian 2 _ _ (by decide)
  case streamId =>
    simp (disch := simp) only [field_skip, littleEndian_length, List.length_cons, List.length_nil, Nat.reduceSub,
      Nat.reduceAdd]
    exact field_littleEndian 4 _ _ answers.streamId.toNat_lt
  case size =>
    intro fits
    simp (disch := simp) only [field_skip, littleEndian_length, List.length_cons, List.length_nil, Nat.reduceSub,
      Nat.reduceAdd]
    rw [UInt64.toNat_ofNat_of_lt' fits]
    exact field_littleEndian 8 _ _ fits
  case chunkMax =>
    simp (disch := simp) only [field_skip, littleEndian_length, List.length_cons, List.length_nil, Nat.reduceSub,
      Nat.reduceAdd]
    exact field_littleEndian 2 _ _ config.chunkBytes.toNat_lt
  case reserved =>
    simp (disch := simp) only [field_skip, littleEndian_length, List.length_cons, List.length_nil, Nat.reduceSub,
      Nat.reduceAdd]
    rfl

def ReadsAfter (config : FilesConfig) (task : FileTask) (work : FileWork) (answers : Answers) (after : FileTask) :
    Prop :=
  after.handle.kind = .read → after.handle = task.handle ∨
    work.type = FileType.readOpen ∧ ∃ path metadata, readTarget config task.tree work answers = .ok (path, metadata) ∧
      after.handle = readHandle work path metadata answers task.handle

theorem ReadsAfter.same {after : FileTask} (same : after.handle = task.handle) :
    ReadsAfter config task work answers after := fun _ => .inl same

theorem ReadsAfter.refl (task : FileTask) : ReadsAfter config task work answers task := .same rfl

theorem ReadsAfter.withTree (result : Tree × FileCompletion) :
    ReadsAfter config task work answers (task.withTree result).1 := .same rfl

theorem ReadsAfter.closed {after : FileTask} (closed : after.handle.kind ≠ .read) :
    ReadsAfter config task work answers after := fun reads => absurd reads closed

theorem ReadsAfter.ite {condition : Prop} [Decidable condition] {yes no : FileTask × FileCompletion}
    (left : condition → ReadsAfter config task work answers yes.1)
    (right : ReadsAfter config task work answers no.1) :
    ReadsAfter config task work answers (if condition then yes else no).1 := by
  by_cases holds : condition
  · rw [if_pos holds]
    exact left holds
  · rwa [if_neg holds]

theorem handleListOpen_reads : ReadsAfter config task work answers
    (task.withHandle (handleListOpen config task.tree work answers task.handle)).1 := by
  unfold handleListOpen
  split
  next => exact .same rfl
  split
  next => exact .closed HandleKind.noConfusion
  next => exact .closed HandleKind.noConfusion

theorem handleReadOpen_reads (typed : work.type = FileType.readOpen) : ReadsAfter config task work answers
    (task.withHandle (handleReadOpen config task.tree work answers task.handle)).1 := by
  rcases handleReadOpen_cases config task.tree work answers task.handle with ⟨_, same | zero⟩ | ⟨path, metadata, found, opens⟩
  · exact .same same
  · refine .closed fun reads => ?_
    have kind : (handleReadOpen config task.tree work answers task.handle).1.kind = .read := reads
    rw [zero] at kind
    contradiction
  · exact fun _ => .inr ⟨typed, path, metadata, found, congrArg Prod.fst opens⟩

theorem handleClose_reads : ReadsAfter config task work answers (task.withHandle (handleClose task.handle work)).1 := by
  unfold handleClose
  split
  next => exact .same rfl
  next => exact .closed HandleKind.noConfusion

theorem TransferStep.reads {after : FileTask} {completion : FileCompletion}
    (step : TransferStep config sha256 task work answers after completion) :
    ReadsAfter config task work answers after := by
  cases step with
  | refused _ _ handle =>
    rcases handle with rfl | ⟨_, zero⟩
    · exact .same rfl
    · exact .closed (by rw [zero]; exact HandleKind.noConfusion)
  | opened => exact .closed HandleKind.noConfusion
  | wrote _ accepted =>
    have writes := namesTransfer_kind (acceptsWrite_names accepted)
    exact .closed fun reads => HandleKind.noConfusion (writes.symm.trans reads)
  | committed | unseen | aborted => exact .closed HandleKind.noConfusion

/-- Only a READ_OPEN opens a handle for reading, and a request leaves the open one alone or closes it. -/
theorem processWork_reads : ReadsAfter config task work answers (processWork config sha256 task work answers).1 := by
  have step {after : FileTask} {completion : FileCompletion} :
      TransferStep config sha256 task work answers after completion → ReadsAfter config task work answers after :=
    TransferStep.reads
  unfold processWork
  apply ReadsAfter.ite fun _ => .refl task
  apply ReadsAfter.ite fun _ => .refl task
  apply ReadsAfter.ite fun _ => handleListOpen_reads
  apply ReadsAfter.ite fun _ => .refl task
  apply ReadsAfter.ite handleReadOpen_reads
  apply ReadsAfter.ite fun _ => .refl task
  apply ReadsAfter.ite fun typed => step (handleWriteOpen_step typed)
  apply ReadsAfter.ite fun typed => step (handleWrite_step typed)
  apply ReadsAfter.ite fun typed => step (handleCommit_step typed)
  apply ReadsAfter.ite fun typed => step (handleAbort_step typed)
  apply ReadsAfter.ite fun _ => .withTree _
  apply ReadsAfter.ite fun _ => .withTree _
  apply ReadsAfter.ite fun _ => .withTree _
  apply ReadsAfter.ite fun _ => .refl task
  exact ReadsAfter.ite (fun _ => handleClose_reads) (.refl task)

end EspIris.Device.Files
