import EspIris.Device.Files
import EspIris.Lib.Machine

/-! Write transfers over whole runs of the file task: what the receipt says of a transfer, and what
the target of a request that failed holds. -/

namespace EspIris.Device.Files
open Machine Codec.Device Bytes
variable {completion : FileCompletion} {handle : FileHandle} {tree created : Tree}
variable {after : FileTask}

/-- A write transfer: `before` is what others left at the target, `data` the data of the accepted
WRITEs, `digest` the one that COMMIT named, and `renamed` what a rename put at the target. -/
structure Transfer where
  sessionId : UInt32
  streamId : UInt32
  target : Path
  expected : Nat
  before : Option Node
  data : List UInt8
  digest : List UInt8
  renamed : Option Node
  deriving DecidableEq, Repr

def Transfer.Replaced (sha256 : List UInt8 → List UInt8) (transfer : Transfer) : Prop :=
  transfer.renamed = some (.regular transfer.data) ∧ transfer.data.length = transfer.expected ∧
    sha256 transfer.data = transfer.digest

def Transfer.noteChange (transfer : Transfer) (path : Path) (node : Option Node) : Transfer :=
  { transfer with before := if transfer.target = path then node else transfer.before }

structure TransferWorld where
  task : FileTask
  transfer : Option Transfer

inductive FileEvent
  | request (work : FileWork) (answers : Answers)
  | sessionEnd (sessionId : UInt32) (unlink : Option Errno)
  | restart (unlink : Option Errno)
  | change (path : Path) (node : Option Node)

def renamedNode (sha256 : List UInt8 → List UInt8) (task : FileTask) (work : FileWork) (answers : Answers) :
    Option Node :=
  match commitChecks sha256 task work answers with
  | .error _ => none
  | .ok () =>
    match renameNode task.tree task.handle.tempPath task.handle.targetPath answers.rename with
    | .error _ => none
    | .ok tree => tree task.handle.targetPath

def commitsTransfer (task : FileTask) (work : FileWork) : Bool :=
  work.payload.length == 32 && namesTransfer task.handle work

def noteTransfer (config : FilesConfig) (sha256 : List UInt8 → List UInt8) (task : FileTask) (work : FileWork)
    (answers : Answers) (completion : FileCompletion) (transfer : Option Transfer) : Option Transfer :=
  if work.type = FileType.writeOpen then
    match completion.status == FileStatus.ok.code, writeOpenRequest config task.tree work answers with
    | true, .ok request => some
      { sessionId := work.sessionId
        streamId := completion.streamId
        target := request.target
        expected := request.expectedSize
        before := task.tree request.target
        data := []
        digest := []
        renamed := none }
    | _, _ => transfer
  else if work.type = FileType.write then
    if completion.status = FileStatus.ok.code then
      transfer.map fun transfer => { transfer with data := transfer.data ++ work.payload.drop 12 }
    else transfer
  else if work.type = FileType.commit ∧ commitsTransfer task work then
    transfer.map fun transfer =>
      { transfer with digest := work.payload, renamed := renamedNode sha256 task work answers }
  else transfer

def nextTransfer (config : FilesConfig) (sha256 : List UInt8 → List UInt8) (world : TransferWorld) :
    FileEvent → Option TransferWorld
  | .request work answers =>
    let (task, completion) := processWork config sha256 world.task work answers
    some { task, transfer := noteTransfer config sha256 world.task work answers completion world.transfer }
  | .sessionEnd sessionId unlink =>
    some { task := sessionEnd world.task sessionId unlink
           transfer := world.transfer.filter fun transfer => transfer.sessionId != sessionId }
  | .restart unlink => some { task := restartTask world.task unlink, transfer := none }
  | .change path node =>
    if world.task.handle.kind = .write ∧ path = world.task.handle.tempPath then none
    else
      some { task := { world.task with tree := Function.update world.task.tree path node }
             transfer := world.transfer.map (Transfer.noteChange · path node) }

def transferSystem (config : FilesConfig) (sha256 : List UInt8 → List UInt8) : System TransferWorld FileEvent :=
  .ofPartial (fun world => ∃ tree, world = { task := .zero tree, transfer := none }) (nextTransfer config sha256)

def SaysCommitted (receipt : WriteReceipt) (transfer : Transfer) : Prop :=
  receipt.valid = true ∧ receipt.sessionId = transfer.sessionId ∧ receipt.streamId = transfer.streamId ∧
    receipt.state = some .committed

structure ReceiptTruthful (sha256 : List UInt8 → List UInt8) (world : TransferWorld) : Prop where
  known : world.task.receipt.valid = true → ∃ transfer, world.transfer = some transfer ∧
    world.task.receipt.sessionId = transfer.sessionId ∧ world.task.receipt.streamId = transfer.streamId
  committed : ∀ transfer, world.transfer = some transfer →
    (SaysCommitted world.task.receipt transfer ↔ transfer.Replaced sha256)

/-- What a failed request leaves at its target: of the open transfer, what stood there before the
transfer; of a WRITE_OPEN, what stood there before it. A WRITE_OPEN that its checks refuse and any other request change
nothing. -/
structure FailureAtomic (config : FilesConfig) (before : TransferWorld) (work : FileWork) (answers : Answers)
    (after : FileTask) : Prop where
  transfer : ∀ transfer, before.transfer = some transfer → namesTransfer before.task.handle work →
    after.tree transfer.target = transfer.before
  opening : ∀ request, work.type = FileType.writeOpen →
    writeOpenRequest config before.task.tree work answers = .ok request →
      after.tree request.target = before.task.tree request.target
  refused : work.type = FileType.writeOpen →
    (∀ request, writeOpenRequest config before.task.tree work answers ≠ .ok request) → after.tree = before.task.tree
  other : work.type ≠ FileType.writeOpen → ¬ namesTransfer before.task.handle work → after.tree = before.task.tree

def writeTypes : List UInt8 := [FileType.writeOpen, FileType.write, FileType.commit, FileType.abort]

def opensApart (config : FilesConfig) (tree : Tree) (work : FileWork) (answers : Answers) : Bool :=
  match openForWriting config tree work answers with
  | .error _ => true
  | .ok (_, handle) => handle.tempPath != handle.targetPath

/-- The `file_stat` after a successful rename succeeds too, and a temporary file is not the target. -/
def CommitsCleanly (config : FilesConfig) (sha256 : List UInt8 → List UInt8) (world : TransferWorld) :
    FileEvent → Prop
  | .request work answers =>
    (work.type = FileType.commit → commitsTransfer world.task work →
      (renamedNode sha256 world.task work answers).isSome → answers.renamed.isOk) ∧
    (work.type = FileType.writeOpen → opensApart config world.task.tree work answers)
  | _ => True

instance (config : FilesConfig) (sha256 : List UInt8 → List UInt8) (world : TransferWorld) :
    ∀ event, Decidable (CommitsCleanly config sha256 world event)
  | .request _ _ => inferInstanceAs (Decidable (_ ∧ _))
  | .sessionEnd _ _ => inferInstanceAs (Decidable True)
  | .restart _ => inferInstanceAs (Decidable True)
  | .change _ _ => inferInstanceAs (Decidable True)

variable {config : FilesConfig} {sha256 : List UInt8 → List UInt8} {task : FileTask} {work : FileWork}
  {answers : Answers}

variable {transfer : Option Transfer}

theorem processWork_writeOpen (typed : work.type = FileType.writeOpen) :
    processWork config sha256 task work answers = handleWriteOpen config task work answers := by
  unfold processWork
  rw [typed]
  rfl

theorem processWork_write (typed : work.type = FileType.write) :
    processWork config sha256 task work answers = handleWrite config task work answers := by
  unfold processWork
  rw [typed]
  rfl

theorem processWork_commit (typed : work.type = FileType.commit) :
    processWork config sha256 task work answers = handleCommit sha256 task work answers := by
  unfold processWork
  rw [typed]
  rfl

theorem processWork_abort (typed : work.type = FileType.abort) :
    processWork config sha256 task work answers = handleAbort task work answers := by
  unfold processWork
  rw [typed]
  rfl

structure KeepsWriting (before after : FileHandle) : Prop where
  kept : before.kind = .write → after = before
  unopened : before.kind ≠ .write → after.kind ≠ .write

theorem KeepsWriting.refl (handle : FileHandle) : KeepsWriting handle handle := ⟨fun _ => rfl, id⟩

theorem KeepsWriting.of_idle {before after : FileHandle} (idle : ¬ before.kind ≠ .none)
    (kind : after.kind ≠ .write) : KeepsWriting before after := by
  refine ⟨fun writes => ?_, fun _ => kind⟩
  rw [writes] at idle
  exact absurd (by decide) idle

theorem handleListOpen_keeps (tree : Tree) (handle : FileHandle) :
    KeepsWriting handle (handleListOpen config tree work answers handle).1 := by
  unfold handleListOpen
  split
  next => exact .refl handle
  next idle =>
    apply KeepsWriting.of_idle idle
    split
    next => exact HandleKind.noConfusion
    next => exact HandleKind.noConfusion

theorem handleReadOpen_keeps (tree : Tree) (handle : FileHandle) :
    KeepsWriting handle (handleReadOpen config tree work answers handle).1 := by
  unfold handleReadOpen
  split
  next => exact .refl handle
  next idle =>
    apply KeepsWriting.of_idle idle
    split
    next => exact HandleKind.noConfusion
    next => exact HandleKind.noConfusion

theorem handleClose_keeps (handle : FileHandle) : KeepsWriting handle (handleClose handle work).1 := by
  unfold handleClose
  split
  next => exact .refl handle
  next closes =>
    simp only [not_or] at closes
    exact ⟨fun writes => absurd writes closes.2.2.1, fun _ => HandleKind.noConfusion⟩

theorem handleMkdir_busy (writes : handle.kind = .write) :
    (handleMkdir config tree work answers handle).1 = tree := by
  unfold handleMkdir
  rw [writes]
  rfl

theorem handleDelete_busy (writes : handle.kind = .write) :
    (handleDelete config tree work answers handle).1 = tree := by
  unfold handleDelete
  rw [writes]
  rfl

theorem handleRename_busy (writes : handle.kind = .write) :
    (handleRename config tree work answers handle).1 = tree := by
  unfold handleRename
  rw [writes]
  rfl

structure Quiet (before after : FileTask) : Prop where
  receipt : after.receipt = before.receipt
  handle : KeepsWriting before.handle after.handle
  tree : before.handle.kind = .write → after.tree = before.tree

theorem Quiet.refl (task : FileTask) : Quiet task task := ⟨rfl, .refl _, fun _ => rfl⟩

theorem Quiet.withHandle {result : FileHandle × FileCompletion} (keeps : KeepsWriting task.handle result.1) :
    Quiet task (task.withHandle result).1 := ⟨rfl, keeps, fun _ => rfl⟩

theorem Quiet.withTree {result : Tree × FileCompletion} (busy : task.handle.kind = .write → result.1 = task.tree) :
    Quiet task (task.withTree result).1 := ⟨rfl, .refl _, busy⟩

theorem Quiet.ite {condition : Prop} [Decidable condition] {yes no : FileTask × FileCompletion}
    (left : Quiet task yes.1) (right : Quiet task no.1) : Quiet task (if condition then yes else no).1 := by
  by_cases holds : condition
  · rwa [if_pos holds]
  · rwa [if_neg holds]

theorem processWork_quiet (other : work.type ∉ writeTypes) :
    Quiet task (processWork config sha256 task work answers).1 := by
  simp only [writeTypes, List.mem_cons, List.not_mem_nil, or_false, not_or] at other
  obtain ⟨notOpen, notWrite, notCommit, notAbort⟩ := other
  unfold processWork
  rw [if_neg notOpen, if_neg notWrite, if_neg notCommit, if_neg notAbort]
  apply Quiet.ite (.refl task)
  apply Quiet.ite (.refl task)
  apply Quiet.ite (.withHandle (handleListOpen_keeps _ _))
  apply Quiet.ite (.refl task)
  apply Quiet.ite (.withHandle (handleReadOpen_keeps _ _))
  apply Quiet.ite (.refl task)
  apply Quiet.ite (.withTree handleMkdir_busy)
  apply Quiet.ite (.withTree handleDelete_busy)
  apply Quiet.ite (.withTree handleRename_busy)
  apply Quiet.ite (.refl task)
  exact Quiet.ite (.withHandle (handleClose_keeps _)) (.refl task)

inductive TransferStep (config : FilesConfig) (sha256 : List UInt8 → List UInt8) (task : FileTask) (work : FileWork)
    (answers : Answers) : FileTask → FileCompletion → Prop
  | refused {after : FileTask} {completion : FileCompletion} (failed : completion.status ≠ FileStatus.ok.code)
      (receipt : after.receipt = task.receipt)
      (handle : after = task ∨ task.handle.kind ≠ .write ∧ after.handle = .zero)
      (uncommitted : work.type = FileType.commit → ¬ commitsTransfer task work)
      (other : work.type ≠ FileType.writeOpen → after.tree = task.tree)
      (tree : ∀ path, (∀ request created temp, writeOpenRequest config task.tree work answers = .ok request →
        openTemporary task.tree request.parent 8 answers.opens = .ok (created, temp) → temp ≠ path) →
          after.tree path = task.tree path) :
      TransferStep config sha256 task work answers after completion
  | opened {completion : FileCompletion} {request : OpenRequest} {created : Tree} {temp : Path}
      (typed : work.type = FileType.writeOpen) (idle : task.handle.kind = .none)
      (asked : writeOpenRequest config task.tree work answers = .ok request)
      (made : openTemporary task.tree request.parent 8 answers.opens = .ok (created, temp))
      (done : completion.status = FileStatus.ok.code) (stream : completion.streamId = answers.streamId) :
      TransferStep config sha256 task work answers
        { tree := created
          handle := writeHandle work request temp answers
          receipt := { task.receipt with valid := false } } completion
  | wrote {completion : FileCompletion} {tree : Tree} (typed : work.type = FileType.write)
      (accepted : acceptsWrite config task.handle work)
      (file : ∀ content, task.tree task.handle.tempPath = some (.regular content) →
        tree task.handle.tempPath = some (.regular (content ++ work.payload.drop 12)))
      (other : ∀ path, path ≠ task.handle.tempPath → tree path = task.tree path)
      (done : completion.status = FileStatus.ok.code) :
      TransferStep config sha256 task work answers
        { task with
          tree
          handle := { task.handle with
            committed := task.handle.committed + (work.payload.drop 12).length
            hashed := task.handle.hashed ++ work.payload.drop 12 } } completion
  | committed {completion : FileCompletion} {tree : Tree} {metadata : Metadata} (typed : work.type = FileType.commit)
      (named : commitsTransfer task work) (checked : commitChecks sha256 task work answers = .ok ())
      (renamed : renameNode task.tree task.handle.tempPath task.handle.targetPath answers.rename = .ok tree)
      (described : fileStat tree task.handle.targetPath answers.renamed = .ok metadata)
      (answered : completion.payload = irisPutLe16 FileStatus.ok.code ++ [0, 0] ++ encodeMetadata metadata)
      (done : completion.status = FileStatus.ok.code) :
      TransferStep config sha256 task work answers
        { tree, handle := .zero, receipt := setWriteReceipt task.handle .committed .ok } completion
  | unseen {completion : FileCompletion} {tree : Tree} {status : FileStatus} (typed : work.type = FileType.commit)
      (named : commitsTransfer task work) (checked : commitChecks sha256 task work answers = .ok ())
      (renamed : renameNode task.tree task.handle.tempPath task.handle.targetPath answers.rename = .ok tree)
      (failed : answers.renamed.isOk = false) (refused : completion.status ≠ FileStatus.ok.code) :
      TransferStep config sha256 task work answers
        { tree, handle := .zero, receipt := setWriteReceipt task.handle .aborted status } completion
  | aborted {completion : FileCompletion} {tree : Tree} {status : FileStatus} (typed : work.type ≠ FileType.writeOpen)
      (named : namesTransfer task.handle work) (kept : work.type = FileType.commit → commitsTransfer task work)
      (unanswered : work.type ≠ FileType.abort → completion.status ≠ FileStatus.ok.code)
      (unrenamed : work.type = FileType.commit → renamedNode sha256 task work answers = none)
      (other : ∀ path, path ≠ task.handle.tempPath → tree path = task.tree path) :
      TransferStep config sha256 task work answers
        { tree, handle := .zero, receipt := setWriteReceipt task.handle .aborted status } completion

theorem code_ne_ok {status : FileStatus} (failed : status ≠ .ok) : status.code ≠ FileStatus.ok.code :=
  fun same => failed (FileStatus.code_injective same)

theorem openTemporary_ok {parent temp : Path} {attempts : Nat} {opens : List (UInt32 × Option Errno)}
    (made : openTemporary tree parent attempts opens = .ok (created, temp)) :
    created = Function.update tree temp (some (.regular [])) := by
  induction attempts generalizing opens with
  | zero => simp [openTemporary] at made
  | succ attempts ih =>
    unfold openTemporary at made
    dsimp only at made
    split at made
    next => contradiction
    split at made
    next file =>
      cases made
      exact (createFile_ok file).2
    next => exact ih made
    next => contradiction

theorem openForWriting_ok (opened : openForWriting config tree work answers = .ok (created, handle)) :
    ∃ request temp, writeOpenRequest config tree work answers = .ok request ∧
      openTemporary tree request.parent 8 answers.opens = .ok (created, temp) ∧
      handle = writeHandle work request temp answers := by
  obtain ⟨request, asked, opened⟩ := bind_ok.mp opened
  obtain ⟨⟨made, temp⟩, file, opened⟩ := bind_ok.mp opened
  cases opened
  exact ⟨request, temp, asked, file, rfl⟩

theorem handleWriteOpen_step (typed : work.type = FileType.writeOpen) :
    TransferStep config sha256 task work answers (handleWriteOpen config task work answers).1
      (handleWriteOpen config task work answers).2 := by
  have uncommitted : work.type = FileType.commit → ¬ commitsTransfer task work := by
    rw [typed]
    exact fun same => absurd same (by decide)
  unfold handleWriteOpen
  split
  next => exact .refused (by simp [FileStatus.code]) rfl (.inl rfl) uncommitted (fun _ => rfl) fun _ _ => rfl
  next idle =>
    have idle : task.handle.kind = .none := not_not.mp idle
    have closed : task.handle.kind ≠ .write ∧ FileHandle.zero = .zero := ⟨by rw [idle]; decide, rfl⟩
    split
    next status failed =>
      have failure : status ≠ .ok := fun same => openForWriting_honest config task.tree work answers (same ▸ failed)
      refine .refused ?_ rfl (.inr closed) uncommitted (fun _ => rfl) fun _ _ => rfl
      rw [refusal_status]
      exact code_ne_ok failure
    next created handle opened =>
      obtain ⟨request, temp, asked, made, rfl⟩ := openForWriting_ok opened
      split
      next => exact .opened typed idle asked made (completionBegin_status work FileType.writeOpened .ok _) rfl
      refine .refused (by simp [FileStatus.code]) rfl (.inr closed) uncommitted (absurd typed) fun path apart => ?_
      have other : path ≠ temp := (apart request created temp asked made).symm
      have left : created path = task.tree path := by
        rw [openTemporary_ok made, Function.update_of_ne other]
      exact Eq.trans (closeHandle_other other) left

theorem acceptsWrite_names (accepted : acceptsWrite config handle work = true) :
    namesTransfer handle work = true := by
  simp only [acceptsWrite, Bool.and_eq_true] at accepted
  simp only [namesTransfer, Bool.and_eq_true]
  tauto

theorem handleWrite_step (typed : work.type = FileType.write) :
    TransferStep config sha256 task work answers (handleWrite config task work answers).1
      (handleWrite config task work answers).2 := by
  have notCommit : work.type ≠ FileType.commit := by
    rw [typed]
    decide
  have notOpen : work.type ≠ FileType.writeOpen := by
    rw [typed]
    decide
  unfold handleWrite
  split
  next =>
    exact .refused (by simp [FileStatus.code]) rfl (.inl rfl) (absurd · notCommit) (fun _ => rfl) fun _ _ => rfl
  next accepted =>
    have accepted : acceptsWrite config task.handle work = true := by simpa using accepted
    have other := fun path (different : path ≠ task.handle.tempPath) =>
      writeLoop_other different task.tree (work.payload.drop 12) answers.writes
    have file := fun content (file : task.tree task.handle.tempPath = some (.regular content)) =>
      @writeLoop_ok _ _ _ (work.payload.drop 12) answers.writes file
    dsimp only
    split
    next failed =>
      refine .aborted notOpen (acceptsWrite_names accepted) (absurd · notCommit) (fun _ => ?_) (absurd · notCommit)
        fun path different => (closeHandle_other different).trans (other path different)
      exact fun same => code_ne_ok failed ((refusal_status work FileType.writeAck _).symm.trans same)
    next done =>
      have written := digestStatus_ok (not_not.mp done)
      exact .wrote typed accepted (fun content holds => file content holds written) other
        (completionBegin_status work FileType.writeAck .ok _)

theorem renamedNode_of_error {status : FileStatus} (failed : commitChecks sha256 task work answers = .error status) :
    renamedNode sha256 task work answers = none := by
  unfold renamedNode
  rw [failed]

theorem renamedNode_of_ok (checked : commitChecks sha256 task work answers = .ok ())
    (renamed : renameNode task.tree task.handle.tempPath task.handle.targetPath answers.rename = .ok tree) :
    renamedNode sha256 task work answers = task.tree task.handle.tempPath := by
  unfold renamedNode
  rw [checked]
  dsimp only
  rw [renamed]
  exact renameNode_destination renamed

theorem handleCommit_step (typed : work.type = FileType.commit) :
    TransferStep config sha256 task work answers (handleCommit sha256 task work answers).1
      (handleCommit sha256 task work answers).2 := by
  have notOpen : work.type ≠ FileType.writeOpen := by
    rw [typed]
    decide
  unfold handleCommit
  split
  next unnamed =>
    refine .refused (by simp [FileStatus.code]) rfl (.inl rfl) (fun _ named => ?_) (fun _ => rfl) fun _ _ => rfl
    simp only [commitsTransfer, Bool.and_eq_true, beq_iff_eq] at named
    simp [named] at unnamed
  next named =>
    have named : commitsTransfer task work = true := by
      simpa [commitsTransfer, not_or] using named
    have names : namesTransfer task.handle work = true := by
      simp only [commitsTransfer, Bool.and_eq_true] at named
      exact named.2
    cases checked : commitChecks sha256 task work answers with
    | error status =>
      have failure : status ≠ .ok := fun same => commitChecks_honest sha256 task work answers (same ▸ checked)
      simp only [commitFile, checked]
      refine .aborted notOpen names (fun _ => named) (fun _ same => ?_) (fun _ => renamedNode_of_error checked)
        fun path different => closeHandle_other different
      exact code_ne_ok failure ((refusal_status work FileType.commitResponse _).symm.trans same)
    | ok =>
      cases renamed : renameNode task.tree task.handle.tempPath task.handle.targetPath answers.rename with
      | error value =>
        simp only [commitFile, checked, renamed]
        refine .aborted notOpen names (fun _ => named) (fun _ same => ?_) (fun _ => ?_)
          fun path different => closeHandle_other different
        · have failure := code_ne_ok (statusFromErrno_ne_ok value)
          exact failure ((refusal_status work FileType.commitResponse _).symm.trans same)
        · simp only [renamedNode, checked, renamed]
      | ok tree =>
        have closed : closeHandle tree { task.handle with tempPath := [] } answers.unlink = tree :=
          closeHandle_committed rfl
        simp only [commitFile, checked, renamed]
        cases described : fileStat tree task.handle.targetPath answers.renamed with
        | error value =>
          simp only [ofCall]
          rw [closed]
          refine .unseen typed named checked renamed ?_ ?_
          · rcases fileStat_error described with failed | absent
            · exact failed
            · rw [renameNode_destination renamed] at absent
              exact absurd absent (renameNode_source renamed)
          · have failure := code_ne_ok (statusFromErrno_ne_ok value)
            exact fun same => failure ((refusal_status work FileType.commitResponse _).symm.trans same)
        | ok metadata =>
          simp only [ofCall]
          rw [closed]
          exact .committed typed named checked renamed described rfl (completionBegin_status work FileType.commitResponse .ok _)

theorem handleAbort_step (typed : work.type = FileType.abort) :
    TransferStep config sha256 task work answers (handleAbort task work answers).1
      (handleAbort task work answers).2 := by
  have notOpen : work.type ≠ FileType.writeOpen := by
    rw [typed]
    decide
  have notCommit : work.type ≠ FileType.commit := by
    rw [typed]
    decide
  unfold handleAbort
  split
  next =>
    exact .refused (by simp [FileStatus.code]) rfl (.inl rfl) (absurd · notCommit) (fun _ => rfl) fun _ _ => rfl
  next named =>
    simp only [not_or, Bool.not_eq_true, Bool.not_eq_false'] at named
    exact .aborted notOpen named.2 (absurd · notCommit) (absurd typed) (absurd · notCommit)
      fun path different => closeHandle_other different

theorem processWork_step (typed : work.type ∈ writeTypes) :
    TransferStep config sha256 task work answers (processWork config sha256 task work answers).1
      (processWork config sha256 task work answers).2 := by
  simp only [writeTypes, List.mem_cons, List.not_mem_nil, or_false] at typed
  rcases typed with typed | typed | typed | typed
  · rw [processWork_writeOpen typed]
    exact handleWriteOpen_step typed
  · rw [processWork_write typed]
    exact handleWrite_step typed
  · rw [processWork_commit typed]
    exact handleCommit_step typed
  · rw [processWork_abort typed]
    exact handleAbort_step typed

structure OpenTransfer (handle : FileHandle) (tree : Tree) (transfer : Transfer) : Prop where
  session : handle.sessionId = transfer.sessionId
  stream : handle.streamId = transfer.streamId
  target : handle.targetPath = transfer.target
  size : handle.size = transfer.expected
  hashed : handle.hashed = transfer.data
  committed : handle.committed = transfer.data.length
  file : tree handle.tempPath = some (.regular transfer.data)
  apart : handle.tempPath ≠ transfer.target
  before : tree transfer.target = transfer.before
  unrenamed : transfer.renamed = none

structure TransferSound (sha256 : List UInt8 → List UInt8) (world : TransferWorld) : Prop where
  opened : world.task.handle.kind = .write → ∃ transfer, world.transfer = some transfer ∧
    OpenTransfer world.task.handle world.task.tree transfer
  silent : world.task.handle.kind = .write → world.task.receipt.valid = false
  truthful : ReceiptTruthful sha256 world

theorem Transfer.not_replaced {transfer : Transfer} (unrenamed : transfer.renamed = none) :
    ¬ transfer.Replaced sha256 := by
  intro replaced
  rw [replaced.1] at unrenamed
  contradiction

theorem commitChecks_ok (checked : commitChecks sha256 task work answers = .ok ()) :
    task.handle.committed = task.handle.size ∧ sha256 task.handle.hashed = work.payload := by
  obtain ⟨_, complete, checked⟩ := bind_ok.mp checked
  obtain ⟨_, _, checked⟩ := bind_ok.mp checked
  obtain ⟨_, verified, _⟩ := bind_ok.mp checked
  have complete := refuseIf_ok.mp complete
  have verified := refuseIf_ok.mp verified
  simp only [not_or, ne_eq, not_not] at complete verified
  exact ⟨complete, verified.2⟩

theorem noteTransfer_failed (failed : completion.status ≠ FileStatus.ok.code)
    (uncommitted : work.type = FileType.commit → ¬ commitsTransfer task work) :
    noteTransfer config sha256 task work answers completion transfer = transfer := by
  unfold noteTransfer
  rw [beq_false_of_ne failed, if_neg failed]
  split
  next => rfl
  split
  next => rfl
  split
  next commits => exact absurd commits.2 (uncommitted commits.1)
  next => rfl

theorem noteTransfer_other (notOpen : work.type ≠ FileType.writeOpen) (notWrite : work.type ≠ FileType.write)
    (notCommit : work.type ≠ FileType.commit) :
    noteTransfer config sha256 task work answers completion transfer = transfer := by
  unfold noteTransfer
  rw [if_neg notOpen, if_neg notWrite, if_neg fun commits => notCommit commits.1]

theorem noteTransfer_committed {transfer : Transfer} (typed : work.type = FileType.commit)
    (named : commitsTransfer task work = true) :
    noteTransfer config sha256 task work answers completion (some transfer) =
      some { transfer with digest := work.payload, renamed := renamedNode sha256 task work answers } := by
  unfold noteTransfer
  rw [if_neg (by rw [typed]; decide), if_neg (by rw [typed]; decide), if_pos ⟨typed, named⟩]
  rfl

theorem noteTransfer_wrote {transfer : Transfer} (typed : work.type = FileType.write)
    (done : completion.status = FileStatus.ok.code) :
    noteTransfer config sha256 task work answers completion (some transfer) =
      some { transfer with data := transfer.data ++ work.payload.drop 12 } := by
  unfold noteTransfer
  rw [if_neg (by rw [typed]; decide), if_pos typed, if_pos done]
  rfl

theorem noteTransfer_opened {request : OpenRequest} (typed : work.type = FileType.writeOpen)
    (done : completion.status = FileStatus.ok.code)
    (asked : writeOpenRequest config task.tree work answers = .ok request) :
    noteTransfer config sha256 task work answers completion transfer =
      some
        { sessionId := work.sessionId
          streamId := completion.streamId
          target := request.target
          expected := request.expectedSize
          before := task.tree request.target
          data := []
          digest := []
          renamed := none } := by
  unfold noteTransfer
  rw [if_pos typed, asked, done]
  rfl

theorem ReceiptTruthful.of_unrenamed {task : FileTask} {transfer : Transfer} (unrenamed : transfer.renamed = none)
    (session : task.receipt.valid = true → task.receipt.sessionId = transfer.sessionId)
    (stream : task.receipt.valid = true → task.receipt.streamId = transfer.streamId)
    (state : task.receipt.valid = true → task.receipt.state ≠ some .committed) :
    ReceiptTruthful sha256 { task, transfer := some transfer } := by
  refine ⟨fun valid => ⟨transfer, rfl, session valid, stream valid⟩, fun other same => ?_⟩
  cases same
  refine ⟨fun told => ?_, fun replaced => ?_⟩
  · exact absurd told.2.2.2 (state told.1)
  · exact absurd replaced (transfer.not_replaced unrenamed)


theorem opensApart_apart {request : OpenRequest} {temp : Path}
    (asked : writeOpenRequest config tree work answers = .ok request)
    (made : openTemporary tree request.parent 8 answers.opens = .ok (created, temp))
    (apart : opensApart config tree work answers = true) : temp ≠ request.target := by
  have opened : openForWriting config tree work answers = .ok (created, writeHandle work request temp answers) := by
    simp only [openForWriting, asked, made, bind, Except.bind, pure, Except.pure]
  unfold opensApart at apart
  rw [opened] at apart
  exact bne_iff_ne.mp apart

theorem namesTransfer_kind (named : namesTransfer handle work = true) :
    handle.kind = .write := by
  simp only [namesTransfer, Bool.and_eq_true, beq_iff_eq] at named
  exact named.1

theorem commitsTransfer_names (named : commitsTransfer task work = true) :
    namesTransfer task.handle work = true := by
  simp only [commitsTransfer, Bool.and_eq_true] at named
  exact named.2

theorem TransferStep.sound (sound : TransferSound sha256 { task, transfer })
    (clean : CommitsCleanly config sha256 { task, transfer } (.request work answers))
    (step : TransferStep config sha256 task work answers after completion) :
    TransferSound sha256
      { task := after, transfer := noteTransfer config sha256 task work answers completion transfer } := by
  cases step with
  | refused failed receipt handle uncommitted other tree =>
    rw [noteTransfer_failed failed uncommitted]
    rcases handle with rfl | ⟨idle, closed⟩
    · exact sound
    · refine ⟨fun writes => ?_, fun writes => ?_, ?_, ?_⟩
      · rw [closed] at writes
        contradiction
      · rw [closed] at writes
        contradiction
      · rw [receipt]
        exact sound.truthful.known
      · rw [receipt]
        exact sound.truthful.committed
  | opened typed idle asked made done stream =>
    rw [noteTransfer_opened typed done asked]
    have apart := opensApart_apart asked made (clean.2 typed)
    refine ⟨fun _ => ⟨_, rfl, ?_⟩, fun _ => rfl, .of_unrenamed rfl ?_ ?_ ?_⟩
    · have created := openTemporary_ok made
      constructor
      case file => 
        rw [created]
        exact Function.update_self _ _ _
      case before =>
        rw [created]
        exact Function.update_of_ne apart.symm _ _
      case stream => exact stream.symm
      case apart => exact apart
      all_goals rfl
    all_goals exact fun valid => absurd valid Bool.false_ne_true
  | wrote typed accepted file other done =>
    have writes := namesTransfer_kind (acceptsWrite_names accepted)
    obtain ⟨transfer, rfl, opened⟩ := sound.opened writes
    have silent := sound.silent writes
    rw [noteTransfer_wrote typed done]
    refine ⟨fun _ => ⟨_, rfl, ?_⟩, fun _ => silent, .of_unrenamed opened.unrenamed ?_ ?_ ?_⟩
    · constructor
      case session => exact opened.session
      case stream => exact opened.stream
      case target => exact opened.target
      case size => exact opened.size
      case hashed => exact congrArg (· ++ work.payload.drop 12) opened.hashed
      case committed =>
        show task.handle.committed + (work.payload.drop 12).length = (transfer.data ++ work.payload.drop 12).length
        rw [opened.committed, List.length_append]
      case file => exact file _ opened.file
      case apart => exact opened.apart
      case before => exact (other _ opened.apart.symm).trans opened.before
      case unrenamed => exact opened.unrenamed
    all_goals exact fun valid => absurd (silent.symm.trans valid) Bool.false_ne_true
  | committed typed named checked renamed described answered done =>
    have writes := namesTransfer_kind (commitsTransfer_names named)
    obtain ⟨transfer, rfl, opened⟩ := sound.opened writes
    rw [noteTransfer_committed typed named]
    have moved : renamedNode sha256 task work answers = some (.regular transfer.data) :=
      (renamedNode_of_ok checked renamed).trans opened.file
    have complete := commitChecks_ok checked
    refine ⟨fun writes => ?_, fun writes => ?_, fun _ => ⟨_, rfl, opened.session, opened.stream⟩,
      fun other same => ?_⟩
    · exact HandleKind.noConfusion writes
    · exact HandleKind.noConfusion writes
    · cases same
      refine ⟨fun _ => ⟨moved, ?_, ?_⟩, fun _ => ⟨rfl, opened.session, opened.stream, rfl⟩⟩
      · exact opened.committed.symm.trans (complete.1.trans opened.size)
      · rw [← opened.hashed]
        exact complete.2
  | unseen typed named checked renamed failed =>
    have moved : (renamedNode sha256 task work answers).isSome = true := by
      rw [renamedNode_of_ok checked renamed]
      exact Option.isSome_iff_ne_none.mpr (renameNode_source renamed)
    exact absurd (failed.symm.trans (clean.1 typed named moved)) Bool.false_ne_true
  | @aborted completion tree status notOpen named kept unanswered unrenamed other =>
    have writes := namesTransfer_kind named
    obtain ⟨transfer, rfl, opened⟩ := sound.opened writes
    obtain ⟨ended, noted, session, stream, unmoved⟩ :
        ∃ ended, noteTransfer config sha256 task work answers completion (some transfer) = some ended ∧
          transfer.sessionId = ended.sessionId ∧ transfer.streamId = ended.streamId ∧ ended.renamed = none := by
      by_cases commits : work.type = FileType.commit
      · exact ⟨_, noteTransfer_committed commits (kept commits), rfl, rfl, unrenamed commits⟩
      · by_cases wrote : work.type = FileType.write
        · exact ⟨_, noteTransfer_failed (unanswered (by rw [wrote]; decide)) (absurd · commits), rfl, rfl, opened.unrenamed⟩
        · exact ⟨_, noteTransfer_other notOpen wrote commits, rfl, rfl, opened.unrenamed⟩
    rw [noted]
    refine ⟨fun writes => ?_, fun writes => ?_, .of_unrenamed unmoved ?_ ?_ ?_⟩
    · exact HandleKind.noConfusion writes
    · exact HandleKind.noConfusion writes
    · exact fun _ => opened.session.trans session
    · exact fun _ => opened.stream.trans stream
    · exact fun _ same => WriteState.noConfusion (Option.some.inj same)

theorem Quiet.sound (sound : TransferSound sha256 { task, transfer }) (quiet : Quiet task after) :
    TransferSound sha256 { task := after, transfer } := by
  have handle : after.handle.kind = .write → after.handle = task.handle ∧ after.tree = task.tree := by
    intro writes
    have before : task.handle.kind = .write := by
      by_contra idle
      exact quiet.handle.unopened idle writes
    exact ⟨quiet.handle.kept before, quiet.tree before⟩
  refine ⟨fun writes => ?_, fun writes => ?_, ?_, ?_⟩
  · obtain ⟨same, tree⟩ := handle writes
    obtain ⟨transfer, rfl, opened⟩ := sound.opened (same ▸ writes)
    refine ⟨transfer, rfl, ?_⟩
    rw [same, tree]
    exact opened
  · rw [quiet.receipt]
    exact sound.silent ((handle writes).1 ▸ writes)
  · rw [quiet.receipt]
    exact sound.truthful.known
  · rw [quiet.receipt]
    exact sound.truthful.committed

theorem request_sound (sound : TransferSound sha256 { task, transfer })
    (clean : CommitsCleanly config sha256 { task, transfer } (.request work answers)) :
    TransferSound sha256
      { task := (processWork config sha256 task work answers).1
        transfer := noteTransfer config sha256 task work answers (processWork config sha256 task work answers).2
          transfer } := by
  by_cases typed : work.type ∈ writeTypes
  · exact (processWork_step typed).sound sound clean
  · have quiet : Quiet task (processWork config sha256 task work answers).1 := processWork_quiet typed
    simp only [writeTypes, List.mem_cons, List.not_mem_nil, or_false, not_or] at typed
    rw [noteTransfer_other typed.1 typed.2.1 typed.2.2.1]
    exact quiet.sound sound

theorem sessionEnd_task (task : FileTask) (sessionId : UInt32) (unlink : Option Errno) :
    (sessionEnd task sessionId unlink).handle = .zero ∨
      (sessionEnd task sessionId unlink).handle = task.handle ∧ (sessionEnd task sessionId unlink).tree = task.tree ∧
        (task.handle.kind = .none ∨ task.handle.sessionId ≠ sessionId) := by
  unfold sessionEnd
  by_cases closes : task.handle.kind ≠ .none ∧ task.handle.sessionId = sessionId
  · left
    dsimp only
    rw [if_pos closes]
    split
    next => rfl
    next => rfl
  · right
    dsimp only
    rw [if_neg closes]
    have kept : task.handle.kind = .none ∨ task.handle.sessionId ≠ sessionId := by
      by_contra both
      exact closes (by simpa using both)
    split
    next => exact ⟨rfl, rfl, kept⟩
    next => exact ⟨rfl, rfl, kept⟩

theorem sessionEnd_receipt (task : FileTask) (sessionId : UInt32) (unlink : Option Errno) :
    (sessionEnd task sessionId unlink).receipt.valid = false ∧
        task.receipt.valid = true ∧ task.receipt.sessionId = sessionId ∨
      (sessionEnd task sessionId unlink).receipt = task.receipt ∧
        (task.receipt.valid = false ∨ task.receipt.sessionId ≠ sessionId) := by
  have kept : ∀ {closed : FileTask}, (if task.handle.kind ≠ .none ∧ task.handle.sessionId = sessionId then
      { task with tree := closeHandle task.tree task.handle unlink, handle := .zero } else task) = closed →
        closed.receipt = task.receipt := by
    rintro closed rfl
    split
    next => rfl
    next => rfl
  unfold sessionEnd
  dsimp only
  split
  next ends => exact .inl ⟨rfl, ends⟩
  next stays =>
    refine .inr ⟨kept rfl, ?_⟩
    by_contra both
    exact stays (by simpa using both)

theorem sessionEnd_sound {transfer : Option Transfer} (sound : TransferSound sha256 { task, transfer })
    (sessionId : UInt32) (unlink : Option Errno) :
    TransferSound sha256
      { task := sessionEnd task sessionId unlink
        transfer := transfer.filter fun transfer => transfer.sessionId != sessionId } := by
  have receipt := sessionEnd_receipt task sessionId unlink
  have open_kept : (sessionEnd task sessionId unlink).handle.kind = .write →
      task.handle.kind = .write ∧ (sessionEnd task sessionId unlink).handle = task.handle ∧
        (sessionEnd task sessionId unlink).tree = task.tree ∧ task.handle.sessionId ≠ sessionId := by
    intro writes
    rcases sessionEnd_task task sessionId unlink with closed | ⟨same, tree, kept⟩
    · rw [closed] at writes
      contradiction
    · rw [same] at writes
      exact ⟨writes, same, tree, kept.resolve_left (by simp [writes])⟩
  refine ⟨fun writes => ?_, fun writes => ?_, fun valid => ?_, fun last kept => ?_⟩
  · obtain ⟨before, same, tree, other⟩ := open_kept writes
    obtain ⟨transfer, rfl, opened⟩ := sound.opened before
    have stays : transfer.sessionId ≠ sessionId := opened.session ▸ other
    refine ⟨transfer, by simp [stays], ?_⟩
    rw [same, tree]
    exact opened
  · rcases receipt with ⟨invalid, _⟩ | ⟨same, _⟩
    · exact invalid
    · rw [same]
      exact sound.silent (open_kept writes).1
  · rcases receipt with ⟨invalid, _⟩ | ⟨same, stays⟩
    · exact absurd (invalid.symm.trans valid) Bool.false_ne_true
    · rw [same] at valid ⊢
      obtain ⟨transfer, rfl, session, stream⟩ := sound.truthful.known valid
      have other : transfer.sessionId ≠ sessionId := session ▸ stays.resolve_left (by simp [valid])
      exact ⟨transfer, by simp [other], session, stream⟩
  · obtain ⟨same, other⟩ := Option.filter_eq_some_iff.mp kept
    have truth := sound.truthful.committed last same
    rcases receipt with ⟨_, valid, ends⟩ | ⟨unchanged, _⟩
    · obtain ⟨known, found, session, _⟩ := sound.truthful.known valid
      have same : known = last := Option.some.inj (found.symm.trans same)
      have other : last.sessionId ≠ sessionId := by simpa using other
      exact absurd (same ▸ session.symm.trans ends) other
    · rw [unchanged]
      exact truth

theorem change_sound {path : Path} (sound : TransferSound sha256 { task, transfer })
    (apart : ¬ (task.handle.kind = .write ∧ path = task.handle.tempPath)) (node : Option Node) :
    TransferSound sha256
      { task := { task with tree := Function.update task.tree path node }
        transfer := transfer.map (Transfer.noteChange · path node) } := by
  refine ⟨fun writes => ?_, sound.silent, fun valid => ?_, fun last noted => ?_⟩
  · obtain ⟨transfer, rfl, opened⟩ := sound.opened writes
    have other : task.handle.tempPath ≠ path := fun same => apart ⟨writes, same.symm⟩
    have file : Function.update task.tree path node task.handle.tempPath = some (.regular transfer.data) := by
      rw [Function.update_of_ne other]
      exact opened.file
    have before : Function.update task.tree path node transfer.target = (transfer.noteChange path node).before := by
      unfold Transfer.noteChange
      by_cases named : transfer.target = path
      · rw [if_pos named, named, Function.update_self]
      · rw [if_neg named, Function.update_of_ne named]
        exact opened.before
    exact ⟨transfer.noteChange path node, rfl, { opened with file, before }⟩
  · obtain ⟨transfer, rfl, session, stream⟩ := sound.truthful.known valid
    exact ⟨transfer.noteChange path node, rfl, session, stream⟩
  · obtain ⟨transfer, rfl, rfl⟩ := Option.map_eq_some_iff.mp noted
    exact sound.truthful.committed transfer rfl

theorem TransferSound.zero (tree : Tree) : TransferSound sha256 { task := .zero tree, transfer := none } where
  opened := fun writes => HandleKind.noConfusion writes
  silent := fun _ => rfl
  truthful :=
    { known := fun valid => absurd valid Bool.false_ne_true
      committed := fun _ same => nomatch same }

theorem transferSound_invariant : Invariant ((transferSystem config sha256).guarded (CommitsCleanly config sha256))
    (TransferSound sha256) where
  start := by
    rintro world ⟨tree, rfl⟩
    exact .zero tree
  step := by
    rintro before event after sound ⟨clean, step⟩
    cases event with
    | request work answers =>
      cases step
      exact request_sound sound clean
    | sessionEnd sessionId unlink =>
      cases step
      exact sessionEnd_sound sound sessionId unlink
    | restart unlink =>
      cases step
      exact .zero _
    | change path node =>
      have step : nextTransfer config sha256 before (.change path node) = some after := step
      unfold nextTransfer at step
      dsimp only at step
      split at step
      next => contradiction
      next apart =>
        cases step
        exact change_sound sound apart node

theorem TransferStep.atomic (sound : TransferSound sha256 { task, transfer })
    (clean : CommitsCleanly config sha256 { task, transfer } (.request work answers))
    (failed : completion.status ≠ FileStatus.ok.code)
    (step : TransferStep config sha256 task work answers after completion) :
    FailureAtomic config { task, transfer } work answers after := by
  cases step with
  | refused _ receipt handle uncommitted other tree =>
    constructor
    case transfer =>
      intro transfer same named
      have writes := namesTransfer_kind named
      obtain ⟨open_transfer, found, opened⟩ := sound.opened writes
      cases found.symm.trans same
      rcases handle with rfl | ⟨idle, _⟩
      · exact opened.before
      · exact absurd writes idle
    case opening =>
      intro request typed asked
      apply tree
      intro other created temp asked' made
      cases asked.symm.trans asked'
      exact opensApart_apart asked made (clean.2 typed)
    case refused =>
      intro _ unasked
      funext path
      exact tree path fun request _ _ asked => absurd asked (unasked request)
    case other => exact fun notOpen _ => other notOpen
  | opened typed idle asked made done stream | wrote typed accepted file other done
  | committed typed named checked renamed described answered done => exact absurd done failed
  | unseen typed named checked renamed lost =>
    have moved : (renamedNode sha256 task work answers).isSome = true := by
      rw [renamedNode_of_ok checked renamed]
      exact Option.isSome_iff_ne_none.mpr (renameNode_source renamed)
    exact absurd (lost.symm.trans (clean.1 typed named moved)) Bool.false_ne_true
  | aborted notOpen named kept unanswered unrenamed other =>
    refine ⟨fun transfer same _ => ?_, fun request typed => absurd typed notOpen, fun typed => absurd typed notOpen,
      fun _ unnamed => absurd named unnamed⟩
    obtain ⟨open_transfer, found, opened⟩ := sound.opened (namesTransfer_kind named)
    cases found.symm.trans same
    exact (other _ opened.apart.symm).trans opened.before

/-- In every run whose commits are clean, receipts tell the truth and a failed request of a write
transfer leaves its target as it was. -/
theorem receipts_truthful (config : FilesConfig) (sha256 : List UInt8 → List UInt8) {world : TransferWorld}
    (reached : Reachable ((transferSystem config sha256).guarded (CommitsCleanly config sha256)) world) :
    ReceiptTruthful sha256 world ∧ ∀ work answers, work.type ∈ writeTypes →
      CommitsCleanly config sha256 world (.request work answers) →
      (processWork config sha256 world.task work answers).2.status ≠ FileStatus.ok.code →
      FailureAtomic config world work answers (processWork config sha256 world.task work answers).1 := by
  have sound := transferSound_invariant.reachable reached
  exact ⟨sound.truthful, fun work answers typed clean failed => (processWork_step typed).atomic sound clean failed⟩

/-- One volume `d` at `/d` that can be written and replaced. -/
def volumeConfig : FilesConfig where
  volumes := [{ id := [0x64], basePath := [0x2f, 0x64], capabilities := 0x88 }]
  chunkBytes := 256
  offsetLimit := 2 ^ 31

def volumeTree : Tree := Function.update (fun _ => none) [0x2f, 0x64] (some .directory)

def willingAnswers : Answers where
  components := [.ok { permissions := 0o755, mtime := 0 }]
  target := .error .enoent
  destination := []
  opens := [(0, none)]
  openRead := none
  openDirectory := none
  streamId := 7
  hashSetup := true
  writes := [{ count := 1, errno := .other }]
  hashUpdate := true
  hashFinish := true
  fsync := none
  close := none
  rename := none
  change := none
  renamed := .ok { permissions := 0o600, mtime := 0 }
  unlink := none
  entries := []
  isEmpty := .ok true
  seek := none
  read := .ok 0
  streamId_ne := by decide

/-- The SHA-256 digest of the byte `a`. -/
def letterDigest : List UInt8 :=
  [0xca, 0x97, 0x81, 0x12, 0xca, 0x1b, 0xbd, 0xca, 0xfa, 0xc2, 0x31, 0xb3, 0x9a, 0x23, 0xdc, 0x4d, 0xa7, 0x86, 0xef,
    0xf8, 0x14, 0x7c, 0x4e, 0x72, 0xb9, 0x80, 0x77, 0x85, 0xaf, 0xee, 0x48, 0xbb]

def letterSha256 (_ : List UInt8) : List UInt8 := letterDigest

def workOf (type : UInt8) (streamId : UInt32) (payload : List UInt8) : FileWork :=
  { token := 1, type, sessionId := 1, requestId := 1, streamId, payload }

/-- A transfer of the byte `a` to `/d/f`, up to its COMMIT. -/
def letterOpen : FileWork := workOf FileType.writeOpen 0
  ([1, 0, 1, 0, 0x64, 0x66] ++ irisPutLe64 1 ++ irisPutLe64 0 ++ irisPutLe16 0 ++ irisPutLe16 0)

def letterWrite : FileWork := workOf FileType.write 7 (irisPutLe64 0 ++ irisPutLe16 1 ++ irisPutLe16 0 ++ [0x61])

def letterCommit : FileWork := workOf FileType.commit 7 letterDigest

def letterEvents : List FileEvent := [.request letterOpen willingAnswers, .request letterWrite willingAnswers]

def letterWorld : TransferWorld := { task := .zero volumeTree, transfer := none }

def letterTransfer : Transfer where
  sessionId := 1
  streamId := 7
  target := [0x2f, 0x64, 0x2f, 0x66]
  expected := 1
  before := none
  data := [0x61]
  digest := []
  renamed := none

def letterReplaced : Transfer := { letterTransfer with digest := letterDigest, renamed := some (.regular [0x61]) }

def repeatsCommit (world : TransferWorld) : Bool :=
  let repeated := processWork volumeConfig letterSha256 world.task letterCommit willingAnswers
  world.transfer == some letterReplaced && repeated.2.status != FileStatus.ok.code &&
    decide (CommitsCleanly volumeConfig letterSha256 world (.request letterCommit willingAnswers))

/-- After COMMIT the receipt says so, and the same COMMIT once more changes nothing. -/
theorem letter_receipt_truthful : ∃ world : TransferWorld, SaysCommitted world.task.receipt letterReplaced ∧
    FailureAtomic volumeConfig world letterCommit willingAnswers
      (processWork volumeConfig letterSha256 world.task letterCommit willingAnswers).1 := by
  obtain ⟨world, run, checked⟩ : ∃ world,
      Run ((transferSystem volumeConfig letterSha256).guarded (CommitsCleanly volumeConfig letterSha256)) letterWorld
        (letterEvents ++ [.request letterCommit willingAnswers]) world ∧ repeatsCommit world = true :=
    Run.of_guarded_check (by decide +kernel)
  simp only [repeatsCommit, Bool.and_eq_true, beq_iff_eq, bne_iff_ne, decide_eq_true_eq] at checked
  obtain ⟨⟨replaced, failed⟩, clean⟩ := checked
  have reached : Reachable
      ((transferSystem volumeConfig letterSha256).guarded (CommitsCleanly volumeConfig letterSha256)) world :=
    ⟨_, _, ⟨volumeTree, rfl⟩, run⟩
  obtain ⟨truthful, atomic⟩ := receipts_truthful volumeConfig letterSha256 reached
  refine ⟨world, (truthful.committed _ replaced).mpr ⟨rfl, rfl, rfl⟩, ?_⟩
  exact atomic letterCommit willingAnswers (by decide) clean failed

/-- The `file_stat` after the rename fails. -/
def unseenAnswers : Answers := { willingAnswers with renamed := .error .other }

def losesCommit (world : TransferWorld) : Bool :=
  let answered := processWork volumeConfig letterSha256 world.task letterCommit unseenAnswers
  world.transfer == some letterTransfer && namesTransfer world.task.handle letterCommit &&
    answered.2.status != FileStatus.ok.code && answered.1.receipt.state != some .committed &&
    answered.1.tree letterTransfer.target == some (.regular [0x61]) &&
    noteTransfer volumeConfig letterSha256 world.task letterCommit unseenAnswers answered.2 world.transfer ==
      some letterReplaced

/-- COMMIT is answered with an error and its receipt says ABORTED, but the target was replaced. -/
theorem commit_lost_after_rename : ∃ world, Reachable (transferSystem volumeConfig letterSha256) world ∧
    (processWork volumeConfig letterSha256 world.task letterCommit unseenAnswers).2.status ≠ FileStatus.ok.code ∧
    ¬ FailureAtomic volumeConfig world letterCommit unseenAnswers
      (processWork volumeConfig letterSha256 world.task letterCommit unseenAnswers).1 ∧
    ∃ after, nextTransfer volumeConfig letterSha256 world (.request letterCommit unseenAnswers) = some after ∧
      ¬ ReceiptTruthful letterSha256 after := by
  obtain ⟨world, run, checked⟩ : ∃ world,
      Run (transferSystem volumeConfig letterSha256) letterWorld letterEvents world ∧ losesCommit world = true :=
    Run.of_check (by decide +kernel)
  simp only [losesCommit, Bool.and_eq_true, beq_iff_eq, bne_iff_ne] at checked
  obtain ⟨⟨⟨⟨⟨found, named⟩, failed⟩, aborted⟩, replaced⟩, noted⟩ := checked
  refine ⟨world, ⟨_, _, ⟨volumeTree, rfl⟩, run⟩, failed, fun atomic => ?_, _, rfl, fun truthful => ?_⟩
  · have kept := atomic.transfer _ found named
    rw [replaced] at kept
    contradiction
  · exact aborted ((truthful.committed _ noted).mpr ⟨rfl, rfl, rfl⟩).2.2.2

end EspIris.Device.Files
