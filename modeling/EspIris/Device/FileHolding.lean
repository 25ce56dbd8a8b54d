import EspIris.Device.FileReceipts

/-! One upload as the file task sees it: what it holds of the data, and what stands at the target. -/

namespace EspIris.Device.Files
open Codec.Device Bytes

structure Held where
  streamId : UInt32
  data : List UInt8
  deriving DecidableEq, Repr

def FileHandle.held (handle : FileHandle) : Option Held :=
  if handle.kind = .write then some { streamId := handle.streamId, data := handle.hashed } else none

structure Asked where
  sessionId : UInt32
  target : Path
  expected : Nat

/-- The task serves this upload at most; `replaced` is what its rename put at the target. -/
structure UploadSide (asked : Asked) (original : Option Node) (task : FileTask) (replaced : Option Node) : Prop where
  session : task.handle.kind = .write → task.handle.sessionId = asked.sessionId
  target : task.handle.kind = .write → task.handle.targetPath = asked.target
  size : task.handle.kind = .write → task.handle.size = asked.expected
  committed : task.handle.kind = .write → task.handle.committed = task.handle.hashed.length
  file : task.handle.kind = .write → task.tree task.handle.tempPath = some (.regular task.handle.hashed)
  apart : task.handle.kind = .write → task.handle.tempPath ≠ asked.target
  unreplaced : task.handle.kind = .write → replaced = none
  content : task.tree asked.target = replaced.or original

def ReceiptSound (replaced : Option Node) (receipt : WriteReceipt) : Prop :=
  receipt.valid = true → receipt.state = some .committed → replaced ≠ none

def noteReplaced (sha256 : List UInt8 → List UInt8) (task : FileTask) (work : FileWork) (answers : Answers)
    (replaced : Option Node) : Option Node :=
  if work.type = FileType.commit ∧ commitsTransfer task work then
    (renamedNode sha256 task work answers).or replaced
  else replaced

inductive HeldStep (sha256 : List UInt8 → List UInt8) (work : FileWork) (completion : FileCompletion) :
    Option Held → Option Node → Option Held → Option Node → Prop
  | kept {held after : Option Held} {replaced : Option Node} (left : after = held ∨ after = none)
      (refused : work.type = FileType.writeOpen ∨ work.type = FileType.write ∨ work.type = FileType.commit →
        completion.status ≠ FileStatus.ok.code) :
      HeldStep sha256 work completion held replaced after replaced
  | opened {replaced : Option Node} (typed : work.type = FileType.writeOpen) :
      HeldStep sha256 work completion none replaced (some { streamId := completion.streamId, data := [] }) replaced
  | wrote {held : Held} {replaced : Option Node} (typed : work.type = FileType.write)
      (stream : held.streamId = work.streamId) (offset : field work.payload 0 8 = held.data.length)
      (some_data : work.payload.drop 12 ≠ []) :
      HeldStep sha256 work completion (some held) replaced
        (some { held with data := held.data ++ work.payload.drop 12 }) replaced
  | moved {held : Held} {replaced : Option Node} (typed : work.type = FileType.commit)
      (stream : held.streamId = work.streamId) (verified : sha256 held.data = work.payload)
      (answered : completion.status = FileStatus.ok.code → held.data.length < 2 ^ 64 →
        field completion.payload 8 8 = held.data.length) :
      HeldStep sha256 work completion (some held) replaced none (some (.regular held.data))

variable {config : FilesConfig} {sha256 : List UInt8 → List UInt8} {task after : FileTask} {work : FileWork}
  {answers : Answers} {asked : Asked} {original replaced : Option Node} {completion : FileCompletion}

theorem held_write {handle : FileHandle} (writes : handle.kind = .write) :
    handle.held = some { streamId := handle.streamId, data := handle.hashed } := if_pos writes

theorem held_other {handle : FileHandle} (idle : handle.kind ≠ .write) : handle.held = none := if_neg idle

theorem held_some {handle : FileHandle} {held : Held} (holds : handle.held = some held) :
    handle.kind = .write ∧ handle.streamId = held.streamId ∧ handle.hashed = held.data := by
  unfold FileHandle.held at holds
  split at holds
  next writes =>
    cases holds
    exact ⟨writes, rfl, rfl⟩
  next => contradiction

theorem noteReplaced_other (other : work.type ≠ FileType.commit) :
    noteReplaced sha256 task work answers replaced = replaced := if_neg fun both => other both.1

/-- A task without an open transfer, where the target stands as before. -/
theorem UploadSide.closed (idle : after.handle.kind ≠ .write)
    (content : after.tree asked.target = replaced.or original) : UploadSide asked original after replaced where
  session := fun writes => absurd writes idle
  target := fun writes => absurd writes idle
  size := fun writes => absurd writes idle
  committed := fun writes => absurd writes idle
  file := fun writes => absurd writes idle
  apart := fun writes => absurd writes idle
  unreplaced := fun writes => absurd writes idle
  content := content

theorem matches_stream {handle : FileHandle} (named : namesTransfer handle work = true) :
    handle.streamId = work.streamId := by
  simp only [namesTransfer, FileHandle.matches, Bool.and_eq_true, beq_iff_eq] at named
  exact named.2.2

theorem acceptsWrite_offset {handle : FileHandle} (accepted : acceptsWrite config handle work = true) :
    field work.payload 0 8 = handle.committed ∧ work.payload.drop 12 ≠ [] := by
  simp only [acceptsWrite, Bool.and_eq_true, beq_iff_eq, decide_eq_true_eq] at accepted
  refine ⟨by tauto, fun empty => ?_⟩
  have short := List.drop_eq_nil_iff.mp empty
  omega

theorem encodeMetadata_size (metadata : Metadata) (bounded : metadata.size < 2 ^ 64) :
    field (irisPutLe16 FileStatus.ok.code ++ [0, 0] ++ encodeMetadata metadata) 8 8 = metadata.size := by
  unfold encodeMetadata
  rw [field_skip _ _ 8 8 (by simp [irisPutLe16])]
  have shifted : 8 - (irisPutLe16 FileStatus.ok.code ++ [0, 0]).length = 4 := by simp [irisPutLe16]
  rw [shifted, List.append_assoc, List.append_assoc, List.append_assoc,
    field_skip _ _ 4 8 (by simp), field_skip _ _ _ 8 (by simp [irisPutLe16]), irisPutLe64_eq]
  have small : (UInt64.ofNat metadata.size).toNat = metadata.size := UInt64.toNat_ofNat_of_lt' bounded
  rw [small]
  exact field_littleEndian 8 _ _ bounded

theorem UploadSide.replaces {tree : Tree} (side : UploadSide asked original task replaced)
    (typed : work.type = FileType.commit) (named : commitsTransfer task work)
    (checked : commitChecks sha256 task work answers = .ok ())
    (renamed : renameNode task.tree task.handle.tempPath task.handle.targetPath answers.rename = .ok tree) :
    noteReplaced sha256 task work answers replaced = some (.regular task.handle.hashed) ∧
      tree asked.target = some (.regular task.handle.hashed) := by
  have writes := namesTransfer_kind (commitsTransfer_names named)
  refine ⟨?_, ?_⟩
  · rw [noteReplaced, if_pos ⟨typed, named⟩, renamedNode_of_ok checked renamed, side.file writes]
    rfl
  · rw [← side.target writes, renameNode_destination renamed, side.file writes]

theorem TransferStep.held (side : UploadSide asked original task replaced)
    (opens : work.type = FileType.writeOpen → ∀ request, writeOpenRequest config task.tree work answers = .ok request →
      request.target = asked.target ∧ request.expectedSize = asked.expected)
    (session : work.sessionId = asked.sessionId) (fresh : work.type = FileType.writeOpen → replaced = none)
    (apart : work.type = FileType.writeOpen → opensApart config task.tree work answers = true)
    (step : TransferStep config sha256 task work answers after completion) :
    UploadSide asked original after (noteReplaced sha256 task work answers replaced) ∧
      HeldStep sha256 work completion task.handle.held replaced after.handle.held
        (noteReplaced sha256 task work answers replaced) := by
  cases step with
  | refused failed receipt handle uncommitted other tree =>
    have same : noteReplaced sha256 task work answers replaced = replaced :=
      if_neg fun both => uncommitted both.1 both.2
    rw [same]
    rcases handle with rfl | ⟨idle, closed⟩
    · exact ⟨side, .kept (.inl rfl) fun _ => failed⟩
    · refine ⟨.closed (by rw [closed]; decide) ?_, .kept (.inr (by rw [closed]; rfl)) fun _ => failed⟩
      rw [← side.content]
      by_cases typed : work.type = FileType.writeOpen
      · apply tree
        intro request created temp asks made
        rw [← (opens typed request asks).1]
        exact opensApart_apart asks made (apart typed)
      · rw [other typed]
  | @opened completion request created temp typed idle asks made done stream =>
    obtain ⟨target, expected⟩ := opens typed request asks
    have other : temp ≠ asked.target := target ▸ opensApart_apart asks made (apart typed)
    have created := openTemporary_ok made
    have notCommit : work.type ≠ FileType.commit := by
      rw [typed]
      decide
    rw [noteReplaced_other notCommit]
    have before : task.handle.held = none := held_other (by rw [idle]; decide)
    have holds : (writeHandle work request temp answers).held = some { streamId := completion.streamId, data := [] } := by
      rw [held_write rfl, stream]
      rfl
    refine ⟨?_, ?_⟩
    · constructor
      case session => exact fun _ => session
      case target => exact fun _ => target
      case size => exact fun _ => expected
      case committed => exact fun _ => rfl
      case file =>
        rw [created]
        exact fun _ => Function.update_self _ _ _
      case apart => exact fun _ => other
      case unreplaced => exact fun _ => fresh typed
      case content =>
        rw [created]
        exact (Function.update_of_ne other.symm _ _).trans side.content
    · rw [before, holds]
      exact .opened typed
  | @wrote completion tree typed accepted file other done =>
    have writes := namesTransfer_kind (acceptsWrite_names accepted)
    obtain ⟨offset, some_data⟩ := acceptsWrite_offset accepted
    have notCommit : work.type ≠ FileType.commit := by
      rw [typed]
      decide
    rw [noteReplaced_other notCommit, held_write writes]
    refine ⟨?_, ?_⟩
    · constructor
      case session => exact side.session
      case target => exact side.target
      case size => exact side.size
      case committed =>
        intro _
        show task.handle.committed + (work.payload.drop 12).length = (task.handle.hashed ++ work.payload.drop 12).length
        rw [side.committed writes, List.length_append]
      case file => exact fun _ => file _ (side.file writes)
      case apart => exact side.apart
      case unreplaced => exact side.unreplaced
      case content => exact (other _ (side.apart writes).symm).trans side.content
    · have grown : FileHandle.held
          { task.handle with
            committed := task.handle.committed + (work.payload.drop 12).length
            hashed := task.handle.hashed ++ work.payload.drop 12 } =
          some { streamId := task.handle.streamId, data := task.handle.hashed ++ work.payload.drop 12 } := if_pos writes
      rw [grown]
      exact .wrote typed (matches_stream (acceptsWrite_names accepted)) (offset.trans (side.committed writes)) some_data
  | @committed completion tree metadata typed named checked renamed described answered done =>
    have writes := namesTransfer_kind (commitsTransfer_names named)
    obtain ⟨_, verified⟩ := commitChecks_ok checked
    obtain ⟨moved, content⟩ := side.replaces typed named checked renamed
    have size : metadata.size = task.handle.hashed.length := by
      obtain ⟨node, found, _, size⟩ := fileStat_ok described
      rw [side.target writes, content] at found
      cases found
      exact size
    rw [moved, held_write writes]
    refine ⟨.closed HandleKind.noConfusion content, ?_⟩
    refine .moved typed (matches_stream (commitsTransfer_names named)) verified fun _ bounded => ?_
    rw [answered, encodeMetadata_size metadata (size ▸ bounded), size]
  | @unseen completion tree status typed named checked renamed failed refused =>
    have writes := namesTransfer_kind (commitsTransfer_names named)
    obtain ⟨moved, content⟩ := side.replaces typed named checked renamed
    rw [moved, held_write writes]
    refine ⟨.closed HandleKind.noConfusion content, ?_⟩
    exact .moved typed (matches_stream (commitsTransfer_names named)) (commitChecks_ok checked).2
      fun done => absurd done refused
  | @aborted completion tree status notOpen named kept unanswered unrenamed other =>
    have writes := namesTransfer_kind named
    have same : noteReplaced sha256 task work answers replaced = replaced := by
      unfold noteReplaced
      split
      next commits => rw [unrenamed commits.1, Option.none_or]
      next => rfl
    rw [same]
    refine ⟨.closed HandleKind.noConfusion ((other _ (side.apart writes).symm).trans side.content), ?_⟩
    refine .kept (.inr rfl) fun typed => unanswered ?_
    rcases typed with typed | typed | typed <;> rw [typed] <;> decide

theorem TransferStep.receipt (side : UploadSide asked original task replaced)
    (step : TransferStep config sha256 task work answers after completion) :
    after.receipt = task.receipt ∧ (work.type = FileType.writeOpen → completion.status ≠ FileStatus.ok.code) ∨
      ReceiptSound (noteReplaced sha256 task work answers replaced) after.receipt := by
  cases step with
  | refused failed receipt => exact .inl ⟨receipt, fun _ => failed⟩
  | opened => exact .inr fun valid => absurd valid Bool.false_ne_true
  | wrote typed => exact .inl ⟨rfl, fun opens => absurd (typed.symm.trans opens) (by decide)⟩
  | committed typed named checked renamed =>
    obtain ⟨moved, _⟩ := side.replaces typed named checked renamed
    exact .inr fun _ _ => moved ▸ Option.some_ne_none _
  | unseen | aborted => exact .inr fun _ state => absurd (Option.some.inj state) (by decide)

theorem TransferStep.reported (typed : work.type = FileType.commit) (named : commitsTransfer task work = true)
    (moved : (renamedNode sha256 task work answers).isSome = true)
    (step : TransferStep config sha256 task work answers after completion) :
    completion.status = FileStatus.ok.code ∨ answers.renamed.isOk = false := by
  cases step with
  | refused failed receipt handle uncommitted => exact absurd named (uncommitted typed)
  | opened opens => exact absurd (typed.symm.trans opens) (by decide)
  | wrote writes => exact absurd (typed.symm.trans writes) (by decide)
  | committed _ _ _ _ _ _ done => exact .inl done
  | unseen _ _ _ _ failed => exact .inr failed
  | aborted _ _ _ _ unrenamed =>
    rw [unrenamed typed] at moved
    contradiction

def readTypes : List UInt8 :=
  [FileType.volumesRequest, FileType.statRequest, FileType.listOpen, FileType.listNext, FileType.readOpen,
    FileType.read, FileType.writeStatus, FileType.close]

structure Untouched (before after : FileTask) : Prop where
  tree : after.tree = before.tree
  receipt : after.receipt = before.receipt
  handle : KeepsWriting before.handle after.handle

theorem Untouched.refl (task : FileTask) : Untouched task task := ⟨rfl, rfl, .refl _⟩

theorem Untouched.withHandle {result : FileHandle × FileCompletion} (keeps : KeepsWriting task.handle result.1) :
    Untouched task (task.withHandle result).1 := ⟨rfl, rfl, keeps⟩

theorem processWork_stat (typed : work.type = FileType.statRequest) :
    processWork config sha256 task work answers = (task, handleStat config task.tree work answers) := by
  unfold processWork
  rw [typed]
  rfl

theorem processWork_writeStatus (typed : work.type = FileType.writeStatus) :
    processWork config sha256 task work answers = (task, handleWriteStatus task.handle task.receipt work) := by
  unfold processWork
  rw [typed]
  rfl

theorem processWork_untouched (typed : work.type ∈ readTypes) :
    Untouched task (processWork config sha256 task work answers).1 := by
  simp only [readTypes, List.mem_cons, List.not_mem_nil, or_false] at typed
  rcases typed with typed | typed | typed | typed | typed | typed | typed | typed
  · have same : processWork config sha256 task work answers = (task, handleVolumes config work) := by
      unfold processWork
      rw [typed]
      rfl
    rw [same]
    exact .refl task
  · rw [processWork_stat typed]
    exact .refl task
  · have same : processWork config sha256 task work answers =
        task.withHandle (handleListOpen config task.tree work answers task.handle) := by
      unfold processWork
      rw [typed]
      rfl
    rw [same]
    exact .withHandle (handleListOpen_keeps _ _)
  · have same : processWork config sha256 task work answers =
        (task, handleListNext task.tree work answers task.handle) := by
      unfold processWork
      rw [typed]
      rfl
    rw [same]
    exact .refl task
  · have same : processWork config sha256 task work answers =
        task.withHandle (handleReadOpen config task.tree work answers task.handle) := by
      unfold processWork
      rw [typed]
      rfl
    rw [same]
    exact .withHandle (handleReadOpen_keeps _ _)
  · have same : processWork config sha256 task work answers =
        (task, handleRead config task.tree work answers task.handle) := by
      unfold processWork
      rw [typed]
      rfl
    rw [same]
    exact .refl task
  · rw [processWork_writeStatus typed]
    exact .refl task
  · have same : processWork config sha256 task work answers = task.withHandle (handleClose task.handle work) := by
      unfold processWork
      rw [typed]
      rfl
    rw [same]
    exact .withHandle (handleClose_keeps _)

theorem Untouched.held (untouched : Untouched task after) : after.handle.held = task.handle.held := by
  by_cases writes : task.handle.kind = .write
  · rw [untouched.handle.kept writes]
  · rw [held_other writes, held_other (untouched.handle.unopened writes)]

theorem UploadSide.of_handle (side : UploadSide asked original task replaced) (handle : after.handle = task.handle)
    (tree : after.tree = task.tree) : UploadSide asked original after replaced := by
  cases after
  cases task
  cases handle
  cases tree
  exact { side with }

theorem Untouched.side (untouched : Untouched task after) (side : UploadSide asked original task replaced) :
    UploadSide asked original after replaced := by
  have content : after.tree asked.target = replaced.or original := untouched.tree ▸ side.content
  by_cases writes : task.handle.kind = .write
  · exact side.of_handle (untouched.handle.kept writes) untouched.tree
  · exact .closed (untouched.handle.unopened writes) content

theorem UploadSide.closing (side : UploadSide asked original task replaced) (unlink : Option Errno)
    (closed : after.handle.kind ≠ .write) (tree : after.tree = closeHandle task.tree task.handle unlink) :
    UploadSide asked original after replaced := by
  apply UploadSide.closed closed
  rw [tree, ← side.content]
  by_cases writes : task.handle.kind = .write
  · exact closeHandle_other (side.apart writes).symm
  · unfold closeHandle
    rw [if_neg fun both => writes both.1]

theorem UploadSide.change {path : Path} (side : UploadSide asked original task replaced)
    (apart : ¬ (task.handle.kind = .write ∧ path = task.handle.tempPath)) (other : path ≠ asked.target)
    (node : Option Node) :
    UploadSide asked original { task with tree := Function.update task.tree path node } replaced :=
  { side with
    file := fun writes =>
      (Function.update_of_ne (fun same => apart ⟨writes, same.symm⟩) _ _).trans (side.file writes)
    content := (Function.update_of_ne other.symm _ _).trans side.content }

theorem writeStatusPayload_committed {committed : Nat} (expected : Nat) (state : UInt8) (result : FileStatus)
    (bounded : committed < 2 ^ 64) :
    field (irisPutLe16 FileStatus.ok.code ++ [0, 0] ++ writeStatusPayload committed expected state result) 4 8 =
      committed := by
  unfold writeStatusPayload
  have small : (UInt64.ofNat committed).toNat = committed := UInt64.toNat_ofNat_of_lt' bounded
  rw [field_skip _ _ 4 8 (by simp [irisPutLe16]), List.append_assoc, List.append_assoc, List.append_assoc,
    irisPutLe64_eq, small]
  exact field_littleEndian 8 _ _ bounded

theorem handleWriteStatus_open {receipt : WriteReceipt} {handle : FileHandle} (named : namesTransfer handle work = true)
    (empty : work.payload = []) (bounded : handle.committed < 2 ^ 64) :
    field (handleWriteStatus handle receipt work).payload 4 8 = handle.committed := by
  unfold handleWriteStatus
  rw [if_neg (by simp [empty]), if_pos named]
  exact writeStatusPayload_committed _ _ _ bounded

theorem handleWriteStatus_committed {receipt : WriteReceipt} {handle : FileHandle}
    (told : byteAt (handleWriteStatus handle receipt work).payload 20 = 2) :
    receipt.valid = true ∧ receipt.state = some .committed := by
  have silent : ∀ status, byteAt (refusal work FileType.writeStatusResponse status).payload 20 = 0 := fun _ => rfl
  unfold handleWriteStatus at told
  split at told
  next => exact absurd ((silent _).symm.trans told) (by decide)
  split at told
  next =>
    have active : (1 : UInt8) = 2 := told
    exact absurd active (by decide)
  split at told
  next valid =>
    have state : (receipt.state.map WriteState.code).getD 0 = 2 := told
    simp only [Bool.and_eq_true] at valid
    refine ⟨valid.1.1, ?_⟩
    cases stored : receipt.state with
    | none =>
      rw [stored] at state
      exact absurd state (by decide)
    | some stage =>
      rw [stored] at state
      cases stage with
      | committed => rfl
      | active => exact absurd state (by decide)
      | aborted => exact absurd state (by decide)
  next => exact absurd ((silent _).symm.trans told) (by decide)

theorem statMetadata_honest (config : FilesConfig) (tree : Tree) (work : FileWork) (answers : Answers) :
    Honest (statMetadata config tree work answers) := by
  unfold statMetadata
  apply Honest.bind (decodePathRequestWithTrailer_honest _ _ _)
  intro request
  apply Honest.bind (resolveExistingPath_honest _ _ _ _)
  intro resolved
  exact Honest.bind (refuseIf_honest (by decide)) fun _ => .ok _

theorem handleStat_size {tree : Tree} (done : (handleStat config tree work answers).status = FileStatus.ok.code) :
    ∃ request node, decodePathRequest config.volumes work.payload = .ok request ∧
      tree (request.volume.path request.relative) = some node ∧ (node.size < 2 ^ 64 → field (handleStat config tree work answers).payload 8 8 = node.size) := by
  unfold handleStat at done ⊢
  cases described : statMetadata config tree work answers with
  | error status =>
    rw [described] at done
    have failure : status ≠ .ok := fun same => statMetadata_honest config tree work answers (same ▸ described)
    exact absurd ((refusal_status work FileType.statResponse status).symm.trans done) (code_ne_ok failure)
  | ok metadata =>
    obtain ⟨request, decoded, described⟩ := bind_ok.mp described
    obtain ⟨⟨path, metadata'⟩, resolved, described⟩ := bind_ok.mp described
    obtain ⟨_, _, described⟩ := bind_ok.mp described
    cases described
    obtain ⟨same, node, there, _, size⟩ := resolveExistingPath_ok resolved
    refine ⟨request, node, decoded, same ▸ there, fun bounded => ?_⟩
    rw [← size] at bounded ⊢
    exact encodeMetadata_size _ bounded

end EspIris.Device.Files
