import EspIris.Link.UploadSteps

/-! What the file task and the wire do to an upload. -/

namespace EspIris.Link
open Device.Files Gateway.Upload Bytes Codec.Device

variable {setup : UploadSetup} {world : UploadWorld} {work : FileWork}

/-- What an answer may say stays true while the transfer does, or ends. -/
theorem Valid.settle {uploader : Uploader} {task later : FileTask} {replaced : Option Node}
    {requests fewer : List (Nat × FileWork)} {completion : FileCompletion}
    (valid : Valid uploader task replaced requests completion)
    (held : later.handle.held = task.handle.held ∨ later.handle.held = none)
    (receipt : ReceiptSound replaced task.receipt → ReceiptSound replaced later.receipt)
    (fewer_requests : requests = [] → fewer = []) : Valid uploader later replaced fewer completion := by
  have kept : ∀ holds, later.handle.held = some holds → task.handle.held = some holds := by
    intro holds same
    rcases held with held | none
    · exact held.symm.trans same
    · rw [none] at same
      contradiction
  unfold Valid at valid ⊢
  cases point : uploader.point with
  | opening =>
    rw [point] at valid
    intro says_ok
    obtain ⟨alone, unreplaced, told, holds⟩ := valid says_ok
    exact ⟨fewer_requests alone, unreplaced, receipt told, fun held same => holds held (kept held same)⟩
  | writing =>
    rw [point] at valid
    exact fun says_ok holds same => valid says_ok holds (kept holds same)
  | checkingWrite =>
    rw [point] at valid
    exact fun says_ok far holds same => valid says_ok far holds (kept holds same)
  | _ =>
    rw [point] at valid
    exact valid

section sound
variable (sound : UploadSound setup world)
include sound

/-- Something else moves the file task: the transfer stays as it is, or ends. -/
theorem UploadSound.settle {later : FileTask} (side : UploadSide (askedOf setup) world.original later world.replaced)
    (held : later.handle.held = world.task.handle.held ∨ later.handle.held = none)
    (receipt : ReceiptSound world.replaced world.task.receipt → ReceiptSound world.replaced later.receipt) :
    UploadSound setup { world with task := later } :=
  { sound with
    side
    held := fun lives holds same => by
      rcases held with held | none
      · exact sound.held lives holds (held.symm.trans same)
      · exact absurd (none.symm.trans same) nofun
    told := fun lives => receipt (sound.told lives)
    valid := fun entry member =>
      ⟨(sound.valid entry member).1, fun waits => ((sound.valid entry member).2 waits).settle held receipt id⟩ }

theorem UploadSound.lose {requests : List (Nat × FileWork)} {responses : List (Nat × FileCompletion)}
    (fewer : requests.Sublist world.requests) (unheard : responses.Sublist world.responses) :
    UploadSound setup { world with requests, responses } :=
  { sound with
    standing := fun entry member => sound.standing entry (fewer.subset member)
    pending := fun entry member => sound.pending entry (fewer.subset member)
    valid := fun entry member => by
      obtain ⟨earlier, valid⟩ := sound.valid entry (unheard.subset member)
      refine ⟨earlier, fun waits => (valid waits).settle (.inl rfl) id fun none => ?_⟩
      exact List.eq_nil_of_sublist_nil (none ▸ fewer)
    alone := fun opening =>
      (Nat.add_le_add fewer.length_le unheard.length_le).trans (sound.alone opening)
    lone := fun entry member opens => by
      obtain ⟨single, unreplaced⟩ := sound.lone entry (fewer.subset member) opens
      exact ⟨(fewer.length_le.trans single.le).antisymm (List.length_pos_of_mem member), unreplaced⟩ }

theorem UploadSound.foreign {answers : Answers} (typed : work.type ∈ readTypes) :
    UploadSound setup
      { world with task := (processWork setup.config setup.sha256 world.task work answers).1 } := by
  have untouched : Untouched world.task (processWork setup.config setup.sha256 world.task work answers).1 :=
    processWork_untouched typed
  refine sound.settle (untouched.side sound.side) (.inl untouched.held) fun told => ?_
  rw [untouched.receipt]
  exact told

theorem UploadSound.endSession (sessionId : UInt32) (unlink : Option Errno) :
    UploadSound setup { world with task := sessionEnd world.task sessionId unlink } := by
  have receipt : ReceiptSound world.replaced world.task.receipt →
      ReceiptSound world.replaced (sessionEnd world.task sessionId unlink).receipt := by
    intro told valid
    rcases sessionEnd_receipt world.task sessionId unlink with ⟨invalid, _⟩ | ⟨same, _⟩
    · rw [invalid] at valid
      contradiction
    · rw [same] at valid ⊢
      exact told valid
  by_cases closes : world.task.handle.kind ≠ .none ∧ world.task.handle.sessionId = sessionId
  · have closed : (sessionEnd world.task sessionId unlink).handle = .zero ∧
        (sessionEnd world.task sessionId unlink).tree = closeHandle world.task.tree world.task.handle unlink := by
      unfold sessionEnd
      dsimp only
      rw [if_pos closes]
      split
      next => exact ⟨rfl, rfl⟩
      next => exact ⟨rfl, rfl⟩
    refine sound.settle (sound.side.closing unlink ?_ closed.2) (.inr ?_) receipt
    · rw [closed.1]
      exact HandleKind.noConfusion
    · rw [closed.1]
      rfl
  · have same : (sessionEnd world.task sessionId unlink).handle = world.task.handle ∧
        (sessionEnd world.task sessionId unlink).tree = world.task.tree := by
      unfold sessionEnd
      dsimp only
      rw [if_neg closes]
      split
      next => exact ⟨rfl, rfl⟩
      next => exact ⟨rfl, rfl⟩
    refine sound.settle ?_ (.inl (by rw [same.1])) receipt
    exact sound.side.of_handle same.1 same.2

theorem UploadSound.restart (unlink : Option Errno) :
    UploadSound setup { world with task := restartTask world.task unlink } :=
  sound.settle (sound.side.closing unlink HandleKind.noConfusion rfl) (.inr rfl)
    fun _ valid => absurd valid Bool.false_ne_true

end sound

theorem mem_eraseIdx_lone {Entry : Type} {entries : List Entry} {index : Nat} {entry found : Entry}
    (at_index : entries[index]? = some found) (member : entry ∈ entries.eraseIdx index) : 2 ≤ entries.length := by
  have inside := (List.getElem?_eq_some_iff.mp at_index).1
  have shorter := List.length_eraseIdx_of_lt inside
  have some_left := List.length_pos_of_mem member
  omega

theorem UploadSound.respond {index serial : Nat} {completion : FileCompletion} {later : FileTask}
    {replaced : Option Node} {reported unseen : Bool} (sound : UploadSound setup world)
    (found : world.requests[index]? = some (serial, work))
    (side : UploadSide (askedOf setup) world.original later replaced)
    (noted : replaced ≠ none → reported = true ∨ unseen = true)
    (phase : PhaseSound setup world.uploader world.source replaced)
    (held : HeldSound world.uploader later.handle.held)
    (told : live world.uploader.point = true → ReceiptSound replaced later.receipt)
    (still : world.uploader.point ≠ .opening → ∀ entry ∈ world.responses,
      Valid world.uploader world.task world.replaced world.requests entry.2 →
        Valid world.uploader later replaced (world.requests.eraseIdx index) entry.2)
    (new : Pending setup world.uploader work → (world.uploader.point = .opening → world.requests.eraseIdx index = []) →
      Valid world.uploader later replaced (world.requests.eraseIdx index) completion) :
    UploadSound setup
      { world with
        task := later
        requests := world.requests.eraseIdx index
        responses := world.responses ++ [(serial, completion)]
        replaced
        reported
        unseen } := by
  have member_of := List.mem_of_getElem? found
  have inside := (List.getElem?_eq_some_iff.mp found).1
  have fewer := List.length_eraseIdx_of_lt inside
  obtain ⟨earlier, pending⟩ := sound.pending _ member_of
  refine
    { request := sound.request
      bounded := sound.bounded
      side, noted, phase, held, told
      standing := fun entry member => sound.standing entry (List.mem_of_mem_eraseIdx member)
      pending := fun entry member => sound.pending entry (List.mem_of_mem_eraseIdx member)
      valid := fun entry member => ?_
      alone := fun opening => ?_
      lone := fun entry member opens => ?_ }
  · rcases List.mem_append.mp member with old | last
    · obtain ⟨before, valid⟩ := sound.valid entry old
      refine ⟨before, fun waits => still (fun opening => ?_) entry old (valid waits)⟩
      have alone := sound.alone opening
      have some_response := List.length_pos_of_mem old
      omega
    · cases List.mem_singleton.mp last
      refine ⟨earlier, fun waits => new (pending waits) fun opening => ?_⟩
      have alone := sound.alone opening
      exact List.length_eq_zero_iff.mp (by omega)
  · have alone := sound.alone opening
    show (world.requests.eraseIdx index).length + (world.responses ++ [(serial, completion)]).length ≤ 1
    rw [List.length_append, List.length_singleton]
    omega
  · have single := (sound.lone entry (List.mem_of_mem_eraseIdx member) opens).1
    have more := mem_eraseIdx_lone found member
    omega

theorem UploadSound.refuse {index serial : Nat} {status : FileStatus} (sound : UploadSound setup world)
    (found : world.requests[index]? = some (serial, work)) (failed : status ≠ .ok) :
    UploadSound setup
      { world with
        requests := world.requests.eraseIdx index
        responses := world.responses ++ [(serial, refusal work (responseTypeFor work.type) status)] } := by
  have refused : (refusal work (responseTypeFor work.type) status).status ≠ FileStatus.ok.code := by
    rw [refusal_status]
    exact code_ne_ok failed
  refine sound.respond found sound.side sound.noted sound.phase sound.held sound.told ?_ fun _ _ => ?_
  · intro _ entry _ valid
    apply valid.settle (.inl rfl) id
    intro none
    rw [none]
    rfl
  · unfold Valid
    cases world.uploader.point with
    | opening | writing | checkingWrite | committing => exact fun same => absurd same refused
    | checkingCommit => exact fun silent => absurd (show (0 : UInt8) = 2 from silent) (by decide)
    | stating => exact fun same => absurd same refused
    | _ => trivial

theorem pathPayload_ok {volume path payload : List UInt8} (named : pathPayload volume path = some payload) :
    volume.length ≤ 255 ∧ path.length < 65536 ∧
      payload = [UInt8.ofNat volume.length, 0] ++ littleEndian 2 path.length ++ volume ++ path := by
  unfold pathPayload at named
  by_cases first : volume = [] ∨ 15 < volume.length ∨ !volume.all validIdentifier
  · rw [if_pos first] at named
    contradiction
  rw [if_neg first] at named
  by_cases second : path.head? = some slash ∨ path.getLast? = some slash ∨ path.contains 0x5c
  · rw [if_pos second] at named
    contradiction
  rw [if_neg second] at named
  by_cases third : path ≠ [] ∧
      (path.splitOn slash).any fun part => part.isEmpty || part == [0x2e] || part == [0x2e, 0x2e]
  · rw [if_pos third] at named
    contradiction
  rw [if_neg third] at named
  by_cases fourth : 255 < path.length ∨ path.any fun value => value < 0x20 || value == 0x7f
  · rw [if_pos fourth] at named
    contradiction
  rw [if_neg fourth] at named
  simp only [not_or] at first fourth
  cases named
  exact ⟨by omega, by omega, rfl⟩

theorem uploadTarget_found {config : FilesConfig} {request : UploadRequest} {volume : Volume}
    (found : findVolume config.volumes request.volume = some volume) :
    uploadTarget config request = volume.path request.path := by
  unfold uploadTarget
  rw [found]

theorem openPayload_opens {config : FilesConfig} {request : UploadRequest} {tree : Tree} {answers : Answers}
    {asks : OpenRequest} (opens : openPayload request = some work.payload)
    (asked : writeOpenRequest config tree work answers = .ok asks) :
    asks.target = uploadTarget config request ∧ asks.expectedSize = request.totalSize := by
  unfold openPayload at opens
  split at opens
  next => contradiction
  next bounded =>
    obtain ⟨header, named, payload⟩ := Option.map_eq_some_iff.mp opens
    obtain ⟨short, long, rfl⟩ := pathPayload_ok named
    obtain ⟨decoded, decodes, asked⟩ := bind_ok.mp asked
    obtain ⟨_, _, asked⟩ := bind_ok.mp asked
    obtain ⟨_, _, asked⟩ := bind_ok.mp asked
    obtain ⟨⟨parent, target⟩, resolves, asked⟩ := bind_ok.mp asked
    obtain ⟨_, _, asked⟩ := bind_ok.mp asked
    obtain ⟨_, _, asked⟩ := bind_ok.mp asked
    obtain ⟨_, _, asked⟩ := bind_ok.mp asked
    obtain ⟨_, _, asked⟩ := bind_ok.mp asked
    obtain ⟨_, _, asked⟩ := bind_ok.mp asked
    cases asked
    rw [← payload] at decodes
    obtain ⟨found, relative, trailer, valid⟩ := decodePathRequestWithTrailer_ok short long decodes
    have unrooted := validRelativePath_unrooted valid
    rw [← relative] at unrooted
    refine ⟨?_, ?_⟩
    · rw [resolveParentPath_ok unrooted resolves, uploadTarget_found found, relative]
    · show field decoded.trailer 0 8 = request.totalSize
      rw [trailer, List.append_assoc, List.append_assoc]
      exact field_littleEndian 8 _ _ (by omega)

theorem handle_eq {answers : Answers} (serial : Nat) (requests : List (Nat × FileWork)) :
    { world with requests }.handle setup serial work answers =
      { world with
        task := (processWork setup.config setup.sha256 world.task work answers).1
        requests
        responses :=
          world.responses ++ [(serial, (processWork setup.config setup.sha256 world.task work answers).2)]
        replaced := noteReplaced setup.sha256 world.task work answers world.replaced
        reported := world.reported ||
          (work.type == FileType.commit && commitsTransfer world.task work &&
            (processWork setup.config setup.sha256 world.task work answers).2.status == FileStatus.ok.code)
        unseen := world.unseen ||
          (work.type == FileType.commit && commitsTransfer world.task work &&
            (renamedNode setup.sha256 world.task work answers).isSome && !answers.renamed.isOk) } := rfl

theorem UploadSound.answersStatus {part : List UInt8} {attempt tries : Nat} {answers : Answers}
    (sound : UploadSound setup world) (point : world.uploader.point = .checkingWrite part attempt tries)
    (session : work.sessionId = setup.sessionId) (pending : Pending setup world.uploader work)
    (far : field (processWork setup.config setup.sha256 world.task work answers).2.payload 4 8 =
      world.uploader.hashed.length + part.length) :
    ∀ holds, world.task.handle.held = some holds → holds.data = world.uploader.hashed ++ part := by
  intro holds same
  unfold Pending at pending
  rw [point] at pending
  obtain ⟨typed, stream, empty⟩ := pending
  have phase := sound.phase
  unfold PhaseSound at phase
  rw [point] at phase
  obtain ⟨some_part, sending⟩ := phase
  have lives : live world.uploader.point = true := by rw [point]; rfl
  obtain ⟨named, data⟩ := sound.held lives holds same
  rw [show partOf world.uploader.point = part by rw [point]; rfl] at data
  have fits := sending.fits
  have bounded := sound.not_failed lives
  have grown := List.length_pos_iff.mpr some_part
  obtain ⟨writes, stream_held, data_held⟩ := held_some same
  have committed := sound.side.committed writes
  rw [data_held] at committed
  have names : namesTransfer world.task.handle work = true := by
    unfold namesTransfer FileHandle.matches
    rw [writes, sound.side.session writes, session, stream_held, named, stream]
    simp [askedOf]
  rw [List.length_append, List.length_append] at fits
  rw [processWork_writeStatus typed] at far
  rcases data with data | data
  · rw [data] at committed
    rw [handleWriteStatus_open names empty (by omega)] at far
    omega
  · exact data

theorem UploadSound.answersStat {answers : Answers} (sound : UploadSound setup world)
    (point : world.uploader.point = .stating) (pending : Pending setup world.uploader work)
    (done : (processWork setup.config setup.sha256 world.task work answers).2.status = FileStatus.ok.code) :
    field (processWork setup.config setup.sha256 world.task work answers).2.payload 8 8 =
      world.uploader.hashed.length := by
  unfold Pending at pending
  rw [point] at pending
  obtain ⟨typed, named⟩ := pending
  have phase := sound.phase
  unfold PhaseSound at phase
  rw [point] at phase
  have bounded := sound.bounded (by rw [point]; exact Point.noConfusion)
  rw [processWork_stat typed] at done ⊢
  obtain ⟨request, node, decodes, there, size⟩ := handleStat_size done
  obtain ⟨short, long, payload⟩ := pathPayload_ok named
  have whole : work.payload = [UInt8.ofNat setup.request.volume.length, 0] ++
      littleEndian 2 setup.request.path.length ++ setup.request.volume ++ setup.request.path ++ [] := by
    rw [payload, List.append_nil]
  rw [decodePathRequest, whole] at decodes
  obtain ⟨found, relative, _⟩ := decodePathRequestWithTrailer_ok short long decodes
  have content := sound.side.content
  rw [phase.replaced] at content
  rw [relative, ← uploadTarget_found found] at there
  cases there.symm.trans content
  have complete := phase.complete
  exact size (by show world.uploader.hashed.length < 2 ^ 64; omega)

theorem UploadSound.deliverRead {index serial : Nat} {answers : Answers} (sound : UploadSound setup world)
    (found : world.requests[index]? = some (serial, work)) (typed : work.type ∈ readTypes) :
    UploadSound setup ({ world with requests := world.requests.eraseIdx index }.handle setup serial work answers) := by
  have untouched : Untouched world.task (processWork setup.config setup.sha256 world.task work answers).1 :=
    processWork_untouched typed
  have same : noteReplaced setup.sha256 world.task work answers world.replaced = world.replaced :=
    noteReplaced_other (readTypes_other typed (by decide))
  have receipt : ReceiptSound world.replaced world.task.receipt → ReceiptSound world.replaced
      (processWork setup.config setup.sha256 world.task work answers).1.receipt := by
    rw [untouched.receipt]
    exact id
  rw [handle_eq]
  refine sound.respond found ?_ ?_ ?_ ?_ ?_ ?_ ?_
  · rw [same]
    exact untouched.side sound.side
  · rw [same]
    intro replaced
    rcases sound.noted replaced with reported | unseen
    · exact .inl (by rw [reported]; rfl)
    · exact .inr (by rw [unseen]; rfl)
  · rw [same]
    exact sound.phase
  · rw [untouched.held]
    exact sound.held
  · rw [same]
    exact fun lives => receipt (sound.told lives)
  · rw [same]
    intro _ entry _ valid
    apply valid.settle (.inl untouched.held) receipt
    intro none
    rw [none]
    rfl
  · rw [same]
    intro pending _
    have standing := sound.standing _ (List.mem_of_getElem? found)
    unfold Valid
    unfold Pending at pending
    cases point : world.uploader.point with
    | opening => exact absurd (standing.first point) (readTypes_other typed (by decide))
    | writing =>
      rw [point] at pending
      exact absurd pending.1 (readTypes_other typed (by decide))
    | checkingWrite part attempt tries =>
      intro _ far holds
      rw [untouched.held]
      exact sound.answersStatus point standing.session pending far holds
    | committing =>
      rw [point] at pending
      exact absurd pending (readTypes_other typed (by decide))
    | checkingCommit =>
      rw [point] at pending
      intro committed
      rw [processWork_writeStatus pending.1] at committed
      obtain ⟨valid, state⟩ := handleWriteStatus_committed committed
      have lives : live world.uploader.point = true := by rw [point]; rfl
      have phase := sound.phase
      unfold PhaseSound at phase
      rw [point] at phase
      exact phase.replaced.resolve_left (sound.told lives valid state)
    | stating => exact sound.answersStat point pending
    | _ => trivial

inductive Progress (uploader : Uploader) (work : FileWork) (completion : FileCompletion) :
    Option Held → Option Node → Option Held → Option Node → Prop
  | kept {held later : Option Held} {replaced : Option Node} (left : later = held ∨ later = none)
      (refused : work.type = FileType.write ∨ work.type = FileType.commit →
        completion.status ≠ FileStatus.ok.code) :
      Progress uploader work completion held replaced later replaced
  | wrote {holds : Held} {replaced : Option Node} (typed : work.type = FileType.write)
      (data : holds.data = uploader.hashed) :
      Progress uploader work completion (some holds) replaced
        (some { holds with data := uploader.hashed ++ partOf uploader.point }) replaced
  | moved {holds : Held} {replaced : Option Node} (typed : work.type = FileType.commit)
      (commits : atCommit uploader.point = true)
      (answered : completion.status = FileStatus.ok.code → uploader.hashed.length < 2 ^ 64 →
        field completion.payload 8 8 = uploader.hashed.length) :
      Progress uploader work completion (some holds) replaced none (some (.regular uploader.hashed))

section progress
variable {uploader : Uploader} {completion : FileCompletion} {held held' : Option Held}
  {replaced replaced' : Option Node} {source : List UInt8} {task later : FileTask}

theorem Progress.of_step
    (moves : HeldStep setup.sha256 work completion held replaced held' replaced')
    (standing : Standing setup uploader work) (sound : HeldSound uploader held)
    (lives : live uploader.point = true) : Progress uploader work completion held replaced held' replaced' := by
  cases moves with
  | kept left refused => exact .kept left fun typed => refused (.inr typed)
  | opened typed => exact absurd typed (standing.not_open lives)
  | @wrote holds _ typed stream offset some_data =>
    have grown : holds.data.length ≥ uploader.hashed.length := by
      rcases (sound lives holds rfl).2 with data | data
      · rw [data]
      · rw [data, List.length_append]
        omega
    rcases standing.write lives typed with stale | ⟨behind, part, some_part⟩
    · omega
    · have data : holds.data = uploader.hashed := by
        refine (sound lives holds rfl).2.resolve_right fun data => ?_
        have longer := List.length_pos_iff.mpr some_part
        rw [offset, data, List.length_append] at behind
        omega
      rw [part, data]
      exact .wrote typed data
  | @moved holds _ typed stream verified answered =>
    obtain ⟨commits, _⟩ := standing.commit lives typed
    have empty : partOf uploader.point = [] := by
      cases point : uploader.point with
      | committing => rfl
      | checkingCommit => rfl
      | _ =>
        rw [point] at commits
        contradiction
    have data : holds.data = uploader.hashed := by
      rcases (sound lives holds rfl).2 with data | data
      · exact data
      · rwa [empty, List.append_nil] at data
    rw [data] at answered ⊢
    exact .moved typed commits answered

section progress
variable (progress : Progress uploader work completion held replaced held' replaced')
include progress

theorem Progress.heldSound (sound : HeldSound uploader held) : HeldSound uploader held' := by
  intro lives holds same
  cases progress with
  | kept left =>
    rcases left with rfl | rfl
    · exact sound lives holds same
    · contradiction
  | wrote typed data =>
    cases same
    exact ⟨(sound lives _ rfl).1, .inr rfl⟩
  | moved => contradiction

theorem Progress.phase (phase : PhaseSound setup uploader source replaced) :
    PhaseSound setup uploader source replaced' := by
  cases progress with
  | kept => exact phase
  | wrote => exact phase
  | moved _ commits =>
    unfold PhaseSound at phase ⊢
    cases point : uploader.point with
    | committing | checkingCommit =>
      rw [point] at phase
      exact ⟨phase.committed, phase.source, phase.complete, .inr rfl⟩
    | _ =>
      rw [point] at commits
      contradiction

theorem Progress.stays (some_node : replaced ≠ none) : replaced' ≠ none := by
  cases progress with
  | kept => exact some_node
  | wrote => exact some_node
  | moved => exact Option.some_ne_none _

end progress

theorem Progress.valid {requests fewer : List (Nat × FileWork)} {answered : FileCompletion}
    (progress : Progress uploader work completion task.handle.held replaced later.handle.held replaced')
    (lives : live uploader.point = true) (valid : Valid uploader task replaced requests answered) :
    Valid uploader later replaced' fewer answered := by
  have kept : ∀ part, partOf uploader.point = part →
      (∀ holds, task.handle.held = some holds → holds.data = uploader.hashed ++ part) →
        ∀ holds, later.handle.held = some holds → holds.data = uploader.hashed ++ part := by
    rintro part rfl before holds same
    generalize task.handle.held = first, later.handle.held = second at progress before same
    cases progress with
    | kept left =>
      rcases left with rfl | rfl
      · exact before holds same
      · contradiction
    | wrote =>
      cases same
      rfl
    | moved => contradiction
  have moved : replaced = some (.regular uploader.hashed) → replaced' = some (.regular uploader.hashed) := by
    intro before
    generalize task.handle.held = first, later.handle.held = second at progress
    cases progress with
    | kept => exact before
    | wrote => exact before
    | moved => rfl
  unfold Valid at valid ⊢
  cases point : uploader.point with
  | opening =>
    rw [point] at lives
    contradiction
  | writing part =>
    rw [point] at valid kept
    exact fun says_ok => kept part rfl (valid says_ok)
  | checkingWrite part =>
    rw [point] at valid kept
    exact fun says_ok far => kept part rfl (valid says_ok far)
  | committing =>
    rw [point] at valid
    exact fun says_ok => ⟨moved (valid says_ok).1, (valid says_ok).2⟩
  | checkingCommit =>
    rw [point] at valid
    exact fun committed => moved (valid committed)
  | _ =>
    rw [point] at valid
    exact valid

theorem Progress.answer {requests : List (Nat × FileWork)}
    (progress : Progress uploader work completion task.handle.held replaced later.handle.held replaced')
    (lives : live uploader.point = true) (typed : work.type ∈ writeTypes) (pending : Pending setup uploader work)
    (bounded : uploader.hashed.length < 2 ^ 64) : Valid uploader later replaced' requests completion := by
  unfold Valid
  unfold Pending at pending
  cases point : uploader.point with
  | writing part =>
    rw [point] at pending
    intro says_ok holds same
    generalize task.handle.held = first, later.handle.held = second at progress same
    cases progress with
    | kept _ refused => exact absurd says_ok (refused (.inl pending.1))
    | wrote =>
      cases same
      rw [point]
      rfl
    | moved commit => exact absurd (pending.1.symm.trans commit) (by decide)
  | committing =>
    rw [point] at pending
    intro says_ok
    generalize task.handle.held = first, later.handle.held = second at progress
    cases progress with
    | kept _ refused => exact absurd says_ok (refused (.inr pending))
    | wrote write => exact absurd (write.symm.trans pending) (by decide)
    | moved _ _ answered => exact ⟨rfl, answered says_ok bounded⟩
  | checkingWrite | checkingCommit =>
    rw [point] at pending
    have reads : work.type ∈ readTypes := by
      rw [pending.1]
      decide
    exact absurd rfl (readTypes_other reads typed)
  | opening | stating =>
    rw [point] at lives
    contradiction
  | _ => trivial

end progress

theorem noteReplaced_noted {answers : Answers} {completion : FileCompletion} {later : FileTask}
    (step : TransferStep setup.config setup.sha256 world.task work answers later completion)
    (noted : world.replaced ≠ none → world.reported = true ∨ world.unseen = true)
    (replaced : noteReplaced setup.sha256 world.task work answers world.replaced ≠ none) :
    (world.reported || (work.type == FileType.commit && commitsTransfer world.task work &&
        completion.status == FileStatus.ok.code)) = true ∨
      (world.unseen || (work.type == FileType.commit && commitsTransfer world.task work &&
        (renamedNode setup.sha256 world.task work answers).isSome && !answers.renamed.isOk)) = true := by
  by_cases before : world.replaced = none
  · rw [before] at replaced
    unfold noteReplaced at replaced
    split at replaced
    next commits =>
      rw [Option.or_none] at replaced
      have moved := Option.isSome_iff_ne_none.mpr replaced
      rcases step.reported commits.1 commits.2 moved with done | failed
      · left
        rw [commits.1, commits.2, done]
        simp
      · right
        rw [commits.1, commits.2, moved, failed]
        simp
    next => contradiction
  · rcases noted before with reported | unseen
    · exact .inl (by rw [reported]; rfl)
    · exact .inr (by rw [unseen]; rfl)

/-- Past its stream the upload looks at neither the transfer nor the rename. -/
theorem PhaseSound.idle {uploader : Uploader} {source : List UInt8} {held held' : Option Held}
    {replaced replaced' : Option Node} {completion : FileCompletion}
    (phase : PhaseSound setup uploader source replaced) (quiet : live uploader.point = false)
    (moves : HeldStep setup.sha256 work completion held replaced held' replaced')
    (open_fresh : held ≠ none → replaced = none) : PhaseSound setup uploader source replaced' := by
  cases moves with
  | kept => exact phase
  | opened => exact phase
  | wrote => exact phase
  | @moved holds =>
    have fresh := open_fresh (Option.some_ne_none holds)
    unfold PhaseSound at phase ⊢
    cases point : uploader.point with
    | opening =>
      rw [point] at phase
      exact phase
    | stating =>
      rw [point] at phase
      exact absurd (fresh.symm.trans phase.replaced) nofun
    | succeeded =>
      rw [point] at phase
      exact absurd (fresh.symm.trans phase.1.replaced) nofun
    | aborting | failed => trivial
    | _ =>
      rw [point] at quiet
      contradiction

/-- The answer to WRITE_OPEN, and to a request of an upload that has given up. -/
theorem HeldStep.answer_idle {uploader : Uploader} {task later : FileTask} {replaced replaced' : Option Node}
    {completion : FileCompletion} {requests : List (Nat × FileWork)} (quiet : live uploader.point = false)
    (typed : work.type ∈ writeTypes) (pending : Pending setup uploader work)
    (alone : uploader.point = .opening → requests = [] ∧ replaced = none)
    (receipt : completion.status = FileStatus.ok.code → work.type = FileType.writeOpen →
      ReceiptSound replaced' later.receipt)
    (moves : HeldStep setup.sha256 work completion task.handle.held replaced later.handle.held replaced') :
    Valid uploader later replaced' requests completion := by
  unfold Valid
  unfold Pending at pending
  cases point : uploader.point with
  | opening =>
    rw [point] at pending
    obtain ⟨none, unreplaced⟩ := alone point
    intro says_ok
    refine ⟨none, ?_, receipt says_ok pending, ?_⟩
    · generalize task.handle.held = first, later.handle.held = second at moves
      cases moves with
      | kept | opened | wrote => exact unreplaced
      | moved commit => exact absurd (pending.symm.trans commit) (by decide)
    · generalize task.handle.held = first, later.handle.held = second at moves
      intro holds same
      cases moves with
      | kept _ refused => exact absurd says_ok (refused (.inl pending))
      | opened =>
        cases same
        rfl
      | wrote write => exact absurd (pending.symm.trans write) (by decide)
      | moved commit => exact absurd (pending.symm.trans commit) (by decide)
  | stating =>
    rw [point] at pending
    have reads : work.type ∈ readTypes := by
      rw [pending.1]
      decide
    exact absurd rfl (readTypes_other reads typed)
  | writing | checkingWrite | committing | checkingCommit =>
    rw [point] at quiet
    contradiction
  | _ => trivial

theorem UploadSound.deliverWrite {index serial : Nat} {answers : Answers} (sound : UploadSound setup world)
    (found : world.requests[index]? = some (serial, work)) (typed : work.type ∈ writeTypes)
    (apart : work.type = FileType.writeOpen → opensApart setup.config world.task.tree work answers = true) :
    UploadSound setup ({ world with requests := world.requests.eraseIdx index }.handle setup serial work answers) := by
  have member := List.mem_of_getElem? found
  have standing := sound.standing _ member
  have step : TransferStep setup.config setup.sha256 world.task work answers
      (processWork setup.config setup.sha256 world.task work answers).1
      (processWork setup.config setup.sha256 world.task work answers).2 := processWork_step typed
  have noted := noteReplaced_noted step sound.noted
  have receipt := step.receipt sound.side
  obtain ⟨side, moves⟩ := step.held sound.side
    (fun opens request asked => openPayload_opens (standing.opens opens).1 asked) standing.session
    (fun opens => (sound.lone _ member opens).2) apart
  have fresh : world.task.handle.held ≠ none → world.replaced = none := by
    intro some_held
    obtain ⟨holds, same⟩ := Option.ne_none_iff_exists'.mp some_held
    exact sound.side.unreplaced (held_some same).1
  rw [handle_eq]
  generalize noteReplaced setup.sha256 world.task work answers world.replaced = replaced at side moves noted receipt ⊢
  generalize (processWork setup.config setup.sha256 world.task work answers).1 = later at side moves receipt step ⊢
  generalize (processWork setup.config setup.sha256 world.task work answers).2 = completion at moves noted receipt step ⊢
  cases lives : live world.uploader.point with
  | true =>
    have progress := Progress.of_step moves standing sound.held lives
    refine sound.respond found side noted (progress.phase sound.phase) (progress.heldSound sound.held) ?_ ?_ ?_
    · intro _
      rcases receipt with ⟨same, _⟩ | told
      · rw [same]
        exact fun valid state => progress.stays (sound.told lives valid state)
      · exact told
    · exact fun _ entry _ valid => progress.valid lives valid
    · intro pending _
      exact progress.answer lives typed pending (sound.hashed_bounded lives)
  | false =>
    refine sound.respond found side noted (sound.phase.idle lives moves fresh) ?_ ?_ ?_ ?_
    · exact fun still => absurd (lives.symm.trans still) Bool.false_ne_true
    · exact fun still => absurd (lives.symm.trans still) Bool.false_ne_true
    · intro started entry _ valid
      unfold Valid at valid ⊢
      cases point : world.uploader.point with
      | opening => exact absurd point started
      | writing | checkingWrite | committing | checkingCommit =>
        rw [point] at lives
        contradiction
      | _ =>
        rw [point] at valid
        exact valid
    · intro pending alone
      refine HeldStep.answer_idle lives typed pending (fun opening => ⟨alone opening, ?_⟩) ?_ moves
      · exact (sound.lone _ member (standing.first opening)).2
      · intro says_ok opens
        rcases receipt with ⟨_, refused⟩ | told
        · exact absurd says_ok (refused opens)
        · exact told

end EspIris.Link
