import EspIris.Link.Upload

/-! What holds of an upload at each `await`: the data that the device holds is what the gateway's digest
took, with or without the part that is under way. The coroutine keeps it with every step. -/

namespace EspIris.Link
open Device.Files Gateway.Upload Bytes Codec.Device
variable {result : Uploader × Option FileRequest} {completion : FileCompletion} {part : List UInt8}

section upload
variable (setup : UploadSetup)

def askedOf : Asked where
  sessionId := setup.sessionId
  target := uploadTarget setup.config setup.request
  expected := setup.request.totalSize

def partOf : Point → List UInt8
  | .writing part _ => part
  | .checkingWrite part _ _ => part
  | _ => []

def live : Point → Bool
  | .choosing | .writing _ _ | .checkingWrite _ _ _ | .committing _ | .checkingCommit _ => true
  | _ => false

def atCommit : Point → Bool
  | .committing _ | .checkingCommit _ => true
  | _ => false

structure Sending (uploader : Uploader) (source part : List UInt8) (replaced : Option Node) : Prop where
  committed : uploader.committed = uploader.hashed.length
  source : source = uploader.hashed ++ part ++ uploader.rest
  fits : (uploader.hashed ++ part ++ uploader.rest).length ≤ setup.request.totalSize
  chunk : uploader.chunkMax ≠ 0
  unreplaced : replaced = none

structure Committing (uploader : Uploader) (source : List UInt8) (replaced : Option Node) : Prop where
  committed : uploader.committed = uploader.hashed.length
  source : source = uploader.hashed
  complete : uploader.hashed.length = setup.request.totalSize
  replaced : replaced = none ∨ replaced = some (.regular uploader.hashed)

structure Committed (uploader : Uploader) (source : List UInt8) (replaced : Option Node) : Prop where
  source : source = uploader.hashed
  complete : uploader.hashed.length = setup.request.totalSize
  replaced : replaced = some (.regular uploader.hashed)

/-- What the coroutine's variables mean at each `await`. -/
def PhaseSound (uploader : Uploader) (source : List UInt8) (replaced : Option Node) : Prop :=
  match uploader.point with
  | .opening => uploader.hashed = [] ∧ uploader.committed = 0 ∧ uploader.rest = [] ∧ source = []
  | .choosing => Sending setup uploader source [] replaced
  | .writing part _ | .checkingWrite part _ _ => part ≠ [] ∧ Sending setup uploader source part replaced
  | .committing _ | .checkingCommit _ => Committing setup uploader source replaced
  | .stating => Committed setup uploader source replaced
  | .succeeded result => Committed setup uploader source replaced ∧
      result.metadata.size = uploader.hashed.length ∧ result.sha256 = setup.sha256 uploader.hashed
  | .aborting | .failed => True

def HeldSound (uploader : Uploader) (held : Option Held) : Prop :=
  live uploader.point = true → ∀ holds, held = some holds → holds.streamId = uploader.streamId ∧
    (holds.data = uploader.hashed ∨ holds.data = uploader.hashed ++ partOf uploader.point)

def CarriesPart (uploader : Uploader) (work : FileWork) : Prop :=
  field work.payload 0 8 = uploader.hashed.length ∧ work.payload.drop 12 = partOf uploader.point ∧
    partOf uploader.point ≠ []

structure Standing (uploader : Uploader) (work : FileWork) : Prop where
  session : work.sessionId = setup.sessionId
  typed : work.type ∈ writeTypes ∨ work.type ∈ readTypes
  first : uploader.point = .opening → work.type = FileType.writeOpen
  opens : work.type = FileType.writeOpen → openPayload setup.request = some work.payload ∧
    (uploader.point = .opening ∨ uploader.point = .failed)
  write : live uploader.point = true → work.type = FileType.write →
    field work.payload 0 8 < uploader.hashed.length ∨ CarriesPart uploader work
  commit : live uploader.point = true → work.type = FileType.commit →
    atCommit uploader.point = true ∧ work.payload = setup.sha256 uploader.hashed
  abort : live uploader.point = true → work.type ≠ FileType.abort

def Pending (uploader : Uploader) (work : FileWork) : Prop :=
  match uploader.point with
  | .opening => work.type = FileType.writeOpen
  | .writing _ _ => work.type = FileType.write ∧ CarriesPart uploader work
  | .checkingWrite _ _ _ | .checkingCommit _ =>
    work.type = FileType.writeStatus ∧ work.streamId = uploader.streamId ∧ work.payload = []
  | .committing _ => work.type = FileType.commit
  | .stating => work.type = FileType.statRequest ∧
      pathPayload setup.request.volume setup.request.path = some work.payload
  | _ => True

def Valid (uploader : Uploader) (task : FileTask) (replaced : Option Node) (requests : List (Nat × FileWork))
    (completion : FileCompletion) : Prop :=
  match uploader.point with
  | .opening => completion.status = FileStatus.ok.code → requests = [] ∧ replaced = none ∧
      ReceiptSound replaced task.receipt ∧
        ∀ holds, task.handle.held = some holds → holds = { streamId := completion.streamId, data := [] }
  | .writing part _ => completion.status = FileStatus.ok.code →
      ∀ holds, task.handle.held = some holds → holds.data = uploader.hashed ++ part
  | .checkingWrite part _ _ => completion.status = FileStatus.ok.code →
      field completion.payload 4 8 = uploader.hashed.length + part.length →
        ∀ holds, task.handle.held = some holds → holds.data = uploader.hashed ++ part
  | .committing _ => completion.status = FileStatus.ok.code →
      replaced = some (.regular uploader.hashed) ∧ field completion.payload 8 8 = uploader.hashed.length
  | .checkingCommit _ => byteAt completion.payload 20 = 2 → replaced = some (.regular uploader.hashed)
  | .stating => completion.status = FileStatus.ok.code → field completion.payload 8 8 = uploader.hashed.length
  | _ => True

structure UploadSound (world : UploadWorld) : Prop where
  request : world.uploader.request = setup.request
  bounded : world.uploader.point ≠ .failed → setup.request.totalSize < 2 ^ 63
  side : UploadSide (askedOf setup) world.original world.task world.replaced
  noted : world.replaced ≠ none → world.reported = true ∨ world.unseen = true
  phase : PhaseSound setup world.uploader world.source world.replaced
  held : HeldSound world.uploader world.task.handle.held
  told : live world.uploader.point = true → ReceiptSound world.replaced world.task.receipt
  standing : ∀ entry ∈ world.requests, Standing setup world.uploader entry.2
  pending : ∀ entry ∈ world.requests, entry.1 < world.serial ∧
    (world.waiting = some entry.1 → Pending setup world.uploader entry.2)
  valid : ∀ entry ∈ world.responses, entry.1 < world.serial ∧ (world.waiting = some entry.1 →
    Valid world.uploader world.task world.replaced world.requests entry.2)
  alone : world.uploader.point = .opening → world.requests.length + world.responses.length ≤ 1
  lone : ∀ entry ∈ world.requests, entry.2.type = FileType.writeOpen →
    world.requests.length = 1 ∧ world.replaced = none

end upload

variable {setup : UploadSetup} {world : UploadWorld} {before after : Uploader} {work : FileWork}

section standing
variable (standing : Standing setup before work)
include standing

theorem Standing.quit (quits : live after.point = false) (left : after.point ≠ .opening)
    (fails : before.point = .opening ∨ before.point = .failed → after.point = .failed) :
    Standing setup after work where
  session := standing.session
  typed := standing.typed
  first := fun opening => absurd opening left
  opens := fun typed =>
    let ⟨payload, point⟩ := standing.opens typed
    ⟨payload, .inr (fails point)⟩
  write := fun lives => absurd (quits.symm.trans lives) Bool.false_ne_true
  commit := fun lives => absurd (quits.symm.trans lives) Bool.false_ne_true
  abort := fun lives => absurd (quits.symm.trans lives) Bool.false_ne_true

theorem Standing.not_open (lives : live before.point = true) :
    work.type ≠ FileType.writeOpen := by
  intro typed
  rcases (standing.opens typed).2 with point | point
  · rw [point] at lives
    contradiction
  · rw [point] at lives
    contradiction

theorem Standing.keep (lives : live before.point = true) (left : after.point ≠ .opening)
    (hashed : after.hashed = before.hashed) (part : partOf before.point = [] ∨ partOf after.point = partOf before.point)
    (commits : atCommit before.point = true → atCommit after.point = true) :
    Standing setup after work where
  session := standing.session
  typed := standing.typed
  first := fun opening => absurd opening left
  opens := fun typed => absurd typed (standing.not_open lives)
  write := fun _ typed => by
    rw [hashed]
    rcases standing.write lives typed with stale | ⟨offset, data, some_part⟩
    · exact .inl stale
    · have same := part.resolve_left some_part
      exact .inr ⟨hashed ▸ offset, same ▸ data, same ▸ some_part⟩
  commit := fun _ typed =>
    let ⟨point, payload⟩ := standing.commit lives typed
    ⟨commits point, hashed ▸ payload⟩
  abort := fun _ => standing.abort lives

theorem Standing.acknowledge (lives : live before.point = true) (commits : atCommit before.point = false)
    (some_part : part ≠ []) (left : after.point ≠ .opening) (hashed : after.hashed = before.hashed ++ part) :
    Standing setup after work where
  session := standing.session
  typed := standing.typed
  first := fun opening => absurd opening left
  opens := fun typed => absurd typed (standing.not_open lives)
  write := fun _ typed => by
    have grown := List.length_pos_iff.mpr some_part
    left
    rw [hashed, List.length_append]
    rcases standing.write lives typed with stale | ⟨offset, _⟩
    · omega
    · omega
  commit := fun _ typed => absurd (commits.symm.trans (standing.commit lives typed).1) Bool.false_ne_true
  abort := fun _ => standing.abort lives

end standing

section sound
variable (sound : UploadSound setup world)
include sound

theorem UploadSound.take {result : Uploader × Option FileRequest} {source : List UInt8}
 (request : result.1.request = setup.request)
    (bounded : result.1.point ≠ .failed → setup.request.totalSize < 2 ^ 63)
    (phase : PhaseSound setup result.1 source world.replaced)
    (held : HeldSound result.1 world.task.handle.held)
    (told : live result.1.point = true → ReceiptSound world.replaced world.task.receipt)
    (standing : ∀ entry ∈ world.requests, Standing setup result.1 entry.2)
    (sends : ∀ sent, result.2 = some sent → result.1.point ≠ .failed ∧ ∀ serial,
      Standing setup result.1 (workFor setup.sessionId serial sent) ∧
        Pending setup result.1 (workFor setup.sessionId serial sent))
    (left : result.1.point ≠ .opening) :
    UploadSound setup { world.take setup result with source } := by
  obtain ⟨after, sent⟩ := result
  cases sent with
  | none =>
    have idle : ∀ serial, (none : Option Nat) ≠ some serial := nofun
    exact
      { request, bounded, phase, held, told, standing
        side := sound.side
        noted := sound.noted
        pending := fun entry member => ⟨(sound.pending entry member).1, fun waits => absurd waits (idle _)⟩
        valid := fun entry member => ⟨(sound.valid entry member).1, fun waits => absurd waits (idle _)⟩
        alone := fun opening => absurd opening left
        lone := sound.lone }
  | some sent =>
    obtain ⟨runs, goes⟩ := sends sent rfl
    have all : ∀ entry ∈ world.requests ++ [(world.serial, workFor setup.sessionId world.serial sent)],
        Standing setup after entry.2 := by
      intro entry member
      rcases List.mem_append.mp member with old | new
      · exact standing entry old
      · cases List.mem_singleton.mp new
        exact (goes world.serial).1
    refine
      { request, bounded, phase, held, told
        side := sound.side
        noted := sound.noted
        standing := all
        pending := fun entry member => ?_
        valid := fun entry member => ?_
        alone := fun opening => absurd opening left
        lone := fun entry member opens => ?_ }
    · rcases List.mem_append.mp member with old | new
      · have earlier := (sound.pending entry old).1
        refine ⟨Nat.lt_succ_of_lt earlier, fun waits => ?_⟩
        exact absurd (Option.some.inj waits) (Nat.ne_of_gt earlier)
      · cases List.mem_singleton.mp new
        exact ⟨Nat.lt_succ_self _, fun _ => (goes world.serial).2⟩
    · have earlier := (sound.valid entry member).1
      refine ⟨Nat.lt_succ_of_lt earlier, fun waits => ?_⟩
      exact absurd (Option.some.inj waits) (Nat.ne_of_gt earlier)
    · rcases ((all entry member).opens opens).2 with opening | failed
      · exact absurd opening left
      · exact absurd failed runs

theorem UploadSound.not_failed (lives : live world.uploader.point = true) :
    setup.request.totalSize < 2 ^ 63 := by
  apply sound.bounded
  intro failed
  rw [failed] at lives
  contradiction

theorem UploadSound.hashed_bounded (lives : live world.uploader.point = true) :
    world.uploader.hashed.length < 2 ^ 64 := by
  have bounded := sound.not_failed lives
  have phase := sound.phase
  unfold PhaseSound at phase
  cases point : world.uploader.point with
  | choosing =>
    rw [point] at phase
    have fits := phase.fits
    rw [List.append_assoc, List.length_append] at fits
    omega
  | writing | checkingWrite =>
    rw [point] at phase
    have fits := phase.2.fits
    rw [List.append_assoc, List.length_append] at fits
    omega
  | committing | checkingCommit =>
    rw [point] at phase
    have complete := phase.complete
    omega
  | _ =>
    rw [point] at lives
    contradiction

theorem UploadSound.quit {result : Uploader × Option FileRequest} {source : List UInt8}
 (quits : live result.1.point = false) (left : result.1.point ≠ .opening)
    (request : result.1.request = world.uploader.request)
    (fails : world.uploader.point = .opening ∨ world.uploader.point = .failed → result.1.point = .failed)
    (phase : PhaseSound setup result.1 source world.replaced)
    (sends : ∀ sent, result.2 = some sent → result.1.point ≠ .failed ∧
      (sent.type ∈ readTypes ∨ sent.type = FileType.abort) ∧
        ∀ serial, Pending setup result.1 (workFor setup.sessionId serial sent)) :
    UploadSound setup { world.take setup result with source } := by
  apply sound.take (request.trans sound.request) ?_ phase ?_ ?_ ?_ ?_ left
  · intro running
    apply sound.bounded
    exact fun failed => running (fails (.inr failed))
  · exact fun lives => absurd (quits.symm.trans lives) Bool.false_ne_true
  · exact fun lives => absurd (quits.symm.trans lives) Bool.false_ne_true
  · exact fun entry member => (sound.standing entry member).quit quits left fails
  · intro sent sends_it
    obtain ⟨runs, kind, pending⟩ := sends sent sends_it
    refine ⟨runs, fun serial => ⟨?_, pending serial⟩⟩
    have typed : sent.type ∈ writeTypes ∨ sent.type ∈ readTypes := by
      rcases kind with reads | aborts
      · exact .inr reads
      · exact .inl (by rw [aborts]; decide)
    have notOpen : sent.type ≠ FileType.writeOpen := by
      rintro same
      rw [same] at kind
      exact absurd kind (by decide)
    exact
      { session := rfl
        typed
        first := fun opening => absurd opening left
        opens := fun same => absurd same notOpen
        write := fun lives => absurd (quits.symm.trans lives) Bool.false_ne_true
        commit := fun lives => absurd (quits.symm.trans lives) Bool.false_ne_true
        abort := fun lives => absurd (quits.symm.trans lives) Bool.false_ne_true }

theorem UploadSound.abort (lives : live world.uploader.point = true) (source : List UInt8) :
    UploadSound setup { world.take setup world.uploader.abort with source } := by
  have idle : PhaseSound setup world.uploader.abort.1 source world.replaced := trivial
  apply sound.quit rfl Point.noConfusion rfl ?_ idle
  · rintro _ ⟨⟩
    exact ⟨Point.noConfusion, .inr rfl, fun _ => trivial⟩
  · rintro (point | point)
    · rw [point] at lives
      contradiction
    · rw [point] at lives
      contradiction

theorem UploadSound.fail (source : List UInt8) :
    UploadSound setup { world.take setup (world.uploader.stop .failed) with source } :=
  have idle : PhaseSound setup (world.uploader.stop .failed).1 source world.replaced := trivial
  sound.quit rfl Point.noConfusion rfl (fun _ => rfl) idle nofun

theorem UploadSound.send {after : Uploader} {sent : FileRequest} (lives : live world.uploader.point = true)
    (still : live after.point = true) (request : after.request = world.uploader.request)
    (hashed : after.hashed = world.uploader.hashed) (stream : after.streamId = world.uploader.streamId)
    (part : partOf world.uploader.point = [] ∨ partOf after.point = partOf world.uploader.point)
    (commits : atCommit world.uploader.point = true → atCommit after.point = true)
    (phase : PhaseSound setup after world.source world.replaced)
    (standing : ∀ serial, Standing setup after (workFor setup.sessionId serial sent))
    (pending : ∀ serial, Pending setup after (workFor setup.sessionId serial sent)) :
    UploadSound setup (world.take setup (after, some sent)) := by
  have left : after.point ≠ .opening := by
    intro opening
    rw [opening] at still
    contradiction
  refine @UploadSound.take _ _ sound (after, some sent) world.source (request.trans sound.request)
    (fun _ => sound.not_failed lives) phase ?_ (fun _ => sound.told lives) ?_ ?_ left
  · intro _ holds same
    obtain ⟨named, data⟩ := sound.held lives holds same
    refine ⟨named.trans stream.symm, ?_⟩
    rw [hashed]
    rcases part with none | same
    · rw [none, List.append_nil] at data
      exact .inl (data.elim id id)
    · rwa [same]
  · exact fun entry member => (sound.standing entry member).keep lives left hashed part commits
  · rintro _ ⟨⟩
    refine ⟨fun failed => ?_, fun serial => ⟨standing serial, pending serial⟩⟩
    rw [failed] at still
    contradiction

theorem UploadSound.acknowledge (lives : live world.uploader.point = true)
    (commits : atCommit world.uploader.point = false) (some_part : part ≠ [])
    (sending : Sending setup world.uploader world.source part world.replaced)
    (taken : ∀ holds, world.task.handle.held = some holds → holds.data = world.uploader.hashed ++ part) :
    UploadSound setup (world.take setup (world.uploader.acknowledge part)) := by
  refine @UploadSound.take _ _ sound (world.uploader.acknowledge part) world.source sound.request
    (fun _ => sound.not_failed lives) ?_ ?_ (fun _ => sound.told lives) ?_ nofun Point.noConfusion
  · show Sending setup _ world.source [] world.replaced
    constructor
    case committed =>
      show world.uploader.committed + part.length = (world.uploader.hashed ++ part).length
      rw [sending.committed, List.length_append]
    case source => simpa [Uploader.acknowledge] using sending.source
    case fits => simpa [Uploader.acknowledge] using sending.fits
    case chunk => exact sending.chunk
    case unreplaced => exact sending.unreplaced
  · intro _ holds same
    exact ⟨(sound.held lives holds same).1, .inl (taken holds same)⟩
  · exact fun entry member => (sound.standing entry member).acknowledge lives commits some_part Point.noConfusion rfl

end sound

theorem readTypes_other (typed : work.type ∈ readTypes) {type : UInt8} (member : type ∈ writeTypes) :
    work.type ≠ type := by
  have apart : (readTypes.all fun read => decide (read ∉ writeTypes)) = true := by decide
  have absent := of_decide_eq_true (List.all_eq_true.mp apart work.type typed)
  exact fun same => absent (same ▸ member)

theorem Standing.reads (session : work.sessionId = setup.sessionId) (typed : work.type ∈ readTypes)
    (left : after.point ≠ .opening) : Standing setup after work := by
  have other : ∀ type ∈ writeTypes, work.type ≠ type := fun _ => readTypes_other typed
  exact
    { session
      typed := .inr typed
      first := fun opening => absurd opening left
      opens := fun same => absurd same (other _ (by decide))
      write := fun _ same => absurd same (other _ (by decide))
      commit := fun _ same => absurd same (other _ (by decide))
      abort := fun _ => other _ (by decide) }

theorem Standing.commits (session : work.sessionId = setup.sessionId) (typed : work.type = FileType.commit)
    (point : atCommit after.point = true) (left : after.point ≠ .opening)
    (payload : work.payload = setup.sha256 after.hashed) : Standing setup after work where
  session := session
  typed := .inl (by rw [typed]; decide)
  first := fun opening => absurd opening left
  opens := fun same => absurd (typed.symm.trans same) (by decide)
  write := fun _ same => absurd (typed.symm.trans same) (by decide)
  commit := fun _ _ => ⟨point, payload⟩
  abort := fun _ => by
    rw [typed]
    decide

theorem Standing.writes (session : work.sessionId = setup.sessionId) (typed : work.type = FileType.write)
    (carries : CarriesPart after work) (left : after.point ≠ .opening) : Standing setup after work where
  session := session
  typed := .inl (by rw [typed]; decide)
  first := fun opening => absurd opening left
  opens := fun same => absurd (typed.symm.trans same) (by decide)
  write := fun _ _ => .inr carries
  commit := fun _ same => absurd (typed.symm.trans same) (by decide)
  abort := fun _ => by
    rw [typed]
    decide

theorem Sending.carries {uploader : Uploader} {source part : List UInt8} {replaced : Option Node} {attempt : Nat}
    (sending : Sending setup uploader source part replaced) (some_part : part ≠ [])
    (bounded : setup.request.totalSize < 2 ^ 63) (serial : Nat) (sent : FileRequest)
    (sends : (uploader.sendPart part attempt).2 = some sent) :
    CarriesPart (uploader.sendPart part attempt).1 (workFor setup.sessionId serial sent) := by
  cases sends
  have fits := sending.fits
  rw [List.length_append, List.length_append, ← sending.committed] at fits
  refine ⟨?_, ?_, some_part⟩
  · show field (packUint 8 uploader.committed ++ packUint 2 part.length ++ packUint 2 0 ++ part) 0 8 =
      uploader.hashed.length
    rw [← sending.committed, List.append_assoc, List.append_assoc]
    exact field_littleEndian 8 _ _ (by omega)
  · exact List.drop_left' (by simp [packUint])

theorem UploadSound.askStatus {point : Point} (sound : UploadSound setup world)
    (lives : live world.uploader.point = true) (still : live point = true)
    (part : partOf point = partOf world.uploader.point)
    (commits : atCommit world.uploader.point = true → atCommit point = true)
    (phase : PhaseSound setup (world.uploader.askStatus point).1 world.source world.replaced)
    (pending : ∀ serial sent, (world.uploader.askStatus point).2 = some sent →
      Pending setup (world.uploader.askStatus point).1 (workFor setup.sessionId serial sent)) :
    UploadSound setup (world.take setup (world.uploader.askStatus point)) := by
  have left : point ≠ .opening := by
    rintro rfl
    contradiction
  exact sound.send lives still rfl rfl rfl (.inr part) commits phase
    (fun serial => .reads rfl (show FileType.writeStatus ∈ readTypes by decide) left) (fun serial => pending serial _ rfl)

theorem UploadSound.sendPart {part rest : List UInt8} {attempt : Nat} (sound : UploadSound setup world)
    (lives : live world.uploader.point = true) (some_part : part ≠ [])
    (same : partOf world.uploader.point = [] ∨ part = partOf world.uploader.point)
    (early : atCommit world.uploader.point = false)
    (sending : Sending setup { world.uploader with rest } world.source part world.replaced) :
    UploadSound setup (world.take setup ({ world.uploader with rest }.sendPart part attempt)) := by
  have carries := fun serial => @Sending.carries _ _ _ _ _ attempt sending some_part (sound.not_failed lives) serial _ rfl
  refine sound.send lives rfl rfl rfl rfl same (fun commits => ?_) ⟨some_part, ?_⟩
    (fun serial => .writes rfl rfl (carries serial) Point.noConfusion) (fun serial => ⟨rfl, carries serial⟩)
  · exact absurd (early.symm.trans commits) Bool.false_ne_true
  · exact ⟨sending.committed, sending.source, sending.fits, sending.chunk, sending.unreplaced⟩

theorem UploadSound.commit {again : Bool} (sound : UploadSound setup world)
    (lives : live world.uploader.point = true) (part : partOf world.uploader.point = [])
    (committing : Committing setup world.uploader world.source world.replaced) :
    UploadSound setup (world.take setup (world.uploader.commit setup.sha256 again)) := by
  refine sound.send lives rfl rfl rfl rfl (.inl part) (fun _ => rfl) ?_
    (fun serial => .commits rfl rfl rfl Point.noConfusion rfl) (fun serial => rfl)
  exact ⟨committing.committed, committing.source, committing.complete, committing.replaced⟩

theorem live_iff {point : Point} (lives : live point = true) : point ≠ .opening ∧ point ≠ .failed := by
  constructor
  · rintro rfl
    contradiction
  · rintro rfl
    contradiction

theorem UploadSound.timeout (sound : UploadSound setup world) (goes : world.uploader.onTimeout = some result) :
    UploadSound setup { world.take setup result with source := world.source } := by
  have phase := sound.phase
  unfold PhaseSound at phase
  unfold Uploader.onTimeout at goes
  cases point : world.uploader.point with
  | opening | stating | aborting =>
    rw [point] at goes
    cases goes
    exact sound.fail world.source
  | choosing | succeeded | failed =>
    rw [point] at goes
    contradiction
  | writing part attempt =>
    rw [point] at goes phase
    cases goes
    have lives : live world.uploader.point = true := by rw [point]; rfl
    have waits : partOf (.checkingWrite part attempt 0) = partOf world.uploader.point := by rw [point]; rfl
    have early : atCommit world.uploader.point = true → atCommit (.checkingWrite part attempt 0) = true := by
      rw [point]
      exact id
    refine sound.askStatus lives rfl waits early ⟨phase.1, ?_⟩ ?_
    · exact ⟨phase.2.committed, phase.2.source, phase.2.fits, phase.2.chunk, phase.2.unreplaced⟩
    · rintro serial _ ⟨⟩
      exact ⟨rfl, rfl, rfl⟩
  | committing again =>
    rw [point] at goes phase
    have lives : live world.uploader.point = true := by rw [point]; rfl
    cases again with
    | true =>
      cases goes
      exact sound.abort lives world.source
    | false =>
      cases goes
      have waits : partOf (.checkingCommit 0) = partOf world.uploader.point := by rw [point]; rfl
      refine sound.askStatus lives rfl waits (fun _ => rfl) ?_ ?_
      · exact ⟨phase.committed, phase.source, phase.complete, phase.replaced⟩
      · rintro serial _ ⟨⟩
        exact ⟨rfl, rfl, rfl⟩
  | checkingWrite | checkingCommit =>
    rw [point] at goes
    cases goes
    exact sound.abort (by rw [point]; rfl) world.source

theorem UploadSound.raise (sound : UploadSound setup world) (goes : world.uploader.onRaise = some result) :
    UploadSound setup { world.take setup result with source := world.source } := by
  unfold Uploader.onRaise at goes
  cases point : world.uploader.point with
  | opening | stating | aborting =>
    rw [point] at goes
    cases goes
    exact sound.fail world.source
  | succeeded | failed =>
    rw [point] at goes
    contradiction
  | choosing | writing | checkingWrite | committing | checkingCommit =>
    rw [point] at goes
    cases goes
    exact sound.abort (by rw [point]; rfl) world.source

theorem UploadSound.chunk {data : List UInt8} (sound : UploadSound setup world)
    (point : world.uploader.point = .choosing) (empty : world.uploader.rest = [])
    (fits : world.uploader.committed + data.length ≤ setup.request.totalSize) :
    UploadSound setup
      { world.take setup ({ world.uploader with rest := data }, none) with source := world.source ++ data } := by
  have lives : live world.uploader.point = true := by rw [point]; rfl
  have phase := sound.phase
  unfold PhaseSound at phase
  rw [point] at phase
  refine @UploadSound.take _ _ sound ({ world.uploader with rest := data }, none) (world.source ++ data) sound.request
    (fun _ => sound.not_failed lives) ?_ ?_ (fun _ => sound.told lives) ?_ nofun (live_iff lives).1
  · unfold PhaseSound
    dsimp only
    rw [point]
    constructor
    case committed => exact phase.committed
    case source =>
      show world.source ++ data = world.uploader.hashed ++ [] ++ data
      rw [phase.source, empty, List.append_nil, List.append_nil]
    case fits =>
      show (world.uploader.hashed ++ [] ++ data).length ≤ _
      rw [List.append_nil, List.length_append, ← phase.committed]
      exact fits
    case chunk => exact phase.chunk
    case unreplaced => exact phase.unreplaced
  · exact sound.held
  · intro entry member
    exact (sound.standing entry member).keep lives (live_iff lives).1 rfl (.inr rfl) id

theorem UploadSound.act {event : UploadEvent} (sound : UploadSound setup world)
    (unanswered : ∀ frame, event ≠ .answer frame) (goes : world.uploader.next setup.sha256 event = some result) :
    UploadSound setup { world.take setup result with source := givenAfter world.source event } := by
  have phase := sound.phase
  unfold PhaseSound at phase
  cases event with
  | answer frame => exact absurd rfl (unanswered frame)
  | timeout => exact sound.timeout goes
  | raise => exact sound.raise goes
  | chunk data =>
    unfold Uploader.next at goes
    dsimp only at goes
    split at goes
    next => contradiction
    next waits =>
      simp only [not_or, not_not] at waits
      split at goes
      next =>
        cases goes
        exact sound.abort (by rw [waits.1]; rfl) _
      next fits =>
        cases goes
        rw [sound.request, not_lt] at fits
        exact sound.chunk waits.1 waits.2 fits
  | ended =>
    unfold Uploader.next at goes
    dsimp only at goes
    split at goes
    next => contradiction
    next waits =>
      simp only [not_or, not_not] at waits
      rw [waits.1] at phase
      have lives : live world.uploader.point = true := by rw [waits.1]; rfl
      split at goes
      next =>
        cases goes
        exact sound.abort lives _
      next complete =>
        cases goes
        rw [sound.request, not_not] at complete
        refine sound.commit lives (by rw [waits.1]; rfl) ⟨phase.committed, ?_, ?_, .inl phase.unreplaced⟩
        · rw [phase.source, waits.2, List.append_nil, List.append_nil]
        · rw [← phase.committed, complete]
  | proceed =>
    unfold Uploader.next at goes
    dsimp only at goes
    split at goes
    next => contradiction
    next waits =>
      simp only [not_or, not_not] at waits
      cases goes
      rw [waits.1] at phase
      have whole : world.uploader.rest.take world.uploader.chunkMax ++
          world.uploader.rest.drop world.uploader.chunkMax = world.uploader.rest := List.take_append_drop _ _
      have same : world.uploader.hashed ++ world.uploader.rest.take world.uploader.chunkMax ++
          world.uploader.rest.drop world.uploader.chunkMax = world.uploader.hashed ++ [] ++ world.uploader.rest := by
        rw [List.append_assoc, whole, List.append_nil]
      refine sound.sendPart (by rw [waits.1]; rfl) ?_ (.inl (by rw [waits.1]; rfl)) (by rw [waits.1]; rfl) ?_
      · intro none
        rcases List.take_eq_nil_iff.mp none with zero | empty
        · exact phase.chunk zero
        · exact waits.2 empty
      · exact ⟨phase.committed, phase.source.trans same.symm, by rw [same]; exact phase.fits, phase.chunk,
          phase.unreplaced⟩

theorem frameOf_ok (says_ok : field (frameOf completion).payload 0 2 = 0) :
    completion.status = FileStatus.ok.code := by
  apply UInt16.toNat_inj.mp
  rw [FileCompletion.status, irisGetLe16_toNat]
  exact says_ok

section sound
variable (sound : UploadSound setup world)
include sound

theorem UploadSound.complete {payload : List UInt8}
    (started : world.uploader.point ≠ .opening ∧ world.uploader.point ≠ .failed)
    (done : Committed setup world.uploader world.source world.replaced)
    (size : field payload 8 8 = world.uploader.hashed.length) :
    UploadSound setup (world.take setup (world.uploader.complete setup.sha256 payload)) := by
  unfold Uploader.complete
  split
  next => exact sound.fail world.source
  next metadata described =>
    have fails : world.uploader.point = .opening ∨ world.uploader.point = .failed →
        (world.uploader.stop (.succeeded
          { metadata, sha256 := setup.sha256 world.uploader.hashed, replaced := world.uploader.request.overwrite })).1.point
            = .failed := by
      rintro (opening | failed)
      · exact absurd opening started.1
      · exact absurd failed started.2
    refine sound.quit rfl Point.noConfusion rfl fails ?_ nofun
    exact ⟨⟨done.source, done.complete, done.replaced⟩, (metadataOf_size described).trans size, rfl⟩

theorem UploadSound.opened {streamId : UInt32} {chunkMax : Nat} (point : world.uploader.point = .opening)
    (valid : Valid world.uploader world.task world.replaced world.requests completion)
    (stream : openedStream (frameOf completion) = .ok (streamId, chunkMax)) :
    UploadSound setup
      (world.take setup ({ world.uploader with point := .choosing, streamId, chunkMax }, none)) := by
  have phase := sound.phase
  unfold PhaseSound at phase
  rw [point] at phase
  obtain ⟨hashed, committed, rest, source⟩ := phase
  obtain ⟨says_ok, named, some_chunk⟩ := openedStream_ok stream
  unfold Valid at valid
  rw [point] at valid
  obtain ⟨alone, unreplaced, told, held⟩ := valid (frameOf_ok says_ok)
  refine @UploadSound.take _ _ sound ({ world.uploader with point := .choosing, streamId, chunkMax }, none) world.source
    sound.request (fun _ => sound.bounded (by rw [point]; exact Point.noConfusion)) ?_ ?_ (fun _ => told) ?_ nofun
    Point.noConfusion
  · constructor
    case committed => exact committed.trans (by rw [hashed]; rfl)
    case source => simp [hashed, rest, source]
    case fits => simp [hashed, rest]
    case chunk => exact some_chunk
    case unreplaced => exact unreplaced
  · intro _ holds same
    cases held holds same
    exact ⟨named, .inl hashed.symm⟩
  · intro entry member
    rw [alone] at member
    contradiction

theorem UploadSound.answeredWrite {attempt tries : Nat}
    (point : world.uploader.point = .checkingWrite part attempt tries)
    (valid : Valid world.uploader world.task world.replaced world.requests completion)
    (goes : world.uploader.onAnswer setup.sha256 (frameOf completion) = some result) :
    UploadSound setup (world.take setup result) := by
  have phase := sound.phase
  unfold PhaseSound at phase
  unfold Valid at valid
  rw [point] at phase valid
  obtain ⟨some_part, sending⟩ := phase
  have lives : live world.uploader.point = true := by rw [point]; rfl
  have early : atCommit world.uploader.point = false := by rw [point]; rfl
  have same : partOf world.uploader.point = part := by rw [point]; rfl
  unfold Uploader.onAnswer at goes
  rw [point] at goes
  dsimp only at goes
  split at goes
  next =>
    split at goes
    next =>
      cases goes
      exact sound.abort lives world.source
    cases goes
    refine sound.askStatus lives rfl same.symm (fun commits => absurd (early.symm.trans commits) Bool.false_ne_true)
      ⟨some_part, ?_⟩ ?_
    · exact ⟨sending.committed, sending.source, sending.fits, sending.chunk, sending.unreplaced⟩
    · rintro serial _ ⟨⟩
      exact ⟨rfl, rfl, rfl⟩
  next =>
    cases goes
    exact sound.abort lives world.source
  next status told =>
    obtain ⟨says_ok, committed, _⟩ := writeStatus_ok told
    split at goes
    next taken =>
      cases goes
      refine sound.acknowledge lives early some_part sending (valid (frameOf_ok says_ok) ?_)
      rw [← sending.committed, ← taken]
      exact committed.symm
    split at goes
    next =>
      cases goes
      exact sound.abort lives world.source
    cases goes
    exact sound.sendPart lives some_part (.inr same.symm) early sending

theorem UploadSound.answeredCommit {tries : Nat} (point : world.uploader.point = .checkingCommit tries)
    (valid : Valid world.uploader world.task world.replaced world.requests completion)
    (goes : world.uploader.onAnswer setup.sha256 (frameOf completion) = some result) :
    UploadSound setup (world.take setup result) := by
  have phase := sound.phase
  unfold PhaseSound at phase
  unfold Valid at valid
  rw [point] at phase valid
  have lives : live world.uploader.point = true := by rw [point]; rfl
  have empty : partOf world.uploader.point = [] := by rw [point]; rfl
  unfold Uploader.onAnswer at goes
  rw [point] at goes
  dsimp only at goes
  split at goes
  next =>
    split at goes
    next =>
      cases goes
      exact sound.abort lives world.source
    cases goes
    refine sound.askStatus lives rfl empty.symm (fun _ => rfl) ?_ ?_
    · exact ⟨phase.committed, phase.source, phase.complete, phase.replaced⟩
    · rintro serial _ ⟨⟩
      exact ⟨rfl, rfl, rfl⟩
  next =>
    cases goes
    exact sound.abort lives world.source
  next status told =>
    obtain ⟨_, _, state⟩ := writeStatus_ok told
    split at goes
    next committed =>
      split at goes
      next =>
        cases goes
        exact sound.fail world.source
      next payload named =>
        cases goes
        have replaced := valid (writeStateOf_committed (committed.1 ▸ state))
        have fails : world.uploader.point = .opening ∨ world.uploader.point = .failed → Point.stating = .failed := by
          rintro (opening | failed)
          · exact absurd opening (live_iff lives).1
          · exact absurd failed (live_iff lives).2
        refine @UploadSound.quit _ _ sound
          ({ world.uploader with point := .stating }, some { type := FileType.statRequest, streamId := 0, payload })
          world.source rfl Point.noConfusion rfl fails ⟨phase.source, phase.complete, replaced⟩ ?_
        rintro _ ⟨⟩
        refine ⟨Point.noConfusion, .inl (show FileType.statRequest ∈ readTypes by decide), fun serial => ⟨rfl, ?_⟩⟩
        rw [← sound.request]
        exact named
    split at goes
    next =>
      cases goes
      exact sound.abort lives world.source
    cases goes
    exact sound.commit lives empty phase

theorem UploadSound.answer (valid : Valid world.uploader world.task world.replaced world.requests completion)
    (goes : world.uploader.onAnswer setup.sha256 (frameOf completion) = some result) :
    UploadSound setup (world.take setup result) := by
  cases point : world.uploader.point with
  | opening =>
    unfold Uploader.onAnswer at goes
    rw [point] at goes
    dsimp only at goes
    split at goes
    next =>
      cases goes
      exact sound.fail world.source
    next stream =>
      cases goes
      exact sound.opened point valid stream
  | writing part attempt =>
    have phase := sound.phase
    unfold PhaseSound at phase
    unfold Valid at valid
    unfold Uploader.onAnswer at goes
    rw [point] at goes valid phase
    have lives : live world.uploader.point = true := by rw [point]; rfl
    dsimp only at goes
    split at goes
    next taken =>
      cases goes
      exact sound.acknowledge lives (by rw [point]; rfl) phase.1 phase.2 (valid (frameOf_ok (takesAck_ok taken)))
    cases goes
    exact sound.abort lives world.source
  | checkingWrite => exact sound.answeredWrite point valid goes
  | committing again =>
    have phase := sound.phase
    unfold PhaseSound at phase
    unfold Valid at valid
    unfold Uploader.onAnswer at goes
    rw [point] at goes valid phase
    have lives : live world.uploader.point = true := by rw [point]; rfl
    dsimp only at goes
    split at goes
    next =>
      cases goes
      exact sound.abort lives world.source
    next payload taken =>
      obtain ⟨rfl, says_ok⟩ := checked_ok taken
      obtain ⟨replaced, size⟩ := valid (frameOf_ok says_ok)
      split at goes
      next =>
        cases goes
        exact sound.abort lives world.source
      cases goes
      exact sound.complete (live_iff lives) ⟨phase.source, phase.complete, replaced⟩ size
  | checkingCommit => exact sound.answeredCommit point valid goes
  | stating =>
    have phase := sound.phase
    unfold PhaseSound at phase
    unfold Valid at valid
    unfold Uploader.onAnswer at goes
    rw [point] at goes valid phase
    dsimp only at goes
    split at goes
    next =>
      cases goes
      exact sound.fail world.source
    next payload taken =>
      obtain ⟨rfl, says_ok⟩ := checked_ok taken
      split at goes
      next =>
        cases goes
        exact sound.fail world.source
      cases goes
      have started : world.uploader.point ≠ .opening ∧ world.uploader.point ≠ .failed := by
        rw [point]
        exact ⟨Point.noConfusion, Point.noConfusion⟩
      exact sound.complete started phase (valid (frameOf_ok says_ok))
  | aborting =>
    unfold Uploader.onAnswer at goes
    rw [point] at goes
    cases goes
    exact sound.fail world.source
  | choosing | succeeded | failed =>
    unfold Uploader.onAnswer at goes
    rw [point] at goes
    contradiction

end sound

end EspIris.Link
