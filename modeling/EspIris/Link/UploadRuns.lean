import EspIris.Link.UploadAnswers

/-! An upload in every run: what its success and its failure mean. -/

namespace EspIris.Link
open Device.Files Gateway.Upload Bytes Codec.Device
open Machine (System Reachable Run Invariant)

variable {setup : UploadSetup} {world : UploadWorld}

theorem UploadSound.start (setup : UploadSetup) {task : FileTask} (idle : task.handle.kind ≠ .write) :
    UploadSound setup (startWorld setup task) := by
  have side : UploadSide (askedOf setup) (task.tree (uploadTarget setup.config setup.request)) task none :=
    .closed idle rfl
  unfold startWorld startUpload
  dsimp only
  cases opens : openPayload setup.request with
  | none =>
    exact
      { request := rfl
        bounded := fun running => absurd rfl running
        side
        noted := fun replaced => absurd rfl replaced
        phase := trivial
        held := fun lives => absurd lives Bool.false_ne_true
        told := fun lives => absurd lives Bool.false_ne_true
        standing := nofun
        pending := nofun
        valid := nofun
        alone := nofun
        lone := nofun }
  | some payload =>
    have bounded : setup.request.totalSize < 2 ^ 63 := by
      unfold openPayload at opens
      split at opens
      next => contradiction
      next bounded => omega
    refine
      { request := rfl
        bounded := fun _ => bounded
        side
        noted := fun replaced => absurd rfl replaced
        phase := ⟨rfl, rfl, rfl, rfl⟩
        held := fun lives => absurd lives Bool.false_ne_true
        told := fun lives => absurd lives Bool.false_ne_true
        standing := fun entry member => ?_
        pending := fun entry member => ?_
        valid := nofun
        alone := fun _ => Nat.le_refl 1
        lone := fun _ _ _ => ⟨rfl, rfl⟩ }
    · cases List.mem_singleton.mp member
      exact
        { session := rfl
          typed := .inl (show FileType.writeOpen ∈ writeTypes by decide)
          first := fun _ => rfl
          opens := fun _ => ⟨opens, .inl rfl⟩
          write := fun lives => absurd lives Bool.false_ne_true
          commit := fun lives => absurd lives Bool.false_ne_true
          abort := fun lives => absurd lives Bool.false_ne_true }
    · cases List.mem_singleton.mp member
      exact ⟨Nat.zero_lt_one, fun _ => rfl⟩

theorem UploadSound.receive {index : Nat} {after : UploadWorld} (sound : UploadSound setup world)
    (step : nextUpload setup world (.receive index) = some after) : UploadSound setup after := by
  unfold nextUpload at step
  dsimp only at step
  split at step
  next => contradiction
  next serial completion found =>
    have rest : UploadSound setup { world with responses := world.responses.eraseIdx index } :=
      sound.lose (List.Sublist.refl _) (List.eraseIdx_sublist _ _)
    split at step
    next waits =>
      obtain ⟨result, goes, taken⟩ := Option.map_eq_some_iff.mp step
      have valid := (sound.valid _ (List.mem_of_getElem? found)).2 waits
      rw [← taken]
      exact rest.answer valid goes
    cases step
    exact rest

theorem uploadSound_invariant (setup : UploadSetup) :
    Invariant ((uploadSystem setup).guarded (OpensApart setup)) (UploadSound setup) where
  start := by
    rintro world ⟨task, idle, rfl⟩
    exact .start setup idle
  step := by
    rintro before event after sound ⟨apart, step⟩
    have step : nextUpload setup before event = some after := step
    cases event with
    | act event =>
      cases event with
      | answer frame => contradiction
      | _ =>
        obtain ⟨result, goes, taken⟩ := Option.map_eq_some_iff.mp step
        rw [← taken]
        exact sound.act nofun goes
    | receive index => exact sound.receive step
    | deliver index answers =>
      obtain ⟨⟨serial, work⟩, found, handled⟩ := Option.map_eq_some_iff.mp step
      rw [← handled]
      rcases (sound.standing _ (List.mem_of_getElem? found)).typed with writes | reads
      · exact sound.deliverWrite found writes (apart _ found)
      · exact sound.deliverRead found reads
    | refuse index status =>
      unfold nextUpload at step
      dsimp only at step
      split at step
      next => contradiction
      next serial work found =>
        split at step
        next => contradiction
        next failed =>
          cases step
          exact sound.refuse found failed
    | loseRequest index =>
      cases step
      exact sound.lose (List.eraseIdx_sublist _ _) (List.Sublist.refl _)
    | loseResponse index =>
      cases step
      exact sound.lose (List.Sublist.refl _) (List.eraseIdx_sublist _ _)
    | foreign work answers =>
      unfold nextUpload at step
      dsimp only at step
      split at step
      next reads =>
        cases step
        exact sound.foreign reads
      next => contradiction
    | sessionEnd sessionId unlink =>
      cases step
      exact sound.endSession sessionId unlink
    | restart unlink =>
      cases step
      exact sound.restart unlink
    | change path node =>
      unfold nextUpload at step
      dsimp only at step
      split at step
      next => contradiction
      next apart =>
        cases step
        rw [not_or] at apart
        exact sound.settle (sound.side.change apart.1 apart.2 node) (.inl rfl) id

/-- An upload that succeeds has put exactly its source at the target and told its size and digest; one
that fails without a commit has left the target alone. -/
theorem upload_faithful (setup : UploadSetup) {world : UploadWorld}
    (reached : Reachable ((uploadSystem setup).guarded (OpensApart setup)) world) :
    (∀ result, world.uploader.point = .succeeded result → world.Delivered setup result) ∧
      (world.uploader.point = .failed → world.Preserved setup) := by
  have sound := (uploadSound_invariant setup).reachable reached
  have content := sound.side.content
  refine ⟨fun result point => ?_, fun _ uncommitted => ?_⟩
  · have phase := sound.phase
    unfold PhaseSound at phase
    rw [point] at phase
    obtain ⟨done, size, digest⟩ := phase
    rw [done.replaced] at content
    refine ⟨?_, ?_, ?_, ?_⟩
    · rw [done.source]
      exact content
    · rw [done.source, done.complete]
    · rw [done.source, size]
    · rw [done.source, digest]
  · have unreplaced : world.replaced = none := by
      rcases uncommitted with unreplaced | ⟨unreported, seen⟩
      · exact unreplaced
      · by_contra replaced
        rcases sound.noted replaced with reported | unseen
        · exact Bool.false_ne_true (unreported.symm.trans reported)
        · exact Bool.false_ne_true (seen.symm.trans unseen)
    rw [unreplaced] at content
    exact content

/-- An upload of the byte `a` to a path of the volume `d`. -/
def letterSetup (path : Path) : UploadSetup where
  config := volumeConfig
  sha256 := letterSha256
  sessionId := 1
  request := { volume := [0x64], path, totalSize := 1, overwrite := false, ifMatch := none }

def letterUpload : List UploadLinkEvent :=
  [.deliver 0 willingAnswers, .receive 0, .act (.chunk [0x61]), .act .proceed, .deliver 0 willingAnswers, .receive 0]

def succeeds (world : UploadWorld) : Bool :=
  match world.uploader.point with
  | .succeeded _ => true
  | _ => false

theorem letter_uploaded : ∃ (world : UploadWorld) (result : UploadResult), world.uploader.point = .succeeded result ∧
    world.Delivered (letterSetup [0x66]) result := by
  obtain ⟨world, run, checked⟩ : ∃ world,
      Run ((uploadSystem (letterSetup [0x66])).guarded (OpensApart (letterSetup [0x66])))
        (startWorld (letterSetup [0x66]) (.zero volumeTree))
        (letterUpload ++ [.act .ended, .deliver 0 willingAnswers, .receive 0]) world ∧ succeeds world = true :=
    Run.of_guarded_check (by decide +kernel)
  have reached : Reachable ((uploadSystem (letterSetup [0x66])).guarded (OpensApart (letterSetup [0x66]))) world :=
    ⟨_, _, ⟨_, HandleKind.noConfusion, rfl⟩, run⟩
  unfold succeeds at checked
  split at checked
  next result point => exact ⟨world, result, point, (upload_faithful _ reached).1 result point⟩
  next => contradiction

def temporaryName : Path := (tempPathFor [] 0).drop 1

def leavesPartial (world : UploadWorld) : Bool :=
  world.uploader.point == .failed && world.replaced == none && world.original == none &&
    world.task.tree (uploadTarget volumeConfig (letterSetup temporaryName).request) == some (.regular [0x61])

/-- The target is its own temporary file: an upload that fails leaves data there, without a COMMIT. -/
theorem partial_upload_left : ∃ world, Reachable (uploadSystem (letterSetup temporaryName)) world ∧
    world.uploader.point = .failed ∧ ¬ world.Preserved (letterSetup temporaryName) := by
  obtain ⟨world, run, checked⟩ : ∃ world,
      Run (uploadSystem (letterSetup temporaryName)) (startWorld (letterSetup temporaryName) (.zero volumeTree))
        (letterUpload ++ [.act .raise, .loseRequest 0, .act .timeout]) world ∧ leavesPartial world = true :=
    Run.of_check (by decide +kernel)
  simp only [leavesPartial, Bool.and_eq_true, beq_iff_eq] at checked
  obtain ⟨⟨⟨failed, unreplaced⟩, absent⟩, left⟩ := checked
  refine ⟨world, ⟨_, _, ⟨_, HandleKind.noConfusion, rfl⟩, run⟩, failed, fun preserved => ?_⟩
  have same := preserved (.inl unreplaced)
  rw [absent] at same
  exact absurd (left.symm.trans same) nofun

end EspIris.Link
