import EspIris.Gateway.FirmwareStore

/-! When a call of `save_firmware_artifact` can be made again after one that a fault ended. -/

namespace EspIris.Gateway.Firmware
open Machine (System Reachable Run Invariant)

variable {sha256 : List UInt8 → Digest} {dumps : Manifest → List UInt8} {store : FirmwareStore} {bundle : Bundle}
  {metadata : ImageMetadata} {createdNs : Int} {fault : Option Fault} {file : ArtifactFile}

def Cut (fault : Option Fault) (file : ArtifactFile) (data : List UInt8) (after : Option (List UInt8)) : Prop :=
  ∃ count, fault = some (.write file count) ∧ after = some (data.take count)

def Kept (fault : Option Fault) (file : ArtifactFile) (data : List UInt8) (before after : Option (List UInt8)) : Prop :=
  after = before ∨ before = none ∧ (after = some data ∨ Cut fault file data after)

theorem writeFile_kept (fault : Option Fault) (file : ArtifactFile) (data : List UInt8) (before : Option (List UInt8)) :
    Kept fault file data before (writeFile sha256 fault file data before).1 := by
  unfold writeFile
  split
  next present =>
    split_ifs
    next => exact .inl rfl
    next => exact .inl rfl
    next => exact .inl rfl
  split
  next => exact .inl rfl
  split
  next other count _ =>
    split
    next same =>
      subst same
      exact .inr ⟨rfl, .inr ⟨count, rfl, rfl⟩⟩
    next => exact .inr ⟨rfl, .inl rfl⟩
  next => exact .inr ⟨rfl, .inl rfl⟩

/-- A round without an error leaves a file with the digest of its data. -/
theorem writeFile_done {data : List UInt8} {before : Option (List UInt8)}
    (done : (writeFile sha256 fault file data before).2 = none) :
    ∃ content, (writeFile sha256 fault file data before).1 = some content ∧ sha256 content = sha256 data := by
  unfold writeFile at done ⊢
  split at done
  next present =>
    split_ifs at done ⊢ with read other
    exact ⟨present, rfl, not_not.mp other⟩
  split at done
  next => contradiction
  next created =>
    rw [if_neg created]
    split at done
    next other count =>
      split at done
      next => contradiction
      next different =>
        rw [if_neg different]
        exact ⟨data, rfl, rfl⟩
    next => exact ⟨data, rfl, rfl⟩

theorem writeFile_same {data : List UInt8} {before : Option (List UInt8)} (fits : before = none ∨ before = some data) :
    writeFile sha256 none file data before = (some data, none) := by
  rcases fits with rfl | rfl
  · rfl
  · unfold writeFile
    dsimp only
    rw [if_neg nofun, if_neg (not_not.mpr rfl)]

theorem writeFiles_kept {folder : ArtifactFile → Option (List UInt8)} (files : List ArtifactFile)
    (file : ArtifactFile) :
    Kept fault file (bundle.data file) (folder file) ((writeFiles sha256 bundle fault folder files).1 file) := by
  induction files generalizing folder with
  | nil => exact .inl rfl
  | cons head rest ih =>
    have first : Kept fault file (bundle.data file) (folder file)
        (Function.update folder head (writeFile sha256 fault head (bundle.data head) (folder head)).1 file) := by
      by_cases same : file = head
      · rw [same, Function.update_self]
        exact writeFile_kept fault head _ _
      · rw [Function.update_of_ne same]
        exact .inl rfl
    unfold writeFiles
    dsimp only
    split
    next => exact first
    rcases ih with same | ⟨absent, wrote⟩
    · rw [same]
      exact first
    · rcases first with unchanged | ⟨before, wrote_first⟩
      · exact .inr ⟨unchanged.symm.trans absent, wrote⟩
      · exact .inr ⟨before, wrote⟩

theorem writeFiles_present {folder : ArtifactFile → Option (List UInt8)} {content : List UInt8}
    (files : List ArtifactFile)
    (present : folder file = some content) : (writeFiles sha256 bundle fault folder files).1 file = some content := by
  rcases writeFiles_kept files file with unchanged | ⟨absent, _⟩
  · exact unchanged.trans present
  · exact absurd (present.symm.trans absent) nofun

theorem writeFiles_done {folder : ArtifactFile → Option (List UInt8)} {files : List ArtifactFile}
    (done : (writeFiles sha256 bundle fault folder files).2 = none) (member : file ∈ files) :
    ∃ content, (writeFiles sha256 bundle fault folder files).1 file = some content ∧
      sha256 content = sha256 (bundle.data file) := by
  induction files generalizing folder with
  | nil => exact absurd member List.not_mem_nil
  | cons head rest ih =>
    unfold writeFiles at done ⊢
    dsimp only at done ⊢
    split at done
    next => contradiction
    next first =>
      rcases List.mem_cons.mp member with same | later
      · obtain ⟨content, wrote, digest⟩ := writeFile_done first
        subst same
        refine ⟨content, writeFiles_present rest ?_, digest⟩
        rw [Function.update_self]
        exact wrote
      · exact ih done later

variable (sha256) in
/-- Where every file is missing or whole, a loop without a fault makes all of them whole. -/
theorem writeFiles_whole {folder : ArtifactFile → Option (List UInt8)} (files : List ArtifactFile)
    (fits : ∀ file, folder file = none ∨ folder file = some (bundle.data file)) :
    (writeFiles sha256 bundle none folder files).2 = none ∧
      ∀ file ∈ files, (writeFiles sha256 bundle none folder files).1 file = some (bundle.data file) := by
  induction files generalizing folder with
  | nil => exact ⟨rfl, nofun⟩
  | cons head rest ih =>
    have further (file : ArtifactFile) :
        Function.update folder head (some (bundle.data head)) file = none ∨
          Function.update folder head (some (bundle.data head)) file = some (bundle.data file) := by
      by_cases same : file = head
      · rw [same, Function.update_self]
        exact .inr rfl
      · rw [Function.update_of_ne same]
        exact fits file
    obtain ⟨done, whole⟩ := ih further
    unfold writeFiles
    dsimp only
    rw [writeFile_same (fits head)]
    refine ⟨done, fun file member => ?_⟩
    dsimp only
    rcases List.mem_cons.mp member with same | later
    · subst same
      exact writeFiles_present rest (Function.update_self _ _ _)
    · exact whole file later

variable (sha256) in
theorem writeFiles_cut {folder : ArtifactFile → Option (List UInt8)} {files : List ArtifactFile} (count : Nat)
    (fits : ∀ file, folder file = none ∨ folder file = some (bundle.data file)) (missing : folder file = none)
    (member : file ∈ files) :
    (writeFiles sha256 bundle (some (.write file count)) folder files).2 ≠ none ∧
      (writeFiles sha256 bundle (some (.write file count)) folder files).1 file = some ((bundle.data file).take count) := by
  induction files generalizing folder with
  | nil => exact absurd member List.not_mem_nil
  | cons head rest ih =>
    by_cases same : head = file
    · subst same
      have struck : writeFile sha256 (some (.write head count)) head (bundle.data head) (folder head) =
          (some ((bundle.data head).take count), some .fault) := by
        rw [missing]
        unfold writeFile
        dsimp only
        rw [if_neg nofun, if_pos rfl]
      unfold writeFiles
      dsimp only
      rw [struck]
      exact ⟨nofun, Function.update_self _ _ _⟩
    · have passed : writeFile sha256 (some (.write file count)) head (bundle.data head) (folder head) =
          (some (bundle.data head), none) := by
        rcases fits head with absent | present
        · rw [absent]
          unfold writeFile
          dsimp only
          rw [if_neg nofun, if_neg (Ne.symm same)]
        · rw [present]
          unfold writeFile
          dsimp only
          rw [if_neg nofun, if_neg (not_not.mpr rfl)]
      have later : file ∈ rest := (List.mem_cons.mp member).resolve_left (Ne.symm same)
      unfold writeFiles
      dsimp only
      rw [passed]
      refine ih (fun other => ?_) ?_ later
      · by_cases here : other = head
        · rw [here, Function.update_self]
          exact .inr rfl
        · rw [Function.update_of_ne here]
          exact fits other
      · rw [Function.update_of_ne (Ne.symm same)]
        exact missing

theorem firmwareArtifact_none {artifactId : Digest} :
    store.firmwareArtifact artifactId = none ↔ ∀ row ∈ store.visible, row.artifactId ≠ artifactId := by
  unfold FirmwareStore.firmwareArtifact
  rw [Option.map_eq_none_iff, List.find?_eq_none]
  simp only [beq_iff_eq]

theorem firmwareArtifact_some {artifactId : Digest} {manifest : Manifest}
    (found : store.firmwareArtifact artifactId = some manifest) :
    ∃ row ∈ store.visible, row.artifactId = artifactId ∧ row.manifest = manifest := by
  obtain ⟨row, here, same⟩ := Option.map_eq_some_iff.mp found
  exact ⟨row, List.mem_of_find?_eq_some here, by simpa using List.find?_some here, same⟩

def Recorded (before after : FirmwareStore) (row : FirmwareRow) : Prop :=
  after.files = before.files ∧
    (after.visible.Sublist before.visible ∨
      after.visible = before.visible ++ [row] ∧ ∀ other ∈ before.visible,
        other.artifactId ≠ row.artifactId ∧ other.binarySha256 ≠ row.binarySha256)

theorem commit_recorded (store : FirmwareStore) (row : FirmwareRow) (fault : Option Fault)
    (fresh : ∀ other ∈ store.visible, other.artifactId ≠ row.artifactId ∧ other.binarySha256 ≠ row.binarySha256) :
    Recorded store (store.commit row fault).1 row := by
  have whole : (store.visible ++ [row]) ++ [] = store.visible ++ [row] := List.append_nil _
  unfold FirmwareStore.commit
  dsimp only
  split
  next =>
    refine ⟨rfl, .inl ?_⟩
    show (store.rows ++ []).Sublist (store.rows ++ store.pending)
    rw [List.append_nil]
    exact List.sublist_append_left _ _
  next => exact ⟨rfl, .inr ⟨(List.append_assoc _ _ _).symm, fresh⟩⟩
  next => exact ⟨rfl, .inr ⟨whole, fresh⟩⟩
  next => exact ⟨rfl, .inr ⟨whole, fresh⟩⟩

variable (dumps) in
theorem record_recorded (store : FirmwareStore) (manifest : Manifest) (fault : Option Fault) :
    Recorded store (store.record dumps manifest fault).1 (rowOf manifest) := by
  unfold FirmwareStore.record
  dsimp only
  split
  next => exact ⟨rfl, .inl (List.Sublist.refl _)⟩
  next => exact ⟨rfl, .inl (List.Sublist.refl _)⟩
  split
  next => exact ⟨rfl, .inl (List.Sublist.refl _)⟩
  split
  next => exact ⟨rfl, .inl (List.Sublist.refl _)⟩
  next unique =>
    apply commit_recorded
    intro other member
    have different : ¬ (other.artifactId == manifest.artifactId || other.binarySha256 == manifest.binarySha256) = true :=
      fun same => unique (List.any_eq_true.mpr ⟨other, member, same⟩)
    simpa [not_or, rowOf] using different

structure Saved (sha256 : List UInt8 → Digest) (store after : FirmwareStore) (bundle : Bundle) (fault : Option Fault)
    (row : FirmwareRow) : Prop where
  missing : store.firmwareArtifact (sha256 bundle.elf) = none
  files : after.files = Function.update store.files (sha256 bundle.elf)
    (writeFiles sha256 bundle fault (store.files (sha256 bundle.elf)) ArtifactFile.all).1
  rows : after.visible.Sublist store.visible ∨
    (writeFiles sha256 bundle fault (store.files (sha256 bundle.elf)) ArtifactFile.all).2 = none ∧
      after.visible = store.visible ++ [row] ∧ ∀ other ∈ store.visible, other.binarySha256 ≠ row.binarySha256

theorem LeavesPartial.found {existing : Manifest} (found : store.firmwareArtifact (sha256 bundle.elf) = some existing)
    (fault : Option Fault) : ¬ LeavesPartial sha256 store bundle fault := by
  unfold LeavesPartial
  split
  next => exact fun part => Option.some_ne_none _ (found.symm.trans part.1)
  next => exact id

theorem save_cases (sha256 : List UInt8 → Digest) (dumps : Manifest → List UInt8) (store : FirmwareStore)
    (bundle : Bundle) (metadata : ImageMetadata) (createdNs : Int) (fault : Option Fault) :
    (store.save sha256 dumps bundle metadata createdNs fault).1 = store ∧ ¬ LeavesPartial sha256 store bundle fault ∨
      Saved sha256 store (store.save sha256 dumps bundle metadata createdNs fault).1 bundle fault
        (rowOf (manifestOf sha256 bundle metadata createdNs)) := by
  unfold FirmwareStore.save
  dsimp only
  split
  next existing found =>
    have whole := LeavesPartial.found found fault
    split_ifs
    next => exact .inl ⟨rfl, whole⟩
    next => exact .inl ⟨rfl, whole⟩
    next => exact .inl ⟨rfl, whole⟩
  next missing =>
    split
    next struck =>
      rw [struck]
      exact .inl ⟨rfl, id⟩
    right
    split
    next => exact ⟨missing, rfl, .inl (List.Sublist.refl _)⟩
    next done =>
      obtain ⟨files, rows⟩ := record_recorded dumps
        { store with
          files := Function.update store.files (sha256 bundle.elf)
            (writeFiles sha256 bundle fault (store.files (sha256 bundle.elf)) ArtifactFile.all).1 }
        (manifestOf sha256 bundle metadata createdNs) fault
      refine ⟨missing, files, ?_⟩
      rcases rows with fewer | ⟨added, fresh⟩
      · exact .inl fewer
      · exact .inr ⟨done, added, fun other member => (fresh other member).2⟩

theorem save_found {existing : Manifest} (found : store.firmwareArtifact (sha256 bundle.elf) = some existing) :
    store.save sha256 dumps bundle metadata createdNs fault =
      if existing.binarySha256 ≠ sha256 bundle.binary then (store, .error .value)
      else if existing.mapSha256 ≠ sha256 bundle.mapData then (store, .error .value)
      else (store, .ok existing) := by
  unfold FirmwareStore.save
  dsimp only
  rw [found]

theorem save_missing (missing : store.firmwareArtifact (sha256 bundle.elf) = none) :
    store.save sha256 dumps bundle metadata createdNs none =
      let result := writeFiles sha256 bundle none (store.files (sha256 bundle.elf)) ArtifactFile.all
      let written := { store with files := Function.update store.files (sha256 bundle.elf) result.1 }
      match result.2 with
      | some error => (written, .error error)
      | none => written.record dumps (manifestOf sha256 bundle metadata createdNs) none := by
  unfold FirmwareStore.save
  dsimp only
  rw [missing]
  exact if_neg nofun

theorem record_ok {manifest : Manifest} (succeeds : (store.record dumps manifest none).2.isOk = true) :
    ∀ row ∈ store.visible, row.binarySha256 ≠ manifest.binarySha256 := by
  intro row member same
  unfold FirmwareStore.record at succeeds
  dsimp only at succeeds
  rw [if_neg nofun, if_pos] at succeeds
  · exact Bool.noConfusion succeeds
  · exact List.any_eq_true.mpr ⟨row, member, by simp [same]⟩

structure Ready (sha256 : List UInt8 → Digest) (store : FirmwareStore) (bundle : Bundle) : Prop where
  stored : ∀ existing, store.firmwareArtifact (sha256 bundle.elf) = some existing →
    existing.binarySha256 = sha256 bundle.binary ∧ existing.mapSha256 = sha256 bundle.mapData ∧
      ∀ file, store.files (sha256 bundle.elf) file = some (bundle.data file)
  missing : store.firmwareArtifact (sha256 bundle.elf) = none →
    (∀ file, store.files (sha256 bundle.elf) file = none ∨
      store.files (sha256 bundle.elf) file = some (bundle.data file)) ∧
      ∀ row ∈ store.visible, row.binarySha256 ≠ sha256 bundle.binary

theorem Ready.retryable (ready : Ready sha256 store bundle) : store.Retryable sha256 dumps bundle := by
  intro metadata createdNs
  cases found : store.firmwareArtifact (sha256 bundle.elf) with
  | some existing =>
    obtain ⟨binary, map, files⟩ := ready.stored existing found
    rw [save_found found, if_neg (not_not.mpr binary), if_neg (not_not.mpr map)]
    exact ⟨rfl, files⟩
  | none =>
    obtain ⟨fits, unique⟩ := ready.missing found
    obtain ⟨done, whole⟩ := writeFiles_whole sha256 ArtifactFile.all fits
    rw [save_missing found]
    dsimp only
    rw [done]
    dsimp only
    unfold FirmwareStore.record
    dsimp only
    rw [if_neg nofun, if_neg]
    · refine ⟨rfl, fun file => ?_⟩
      show Function.update store.files (sha256 bundle.elf) _ (sha256 bundle.elf) file = _
      rw [Function.update_self]
      exact whole file file.mem_all
    · rw [List.any_eq_true]
      rintro ⟨row, member, same⟩
      simp only [Bool.or_eq_true, beq_iff_eq] at same
      rcases same with artifact | binary
      · exact firmwareArtifact_none.mp found row member artifact
      · exact unique row member binary

theorem Ready.of_retryable (retryable : store.Retryable sha256 dumps bundle) : Ready sha256 store bundle := by
  obtain ⟨succeeds, files⟩ := retryable { projectName := "", version := "", chipId := 0 } 0
  constructor
  case stored =>
    intro existing found
    rw [save_found found] at succeeds files
    split_ifs at succeeds files with binary map
    · exact Bool.noConfusion succeeds
    · exact Bool.noConfusion succeeds
    · exact ⟨not_not.mp binary, not_not.mp map, files⟩
  case missing =>
    intro found
    rw [save_missing found] at succeeds files
    dsimp only at succeeds files
    cases done : (writeFiles sha256 bundle none (store.files (sha256 bundle.elf)) ArtifactFile.all).2 with
    | some error =>
      rw [done] at succeeds
      exact Bool.noConfusion succeeds
    | none =>
      rw [done] at succeeds files
      dsimp only at succeeds files
      refine ⟨fun file => ?_, record_ok succeeds⟩
      have stored := files file
      rw [(record_recorded dumps _ _ _).1] at stored
      dsimp only at stored
      rw [Function.update_self] at stored
      have kept : Kept none file (bundle.data file) (store.files (sha256 bundle.elf) file)
          ((writeFiles sha256 bundle none (store.files (sha256 bundle.elf)) ArtifactFile.all).1 file) :=
        writeFiles_kept ArtifactFile.all file
      rcases kept with unchanged | ⟨absent, _⟩
      · exact .inr (unchanged.symm.trans stored)
      · exact .inl absent

theorem retryable_iff : store.Retryable sha256 dumps bundle ↔ Ready sha256 store bundle :=
  ⟨.of_retryable, Ready.retryable⟩

theorem Saved.folder {after : FirmwareStore} {row : FirmwareRow} (saved : Saved sha256 store after bundle fault row)
    (file : ArtifactFile) : after.files (sha256 bundle.elf) file =
      (writeFiles sha256 bundle fault (store.files (sha256 bundle.elf)) ArtifactFile.all).1 file := by
  rw [saved.files, Function.update_self]

theorem Cut.whole {after : Option (List UInt8)} (cut : Cut fault file (bundle.data file) after)
    (uncut : ¬ LeavesPartial sha256 store bundle fault) (missing : store.firmwareArtifact (sha256 bundle.elf) = none)
    (absent : store.files (sha256 bundle.elf) file = none) : after = some (bundle.data file) := by
  obtain ⟨count, struck, left⟩ := cut
  have long : (bundle.data file).length ≤ count := by
    by_contra short
    apply uncut
    rw [struck]
    exact ⟨missing, absent, Nat.not_le.mp short⟩
  rw [left, List.take_of_length_le long]

theorem Saved.ready {after : FirmwareStore} (ready : Ready sha256 store bundle)
    (saved : Saved sha256 store after bundle fault (rowOf (manifestOf sha256 bundle metadata createdNs)))
    (whole : ¬ LeavesPartial sha256 store bundle fault) : Ready sha256 after bundle := by
  obtain ⟨fits, unique⟩ := ready.missing saved.missing
  have fitting (file : ArtifactFile) : after.files (sha256 bundle.elf) file = none ∨
      after.files (sha256 bundle.elf) file = some (bundle.data file) := by
    rw [saved.folder file]
    rcases writeFiles_kept ArtifactFile.all file with unchanged | ⟨absent, wrote | cut⟩
    · rw [unchanged]
      exact fits file
    · exact .inr wrote
    · exact .inr (cut.whole whole saved.missing absent)
  rcases saved.rows with fewer | ⟨done, added, _⟩
  · have missing : after.firmwareArtifact (sha256 bundle.elf) = none :=
      firmwareArtifact_none.mpr fun row member => firmwareArtifact_none.mp saved.missing row (fewer.subset member)
    exact ⟨fun existing found => absurd (missing.symm.trans found) nofun,
      fun _ => ⟨fitting, fun row member => unique row (fewer.subset member)⟩⟩
  · have found : after.firmwareArtifact (sha256 bundle.elf) = some (manifestOf sha256 bundle metadata createdNs) := by
      have none : store.visible.find? (fun row => row.artifactId == sha256 bundle.elf) = none :=
        Option.map_eq_none_iff.mp saved.missing
      unfold FirmwareStore.firmwareArtifact
      rw [added, List.find?_append, none]
      simp [rowOf, manifestOf]
    constructor
    case stored =>
      intro existing same
      cases found.symm.trans same
      refine ⟨rfl, rfl, fun file => (fitting file).resolve_left fun absent => ?_⟩
      obtain ⟨content, present, _⟩ := writeFiles_done done file.mem_all
      rw [saved.folder file, present] at absent
      exact Option.some_ne_none _ absent
    case missing => exact fun missing => absurd (found.symm.trans missing) nofun

theorem Saved.unready {after : FirmwareStore} {row : FirmwareRow} (ready : Ready sha256 store bundle)
    (saved : Saved sha256 store after bundle fault row) (part : LeavesPartial sha256 store bundle fault) :
    ¬ Ready sha256 after bundle := by
  intro again
  obtain ⟨fits, _⟩ := ready.missing saved.missing
  unfold LeavesPartial at part
  split at part
  next file count =>
    obtain ⟨_, absent, short⟩ := part
    obtain ⟨failed, cut⟩ := writeFiles_cut sha256 count fits absent file.mem_all
    have fewer := saved.rows.resolve_right fun added => failed added.1
    have missing : after.firmwareArtifact (sha256 bundle.elf) = none :=
      firmwareArtifact_none.mpr fun row member => firmwareArtifact_none.mp saved.missing row (fewer.subset member)
    rcases (again.missing missing).1 file with empty | whole
    · rw [saved.folder file, cut] at empty
      exact Option.some_ne_none _ empty
    · rw [saved.folder file, cut] at whole
      have same := congrArg List.length (Option.some.inj whole)
      rw [List.length_take] at same
      omega
  next => exact part

def FilesWhole (sha256 : List UInt8 → Digest) (world : FirmwareWorld) : Prop :=
  ∀ artifactId file content, world.store.files artifactId file = some content →
    ∃ bundle ∈ world.attempts, sha256 bundle.elf = artifactId ∧ content = bundle.data file

def RowsComplete (sha256 : List UInt8 → Digest) (world : FirmwareWorld) : Prop :=
  ∀ row ∈ world.store.visible, ∃ bundle ∈ world.attempts, ∃ metadata createdNs,
    row = rowOf (manifestOf sha256 bundle metadata createdNs) ∧
      ∀ file, ∃ content, world.store.files (sha256 bundle.elf) file = some content ∧
        sha256 content = sha256 (bundle.data file)

theorem save_keeps {artifactId : Digest} {content : List UInt8}
    (present : store.files artifactId file = some content) :
    (store.save sha256 dumps bundle metadata createdNs fault).1.files artifactId file = some content := by
  rcases save_cases sha256 dumps store bundle metadata createdNs fault with ⟨same, _⟩ | saved
  · rw [same]
    exact present
  · by_cases here : artifactId = sha256 bundle.elf
    · subst here
      rw [saved.folder file]
      exact writeFiles_present ArtifactFile.all present
    · rw [saved.files, Function.update_of_ne here]
      exact present

theorem RowsComplete.save {world : FirmwareWorld} (complete : RowsComplete sha256 world) :
    RowsComplete sha256
      { store := (world.store.save sha256 dumps bundle metadata createdNs fault).1
        attempts := world.attempts ++ [bundle] } := by
  have old (row : FirmwareRow) (member : row ∈ world.store.visible) : ∃ made ∈ world.attempts ++ [bundle],
      ∃ metadata' createdNs', row = rowOf (manifestOf sha256 made metadata' createdNs') ∧
        ∀ file, ∃ content,
          (world.store.save sha256 dumps bundle metadata createdNs fault).1.files (sha256 made.elf) file = some content ∧
            sha256 content = sha256 (made.data file) := by
    obtain ⟨made, called, metadata', createdNs', same, files⟩ := complete row member
    refine ⟨made, List.mem_append_left _ called, metadata', createdNs', same, fun file => ?_⟩
    obtain ⟨content, present, digest⟩ := files file
    exact ⟨content, save_keeps present, digest⟩
  intro row member
  rcases save_cases sha256 dumps world.store bundle metadata createdNs fault with ⟨same, _⟩ | saved
  · exact old row (same ▸ member)
  · rcases saved.rows with fewer | ⟨done, added, _⟩
    · exact old row (fewer.subset member)
    · change row ∈ (world.store.save sha256 dumps bundle metadata createdNs fault).1.visible at member
      rw [added] at member
      rcases List.mem_append.mp member with earlier | last
      · exact old row earlier
      · refine ⟨bundle, List.mem_append_right _ (List.mem_singleton_self _), metadata, createdNs,
          List.mem_singleton.mp last, fun file => ?_⟩
        obtain ⟨content, present, digest⟩ := writeFiles_done done file.mem_all
        exact ⟨content, (saved.folder file).trans present, digest⟩

theorem FilesWhole.save {world : FirmwareWorld} (whole : FilesWhole sha256 world)
    (uncut : ¬ LeavesPartial sha256 world.store bundle fault) :
    FilesWhole sha256
      { store := (world.store.save sha256 dumps bundle metadata createdNs fault).1
        attempts := world.attempts ++ [bundle] } := by
  intro artifactId file content present
  have old (before : world.store.files artifactId file = some content) :
      ∃ made ∈ world.attempts ++ [bundle], sha256 made.elf = artifactId ∧ content = made.data file := by
    obtain ⟨made, called, same, data⟩ := whole artifactId file content before
    exact ⟨made, List.mem_append_left _ called, same, data⟩
  rcases save_cases sha256 dumps world.store bundle metadata createdNs fault with ⟨same, _⟩ | saved
  · exact old ((congrFun (congrFun (congrArg FirmwareStore.files same) _) _).symm.trans present)
  · by_cases here : artifactId = sha256 bundle.elf
    · subst here
      have stored := (saved.folder file).symm.trans present
      have made : ∃ made ∈ world.attempts ++ [bundle], sha256 made.elf = sha256 bundle.elf ∧
          bundle.data file = made.data file :=
        ⟨bundle, List.mem_append_right _ (List.mem_singleton_self _), rfl, rfl⟩
      rcases writeFiles_kept ArtifactFile.all file with unchanged | ⟨absent, wrote | cut⟩
      · exact old (unchanged.symm.trans stored)
      · cases stored.symm.trans wrote
        exact made
      · cases stored.symm.trans (cut.whole uncut saved.missing absent)
        exact made
    · rw [saved.files, Function.update_of_ne here] at present
      exact old present

theorem RowsComplete.fewer {world : FirmwareWorld} {rows pending : List FirmwareRow}
    (complete : RowsComplete sha256 world) (fewer : (rows ++ pending).Sublist world.store.visible) :
    RowsComplete sha256 { world with store := { world.store with rows, pending } } :=
  fun row member => complete row (fewer.subset member)

theorem rowsComplete_invariant (sha256 : List UInt8 → Digest) (dumps : Manifest → List UInt8) :
    Invariant (firmwareSystem sha256 dumps) (RowsComplete sha256) where
  start := by
    rintro world rfl
    exact nofun
  step := by
    intro before event after complete step
    cases event with
    | save bundle metadata createdNs fault =>
      cases step
      exact complete.save
    | commit =>
      cases step
      have same : before.store.visible ++ [] = before.store.visible := List.append_nil _
      exact complete.fewer (same.symm ▸ List.Sublist.refl before.store.visible)
    | discard =>
      cases step
      refine complete.fewer ?_
      rw [List.append_nil]
      exact List.sublist_append_left _ _

theorem filesWhole_invariant (sha256 : List UInt8 → Digest) (dumps : Manifest → List UInt8) :
    Invariant ((firmwareSystem sha256 dumps).guarded (LeavesWhole sha256)) (FilesWhole sha256) where
  start := by
    rintro world rfl
    exact nofun
  step := by
    rintro before event after whole ⟨uncut, step⟩
    cases event with
    | save bundle metadata createdNs fault =>
      cases step
      exact whole.save uncut
    | commit =>
      cases step
      exact whole
    | discard =>
      cases step
      exact whole

/-- Whole files and complete rows make a bundle that stands alone ready. -/
theorem FilesWhole.ready {world : FirmwareWorld} (whole : FilesWhole sha256 world)
    (complete : RowsComplete sha256 world)
    (called : bundle ∈ world.attempts) (alone : Alone sha256 world.attempts bundle) :
    Ready sha256 world.store bundle := by
  have data {file : ArtifactFile} {content : List UInt8}
      (present : world.store.files (sha256 bundle.elf) file = some content) : content = bundle.data file := by
    obtain ⟨made, called, same, data⟩ := whole _ _ _ present
    rw [data, alone made called (.inl same)]
  constructor
  case stored =>
    intro existing found
    obtain ⟨row, member, artifact, same⟩ := firmwareArtifact_some found
    obtain ⟨made, called, metadata, createdNs, rfl, files⟩ := complete row member
    obtain rfl := alone made called (.inl artifact)
    rw [← same]
    refine ⟨rfl, rfl, fun file => ?_⟩
    obtain ⟨content, present, _⟩ := files file
    rw [present, data present]
  case missing =>
    intro missing
    refine ⟨fun file => ?_, fun row member binary => ?_⟩
    · cases present : world.store.files (sha256 bundle.elf) file with
      | none => exact .inl rfl
      | some content => exact .inr (congrArg some (data present))
    · obtain ⟨made, called, metadata, createdNs, rfl, _⟩ := complete row member
      obtain rfl := alone made called (.inr binary)
      exact firmwareArtifact_none.mp missing _ member rfl

/-- What is listed is complete, whatever the faults. Where no fault leaves a part of a file, every bundle that stands
alone can be saved again; and a call that would succeed can be made again after a fault exactly if the fault leaves
no part of a file. -/
theorem save_retryable (sha256 : List UInt8 → Digest) (dumps : Manifest → List UInt8) :
    (∀ world, Reachable (firmwareSystem sha256 dumps) world → ∀ limit artifact,
      artifact ∈ world.store.firmwareArtifacts limit → world.store.Complete sha256 artifact) ∧
    (∀ world, Reachable ((firmwareSystem sha256 dumps).guarded (LeavesWhole sha256)) world → ∀ bundle ∈ world.attempts,
      Alone sha256 world.attempts bundle → world.store.Retryable sha256 dumps bundle) ∧
    ∀ store bundle metadata createdNs fault, FirmwareStore.Retryable sha256 dumps store bundle →
      ((store.save sha256 dumps bundle metadata createdNs fault).1.Retryable sha256 dumps bundle ↔
        ¬ LeavesPartial sha256 store bundle fault) := by
  refine ⟨fun world reached limit artifact listed => ?_, fun world reached bundle called alone => ?_,
    fun store bundle metadata createdNs fault retryable => ?_⟩
  · obtain ⟨_, _, found⟩ := List.mem_filterMap.mp listed
    obtain ⟨row, member, _, same⟩ := firmwareArtifact_some found
    obtain ⟨made, _, metadata, createdNs, rfl, files⟩ :=
      (rowsComplete_invariant sha256 dumps).reachable reached row member
    rw [← same]
    exact files
  · have complete := (rowsComplete_invariant sha256 dumps).reachable reached.unguarded
    exact (((filesWhole_invariant sha256 dumps).reachable reached).ready complete called alone).retryable
  · have ready := retryable_iff.mp retryable
    rw [retryable_iff]
    rcases save_cases sha256 dumps store bundle metadata createdNs fault with ⟨same, whole⟩ | saved
    · rw [same]
      exact iff_of_true ready whole
    · exact ⟨fun again part => saved.unready ready part again, saved.ready ready⟩

def smallBundle : Bundle := { binary := [1, 2], elf := [3, 4], mapData := [5, 6] }

def smallMetadata : ImageMetadata := { projectName := "app", version := "1", chipId := 9 }

def digestBytes (value : Nat) : Digest := (List.range 32).map fun place => UInt8.ofNat (value >>> (8 * (31 - place)))

/-- The SHA-256 digests of the three contents and of a part of the first. -/
def shortDigest : List UInt8 → Digest
  | [1] => digestBytes 0x4bf5122f344554c53bde2ebb8cd2b7e3d1600ad631c385a5d7cce23c7785459a
  | [1, 2] => digestBytes 0xa12871fee210fb8619291eaea194581cbd2531e4b23759d225f6806923f63222
  | [3, 4] => digestBytes 0x0ce3940bebf2b22a5d2108ecf0c368a0541c7e3c45703f8540921b4eafc82947
  | _ => digestBytes 0xc42522128b49193de8cd45d8f7589cd7e085e65f138640d57d4482e5f7189623

def ArtifactFile.name : ArtifactFile → String
  | .binary => "firmware.bin"
  | .elf => "firmware.elf"
  | .map => "firmware.map"

def quotedText (text : String) : String := "\"" ++ text ++ "\""

def hexText (digest : Digest) : String :=
  quotedText (.ofList (digest.flatMap fun byte => [(byte.toNat / 16).digitChar, (byte.toNat % 16).digitChar]))

/-- An object of `json.dumps` with an indent of two, at a depth. -/
def objectText (depth : String) (fields : List (String × String)) : String :=
  "\x7b\n" ++ ",\n".intercalate (fields.map fun field => depth ++ "  " ++ quotedText field.1 ++ ": " ++ field.2) ++
    "\n" ++ depth ++ "\x7d"

def eachFile (text : ArtifactFile → String) : String :=
  objectText "  " (ArtifactFile.all.map fun file => (file.name, text file))

/-- `manifest.json`, for texts without special letters. -/
def manifestText (manifest : Manifest) : List UInt8 :=
  (objectText "" [("schema", quotedText "esp-iris-firmware-artifact/v1"), ("artifact_id", hexText manifest.artifactId),
    ("binary_sha256", hexText manifest.binarySha256), ("elf_sha256", hexText manifest.elfSha256),
    ("map_sha256", hexText manifest.mapSha256), ("project_name", quotedText manifest.projectName),
    ("version", quotedText manifest.version), ("chip_id", toString manifest.chipId),
    ("sizes", eachFile fun file => toString (manifest.sizes file)),
    ("sha256", eachFile fun file => hexText (manifest.sha256 file)),
    ("files", eachFile fun file => quotedText file.name), ("created_ns", toString manifest.createdNs)] ++ "\n").toUTF8.toList

def failedWorld : FirmwareWorld where
  store := (FirmwareStore.empty.save shortDigest manifestText smallBundle smallMetadata 0 (some (.commit .leftOpen))).1
  attempts := [smallBundle]

/-- The gateway starts again after it: the row is gone, and the bundle is saved again. -/
theorem failed_commit_retried : ∃ world, Reachable ((firmwareSystem shortDigest manifestText).guarded (LeavesWhole shortDigest)) world ∧
    world.store.firmwareArtifact smallBundle.elf = none ∧ world.store.Retryable shortDigest manifestText smallBundle := by
  have saved : ((firmwareSystem shortDigest manifestText).guarded (LeavesWhole shortDigest)).step { store := .empty, attempts := [] }
      (.save smallBundle smallMetadata 0 (some (.commit .leftOpen))) failedWorld := ⟨fun part => part, rfl⟩
  have restarted : ((firmwareSystem shortDigest manifestText).guarded (LeavesWhole shortDigest)).step failedWorld .discard
      { failedWorld with store := { failedWorld.store with pending := [] } } := ⟨trivial, rfl⟩
  have reached := ((Reachable.of_start rfl).step saved).step restarted
  refine ⟨_, reached, rfl, (save_retryable shortDigest manifestText).2.1 _ reached smallBundle (List.mem_singleton_self _) ?_⟩
  intro other member _
  exact List.mem_singleton.mp member

/-- The process ends while the binary is written: the call cannot be made again. -/
theorem cut_binary_blocks_retry : ∃ world, Reachable (firmwareSystem shortDigest manifestText) world ∧
    smallBundle ∈ world.attempts ∧ Alone shortDigest world.attempts smallBundle ∧
      ¬ world.store.Retryable shortDigest manifestText smallBundle := by
  refine ⟨_, (Reachable.of_start rfl).step
    (show nextFirmware shortDigest manifestText _ (.save smallBundle smallMetadata 0 (some (.write .binary 1))) = some _ from rfl),
    List.mem_singleton_self _, ?_, ?_⟩
  · intro other member _
    exact List.mem_singleton.mp member
  · intro retryable
    exact absurd (retryable smallMetadata 1).1 (by decide)

end EspIris.Gateway.Firmware
