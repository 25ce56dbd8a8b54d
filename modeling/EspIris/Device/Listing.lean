import EspIris.Device.Files
import EspIris.Device.Utf8

/-! What a listing of the file task says: which entries of a directory it reports, and its answers while the directory
is open. -/

namespace EspIris.Device.Files
open Codec.Device Bytes

section entries
variable {tree : Tree} {directory : Path}

def reported (tree : Tree) (directory : Path) (entry : Path × StatAnswer) : Option (Path × Metadata) :=
  nextEntry tree directory [entry]

/-- The entries that are reported, in the order of `readdir`. -/
def listable (tree : Tree) (directory : Path) (entries : List (Path × StatAnswer)) : List (Path × Metadata) :=
  entries.filterMap (reported tree directory)

/-- What `readdir` still gives after the loop of `handle_list_next`. -/
def readdirRest (tree : Tree) (directory : Path) : List (Path × StatAnswer) → List (Path × StatAnswer)
  | [] => []
  | entry :: entries => if (reported tree directory entry).isSome then entries else readdirRest tree directory entries

theorem nextEntry_cons (entry : Path × StatAnswer) (entries : List (Path × StatAnswer)) :
    nextEntry tree directory (entry :: entries) =
      (reported tree directory entry).or (nextEntry tree directory entries) := by
  obtain ⟨name, answer⟩ := entry
  unfold reported
  simp only [nextEntry]
  split
  · rw [Option.none_or]
  · split
    · rw [Option.none_or]
    · split
      · rw [Option.none_or]
      · rw [Option.some_or]

theorem nextEntry_head (entries : List (Path × StatAnswer)) :
    nextEntry tree directory entries = (listable tree directory entries).head? := by
  induction entries with
  | nil => rfl
  | cons entry entries ih =>
    rw [nextEntry_cons, ih]
    unfold listable
    cases found : reported tree directory entry with
    | none => rw [List.filterMap_cons_none found, Option.none_or]
    | some described => rw [List.filterMap_cons_some found, Option.some_or, List.head?_cons]

theorem listable_rest (entries : List (Path × StatAnswer)) :
    listable tree directory (readdirRest tree directory entries) = (listable tree directory entries).tail := by
  induction entries with
  | nil => rfl
  | cons entry entries ih =>
    unfold readdirRest
    cases found : reported tree directory entry with
    | none =>
      rw [Option.isSome_none, if_neg Bool.false_ne_true, ih]
      unfold listable
      rw [List.filterMap_cons_none found]
    | some described =>
      rw [Option.isSome_some, if_pos rfl]
      unfold listable
      rw [List.filterMap_cons_some found, List.tail_cons]

/-- The name of an entry that is reported is the encoding of a text, and its length and its kind fit into a byte. -/
theorem nextEntry_named {entries : List (Path × StatAnswer)} {name : Path} {metadata : Metadata}
    (found : nextEntry tree directory entries = some (name, metadata)) :
    name.length ≤ pathMax ∧ Printable name ∧ (fileKind metadata = 1 ∨ fileKind metadata = 2) := by
  induction entries with
  | nil => contradiction
  | cons entry entries ih =>
    obtain ⟨other, answer⟩ := entry
    rw [nextEntry] at found
    split at found
    · exact ih found
    next named =>
      dsimp only at found
      split at found
      · exact ih found
      · split at found
        · exact ih found
        next described =>
          cases found
          obtain ⟨-, short, -, -, valid⟩ := by simpa only [not_or] using named
          obtain ⟨-, -, known⟩ := by simpa only [not_or] using described
          refine ⟨Nat.le_of_not_lt short, (validUtf8_iff _).mp (by simpa using valid), ?_⟩
          unfold fileKind at known ⊢
          split at known
          · exact .inl rfl
          · exact .inr rfl
          · exact absurd rfl known

end entries

section answers
variable {config : FilesConfig} {tree : Tree} {work : FileWork} {answers : Answers} {handle : FileHandle}

theorem handleListOpen_opens {path : Path} (idle : handle.kind = .none)
    (found : listPath config tree work answers = .ok path) :
    handleListOpen config tree work answers handle =
      ({ handle with
          kind := .list, sessionId := work.sessionId, streamId := answers.streamId, directory := true,
          directoryPath := path },
        { completionBegin work FileType.listOpened .ok (irisPutLe32 answers.streamId) with
          streamId := answers.streamId
          flags := Flag.response ||| Flag.streamBegin }) := by
  unfold handleListOpen
  rw [if_neg (not_not.mpr idle), found]

def entryPayload (name : Path) (metadata : Metadata) : List UInt8 :=
  irisPutLe16 0 ++ [0, 1] ++ (encodeMetadata metadata).set 1 (UInt8.ofNat name.length) ++ name

theorem entryPayload_eq (name : Path) (metadata : Metadata) : entryPayload name metadata =
    [0, 0, 0, 1, fileKind metadata, UInt8.ofNat name.length, 0, 0] ++
      (littleEndian 8 (UInt64.ofNat metadata.size).toNat ++ (littleEndian 8 (UInt64.ofNat metadata.mtime.toNat).toNat ++
        (littleEndian 8 (weakEtag metadata).toNat ++ name))) := by
  unfold entryPayload encodeMetadata
  rw [← irisPutLe64_eq, ← irisPutLe64_eq, ← irisPutLe64_eq]
  rfl

theorem entryPayload_status (name : Path) (metadata : Metadata) :
    irisGetLe16 (entryPayload name metadata) 0 = FileStatus.ok.code := by
  apply UInt16.toNat_inj.mp
  rw [irisGetLe16_toNat, entryPayload_eq]
  rfl

theorem handleListNext_gives {name : Path} {metadata : Metadata} (empty : work.payload = [])
    (opened : handle.kind = .list)
    (own : handle.matches work = true)
    (found : nextEntry tree handle.directoryPath answers.entries = some (name, metadata)) :
    (handleListNext tree work answers handle).type = FileType.listData ∧
      (handleListNext tree work answers handle).streamId = handle.streamId ∧
      (handleListNext tree work answers handle).payload = entryPayload name metadata := by
  have fine : ¬ (work.payload ≠ [] ∨ handle.kind ≠ .list ∨ !handle.matches work) := by
    rw [own, empty, opened]
    decide
  unfold handleListNext
  rw [if_neg fine, found]
  exact ⟨rfl, rfl, rfl⟩

theorem handleListNext_ends (empty : work.payload = []) (opened : handle.kind = .list)
    (own : handle.matches work = true) (found : nextEntry tree handle.directoryPath answers.entries = none) :
    (handleListNext tree work answers handle).type = FileType.listData ∧
      (handleListNext tree work answers handle).streamId = handle.streamId ∧
      (handleListNext tree work answers handle).payload = [0, 0, 1, 0] := by
  have fine : ¬ (work.payload ≠ [] ∨ handle.kind ≠ .list ∨ !handle.matches work) := by
    rw [own, empty, opened]
    decide
  unfold handleListNext
  rw [if_neg fine, found]
  exact ⟨rfl, rfl, rfl⟩

theorem handleClose_closes (empty : work.payload = []) (opened : handle.kind = .list)
    (own : handle.matches work = true) : (handleClose handle work).1 = .zero := by
  have fine : ¬ (work.payload ≠ [] ∨ handle.kind = .none ∨ handle.kind = .write ∨ !handle.matches work) := by
    rw [own, empty, opened]
    decide
  unfold handleClose
  rw [if_neg fine]

end answers

end EspIris.Device.Files
