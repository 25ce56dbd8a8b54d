import EspIris.Lib.Machine
import Mathlib.Logic.Function.Basic

/-! `save_firmware_artifact` of `iris_gateway/store.py`: three files that are created exclusively and written in
place, a manifest, and a row. A fault ends the call where it strikes and leaves on disk what was written. -/

namespace EspIris.Gateway.Firmware
open Machine (System Reachable Run Invariant)

abbrev Digest := List UInt8

/-- The keys of `files`. -/
inductive ArtifactFile
  | binary
  | elf
  | map
  deriving DecidableEq, Repr

/-- The items of `files`, in order. -/
def ArtifactFile.all : List ArtifactFile := [.binary, .elf, .map]

theorem ArtifactFile.mem_all (file : ArtifactFile) : file ∈ all := by cases file <;> decide

structure Bundle where
  binary : List UInt8
  elf : List UInt8
  mapData : List UInt8
  deriving DecidableEq, Repr

def Bundle.data (bundle : Bundle) : ArtifactFile → List UInt8
  | .binary => bundle.binary
  | .elf => bundle.elf
  | .map => bundle.mapData

/-- What `save_firmware_artifact` reads of `metadata`. -/
structure ImageMetadata where
  projectName : String
  version : String
  chipId : Int
  deriving DecidableEq, Repr

structure Manifest where
  artifactId : Digest
  binarySha256 : Digest
  elfSha256 : Digest
  mapSha256 : Digest
  projectName : String
  version : String
  chipId : Int
  sizes : ArtifactFile → Nat
  sha256 : ArtifactFile → Digest
  createdNs : Int

/-- A row of `firmware_artifacts`; its `manifest_json` is read back as the manifest. -/
structure FirmwareRow where
  artifactId : Digest
  binarySha256 : Digest
  elfSha256 : Digest
  projectName : String
  version : String
  manifest : Manifest
  createdNs : Int

/-- The folders of the artifacts and the table. `pending` is in a transaction of the connection that is not
committed. -/
structure FirmwareStore where
  files : Digest → ArtifactFile → Option (List UInt8)
  manifests : Digest → Option (List UInt8)
  rows : List FirmwareRow
  pending : List FirmwareRow

def FirmwareStore.empty : FirmwareStore where
  files := fun _ _ => none
  manifests := fun _ => none
  rows := []
  pending := []

inductive CommitFault
  | rolledBack
  | leftOpen
  | committed
  deriving DecidableEq, Repr

/-- Where a call is ended, by an `OSError`, by the database or by the end of the process. -/
inductive Fault
  | mkdir
  | create (file : ArtifactFile)
  /-- The write ends with `count` bytes in the file. -/
  | write (file : ArtifactFile) (count : Nat)
  | read (file : ArtifactFile)
  | manifestOpen
  | manifestWrite (count : Nat)
  | insert
  | commit (outcome : CommitFault)
  deriving DecidableEq, Repr

inductive SaveError
  /-- `ValueError`. -/
  | value
  /-- `sqlite3.IntegrityError`. -/
  | integrity
  | fault
  deriving DecidableEq, Repr

def FirmwareStore.visible (store : FirmwareStore) : List FirmwareRow := store.rows ++ store.pending

def FirmwareStore.firmwareArtifact (store : FirmwareStore) (artifactId : Digest) : Option Manifest :=
  (store.visible.find? fun row => row.artifactId == artifactId).map FirmwareRow.manifest

def FirmwareStore.firmwareArtifacts (store : FirmwareStore) (limit : Int) : List Manifest :=
  let rows := store.visible.mergeSort fun left right => decide (right.createdNs ≤ left.createdNs)
  (rows.take (max 1 (min limit 1000)).toNat).filterMap fun row => store.firmwareArtifact row.artifactId

/-- One round of the loop over `files`: what is there afterwards, and the error. -/
def writeFile (sha256 : List UInt8 → Digest) (fault : Option Fault) (file : ArtifactFile) (data : List UInt8) :
    Option (List UInt8) → Option (List UInt8) × Option SaveError
  | some present =>
    if fault = some (.read file) then (some present, some .fault)
    else if sha256 present ≠ sha256 data then (some present, some .value)
    else (some present, none)
  | none =>
    if fault = some (.create file) then (none, some .fault)
    else
      match fault with
      | some (.write other count) =>
        if other = file then (some (data.take count), some .fault) else (some data, none)
      | _ => (some data, none)

/-- The loop over `files`. -/
def writeFiles (sha256 : List UInt8 → Digest) (bundle : Bundle) (fault : Option Fault) :
    (ArtifactFile → Option (List UInt8)) → List ArtifactFile → (ArtifactFile → Option (List UInt8)) × Option SaveError
  | folder, [] => (folder, none)
  | folder, file :: rest =>
    let result := writeFile sha256 fault file (bundle.data file) (folder file)
    let folder := Function.update folder file result.1
    match result.2 with
    | some error => (folder, some error)
    | none => writeFiles sha256 bundle fault folder rest

def manifestOf (sha256 : List UInt8 → Digest) (bundle : Bundle) (metadata : ImageMetadata) (createdNs : Int) :
    Manifest where
  artifactId := sha256 bundle.elf
  binarySha256 := sha256 bundle.binary
  elfSha256 := sha256 bundle.elf
  mapSha256 := sha256 bundle.mapData
  projectName := metadata.projectName
  version := metadata.version
  chipId := metadata.chipId
  sizes := fun file => (bundle.data file).length
  sha256 := fun file => sha256 (bundle.data file)
  createdNs

def rowOf (manifest : Manifest) : FirmwareRow where
  artifactId := manifest.artifactId
  binarySha256 := manifest.binarySha256
  elfSha256 := manifest.elfSha256
  projectName := manifest.projectName
  version := manifest.version
  manifest
  createdNs := manifest.createdNs

def FirmwareStore.commit (store : FirmwareStore) (row : FirmwareRow) (fault : Option Fault) :
    FirmwareStore × Except SaveError Manifest :=
  let done := { store with rows := store.visible ++ [row], pending := [] }
  match fault with
  | some (.commit .rolledBack) => ({ store with pending := [] }, .error .fault)
  | some (.commit .leftOpen) => ({ store with pending := store.pending ++ [row] }, .error .fault)
  | some (.commit .committed) => (done, .error .fault)
  | _ => (done, .ok row.manifest)

/-- `write_text` and the INSERT; `artifact_id` and `binary_sha256` are unique. -/
def FirmwareStore.record (dumps : Manifest → List UInt8) (store : FirmwareStore) (manifest : Manifest)
    (fault : Option Fault) : FirmwareStore × Except SaveError Manifest :=
  let write := fun text => { store with manifests := Function.update store.manifests manifest.artifactId (some text) }
  match fault with
  | some .manifestOpen => (store, .error .fault)
  | some (.manifestWrite count) => (write ((dumps manifest).take count), .error .fault)
  | _ =>
    let store := write (dumps manifest)
    if fault = some .insert then (store, .error .fault)
    else if store.visible.any fun row =>
        row.artifactId == manifest.artifactId || row.binarySha256 == manifest.binarySha256 then
      (store, .error .integrity)
    else store.commit (rowOf manifest) fault

def FirmwareStore.save (sha256 : List UInt8 → Digest) (dumps : Manifest → List UInt8) (store : FirmwareStore)
    (bundle : Bundle) (metadata : ImageMetadata) (createdNs : Int) (fault : Option Fault) :
    FirmwareStore × Except SaveError Manifest :=
  let artifactId := sha256 bundle.elf
  match store.firmwareArtifact artifactId with
  | some existing =>
    if existing.binarySha256 ≠ sha256 bundle.binary then (store, .error .value)
    else if existing.mapSha256 ≠ sha256 bundle.mapData then (store, .error .value)
    else (store, .ok existing)
  | none =>
    if fault = some .mkdir then (store, .error .fault)
    else
      let result := writeFiles sha256 bundle fault (store.files artifactId) ArtifactFile.all
      let store := { store with files := Function.update store.files artifactId result.1 }
      match result.2 with
      | some error => (store, .error error)
      | none => store.record dumps (manifestOf sha256 bundle metadata createdNs) fault

structure FirmwareWorld where
  store : FirmwareStore
  attempts : List Bundle

inductive FirmwareEvent
  | save (bundle : Bundle) (metadata : ImageMetadata) (createdNs : Int) (fault : Option Fault)
  /-- Another method of the store commits what is open. -/
  | commit
  /-- The gateway starts again, or the database rolls back. -/
  | discard

def nextFirmware (sha256 : List UInt8 → Digest) (dumps : Manifest → List UInt8) (world : FirmwareWorld) :
    FirmwareEvent → Option FirmwareWorld
  | .save bundle metadata createdNs fault => some
    { store := (world.store.save sha256 dumps bundle metadata createdNs fault).1
      attempts := world.attempts ++ [bundle] }
  | .commit => some { world with store := { world.store with rows := world.store.visible, pending := [] } }
  | .discard => some { world with store := { world.store with pending := [] } }

def firmwareSystem (sha256 : List UInt8 → Digest) (dumps : Manifest → List UInt8) :
    System FirmwareWorld FirmwareEvent :=
  .ofPartial (fun world => world = { store := .empty, attempts := [] }) (nextFirmware sha256 dumps)

def FirmwareStore.Complete (sha256 : List UInt8 → Digest) (store : FirmwareStore) (artifact : Manifest) : Prop :=
  ∀ file, ∃ data, store.files artifact.artifactId file = some data ∧ sha256 data = artifact.sha256 file

def FirmwareStore.Retryable (sha256 : List UInt8 → Digest) (dumps : Manifest → List UInt8) (store : FirmwareStore)
    (bundle : Bundle) : Prop :=
  ∀ metadata createdNs, (store.save sha256 dumps bundle metadata createdNs none).2.isOk = true ∧
    ∀ file, (store.save sha256 dumps bundle metadata createdNs none).1.files (sha256 bundle.elf) file =
      some (bundle.data file)

def Alone (sha256 : List UInt8 → Digest) (bundles : List Bundle) (bundle : Bundle) : Prop :=
  ∀ other ∈ bundles, sha256 other.elf = sha256 bundle.elf ∨ sha256 other.binary = sha256 bundle.binary → other = bundle

def LeavesPartial (sha256 : List UInt8 → Digest) (store : FirmwareStore) (bundle : Bundle) (fault : Option Fault) :
    Prop :=
  match fault with
  | some (.write file count) => store.firmwareArtifact (sha256 bundle.elf) = none ∧
      store.files (sha256 bundle.elf) file = none ∧ count < (bundle.data file).length
  | _ => False

def LeavesWhole (sha256 : List UInt8 → Digest) (world : FirmwareWorld) : FirmwareEvent → Prop
  | .save bundle _ _ fault => ¬ LeavesPartial sha256 world.store bundle fault
  | _ => True

end EspIris.Gateway.Firmware
