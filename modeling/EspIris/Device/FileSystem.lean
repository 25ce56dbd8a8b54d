import EspIris.Codec.Device
import Mathlib.Logic.Function.Basic

/-! The file system under the volumes of `esp_iris_files.c`. A call takes the error that the file
system answers with, and does what POSIX says where there is none. -/

namespace EspIris.Device.Files
open Codec.Device Bytes

abbrev Path := List UInt8

def slash : UInt8 := 0x2f

inductive Errno
  | enoent
  | enotdir
  | eacces
  | eperm
  | erofs
  | enomem
  | ebusy
  | eexist
  | enotempty
  | enospc
  | exdev
  | other
  deriving DecidableEq, Repr

/-- `esp_iris_file_status_t`. -/
inductive FileStatus
  | ok
  | invalidArgument
  | notFound
  | notDirectory
  | notFile
  | readOnly
  | busy
  | noMemory
  | io
  | notSupported
  | conflict
  | exists
  | notEmpty
  | noSpace
  | hashMismatch
  deriving DecidableEq, Repr

def FileStatus.code : FileStatus → UInt16
  | .ok => 0
  | .invalidArgument => 1
  | .notFound => 2
  | .notDirectory => 3
  | .notFile => 4
  | .readOnly => 5
  | .busy => 6
  | .noMemory => 7
  | .io => 8
  | .notSupported => 9
  | .conflict => 10
  | .exists => 11
  | .notEmpty => 12
  | .noSpace => 13
  | .hashMismatch => 14

variable {failure : Option Errno} {path : Path}

theorem FileStatus.code_injective : Function.Injective FileStatus.code := by
  intro left right same
  cases left <;> cases right <;> first | rfl | exact absurd same (by decide)

def statusFromErrno : Errno → FileStatus
  | .enoent => .notFound
  | .enotdir => .notDirectory
  | .eacces | .eperm | .erofs => .readOnly
  | .enomem => .noMemory
  | .ebusy => .busy
  | .eexist => .exists
  | .enotempty => .notEmpty
  | .enospc => .noSpace
  | .exdev => .notSupported
  | .other => .io

@[simp] theorem statusFromErrno_ne_ok (value : Errno) : statusFromErrno value ≠ .ok := by
  cases value <;> decide

inductive NodeType
  | regular
  | directory
  | link
  | special
  deriving DecidableEq, Repr

inductive Node
  | regular (content : List UInt8)
  | directory
  | link
  | special
  deriving DecidableEq, Repr

def Node.type : Node → NodeType
  | .regular _ => .regular
  | .directory => .directory
  | .link => .link
  | .special => .special

def Node.size : Node → Nat
  | .regular content => content.length
  | _ => 0

abbrev Tree := Path → Option Node

/-- The fields of `struct stat` that the tree does not determine. -/
structure Attributes where
  permissions : UInt16
  mtime : Int
  deriving DecidableEq, Repr

/-- What `esp_iris_files.c` reads of a `struct stat`. -/
structure Metadata where
  type : NodeType
  permissions : UInt16
  size : Nat
  mtime : Int
  deriving DecidableEq, Repr

abbrev StatAnswer := Except Errno Attributes

/-- `file_stat`; a file system cannot describe what is not there. -/
def fileStat (tree : Tree) (path : Path) : StatAnswer → Except Errno Metadata
  | .error value => .error value
  | .ok attributes =>
    match tree path with
    | none => .error .enoent
    | some node => .ok
      { type := node.type, permissions := attributes.permissions, size := node.size, mtime := attributes.mtime }

/-- `S_IFMT` of the type, with the permission bits. -/
def Metadata.mode (metadata : Metadata) : UInt64 :=
  (match metadata.type with
    | .regular => 0o100000
    | .directory => 0o040000
    | .link => 0o120000
    | .special => 0o020000) ||| metadata.permissions.toUInt64

def weakEtag (metadata : Metadata) : UInt64 :=
  let fields := irisPutLe64 metadata.mode ++ irisPutLe64 (UInt64.ofNat metadata.size) ++
    irisPutLe64 (UInt64.ofNat metadata.mtime.toNat)
  fields.foldl (fun value byte => (value ^^^ byte.toUInt64) * 1099511628211) 1469598103934665603

def fileKind (metadata : Metadata) : UInt8 :=
  match metadata.type with
  | .regular => 1
  | .directory => 2
  | _ => 0

def encodeMetadata (metadata : Metadata) : List UInt8 :=
  [fileKind metadata, 0] ++ irisPutLe16 0 ++ irisPutLe64 (UInt64.ofNat metadata.size) ++
    irisPutLe64 (UInt64.ofNat metadata.mtime.toNat) ++ irisPutLe64 (weakEtag metadata)

/-- `open` with `O_CREAT | O_EXCL`: nothing may stand at the path before. -/
def createFile (tree : Tree) (path : Path) : Option Errno → Except Errno Tree
  | some value => .error value
  | none => if (tree path).isSome then .error .eexist else .ok (Function.update tree path (some (.regular [])))

/-- `write` through a descriptor that stands at the end of the file. -/
def appendFile (tree : Tree) (path : Path) (data : List UInt8) : Tree :=
  match tree path with
  | some (.regular content) => Function.update tree path (some (.regular (content ++ data)))
  | _ => tree

def unlinkFile (tree : Tree) (path : Path) : Option Errno → Except Errno Tree
  | some value => .error value
  | none =>
    match tree path with
    | some (.regular _) => .ok (Function.update tree path none)
    | _ => .error .enoent

def makeDirectory (tree : Tree) (path : Path) : Option Errno → Except Errno Tree
  | some value => .error value
  | none => if (tree path).isSome then .error .eexist else .ok (Function.update tree path (some .directory))

def removeDirectory (tree : Tree) (path : Path) : Option Errno → Except Errno Tree
  | some value => .error value
  | none =>
    match tree path with
    | some .directory => .ok (Function.update tree path none)
    | _ => .error .enotdir

/-- What follows `folder` in the path, where the path is the folder or lies below it. -/
def below (folder path : Path) : Option Path :=
  if folder <+: path then
    let rest := path.drop folder.length
    if rest = [] ∨ rest.head? = some slash then some rest else none
  else none

/-- `rename`: the node and everything below it moves, what the destination named is gone. -/
def renameNode (tree : Tree) (source destination : Path) : Option Errno → Except Errno Tree
  | some value => .error value
  | none =>
    if (tree source).isNone then .error .enoent
    else .ok fun path =>
      match below destination path with
      | some rest => tree (source ++ rest)
      | none => if (below source path).isSome then none else tree path

variable {tree after : Tree}

@[simp] theorem below_self (path : Path) : below path path = some [] := by
  simp [below]

theorem createFile_ok (created : createFile tree path failure = .ok after) :
    tree path = none ∧ after = Function.update tree path (some (.regular [])) := by
  unfold createFile at created
  split at created
  next => contradiction
  split at created
  next => contradiction
  next absent =>
    cases created
    exact ⟨by simpa using absent, rfl⟩

theorem unlinkFile_ok (unlinked : unlinkFile tree path failure = .ok after) :
    after = Function.update tree path none := by
  unfold unlinkFile at unlinked
  split at unlinked
  next => contradiction
  split at unlinked
  next =>
    cases unlinked
    rfl
  next => contradiction

theorem renameNode_destination {source destination : Path}
    (renamed : renameNode tree source destination failure = .ok after) : after destination = tree source := by
  unfold renameNode at renamed
  split at renamed
  next => contradiction
  split at renamed
  next => contradiction
  cases renamed
  simp

theorem renameNode_source {source destination : Path} (renamed : renameNode tree source destination failure = .ok after)
    : tree source ≠ none := by
  unfold renameNode at renamed
  split at renamed
  next => contradiction
  split at renamed
  next => contradiction
  next present => simpa using present

theorem fileStat_ok {answer : StatAnswer} {metadata : Metadata} (described : fileStat tree path answer = .ok metadata) :
    ∃ node, tree path = some node ∧ metadata.type = node.type ∧ metadata.size = node.size := by
  unfold fileStat at described
  split at described
  next => contradiction
  split at described
  next => contradiction
  next node present =>
    cases described
    exact ⟨node, present, rfl, rfl⟩

theorem fileStat_error {answer : StatAnswer} {value : Errno} (failed : fileStat tree path answer = .error value) :
    answer.isOk = false ∨ tree path = none := by
  unfold fileStat at failed
  split at failed
  next => exact .inl rfl
  split at failed
  next absent => exact .inr absent
  next => contradiction

end EspIris.Device.Files
