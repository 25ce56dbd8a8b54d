import EspIris.Device.FileSystem

/-! The paths that a FILE request names: what `esp_iris_files.c` accepts, and where it leads. -/

namespace EspIris.Device.Files
open Codec.Device Bytes

def volumeIdMax : Nat := 15
def pathMax : Nat := 255
def fullPathSize : Nat := pathMax * 2 + 2
def tempPathSize : Nat := fullPathSize + 24

/-- `iris_file_volume_t` of a used slot. -/
structure Volume where
  id : List UInt8
  basePath : Path
  capabilities : UInt32
  deriving DecidableEq, Repr

namespace Capability
def read : UInt32 := 1
def list : UInt32 := 2
def write : UInt32 := 8
def delete : UInt32 := 16
def mkdir : UInt32 := 32
def rename : UInt32 := 64
def atomicReplace : UInt32 := 128
end Capability

def Volume.has (volume : Volume) (capability : UInt32) : Bool := volume.capabilities &&& capability != 0

def leadByte (first : UInt8) : Option (Nat × UInt32) :=
  if 0xc2 ≤ first ∧ first ≤ 0xdf then some (1, (first &&& 0x1f).toUInt32)
  else if 0xe0 ≤ first ∧ first ≤ 0xef then some (2, (first &&& 0x0f).toUInt32)
  else if 0xf0 ≤ first ∧ first ≤ 0xf4 then some (3, (first &&& 0x07).toUInt32)
  else none

def continuationBytes : Nat → UInt32 → List UInt8 → Option (UInt32 × List UInt8)
  | 0, codepoint, rest => some (codepoint, rest)
  | _ + 1, _, [] => none
  | count + 1, codepoint, next :: rest =>
    if next &&& 0xc0 ≠ 0x80 then none
    else continuationBytes count ((codepoint <<< 6) ||| (next &&& 0x3f).toUInt32) rest

/-- The loop of `valid_utf8`; each turn takes a byte at least, so the length is fuel enough. -/
def validUtf8Loop : Nat → List UInt8 → Bool
  | _, [] => true
  | 0, _ => false
  | fuel + 1, first :: rest =>
    if first < 0x80 then
      if first = 0 ∨ first < 0x20 ∨ first = 0x7f then false else validUtf8Loop fuel rest
    else
      match leadByte first with
      | none => false
      | some (continuation, bits) =>
        match continuationBytes continuation bits rest with
        | none => false
        | some (codepoint, rest) =>
          if (continuation = 2 ∧ codepoint < 0x800) ∨ (continuation = 3 ∧ codepoint < 0x10000) ∨
              codepoint > 0x10ffff ∨ (codepoint ≥ 0xd800 ∧ codepoint ≤ 0xdfff) then false
          else validUtf8Loop fuel rest

def validUtf8 (value : List UInt8) : Bool := validUtf8Loop value.length value

def validComponent (component : Path) : Bool :=
  !(component.isEmpty || component == [0x2e] || component == [0x2e, 0x2e])

/-- The loop over the components; `component` is what it has read of the current one. -/
def validComponents : Path → Path → Bool
  | component, [] => validComponent component
  | component, byte :: rest =>
    if byte = slash then validComponent component && validComponents [] rest
    else if byte = 0x5c then false
    else validComponents (component ++ [byte]) rest

def validRelativePath (path : Path) : Bool :=
  if path = [] then true
  else if path.length > pathMax ∨ path.head? = some slash ∨ path.getLast? = some slash ∨ !validUtf8 path then
    false
  else validComponents [] path

def findVolume (volumes : List Volume) (id : List UInt8) : Option Volume :=
  volumes.find? fun volume => volume.id == id

structure PathRequest where
  volume : Volume
  relative : Path
  trailer : List UInt8
  deriving DecidableEq, Repr

def decodePathRequestWithTrailer (volumes : List Volume) (payload : List UInt8) (trailerSize : Nat) :
    Except FileStatus PathRequest :=
  if payload.length < 4 then .error .invalidArgument
  else
    let volumeSize := (byteAt payload 0).toNat
    let pathSize := (irisGetLe16 payload 2).toNat
    if byteAt payload 1 ≠ 0 ∨ volumeSize = 0 ∨ volumeIdMax < volumeSize ∨ pathMax < pathSize ∨
        payload.length ≠ 4 + volumeSize + pathSize + trailerSize then .error .invalidArgument
    else
      match findVolume volumes ((payload.drop 4).take volumeSize) with
      | none => .error .notFound
      | some volume =>
        let relative := (payload.drop (4 + volumeSize)).take pathSize
        if !validRelativePath relative then .error .invalidArgument
        else .ok { volume, relative, trailer := payload.drop (4 + volumeSize + pathSize) }

def decodePathRequest (volumes : List Volume) (payload : List UInt8) : Except FileStatus PathRequest :=
  decodePathRequestWithTrailer volumes payload 0

/-- A `file_stat` of `resolve_existing_path` and the check after it. -/
def statComponent (tree : Tree) (path : Path) (answer : StatAnswer) : Except FileStatus Metadata :=
  match fileStat tree path answer with
  | .error value => .error (statusFromErrno value)
  | .ok metadata => if metadata.type = .link then .error .notSupported else .ok metadata

/-- The loop over the components below `out`; `metadata` is that of the last one. -/
def statComponents (tree : Tree) : Path → Metadata → List Path → List StatAnswer →
    Except FileStatus (Path × Metadata)
  | out, metadata, [], _ => .ok (out, metadata)
  | out, _, component :: components, answers => do
    let out := out ++ slash :: component
    let metadata ← statComponent tree out (answers.headD (.error .other))
    statComponents tree out metadata components answers.tail

def resolveExistingPath (volume : Volume) (relative : Path) (tree : Tree) (answers : List StatAnswer) :
    Except FileStatus (Path × Metadata) :=
  if fullPathSize < volume.basePath.length + (if relative.length > 0 then 1 else 0) + relative.length + 1 then
    .error .invalidArgument
  else if relative = [] then do
    let metadata ← statComponent tree volume.basePath (answers.headD (.error .other))
    return (volume.basePath, metadata)
  else
    statComponents tree volume.basePath { type := .special, permissions := 0, size := 0, mtime := 0 }
      (relative.splitOn slash) answers

def baseName (relative : Path) : Path := (relative.reverse.takeWhile (· != slash)).reverse

def parentName (relative : Path) : Path := relative.take (relative.length - (baseName relative).length - 1)

def resolveParentPath (volume : Volume) (relative : Path) (tree : Tree) (answers : List StatAnswer) :
    Except FileStatus (Path × Path) :=
  if relative = [] then .error .invalidArgument
  else do
    let (parent, metadata) ← resolveExistingPath volume (parentName relative) tree answers
    if metadata.type ≠ .directory then .error .notDirectory
    else
      let target := parent ++ slash :: baseName relative
      if fullPathSize ≤ target.length then .error .invalidArgument else .ok (parent, target)

def targetMetadata (tree : Tree) (path : Path) (answer : StatAnswer) : Except FileStatus (Option Metadata) :=
  match fileStat tree path answer with
  | .ok metadata => if metadata.type = .link then .error .notSupported else .ok (some metadata)
  | .error .enoent => .ok none
  | .error value => .error (statusFromErrno value)

def Honest {Result : Type} (call : Except FileStatus Result) : Prop := call ≠ .error .ok

theorem Honest.ok {Result : Type} (result : Result) : Honest (.ok result) := by simp [Honest]

theorem Honest.error {Result : Type} {status : FileStatus} (failed : status ≠ .ok) :
    Honest (.error status : Except FileStatus Result) := by simpa [Honest] using failed

theorem Honest.errno {Result : Type} (value : Errno) :
    Honest (.error (statusFromErrno value) : Except FileStatus Result) := .error (statusFromErrno_ne_ok value)

theorem Honest.bind {Result Next : Type} {call : Except FileStatus Result} {rest : Result → Except FileStatus Next}
    (first : Honest call) (next : ∀ result, Honest (rest result)) : Honest (call >>= rest) := by
  cases call with
  | error status =>
    intro same
    exact first (congrArg Except.error (Except.error.inj same))
  | ok result => exact next result

theorem Honest.ite {Result : Type} {condition : Prop} [Decidable condition] {yes no : Except FileStatus Result}
    (left : Honest yes) (right : Honest no) : Honest (if condition then yes else no) := by
  split
  next => exact left
  next => exact right

theorem decodePathRequestWithTrailer_honest (volumes : List Volume) (payload : List UInt8) (trailerSize : Nat) :
    Honest (decodePathRequestWithTrailer volumes payload trailerSize) := by
  unfold decodePathRequestWithTrailer
  apply Honest.ite (.error (by decide))
  apply Honest.ite (.error (by decide))
  split
  next => exact .error (by decide)
  next => exact .ite (.error (by decide)) (.ok _)

theorem statComponent_honest (tree : Tree) (path : Path) (answer : StatAnswer) :
    Honest (statComponent tree path answer) := by
  unfold statComponent
  split
  next => exact .errno _
  next => exact .ite (.error (by decide)) (.ok _)

theorem statComponents_honest (tree : Tree) (out : Path) (metadata : Metadata) (components : List Path)
    (answers : List StatAnswer) : Honest (statComponents tree out metadata components answers) := by
  induction components generalizing out metadata answers with
  | nil => exact .ok _
  | cons component components ih => exact .bind (statComponent_honest _ _ _) fun _ => ih _ _ _

theorem resolveExistingPath_honest (volume : Volume) (relative : Path) (tree : Tree) (answers : List StatAnswer) :
    Honest (resolveExistingPath volume relative tree answers) := by
  unfold resolveExistingPath
  apply Honest.ite (.error (by decide))
  apply Honest.ite
  · exact .bind (statComponent_honest _ _ _) fun _ => .ok _
  · exact statComponents_honest _ _ _ _ _

theorem resolveParentPath_honest (volume : Volume) (relative : Path) (tree : Tree) (answers : List StatAnswer) :
    Honest (resolveParentPath volume relative tree answers) := by
  unfold resolveParentPath
  apply Honest.ite (.error (by decide))
  apply Honest.bind (resolveExistingPath_honest _ _ _ _)
  intro resolved
  apply Honest.ite (.error (by decide))
  exact .ite (.error (by decide)) (.ok _)

theorem targetMetadata_honest (tree : Tree) (path : Path) (answer : StatAnswer) :
    Honest (targetMetadata tree path answer) := by
  unfold targetMetadata
  split
  next => exact .ite (.error (by decide)) (.ok _)
  next => exact .ok _
  next => exact .errno _

theorem bind_ok {Result Next : Type} {call : Except FileStatus Result} {rest : Result → Except FileStatus Next}
    {next : Next} : (call >>= rest) = .ok next ↔ ∃ result, call = .ok result ∧ rest result = .ok next := by
  cases call with
  | error status => simp [bind, Except.bind]
  | ok result => simp [bind, Except.bind]

theorem components_join (component : Path) (components : List Path) :
    (component :: components).flatMap (slash :: ·) = slash :: [slash].intercalate (component :: components) := by
  induction components generalizing component with
  | nil => simp [List.intercalate_singleton]
  | cons next components ih =>
    rw [List.flatMap_cons, ih, List.intercalate_cons_cons]
    simp

theorem splitOn_join (relative : Path) : (relative.splitOn slash).flatMap (slash :: ·) = slash :: relative := by
  obtain ⟨component, components, split⟩ := List.exists_cons_of_ne_nil (List.splitOn_ne_nil slash relative)
  have join : [slash].intercalate (relative.splitOn slash) = relative := List.intercalate_splitOn slash
  rw [split] at join ⊢
  rw [components_join, join]

theorem statComponent_ok {tree : Tree} {path : Path} {answer : StatAnswer} {metadata : Metadata}
    (found : statComponent tree path answer = .ok metadata) :
    ∃ node, tree path = some node ∧ metadata.type = node.type ∧ metadata.size = node.size := by
  unfold statComponent at found
  split at found
  next => contradiction
  next described stated =>
    split at found
    next => contradiction
    cases found
    exact fileStat_ok stated

theorem statComponents_ok {tree : Tree} {out path : Path} {start metadata : Metadata} {components : List Path}
    {answers : List StatAnswer} (some_component : components ≠ [])
    (found : statComponents tree out start components answers = .ok (path, metadata)) :
    path = out ++ components.flatMap (slash :: ·) ∧
      ∃ node, tree path = some node ∧ metadata.type = node.type ∧ metadata.size = node.size := by
  induction components generalizing out start answers with
  | nil => contradiction
  | cons component components ih =>
    obtain ⟨described, stated, found⟩ := bind_ok.mp found
    by_cases last : components = []
    · subst last
      cases found
      exact ⟨by simp, statComponent_ok stated⟩
    · obtain ⟨same, node⟩ := ih last found
      exact ⟨by rw [same]; simp, node⟩

def Volume.path (volume : Volume) (relative : Path) : Path :=
  if relative = [] then volume.basePath else volume.basePath ++ slash :: relative

theorem resolveExistingPath_ok {volume : Volume} {relative path : Path} {tree : Tree} {answers : List StatAnswer}
    {metadata : Metadata} (found : resolveExistingPath volume relative tree answers = .ok (path, metadata)) :
    path = volume.path relative ∧
      ∃ node, tree path = some node ∧ metadata.type = node.type ∧ metadata.size = node.size := by
  unfold resolveExistingPath at found
  by_cases long : fullPathSize < volume.basePath.length + (if relative.length > 0 then 1 else 0) + relative.length + 1
  · rw [if_pos long] at found
    contradiction
  rw [if_neg long] at found
  by_cases root : relative = []
  · rw [if_pos root] at found
    obtain ⟨described, stated, found⟩ := bind_ok.mp found
    cases found
    exact ⟨by rw [Volume.path, if_pos root], statComponent_ok stated⟩
  · rw [if_neg root] at found
    obtain ⟨same, node⟩ := statComponents_ok (List.splitOn_ne_nil _ _) found
    rw [splitOn_join] at same
    exact ⟨by rw [same, Volume.path, if_neg root], node⟩

theorem parentName_baseName {relative : Path} (unrooted : relative.head? ≠ some slash) :
    parentName relative = [] ∧ baseName relative = relative ∨
      parentName relative ≠ [] ∧ relative = parentName relative ++ slash :: baseName relative := by
  have parts : relative.reverse.takeWhile (· != slash) ++ relative.reverse.dropWhile (· != slash) =
      relative.reverse := List.takeWhile_append_dropWhile
  cases rest : relative.reverse.dropWhile (· != slash) with
  | nil =>
    left
    rw [rest, List.append_nil] at parts
    have base : baseName relative = relative := by
      unfold baseName
      rw [parts, List.reverse_reverse]
    refine ⟨?_, base⟩
    unfold parentName
    rw [base]
    simp
  | cons byte before =>
    right
    have stops : byte = slash := by
      have head := List.head?_dropWhile_not (· != slash) relative.reverse
      rw [rest] at head
      simpa using head
    have whole : relative = before.reverse ++ slash :: baseName relative := by
      have reversed := congrArg List.reverse parts
      rw [rest, List.reverse_append, List.reverse_reverse, List.reverse_cons, stops] at reversed
      exact reversed.symm.trans (by simp [baseName])
    have parent : parentName relative = before.reverse := by
      have length := congrArg List.length whole
      rw [List.length_append, List.length_cons, List.length_reverse] at length
      have count : relative.length - (baseName relative).length - 1 = before.reverse.length := by
        rw [List.length_reverse]
        omega
      have taken := congrArg (List.take before.reverse.length) whole
      rw [List.take_left] at taken
      rw [parentName, count, taken]
    refine ⟨?_, parent ▸ whole⟩
    rw [parent]
    intro empty
    rw [empty, List.nil_append] at whole
    apply unrooted
    rw [whole]
    rfl

theorem validRelativePath_unrooted {path : Path} (valid : validRelativePath path = true) :
    path.head? ≠ some slash := by
  unfold validRelativePath at valid
  split at valid
  next empty =>
    rw [empty]
    decide
  split at valid
  next => contradiction
  next fine => exact fun rooted => fine (.inr (.inl rooted))

theorem resolveParentPath_ok {volume : Volume} {relative parent target : Path} {tree : Tree}
    {answers : List StatAnswer} (unrooted : relative.head? ≠ some slash)
    (found : resolveParentPath volume relative tree answers = .ok (parent, target)) :
    target = volume.path relative := by
  unfold resolveParentPath at found
  split at found
  next => contradiction
  next named =>
    obtain ⟨⟨path, metadata⟩, resolved, found⟩ := bind_ok.mp found
    have same := (resolveExistingPath_ok resolved).1
    dsimp only at found
    split at found
    next => contradiction
    split at found
    next => contradiction
    cases found
    rw [same, Volume.path, Volume.path, if_neg named]
    rcases parentName_baseName unrooted with ⟨root, whole⟩ | ⟨below, whole⟩
    · rw [if_pos root, whole]
    · rw [if_neg below, List.append_assoc, List.cons_append, ← whole]

theorem decodePathRequestWithTrailer_ok {volumes : List Volume} {name path trailer : List UInt8}
    {request : PathRequest} (short : name.length ≤ 255) (bounded : path.length < 65536)
    (decoded : decodePathRequestWithTrailer volumes
      ([UInt8.ofNat name.length, 0] ++ littleEndian 2 path.length ++ name ++ path ++ trailer) trailer.length =
        .ok request) :
    findVolume volumes name = some request.volume ∧ request.relative = path ∧ request.trailer = trailer ∧
      validRelativePath path = true := by
  have header : ([UInt8.ofNat name.length, 0] ++ littleEndian 2 path.length).length = 4 := by simp
  have first : (byteAt ([UInt8.ofNat name.length, 0] ++ littleEndian 2 path.length ++ name ++ path ++ trailer) 0).toNat =
      name.length := by
    show (UInt8.ofNat name.length).toNat = name.length
    rw [UInt8.toNat_ofNat']
    omega
  have second : (irisGetLe16 ([UInt8.ofNat name.length, 0] ++ littleEndian 2 path.length ++ name ++ path ++ trailer)
      2).toNat = path.length := by
    rw [irisGetLe16_toNat, List.append_assoc, List.append_assoc, List.append_assoc,
      field_skip _ _ 2 2 (by simp)]
    exact field_littleEndian 2 _ _ bounded
  have named : ((([UInt8.ofNat name.length, 0] ++ littleEndian 2 path.length ++ name ++ path ++ trailer).drop 4).take
      name.length) = name := by
    rw [List.append_assoc, List.append_assoc, List.drop_left' header, List.take_left' rfl]
  have behind : ([UInt8.ofNat name.length, 0] ++ littleEndian 2 path.length ++ name ++ path ++ trailer).drop
      (4 + name.length) = path ++ trailer := by
    rw [List.append_assoc, List.drop_left' (by rw [List.length_append, header])]
  have rest : ([UInt8.ofNat name.length, 0] ++ littleEndian 2 path.length ++ name ++ path ++ trailer).drop
      (4 + name.length + path.length) = trailer := by
    rw [List.drop_left' (by rw [List.length_append, List.length_append, header])]
  unfold decodePathRequestWithTrailer at decoded
  dsimp only at decoded
  rw [first, second, named, behind, rest, List.take_left' rfl] at decoded
  split at decoded
  next => contradiction
  split at decoded
  next => contradiction
  split at decoded
  next => contradiction
  next volume found =>
    split at decoded
    next => contradiction
    next valid =>
      cases decoded
      exact ⟨found, rfl, rfl, by simpa using valid⟩

end EspIris.Device.Files
