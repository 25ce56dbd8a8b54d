import EspIris.Gateway.Listing
import EspIris.Gateway.Reconciliation
import EspIris.Lib.JsonDocument

/-! `load_system_update_bundle` and `build_system_update_bundle` of `iris_gateway/system_update.py`, on archives that
are lists of named members. -/

namespace EspIris.Gateway.SystemBundle
open JsonDocument Listing
open Reconciliation (PythonLibrary ComponentKind hexText inspectFirmwareImage)

abbrev Fields := List (Text × Value)

inductive BundleError
  | valueError (message : Text)
  | typeError (message : Text)
  /-- A `ValueError` whose text has the `repr` of a value in it. -/
  | about (before : Text) (value : Value) (behind : Text)
  | unhashable (value : Value)
  | unicodeEncodeError
  /-- What `zipfile` raises when a member cannot be read. -/
  | unreadable

def systemUpdateSchema : Text := textOf "esp-iris-system-update/v1"
def maxBundleBytes : Nat := 32 * 1024 * 1024
def maxArchiveMembers : Nat := 16
def maxManifestBytes : Nat := 2048
def maxSignatureBytes : Nat := 256
def maxComponents : Nat := 8
def maxComponentBytes : Nat := 16 * 1024 * 1024
def partitionTableRegionBytes : Nat := 0x1000
def manifestName : Text := textOf "manifest.json"
def signatureName : Text := textOf "manifest.sig"

def slash : Nat := 0x2f
def decimal (value : Nat) : Text := intText value

def require (condition : Prop) [Decidable condition] (error : BundleError) : Except BundleError Unit :=
  if condition then .ok () else .error error

def requireText (condition : Prop) [Decidable condition] (message : String) : Except BundleError Unit :=
  require condition (.valueError (textOf message))

/-- `value.get(key)`, which is `None` when there is no such key. -/
def get (fields : Fields) (key : String) : Value := (fields.lookup (textOf key)).getD .null

def isNull : Value → Bool
  | .null => true
  | _ => false

def isText (letters : String) : Value → Bool
  | .str text => text = textOf letters
  | _ => false

def isObject : Value → Option Fields
  | .object fields => some fields
  | _ => none

def mapping (value : Value) (name : Text) : Except BundleError Fields :=
  match value with
  | .object fields => .ok fields
  | _ => .error (.typeError (name ++ textOf " must be an object"))

/-- `', '.join(sorted(names))`. -/
def joined (names : List Text) : Text :=
  [comma, 0x20].intercalate (names.mergeSort textLe)

def requireFields (value : Fields) (name : Text) (required optional : List String) : Except BundleError Unit := do
  let missing := (required.map textOf).filter fun key => key ∉ value.map Prod.fst
  let unknown := (value.map Prod.fst).filter fun key => key ∉ (required ++ optional).map textOf
  require (missing = []) (.valueError (name ++ textOf " is missing fields: " ++ joined missing))
  require (unknown = []) (.valueError (name ++ textOf " has unknown fields: " ++ joined unknown))

def boundedUint (value : Value) (name : String) (maximum : Nat) : Except BundleError Nat :=
  match value with
  | .int number =>
    if 0 ≤ number ∧ number ≤ maximum then .ok number.toNat
    else .error (.valueError (textOf name ++ textOf " is outside 0.." ++ decimal maximum))
  | _ => .error (.typeError (textOf (name ++ " must be an integer")))

/-- `bytes.fromhex`, which passes blanks between bytes. -/
def fromHex : Text → Option (List UInt8)
  | [] => some []
  | code :: rest =>
    if code = 0x20 ∨ (0x09 ≤ code ∧ code ≤ 0x0d) then fromHex rest
    else
      match rest with
      | [] => none
      | low :: rest =>
        match hexValue code, hexValue low with
        | some high, some low => (fromHex rest).map (UInt8.ofNat (high * 16 + low) :: ·)
        | _, _ => none

/-- `str.lower`, of digits and blanks. -/
def lower (text : Text) : Text := text.map fun code => if 0x41 ≤ code ∧ code ≤ 0x5a then code + 0x20 else code

def sha256Hex (value : Value) (name : String) : Except BundleError Text :=
  match value with
  | .str text =>
    if text.length ≠ 64 then .error (.valueError (textOf (name ++ " must contain 64 lowercase hex characters")))
    else
      match fromHex text with
      | none => .error (.valueError (textOf (name ++ " is not hexadecimal")))
      | some raw =>
        if text ≠ lower text ∨ raw.length ≠ 32 then
          .error (.valueError (textOf (name ++ " must contain canonical lowercase SHA-256")))
        else .ok text
  | _ => .error (.valueError (textOf (name ++ " must contain 64 lowercase hex characters")))

/-- `PurePosixPath(text).parts`, of a path that is not absolute. -/
def pathParts (text : Text) : List Text := (text.splitOn slash).filter fun part => part ≠ [] ∧ part ≠ textOf "."

def safeMemberName (value : Value) (name : String) : Except BundleError Text :=
  match value with
  | .str text =>
    if text = [] ∨ 128 < text.length then
      .error (.valueError (textOf (name ++ " must be a non-empty archive member name")))
    else if text.head? = some slash ∨ textOf ".." ∈ pathParts text ∨ (pathParts text).length ≠ 1 then
      .error (.valueError (textOf (name ++ " must be a root-level archive filename")))
    else .ok text
  | _ => .error (.valueError (textOf (name ++ " must be a non-empty archive member name")))

/-- A key that `cryptography` has read. -/
inductive PemKey (Key : Type)
  | p256 (key : Key)
  | other

/-- What `cryptography` gives; a signature has a random part. -/
structure Cryptography where
  PublicKey : Type
  PrivateKey : Type
  loadPemPublicKey : List UInt8 → Option (PemKey PublicKey)
  loadPemPrivateKey : List UInt8 → Option (List UInt8) → Option (PemKey PrivateKey)
  verify : PublicKey → List UInt8 → List UInt8 → Bool
  sign : PrivateKey → Nat → List UInt8 → List UInt8
  publicBytes : PrivateKey → List UInt8

def loadPublicKey (crypto : Cryptography) (data : List UInt8) : Except BundleError crypto.PublicKey :=
  match crypto.loadPemPublicKey data with
  | none => .error (.valueError (textOf "system-update trust key is not valid PEM"))
  | some .other => .error (.typeError (textOf "system-update trust key must be ECDSA P-256"))
  | some (.p256 key) => .ok key

def loadPrivateKey (crypto : Cryptography) (data : List UInt8) (password : Option (List UInt8)) :
    Except BundleError crypto.PrivateKey :=
  match crypto.loadPemPrivateKey data password with
  | none => .error (.valueError (textOf "system-update signing key or password is not valid PEM"))
  | some .other => .error (.typeError (textOf "system-update signing key must be ECDSA P-256"))
  | some (.p256 key) => .ok key

/-- A `ZipInfo`, and what `read` returns of it if it does not raise. -/
structure ZipMember where
  filename : Text
  flagBits : Nat
  compressType : Nat
  fileSize : Nat
  data : Option (List UInt8)

def ZipMember.isDir (info : ZipMember) : Prop := info.filename.getLast? = some slash

instance (info : ZipMember) : Decidable info.isDir := inferInstanceAs (Decidable (_ = _))

def zipStored : Nat := 0
def zipDeflated : Nat := 8

/-- The loop of `_archive_members`. -/
def archiveMembersFrom : List ZipMember → List (Text × ZipMember) → Nat → Except BundleError (List (Text × ZipMember))
  | [], result, _ => .ok result
  | info :: infos, result, total => do
    let name ← safeMemberName (.str info.filename) "archive member"
    require (name ∉ result.map Prod.fst) (.about (textOf "duplicate archive member ") (.str name) [])
    requireText (¬ info.isDir ∧ info.flagBits % 2 = 0) "directories and encrypted archive members are not allowed"
    requireText (info.compressType = zipStored ∨ info.compressType = zipDeflated)
      "unsupported system-update archive compression"
    require (info.fileSize ≤ maxComponentBytes)
      (.about (textOf "archive member ") (.str name) (textOf " is too large"))
    requireText (total + info.fileSize ≤ maxBundleBytes) "system-update archive expands beyond the size limit"
    archiveMembersFrom infos (result ++ [(name, info)]) (total + info.fileSize)

def archiveMembers (infos : List ZipMember) : Except BundleError (List (Text × ZipMember)) := do
  requireText (1 ≤ infos.length ∧ infos.length ≤ maxArchiveMembers)
    "system-update archive has an invalid member count"
  archiveMembersFrom infos [] 0

def readMember (members : List (Text × ZipMember)) (name : Text) : Except BundleError (List UInt8) :=
  match (members.lookup name).bind ZipMember.data with
  | some data => .ok data
  | none => .error .unreadable

structure Archive where
  size : Nat
  infos : Option (List ZipMember)

inductive Source
  | bytes (archive : Archive)
  | path (archive : Option Archive)

def Source.read : Source → Except BundleError Archive
  | .bytes archive =>
    if maxBundleBytes < archive.size then
      .error (.valueError (textOf "system-update archive exceeds the size limit"))
    else .ok archive
  | .path none => .error (.valueError (textOf "system-update archive is missing or too large"))
  | .path (some archive) =>
    if maxBundleBytes < archive.size then
      .error (.valueError (textOf "system-update archive is missing or too large"))
    else .ok archive

/-- `zipfile.ZipFile` and `infolist`. -/
def Archive.open (archive : Archive) : Except BundleError (List ZipMember) :=
  match archive.infos with
  | some infos => .ok infos
  | none => .error (.valueError (textOf "system-update bundle is not a valid ZIP archive"))

def decodeText (bytes : List UInt8) : Option Text := (decodeUtf8 bytes).map (List.map Char.toNat)

def notJson : BundleError := .valueError (textOf "system-update manifest is not valid UTF-8 JSON")

def parseManifest (bytes : List UInt8) : Except BundleError Value :=
  match decodeText bytes with
  | none => .error notJson
  | some text =>
    match loads text with
    | .error .invalid => .error notJson
    | .error (.duplicate key) => .error (.about (textOf "duplicate manifest field ") (.str key) [])
    | .ok document => .ok document

def checkSignature (crypto : Cryptography) (publicKey : Option crypto.PublicKey)
    (signature manifestBytes : List UInt8) : Except BundleError Unit := do
  requireText (signature = [] ∨ publicKey.isSome) "signed system-update bundle requires a trust key"
  requireText (signature ≠ [] ∨ publicKey.isNone) "unsigned system-update bundle rejected by trust policy"
  requireText (signature = [] ∨ publicKey.any fun key => crypto.verify key signature manifestBytes)
    "system-update manifest signature is invalid"

def optionalText (manifest : Fields) (key : String) : Except BundleError Unit :=
  match get manifest key with
  | .null => .ok ()
  | .str text =>
    require (1 ≤ text.length ∧ text.length ≤ 64) (.typeError (textOf (key ++ " must be a bounded string")))
  | _ => .error (.typeError (textOf (key ++ " must be a bounded string")))

/-- The `key_id` of a signed bundle. -/
def signatureKeyId (value : Value) (signed : Bool) : Except BundleError (Option Text) :=
  if signed = true then do
    let info ← mapping value (textOf "signature")
    requireFields info (textOf "signature") ["algorithm", "key_id"] []
    requireText (isText "ecdsa-p256-sha256" (get info "algorithm") = true)
      "unsupported system-update signature algorithm"
    match get info "key_id" with
    | .str text =>
      if 1 ≤ text.length ∧ text.length ≤ 64 then .ok (some text)
      else .error (.valueError (textOf "system-update signature key_id is invalid"))
    | _ => .error (.valueError (textOf "system-update signature key_id is invalid"))
  else if isNull value = true then .ok none
  else .error (.valueError (textOf "unsigned system-update manifest must omit signature"))

/-- The items of `components`. -/
def componentValues : Value → Except BundleError (List Value)
  | .array items =>
    if 1 ≤ items.length ∧ items.length ≤ maxComponents then .ok items
    else .error (.valueError (textOf "components must contain 1..8 entries"))
  | _ => .error (.valueError (textOf "components must contain 1..8 entries"))

structure Header where
  manifest : Fields
  keyId : Option Text
  chipId : Nat
  flashSize : Nat
  targetLayout : Text
  values : List Value

def readHeader (document : Value) (signed : Bool) : Except BundleError Header := do
  let manifest ← mapping document (textOf "manifest")
  requireText (isText "esp-iris-system-update/v1" (get manifest "schema") = true)
    "unsupported system-update manifest schema"
  requireFields manifest (textOf "manifest") ["schema", "target", "target_layout_sha256", "components"]
    ["release", "minimum_recovery_version", "signature"]
  optionalText manifest "release"
  optionalText manifest "minimum_recovery_version"
  let keyId ← signatureKeyId (get manifest "signature") signed
  let target ← mapping (get manifest "target") (textOf "target")
  requireFields target (textOf "target") ["chip_id", "flash_size"] []
  let chipId ← boundedUint (get target "chip_id") "target.chip_id" 0xffff
  let flashSize ← boundedUint (get target "flash_size") "target.flash_size" 0xffffffff
  requireText (flashSize ≠ 0 ∧ flashSize % 4096 = 0) "target.flash_size must be a non-zero 4 KiB multiple"
  let targetLayout ← sha256Hex (get manifest "target_layout_sha256") "target_layout_sha256"
  let values ← componentValues (get manifest "components")
  .ok { manifest, keyId, chipId, flashSize, targetLayout, values }

def kindNames : List (Text × ComponentKind) :=
  [(textOf "bootloader", .bootloader), (textOf "partition_table", .partitionTable),
    (textOf "application", .application), (textOf "recovery", .recovery), (textOf "data", .data)]

def componentKind (value : Value) : Except BundleError ComponentKind :=
  match value with
  | .str text =>
    match kindNames.lookup text with
    | some kind => .ok kind
    | none => .error (.about (textOf "unsupported component kind ") value [])
  | .array _ | .object _ => .error (.unhashable value)
  | _ => .error (.about (textOf "unsupported component kind ") value [])

structure SystemUpdateComponent where
  id : Nat
  kind : ComponentKind
  flags : Nat
  targetOffset : Nat
  size : Nat
  sha256 : List UInt8
  filename : Text
  data : List UInt8

def SystemUpdateComponent.regionEnd (component : SystemUpdateComponent) : Nat :=
  component.targetOffset + component.size

structure SystemUpdateBundle where
  manifest : Fields
  manifestBytes : List UInt8
  signature : List UInt8
  manifestSha256 : List UInt8
  keyId : Option Text
  signatureVerified : Bool
  chipId : Nat
  flashSize : Nat
  targetLayoutSha256 : Text
  components : List SystemUpdateComponent

def alignment (kind : ComponentKind) : Nat := if kind = .application then 0x10000 else 0x1000

def alignmentText (kind : ComponentKind) : Text := if kind = .application then textOf "10000" else textOf "1000"

structure Loaded where
  identifiers : List Nat
  singletonKinds : List ComponentKind
  filenames : List Text
  components : List SystemUpdateComponent

section load
variable (library : PythonLibrary) (members : List (Text × ZipMember)) (chipId flashSize : Nat)

def inspectComponent (component : SystemUpdateComponent) : Except BundleError Unit :=
  if component.kind = .application ∨ component.kind = .recovery then
    match inspectFirmwareImage library component.data with
    | .error message => .error (.valueError (textOf message))
    | .ok firmware =>
      require (firmware.chipId = chipId) (.valueError (textOf "component " ++ decimal component.id ++
        textOf (if component.kind = .application then " application" else " recovery") ++
        textOf " chip ID does not match target"))
  else .ok ()

structure Declared where
  id : Nat
  kind : ComponentKind
  flags : Nat
  targetOffset : Nat
  size : Nat
  shaHex : Text
  filename : Text

def readDeclared (loaded : Loaded) (index : Nat) (value : Value) : Except BundleError Declared := do
  let name := textOf "components[" ++ decimal index ++ textOf "]"
  let item ← mapping value name
  requireFields item name ["id", "kind", "target_offset", "size", "sha256", "file"] ["flags"]
  let id ← boundedUint (get item "id") "component id" 0xff
  requireText (id ≠ 0 ∧ id ∉ loaded.identifiers) "component IDs must be unique and non-zero"
  let kind ← componentKind (get item "kind")
  require (kind = .data ∨ kind ∉ loaded.singletonKinds)
    (.about (textOf "component kind ") (get item "kind") (textOf " is duplicated"))
  let flags ← boundedUint ((item.lookup (textOf "flags")).getD (.int 0)) "component flags" 0xffff
  let targetOffset ← boundedUint (get item "target_offset") "component target_offset" 0xffffffff
  let size ← boundedUint (get item "size") "component size" 0xffffffff
  requireText (size ≠ 0 ∧ size ≤ maxComponentBytes ∧ targetOffset + size ≤ flashSize)
    "component is empty, too large or outside target Flash"
  require (targetOffset % alignment kind = 0) (.valueError (textOf "component " ++ decimal id ++
    textOf " target offset is not 0x" ++ alignmentText kind ++ textOf "-aligned"))
  let shaHex ← sha256Hex (get item "sha256") "component sha256"
  let filename ← safeMemberName (get item "file") "component file"
  require (filename ∉ loaded.filenames ∧ filename ∈ members.map Prod.fst)
    (.about (textOf "component archive member ") (.str filename) (textOf " is invalid"))
  .ok { id, kind, flags, targetOffset, size, shaHex, filename }

def loadComponent (loaded : Loaded) (index : Nat) (value : Value) : Except BundleError Loaded := do
  let item ← readDeclared members flashSize loaded index value
  let data ← readMember members item.filename
  require (data.length = item.size)
    (.valueError (textOf "component " ++ decimal item.id ++ textOf " size does not match manifest"))
  let digest := library.sha256 data
  require (textOf (hexText digest) = item.shaHex)
    (.valueError (textOf "component " ++ decimal item.id ++ textOf " SHA-256 does not match manifest"))
  let component : SystemUpdateComponent :=
    { id := item.id, kind := item.kind, flags := item.flags, targetOffset := item.targetOffset, size := item.size,
      sha256 := digest, filename := item.filename, data }
  inspectComponent library chipId component
  .ok
    { identifiers := item.id :: loaded.identifiers
      singletonKinds := if item.kind = .data then loaded.singletonKinds else item.kind :: loaded.singletonKinds
      filenames := item.filename :: loaded.filenames
      components := loaded.components ++ [component] }

def loadComponents : List Value → Nat → Loaded → Except BundleError Loaded
  | [], _, loaded => .ok loaded
  | value :: values, index, loaded => do
    let loaded ← loadComponent library members chipId flashSize loaded index value
    loadComponents values (index + 1) loaded

end load

def regionLe (first second : Nat × Nat × Nat) : Bool :=
  first.1 < second.1 || first.1 = second.1 &&
    (first.2.1 < second.2.1 || first.2.1 = second.2.1 && first.2.2 ≤ second.2.2)

def orderedRegions (components : List SystemUpdateComponent) : List (Nat × Nat × Nat) :=
  (components.map fun item => (item.targetOffset, item.regionEnd, item.id)).mergeSort regionLe

def checkRegions : List (Nat × Nat × Nat) → Except BundleError Unit
  | previous :: current :: regions => do
    require (previous.2.1 ≤ current.1) (.valueError (textOf "components " ++ decimal previous.2.2 ++ textOf " and " ++
      decimal current.2.2 ++ textOf " overlap in target Flash"))
    checkRegions (current :: regions)
  | _ => .ok ()

def zeroLayout : Text := List.replicate 64 0x30

def firstOf (components : List SystemUpdateComponent) (kind : ComponentKind) : Option SystemUpdateComponent :=
  components.find? (·.kind = kind)

def checkLayout (components : List SystemUpdateComponent) (targetLayout : Text) : Except BundleError Unit := do
  let partitionTable := firstOf components .partitionTable
  let recovery := firstOf components .recovery
  let bootloader := firstOf components .bootloader
  requireText (∀ table ∈ partitionTable, table.size = partitionTableRegionBytes)
    "partition-table component must cover one 4 KiB sector"
  requireText (recovery.isNone ∨ components.length = 1) "recovery must be the bundle's only component"
  requireText (recovery.isNone ∨ targetLayout ≠ zeroLayout)
    "recovery bundle requires an explicit target layout SHA-256"
  requireText (bootloader.isNone ∨ partitionTable.isSome) "bootloader component requires a partition-table component"
  requireText (∀ loader ∈ bootloader, ∀ table ∈ partitionTable, loader.regionEnd = table.targetOffset)
    "bootloader component must cover the full range before the partition table"
  requireText (∀ table ∈ partitionTable, textOf (hexText table.sha256) = targetLayout)
    "target layout SHA-256 does not match partition table"

def readSignature (members : List (Text × ZipMember)) : Except BundleError (List UInt8) :=
  if signatureName ∈ members.map Prod.fst then readMember members signatureName else .ok []

/-- `_load_public_key`, if there is a trust key. -/
def trustedKey (crypto : Cryptography) : Option (List UInt8) → Except BundleError (Option crypto.PublicKey)
  | none => .ok none
  | some data => do
    let key ← loadPublicKey crypto data
    .ok (some key)

def loadSystemUpdateBundle (library : PythonLibrary) (crypto : Cryptography) (source : Source)
    (trustedPublicKey : Option (List UInt8)) : Except BundleError SystemUpdateBundle := do
  let archive ← source.read
  let publicKey ← trustedKey crypto trustedPublicKey
  let infos ← archive.open
  let members ← archiveMembers infos
  requireText (manifestName ∈ members.map Prod.fst) "system-update bundle requires manifest.json"
  let manifestBytes ← readMember members manifestName
  let signature ← readSignature members
  requireText (1 ≤ manifestBytes.length ∧ manifestBytes.length ≤ maxManifestBytes)
    "system-update manifest exceeds the device bound"
  requireText (signature.length ≤ maxSignatureBytes) "system-update signature has an invalid size"
  checkSignature crypto publicKey signature manifestBytes
  let document ← parseManifest manifestBytes
  let header ← readHeader document (signature ≠ [])
  let loaded ← loadComponents library members header.chipId header.flashSize header.values 0
    { identifiers := [], singletonKinds := []
      filenames := if signature ≠ [] then [signatureName, manifestName] else [manifestName], components := [] }
  let unused := (members.map Prod.fst).filter fun name => name ∉ loaded.filenames
  require (unused = []) (.valueError (textOf "system-update bundle contains undeclared members: " ++ joined unused))
  checkRegions (orderedRegions loaded.components)
  checkLayout loaded.components header.targetLayout
  .ok
    { manifest := header.manifest
      manifestBytes
      signature
      manifestSha256 := library.sha256 manifestBytes
      keyId := header.keyId
      signatureVerified := signature ≠ []
      chipId := header.chipId
      flashSize := header.flashSize
      targetLayoutSha256 := header.targetLayout
      components := loaded.components }

end EspIris.Gateway.SystemBundle
