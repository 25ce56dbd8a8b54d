import EspIris.Gateway.BundleSoundness
import Mathlib.Data.List.TakeWhile

/-! `build_system_update_bundle`, and that what it writes is loaded as the components of its template. -/

namespace EspIris.Gateway.SystemBundle
open JsonDocument Listing
open Reconciliation (PythonLibrary ComponentKind hexDigit hexText)
variable {value : Value} {fields : Fields} {text : Text} {item : Fields}

/-- What `json.loads(json.dumps(manifest))` returns. -/
structure Template where
  value : Value
  wellFormed : WellFormed value

/-- The files of `component_root`, under their names. -/
abbrev ComponentFiles := Text → Option (List UInt8)

abbrev ComponentData := List (Text × List UInt8)

/-- `text.encode("utf-8")`. -/
def encodeText (text : Text) : Except BundleError (List UInt8) :=
  if ∀ code ∈ text, code.isValidChar then .ok (text.flatMap fun code => String.utf8EncodeChar (Char.ofNat code))
  else .error .unicodeEncodeError

/-- `data.ljust(size, b"\xff")`. -/
def fill (data : List UInt8) (size : Nat) : List UInt8 := data.rightpad size 0xff

def itemsOfKind (values : List Value) (name : String) : List Fields :=
  (values.filterMap isObject).filter fun item => isText name (get item "kind")

def templateValues : Value → Except BundleError (List Value)
  | .array (value :: values) => .ok (value :: values)
  | _ => .error (.valueError (textOf "manifest template requires components"))

def partitionOffset : List Fields → Except BundleError (Option Nat)
  | [] => .ok none
  | item :: _ => do
    let offset ← boundedUint (get item "target_offset") "partition-table target_offset" 0xffffffff
    .ok (some offset)

def padComponent (partition : Option Nat) (item : Fields) (data : List UInt8) : Except BundleError (List UInt8) :=
  if isText "partition_table" (get item "kind") = true then do
    requireText (data.length ≤ partitionTableRegionBytes) "partition-table image exceeds its 4 KiB sector"
    .ok (fill data partitionTableRegionBytes)
  else if isText "bootloader" (get item "kind") = true then
    match partition with
    | none => .error (.valueError (textOf "bootloader component requires a partition-table component"))
    | some partition => do
      let offset ← boundedUint (get item "target_offset") "bootloader target_offset" 0xffffffff
      requireText (offset < partition ∧ partition - offset ≤ maxComponentBytes) "bootloader protected range is invalid"
      requireText (data.length ≤ partition - offset) "bootloader image exceeds its protected range"
      .ok (fill data (partition - offset))
  else if isText "recovery" (get item "kind") = true then do
    let size ← boundedUint (get item "size") "recovery protected size" maxComponentBytes
    requireText (size ≠ 0 ∧ size % 0x1000 = 0) "recovery protected size must be a non-zero 4 KiB multiple"
    requireText (data.length ≤ size) "recovery image exceeds its protected range"
    .ok (fill data size)
  else .ok data

/-- `path.read_bytes()`, of a file that is there. -/
def readSource (files : ComponentFiles) (filename : Text) : Except BundleError (List UInt8) :=
  match files filename with
  | none => .error (.about (textOf "component source ") (.str filename) (textOf " does not exist"))
  | some data =>
    if data = [] ∨ maxComponentBytes < data.length then
      .error (.about (textOf "component source ") (.str filename) (textOf " has an invalid size"))
    else .ok data

def describe (library : PythonLibrary) (item : Fields) (data : List UInt8) : Fields :=
  setField (textOf "sha256") (.str (textOf (hexText (library.sha256 data))))
    (setField (textOf "size") (.int data.length) item)

section build
variable (library : PythonLibrary) (files : ComponentFiles) (partition : Option Nat)

/-- A turn of the loop over the components: the item, and what it adds to `component_data`. -/
def buildComponent (componentData : ComponentData) (index : Nat) (value : Value) :
    Except BundleError (Fields × Text × List UInt8) := do
  let item ← mapping value (textOf "components[" ++ decimal index ++ textOf "]")
  let filename ← safeMemberName (get item "file") "component file"
  require (filename ∉ componentData.map Prod.fst)
    (.about (textOf "component file ") (.str filename) (textOf " is duplicated"))
  let data ← readSource files filename
  let data ← padComponent partition item data
  .ok (describe library item data, filename, data)

def buildComponents : List Value → Nat → ComponentData → Except BundleError (List Value × ComponentData)
  | [], _, componentData => .ok ([], componentData)
  | value :: values, index, componentData => do
    let built ← buildComponent library files partition componentData index value
    let later ← buildComponents values (index + 1) (componentData ++ [built.2])
    .ok (.object built.1 :: later.1, later.2)

end build

def buildManifest (manifest : Fields) (items : List Value) : Fields :=
  let document := setField (textOf "components") (.array items) manifest
  match (itemsOfKind items "partition_table").getLast? with
  | some item => setField (textOf "target_layout_sha256") (get item "sha256") document
  | none => document

def checkRecovery (document : Fields) (items : List Value) : Except BundleError Unit :=
  if (itemsOfKind items "recovery").isEmpty = true then .ok ()
  else do
    requireText (items.length = 1) "recovery must be the bundle's only component"
    let layout ← sha256Hex (get document "target_layout_sha256") "target_layout_sha256"
    requireText (layout ≠ zeroLayout) "recovery bundle requires an explicit target layout SHA-256"

def buildDocument (library : PythonLibrary) (files : ComponentFiles) (template : Template) :
    Except BundleError (Fields × ComponentData) := do
  let manifest ← mapping template.value (textOf "manifest")
  let values ← templateValues (get manifest "components")
  let partitionItems := itemsOfKind values "partition_table"
  requireText (partitionItems.length ≤ 1) "manifest may contain only one partition table"
  let partition ← partitionOffset partitionItems
  let built ← buildComponents library files partition values 0 []
  let document := buildManifest manifest built.1
  checkRecovery document built.1
  .ok (document, built.2)

structure Signing where
  privateKey : Option (List UInt8)
  password : Option (List UInt8)
  nonce : Nat

def signManifest (crypto : Cryptography) (signing : Signing) (signatureValue : Value) (manifestBytes : List UInt8) :
    Except BundleError (Option crypto.PrivateKey × List UInt8) :=
  match signing.privateKey with
  | none => do
    requireText (signing.password.isNone) "signing key password requires a signing key"
    requireText (isNull signatureValue = true) "unsigned system-update manifest must omit signature"
    .ok (none, [])
  | some data => do
    requireText (isNull signatureValue = false) "signed system-update manifest requires signature metadata"
    let key ← loadPrivateKey crypto data signing.password
    .ok (some key, crypto.sign key signing.nonce manifestBytes)

/-- `writestr`: a `ZipInfo` cuts its name at a NUL. -/
def writeMember (member : Text × List UInt8) : ZipMember where
  filename := member.1.takeWhile (· ≠ 0)
  flagBits := if member.1.all (· < 0x80) then 0 else 0x800
  compressType := zipDeflated
  fileSize := member.2.length
  data := some member.2

/-- `sorted(component_data.items())`. -/
def sortedData (componentData : ComponentData) : ComponentData :=
  componentData.mergeSort fun first second => textLe first.1 second.1

def bundleMembers (manifestBytes signature : List UInt8) (componentData : ComponentData) : List ZipMember :=
  ((manifestName, manifestBytes) :: (if signature ≠ [] then [(signatureName, signature)] else []) ++
    sortedData componentData).map writeMember

structure Built where
  archive : Archive
  publicKey : Option (List UInt8)

/-- `pack` is how long the archive of the members is. -/
def buildSystemUpdateBundle (library : PythonLibrary) (crypto : Cryptography) (pack : List ZipMember → Nat)
    (template : Template) (files : ComponentFiles) (signing : Signing) : Except BundleError Built := do
  let built ← buildDocument library files template
  let manifestBytes ← encodeText (dumps (.object built.1))
  requireText (manifestBytes.length ≤ maxManifestBytes) "canonical system-update manifest is too large"
  let signed ← signManifest crypto signing (get built.1 "signature") manifestBytes
  let infos := bundleMembers manifestBytes signed.2 built.2
  let archive : Archive := { size := pack infos, infos := some infos }
  let publicKey := signed.1.map crypto.publicBytes
  let _ ← loadSystemUpdateBundle library crypto (.path (some archive)) publicKey
  .ok { archive, publicKey }

section texts

theorem toNat_ofNat {code : Nat} (valid : code.isValidChar) : (Char.ofNat code).toNat = code := by
  unfold Char.ofNat
  rw [dif_pos valid]
  rfl

theorem decodeText_encoded {bytes : List UInt8} (encoded : encodeText text = .ok bytes) :
    decodeText bytes = some text := by
  unfold encodeText at encoded
  split at encoded
  next valid =>
    obtain rfl := Except.ok.inj encoded
    have letters : (text.flatMap fun code => String.utf8EncodeChar (Char.ofNat code)) =
        (text.map Char.ofNat).flatMap String.utf8EncodeChar := by
      rw [List.flatMap_map]
    unfold decodeText
    rw [letters, decodeUtf8_encoded, Option.map_some, List.map_map]
    congr 1
    calc
      text.map (Char.toNat ∘ Char.ofNat) = text.map id :=
        List.map_congr_left fun code member => toNat_ofNat (valid code member)
      _ = text := List.map_id text
  next => cases encoded

theorem parseManifest_encoded {bytes : List UInt8} (wellFormed : WellFormed value)
    (encoded : encodeText (dumps value) = .ok bytes) : parseManifest bytes = .ok (sortKeys value) := by
  unfold parseManifest
  rw [decodeText_encoded encoded]
  dsimp only
  rw [loads_dumps wellFormed]

theorem combine_plain (plain : ∀ code ∈ text, code < 0xd800) : combine text = text := by
  fun_induction combine text with
  | case1 high low rest surrogates => exact absurd surrogates.1 (Nat.not_le.mpr (plain high List.mem_cons_self))
  | case2 high low rest _ ih => rw [ih fun code member => plain code (List.mem_cons_of_mem _ member)]
  | case3 => rfl

theorem textOf_hexText_plain (bytes : List UInt8) : combine (textOf (hexText bytes)) = textOf (hexText bytes) := by
  apply combine_plain
  intro code member
  obtain ⟨letter, inside, rfl⟩ := List.mem_map.mp member
  unfold hexText at inside
  rw [String.toList_ofList] at inside
  obtain ⟨byte, -, digit⟩ := List.mem_flatMap.mp inside
  have each : ∀ value, (hexDigit value).toNat < 0xd800 := by
    intro value
    by_cases small : value < 16
    · have checked : ∀ value < 16, (hexDigit value).toNat < 0xd800 := by decide
      exact checked value small
    · unfold hexDigit
      rw [List.getD_eq_getElem?_getD, List.getElem?_eq_none (Nat.not_lt.mp small)]
      decide
  rcases List.mem_cons.mp digit with rfl | digit
  · exact each _
  · rw [List.mem_singleton.mp digit]
    exact each _

end texts

section values

theorem get_sorted (nodup : (fields.map Prod.fst).Nodup) (key : String) :
    get (sorted fields) key = sortKeys (get fields key) := by
  unfold get
  rw [lookup_sorted nodup]
  cases fields.lookup (textOf key) with
  | none => rfl
  | some value => rfl

theorem get_setField (fields : Fields) (key other : String) (value : Value) :
    get (setField (textOf key) value fields) other = if other = key then value else get fields other := by
  unfold get
  rw [lookup_setField]
  by_cases same : other = key
  · rw [if_pos same, if_pos (congrArg textOf same)]
    rfl
  · rw [if_neg same, if_neg fun equal => same (textOf_inj equal)]

theorem sortKeys_int {number : Int} (sorted : sortKeys value = .int number) : value = .int number := by
  cases value with
  | int other => exact sorted
  | _ => cases sorted

theorem sortKeys_str (sorted : sortKeys value = .str text) : value = .str text := by
  cases value with
  | str other => exact sorted
  | _ => cases sorted

theorem wellFormed_get (wellFormed : WellFormed (.object fields)) (key : String) :
    WellFormed (get fields key) := by
  rw [WellFormed] at wellFormed
  unfold get
  cases found : fields.lookup (textOf key) with
  | none => trivial
  | some value => exact (wellFormedFields_iff.mp wellFormed.2 _ ((lookup_iff wellFormed.1).mp found)).2

theorem wellFormed_setField (wellFormed : WellFormed (.object fields)) {key : Text} (plain : combine key = key)
    (inside : WellFormed value) : WellFormed (.object (setField key value fields)) := by
  rw [WellFormed] at wellFormed ⊢
  refine ⟨setField_nodup wellFormed.1 key value, wellFormedFields_iff.mpr fun field member => ?_⟩
  rcases mem_setField member with rfl | earlier
  · exact ⟨plain, inside⟩
  · exact wellFormedFields_iff.mp wellFormed.2 field earlier

end values

section built
variable {library : PythonLibrary} {files : ComponentFiles} {partition : Option Nat}

def BuiltFrom (library : PythonLibrary) (files : ComponentFiles) (partition : Option Nat) (value : Value)
    (built : Fields × Text × List UInt8) : Prop :=
  ∃ item raw, value = .object item ∧ get item "file" = .str built.2.1 ∧ files built.2.1 = some raw ∧
    padComponent partition item raw = .ok built.2.2 ∧ built.1 = describe library item built.2.2

theorem readSource_ok {filename : Text} {data : List UInt8} (read : readSource files filename = .ok data) :
    files filename = some data := by
  unfold readSource at read
  split at read
  next => cases read
  next found =>
    split at read
    next => cases read
    next => rw [found, Except.ok.inj read]

theorem buildComponent_ok {componentData : ComponentData} {index : Nat} {built : Fields × Text × List UInt8}
    (read : buildComponent library files partition componentData index value = .ok built) :
    BuiltFrom library files partition value built ∧ built.2.1 ∉ componentData.map Prod.fst := by
  unfold buildComponent at read
  obtain ⟨item, isObject, read⟩ := bind_ok.mp read
  obtain ⟨filename, named, read⟩ := bind_ok.mp read
  obtain ⟨fresh, read⟩ := require_bind.mp read
  obtain ⟨raw, isRaw, read⟩ := bind_ok.mp read
  obtain ⟨data, padded, read⟩ := bind_ok.mp read
  obtain rfl := Except.ok.inj read
  exact ⟨⟨item, raw, mapping_ok isObject, (safeMemberName_ok named).1, readSource_ok isRaw, padded, rfl⟩, fresh⟩

theorem buildComponents_ok {values : List Value} {index : Nat} {componentData : ComponentData}
    {result : List Value × ComponentData}
    (read : buildComponents library files partition values index componentData = .ok result) :
    ∃ built : List (Fields × Text × List UInt8), result.1 = built.map (fun each => .object each.1) ∧
      result.2 = componentData ++ built.map Prod.snd ∧
      List.Forall₂ (BuiltFrom library files partition) values built := by
  induction values generalizing index componentData result with
  | nil =>
    obtain rfl := Except.ok.inj read
    exact ⟨[], rfl, (List.append_nil _).symm, .nil⟩
  | cons value values ih =>
    rw [buildComponents] at read
    obtain ⟨first, turn, read⟩ := bind_ok.mp read
    obtain ⟨later, rest, read⟩ := bind_ok.mp read
    obtain rfl := Except.ok.inj read
    obtain ⟨built, items, data, each⟩ := ih rest
    refine ⟨first :: built, ?_, ?_, .cons (buildComponent_ok turn).1 each⟩
    · rw [List.map_cons, ← items]
    · rw [data, List.append_assoc]
      rfl

def Padded (values : List Value) (item : Fields) (component : SystemUpdateComponent) (raw : List UInt8) : Prop :=
  match component.kind with
  | .partitionTable => component.data = fill raw partitionTableRegionBytes
  | .bootloader => ∃ table ∈ itemsOfKind values "partition_table", ∃ offset : Nat,
      get table "target_offset" = .int offset ∧ component.data = fill raw (offset - component.targetOffset)
  | .recovery => ∃ size : Nat, get item "size" = .int size ∧ component.data = fill raw size
  | .application | .data => component.data = raw

def Corresponds (files : ComponentFiles) (values : List Value) (value : Value) (component : SystemUpdateComponent) :
    Prop :=
  ∃ item raw, value = .object item ∧ get item "id" = .int component.id ∧
    get item "kind" = .str (kindText component.kind) ∧
    (item.lookup (textOf "flags")).getD (.int 0) = .int component.flags ∧
    get item "target_offset" = .int component.targetOffset ∧ get item "file" = .str component.filename ∧
    files component.filename = some raw ∧ Padded values item component raw

theorem partitionOffset_ok {items : List Fields} (read : partitionOffset items = .ok partition) {offset : Nat}
    (found : partition = some offset) : ∃ table ∈ items, get table "target_offset" = .int offset := by
  cases items with
  | nil =>
    rw [← Except.ok.inj read] at found
    cases found
  | cons table items =>
    obtain ⟨read, isOffset, same⟩ := bind_ok.mp read
    rw [← Except.ok.inj same] at found
    rw [← Option.some.inj found]
    exact ⟨table, List.mem_cons_self, (boundedUint_ok isOffset).1⟩

theorem padComponent_ok {values : List Value} {component : SystemUpdateComponent} {raw : List UInt8}
    (offsets : partitionOffset (itemsOfKind values "partition_table") = .ok partition)
    (isKind : get item "kind" = .str (kindText component.kind))
    (isOffset : get item "target_offset" = .int component.targetOffset)
    (padded : padComponent partition item raw = .ok component.data) : Padded values item component raw := by
  unfold padComponent at padded
  rw [isKind] at padded
  unfold Padded
  cases kind : component.kind with
  | partitionTable =>
    rw [kind, if_pos (by decide)] at padded
    obtain ⟨-, padded⟩ := requireText_bind.mp padded
    exact (Except.ok.inj padded).symm
  | bootloader =>
    rw [kind, if_neg (by decide), if_pos (by decide)] at padded
    split at padded
    next => cases padded
    next partition =>
      obtain ⟨offset, read, padded⟩ := bind_ok.mp padded
      obtain ⟨-, padded⟩ := requireText_bind.mp padded
      obtain ⟨-, padded⟩ := requireText_bind.mp padded
      obtain ⟨table, inside, isTable⟩ := partitionOffset_ok offsets rfl
      have same := (boundedUint_ok read).1.symm.trans isOffset
      have here : offset = component.targetOffset := Int.ofNat_inj.mp (Value.int.inj same)
      rw [here] at padded
      exact ⟨table, inside, partition, isTable, (Except.ok.inj padded).symm⟩
  | recovery =>
    rw [kind, if_neg (by decide), if_neg (by decide), if_pos (by decide)] at padded
    obtain ⟨size, read, padded⟩ := bind_ok.mp padded
    obtain ⟨-, padded⟩ := requireText_bind.mp padded
    obtain ⟨-, padded⟩ := requireText_bind.mp padded
    exact ⟨size, (boundedUint_ok read).1, (Except.ok.inj padded).symm⟩
  | application =>
    rw [kind, if_neg (by decide), if_neg (by decide), if_neg (by decide)] at padded
    exact (Except.ok.inj padded).symm
  | data =>
    rw [kind, if_neg (by decide), if_neg (by decide), if_neg (by decide)] at padded
    exact (Except.ok.inj padded).symm

theorem wellFormed_describe (wellFormed : WellFormed (.object item)) (data : List UInt8) :
    WellFormed (.object (describe library item data)) := by
  apply wellFormed_setField
  · apply wellFormed_setField wellFormed
    · decide
    · trivial
  · decide
  · exact textOf_hexText_plain _

/-- What the manifest says of an item as it was built is what the template says of it, but for its size and digest. -/
theorem declares_built {data : List UInt8} {component : SystemUpdateComponent} (wellFormed : WellFormed (.object item))
    (declares : Declares (sortKeys (.object (describe library item data))) component) :
    get item "id" = .int component.id ∧ get item "kind" = .str (kindText component.kind) ∧
      (item.lookup (textOf "flags")).getD (.int 0) = .int component.flags ∧
      get item "target_offset" = .int component.targetOffset ∧ get item "file" = .str component.filename := by
  have nodup : ((describe library item data).map Prod.fst).Nodup := by
    have described : WellFormed (.object (describe library item data)) := wellFormed_describe wellFormed data
    rw [WellFormed] at described
    exact described.1
  obtain ⟨fields, whole, isId, isKind, isFlags, isOffset, -, -, isFile⟩ := declares
  obtain rfl : sorted (describe library item data) = fields := Value.object.inj whole
  have kept : ∀ key : String, key ≠ "size" → key ≠ "sha256" →
      get (sorted (describe library item data)) key = sortKeys (get item key) := by
    intro key noSize noDigest
    rw [get_sorted nodup]
    unfold describe
    rw [get_setField, if_neg noDigest, get_setField, if_neg noSize]
  rw [kept _ (by decide) (by decide)] at isId isKind isOffset isFile
  refine ⟨sortKeys_int isId, sortKeys_str isKind, ?_, sortKeys_int isOffset, sortKeys_str isFile⟩
  rw [lookup_sorted nodup] at isFlags
  unfold describe at isFlags
  rw [lookup_setField, if_neg (by decide), lookup_setField, if_neg (by decide)] at isFlags
  cases flags : item.lookup (textOf "flags") with
  | none =>
    rw [flags] at isFlags
    exact isFlags
  | some value =>
    rw [flags] at isFlags
    exact sortKeys_int isFlags

end built

section documents
variable {library : PythonLibrary} {files : ComponentFiles} {partition : Option Nat} {template : Template}

theorem forall₂_through {α β γ : Type} {first : α → β → Prop} {second : β → γ → Prop} {both : α → γ → Prop}
    {as : List α} {bs : List β} {cs : List γ} (left : List.Forall₂ first as bs) (right : List.Forall₂ second bs cs)
    (combined : ∀ a ∈ as, ∀ b ∈ bs, ∀ c ∈ cs, first a b → second b c → both a c) : List.Forall₂ both as cs := by
  induction left generalizing cs with
  | nil =>
    cases right
    exact .nil
  | cons here _ ih =>
    cases right with
    | cons there later =>
      refine .cons (combined _ List.mem_cons_self _ List.mem_cons_self _ List.mem_cons_self here there) ?_
      apply ih later
      intro a memberA b memberB c memberC
      exact combined a (List.mem_cons_of_mem _ memberA) b (List.mem_cons_of_mem _ memberB) c
        (List.mem_cons_of_mem _ memberC)

theorem forall₂_right {α β : Type} {relates : α → β → Prop} {as : List α} {bs : List β}
    (each : List.Forall₂ relates as bs) : ∀ b ∈ bs, ∃ a ∈ as, relates a b := by
  induction each with
  | nil => exact fun b member => absurd member List.not_mem_nil
  | cons here _ ih =>
    intro b member
    rcases List.mem_cons.mp member with rfl | later
    · exact ⟨_, List.mem_cons_self, here⟩
    · obtain ⟨a, inside, related⟩ := ih b later
      exact ⟨a, List.mem_cons_of_mem _ inside, related⟩

theorem templateValues_ok {values : List Value} (read : templateValues value = .ok values) :
    value = .array values := by
  unfold templateValues at read
  split at read
  next => rw [Except.ok.inj read]
  next => cases read

structure BuiltDocument (library : PythonLibrary) (files : ComponentFiles) (template : Template)
    (document : Fields) (componentData : ComponentData) (manifest : Fields) (values : List Value)
    (partition : Option Nat) (built : List (Fields × Text × List UInt8)) : Prop where
  object : template.value = .object manifest
  array : get manifest "components" = .array values
  offsets : partitionOffset (itemsOfKind values "partition_table") = .ok partition
  each : List.Forall₂ (BuiltFrom library files partition) values built
  whole : document = buildManifest manifest (built.map fun each => .object each.1)
  data : componentData = built.map Prod.snd

theorem buildDocument_ok {result : Fields × ComponentData} (read : buildDocument library files template = .ok result) :
    ∃ manifest values partition built,
      BuiltDocument library files template result.1 result.2 manifest values partition built := by
  unfold buildDocument at read
  obtain ⟨manifest, isObject, read⟩ := bind_ok.mp read
  obtain ⟨values, isValues, read⟩ := bind_ok.mp read
  obtain ⟨-, read⟩ := requireText_bind.mp read
  obtain ⟨partition, offsets, read⟩ := bind_ok.mp read
  obtain ⟨items, loop, read⟩ := bind_ok.mp read
  obtain ⟨⟨⟩, -, read⟩ := bind_ok.mp read
  obtain rfl := Except.ok.inj read
  obtain ⟨built, objects, data, each⟩ := buildComponents_ok loop
  exact ⟨manifest, values, partition, built,
    { object := mapping_ok isObject
      array := templateValues_ok isValues
      offsets
      each
      whole := congrArg (buildManifest manifest) objects
      data }⟩

section document
variable {document manifest : Fields} {componentData : ComponentData} {values : List Value}
  {built : List (Fields × Text × List UInt8)}
  (is : BuiltDocument library files template document componentData manifest values partition built)
include is

theorem get_components : get document "components" = .array (built.map fun each => .object each.1) := by
  rw [is.whole]
  unfold buildManifest
  dsimp only
  split
  next => rw [get_setField, if_neg (by decide), get_setField, if_pos rfl]
  next => rw [get_setField, if_pos rfl]

theorem wellFormed_manifest : WellFormed (.object manifest) := is.object ▸ template.wellFormed

theorem wellFormed_values : ∀ value ∈ values, WellFormed value := by
  have whole := wellFormed_get (wellFormed_manifest is) "components"
  rw [is.array, WellFormed] at whole
  exact wellFormedItems_iff.mp whole

theorem wellFormed_built : ∀ each ∈ built, WellFormed (.object each.1) := by
  intro each member
  obtain ⟨value, inside, item, raw, rfl, -, -, -, whole⟩ := forall₂_right is.each each member
  rw [whole]
  exact wellFormed_describe (wellFormed_values is _ inside) _

theorem wellFormed_document : WellFormed (.object document) := by
  have items : ∀ item ∈ built.map (fun each => Value.object each.1), WellFormed item := by
    intro item member
    obtain ⟨each, inside, rfl⟩ := List.mem_map.mp member
    exact wellFormed_built is each inside
  have array : WellFormed (.array (built.map fun each => .object each.1)) := by
    rw [WellFormed]
    exact wellFormedItems_iff.mpr items
  have whole : WellFormed (.object (setField (textOf "components")
      (.array (built.map fun each => .object each.1)) manifest)) :=
    wellFormed_setField (wellFormed_manifest is) (by decide) array
  rw [is.whole]
  unfold buildManifest
  dsimp only
  split
  next item last =>
    apply wellFormed_setField whole (by decide)
    obtain ⟨object, -⟩ := List.mem_filter.mp (List.mem_of_getLast? last)
    obtain ⟨value, inside, same⟩ := List.mem_filterMap.mp object
    have isObject : value = .object item := by
      cases value with
      | object fields => rw [Option.some.inj same]
      | _ => cases same
    exact wellFormed_get (isObject ▸ items value inside) _
  next => exact whole

/-- The manifest of an accepted archive is the document, and so its components are those of the template. -/
theorem accepted_corresponds {crypto : Cryptography} {manifestBytes signature : List UInt8}
    {trustedPublicKey : Option (List UInt8)} {bundle : SystemUpdateBundle}
    (encoded : encodeText (dumps (.object document)) = .ok manifestBytes)
    (accepted : Accepted library crypto (bundleMembers manifestBytes signature componentData) trustedPublicKey bundle) :
    List.Forall₂ (Corresponds files values) values bundle.components := by
  have unique : ∀ info ∈ bundleMembers manifestBytes signature componentData,
      ∀ other ∈ bundleMembers manifestBytes signature componentData,
        info.filename = other.filename → info = other :=
    fun info member other isOther same => List.inj_on_of_nodup_map accepted.names member isOther same
  have manifestHeld : bundle.manifestBytes = manifestBytes := by
    obtain ⟨info, inside, named, isData⟩ := accepted.manifest
    have first : writeMember (manifestName, manifestBytes) ∈ bundleMembers manifestBytes signature componentData :=
      List.mem_map_of_mem (List.mem_append_left _ List.mem_cons_self)
    have isName : (writeMember (manifestName, manifestBytes)).filename = manifestName := by
      change manifestName.takeWhile (· ≠ 0) = manifestName
      decide
    rw [unique info inside _ first (named.trans isName.symm)] at isData
    exact (Option.some.inj isData).symm
  have dataHeld : ∀ component ∈ bundle.components, ∀ each ∈ built, each.2.1 = component.filename →
      each.2.2 = component.data := by
    intro component member each inside named
    obtain ⟨info, listed, isName, isData⟩ := accepted.read component member
    have plain : component.filename.takeWhile (· ≠ 0) = component.filename := by
      obtain ⟨written, -, rfl⟩ := List.mem_map.mp listed
      rw [← isName]
      change (written.1.takeWhile (· ≠ 0)).takeWhile (· ≠ 0) = written.1.takeWhile (· ≠ 0)
      exact List.takeWhile_idem
    have isMember : writeMember each.2 ∈ bundleMembers manifestBytes signature componentData := by
      apply List.mem_map_of_mem
      apply List.mem_append_right
      apply (List.mergeSort_perm _ _).mem_iff.mpr
      rw [is.data]
      exact List.mem_map_of_mem inside
    have isOther : (writeMember each.2).filename = component.filename := by
      change each.2.1.takeWhile (· ≠ 0) = component.filename
      rw [named, plain]
    rw [unique info listed _ isMember (isName.trans isOther.symm)] at isData
    exact Option.some.inj isData
  have wellFormed := wellFormed_document is
  obtain ⟨parsed, -, -, items, isArray, declared⟩ := accepted.declared
  rw [manifestHeld, parseManifest_encoded wellFormed encoded] at parsed
  have manifestShown : sorted document = bundle.manifest := Value.object.inj (Except.ok.inj parsed)
  have nodup : (document.map Prod.fst).Nodup := by
    rw [WellFormed] at wellFormed
    exact wellFormed.1
  rw [← manifestShown, get_sorted nodup, get_components is, sortKeys, sortItems_eq, List.map_map] at isArray
  obtain rfl := Value.array.inj isArray
  rw [List.forall₂_map_left_iff] at declared
  refine forall₂_through is.each declared ?_
  intro value listed each inside component member made declares
  obtain ⟨item, raw, rfl, isFile, found, padded, whole⟩ := made
  change Declares (sortKeys (.object each.1)) component at declares
  rw [whole] at declares
  obtain ⟨isId, isKind, isFlags, isOffset, isName⟩ := declares_built (wellFormed_values is _ listed) declares
  have named : each.2.1 = component.filename := Value.str.inj (isFile.symm.trans isName)
  rw [named] at found
  rw [dataHeld component member each inside named] at padded
  exact ⟨item, raw, rfl, isId, isKind, isFlags, isOffset, isName, found,
    padComponent_ok is.offsets isKind isOffset padded⟩

end document

end documents

section bundles
variable {library : PythonLibrary} {crypto : Cryptography} {files : ComponentFiles} {template : Template}

/-- What is known of an archive that was built: it is loaded, and whoever loads it has the components of the
template. -/
theorem buildSystemUpdateBundle_ok {pack : List ZipMember → Nat} {signing : Signing} {built : Built}
    (made : buildSystemUpdateBundle library crypto pack template files signing = .ok built) :
    (∃ bundle, loadSystemUpdateBundle library crypto (.path (some built.archive)) built.publicKey = .ok bundle) ∧
      ∃ manifest values, template.value = .object manifest ∧ get manifest "components" = .array values ∧
        ∀ source trustedPublicKey bundle, source.read = .ok built.archive →
          loadSystemUpdateBundle library crypto source trustedPublicKey = .ok bundle →
            List.Forall₂ (Corresponds files values) values bundle.components := by
  unfold buildSystemUpdateBundle at made
  obtain ⟨document, isDocument, made⟩ := bind_ok.mp made
  obtain ⟨manifestBytes, encoded, made⟩ := bind_ok.mp made
  obtain ⟨-, made⟩ := requireText_bind.mp made
  obtain ⟨signed, -, made⟩ := bind_ok.mp made
  obtain ⟨loaded, isLoaded, made⟩ := bind_ok.mp made
  obtain rfl := Except.ok.inj made
  obtain ⟨manifest, values, partition, each, is⟩ := buildDocument_ok isDocument
  refine ⟨⟨loaded, isLoaded⟩, manifest, values, is.object, is.array, ?_⟩
  intro source trustedPublicKey bundle isRead isBundle
  obtain ⟨archive, infos, isArchive, isOpen, accepted⟩ := loadSystemUpdateBundle_ok isBundle
  rw [isRead] at isArchive
  rw [← Except.ok.inj isArchive] at isOpen
  rw [← Except.ok.inj isOpen] at accepted
  exact accepted_corresponds is encoded accepted

end bundles

/-- Every archive that is loaded has passed all of its checks, and one that was built from a template is loaded with the
components of the template, in order and filled up. -/
theorem systemUpdateBundle_sound (library : PythonLibrary) (crypto : Cryptography) :
    (∀ source trustedPublicKey bundle,
      loadSystemUpdateBundle library crypto source trustedPublicKey = .ok bundle →
        ∃ archive infos, source.read = .ok archive ∧ archive.open = .ok infos ∧
          Accepted library crypto infos trustedPublicKey bundle) ∧
    ∀ pack template files signing built,
      buildSystemUpdateBundle library crypto pack template files signing = .ok built →
        (∃ bundle, loadSystemUpdateBundle library crypto (.path (some built.archive)) built.publicKey = .ok bundle) ∧
          ∃ manifest values, template.value = .object manifest ∧ get manifest "components" = .array values ∧
            ∀ source trustedPublicKey bundle, source.read = .ok built.archive →
              loadSystemUpdateBundle library crypto source trustedPublicKey = .ok bundle →
                List.Forall₂ (Corresponds files values) values bundle.components :=
  ⟨fun _ _ _ => loadSystemUpdateBundle_ok, fun _ _ _ _ _ => buildSystemUpdateBundle_ok⟩

section letter

/-- The SHA-256 digest of the byte `a`, and as a text. -/
def letterDigest : List UInt8 :=
  [0xca, 0x97, 0x81, 0x12, 0xca, 0x1b, 0xbd, 0xca, 0xfa, 0xc2, 0x31, 0xb3, 0x9a, 0x23, 0xdc, 0x4d, 0xa7, 0x86, 0xef,
    0xf8, 0x14, 0x7c, 0x4e, 0x72, 0xb9, 0x80, 0x77, 0x85, 0xaf, 0xee, 0x48, 0xbb]

def letterHex : Text := textOf "ca978112ca1bbdcafac231b39a23dc4da786eff8147c4e72b9807785afee48bb"

theorem hexText_letter : textOf (hexText letterDigest) = letterHex := by
  unfold textOf hexText
  rw [String.toList_ofList]
  decide +kernel

def letterLayout : Text := List.replicate 64 0x32

/-- The library on the byte `a` and on one operation. -/
def letterLibrary : PythonLibrary where
  sha256 data := if data = [0x61] then letterDigest else List.replicate 32 0
  decode bytes := String.ofList (bytes.map fun byte => Char.ofNat byte.toNat)
  wireId _ := "00000000000040008000000000000001"
  sha256_length data := by split <;> rfl

def noKeys : Cryptography where
  PublicKey := Unit
  PrivateKey := Unit
  loadPemPublicKey _ := none
  loadPemPrivateKey _ _ := none
  verify _ _ _ := false
  sign _ _ _ := []
  publicBytes _ := []

def letterFiles : ComponentFiles := fun name => if name = textOf "a" then some [0x61] else none

/-- An item for the file `a`. -/
def letterItem (size sha256 : Value) : Fields :=
  [(textOf "file", .str (textOf "a")), (textOf "id", .int 1), (textOf "kind", .str (textOf "data")),
    (textOf "sha256", sha256), (textOf "size", size), (textOf "target_offset", .int 0)]

def letterTarget : Fields := [(textOf "chip_id", .int 32), (textOf "flash_size", .int 4096)]

def letterManifest (size sha256 : Value) : Fields :=
  [(textOf "components", .array [.object (letterItem size sha256)]), (textOf "schema", .str systemUpdateSchema),
    (textOf "target", .object letterTarget), (textOf "target_layout_sha256", .str letterLayout)]

def letterTemplate : Template where
  value := .object (letterManifest .null .null)
  wellFormed := by
    simp only [letterManifest, letterItem, letterTarget, WellFormed, WellFormedFields, WellFormedItems]
    decide +kernel

def letterDocument : Fields := letterManifest (.int 1) (.str letterHex)

theorem buildDocument_letter :
    buildDocument letterLibrary letterFiles letterTemplate = .ok (letterDocument, [(textOf "a", [0x61])]) := by
  unfold letterDocument
  rw [← hexText_letter]
  rfl

theorem sortKeys_ordered (each : sortFields fields = fields)
    (ordered : (fields.map Prod.fst).Pairwise fun first second => textLe first second = true) :
    sortKeys (.object fields) = .object fields := by
  rw [List.pairwise_map] at ordered
  rw [sortKeys, each, List.mergeSort_of_pairwise ordered]

theorem sortKeys_letter : sortKeys (.object letterDocument) = .object letterDocument := by
  have item : sortKeys (.object (letterItem (.int 1) (.str letterHex))) = .object (letterItem (.int 1) (.str letterHex)) :=
    sortKeys_ordered rfl (by decide +kernel)
  have target : sortKeys (.object letterTarget) = .object letterTarget := sortKeys_ordered rfl (by decide +kernel)
  refine sortKeys_ordered ?_ (by decide +kernel)
  simp only [letterDocument, letterManifest, sortFields_eq, List.map_cons, List.map_nil]
  rw [target, sortKeys, sortItems, sortItems, item, sortKeys, sortKeys]
  all_goals simp

def letterBytes : List UInt8 :=
  (render (.object letterDocument)).flatMap fun code => String.utf8EncodeChar (Char.ofNat code)

theorem encodeText_letter : encodeText (dumps (.object letterDocument)) = .ok letterBytes := by
  unfold dumps
  rw [sortKeys_letter]
  exact if_pos (by decide +kernel)

def letterMembers : List (Text × ZipMember) :=
  [(manifestName, writeMember (manifestName, letterBytes)), (textOf "a", writeMember (textOf "a", [0x61]))]

theorem bundleMembers_letter :
    bundleMembers letterBytes [] [(textOf "a", [0x61])] = letterMembers.map Prod.snd := by
  unfold bundleMembers sortedData
  rw [List.mergeSort_singleton]
  rfl

theorem letterBytes_length : letterBytes.length = 322 := by decide +kernel

theorem archiveMembers_letter : archiveMembers (letterMembers.map Prod.snd) = .ok letterMembers := by
  unfold archiveMembers
  refine requireText_bind.mpr ⟨by decide, ?_⟩
  change archiveMembersFrom (writeMember (manifestName, letterBytes) :: [writeMember (textOf "a", [0x61])]) [] 0 = _
  have size : (writeMember (manifestName, letterBytes)).fileSize = 322 := letterBytes_length
  rw [archiveMembersFrom, size]
  refine bind_ok.mpr ⟨manifestName, rfl, ?_⟩
  refine require_bind.mpr ⟨by decide, ?_⟩
  refine requireText_bind.mpr ⟨by decide, ?_⟩
  refine requireText_bind.mpr ⟨by decide, ?_⟩
  refine require_bind.mpr ⟨by decide +kernel, ?_⟩
  refine requireText_bind.mpr ⟨by decide +kernel, ?_⟩
  rw [archiveMembersFrom]
  refine bind_ok.mpr ⟨textOf "a", rfl, ?_⟩
  refine require_bind.mpr ⟨by decide, ?_⟩
  refine requireText_bind.mpr ⟨by decide, ?_⟩
  refine requireText_bind.mpr ⟨by decide, ?_⟩
  refine require_bind.mpr ⟨by decide +kernel, ?_⟩
  refine requireText_bind.mpr ⟨by decide +kernel, ?_⟩
  rfl

def letterHeader : Header where
  manifest := letterDocument
  keyId := none
  chipId := 32
  flashSize := 4096
  targetLayout := letterLayout
  values := [.object (letterItem (.int 1) (.str letterHex))]

theorem readHeader_letter : readHeader (.object letterDocument) false = .ok letterHeader := rfl

def letterDeclared : Declared where
  id := 1
  kind := .data
  flags := 0
  targetOffset := 0
  size := 1
  shaHex := letterHex
  filename := textOf "a"

theorem sha256Hex_canonical (raw : List UInt8) {name : String} (length : text.length = 64)
    (isHex : fromHex text = some raw) (lower : text = lower text) (whole : raw.length = 32) :
    sha256Hex (.str text) name = .ok text := by
  unfold sha256Hex
  dsimp only
  rw [if_neg (not_not.mpr length), isHex]
  dsimp only
  rw [if_neg (not_or.mpr ⟨not_not.mpr lower, not_not.mpr whole⟩)]

theorem sha256Hex_letter (name : String) : sha256Hex (.str letterHex) name = .ok letterHex :=
  sha256Hex_canonical letterDigest (by decide +kernel) (by decide +kernel) (by decide +kernel) (by decide)

theorem readDeclared_letter :
    readDeclared letterMembers 4096 ⟨[], [], [manifestName], []⟩ 0 (.object (letterItem (.int 1) (.str letterHex))) =
      .ok letterDeclared := by
  unfold readDeclared
  refine bind_ok.mpr ⟨letterItem (.int 1) (.str letterHex), rfl, ?_⟩
  refine bind_ok.mpr ⟨(), rfl, ?_⟩
  refine bind_ok.mpr ⟨1, rfl, ?_⟩
  refine requireText_bind.mpr ⟨by decide, ?_⟩
  refine bind_ok.mpr ⟨.data, rfl, ?_⟩
  refine require_bind.mpr ⟨by decide, ?_⟩
  refine bind_ok.mpr ⟨0, rfl, ?_⟩
  refine bind_ok.mpr ⟨0, rfl, ?_⟩
  refine bind_ok.mpr ⟨1, rfl, ?_⟩
  refine requireText_bind.mpr ⟨by decide +kernel, ?_⟩
  refine require_bind.mpr ⟨by decide, ?_⟩
  refine bind_ok.mpr ⟨letterHex, sha256Hex_letter _, ?_⟩
  refine bind_ok.mpr ⟨textOf "a", rfl, ?_⟩
  refine require_bind.mpr ⟨by decide, ?_⟩
  rfl

def letterComponent : SystemUpdateComponent where
  id := 1
  kind := .data
  flags := 0
  targetOffset := 0
  size := 1
  sha256 := letterDigest
  filename := textOf "a"
  data := [0x61]

def letterLoaded : Loaded := ⟨[1], [], [textOf "a", manifestName], [letterComponent]⟩

theorem loadComponents_letter :
    loadComponents letterLibrary letterMembers 32 4096 letterHeader.values 0 ⟨[], [], [manifestName], []⟩ =
      .ok letterLoaded := by
  change loadComponents letterLibrary letterMembers 32 4096 (.object (letterItem (.int 1) (.str letterHex)) :: []) 0
    ⟨[], [], [manifestName], []⟩ = .ok letterLoaded
  rw [loadComponents]
  refine bind_ok.mpr ⟨letterLoaded, ?_, rfl⟩
  unfold loadComponent
  refine bind_ok.mpr ⟨letterDeclared, readDeclared_letter, ?_⟩
  refine bind_ok.mpr ⟨[0x61], rfl, ?_⟩
  refine require_bind.mpr ⟨rfl, ?_⟩
  refine require_bind.mpr ⟨hexText_letter, ?_⟩
  refine bind_ok.mpr ⟨(), rfl, ?_⟩
  rfl

theorem orderedRegions_letter : checkRegions (orderedRegions [letterComponent]) = .ok () := by
  unfold orderedRegions
  rw [List.map_singleton, List.mergeSort_singleton]
  rfl

theorem parseManifest_letter : parseManifest letterBytes = .ok (.object letterDocument) := by
  have document : WellFormed (.object letterDocument) := by
    simp only [letterDocument, letterManifest, letterItem, letterTarget, WellFormed, WellFormedFields,
      WellFormedItems]
    decide +kernel
  rw [parseManifest_encoded document encodeText_letter, sortKeys_letter]

def letterArchive : Archive := { size := 0, infos := some (letterMembers.map Prod.snd) }

def letterBundle : SystemUpdateBundle where
  manifest := letterDocument
  manifestBytes := letterBytes
  signature := []
  manifestSha256 := letterLibrary.sha256 letterBytes
  keyId := none
  signatureVerified := false
  chipId := 32
  flashSize := 4096
  targetLayoutSha256 := letterLayout
  components := [letterComponent]

theorem loadSystemUpdateBundle_letter :
    loadSystemUpdateBundle letterLibrary noKeys (.path (some letterArchive)) none = .ok letterBundle := by
  unfold loadSystemUpdateBundle
  refine bind_ok.mpr ⟨letterArchive, rfl, ?_⟩
  refine bind_ok.mpr ⟨none, rfl, ?_⟩
  refine bind_ok.mpr ⟨letterMembers.map Prod.snd, rfl, ?_⟩
  refine bind_ok.mpr ⟨letterMembers, archiveMembers_letter, ?_⟩
  refine requireText_bind.mpr ⟨by decide, ?_⟩
  refine bind_ok.mpr ⟨letterBytes, rfl, ?_⟩
  refine bind_ok.mpr ⟨[], rfl, ?_⟩
  refine requireText_bind.mpr ⟨by rw [letterBytes_length]; decide, ?_⟩
  refine requireText_bind.mpr ⟨by decide, ?_⟩
  refine bind_ok.mpr ⟨(), rfl, ?_⟩
  refine bind_ok.mpr ⟨_, parseManifest_letter, ?_⟩
  refine bind_ok.mpr ⟨letterHeader, readHeader_letter, ?_⟩
  refine bind_ok.mpr ⟨letterLoaded, loadComponents_letter, ?_⟩
  refine require_bind.mpr ⟨by decide, ?_⟩
  refine bind_ok.mpr ⟨(), orderedRegions_letter, ?_⟩
  refine bind_ok.mpr ⟨(), rfl, ?_⟩
  rfl

theorem buildSystemUpdateBundle_letter :
    buildSystemUpdateBundle letterLibrary noKeys (fun _ => 0) letterTemplate letterFiles ⟨none, none, 0⟩ =
      .ok ⟨letterArchive, none⟩ := by
  unfold buildSystemUpdateBundle
  refine bind_ok.mpr ⟨_, buildDocument_letter, ?_⟩
  refine bind_ok.mpr ⟨letterBytes, encodeText_letter, ?_⟩
  refine requireText_bind.mpr ⟨by rw [letterBytes_length]; decide, ?_⟩
  refine bind_ok.mpr ⟨(none, []), rfl, ?_⟩
  dsimp only
  rw [bundleMembers_letter]
  exact bind_ok.mpr ⟨letterBundle, loadSystemUpdateBundle_letter, rfl⟩

end letter

/-- The archive with the byte `a` is built, and is loaded as that one component. -/
theorem systemUpdateBundle_sound_letter :
    Accepted letterLibrary noKeys (letterMembers.map Prod.snd) none letterBundle ∧
      List.Forall₂ (Corresponds letterFiles [.object (letterItem .null .null)]) [.object (letterItem .null .null)]
        letterBundle.components := by
  obtain ⟨sound, built⟩ := systemUpdateBundle_sound letterLibrary noKeys
  obtain ⟨archive, infos, isArchive, isOpen, accepted⟩ := sound _ _ _ loadSystemUpdateBundle_letter
  obtain ⟨-, manifest, values, object, array, each⟩ :=
    built (fun _ => 0) letterTemplate letterFiles ⟨none, none, 0⟩ _ buildSystemUpdateBundle_letter
  obtain rfl := Except.ok.inj isArchive
  obtain rfl := Except.ok.inj isOpen
  obtain rfl := Value.object.inj object
  obtain rfl := Value.array.inj array
  exact ⟨accepted, each _ none letterBundle rfl loadSystemUpdateBundle_letter⟩

end EspIris.Gateway.SystemBundle
