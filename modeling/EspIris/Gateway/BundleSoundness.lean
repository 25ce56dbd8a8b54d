import EspIris.Gateway.SystemBundle

/-! What `load_system_update_bundle` has checked of a bundle that it accepts. -/

namespace EspIris.Gateway.SystemBundle
open JsonDocument Listing
open Reconciliation (PythonLibrary ComponentKind hexText inspectFirmwareImage)
variable {value : Value} {infos : List ZipMember} {component : SystemUpdateComponent} {kind : ComponentKind}
variable {condition : Prop} {index : Nat} {name : String} {text : Text}

section checks
variable {α β : Type}

theorem bind_ok {first : Except BundleError α} {next : α → Except BundleError β} {result : β} :
    (first >>= next) = .ok result ↔ ∃ value, first = .ok value ∧ next value = .ok result := by
  cases first with
  | error error => exact ⟨fun same => (nomatch same), fun ⟨_, same, _⟩ => (nomatch same)⟩
  | ok value => exact ⟨fun same => ⟨value, rfl, same⟩, fun ⟨_, same, later⟩ => Except.ok.inj same ▸ later⟩

theorem require_bind [Decidable condition] {error : BundleError} {next : Unit → Except BundleError β} {result : β} :
    (require condition error >>= next) = .ok result ↔ condition ∧ next () = .ok result := by
  unfold require
  by_cases holds : condition
  · rw [if_pos holds]
    exact ⟨fun same => ⟨holds, same⟩, fun both => both.2⟩
  · rw [if_neg holds]
    exact ⟨fun same => (nomatch same), fun both => absurd both.1 holds⟩

theorem requireText_bind [Decidable condition] {message : String} {next : Unit → Except BundleError β} {result : β} :
    (requireText condition message >>= next) = .ok result ↔ condition ∧ next () = .ok result := require_bind

theorem require_ok [Decidable condition] {error : BundleError} {result : Unit} :
    require condition error = .ok result ↔ condition := by
  unfold require
  by_cases holds : condition
  · rw [if_pos holds]
    exact ⟨fun _ => holds, fun _ => rfl⟩
  · rw [if_neg holds]
    exact ⟨fun same => (nomatch same), fun held => absurd held holds⟩

theorem requireText_ok [Decidable condition] {message : String} {result : Unit} :
    requireText condition message = .ok result ↔ condition := require_ok

end checks

section fields

theorem mapping_ok {name : Text} {fields : Fields} (read : mapping value name = .ok fields) :
    value = .object fields := by
  unfold mapping at read
  split at read
  next => rw [Except.ok.inj read]
  next => cases read

theorem boundedUint_ok {maximum number : Nat} (read : boundedUint value name maximum = .ok number) :
    value = .int number ∧ number ≤ maximum := by
  unfold boundedUint at read
  split at read
  next whole =>
    split at read
    next bounds =>
      obtain rfl := Except.ok.inj read
      rw [Int.toNat_of_nonneg bounds.1]
      exact ⟨rfl, Int.toNat_le.mpr bounds.2⟩
    next => cases read
  next => cases read

theorem sha256Hex_ok (read : sha256Hex value name = .ok text) :
    value = .str text := by
  unfold sha256Hex at read
  split at read
  next =>
    split at read
    next => cases read
    split at read
    next => cases read
    split at read
    next => cases read
    next => rw [Except.ok.inj read]
  next => cases read

theorem safeMemberName_ok (read : safeMemberName value name = .ok text) :
    value = .str text ∧ text ≠ [] := by
  unfold safeMemberName at read
  split at read
  next =>
    split at read
    next => cases read
    next filled =>
      split at read
      next => cases read
      obtain rfl := Except.ok.inj read
      exact ⟨rfl, fun empty => filled (.inl empty)⟩
  next => cases read

def kindText : ComponentKind → Text
  | .bootloader => textOf "bootloader"
  | .partitionTable => textOf "partition_table"
  | .application => textOf "application"
  | .recovery => textOf "recovery"
  | .data => textOf "data"

theorem kindNames_lookup (found : kindNames.lookup text = some kind) :
    text = kindText kind := by
  have member := (lookup_iff (by decide)).mp found
  have each : ∀ entry ∈ kindNames, entry.1 = kindText entry.2 := by decide
  exact each _ member

theorem componentKind_ok (read : componentKind value = .ok kind) :
    value = .str (kindText kind) := by
  unfold componentKind at read
  split at read
  next text =>
    split at read
    next found =>
      obtain rfl := Except.ok.inj read
      rw [kindNames_lookup found]
    next => cases read
  next => cases read
  next => cases read
  next => cases read

theorem componentValues_ok {items : List Value} (read : componentValues value = .ok items) :
    value = .array items := by
  unfold componentValues at read
  split at read
  next =>
    split at read
    next => rw [Except.ok.inj read]
    next => cases read
  next => cases read

end fields

section members

theorem readMember_ok {members : List (Text × ZipMember)} {name : Text} {data : List UInt8}
    (read : readMember members name = .ok data) : ∃ info, members.lookup name = some info ∧ info.data = some data := by
  unfold readMember at read
  split at read
  next found =>
    obtain rfl := Except.ok.inj read
    exact Option.bind_eq_some_iff.mp found
  next => cases read

theorem archiveMembersFrom_ok {result members : List (Text × ZipMember)} {total : Nat}
    (nodup : (result.map Prod.fst).Nodup) (read : archiveMembersFrom infos result total = .ok members) :
    members = result ++ infos.map (fun info => (info.filename, info)) ∧ (members.map Prod.fst).Nodup := by
  induction infos generalizing result total with
  | nil =>
    obtain rfl := Except.ok.inj read
    exact ⟨(List.append_nil result).symm, nodup⟩
  | cons info infos ih =>
    rw [archiveMembersFrom] at read
    obtain ⟨name, named, read⟩ := bind_ok.mp read
    obtain ⟨fresh, read⟩ := require_bind.mp read
    obtain ⟨-, read⟩ := requireText_bind.mp read
    obtain ⟨-, read⟩ := requireText_bind.mp read
    obtain ⟨-, read⟩ := require_bind.mp read
    obtain ⟨-, read⟩ := requireText_bind.mp read
    obtain rfl := Value.str.inj (safeMemberName_ok named).1
    have grown : ((result ++ [(info.filename, info)]).map Prod.fst).Nodup := by
      rw [List.map_append]
      exact List.nodup_append'.mpr ⟨nodup, List.nodup_singleton _, by simpa using fresh⟩
    obtain ⟨whole, distinct⟩ := ih grown read
    rw [whole, List.append_assoc] at distinct ⊢
    exact ⟨rfl, distinct⟩

theorem archiveMembers_ok {members : List (Text × ZipMember)} (read : archiveMembers infos = .ok members) :
    members = infos.map (fun info => (info.filename, info)) ∧ (members.map Prod.fst).Nodup := by
  obtain ⟨-, read⟩ := requireText_bind.mp read
  have start : (([] : List (Text × ZipMember)).map Prod.fst).Nodup := List.nodup_nil
  exact archiveMembersFrom_ok start read

theorem archiveMembers_names {members : List (Text × ZipMember)} (read : archiveMembers infos = .ok members) :
    members.map Prod.fst = infos.map ZipMember.filename := by
  rw [(archiveMembers_ok read).1, List.map_map]
  rfl

theorem archiveMembers_lookup {members : List (Text × ZipMember)} (read : archiveMembers infos = .ok members)
    {name : Text} {info : ZipMember} :
    members.lookup name = some info ↔ info ∈ infos ∧ info.filename = name := by
  obtain ⟨whole, distinct⟩ := archiveMembers_ok read
  rw [lookup_iff distinct, whole, List.mem_map]
  constructor
  · rintro ⟨other, inside, same⟩
    obtain ⟨rfl, rfl⟩ := Prod.mk.inj same
    exact ⟨inside, rfl⟩
  · rintro ⟨inside, rfl⟩
    exact ⟨info, inside, rfl⟩

theorem readSignature_ok {members : List (Text × ZipMember)} {signature : List UInt8}
    (isMembers : archiveMembers infos = .ok members) (read : readSignature members = .ok signature) :
    (∀ info ∈ infos, info.filename = signatureName → info.data = some signature) ∧
      (signature ≠ [] → signatureName ∈ members.map Prod.fst) := by
  unfold readSignature at read
  split at read
  next present =>
    refine ⟨fun info inside named => ?_, fun _ => present⟩
    obtain ⟨other, found, isData⟩ := readMember_ok read
    rw [(archiveMembers_lookup isMembers).mpr ⟨inside, named⟩] at found
    rw [Option.some.inj found]
    exact isData
  next missing =>
    obtain rfl := Except.ok.inj read
    refine ⟨fun info inside named => ?_, fun filled => absurd rfl filled⟩
    rw [archiveMembers_names isMembers] at missing
    exact absurd (List.mem_map.mpr ⟨info, inside, named⟩) missing

end members

def Declares (value : Value) (component : SystemUpdateComponent) : Prop :=
  ∃ item : Fields, value = .object item ∧ get item "id" = .int component.id ∧
    get item "kind" = .str (kindText component.kind) ∧
    (item.lookup (textOf "flags")).getD (.int 0) = .int component.flags ∧
    get item "target_offset" = .int component.targetOffset ∧ get item "size" = .int component.size ∧
    get item "sha256" = .str (textOf (hexText component.sha256)) ∧ get item "file" = .str component.filename

structure Checked (library : PythonLibrary) (members : List (Text × ZipMember)) (chipId flashSize : Nat)
    (component : SystemUpdateComponent) : Prop where
  nonzero : component.id ≠ 0
  filled : component.size ≠ 0
  size : component.data.length = component.size
  digest : component.sha256 = library.sha256 component.data
  inside : component.regionEnd ≤ flashSize
  aligned : component.targetOffset % alignment component.kind = 0
  member : ∃ info, members.lookup component.filename = some info ∧ info.data = some component.data
  image : component.kind = .application ∨ component.kind = .recovery →
    ∃ firmware, inspectFirmwareImage library component.data = .ok firmware ∧ firmware.chipId = chipId

structure Sound (library : PythonLibrary) (members : List (Text × ZipMember)) (chipId flashSize : Nat)
    (start : List Text) (loaded : Loaded) : Prop where
  identifiers : loaded.identifiers = (loaded.components.map (·.id)).reverse
  distinct : loaded.identifiers.Nodup
  singletons : loaded.singletonKinds = ((loaded.components.map (·.kind)).filter (· ≠ .data)).reverse
  single : loaded.singletonKinds.Nodup
  filenames : loaded.filenames = (loaded.components.map (·.filename)).reverse ++ start
  named : loaded.filenames.Nodup
  each : ∀ component ∈ loaded.components, Checked library members chipId flashSize component

section loop
variable {library : PythonLibrary} {members : List (Text × ZipMember)} {chipId flashSize : Nat} {start : List Text}
  {loaded after : Loaded}

structure ReadsDeclared (members : List (Text × ZipMember)) (flashSize : Nat) (loaded : Loaded) (value : Value)
    (declared : Declared) : Prop where
  item : ∃ item : Fields, value = .object item ∧ get item "id" = .int declared.id ∧
    get item "kind" = .str (kindText declared.kind) ∧
    (item.lookup (textOf "flags")).getD (.int 0) = .int declared.flags ∧
    get item "target_offset" = .int declared.targetOffset ∧ get item "size" = .int declared.size ∧
    get item "sha256" = .str declared.shaHex ∧ get item "file" = .str declared.filename
  nonzero : declared.id ≠ 0
  newId : declared.id ∉ loaded.identifiers
  newKind : declared.kind = .data ∨ declared.kind ∉ loaded.singletonKinds
  filled : declared.size ≠ 0
  inside : declared.targetOffset + declared.size ≤ flashSize
  aligned : declared.targetOffset % alignment declared.kind = 0
  newFile : declared.filename ∉ loaded.filenames

theorem readDeclared_ok {index : Nat} {value : Value} {declared : Declared}
    (read : readDeclared members flashSize loaded index value = .ok declared) :
    ReadsDeclared members flashSize loaded value declared := by
  unfold readDeclared at read
  obtain ⟨item, isObject, read⟩ := bind_ok.mp read
  obtain ⟨-, -, read⟩ := bind_ok.mp read
  obtain ⟨id, isId, read⟩ := bind_ok.mp read
  obtain ⟨freshId, read⟩ := requireText_bind.mp read
  obtain ⟨kind, isKind, read⟩ := bind_ok.mp read
  obtain ⟨freshKind, read⟩ := require_bind.mp read
  obtain ⟨flags, isFlags, read⟩ := bind_ok.mp read
  obtain ⟨targetOffset, isOffset, read⟩ := bind_ok.mp read
  obtain ⟨size, isSize, read⟩ := bind_ok.mp read
  obtain ⟨bounds, read⟩ := requireText_bind.mp read
  obtain ⟨aligned, read⟩ := require_bind.mp read
  obtain ⟨shaHex, isSha, read⟩ := bind_ok.mp read
  obtain ⟨filename, isFile, read⟩ := bind_ok.mp read
  obtain ⟨freshFile, read⟩ := require_bind.mp read
  obtain rfl := Except.ok.inj read
  exact
    { item := ⟨item, mapping_ok isObject, (boundedUint_ok isId).1, componentKind_ok isKind, (boundedUint_ok isFlags).1,
        (boundedUint_ok isOffset).1, (boundedUint_ok isSize).1, sha256Hex_ok isSha, (safeMemberName_ok isFile).1⟩
      nonzero := freshId.1
      newId := freshId.2
      newKind := freshKind
      filled := bounds.1
      inside := bounds.2.2
      aligned
      newFile := freshFile.1 }

theorem inspectComponent_ok (inspected : inspectComponent library chipId component = .ok ()) :
    component.kind = .application ∨ component.kind = .recovery →
      ∃ firmware, inspectFirmwareImage library component.data = .ok firmware ∧ firmware.chipId = chipId := by
  intro image
  unfold inspectComponent at inspected
  rw [if_pos image] at inspected
  split at inspected
  next => cases inspected
  next firmware isImage => exact ⟨firmware, isImage, require_ok.mp inspected⟩

theorem loadComponent_ok (read : loadComponent library members chipId flashSize loaded index value = .ok after) :
    ∃ component, Declares value component ∧ Checked library members chipId flashSize component ∧
      component.id ∉ loaded.identifiers ∧ (component.kind = .data ∨ component.kind ∉ loaded.singletonKinds) ∧
      component.filename ∉ loaded.filenames ∧
      after =
        { identifiers := component.id :: loaded.identifiers
          singletonKinds :=
            if component.kind = .data then loaded.singletonKinds else component.kind :: loaded.singletonKinds
          filenames := component.filename :: loaded.filenames
          components := loaded.components ++ [component] } := by
  unfold loadComponent at read
  obtain ⟨declared, declares, read⟩ := bind_ok.mp read
  obtain ⟨data, isData, read⟩ := bind_ok.mp read
  obtain ⟨size, read⟩ := require_bind.mp read
  obtain ⟨digest, read⟩ := require_bind.mp read
  obtain ⟨⟨⟩, inspected, read⟩ := bind_ok.mp read
  obtain rfl := Except.ok.inj read
  have reads := readDeclared_ok declares
  obtain ⟨item, whole, isId, isKind, isFlags, isOffset, isSize, isSha, isFile⟩ := reads.item
  have shown : Declares value
      { id := declared.id, kind := declared.kind, flags := declared.flags, targetOffset := declared.targetOffset,
        size := declared.size, sha256 := library.sha256 data, filename := declared.filename, data } :=
    ⟨item, whole, isId, isKind, isFlags, isOffset, isSize, isSha.trans (congrArg Value.str digest.symm), isFile⟩
  exact ⟨_, shown,
    { nonzero := reads.nonzero, filled := reads.filled, size, digest := rfl, inside := reads.inside,
      aligned := reads.aligned, member := readMember_ok isData, image := inspectComponent_ok inspected },
    reads.newId, reads.newKind, reads.newFile, rfl⟩

theorem loadComponent_sound (sound : Sound library members chipId flashSize start loaded)
    (read : loadComponent library members chipId flashSize loaded index value = .ok after) :
    Sound library members chipId flashSize start after := by
  obtain ⟨component, -, checked, newId, newKind, newFile, rfl⟩ := loadComponent_ok read
  constructor
  case identifiers =>
    change component.id :: loaded.identifiers = ((loaded.components ++ [component]).map (·.id)).reverse
    rw [List.map_append, List.reverse_append, sound.identifiers]
    rfl
  case distinct => exact List.nodup_cons.mpr ⟨newId, sound.distinct⟩
  case singletons =>
    change (if component.kind = .data then loaded.singletonKinds else component.kind :: loaded.singletonKinds) =
      (((loaded.components ++ [component]).map (·.kind)).filter (· ≠ .data)).reverse
    rw [List.map_append, List.filter_append, List.reverse_append, ← sound.singletons]
    by_cases isData : component.kind = .data
    · rw [if_pos isData, List.map_singleton, List.filter_singleton, isData]
      rfl
    · rw [if_neg isData, List.map_singleton, List.filter_singleton, decide_eq_true isData]
      rfl
  case single =>
    change (if component.kind = .data then loaded.singletonKinds else component.kind :: loaded.singletonKinds).Nodup
    by_cases isData : component.kind = .data
    · rw [if_pos isData]
      exact sound.single
    · rw [if_neg isData]
      exact List.nodup_cons.mpr ⟨newKind.resolve_left isData, sound.single⟩
  case filenames =>
    change component.filename :: loaded.filenames =
      ((loaded.components ++ [component]).map (·.filename)).reverse ++ start
    rw [List.map_append, List.reverse_append, sound.filenames]
    rfl
  case named => exact List.nodup_cons.mpr ⟨newFile, sound.named⟩
  case each =>
    intro other member
    rcases List.mem_append.mp member with earlier | last
    · exact sound.each other earlier
    · rw [List.mem_singleton.mp last]
      exact checked

theorem loadComponents_ok {values : List Value} (sound : Sound library members chipId flashSize start loaded)
    (read : loadComponents library members chipId flashSize values index loaded = .ok after) :
    Sound library members chipId flashSize start after ∧
      ∃ more, after.components = loaded.components ++ more ∧ List.Forall₂ Declares values more := by
  induction values generalizing loaded index with
  | nil =>
    obtain rfl := Except.ok.inj read
    exact ⟨sound, [], (List.append_nil _).symm, .nil⟩
  | cons value values ih =>
    rw [loadComponents] at read
    obtain ⟨next, turn, read⟩ := bind_ok.mp read
    obtain ⟨component, declares, -, -, -, -, grown⟩ := loadComponent_ok turn
    obtain ⟨kept, more, whole, each⟩ := ih (loadComponent_sound sound turn) read
    refine ⟨kept, component :: more, ?_, .cons declares each⟩
    rw [whole, grown, List.append_assoc]
    rfl

end loop

section regions

/-- Where no region begins before its neighbour ends, none begins before any earlier one does. -/
theorem checkRegions_ok {regions : List (Nat × Nat × Nat)} (filled : ∀ region ∈ regions, region.1 ≤ region.2.1)
    (checked : checkRegions regions = .ok ()) : regions.Pairwise fun first second => first.2.1 ≤ second.1 := by
  induction regions with
  | nil => exact .nil
  | cons previous regions ih =>
    cases regions with
    | nil => exact List.pairwise_singleton _ _
    | cons current regions =>
      rw [checkRegions] at checked
      obtain ⟨apart, checked⟩ := require_bind.mp checked
      have later := ih (fun region member => filled region (List.mem_cons_of_mem _ member)) checked
      refine List.pairwise_cons.mpr ⟨?_, later⟩
      intro region member
      rcases List.mem_cons.mp member with rfl | inside
      · exact apart
      · calc
          previous.2.1 ≤ current.1 := apart
          _ ≤ current.2.1 := filled current (List.mem_cons_of_mem _ List.mem_cons_self)
          _ ≤ region.1 := (List.pairwise_cons.mp later).1 region inside

def Apart (first second : SystemUpdateComponent) : Prop :=
  first.regionEnd ≤ second.targetOffset ∨ second.regionEnd ≤ first.targetOffset

theorem orderedRegions_apart {components : List SystemUpdateComponent}
    (checked : checkRegions (orderedRegions components) = .ok ()) : components.Pairwise Apart := by
  have perm := List.mergeSort_perm
    (components.map fun item => (item.targetOffset, item.regionEnd, item.id)) regionLe
  have filled : ∀ region ∈ orderedRegions components, region.1 ≤ region.2.1 := by
    intro region member
    obtain ⟨item, -, rfl⟩ := List.mem_map.mp (perm.mem_iff.mp member)
    exact Nat.le_add_right _ _
  have ordered : (orderedRegions components).Pairwise fun first second =>
      first.2.1 ≤ second.1 ∨ second.2.1 ≤ first.1 := (checkRegions_ok filled checked).imp Or.inl
  have listed := (perm.pairwise_iff Or.symm).mp ordered
  rw [List.pairwise_map] at listed
  exact listed

end regions

section layout
variable {components : List SystemUpdateComponent} {targetLayout : Text}

theorem mem_firstOf (found : firstOf components kind = some component) :
    component ∈ components ∧ component.kind = kind := by
  unfold firstOf at found
  have isKind := List.find?_some found
  exact ⟨List.mem_of_find?_eq_some found, of_decide_eq_true isKind⟩

/-- What is checked of the first component of a kind holds of every one, where there is one only. -/
theorem firstOf_single (single : (components.filter (·.kind = kind)).length ≤ 1) (member : component ∈ components)
    (isKind : component.kind = kind) : firstOf components kind = some component := by
  have inside : component ∈ components.filter (·.kind = kind) := List.mem_filter.mpr ⟨member, decide_eq_true isKind⟩
  unfold firstOf
  rw [← List.head?_filter]
  cases kinds : components.filter (·.kind = kind) with
  | nil =>
    rw [kinds] at inside
    cases inside
  | cons first others =>
    rw [kinds] at inside single
    rw [List.length_cons] at single
    obtain rfl : others = [] := List.length_eq_zero_iff.mp (by omega)
    rw [List.mem_singleton.mp inside]
    rfl

structure Layout (components : List SystemUpdateComponent) (targetLayout : Text) : Prop where
  partitionTable : ∀ table ∈ components, table.kind = .partitionTable →
    table.size = partitionTableRegionBytes ∧ textOf (hexText table.sha256) = targetLayout
  recovery : ∀ recovery ∈ components, recovery.kind = .recovery → components = [recovery] ∧ targetLayout ≠ zeroLayout
  bootloader : ∀ loader ∈ components, loader.kind = .bootloader → ∃ table ∈ components, table.kind = .partitionTable ∧
    loader.regionEnd = table.targetOffset

theorem checkLayout_ok (single : ∀ kind ≠ .data, (components.filter (·.kind = kind)).length ≤ 1)
    (checked : checkLayout components targetLayout = .ok ()) : Layout components targetLayout := by
  unfold checkLayout at checked
  obtain ⟨tableSize, checked⟩ := requireText_bind.mp checked
  obtain ⟨alone, checked⟩ := requireText_bind.mp checked
  obtain ⟨explicit, checked⟩ := requireText_bind.mp checked
  obtain ⟨withTable, checked⟩ := requireText_bind.mp checked
  obtain ⟨meets, checked⟩ := requireText_bind.mp checked
  have digest := requireText_ok.mp checked
  constructor
  case partitionTable =>
    intro table member isKind
    have here := firstOf_single (single .partitionTable (by decide)) member isKind
    exact ⟨tableSize table here, digest table here⟩
  case recovery =>
    intro recovery member isKind
    have some : ¬ (firstOf components .recovery).isNone = true := by
      rw [firstOf_single (single .recovery (by decide)) member isKind]
      exact Bool.false_ne_true
    obtain ⟨only, whole⟩ := List.length_eq_one_iff.mp (alone.resolve_left some)
    rw [whole] at member ⊢
    exact ⟨by rw [List.mem_singleton.mp member], explicit.resolve_left some⟩
  case bootloader =>
    intro loader member isKind
    have here := firstOf_single (single .bootloader (by decide)) member isKind
    have some : ¬ (firstOf components .bootloader).isNone = true := by
      rw [here]
      exact Bool.false_ne_true
    obtain ⟨table, isTable⟩ := Option.isSome_iff_exists.mp (withTable.resolve_left some)
    exact ⟨table, (mem_firstOf isTable).1, (mem_firstOf isTable).2, meets loader here table isTable⟩

end layout

section acceptance
variable {library : PythonLibrary} {crypto : Cryptography}

structure ReadsHeader (document : Value) (header : Header) : Prop where
  manifest : document = .object header.manifest
  target : ∃ target : Fields, get header.manifest "target" = .object target ∧
    get target "chip_id" = .int header.chipId ∧ get target "flash_size" = .int header.flashSize
  flash : header.flashSize ≠ 0 ∧ header.flashSize % 4096 = 0
  targetLayout : get header.manifest "target_layout_sha256" = .str header.targetLayout
  values : get header.manifest "components" = .array header.values

theorem readHeader_ok {document : Value} {signed : Bool} {header : Header}
    (read : readHeader document signed = .ok header) : ReadsHeader document header := by
  unfold readHeader at read
  obtain ⟨manifest, isObject, read⟩ := bind_ok.mp read
  obtain ⟨-, read⟩ := requireText_bind.mp read
  obtain ⟨⟨⟩, -, read⟩ := bind_ok.mp read
  obtain ⟨⟨⟩, -, read⟩ := bind_ok.mp read
  obtain ⟨⟨⟩, -, read⟩ := bind_ok.mp read
  obtain ⟨keyId, -, read⟩ := bind_ok.mp read
  obtain ⟨target, isTarget, read⟩ := bind_ok.mp read
  obtain ⟨⟨⟩, -, read⟩ := bind_ok.mp read
  obtain ⟨chipId, isChip, read⟩ := bind_ok.mp read
  obtain ⟨flashSize, isFlash, read⟩ := bind_ok.mp read
  obtain ⟨flash, read⟩ := requireText_bind.mp read
  obtain ⟨targetLayout, isLayout, read⟩ := bind_ok.mp read
  obtain ⟨values, isValues, read⟩ := bind_ok.mp read
  obtain rfl := Except.ok.inj read
  exact
    { manifest := mapping_ok isObject
      target := ⟨target, mapping_ok isTarget, (boundedUint_ok isChip).1, (boundedUint_ok isFlash).1⟩
      flash
      targetLayout := sha256Hex_ok isLayout
      values := componentValues_ok isValues }

def Trusts (crypto : Cryptography) (trustedPublicKey : Option (List UInt8)) (signed : Prop)
    (signature manifestBytes : List UInt8) : Prop :=
  (signed → ∃ data key, trustedPublicKey = some data ∧ loadPublicKey crypto data = .ok key ∧
    crypto.verify key signature manifestBytes = true) ∧ (¬ signed → trustedPublicKey = none)

theorem checkSignature_ok {trustedPublicKey : Option (List UInt8)} {publicKey : Option crypto.PublicKey}
    {signature manifestBytes : List UInt8} (trusted : trustedKey crypto trustedPublicKey = .ok publicKey)
    (checked : checkSignature crypto publicKey signature manifestBytes = .ok ()) :
    Trusts crypto trustedPublicKey (signature ≠ []) signature manifestBytes := by
  unfold checkSignature at checked
  obtain ⟨-, checked⟩ := requireText_bind.mp checked
  obtain ⟨unsigned, checked⟩ := requireText_bind.mp checked
  have verified := requireText_ok.mp checked
  cases trustedPublicKey with
  | none =>
    obtain rfl := Except.ok.inj trusted
    refine ⟨fun signed => ?_, fun _ => rfl⟩
    rcases verified with empty | verified
    · exact absurd empty signed
    · cases verified
  | some data =>
    obtain ⟨key, loaded, trusted⟩ := bind_ok.mp trusted
    obtain rfl := Except.ok.inj trusted
    refine ⟨fun signed => ⟨data, key, rfl, loaded, verified.resolve_left signed⟩, fun empty => ?_⟩
    rcases unsigned with signed | noKey
    · exact absurd signed empty
    · cases noKey

structure Accepted (library : PythonLibrary) (crypto : Cryptography) (infos : List ZipMember)
    (trustedPublicKey : Option (List UInt8)) (bundle : SystemUpdateBundle) : Prop where
  identifiers : (bundle.components.map (·.id)).Nodup ∧ ∀ component ∈ bundle.components, component.id ≠ 0
  bytes : ∀ component ∈ bundle.components, component.data.length = component.size ∧
    component.sha256 = library.sha256 component.data
  declared : parseManifest bundle.manifestBytes = .ok (.object bundle.manifest) ∧
    (∃ target : Fields, get bundle.manifest "target" = .object target ∧
      get target "flash_size" = .int bundle.flashSize) ∧
    get bundle.manifest "target_layout_sha256" = .str bundle.targetLayoutSha256 ∧
    ∃ values, get bundle.manifest "components" = .array values ∧ List.Forall₂ Declares values bundle.components
  apart : bundle.components.Pairwise Apart
  inside : ∀ component ∈ bundle.components, component.regionEnd ≤ bundle.flashSize
  bootloader : ∀ loader ∈ bundle.components, loader.kind = .bootloader →
    ∃ table ∈ bundle.components, table.kind = .partitionTable ∧ loader.regionEnd = table.targetOffset
  targetLayout : ∀ table ∈ bundle.components, table.kind = .partitionTable →
    textOf (hexText table.sha256) = bundle.targetLayoutSha256
  recovery : ∀ recovery ∈ bundle.components, recovery.kind = .recovery → bundle.components = [recovery]
  single : ∀ kind ≠ .data, (bundle.components.filter (·.kind = kind)).length ≤ 1
  names : (infos.map ZipMember.filename).Nodup
  referenced : (infos.map ZipMember.filename).Perm (manifestName ::
    (if signatureName ∈ infos.map ZipMember.filename then [signatureName] else []) ++
      bundle.components.map (·.filename))
  manifest : ∃ info ∈ infos, info.filename = manifestName ∧ info.data = some bundle.manifestBytes
  signature : ∀ info ∈ infos, info.filename = signatureName → info.data = some bundle.signature
  read : ∀ component ∈ bundle.components, ∃ info ∈ infos, info.filename = component.filename ∧
    info.data = some component.data
  image : ∀ component ∈ bundle.components, component.kind = .application ∨ component.kind = .recovery →
    ∃ firmware, inspectFirmwareImage library component.data = .ok firmware ∧ firmware.chipId = bundle.chipId
  trusted : Trusts crypto trustedPublicKey (signatureName ∈ infos.map ZipMember.filename) bundle.signature
    bundle.manifestBytes

theorem sound_start (members : List (Text × ZipMember)) (chipId flashSize : Nat) {start : List Text}
    (nodup : start.Nodup) : Sound library members chipId flashSize start ⟨[], [], start, []⟩ where
  identifiers := rfl
  distinct := List.nodup_nil
  singletons := rfl
  single := List.nodup_nil
  filenames := rfl
  named := nodup
  each := fun _ member => absurd member List.not_mem_nil

theorem Sound.kinds {members : List (Text × ZipMember)} {chipId flashSize : Nat} {start : List Text} {loaded : Loaded}
    (sound : Sound library members chipId flashSize start loaded) :
    ∀ kind ≠ .data, (loaded.components.filter (·.kind = kind)).length ≤ 1 := by
  intro kind named
  have nodup := sound.single
  rw [sound.singletons, List.nodup_reverse] at nodup
  have counted := List.nodup_iff_count_le_one.mp nodup kind
  have kept : List.count kind ((loaded.components.map (·.kind)).filter (· ≠ .data)) =
      List.count kind (loaded.components.map (·.kind)) := List.count_filter (decide_eq_true named)
  rw [kept, List.count_eq_countP, List.countP_map, List.countP_eq_length_filter] at counted
  calc
    (loaded.components.filter (·.kind = kind)).length =
        (loaded.components.filter ((· == kind) ∘ (·.kind))).length := by
      congr 1
    _ ≤ 1 := counted

/-- The names that the manifest and the archive share, when nothing is left over. -/
theorem names_perm {members : List (Text × ZipMember)} {chipId flashSize : Nat} {start : List Text} {loaded : Loaded}
    (sound : Sound library members chipId flashSize start loaded) (distinct : (members.map Prod.fst).Nodup)
    (started : ∀ name ∈ start, name ∈ members.map Prod.fst)
    (unused : (members.map Prod.fst).filter (fun name => name ∉ loaded.filenames) = []) :
    (members.map Prod.fst).Perm (start ++ loaded.components.map (·.filename)) := by
  have perm : (members.map Prod.fst).Perm loaded.filenames := by
    refine (List.perm_ext_iff_of_nodup distinct sound.named).mpr fun name => ⟨fun member => ?_, fun member => ?_⟩
    · have used := List.filter_eq_nil_iff.mp unused name member
      simpa using used
    · rw [sound.filenames] at member
      rcases List.mem_append.mp member with file | here
      · obtain ⟨component, inside, rfl⟩ := List.mem_map.mp (List.mem_reverse.mp file)
        obtain ⟨info, found, -⟩ := (sound.each component inside).member
        exact List.mem_map_of_mem ((lookup_iff distinct).mp found)
      · exact started name here
  rw [sound.filenames] at perm
  exact perm.trans (((List.reverse_perm _).append_right start).trans List.perm_append_comm)

def startNames (signature : List UInt8) : List Text :=
  if signature ≠ [] then [signatureName, manifestName] else [manifestName]

theorem startNames_nodup (signature : List UInt8) : (startNames signature).Nodup := by
  unfold startNames
  split <;> decide

/-- An archive with a signature is one whose signature is not empty: an empty one would be left over. -/
theorem signed_iff {members : List (Text × ZipMember)} {chipId flashSize : Nat} {signature : List UInt8}
    {loaded : Loaded} (isMembers : archiveMembers infos = .ok members)
    (isSignature : readSignature members = .ok signature)
    (sound : Sound library members chipId flashSize (startNames signature) loaded)
    (referenced : (members.map Prod.fst).Perm (startNames signature ++ loaded.components.map (·.filename))) :
    signatureName ∈ infos.map ZipMember.filename ↔ signature ≠ [] := by
  obtain ⟨held, present⟩ := readSignature_ok isMembers isSignature
  rw [← archiveMembers_names isMembers]
  refine ⟨fun member empty => ?_, present⟩
  subst empty
  rcases List.mem_append.mp (referenced.mem_iff.mp member) with start | file
  · exact absurd start (by decide)
  · obtain ⟨component, inside, named⟩ := List.mem_map.mp file
    have checked := sound.each component inside
    obtain ⟨info, found, isData⟩ := checked.member
    obtain ⟨inArchive, isName⟩ := (archiveMembers_lookup isMembers).mp found
    have empty := (held info inArchive (isName.trans named)).symm.trans isData
    have size := checked.size
    rw [← Option.some.inj empty] at size
    exact checked.filled size.symm

theorem loadSystemUpdateBundle_ok {source : Source} {trustedPublicKey : Option (List UInt8)}
    {bundle : SystemUpdateBundle}
    (read : loadSystemUpdateBundle library crypto source trustedPublicKey = .ok bundle) :
    ∃ archive infos, source.read = .ok archive ∧ archive.open = .ok infos ∧
      Accepted library crypto infos trustedPublicKey bundle := by
  unfold loadSystemUpdateBundle at read
  obtain ⟨archive, isArchive, read⟩ := bind_ok.mp read
  obtain ⟨publicKey, isKey, read⟩ := bind_ok.mp read
  obtain ⟨infos, isOpen, read⟩ := bind_ok.mp read
  obtain ⟨members, isMembers, read⟩ := bind_ok.mp read
  obtain ⟨hasManifest, read⟩ := requireText_bind.mp read
  obtain ⟨manifestBytes, isManifest, read⟩ := bind_ok.mp read
  obtain ⟨signature, isSignature, read⟩ := bind_ok.mp read
  obtain ⟨-, read⟩ := requireText_bind.mp read
  obtain ⟨-, read⟩ := requireText_bind.mp read
  obtain ⟨⟨⟩, signed, read⟩ := bind_ok.mp read
  obtain ⟨document, isDocument, read⟩ := bind_ok.mp read
  obtain ⟨header, isHeader, read⟩ := bind_ok.mp read
  obtain ⟨loaded, isLoaded, read⟩ := bind_ok.mp read
  obtain ⟨unused, read⟩ := require_bind.mp read
  obtain ⟨⟨⟩, regions, read⟩ := bind_ok.mp read
  obtain ⟨⟨⟩, layout, read⟩ := bind_ok.mp read
  obtain rfl := Except.ok.inj read
  refine ⟨archive, infos, isArchive, isOpen, ?_⟩
  obtain ⟨whole, distinct⟩ := archiveMembers_ok isMembers
  have names := archiveMembers_names isMembers
  have shown := readHeader_ok isHeader
  obtain ⟨target, isTarget, -, isFlash⟩ := shown.target
  obtain ⟨sound, components, rfl, declared⟩ :=
    loadComponents_ok (sound_start members _ _ (startNames_nodup signature)) isLoaded
  have single := sound.kinds
  have layoutOk := checkLayout_ok single layout
  have started : ∀ name ∈ startNames signature, name ∈ members.map Prod.fst := by
    intro name member
    unfold startNames at member
    split at member
    next filled =>
      rcases List.mem_cons.mp member with rfl | last
      · exact (readSignature_ok isMembers isSignature).2 filled
      · rw [List.mem_singleton.mp last]
        exact hasManifest
    rw [List.mem_singleton.mp member]
    exact hasManifest
  have referenced := names_perm sound distinct started unused
  have signedIff := signed_iff isMembers isSignature sound referenced
  have trusted := checkSignature_ok isKey signed
  rw [← signedIff] at trusted
  have identifiers := sound.distinct
  rw [sound.identifiers, List.nodup_reverse] at identifiers
  constructor
  case identifiers => exact ⟨identifiers, fun component member => (sound.each component member).nonzero⟩
  case bytes => exact fun component member => ⟨(sound.each component member).size, (sound.each component member).digest⟩
  case declared =>
    exact ⟨isDocument.trans (congrArg Except.ok shown.manifest), ⟨target, isTarget, isFlash⟩, shown.targetLayout,
      header.values, shown.values, declared⟩
  case apart => exact orderedRegions_apart regions
  case inside => exact fun component member => (sound.each component member).inside
  case bootloader => exact layoutOk.bootloader
  case targetLayout => exact fun table member isKind => (layoutOk.partitionTable table member isKind).2
  case recovery => exact fun recovery member isKind => (layoutOk.recovery recovery member isKind).1
  case single => exact single
  case names =>
    rw [← names]
    exact distinct
  case referenced =>
    rw [← names]
    refine referenced.trans ?_
    apply List.Perm.append_right
    rw [names]
    by_cases filled : signature ≠ []
    · rw [if_pos (signedIff.mpr filled)]
      unfold startNames
      rw [if_pos filled]
      exact List.Perm.swap _ _ _
    · rw [if_neg fun member => filled (signedIff.mp member)]
      unfold startNames
      rw [if_neg filled]
  case manifest =>
    obtain ⟨info, found, isData⟩ := readMember_ok isManifest
    obtain ⟨inArchive, named⟩ := (archiveMembers_lookup isMembers).mp found
    exact ⟨info, inArchive, named, isData⟩
  case signature => exact (readSignature_ok isMembers isSignature).1
  case read =>
    intro component member
    obtain ⟨info, found, isData⟩ := (sound.each component member).member
    obtain ⟨inArchive, named⟩ := (archiveMembers_lookup isMembers).mp found
    exact ⟨info, inArchive, named, isData⟩
  case image => exact fun component member => (sound.each component member).image
  case trusted => exact trusted

def Accepted.taken {infos : List ZipMember} {trustedPublicKey : Option (List UInt8)} {bundle : SystemUpdateBundle}
    (accepted : Accepted library crypto infos trustedPublicKey bundle) :
    Reconciliation.SystemUpdateBundle library where
  targetLayoutSha256 := String.ofList (bundle.targetLayoutSha256.map Char.ofNat)
  components := bundle.components.map fun component =>
    { kind := component.kind, sha256 := component.sha256, data := component.data }
  digests := by
    intro taken member
    obtain ⟨component, inside, rfl⟩ := List.mem_map.mp member
    exact (accepted.bytes component inside).2
  single := by
    intro kind named
    rw [List.filter_map, List.length_map]
    exact accepted.single kind named
  inspected := by
    intro taken member image
    obtain ⟨component, inside, rfl⟩ := List.mem_map.mp member
    obtain ⟨firmware, isImage, -⟩ := accepted.image component inside image
    exact ⟨firmware, isImage⟩

end acceptance

end EspIris.Gateway.SystemBundle
