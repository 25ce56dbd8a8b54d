import EspIris.Lib.Json
import Mathlib.Data.List.Sort
import Mathlib.Data.Set.Function

/-! The fingerprint of a request: `_canonical` and `request_fingerprint` on every value that they take. The digest is a
parameter. -/

namespace EspIris.Gateway.Fingerprint
open JsonText

inductive Parameter
  | null
  | bool (value : Bool)
  | int (value : Int)
  | float (value : FloatText)
  | str (text : String)
  | bytes (value : List UInt8)
  | list (items : List Parameter)
  | tuple (items : List Parameter)
  | dict (entries : List (String × Parameter))

namespace Parameter

def items : Parameter → Option (List Parameter)
  | list items => some items
  | tuple items => some items
  | _ => none

def keys : Parameter → List String
  | dict entries => entries.map Prod.fst
  | _ => []

def children : Parameter → List Parameter
  | list items => items
  | tuple items => items
  | dict entries => entries.map Prod.snd
  | _ => []

theorem sizeOf_child {value child : Parameter} (member : child ∈ value.children) : sizeOf child < sizeOf value := by
  cases value with
  | list items | tuple items =>
    have smaller : sizeOf child < sizeOf items := List.sizeOf_lt_of_mem member
    simp only [list.sizeOf_spec, tuple.sizeOf_spec]
    omega
  | dict entries =>
    obtain ⟨⟨key, value⟩, inside, rfl⟩ := List.mem_map.mp member
    have smaller := List.sizeOf_lt_of_mem inside
    simp only [Prod.mk.sizeOf_spec, dict.sizeOf_spec] at smaller ⊢
    omega
  | _ => contradiction

theorem deep {motive : Parameter → Prop} (step : ∀ value, (∀ child ∈ value.children, motive child) → motive value)
    (value : Parameter) : motive value :=
  step value fun child member =>
    have _smaller := sizeOf_child member
    deep step child
termination_by sizeOf value

inductive WellFormed : Parameter → Prop
  | intro {value : Parameter} (keys : value.keys.Nodup) (inside : ∀ child ∈ value.children, WellFormed child) :
    WellFormed value

inductive Occurs (bytes : List UInt8) : Parameter → Prop
  | here : Occurs bytes (.bytes bytes)
  | inside {value child : Parameter} (member : child ∈ value.children) (occurs : Occurs bytes child) :
    Occurs bytes value

inductive Same : Parameter → Parameter → Prop
  | null : Same null null
  | bool (value : Bool) : Same (bool value) (bool value)
  | int (value : Int) : Same (int value) (int value)
  | float (value : FloatText) : Same (float value) (float value)
  | str (text : String) : Same (str text) (str text)
  | bytes (value : List UInt8) : Same (bytes value) (bytes value)
  | sequence {first second : Parameter} {items others : List Parameter} (isFirst : first.items = some items)
    (isSecond : second.items = some others) (lengths : items.length = others.length)
    (each : ∀ (index : Nat) item other, items[index]? = some item → others[index]? = some other → Same item other) :
    Same first second
  | mapping {entries others : List (String × Parameter)}
    (keys : ∀ key, key ∈ entries.map Prod.fst ↔ key ∈ others.map Prod.fst)
    (each : ∀ key item other, (key, item) ∈ entries → (key, other) ∈ others → Same item other) :
    Same (dict entries) (dict others)

end Parameter

def arranged (entries : List (String × Json)) : List Json :=
  ((entries.map Prod.fst).insertionSort (· ≤ ·)).map fun key =>
    -- Every key that is sorted is in the dictionary, so that there is no other value.
    .array [.str key, (entries.lookup key).getD (.literal .null)]

section canonical
variable (sha256 : List UInt8 → String)

mutual

def canonical : Parameter → Json
  | .bytes value => .array [.str "bytes", .literal (.int value.length), .str (sha256 value)]
  | .dict entries => .array [.str "object", .array (arranged (canonicalEntries entries))]
  | .tuple items => .array [.str "array", .array (canonicalItems items)]
  | .list items => .array [.str "array", .array (canonicalItems items)]
  | .null => .array [.str "NoneType", .literal .null]
  | .str text => .array [.str "str", .str text]
  | .int value => .array [.str "int", .literal (.int value)]
  | .float value => .array [.str "float", .literal (.float value)]
  | .bool value => .array [.str "bool", .literal (.bool value)]

def canonicalItems : List Parameter → List Json
  | [] => []
  | item :: items => canonical item :: canonicalItems items

def canonicalEntries : List (String × Parameter) → List (String × Json)
  | [] => []
  | (key, value) :: entries => (key, canonical value) :: canonicalEntries entries

end

def identityFields : List String := ["device_id", "actor_type", "actor_name", "actor_scopes", "action", "params"]

abbrev Request := String → Option Parameter

def Request.get (request : Request) (key : String) : Parameter := (request key).getD .null

def identity (request : Request) : Parameter := .dict (identityFields.map fun key => (key, request.get key))

def requestFingerprint (request : Request) : String :=
  "sha256:v1:" ++ sha256 (encoded (canonical sha256 (identity request)))

variable {sha256}

theorem canonicalItems_eq (items : List Parameter) : canonicalItems sha256 items = items.map (canonical sha256) := by
  induction items with
  | nil => rw [canonicalItems, List.map_nil]
  | cons item items ih => rw [canonicalItems, List.map_cons, ih]

theorem canonicalEntries_eq (entries : List (String × Parameter)) :
    canonicalEntries sha256 entries = entries.map fun entry => (entry.1, canonical sha256 entry.2) := by
  induction entries with
  | nil => rw [canonicalEntries, List.map_nil]
  | cons entry entries ih => rw [canonicalEntries, List.map_cons, ih]

theorem canonicalEntries_keys (entries : List (String × Parameter)) :
    (canonicalEntries sha256 entries).map Prod.fst = entries.map Prod.fst := by
  rw [canonicalEntries_eq, List.map_map]
  rfl

theorem canonical_sequence {value : Parameter} {items : List Parameter} (isItems : value.items = some items) :
    canonical sha256 value = .array [.str "array", .array (items.map (canonical sha256))] := by
  cases value with
  | list inside | tuple inside =>
    obtain rfl := Option.some.inj isItems
    rw [canonical, canonicalItems_eq]
  | _ => contradiction

theorem lookup_of_mem {entries : List (String × Parameter)} (nodup : (entries.map Prod.fst).Nodup) {key : String}
    {item : Parameter} (member : (key, item) ∈ entries) :
    (canonicalEntries sha256 entries).lookup key = some (canonical sha256 item) := by
  induction entries with
  | nil => contradiction
  | cons entry entries ih =>
    rw [List.map_cons, List.nodup_cons] at nodup
    rw [canonicalEntries, List.lookup_cons]
    rcases List.mem_cons.mp member with rfl | later
    · rw [beq_self_eq_true]
    · have apart : key ≠ entry.1 := fun same => nodup.1 (same ▸ List.mem_map_of_mem (f := Prod.fst) later)
      rw [beq_false_of_ne apart]
      exact ih nodup.2 later

theorem sorted_keys {keys others : List String} (nodup : keys.Nodup) (isNodup : others.Nodup)
    (same : ∀ key, key ∈ keys ↔ key ∈ others) :
    keys.insertionSort (· ≤ ·) = others.insertionSort (· ≤ ·) := by
  have perm : (keys.insertionSort (· ≤ ·)).Perm (others.insertionSort (· ≤ ·)) :=
    (List.perm_insertionSort _ _).trans
      (((List.perm_ext_iff_of_nodup nodup isNodup).mpr same).trans (List.perm_insertionSort _ _).symm)
  exact perm.eq_of_pairwise' (List.pairwise_insertionSort _ _) (List.pairwise_insertionSort _ _)

theorem Parameter.WellFormed.child {value child : Parameter} (wellFormed : value.WellFormed)
    (member : child ∈ value.children) :
    child.WellFormed := by
  obtain ⟨-, inside⟩ := wellFormed
  exact inside child member

theorem Parameter.WellFormed.entries {entries : List (String × Parameter)}
    (wellFormed : (Parameter.dict entries).WellFormed) :
    (entries.map Prod.fst).Nodup := by
  obtain ⟨keys, -⟩ := wellFormed
  exact keys

theorem Parameter.children_of_items (value : Parameter) {items : List Parameter} (isItems : value.items = some items) :
    value.children = items := by
  cases value with
  | list inside | tuple inside => exact Option.some.inj isItems
  | _ => contradiction

theorem map_eq_map {items others : List Parameter} {form : Parameter → Json} (lengths : items.length = others.length)
    (each : ∀ (index : Nat) item other, items[index]? = some item → others[index]? = some other →
      form item = form other) : items.map form = others.map form := by
  refine List.ext_getElem (by rw [List.length_map, List.length_map, lengths]) ?_
  intro index first second
  rw [List.length_map] at first second
  rw [List.getElem_map, List.getElem_map]
  exact each index _ _ (List.getElem?_eq_getElem first) (List.getElem?_eq_getElem second)

theorem canonical_of_same {first second : Parameter} (same : first.Same second) (wellFormed : first.WellFormed)
    (isWellFormed : second.WellFormed) : canonical sha256 first = canonical sha256 second := by
  induction same with
  | null | bool | int | float | str | bytes => rfl
  | sequence isFirst isSecond lengths each ih =>
    rw [canonical_sequence isFirst, canonical_sequence isSecond]
    rw [map_eq_map lengths]
    intro index item other at_ isAt
    refine ih index item other at_ isAt (wellFormed.child ?_) (isWellFormed.child ?_)
    · rw [Parameter.children_of_items _ isFirst]
      exact List.mem_of_getElem? at_
    · rw [Parameter.children_of_items _ isSecond]
      exact List.mem_of_getElem? isAt
  | @mapping entries others keys each ih =>
    have nodup := wellFormed.entries
    have isNodup := isWellFormed.entries
    rw [canonical, canonical]
    unfold arranged
    rw [canonicalEntries_keys, canonicalEntries_keys, sorted_keys nodup isNodup keys]
    congr 4
    refine List.map_congr_left ?_
    intro key member
    rw [List.mem_insertionSort] at member
    obtain ⟨⟨_, other⟩, isThere, rfl⟩ := List.mem_map.mp member
    obtain ⟨⟨_, item⟩, there, rfl⟩ := List.mem_map.mp ((keys _).mpr member)
    rw [lookup_of_mem nodup there, lookup_of_mem isNodup isThere]
    rw [ih _ item other there isThere (wellFormed.child (List.mem_map_of_mem there))
      (isWellFormed.child (List.mem_map_of_mem isThere))]

def tag : Parameter → String
  | .bytes _ => "bytes"
  | .dict _ => "object"
  | .tuple _ => "array"
  | .list _ => "array"
  | .null => "NoneType"
  | .str _ => "str"
  | .int _ => "int"
  | .float _ => "float"
  | .bool _ => "bool"

theorem canonical_tag (sha256 : List UInt8 → String) (value : Parameter) : ∃ rest, canonical sha256 value = .array
    (.str (tag value) :: rest) := by
  cases value <;> rw [canonical] <;> exact ⟨_, rfl⟩

theorem tag_of_canonical {first second : Parameter} (same : canonical sha256 first = canonical sha256 second) :
    tag first = tag second := by
  obtain ⟨_, shape⟩ := canonical_tag sha256 first
  obtain ⟨_, isShape⟩ := canonical_tag sha256 second
  rw [shape, isShape] at same
  exact Json.str.inj (List.cons.inj (Json.array.inj same)).1

theorem sequence_of_canonical {first second : Parameter} {items : List Parameter} (isFirst : first.items = some items)
    (same : canonical sha256 first = canonical sha256 second) :
    ∃ others, second.items = some others ∧ items.map (canonical sha256) = others.map (canonical sha256) := by
  have array : tag second = "array" := by
    rw [← tag_of_canonical same]
    cases first with
    | list | tuple => rfl
    | _ => contradiction
  have sequence : ∃ others, second.items = some others := by
    cases second with
    | list others | tuple others => exact ⟨others, rfl⟩
    | _ => exact absurd array (by simp [tag])
  obtain ⟨others, isSecond⟩ := sequence
  rw [canonical_sequence isFirst, canonical_sequence isSecond] at same
  simp only [Json.array.injEq, List.cons.injEq, true_and, and_true] at same
  exact ⟨others, isSecond, same⟩

/-- The keys and the values of a dictionary are seen from its arrangement. -/
theorem arranged_inj {entries others : List (String × Json)} (same : arranged entries = arranged others) :
    (∀ key, key ∈ entries.map Prod.fst ↔ key ∈ others.map Prod.fst) ∧
      ∀ key ∈ entries.map Prod.fst, (entries.lookup key).getD (.literal .null) = (others.lookup key).getD (.literal .null) := by
  have sorted : (entries.map Prod.fst).insertionSort (· ≤ ·) = (others.map Prod.fst).insertionSort (· ≤ ·) := by
    have heads := congrArg (List.map fun
      | Json.array [.str key, _] => key
      | _ => "") same
    unfold arranged at heads
    rw [List.map_map, List.map_map] at heads
    exact (List.map_id _).symm.trans (heads.trans (List.map_id _))
  have keys : ∀ key, key ∈ entries.map Prod.fst ↔ key ∈ others.map Prod.fst := by
    intro key
    rw [← List.mem_insertionSort (· ≤ ·), sorted, List.mem_insertionSort]
  refine ⟨keys, ?_⟩
  intro key member
  unfold arranged at same
  rw [← sorted, List.map_inj_left] at same
  have here := same key ((List.mem_insertionSort _).mpr member)
  simp only [Json.array.injEq, List.cons.injEq, true_and, and_true] at here
  exact here

/-- Values with one canonical form are equal, as long as no two of their bytes have the same digest. -/
theorem same_of_canonical {first second : Parameter} (wellFormed : first.WellFormed)
    (isWellFormed : second.WellFormed)
    (noCollision : ∀ bytes other, first.Occurs bytes → second.Occurs other → sha256 bytes = sha256 other → bytes = other)
    (same : canonical sha256 first = canonical sha256 second) : first.Same second := by
  induction first using Parameter.deep generalizing second with
  | step first ih =>
    have tags := tag_of_canonical same
    have inside : ∀ {item other}, item ∈ first.children → other ∈ second.children →
        canonical sha256 item = canonical sha256 other → item.Same other := by
      intro item other member isMember forms
      refine ih item member (wellFormed.child member) (isWellFormed.child isMember) ?_ forms
      intro bytes others occurs isOccurring
      exact noCollision bytes others (.inside member occurs) (.inside isMember isOccurring)
    have sequence : ∀ {items}, first.items = some items → first.Same second := by
      intro items isFirst
      obtain ⟨others, isSecond, forms⟩ := sequence_of_canonical isFirst same
      have lengths : items.length = others.length := by simpa using congrArg List.length forms
      refine .sequence isFirst isSecond lengths ?_
      intro index item other there isThere
      have members := first.children_of_items isFirst
      have others := second.children_of_items isSecond
      refine inside (members ▸ List.mem_of_getElem? there) (others ▸ List.mem_of_getElem? isThere) ?_
      have here := congrArg (·[index]?) forms
      rw [List.getElem?_map, List.getElem?_map, there, isThere] at here
      exact Option.some.inj here
    cases first with
    | null =>
      cases second with
      | null => exact .null
      | _ => exact absurd tags (by simp [tag])
    | bool value =>
      cases second with
      | bool other =>
        simp only [canonical, Json.array.injEq, List.cons.injEq, Json.literal.injEq, Literal.bool.injEq, true_and,
          and_true] at same
        exact same ▸ .bool value
      | _ => exact absurd tags (by simp [tag])
    | int value =>
      cases second with
      | int other =>
        simp only [canonical, Json.array.injEq, List.cons.injEq, Json.literal.injEq, Literal.int.injEq, true_and,
          and_true] at same
        exact same ▸ .int value
      | _ => exact absurd tags (by simp [tag])
    | float value =>
      cases second with
      | float other =>
        simp only [canonical, Json.array.injEq, List.cons.injEq, Json.literal.injEq, Literal.float.injEq, true_and,
          and_true] at same
        exact same ▸ .float value
      | _ => exact absurd tags (by simp [tag])
    | str text =>
      cases second with
      | str other =>
        simp only [canonical, Json.array.injEq, List.cons.injEq, Json.str.injEq, true_and, and_true] at same
        exact same ▸ .str text
      | _ => exact absurd tags (by simp [tag])
    | bytes value =>
      cases second with
      | bytes other =>
        simp only [canonical, Json.array.injEq, List.cons.injEq, Json.str.injEq, true_and, and_true] at same
        obtain rfl := noCollision value other .here .here same.2
        exact .bytes value
      | _ => exact absurd tags (by simp [tag])
    | list items | tuple items => exact sequence rfl
    | dict entries =>
      cases second with
      | dict others =>
        simp only [canonical, Json.array.injEq, List.cons.injEq, true_and, and_true] at same
        obtain ⟨keys, values⟩ := arranged_inj same
        rw [canonicalEntries_keys, canonicalEntries_keys] at keys
        rw [canonicalEntries_keys] at values
        refine .mapping keys ?_
        intro key item other there isThere
        refine inside (List.mem_map_of_mem there) (List.mem_map_of_mem isThere) ?_
        have here := values key (List.mem_map_of_mem there)
        rw [lookup_of_mem wellFormed.entries there, lookup_of_mem isWellFormed.entries isThere] at here
        exact here
      | _ => exact absurd tags (by simp [tag])

def digested (sha256 : List UInt8 → String) (request : Request) : Set (List UInt8) :=
  {bytes | (identity request).Occurs bytes ∨ bytes = encoded (canonical sha256 (identity request))}

theorem identity_wellFormed {request : Request} (wellFormed : ∀ key ∈ identityFields, (request.get key).WellFormed) :
    (identity request).WellFormed := by
  refine .intro ?_ ?_
  · change ((identityFields.map fun key => (key, request.get key)).map Prod.fst).Nodup
    rw [List.map_map]
    change (identityFields.map id).Nodup
    rw [List.map_id]
    decide
  · intro child member
    obtain ⟨entry, inside, rfl⟩ := List.mem_map.mp member
    obtain ⟨key, isField, rfl⟩ := List.mem_map.mp inside
    exact wellFormed key isField

theorem identity_same (first second : Request) :
    (identity first).Same (identity second) ↔ ∀ key ∈ identityFields, (first.get key).Same (second.get key) := by
  have entry : ∀ (request : Request) key, key ∈ identityFields →
      (key, request.get key) ∈ identityFields.map fun key => (key, request.get key) :=
    fun request key isField => List.mem_map_of_mem isField
  constructor
  · intro same key isField
    cases same with
    | sequence isFirst => contradiction
    | mapping keys each => exact each key _ _ (entry first key isField) (entry second key isField)
  · intro fields
    refine .mapping ?_ ?_
    · intro key
      rw [List.map_map, List.map_map]
      rfl
    · intro key item other there isThere
      obtain ⟨_, isField, ⟨⟩⟩ := List.mem_map.mp there
      obtain ⟨_, -, ⟨⟩⟩ := List.mem_map.mp isThere
      exact fields key isField

/-- As long as SHA-256 has no collision on what is digested, two requests have one fingerprint exactly when their
identity fields are equal. -/
theorem fingerprint_canonical (sha256 : List UInt8 → String) (first second : Request)
    (wellFormed : ∀ key ∈ identityFields, (first.get key).WellFormed)
    (isWellFormed : ∀ key ∈ identityFields, (second.get key).WellFormed)
    (noCollision : Set.InjOn sha256 (digested sha256 first ∪ digested sha256 second)) :
    requestFingerprint sha256 first = requestFingerprint sha256 second ↔
      ∀ key ∈ identityFields, (first.get key).Same (second.get key) := by
  have whole := identity_wellFormed wellFormed
  have isWhole := identity_wellFormed isWellFormed
  rw [← identity_same]
  constructor
  · intro fingerprints
    have digests := (String.append_right_inj _).mp fingerprints
    have encodings := noCollision (.inl (.inr rfl)) (.inr (.inr rfl)) digests
    refine same_of_canonical whole isWhole ?_ (encoded_inj encodings)
    intro bytes other occurs isOccurring
    exact noCollision (.inl (.inl occurs)) (.inr (.inl isOccurring))
  · intro same
    unfold requestFingerprint
    rw [canonical_of_same same whole isWhole]

end canonical

theorem same_tag {first second : Parameter} (same : first.Same second) : tag first = tag second := by
  have sequence : ∀ {value : Parameter} {items}, value.items = some items → tag value = "array" := by
    intro value items isItems
    cases value with
    | list | tuple => rfl
    | _ => contradiction
  cases same with
  | sequence isFirst isSecond => rw [sequence isFirst, sequence isSecond]
  | _ => rfl

def paramsOnly (params : Parameter) : Request := fun key => if key = "params" then some params else none

/-- The digests of the identities with `True` and with one; the first has four bytes more. -/
def knownDigest (bytes : List UInt8) : String :=
  if bytes.length = 199 then "7965a577dd258a2f11985bdb6c0c16bae107decce131339c1877cdb3ba7c6709"
  else "23f08d629ff436170085c67b448b595cb69c6f166133d977b86f4b9570ef2a47"

theorem paramsOnly_get (params : Parameter) (key : String) :
    (paramsOnly params).get key = params ∨ (paramsOnly params).get key = .null := by
  unfold Request.get paramsOnly
  split
  · exact .inl rfl
  · exact .inr rfl

theorem scalar_plain {value : Parameter} (childless : value.children = []) (keyless : value.keys = [])
    (noBytes : ∀ bytes, value ≠ .bytes bytes) : value.WellFormed ∧ ∀ bytes, ¬ value.Occurs bytes := by
  refine ⟨.intro (by rw [keyless]; exact List.nodup_nil) (by simp [childless]), ?_⟩
  intro bytes occurs
  cases occurs with
  | here => exact noBytes bytes rfl
  | inside member =>
    rw [childless] at member
    contradiction

theorem paramsOnly_plain {params : Parameter} (plain : params.WellFormed ∧ ∀ bytes, ¬ params.Occurs bytes)
    (key : String) : ((paramsOnly params).get key).WellFormed ∧ ∀ bytes, ¬
    ((paramsOnly params).get key).Occurs bytes := by
  rcases paramsOnly_get params key with here | null
  · rw [here]
    exact plain
  · rw [null]
    exact scalar_plain rfl rfl fun _ => Parameter.noConfusion

theorem paramsOnly_digested {params : Parameter} (plain : params.WellFormed ∧ ∀ bytes, ¬ params.Occurs bytes)
    {bytes : List UInt8} (member : bytes ∈ digested knownDigest (paramsOnly params)) :
    bytes = encoded (canonical knownDigest (identity (paramsOnly params))) := by
  refine member.resolve_left ?_
  intro occurs
  cases occurs with
  | inside member occurs =>
    obtain ⟨entry, inside, rfl⟩ := List.mem_map.mp member
    obtain ⟨key, -, rfl⟩ := List.mem_map.mp inside
    exact (paramsOnly_plain plain key).2 bytes occurs

/-- `True` and one are different parameters. -/
theorem fingerprint_canonical_bool_int :
    requestFingerprint knownDigest (paramsOnly (.bool true)) ≠ requestFingerprint knownDigest (paramsOnly (.int 1)) := by
  have bool : (Parameter.bool true).WellFormed ∧ ∀ bytes, ¬ (Parameter.bool true).Occurs bytes :=
    scalar_plain rfl rfl fun _ => Parameter.noConfusion
  have int : (Parameter.int 1).WellFormed ∧ ∀ bytes, ¬ (Parameter.int 1).Occurs bytes :=
    scalar_plain rfl rfl fun _ => Parameter.noConfusion
  have noCollision : Set.InjOn knownDigest
      (digested knownDigest (paramsOnly (.bool true)) ∪ digested knownDigest (paramsOnly (.int 1))) := by
    have apart : knownDigest (encoded (canonical knownDigest (identity (paramsOnly (.bool true))))) ≠
        knownDigest (encoded (canonical knownDigest (identity (paramsOnly (.int 1))))) := by decide +kernel
    rintro bytes (member | member) other (isMember | isMember) same
    · rw [paramsOnly_digested bool member, paramsOnly_digested bool isMember]
    · rw [paramsOnly_digested bool member, paramsOnly_digested int isMember] at same
      exact absurd same apart
    · rw [paramsOnly_digested int member, paramsOnly_digested bool isMember] at same
      exact absurd same.symm apart
    · rw [paramsOnly_digested int member, paramsOnly_digested int isMember]
  intro fingerprints
  have fields := (fingerprint_canonical knownDigest (paramsOnly (.bool true)) (paramsOnly (.int 1))
    (fun key _ => (paramsOnly_plain bool key).1)
    (fun key _ => (paramsOnly_plain int key).1) noCollision).mp fingerprints
  exact absurd (same_tag (fields "params" (by decide))) (by decide)

end EspIris.Gateway.Fingerprint
