import EspIris.Gateway.OperationIdentity

/-! The compatibility contract of an update, from the normal firmware to the recovery firmware:
`compatibility_expectation` and `validate_update_compatibility`. -/

namespace EspIris.Gateway.Compatibility
open Operations (Value)

/-- `CONTRACT_FIELDS`. -/
inductive ContractField
  | chipTarget
  | productContract
  | boardId
  | layoutId
  | recoveryAbi
deriving DecidableEq, Repr

namespace ContractField

def name : ContractField → String
  | chipTarget => "chip_target"
  | productContract => "product_contract"
  | boardId => "board_id"
  | layoutId => "layout_id"
  | recoveryAbi => "recovery_abi"

def all : List ContractField := [chipTarget, productContract, boardId, layoutId, recoveryAbi]

theorem mem_all (field : ContractField) : field ∈ all := by
  cases field <;> decide

theorem all_nodup : all.Nodup := by decide

theorem name_inj {field other : ContractField} (same : field.name = other.name) : field = other := by
  cases field <;> cases other <;> first | rfl | exact absurd same (by decide)

end ContractField

inductive Item
  | text (value : String)
  | number (value : Int)
deriving DecidableEq, Repr

def Item.value : Item → Value
  | text value => .str value
  | number value => .int value

inductive CompatibilityError
  | typeError (text : String)
  | valueError (text : String)
  /-- unknown compatibility fields: ... -/
  | unknownFields (keys : List Value)
  /-- device compatibility ... is missing or mismatched: expected ... -/
  | mismatched (field : ContractField) (expected : Item)

abbrev Contract := List (ContractField × Item)

/-- What a status gives for the keys that are read, `None` for one that is missing. -/
structure Status where
  firmwareMode : Value
  declared : ContractField → Value

/-- `ESP32S31_CHIP_ID`. -/
def chipId32s31 : Int := 0x20

def entry (entries : List (Value × Value)) (key : String) : Option Value :=
  (entries.find? fun item => match item.1 with
    | .str name => name = key
    | _ => false).map Prod.snd

/-- Whether a key is in `CONTRACT_FIELDS`. -/
def known : Value → Bool
  | .str name => ContractField.all.any (·.name = name)
  | _ => false

def checkItem (field : ContractField) (item : Value) : Except CompatibilityError Item :=
  if field = .recoveryAbi then
    match item with
    | .int value =>
      if 1 ≤ value ∧ value ≤ 65535 then .ok (.number value)
      else .error (.valueError "compatibility recovery_abi must be 1..65535")
    | _ => .error (.valueError "compatibility recovery_abi must be 1..65535")
  else
    match item with
    | .str value =>
      if value = "" ∨ value.utf8ByteSize > 64 then
        .error (.valueError ("compatibility " ++ field.name ++ " must contain 1..64 UTF-8 bytes"))
      else .ok (.text value)
    | _ => .error (.valueError ("compatibility " ++ field.name ++ " must contain 1..64 UTF-8 bytes"))

/-- The body of the loop of `compatibility_expectation`. -/
def addExpected (entries : List (Value × Value)) (result : Contract) (field : ContractField) :
    Except CompatibilityError Contract :=
  match entry entries field.name with
  | none => .ok result
  | some item => (checkItem field item).map fun item => result ++ [(field, item)]

def compatibilityExpectation : Value → Except CompatibilityError Contract
  | .none => .ok []
  | .object entries =>
    let unknown := (entries.map Prod.fst).filter fun key => !known key
    if unknown ≠ [] then .error (.unknownFields unknown)
    else ContractField.all.foldlM (addExpected entries) []
  | _ => .error (.typeError "compatibility must be a JSON object")

def Contract.toValue (contract : Contract) : Value :=
  .object (contract.map fun item => (.str item.1.name, item.2.value))

def Contract.put (contract : Contract) (field : ContractField) (item : Item) : Contract :=
  if (contract.lookup field).isSome then
    contract.map fun present => if present.1 = field then (field, item) else present
  else contract ++ [(field, item)]

def Item.same (item : Item) : Value → Bool
  | .str value => item = .text value
  | .int value => item = .number value
  | _ => false

/-- Whether a value is one of `None`, the empty text and zero, in the sense of the comparison of values. -/
def blank : Value → Bool
  | .none => true
  | .str value => value = ""
  | .int value => value = 0
  | .bool value => !value
  | .float text => text = "0.0" ∨ text = "-0.0"
  | _ => false

/-- `setdefault` with what the status declares. -/
def carry (status : Status) (required : List (Value × Value)) (field : ContractField) : List (Value × Value) :=
  let actual := status.declared field
  if blank actual then required
  else if (entry required field.name).isSome then required
  else required ++ [(.str field.name, actual)]

/-- Whether a mode is one that `validate_update_compatibility` takes. -/
def acceptedRole (recovery : Bool) : Value → Bool
  | .str mode => mode = "recovery" ∨ mode = "normal" ∧ recovery = false
  | _ => false

/-- The loops of `validate_update_compatibility`: the status has to agree with what is required, and its other
declarations are required from now on. -/
def agree (status : Status) (required : Contract) : Except CompatibilityError Contract :=
  match required.find? fun item => !item.2.same (status.declared item.1) with
  | some (field, item) => .error (.mismatched field item)
  | none => compatibilityExpectation (.object (ContractField.all.foldl (carry status)
      (required.map fun item => (.str item.1.name, item.2.value))))

def validateUpdateCompatibility (status : Status) (chipId : Value) (expectation : Value) (recovery : Bool) :
    Except CompatibilityError Contract :=
  if acceptedRole recovery status.firmwareMode = false then
    .error (.valueError
      "update requires an explicit compatible firmware role; migrate legacy firmware with product recovery")
  else if (Item.number chipId32s31).same chipId = false then
    .error (.valueError "update artifact has an unsupported or missing chip ID")
  else do
    let required ← compatibilityExpectation expectation
    if (required.lookup .chipTarget).getD (.text "esp32s31") ≠ .text "esp32s31" then
      .error (.valueError "compatibility chip_target does not match the artifact")
    else agree status (required.put .chipTarget (.text "esp32s31"))

theorem Item.same_iff {item : Item} {value : Value} : item.same value = true ↔ value = item.value := by
  cases value <;> cases item <;> simp [same, Item.value, eq_comm]

def expected (expectation : Value) (field : ContractField) : Option Value :=
  match expectation with
  | .object entries => entry entries field.name
  | _ => none

theorem checkItem_ok {field : ContractField} {item : Value} {checked : Item}
    (passed : checkItem field item = .ok checked) :
    item = checked.value := by
  unfold checkItem at passed
  split at passed
  · split at passed
    next value =>
      split at passed
      · rw [← Except.ok.inj passed, Item.value]
      · contradiction
    · contradiction
  · split at passed
    next value =>
      split at passed
      · contradiction
      · rw [← Except.ok.inj passed, Item.value]
    · contradiction

theorem entry_append (first second : List (Value × Value)) (key : String) :
    entry (first ++ second) key = (entry first key).or (entry second key) := by
  unfold entry
  rw [List.find?_append, Option.map_or]

theorem entry_singleton (name key : String) (value : Value) :
    entry [(.str name, value)] key = if name = key then some value else none := by
  unfold entry
  by_cases same : name = key <;> simp [same]

theorem lookup_item (item : ContractField × Item) (contract : Contract) (field : ContractField) :
    List.lookup field (item :: contract) = if item.1 = field then some item.2 else contract.lookup field := by
  rw [List.lookup_cons]
  by_cases same : item.1 = field
  · rw [if_pos same, beq_iff_eq.mpr same.symm]
  · rw [if_neg same, beq_false_of_ne (Ne.symm same)]

theorem entry_contract (contract : Contract) (field : ContractField) :
    entry (contract.map fun item => (.str item.1.name, item.2.value)) field.name =
      (contract.lookup field).map Item.value := by
  induction contract with
  | nil => rfl
  | cons item contract ih =>
    rw [List.map_cons, ← List.singleton_append, entry_append, entry_singleton, ih, lookup_item]
    by_cases same : item.1 = field
    · rw [if_pos (congrArg ContractField.name same), if_pos same]
      rfl
    · rw [if_neg fun names => same (ContractField.name_inj names), if_neg same, Option.none_or]

theorem expected_contract (contract : Contract) (field : ContractField) :
    expected contract.toValue field = (contract.lookup field).map Item.value :=
  entry_contract contract field

/-- The loop of `compatibility_expectation` adds the fields that it finds. -/
theorem addExpected_fields {entries : List (Value × Value)} {fields : List ContractField} (nodup : fields.Nodup)
    {result contract : Contract} (fresh : ∀ field ∈ fields, result.lookup field = none)
    (checked : fields.foldlM (addExpected entries) result = .ok contract) (field : ContractField) :
    (contract.lookup field).map Item.value =
      if field ∈ fields then entry entries field.name else (result.lookup field).map Item.value := by
  induction fields generalizing result with
  | nil =>
    obtain rfl := Except.ok.inj checked
    rw [if_neg List.not_mem_nil]
  | cons first fields ih =>
    rw [List.foldlM_cons] at checked
    obtain ⟨absent, fresh⟩ := List.forall_mem_cons.mp fresh
    obtain ⟨other, nodup⟩ := List.nodup_cons.mp nodup
    cases found : entry entries first.name with
    | none =>
      have stays : addExpected entries result first = .ok result := by
        unfold addExpected
        rw [found]
      rw [stays] at checked
      rw [ih nodup fresh checked]
      by_cases here : field = first
      · rw [here, if_neg other, if_pos List.mem_cons_self, found, absent]
        rfl
      · simp only [List.mem_cons, here, false_or]
    | some item =>
      cases passed : checkItem first item with
      | error error =>
        have stops : addExpected entries result first = .error error := by
          unfold addExpected
          rw [found]
          dsimp only
          rw [passed]
          rfl
        rw [stops] at checked
        contradiction
      | ok value =>
        have grows : addExpected entries result first = .ok (result ++ [(first, value)]) := by
          unfold addExpected
          rw [found]
          dsimp only
          rw [passed]
          rfl
        have looked : ∀ field, (result ++ [(first, value)]).lookup field =
            (result.lookup field).or (if first = field then some value else none) := by
          intro field
          rw [List.lookup_append, lookup_item]
          rfl
        rw [grows] at checked
        rw [ih nodup ?_ checked, looked]
        · by_cases here : field = first
          · rw [here, if_neg other, if_pos List.mem_cons_self, found, absent, if_pos rfl, checkItem_ok passed]
            rfl
          · rw [if_neg (Ne.symm here), Option.or_none]
            simp only [List.mem_cons, here, false_or]
        · intro later member
          have apart : first ≠ later := by
            rintro rfl
            exact other member
          rw [looked, fresh later member, if_neg apart]
          rfl

/-- A contract that is taken holds what the request says of each field. -/
theorem expectation_fields {expectation : Value} {contract : Contract}
    (taken : compatibilityExpectation expectation = .ok contract) (field : ContractField) :
    (contract.lookup field).map Item.value = expected expectation field := by
  unfold compatibilityExpectation at taken
  split at taken
  next =>
    obtain rfl := Except.ok.inj taken
    rfl
  next entries =>
    dsimp only at taken
    split at taken
    · contradiction
    next =>
      rw [addExpected_fields ContractField.all_nodup (fun _ _ => rfl) taken field, if_pos field.mem_all]
      rfl
  · contradiction

theorem replace_lookup (contract : Contract) (field : ContractField) (item : Item) (other : ContractField) :
    List.lookup other (contract.map fun present => if present.1 = field then (field, item) else present) =
      if field = other then (contract.lookup field).map fun _ => item else contract.lookup other := by
  induction contract with
  | nil => simp
  | cons first contract ih =>
    rw [List.map_cons, lookup_item, lookup_item, lookup_item, ih]
    by_cases here : first.1 = field
    · by_cases same : field = other
      · simp [here, same]
      · simp [here, same]
    · by_cases same : field = other
      · simp [← same, here]
      · simp [here, same]

theorem put_lookup (contract : Contract) (field : ContractField) (item : Item) (other : ContractField) :
    (contract.put field item).lookup other = if field = other then some item else contract.lookup other := by
  unfold Contract.put
  split
  next present =>
    obtain ⟨value, found⟩ := Option.isSome_iff_exists.mp present
    rw [replace_lookup, found]
    rfl
  next missing =>
    rw [List.lookup_append, lookup_item]
    by_cases same : field = other
    · rw [← same, Option.not_isSome_iff_eq_none.mp missing, if_pos rfl, if_pos rfl]
      rfl
    · rw [if_neg same, if_neg same]
      exact Option.or_none

/-- What is carried forward: what is required, and what the status declares beyond that. -/
theorem carry_entry (status : Status) (fields : List ContractField) (required : List (Value × Value))
    (field : ContractField) :
    entry (fields.foldl (carry status) required) field.name = (entry required field.name).or
      (if field ∈ fields ∧ blank (status.declared field) = false then some (status.declared field) else none) := by
  induction fields generalizing required with
  | nil => simp
  | cons first fields ih =>
    have step : entry (carry status required first) field.name = (entry required field.name).or
        (if field = first ∧ blank (status.declared first) = false then some (status.declared first) else none) := by
      unfold carry
      dsimp only
      split
      next empty => simp [empty]
      next filled =>
        split
        next present =>
          by_cases here : field = first
          · obtain ⟨value, found⟩ := Option.isSome_iff_exists.mp present
            rw [here, found]
            rfl
          · rw [if_neg fun both => here both.1, Option.or_none]
        next missing =>
          rw [entry_append, entry_singleton]
          by_cases here : field = first
          · simp [here, filled]
          · rw [if_neg fun names => here (ContractField.name_inj names).symm, if_neg fun both => here both.1]
    rw [List.foldl_cons, ih, step, Option.or_assoc]
    congr 1
    by_cases here : field = first
    · subst here
      by_cases filled : blank (status.declared field) = false <;> simp [filled]
    · simp [here]

structure Accepted (status : Status) (chipId expectation : Value) (contract : Contract) : Prop where
  image : chipId = .int chipId32s31
  chip : status.declared .chipTarget = .str "esp32s31"
  requested : ∀ field item, expected expectation field = some item → status.declared field = item
  carries : ∀ field, blank (status.declared field) = false ∨ (expected expectation field).isSome ∨ field = .chipTarget →
    (contract.lookup field).map Item.value = some (status.declared field)

/-- A status that agrees has each required value, and its declarations are in the contract. -/
theorem agree_ok {status : Status} {required contract : Contract} (agrees : agree status required = .ok contract) :
    (∀ field item, required.lookup field = some item → status.declared field = item.value) ∧
      ∀ field, blank (status.declared field) = false ∨ (required.lookup field).isSome →
        (contract.lookup field).map Item.value = some (status.declared field) := by
  unfold agree at agrees
  split at agrees
  · contradiction
  next missing =>
    have same : ∀ field item, required.lookup field = some item → status.declared field = item.value := by
      intro field item found
      obtain ⟨before, after, rfl, -⟩ := List.lookup_eq_some_iff.mp found
      have here := List.find?_eq_none.mp missing (field, item) (by simp)
      rw [Bool.not_eq_true', Bool.not_eq_false] at here
      exact Item.same_iff.mp here
    refine ⟨same, ?_⟩
    intro field declared
    rw [expectation_fields agrees, expected, carry_entry, entry_contract]
    cases found : required.lookup field with
    | some item => rw [same field item found]; rfl
    | none =>
      rw [found] at declared
      rw [if_pos ⟨field.mem_all, declared.resolve_right Bool.false_ne_true⟩]
      rfl

theorem validate_accepted {status : Status} {chipId expectation : Value} {recovery : Bool} {contract : Contract}
    (accepted : validateUpdateCompatibility status chipId expectation recovery = .ok contract) :
    Accepted status chipId expectation contract := by
  unfold validateUpdateCompatibility at accepted
  split at accepted
  · contradiction
  split at accepted
  · contradiction
  next chip =>
    cases taken : compatibilityExpectation expectation with
    | error error =>
      rw [taken] at accepted
      contradiction
    | ok required =>
      rw [taken] at accepted
      change (if _ then _ else _) = _ at accepted
      split at accepted
      · contradiction
      next target =>
        obtain ⟨same, carries⟩ := agree_ok accepted
        have fields := expectation_fields taken
        have looked := put_lookup required .chipTarget (.text "esp32s31")
        refine ⟨Item.same_iff.mp (Bool.eq_true_of_not_eq_false chip), ?_, ?_, ?_⟩
        · exact same .chipTarget (.text "esp32s31") (by rw [looked, if_pos rfl])
        · intro field value requested
          rw [← fields] at requested
          obtain ⟨item, found, rfl⟩ := Option.map_eq_some_iff.mp requested
          refine same field item ?_
          rw [looked]
          split
          next here =>
            subst here
            rw [found] at target
            exact congrArg some (not_not.mp target).symm
          next => exact found
        · intro field declared
          refine carries field ?_
          rw [looked]
          rcases declared with filled | requested | rfl
          · exact .inl filled
          · right
            rw [← fields, Option.isSome_map] at requested
            split
            · rfl
            · exact requested
          · exact .inr rfl

/-- When the normal firmware is accepted and then the recovery firmware for the contract that this gave, all that the
normal firmware declares and all that was requested is the same in the recovery firmware, and both run on the chip of
the image. -/
theorem compatibility_carried (normal recovery : Status) (chipId expectation : Value) (required again : Contract)
    (first : validateUpdateCompatibility normal chipId expectation false = .ok required)
    (second : validateUpdateCompatibility recovery chipId required.toValue true = .ok again) :
    (∀ field, blank (normal.declared field) = false → recovery.declared field = normal.declared field) ∧
    (∀ field item, expected expectation field = some item →
      normal.declared field = item ∧ recovery.declared field = item) ∧
    chipId = .int chipId32s31 ∧ normal.declared .chipTarget = .str "esp32s31" ∧
    recovery.declared .chipTarget = .str "esp32s31" := by
  have before := validate_accepted first
  have after := validate_accepted second
  have kept : ∀ field, (required.lookup field).map Item.value = some (normal.declared field) →
      recovery.declared field = normal.declared field := by
    intro field carried
    exact after.requested field _ (by rw [expected_contract, carried])
  refine ⟨?_, ?_, before.image, before.chip, after.chip⟩
  · intro field filled
    exact kept field (before.carries field (.inl filled))
  · intro field item requested
    have declared := before.requested field item requested
    have carried := before.carries field (.inr (.inl (by rw [requested]; rfl)))
    exact ⟨declared, (kept field carried).trans declared⟩

def boardStatus (mode : String) : Status where
  firmwareMode := .str mode
  declared
    | .chipTarget => .str "esp32s31"
    | .boardId => .str "board"
    | _ => .none

/-- The board of the normal firmware is required of the recovery firmware, though nobody asked for it. -/
theorem compatibility_carried_board :
    (boardStatus "recovery").declared .boardId = (boardStatus "normal").declared .boardId :=
  (compatibility_carried (boardStatus "normal") (boardStatus "recovery") (.int 0x20) .none
    [(.chipTarget, .text "esp32s31"), (.boardId, .text "board")]
    [(.chipTarget, .text "esp32s31"), (.boardId, .text "board")] rfl rfl).1 .boardId rfl

end EspIris.Gateway.Compatibility
