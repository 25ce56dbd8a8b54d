import EspIris.Protocol

/-! The token for pairing over TCP: `pairing_load_or_create`, `esp_iris_pairing_token_get`,
`esp_iris_pairing_token_rotate` and `esp_iris_pairing_token_set`, whatever the storage answers. -/

namespace EspIris.Device.Pairing
variable {text shown : Option (List Char)}

/-- `IRIS_AUTH_TOKEN_BYTES` bytes. -/
abbrev AuthToken := { bytes : List UInt8 // bytes.length = 32 }

/-- The memory of the token that `heap_caps_calloc` clears. -/
def AuthToken.zero : AuthToken := ⟨List.replicate 32 0, rfl⟩

/-- The token in RAM, `auth_token` and `auth_token_ready`. -/
structure PairingRam where
  token : AuthToken
  ready : Bool
deriving DecidableEq

structure PairingState where
  ram : Option PairingRam
  stored : Option (List UInt8)
deriving DecidableEq

/-- What a call that writes to NVS returns, and whether the storage holds the blob when it fails or was not told to
commit. -/
structure NvsWrite where
  error : EspErr
  kept : Bool
deriving DecidableEq

structure Environment where
  allocates : Bool
  opened : EspErr
  read : EspErr
  set : NvsWrite
  commit : NvsWrite
  random : AuthToken

def nvsNotFound : EspErr := 0x1102
def nvsInvalidLength : EspErr := 0x110c

structure Outcome where
  error : EspErr
  text : Option (List Char)
  moments : List PairingState
  after : PairingState

/-- `service_state` with its argument true. -/
def serviceState (environment : Environment) (state : PairingState) : Option PairingRam :=
  match state.ram with
  | some ram => some ram
  | none => if environment.allocates then some ⟨.zero, false⟩ else none

/-- `nvs_set_blob` and, when it succeeds, `nvs_commit`: the error and the blob in NVS after each. -/
def nvsSave (environment : Environment) (stored : Option (List UInt8)) (blob : List UInt8) :
    EspErr × List (Option (List UInt8)) × Option (List UInt8) :=
  let set := if environment.set.kept then some blob else stored
  if environment.set.error = EspErr.ok then
    let committed := if environment.commit.error = EspErr.ok ∨ environment.commit.kept then some blob else set
    (environment.commit.error, [set, committed], committed)
  else (environment.set.error, [set], set)

variable {ram : PairingRam}

theorem AuthToken.overlaid_length (token : AuthToken) {blob : List UInt8} (small : blob.length ≤ 32) :
    (blob ++ token.1.drop blob.length).length = 32 := by
  rw [List.length_append, List.length_drop, token.2]
  omega

/-- `nvs_get_blob` into the memory of the token: the error, the size and the token. -/
def nvsGetBlob (environment : Environment) (stored : Option (List UInt8)) (token : AuthToken) :
    EspErr × Nat × AuthToken :=
  if environment.read ≠ EspErr.ok then (environment.read, 32, token)
  else match stored with
    | none => (nvsNotFound, 32, token)
    | some blob =>
      if small : blob.length ≤ 32 then
        (EspErr.ok, blob.length, ⟨blob ++ token.1.drop blob.length, token.overlaid_length small⟩)
      else (nvsInvalidLength, blob.length, token)

def pairingLoadOrCreate (pairing : Bool) (environment : Environment) (ram : PairingRam) (stored : Option (List UInt8))
    (rotate : Bool) : Outcome :=
  let entered : PairingState := ⟨some ram, stored⟩
  if pairing = false then ⟨EspErr.notSupported, none, [entered], entered⟩
  else if environment.opened ≠ EspErr.ok then ⟨environment.opened, none, [entered], entered⟩
  else
    let read := if rotate then (nvsNotFound, 32, ram.token) else nvsGetBlob environment stored ram.token
    if read.1 = nvsNotFound then
      -- The random bytes are in the memory that authentication reads before NVS has taken them.
      let filled : PairingRam := ⟨environment.random, ram.ready⟩
      let saved := nvsSave environment stored environment.random.1
      ⟨saved.1, none, entered :: ⟨some filled, stored⟩ :: saved.2.1.map fun kept => ⟨some filled, kept⟩,
        ⟨some ⟨environment.random, saved.1 = EspErr.ok⟩, saved.2.2⟩⟩
    else
      let error := if read.1 = EspErr.ok ∧ read.2.1 ≠ 32 then EspErr.invalidSize else read.1
      ⟨error, none, [entered, ⟨some ⟨read.2.2, ram.ready⟩, stored⟩], ⟨some ⟨read.2.2, error = EspErr.ok⟩, stored⟩⟩

/-- A digit of `token_format`. -/
def hexDigit (nibble : UInt8) : Char := "0123456789abcdef".toList.getD nibble.toNat '0'

def tokenFormat (token : List UInt8) : List Char :=
  token.flatMap fun byte : UInt8 => [hexDigit (byte >>> 4), hexDigit (byte &&& 0x0f)]

def tokenHexNibble (value : Char) : Option UInt8 :=
  if '0' ≤ value ∧ value ≤ '9' then some (UInt8.ofNat (value.toNat - '0'.toNat))
  else if 'a' ≤ value ∧ value ≤ 'f' then some (UInt8.ofNat (value.toNat - 'a'.toNat + 10))
  else if 'A' ≤ value ∧ value ≤ 'F' then some (UInt8.ofNat (value.toNat - 'A'.toNat + 10))
  else none

/-- The loop of `esp_iris_pairing_token_set` through the digits. -/
def parseDigits : List Char → Option (List UInt8)
  | high :: low :: digits => do
    let high ← tokenHexNibble high
    let low ← tokenHexNibble low
    let bytes ← parseDigits digits
    some ((high <<< 4 ||| low) :: bytes)
  | _ => some []

theorem parseDigits_length (digits : List Char) {bytes : List UInt8} (parsed : parseDigits digits = some bytes) :
    bytes.length = digits.length / 2 := by
  fun_induction parseDigits digits generalizing bytes with
  | case1 high low digits ih =>
    simp only [Option.bind_eq_bind, Option.bind_eq_some_iff, Option.some.injEq] at parsed
    obtain ⟨_, -, _, -, rest, later, rfl⟩ := parsed
    rw [List.length_cons, ih later, List.length_cons, List.length_cons]
    omega
  | case2 digits short =>
    obtain rfl := Option.some.inj parsed
    rcases digits with _ | ⟨digit, _ | ⟨other, digits⟩⟩
    · rfl
    · simp
    · exact absurd rfl (short digit other digits)

/-- The token that a text denotes, when `esp_iris_pairing_token_set` takes it. -/
def parseToken (text : List Char) : Option AuthToken :=
  if size : text.length = 64 then
    match parsed : parseDigits text with
    | some bytes => some ⟨bytes, by rw [parseDigits_length text parsed, size]⟩
    | none => none
  else none

/-- `esp_iris_pairing_token_get`, with the text when it succeeds. -/
def tokenGet (state : PairingState) : Option (List Char) :=
  match state.ram with
  | some ram => if ram.ready then some (tokenFormat ram.token.1) else none
  | none => none

/-- `esp_iris_pairing_token_rotate`; `out` tells whether there is a buffer for the text. -/
def tokenRotate (pairing : Bool) (environment : Environment) (state : PairingState) (out : Bool) : Outcome :=
  if out = false then ⟨EspErr.invalidArg, none, [state], state⟩
  else match serviceState environment state with
    | none => ⟨EspErr.noMem, none, [state], state⟩
    | some ram =>
      let outcome := pairingLoadOrCreate pairing environment ram state.stored true
      { outcome with
        moments := state :: outcome.moments
        text := some (if outcome.error = EspErr.ok then (outcome.after.ram.map (tokenFormat ·.token.1)).getD [] else []) }

def tokenSet (pairing : Bool) (environment : Environment) (state : PairingState) (text : Option (List Char)) :
    Outcome :=
  if pairing = false then ⟨EspErr.notSupported, none, [state], state⟩
  else match text.bind parseToken with
    | none => ⟨EspErr.invalidArg, none, [state], state⟩
    | some parsed =>
      match serviceState environment state with
      | none => ⟨EspErr.noMem, none, [state], state⟩
      | some ram =>
        let entered : PairingState := ⟨some ram, state.stored⟩
        if environment.opened ≠ EspErr.ok then ⟨environment.opened, none, [state, entered], entered⟩
        else
          let saved := nvsSave environment state.stored parsed.1
          let kept := saved.2.1.map fun kept => ⟨some ram, kept⟩
          if saved.1 = EspErr.ok then
            ⟨saved.1, none, state :: entered :: kept, ⟨some ⟨parsed, true⟩, saved.2.2⟩⟩
          else ⟨saved.1, none, state :: entered :: kept, ⟨some ram, saved.2.2⟩⟩

theorem tokenHexNibble_hexDigit (byte : UInt8) : ∃ high low, tokenHexNibble (hexDigit (byte >>> 4)) = some high ∧
    tokenHexNibble (hexDigit (byte &&& 0x0f)) = some low ∧ high <<< 4 ||| low = byte := by
  have each : ∀ value : Fin 256, tokenHexNibble (hexDigit (UInt8.ofNat value >>> 4)) = some (UInt8.ofNat value >>> 4) ∧
      tokenHexNibble (hexDigit (UInt8.ofNat value &&& 0x0f)) = some (UInt8.ofNat value &&& 0x0f) ∧
      (UInt8.ofNat value >>> 4) <<< 4 ||| (UInt8.ofNat value &&& 0x0f) = UInt8.ofNat value := by decide +kernel
  have here := each ⟨byte.toNat, byte.toNat_lt⟩
  rw [UInt8.ofNat_toNat] at here
  exact ⟨_, _, here⟩

theorem parseDigits_tokenFormat (token : List UInt8) : parseDigits (tokenFormat token) = some token := by
  induction token with
  | nil => rfl
  | cons byte token ih =>
    obtain ⟨high, low, first, second, joined⟩ := tokenHexNibble_hexDigit byte
    change parseDigits (hexDigit (byte >>> 4) :: hexDigit (byte &&& 0x0f) :: tokenFormat token) = _
    rw [parseDigits, first, second, ih]
    exact congrArg (fun first => some (first :: token)) joined

theorem tokenFormat_length (token : List UInt8) : (tokenFormat token).length = 2 * token.length := by
  induction token with
  | nil => rfl
  | cons byte token ih =>
    change (tokenFormat token).length + 1 + 1 = 2 * (token.length + 1)
    omega

theorem parseToken_tokenFormat (token : AuthToken) : parseToken (tokenFormat token.1) = some token := by
  have size : (tokenFormat token.1).length = 64 := by rw [tokenFormat_length, token.2]
  unfold parseToken
  rw [dif_pos size]
  split
  next bytes parsed =>
    rw [parseDigits_tokenFormat] at parsed
    exact congrArg some (Subtype.ext (Option.some.inj parsed).symm)
  next parsed =>
    rw [parseDigits_tokenFormat] at parsed
    contradiction

theorem tokenFormat_inj {token other : AuthToken} (same : tokenFormat token.1 = tokenFormat other.1) :
    token = other := by
  have parsed := parseToken_tokenFormat token
  rw [same, parseToken_tokenFormat] at parsed
  exact (Option.some.inj parsed).symm

def PairingState.auth (state : PairingState) : AuthToken × Bool :=
  match state.ram with
  | some ram => (ram.token, ram.ready)
  | none => (.zero, false)

def PersistedOnly (state : PairingState) : Prop :=
  ∀ text, tokenGet state = some text → ∃ token : AuthToken, state.stored = some token.1 ∧ text = tokenFormat token.1

/-- A call that fails leaves the token as it was and lets nobody read one that is not persisted; after a call that
succeeds the token in RAM, the text and the persisted token are equal. -/
structure AllOrNothing (before : PairingState) (text : Option (List Char)) (outcome : Outcome) : Prop where
  failed : outcome.error ≠ EspErr.ok → outcome.after.auth = before.auth ∧
    ∀ state ∈ outcome.moments ++ [outcome.after], PersistedOnly state
  succeeded : outcome.error = EspErr.ok → ∃ token : AuthToken, outcome.after.ram = some ⟨token, true⟩ ∧
    outcome.after.stored = some token.1 ∧ text.bind parseToken = some token

theorem persistedOnly_iff {state : PairingState} :
    PersistedOnly state ↔ (state.auth.2 = true → state.stored = some state.auth.1.1) := by
  rcases state with ⟨_ | ⟨token, _ | _⟩, stored⟩
  · simp [PersistedOnly, tokenGet, PairingState.auth]
  · simp [PersistedOnly, tokenGet, PairingState.auth]
  · constructor
    · intro only _
      obtain ⟨persisted, kept, text⟩ := only _ rfl
      exact kept.trans (congrArg (fun token : AuthToken => some token.1) (tokenFormat_inj text).symm)
    · intro persisted text read
      exact ⟨token, persisted rfl, (Option.some.inj read).symm⟩

def Environment.Saves (environment : Environment) : Prop :=
  environment.opened = EspErr.ok ∧ environment.set.error = EspErr.ok ∧ environment.commit.error = EspErr.ok

def Environment.Leaves (environment : Environment) : Prop :=
  environment.opened = EspErr.ok ∧
    (environment.set.kept = true ∨ environment.set.error = EspErr.ok ∧ environment.commit.kept = true)

section nvsSave
variable {environment : Environment} (stored : Option (List UInt8)) (blob : List UInt8)

theorem nvsSave_ok (opened : environment.opened = EspErr.ok) :
    (nvsSave environment stored blob).1 = EspErr.ok ↔ environment.Saves := by
  unfold nvsSave Environment.Saves
  by_cases set : environment.set.error = EspErr.ok
  · simp [opened, set]
  · simp [set]

theorem nvsSave_saved (saves : environment.Saves) : (nvsSave environment stored blob).2.2 = some blob := by
  unfold nvsSave
  rw [if_pos saves.2.1]
  exact if_pos (.inl saves.2.2)

theorem nvsSave_failed (opened : environment.opened = EspErr.ok) (fails : ¬ environment.Saves) :
    (∀ kept ∈ (nvsSave environment stored blob).2.1, kept = stored ∨ kept = some blob ∧ environment.Leaves) ∧
      (environment.Leaves → some blob ∈ (nvsSave environment stored blob).2.1) ∧
      (nvsSave environment stored blob).2.2 ∈ (nvsSave environment stored blob).2.1 := by
  unfold nvsSave Environment.Leaves
  by_cases set : environment.set.error = EspErr.ok
  · have commit : environment.commit.error ≠ EspErr.ok := fun commit => fails ⟨opened, set, commit⟩
    rw [if_pos set]
    cases first : environment.set.kept <;> cases second : environment.commit.kept <;> simp [opened, set, commit]
  · rw [if_neg set]
    cases first : environment.set.kept <;> simp [opened, set]

end nvsSave

section calls
variable {pairing : Bool} {environment : Environment} {before : PairingState}

theorem serviceState_auth (there : serviceState environment before = some ram) :
    (ram.token, ram.ready) = before.auth := by
  rcases before with ⟨_ | kept, stored⟩
  · obtain ⟨-, ⟨⟩⟩ := Option.ite_none_right_eq_some.mp there
    rfl
  · obtain rfl := Option.some.inj there
    rfl

theorem allOrNothing_failed {outcome : Outcome} (error : outcome.error ≠ EspErr.ok) :
    AllOrNothing before text outcome ↔ outcome.after.auth = before.auth ∧
      ∀ state ∈ outcome.moments ++ [outcome.after], PersistedOnly state :=
  ⟨fun whole => whole.failed error, fun left => ⟨fun _ => left, fun ok => absurd ok error⟩⟩

theorem allOrNothing_refused {error : EspErr} (fails : error ≠ EspErr.ok) :
    AllOrNothing before text ⟨error, shown, [before], before⟩ ↔ PersistedOnly before := by
  rw [allOrNothing_failed fails]
  simp

theorem allOrNothing_entered {error : EspErr} (fails : error ≠ EspErr.ok)
    (there : serviceState environment before = some ram) {moments : List PairingState}
    (between : ∀ state ∈ moments, state = before ∨ state = ⟨some ram, before.stored⟩) :
    AllOrNothing before text ⟨error, shown, before :: moments, ⟨some ram, before.stored⟩⟩ ↔ PersistedOnly before := by
  have same : PersistedOnly ⟨some ram, before.stored⟩ ↔ PersistedOnly before := by
    rw [persistedOnly_iff, persistedOnly_iff, ← serviceState_auth there]
    rfl
  rw [allOrNothing_failed fails]
  constructor
  · rintro ⟨-, only⟩
    exact only _ (by simp)
  · intro only
    refine ⟨serviceState_auth there, ?_⟩
    intro state member
    rcases List.mem_append.mp member with early | last
    · rcases List.mem_cons.mp early with rfl | later
      · exact only
      · rcases between state later with rfl | rfl
        · exact only
        · exact same.mpr only
    · obtain rfl := List.mem_singleton.mp last
      exact same.mpr only

/-- When `esp_iris_pairing_token_set` is all or nothing: it saves the token, or nobody could read a token that was not
persisted and a save that failed left no other token in NVS. -/
def SetCondition (pairing : Bool) (environment : Environment) (before : PairingState) (text : Option (List Char)) :
    Prop :=
  match if pairing then text.bind parseToken else none, serviceState environment before with
  | some parsed, some _ => environment.Saves ∨
    PersistedOnly before ∧ (environment.Leaves → before.auth.2 = true → parsed = before.auth.1)
  | _, _ => PersistedOnly before

/-- When `esp_iris_pairing_token_rotate` is all or nothing: it saves the token, or it fails before it has drawn one, or
no token was ready and the drawn one is that in RAM. -/
def RotateCondition (pairing : Bool) (environment : Environment) (before : PairingState) (out : Bool) : Prop :=
  if pairing = true ∧ out = true ∧ (serviceState environment before).isSome ∧ environment.opened = EspErr.ok then
    environment.Saves ∨ before.auth.2 = false ∧ environment.random = before.auth.1
  else PersistedOnly before

theorem persistedOnly_of_auth (there : serviceState environment before = some ram) (stored : Option (List UInt8))
    : PersistedOnly ⟨some ram, stored⟩ ↔
      (before.auth.2 = true → stored = some before.auth.1.1) := by
  rw [persistedOnly_iff, ← serviceState_auth there]
  rfl

theorem tokenSet_failed {parsed : AuthToken} (there : serviceState environment before = some ram)
    (opened : environment.opened = EspErr.ok) (fails : ¬ environment.Saves) :
    AllOrNothing before text
      ⟨(nvsSave environment before.stored parsed.1).1, none, before :: ⟨some ram, before.stored⟩ ::
        (nvsSave environment before.stored parsed.1).2.1.map fun kept => ⟨some ram, kept⟩,
        ⟨some ram, (nvsSave environment before.stored parsed.1).2.2⟩⟩ ↔
      PersistedOnly before ∧ (environment.Leaves → before.auth.2 = true → parsed = before.auth.1) := by
  obtain ⟨holds, leaves, last⟩ := nvsSave_failed before.stored parsed.1 opened fails
  rw [allOrNothing_failed (mt (nvsSave_ok _ _ opened).mp fails)]
  constructor
  · rintro ⟨-, only⟩
    refine ⟨only before (by simp), ?_⟩
    intro left ready
    have there := (persistedOnly_of_auth there _).mp (only ⟨some ram, some parsed.1⟩ (by simp [leaves left])) ready
    exact Subtype.ext (Option.some.inj there)
  · rintro ⟨only, harmless⟩
    have persisted : ∀ kept ∈ (nvsSave environment before.stored parsed.1).2.1, PersistedOnly ⟨some ram, kept⟩ := by
      intro kept member
      rw [persistedOnly_of_auth there]
      intro ready
      rcases holds kept member with rfl | ⟨rfl, left⟩
      · exact persistedOnly_iff.mp only ready
      · rw [harmless left ready]
    refine ⟨serviceState_auth there, ?_⟩
    intro state member
    simp only [List.cons_append, List.mem_cons, List.mem_append, List.mem_map, List.not_mem_nil, or_false] at member
    rcases member with rfl | rfl | ⟨kept, inside, rfl⟩ | rfl
    · exact only
    · rw [persistedOnly_of_auth there]
      exact persistedOnly_iff.mp only
    · exact persisted kept inside
    · exact persisted _ last

theorem tokenSet_iff (text : Option (List Char)) :
    AllOrNothing before text (tokenSet pairing environment before text) ↔
      SetCondition pairing environment before text := by
  unfold SetCondition tokenSet
  cases pairing with
  | false => exact allOrNothing_refused (by decide)
  | true =>
    rw [if_neg (by decide), if_pos rfl]
    cases denoted : text.bind parseToken with
    | none => exact allOrNothing_refused (by decide)
    | some parsed =>
      cases there : serviceState environment before with
      | none => exact allOrNothing_refused (by decide)
      | some ram =>
        dsimp only
        by_cases opened : environment.opened = EspErr.ok
        · rw [if_neg (not_not.mpr opened)]
          by_cases saves : environment.Saves
          · rw [if_pos ((nvsSave_ok _ _ opened).mpr saves)]
            refine iff_of_true ⟨fun error => absurd ((nvsSave_ok _ _ opened).mpr saves) error, fun _ => ?_⟩ (.inl saves)
            exact ⟨parsed, rfl, nvsSave_saved _ _ saves, denoted⟩
          · rw [if_neg (mt (nvsSave_ok _ _ opened).mp saves), tokenSet_failed there opened saves, or_iff_right saves]
        · rw [if_pos opened, allOrNothing_entered opened there (by simp), or_iff_right fun saves => opened saves.1]
          exact (and_iff_left fun left => absurd left.1 opened).symm

/-- A rotation puts the random bytes where authentication reads the token, and then tries to save them. -/
theorem pairingLoadOrCreate_rotates (opened : environment.opened = EspErr.ok) (ram : PairingRam)
    (stored : Option (List UInt8)) :
    pairingLoadOrCreate true environment ram stored true =
      ⟨(nvsSave environment stored environment.random.1).1, none,
        ⟨some ram, stored⟩ :: ⟨some ⟨environment.random, ram.ready⟩, stored⟩ ::
          (nvsSave environment stored environment.random.1).2.1.map fun kept =>
            ⟨some ⟨environment.random, ram.ready⟩, kept⟩,
        ⟨some ⟨environment.random, (nvsSave environment stored environment.random.1).1 = EspErr.ok⟩,
          (nvsSave environment stored environment.random.1).2.2⟩⟩ := by
  unfold pairingLoadOrCreate
  rw [if_neg (by decide), if_neg (not_not.mpr opened)]
  rfl

theorem persistedOnly_unready (token : AuthToken) (stored : Option (List UInt8)) :
    PersistedOnly ⟨some ⟨token, false⟩, stored⟩ := fun _ read => nomatch read

theorem tokenRotate_failed (there : serviceState environment before = some ram)
    (opened : environment.opened = EspErr.ok) (fails : ¬ environment.Saves) :
    AllOrNothing before text { pairingLoadOrCreate true environment ram before.stored true with
      moments := before :: (pairingLoadOrCreate true environment ram before.stored true).moments, text := shown } ↔
      before.auth.2 = false ∧ environment.random = before.auth.1 := by
  have error := mt (nvsSave_ok before.stored environment.random.1 opened).mp fails
  rw [pairingLoadOrCreate_rotates opened, allOrNothing_failed error, decide_eq_false error, ← serviceState_auth there]
  constructor
  · rintro ⟨same, -⟩
    obtain ⟨token, ready⟩ := Prod.mk.injEq .. ▸ same
    exact ⟨ready.symm, token⟩
  · rintro ⟨ready, token⟩
    dsimp only at ready token
    have unread : PersistedOnly before := by
      rw [persistedOnly_iff, ← serviceState_auth there, ready]
      exact fun reads => nomatch reads
    rw [ready, token]
    refine ⟨rfl, ?_⟩
    intro state member
    simp only [List.cons_append, List.mem_cons, List.mem_append, List.mem_map, List.not_mem_nil, or_false] at member
    rcases member with rfl | rfl | rfl | ⟨kept, -, rfl⟩ | rfl
    · exact unread
    · rw [persistedOnly_of_auth there, ← persistedOnly_iff]
      exact unread
    · exact persistedOnly_unready _ _
    · exact persistedOnly_unready _ _
    · exact persistedOnly_unready _ _

theorem rotateCondition_early {out : Bool} (early : ¬ (pairing = true ∧ out = true ∧
    (serviceState environment before).isSome ∧ environment.opened = EspErr.ok)) :
    RotateCondition pairing environment before out ↔ PersistedOnly before := by
  unfold RotateCondition
  rw [if_neg early]

theorem rotateCondition_late (there : serviceState environment before = some ram)
    (opened : environment.opened = EspErr.ok) : RotateCondition true environment before true ↔
      environment.Saves ∨ before.auth.2 = false ∧ environment.random = before.auth.1 := by
  unfold RotateCondition
  rw [if_pos ⟨rfl, rfl, by rw [there]; rfl, opened⟩]

theorem tokenRotate_iff (out : Bool) :
    AllOrNothing before (tokenRotate pairing environment before out).text
      (tokenRotate pairing environment before out) ↔ RotateCondition pairing environment before out := by
  unfold tokenRotate
  cases out with
  | false => exact (allOrNothing_refused (by decide)).trans (rotateCondition_early (by simp)).symm
  | true =>
    rw [if_neg (by decide)]
    cases there : serviceState environment before with
    | none => exact (allOrNothing_refused (by decide)).trans (rotateCondition_early (by simp [there])).symm
    | some ram =>
      dsimp only
      cases pairing with
      | false =>
        have refused : pairingLoadOrCreate false environment ram before.stored true =
            ⟨EspErr.notSupported, none, [⟨some ram, before.stored⟩], ⟨some ram, before.stored⟩⟩ := rfl
        have fails : EspErr.notSupported ≠ EspErr.ok := by decide
        rw [refused, rotateCondition_early (by simp)]
        exact allOrNothing_entered fails there (by simp)
      | true =>
        by_cases opened : environment.opened = EspErr.ok
        · rw [rotateCondition_late there opened]
          by_cases saves : environment.Saves
          · have ok := (nvsSave_ok before.stored environment.random.1 opened).mpr saves
            refine iff_of_true ?_ (.inl saves)
            rw [pairingLoadOrCreate_rotates opened, decide_eq_true ok]
            refine ⟨fun error => absurd ok error, fun _ => ⟨environment.random, rfl, nvsSave_saved _ _ saves, ?_⟩⟩
            refine Eq.trans (congrArg (Option.bind · parseToken) (congrArg some (if_pos ok))) ?_
            exact parseToken_tokenFormat environment.random
          · rw [tokenRotate_failed there opened saves, or_iff_right saves]
        · rw [rotateCondition_early fun all => opened all.2.2.2]
          have refused : pairingLoadOrCreate true environment ram before.stored true =
              ⟨environment.opened, none, [⟨some ram, before.stored⟩], ⟨some ram, before.stored⟩⟩ := by
            unfold pairingLoadOrCreate
            rw [if_neg (by decide), if_pos opened]
          rw [refused]
          exact allOrNothing_entered opened there (by simp)

end calls

/-- `iris_services_init` of a build with pairing, while the executor is idle. -/
def servicesInit (pairing : Bool) (environment : Environment) (state : PairingState) : Outcome :=
  match serviceState environment state with
  | none => ⟨EspErr.noMem, none, [state], state⟩
  | some ram => pairingLoadOrCreate pairing environment ram state.stored false

inductive PairingCall
  | init
  | rotate (out : Bool)
  | set (text : Option (List Char))

def PairingCall.outcome (pairing : Bool) (environment : Environment) (state : PairingState) : PairingCall → Outcome
  | init => servicesInit pairing environment state
  | rotate out => tokenRotate pairing environment state out
  | set text => tokenSet pairing environment state text

section runs
variable {pairing : Bool} {environment : Environment} {before : PairingState}

theorem persistedOnly_saved (token : AuthToken) (ready : Bool) : PersistedOnly ⟨some ⟨token, ready⟩, some token.1⟩ := by
  rw [persistedOnly_iff]
  exact fun _ => rfl

theorem nvsGetBlob_whole {stored : Option (List UInt8)} {token : AuthToken}
    (ok : (nvsGetBlob environment stored token).1 = EspErr.ok)
    (whole : (nvsGetBlob environment stored token).2.1 = 32) :
    stored = some (nvsGetBlob environment stored token).2.2.1 := by
  unfold nvsGetBlob at ok whole ⊢
  split at ok
  next unread => exact absurd ok unread
  next read =>
    rw [if_neg read] at whole ⊢
    cases stored with
    | none => exact absurd ok (by decide : nvsNotFound ≠ EspErr.ok)
    | some blob =>
      dsimp only at ok whole ⊢
      split at ok
      next small =>
        rw [dif_pos small] at whole ⊢
        have size : blob.length = 32 := whole
        dsimp only
        rw [List.drop_of_length_le (Nat.le_of_eq (token.2.trans size.symm)), List.append_nil]
      next long => exact absurd ok (by decide : nvsInvalidLength ≠ EspErr.ok)

/-- A token is ready only when NVS has it, since one that is loaded comes from there. -/
theorem pairingLoadOrCreate_persisted {ram : PairingRam} {stored : Option (List UInt8)} (rotate : Bool)
    (only : PersistedOnly ⟨some ram, stored⟩) :
    PersistedOnly (pairingLoadOrCreate pairing environment ram stored rotate).after := by
  unfold pairingLoadOrCreate
  cases pairing with
  | false => exact only
  | true =>
    by_cases opened : environment.opened = EspErr.ok
    · rw [if_neg (by decide), if_neg (not_not.mpr opened)]
      dsimp only
      generalize answer : (if rotate = true then (nvsNotFound, 32, ram.token)
        else nvsGetBlob environment stored ram.token) = read
      by_cases missing : read.1 = nvsNotFound
      · rw [if_pos missing]
        dsimp only
        by_cases saves : environment.Saves
        · rw [nvsSave_saved _ _ saves]
          exact persistedOnly_saved _ _
        · rw [decide_eq_false (mt (nvsSave_ok _ _ opened).mp saves)]
          exact persistedOnly_unready _ _
      · rw [if_neg missing]
        dsimp only
        by_cases short : read.1 = EspErr.ok ∧ read.2.1 ≠ 32
        · rw [if_pos short]
          exact persistedOnly_unready _ _
        · rw [if_neg short]
          by_cases ok : read.1 = EspErr.ok
          · have loaded : rotate = false := by
              cases rotate with
              | false => rfl
              | true => exact absurd (congrArg Prod.fst answer).symm missing
            subst loaded answer
            rw [persistedOnly_iff]
            exact fun _ => nvsGetBlob_whole ok (not_not.mp fun size => short ⟨ok, size⟩)
          · rw [decide_eq_false ok]
            exact persistedOnly_unready _ _
    · rw [if_neg (by decide), if_pos opened]
      exact only

def Environment.Honest (environment : Environment) : Prop := environment.Leaves → environment.Saves

theorem persistedOnly_call (honest : environment.Honest) (only : PersistedOnly before) (call : PairingCall) :
    PersistedOnly (call.outcome pairing environment before).after := by
  have entered : ∀ ram, serviceState environment before = some ram → PersistedOnly ⟨some ram, before.stored⟩ := by
    intro ram there
    rw [persistedOnly_of_auth there]
    exact persistedOnly_iff.mp only
  cases call with
  | init =>
    change PersistedOnly (servicesInit pairing environment before).after
    unfold servicesInit
    cases there : serviceState environment before with
    | none => exact only
    | some ram => exact pairingLoadOrCreate_persisted false (entered ram there)
  | rotate out =>
    change PersistedOnly (tokenRotate pairing environment before out).after
    unfold tokenRotate
    cases out with
    | false => exact only
    | true =>
      rw [if_neg (by decide)]
      cases there : serviceState environment before with
      | none => exact only
      | some ram => exact pairingLoadOrCreate_persisted true (entered ram there)
  | set text =>
    change PersistedOnly (tokenSet pairing environment before text).after
    have condition : SetCondition pairing environment before text := by
      unfold SetCondition
      split
      next =>
        by_cases saves : environment.Saves
        · exact .inl saves
        · exact .inr ⟨only, fun left => absurd (honest left) saves⟩
      next => exact only
    have whole := (tokenSet_iff text).mpr condition
    by_cases error : (tokenSet pairing environment before text).error = EspErr.ok
    · obtain ⟨token, ram, stored, -⟩ := whole.succeeded error
      rw [persistedOnly_iff]
      intro ready
      rw [stored]
      unfold PairingState.auth
      rw [ram]
    · exact (whole.failed error).2 _ (by simp)

/-- With such an NVS whoever asks between the calls, after whatever calls and errors, is given the persisted token or
none. -/
theorem persistedOnly_calls {calls : List (PairingCall × Environment)} (honest : ∀ call ∈ calls, call.2.Honest)
    {state : PairingState} (only : PersistedOnly state) :
    PersistedOnly (calls.foldl (fun state call => (call.1.outcome pairing call.2 state).after) state) := by
  induction calls generalizing state with
  | nil => exact only
  | cons call calls ih =>
    obtain ⟨here, later⟩ := List.forall_mem_cons.mp honest
    exact ih later (persistedOnly_call here only call.1)

/-- Since its start the device authenticates by the persisted token or by none, whatever calls and errors there were. -/
theorem token_persisted_only {calls : List (PairingCall × Environment)} (honest : ∀ call ∈ calls, call.2.Honest)
    (stored : Option (List UInt8)) :
    PersistedOnly (calls.foldl (fun state call => (call.1.outcome pairing call.2 state).after) ⟨none, stored⟩) :=
  persistedOnly_calls honest (persistedOnly_iff.mpr nofun)

end runs

/-- `esp_iris_pairing_token_set` is all or nothing unless a save that fails changes the blob in NVS, and
`esp_iris_pairing_token_rotate` only when it does not fail after it has drawn a token. -/
theorem pairing_all_or_nothing_iff (pairing : Bool) (environment : Environment) (before : PairingState) :
    (∀ text, AllOrNothing before text (tokenSet pairing environment before text) ↔
      SetCondition pairing environment before text) ∧
    ∀ out, AllOrNothing before (tokenRotate pairing environment before out).text
      (tokenRotate pairing environment before out) ↔ RotateCondition pairing environment before out :=
  ⟨tokenSet_iff, tokenRotate_iff⟩

def pairedDevice : PairingState := ⟨some ⟨.zero, true⟩, some AuthToken.zero.1⟩

def fullStorage : Environment where
  allocates := true
  opened := EspErr.ok
  read := EspErr.ok
  set := ⟨0x1105, false⟩
  commit := ⟨EspErr.ok, false⟩
  random := ⟨List.replicate 32 7, rfl⟩

/-- A rotation that NVS has no space for locks the paired host out, where a token that is set stays without effect. -/
theorem rotation_locks_out :
    ¬ AllOrNothing pairedDevice (tokenRotate true fullStorage pairedDevice true).text
      (tokenRotate true fullStorage pairedDevice true) := by
  intro whole
  have same := (whole.failed (by decide)).1
  exact absurd same (by decide)

/-- A start and a rotation without space for the token leave nothing that NVS does not have. -/
theorem full_storage_persisted_only :
    PersistedOnly ([(PairingCall.init, fullStorage), (.rotate true, fullStorage)].foldl
      (fun state call => (call.1.outcome true call.2 state).after) ⟨none, some AuthToken.zero.1⟩) := by
  refine token_persisted_only (fun call member => ?_) _
  have same : call.2 = fullStorage := by
    simp only [List.mem_cons, List.not_mem_nil, or_false] at member
    rcases member with rfl | rfl <;> rfl
  rw [same]
  rintro ⟨_, kept | ⟨set, _⟩⟩ <;> contradiction

end EspIris.Device.Pairing
