import EspIris.Lib.Machine
import Mathlib.Data.Finset.Basic
import Mathlib.Data.Finset.Dedup

/-! Who a request of the gateway's API is from, and what an agent comes to hold: `AuthManager`, the middleware
`authentication`, the handlers for credentials and the scopes of the file routes. -/

namespace EspIris.Gateway.Security
open Machine (System Reachable Run Invariant)

/-- `hashlib`; the digests are hexadecimal texts. -/
structure Hashlib where
  sha256 : String → String
  pbkdf2Hmac : (password salt : String) → (rounds : Nat) → String

def agentTokenScopes : Finset String := {"files.read", "files.write", "files.delete"}

structure Actor where
  kind : String
  name : String
  scopes : Finset String
  deriving DecidableEq

def Actor.allows (actor : Actor) (scope : String) : Bool := decide ("*" ∈ actor.scopes ∨ scope ∈ actor.scopes)

def developerActor : Actor := ⟨"developer", "Developer", {"*"}⟩

def localActor : Actor := ⟨"local", "Unauthenticated local client", {"*"}⟩

/-- The setting `password_hash`. -/
structure SavedPassword where
  rounds : Nat
  salt : String
  digest : String
  deriving DecidableEq, Repr

/-- A row of `agent_tokens`; `scopes` is what `scopes_json` reads as. -/
structure TokenRow where
  tokenId : String
  name : String
  tokenHash : String
  scopes : Finset String
  revoked : Bool
  deriving DecidableEq

/-- `AuthManager` with its part of the store. -/
structure AuthManager where
  password : Option SavedPassword
  sessions : String → Option Actor
  tokens : List TokenRow

inductive AuthError
  | value (text : String)
  | key (text : String)
  | runtime (text : String)
  | permission (text : String)
  deriving DecidableEq, Repr

namespace AuthManager
variable (hashlib : Hashlib)

def passwordRounds : Nat := 310000

def configured (auth : AuthManager) : Bool := auth.password.isSome

def setPassword (auth : AuthManager) (password salt : String) : Except AuthError AuthManager :=
  if password.length < 8 then .error (.value "developer password must contain at least 8 characters")
  else .ok { auth with password := some ⟨passwordRounds, salt, hashlib.pbkdf2Hmac password salt passwordRounds⟩ }

def setInitialPassword (auth : AuthManager) (password salt : String) : Except AuthError AuthManager :=
  if auth.configured then .error (.runtime "developer password is already configured")
  else auth.setPassword hashlib password salt

def changePassword (auth : AuthManager) (password salt : String) : Except AuthError AuthManager :=
  (auth.setPassword hashlib password salt).map fun changed => { changed with sessions := fun _ => none }

def verifyPassword (auth : AuthManager) (password : String) : Bool :=
  match auth.password with
  | none => false
  | some saved => hashlib.pbkdf2Hmac password saved.salt saved.rounds == saved.digest

/-- `token` is drawn. -/
def login (auth : AuthManager) (password token : String) : Except AuthError AuthManager :=
  if auth.verifyPassword hashlib password then
    .ok { auth with sessions := fun other => if other = token then some developerActor else auth.sessions other }
  else .error (.permission "invalid developer password")

def logout (auth : AuthManager) (token : Option String) : AuthManager :=
  match token with
  | none => auth
  | some token => { auth with sessions := fun other => if other = token then none else auth.sessions other }

def browserActor (auth : AuthManager) (token : Option String) : Option Actor :=
  (token.filter (· ≠ "")).bind auth.sessions

def authenticateBearer (auth : AuthManager) (bearer : Option String) : Option Actor :=
  match bearer with
  | none => none
  | some bearer =>
    if bearer.startsWith "iris_" then
      (auth.tokens.find? fun row => row.tokenHash == hashlib.sha256 bearer && ! row.revoked).map fun row =>
        ⟨"agent", row.name, row.scopes⟩
    else none

inductive ScopesBody
  | absent
  | items (scopes : List String)
  | unsupported
  deriving DecidableEq, Repr

def selectedScopes : ScopesBody → Option (Finset String)
  | .absent => some {"files.read"}
  | .items scopes => some scopes.toFinset
  | .unsupported => none

/-- `str.isspace` of a character. -/
def isSpace (char : Char) : Bool :=
  let code := char.toNat
  (9 ≤ code && code ≤ 13) || (28 ≤ code && code ≤ 32) || code == 0x85 || code == 0xA0 || code == 0x1680 ||
    (0x2000 ≤ code && code ≤ 0x200A) || code == 0x2028 || code == 0x2029 || code == 0x202F || code == 0x205F ||
    code == 0x3000

def strip (text : String) : String :=
  String.ofList ((text.toList.dropWhile isSpace).reverse.dropWhile isSpace).reverse

def bearerOf (tokenId secret : String) : String := "iris_" ++ tokenId ++ "_" ++ secret

/-- `tokenId` and `secret` are drawn. -/
def createAgentToken (auth : AuthManager) (name : String) (scopes : ScopesBody) (tokenId secret : String) :
    Except AuthError (AuthManager × String) :=
  let clean := strip name
  if clean.length = 0 ∨ 64 < clean.length then .error (.value "token name must contain 1 to 64 characters")
  else
    match selectedScopes scopes with
    | none => .error (.value "agent token contains an unsupported or empty scope set")
    | some selected =>
      if selected = ∅ ∨ ¬ selected ⊆ agentTokenScopes then
        .error (.value "agent token contains an unsupported or empty scope set")
      else if auth.tokens.any fun row => row.name == clean || row.tokenId == tokenId then
        .error (.value ("agent token name is already in use: " ++ clean))
      else
        let bearer := bearerOf tokenId secret
        .ok ({ auth with tokens := auth.tokens ++ [⟨tokenId, clean, hashlib.sha256 bearer, selected, false⟩] }, bearer)

def revokeAgentToken (auth : AuthManager) (tokenId : String) : Except AuthError AuthManager :=
  if auth.tokens.any fun row => row.tokenId == tokenId then
    .ok { auth with
          tokens := auth.tokens.map fun row => if row.tokenId = tokenId then { row with revoked := true } else row }
  else .error (.key tokenId)

end AuthManager

inductive FileRoute
  | volumes | stat | list | download | upload | mkdir | delete | rename
  deriving DecidableEq, Repr

def FileRoute.requiredScope : FileRoute → String
  | .volumes | .stat | .list | .download => "files.read"
  | .upload | .mkdir | .rename => "files.write"
  | .delete => "files.delete"

inductive Route
  | health
  | authState
  | setup (password salt session : String)
  | login (password session : String)
  | logout
  | setMode (mode : String)
  | file (route : FileRoute)
  | listTokens
  | createToken (name : String) (scopes : AuthManager.ScopesBody) (tokenId secret : String)
  | revokeToken (tokenId : String)
  | changePassword (password salt : String)
  /-- Every other route: none is about credentials, and none has a scope. -/
  | other (path : String)
  deriving DecidableEq, Repr

/-- `PUBLIC_API`. -/
def Route.isPublic : Route → Bool
  | .health | .authState | .setup .. | .login .. => true
  | _ => false

structure ApiRequest where
  authorization : String
  cookie : Option String
  loopback : Bool
  route : Route
  deriving DecidableEq, Repr

def ApiRequest.bearer (request : ApiRequest) : Option String :=
  if request.authorization.toLower.startsWith "bearer " then
    some (AuthManager.strip (request.authorization.drop 7).toString)
  else none

inductive ApiResponse
  | error (status : Nat) (code : String)
  | plain
  | session (token : String)
  | created (bearer : String)
  deriving DecidableEq, Repr

structure GatewayState where
  auth : AuthManager
  requireLocalAuth : Bool
  mode : String

def GatewayState.authenticationRequired (gateway : GatewayState) (request : ApiRequest) : Bool :=
  gateway.requireLocalAuth || ! request.loopback

def GatewayState.actor (hashlib : Hashlib) (gateway : GatewayState) (request : ApiRequest) : Option Actor :=
  if gateway.authenticationRequired request then
    (gateway.auth.authenticateBearer hashlib request.bearer).orElse fun _ => gateway.auth.browserActor request.cookie
  else some localActor

def AuthError.response : AuthError → ApiResponse
  | .value _ => .error 400 "invalid_request"
  | .key _ => .error 404 "not_found"
  | .runtime _ => .error 409 "device_request_failed"
  | .permission _ => .error 403 "permission_denied"

def handle (hashlib : Hashlib) (gateway : GatewayState) (actor : Option Actor) (cookie : Option String) :
    Route → GatewayState × ApiResponse × Option FileRoute
  | .health | .authState | .listTokens | .other _ => (gateway, .plain, none)
  | .setup password salt session =>
    if gateway.auth.configured then (gateway, .error 409 "already_configured", none)
    else
      match gateway.auth.setInitialPassword hashlib password salt with
      | .error error => (gateway, error.response, none)
      | .ok auth =>
        match auth.login hashlib password session with
        | .error error => ({ gateway with auth }, error.response, none)
        | .ok auth => ({ gateway with auth }, .session session, none)
  | .login password session =>
    match gateway.auth.login hashlib password session with
    | .error _ => (gateway, .error 401 "invalid_password", none)
    | .ok auth => ({ gateway with auth }, .session session, none)
  | .logout => ({ gateway with auth := gateway.auth.logout cookie }, .plain, none)
  | .setMode mode =>
    if mode = "develop" ∨ mode = "observe" then ({ gateway with mode }, .plain, none)
    else (gateway, .error 400 "invalid_request", none)
  | .file route =>
    if gateway.mode ≠ "develop" then (gateway, .error 423 "observe_mode", none)
    else
      match actor with
      | none => (gateway, .error 401 "", none)
      | some actor =>
        if actor.allows route.requiredScope then (gateway, .plain, some route)
        else (gateway, .error 403 "insufficient_scope", none)
  | .createToken name scopes tokenId secret =>
    match gateway.auth.createAgentToken hashlib name scopes tokenId secret with
    | .error error => (gateway, error.response, none)
    | .ok (auth, bearer) => ({ gateway with auth }, .created bearer, none)
  | .revokeToken tokenId =>
    match gateway.auth.revokeAgentToken tokenId with
    | .error error => (gateway, error.response, none)
    | .ok auth => ({ gateway with auth }, .plain, none)
  | .changePassword password salt =>
    match gateway.auth.changePassword hashlib password salt with
    | .error error => (gateway, error.response, none)
    | .ok auth => ({ gateway with auth }, .plain, none)

def GatewayState.serve (hashlib : Hashlib) (gateway : GatewayState) (request : ApiRequest) :
    GatewayState × ApiResponse × Option FileRoute :=
  if request.route.isPublic then handle hashlib gateway none request.cookie request.route
  else
    match gateway.actor hashlib request with
    | none => (gateway, .error 401 "authentication_required", none)
    | some actor => handle hashlib gateway (some actor) request.cookie request.route

structure AgentWorld where
  gateway : GatewayState
  bearers : List String
  sessions : List String
  passwords : List String
  /-- The file routes that went to a device for it. -/
  performed : List FileRoute

def AgentWorld.Holds (world : AgentWorld) (request : ApiRequest) : Prop :=
  (∀ bearer ∈ request.bearer, bearer ∈ world.bearers) ∧ ∀ cookie ∈ request.cookie, cookie ∈ world.sessions

instance (world : AgentWorld) (request : ApiRequest) : Decidable (world.Holds request) := by
  unfold AgentWorld.Holds
  infer_instance

def DrawnFresh (hashlib : Hashlib) (world : AgentWorld) (request : ApiRequest) : Prop :=
  match request.route with
  | .createToken _ _ tokenId secret =>
    ∀ row ∈ world.gateway.auth.tokens, row.tokenHash ≠ hashlib.sha256 (AuthManager.bearerOf tokenId secret)
  | _ => True

instance (hashlib : Hashlib) (world : AgentWorld) (request : ApiRequest) : Decidable (DrawnFresh hashlib world request) := by
  unfold DrawnFresh
  split <;> infer_instance

def ApiResponse.bearer : ApiResponse → List String
  | .created bearer => [bearer]
  | _ => []

def ApiResponse.sessionToken : ApiResponse → List String
  | .session token => [token]
  | _ => []

def passwordSet : Route → ApiResponse → List String
  | .setup password .., .session _ => [password]
  | .changePassword password _, .plain => [password]
  | _, _ => []

def AgentWorld.take (world : AgentWorld) (route : Route) (served : GatewayState × ApiResponse × Option FileRoute) :
    AgentWorld where
  gateway := served.1
  bearers := world.bearers ++ served.2.1.bearer
  sessions := world.sessions ++ served.2.1.sessionToken
  passwords := world.passwords ++ passwordSet route served.2.1
  performed := world.performed ++ served.2.2.toList

def nextRequest (hashlib : Hashlib) (world : AgentWorld) (request : ApiRequest) : Option AgentWorld :=
  if world.Holds request ∧ DrawnFresh hashlib world request then
    some (world.take request.route (world.gateway.serve hashlib request))
  else none

def agentSystem (hashlib : Hashlib) (scope : String) : System AgentWorld ApiRequest :=
  .ofPartial
    (fun world => world.sessions = [] ∧ world.passwords = [] ∧ world.performed = [] ∧
      (world.gateway.auth.tokens.map TokenRow.tokenHash).Nodup ∧ ∃ bearer actor, world.bearers = [bearer] ∧
        world.gateway.auth.authenticateBearer hashlib (some bearer) = some actor ∧ actor.allows scope = false)
    (nextRequest hashlib)

structure Confined (hashlib : Hashlib) (scope : String) (world : AgentWorld) : Prop where
  bearers : ∀ bearer ∈ world.bearers, ∀ actor,
    world.gateway.auth.authenticateBearer hashlib (some bearer) = some actor → actor.allows scope = false
  sessions : ∀ token ∈ world.sessions, ∀ actor,
    world.gateway.auth.browserActor (some token) = some actor → actor.allows scope = false
  passwords : ∀ password ∈ world.passwords, world.gateway.auth.verifyPassword hashlib password = false
  performed : ∀ route ∈ world.performed, route.requiredScope ≠ scope

/-- The request does not raise the agent above its scopes: it logs in with no right password, sets none, asks for no
token with the scope, and goes through the authentication where the scope is needed. -/
def StaysBelow (hashlib : Hashlib) (scope : String) (world : AgentWorld) (request : ApiRequest) : Prop :=
  match request.route with
  | .setup password .. => world.gateway.auth.configured = true ∨ password.length < 8
  | .login password _ => world.gateway.auth.verifyPassword hashlib password = false
  | .file route => route.requiredScope = scope → world.gateway.authenticationRequired request = true
  | .createToken _ scopes .. =>
    (world.gateway.actor hashlib request).isSome = true → ∀ selected ∈ AuthManager.selectedScopes scopes, scope ∉ selected
  | .changePassword password _ => (world.gateway.actor hashlib request).isSome = true → password.length < 8
  | _ => True

variable {hashlib : Hashlib} {scope : String} {world : AgentWorld} {request : ApiRequest} {actor : Actor}

/-- The invariant: `Confined` for every row of the table that has the digest of a token the agent holds. -/
structure AgentSound (hashlib : Hashlib) (scope : String) (world : AgentWorld) : Prop where
  bearers : ∀ bearer ∈ world.bearers, ∀ row ∈ world.gateway.auth.tokens, row.tokenHash = hashlib.sha256 bearer →
    row.revoked = false → "*" ∉ row.scopes ∧ scope ∉ row.scopes
  sessions : ∀ token ∈ world.sessions, ∀ actor,
    world.gateway.auth.browserActor (some token) = some actor → actor.allows scope = false
  passwords : ∀ password ∈ world.passwords, world.gateway.auth.verifyPassword hashlib password = false
  performed : ∀ route ∈ world.performed, route.requiredScope ≠ scope

theorem allows_false : actor.allows scope = false ↔ "*" ∉ actor.scopes ∧ scope ∉ actor.scopes := by
  unfold Actor.allows
  rw [decide_eq_false_iff_not, not_or]

theorem authenticateBearer_row {auth : AuthManager} {bearer : String}
    (found : auth.authenticateBearer hashlib (some bearer) = some actor) :
    ∃ row ∈ auth.tokens, row.tokenHash = hashlib.sha256 bearer ∧ row.revoked = false ∧ actor = ⟨"agent", row.name, row.scopes⟩ := by
  unfold AuthManager.authenticateBearer at found
  dsimp only at found
  split at found
  next =>
    obtain ⟨row, isRow, rfl⟩ := Option.map_eq_some_iff.mp found
    have passes := List.find?_some isRow
    rw [Bool.and_eq_true, beq_iff_eq, Bool.not_eq_true'] at passes
    exact ⟨row, List.mem_of_find?_eq_some isRow, passes.1, passes.2, rfl⟩
  next => contradiction

theorem AgentSound.confined (sound : AgentSound hashlib scope world) : Confined hashlib scope world where
  bearers := by
    intro bearer member actor found
    obtain ⟨row, inside, digest, live, rfl⟩ := authenticateBearer_row found
    exact allows_false.mpr (sound.bearers bearer member row inside digest live)
  sessions := sound.sessions
  passwords := sound.passwords
  performed := sound.performed

theorem Confined.below (confined : Confined hashlib scope world) (holds : world.Holds request)
    (required : world.gateway.authenticationRequired request = true)
    (found : world.gateway.actor hashlib request = some actor) : actor.allows scope = false := by
  unfold GatewayState.actor at found
  rw [if_pos required] at found
  cases bearer : world.gateway.auth.authenticateBearer hashlib request.bearer with
  | some other =>
    rw [bearer] at found
    cases found
    cases presented : request.bearer with
    | none =>
      rw [presented] at bearer
      contradiction
    | some text =>
      rw [presented] at bearer
      exact confined.bearers text (holds.1 text presented) _ bearer
  | none =>
    rw [bearer] at found
    have session : world.gateway.auth.browserActor request.cookie = some actor := found
    cases presented : request.cookie with
    | none =>
      rw [presented] at session
      contradiction
    | some token =>
      rw [presented] at session
      exact confined.sessions token (holds.2 token presented) _ session

section sound
variable (sound : AgentSound hashlib scope world)
include sound

/-- A response without credentials, from a state whose credentials are those of before. -/
theorem AgentSound.quiet {route : Route} {gateway : GatewayState} {response : ApiResponse}
    (same : gateway.auth = world.gateway.auth) (noBearer : response.bearer = [])
    (noSession : response.sessionToken = []) (noPassword : passwordSet route response = []) :
    AgentSound hashlib scope (world.take route (gateway, response, none)) := by
  unfold AgentWorld.take
  rw [noBearer, noSession, noPassword, Option.toList_none]
  simp only [List.append_nil]
  refine ⟨?_, ?_, ?_, sound.performed⟩
  · rw [same]
    exact sound.bearers
  · rw [same]
    exact sound.sessions
  · rw [same]
    exact sound.passwords

theorem AgentSound.failed {route : Route} (status : Nat) (code : String) :
    AgentSound hashlib scope (world.take route (world.gateway, .error status code, none)) := by
  refine sound.quiet rfl rfl rfl ?_
  cases route <;> rfl

theorem AgentSound.raised {route : Route} (error : AuthError) :
    AgentSound hashlib scope (world.take route (world.gateway, error.response, none)) := by
  cases error with
  | value => exact sound.failed 400 "invalid_request"
  | key => exact sound.failed 404 "not_found"
  | runtime => exact sound.failed 409 "device_request_failed"
  | permission => exact sound.failed 403 "permission_denied"

theorem AgentSound.performs {route : FileRoute} (other : route.requiredScope ≠ scope) :
    AgentSound hashlib scope (world.take (.file route) (world.gateway, .plain, some route)) := by
  unfold AgentWorld.take
  dsimp only [ApiResponse.bearer, ApiResponse.sessionToken, passwordSet]
  simp only [List.append_nil]
  refine ⟨sound.bearers, sound.sessions, sound.passwords, fun done member => ?_⟩
  rcases List.mem_append.mp member with old | new
  · exact sound.performed done old
  · cases List.mem_singleton.mp new
    exact other

end sound

theorem setPassword_short {auth : AuthManager} {password : String} (short : password.length < 8) (salt : String) :
    auth.setPassword hashlib password salt =
      .error (.value "developer password must contain at least 8 characters") := if_pos short

section sound
variable (sound : AgentSound hashlib scope world)
include sound

theorem AgentSound.logout (cookie : Option String) :
    AgentSound hashlib scope
      (world.take .logout ({ world.gateway with auth := world.gateway.auth.logout cookie }, .plain, none)) := by
  unfold AgentWorld.take
  dsimp only [ApiResponse.bearer, ApiResponse.sessionToken, passwordSet]
  simp only [Option.toList_none, List.append_nil]
  have tokens : (world.gateway.auth.logout cookie).tokens = world.gateway.auth.tokens := by
    cases cookie <;> rfl
  have password : (world.gateway.auth.logout cookie).password = world.gateway.auth.password := by
    cases cookie <;> rfl
  refine ⟨?_, fun token member actor found => ?_, ?_, sound.performed⟩
  · dsimp only
    rw [tokens]
    exact sound.bearers
  · refine sound.sessions token member actor ?_
    cases cookie with
    | none => exact found
    | some ended =>
      unfold AuthManager.browserActor AuthManager.logout at *
      dsimp only at found
      obtain ⟨text, isToken, found⟩ := Option.bind_eq_some_iff.mp found
      split at found
      next => contradiction
      next => exact Option.bind_eq_some_iff.mpr ⟨text, isToken, found⟩
  · unfold AuthManager.verifyPassword
    rw [password]
    exact sound.passwords

theorem AgentSound.revoke {tokenId : String} {auth : AuthManager}
    (revoked : world.gateway.auth.revokeAgentToken tokenId = .ok auth) :
    AgentSound hashlib scope (world.take (.revokeToken tokenId) ({ world.gateway with auth }, .plain, none)) := by
  unfold AuthManager.revokeAgentToken at revoked
  split at revoked
  next =>
    cases revoked
    unfold AgentWorld.take
    dsimp only [ApiResponse.bearer, ApiResponse.sessionToken, passwordSet]
    simp only [Option.toList_none, List.append_nil]
    refine ⟨fun bearer member row inside digest live => ?_, sound.sessions, sound.passwords, sound.performed⟩
    obtain ⟨earlier, isRow, rfl⟩ := List.mem_map.mp inside
    split at live
    next => contradiction
    next other =>
      rw [if_neg other] at digest ⊢
      exact sound.bearers bearer member earlier isRow digest live
  next => contradiction

/-- A new token has the scopes that were asked for, and its digest is its own. -/
theorem AgentSound.create {name : String} {scopes : AuthManager.ScopesBody} {tokenId secret bearer : String}
    {auth : AuthManager}
    (fresh : ∀ row ∈ world.gateway.auth.tokens, row.tokenHash ≠ hashlib.sha256 (AuthManager.bearerOf tokenId secret))
    (without : ∀ selected ∈ AuthManager.selectedScopes scopes, scope ∉ selected)
    (created : world.gateway.auth.createAgentToken hashlib name scopes tokenId secret = .ok (auth, bearer)) :
    AgentSound hashlib scope
      (world.take (.createToken name scopes tokenId secret) ({ world.gateway with auth }, .created bearer, none)) := by
  unfold AuthManager.createAgentToken at created
  dsimp only at created
  split at created
  next => cases created
  split at created
  next => cases created
  next selected isSelected =>
    split at created
    next => cases created
    next supported =>
      split at created
      next => cases created
      cases created
      have within : selected ⊆ agentTokenScopes := by
        by_contra beyond
        exact supported (.inr beyond)
      have every : "*" ∉ selected := fun inside => absurd (within inside) (by decide)
      unfold AgentWorld.take
      dsimp only [ApiResponse.bearer, ApiResponse.sessionToken, passwordSet]
      simp only [Option.toList_none, List.append_nil]
      refine ⟨fun held member row inside digest live => ?_, sound.sessions, sound.passwords, sound.performed⟩
      rcases List.mem_append.mp inside with old | new
      · rcases List.mem_append.mp member with earlier | isNew
        · exact sound.bearers held earlier row old digest live
        · cases List.mem_singleton.mp isNew
          exact absurd digest (fresh row old)
      · cases List.mem_singleton.mp new
        exact ⟨every, without selected isSelected⟩

theorem AgentSound.handled (holds : world.Holds request) (fresh : DrawnFresh hashlib world request)
    (below : StaysBelow hashlib scope world request) (hidden : request.route.isPublic = false)
    (found : world.gateway.actor hashlib request = some actor) :
    AgentSound hashlib scope
      (world.take request.route (handle hashlib world.gateway (some actor) request.cookie request.route)) := by
  have known : (world.gateway.actor hashlib request).isSome = true := by
    rw [found]
    rfl
  unfold StaysBelow at below
  unfold DrawnFresh at fresh
  cases isRoute : request.route with
  | health | authState | setup | login =>
    rw [isRoute] at hidden
    exact absurd hidden.symm Bool.false_ne_true
  | listTokens | other => exact sound.quiet rfl rfl rfl rfl
  | logout => exact sound.logout request.cookie
  | setMode mode =>
    dsimp only [handle]
    split
    next => exact sound.quiet rfl rfl rfl rfl
    next => exact sound.failed 400 "invalid_request"
  | file route =>
    rw [isRoute] at below
    dsimp only [handle]
    split
    next => exact sound.failed 423 "observe_mode"
    split
    next permitted =>
      refine sound.performs fun same => ?_
      have lacks := sound.confined.below holds (below same) found
      rw [← same] at lacks
      exact Bool.false_ne_true (lacks.symm.trans permitted)
    next => exact sound.failed 403 "insufficient_scope"
  | createToken name scopes tokenId secret =>
    rw [isRoute] at below fresh
    dsimp only [handle]
    split
    next error _ => exact sound.raised error
    next auth bearer created => exact sound.create fresh (below known) created
  | revokeToken tokenId =>
    dsimp only [handle]
    split
    next error _ => exact sound.raised error
    next auth revoked => exact sound.revoke revoked
  | changePassword password salt =>
    rw [isRoute] at below
    dsimp only [handle, AuthManager.changePassword]
    rw [setPassword_short (below known)]
    exact sound.raised _

theorem AgentSound.answered (below : StaysBelow hashlib scope world request) (isPublic : request.route.isPublic = true) :
    AgentSound hashlib scope
      (world.take request.route (handle hashlib world.gateway none request.cookie request.route)) := by
  unfold StaysBelow at below
  cases isRoute : request.route with
  | health | authState => exact sound.quiet rfl rfl rfl rfl
  | setup password salt session =>
    rw [isRoute] at below
    dsimp only [handle]
    split
    next => exact sound.failed 409 "already_configured"
    next unset =>
      have short : password.length < 8 := below.resolve_left unset
      dsimp only [AuthManager.setInitialPassword]
      rw [if_neg unset, setPassword_short short]
      exact sound.raised _
  | login password session =>
    rw [isRoute] at below
    dsimp only [handle, AuthManager.login]
    rw [if_neg (Bool.eq_false_iff.mp below)]
    exact sound.failed 401 "invalid_password"
  | _ =>
    rw [isRoute] at isPublic
    exact absurd isPublic Bool.false_ne_true

end sound

theorem agent_sound : Invariant ((agentSystem hashlib scope).guarded (StaysBelow hashlib scope)) (AgentSound hashlib scope) where
  start := by
    rintro world ⟨sessions, passwords, performed, distinct, bearer, actor, bearers, found, lacks⟩
    obtain ⟨row, inside, digest, live, rfl⟩ := authenticateBearer_row found
    refine ⟨?_, ?_, ?_, ?_⟩
    · intro held member other isRow same _
      rw [bearers, List.mem_singleton] at member
      subst member
      cases List.inj_on_of_nodup_map distinct isRow inside (same.trans digest.symm)
      exact allows_false.mp lacks
    · rw [sessions]
      exact fun token member => absurd member List.not_mem_nil
    · rw [passwords]
      exact fun password member => absurd member List.not_mem_nil
    · rw [performed]
      exact fun route member => absurd member List.not_mem_nil
  step := by
    rintro world request after sound ⟨below, next⟩
    have next : nextRequest hashlib world request = some after := next
    unfold nextRequest at next
    split at next
    next both =>
      cases next
      unfold GatewayState.serve
      split
      next isPublic => exact sound.answered below isPublic
      next hidden =>
        cases found : world.gateway.actor hashlib request with
        | none => exact sound.failed 401 "authentication_required"
        | some actor => exact sound.handled both.1 both.2 below (Bool.eq_false_iff.mpr hidden) found
    next => contradiction

/-- Whatever an agent asks for, it holds nothing with the scope that its token lacks. -/
theorem agent_confined (reached : Reachable ((agentSystem hashlib scope).guarded (StaysBelow hashlib scope)) world) :
    Confined hashlib scope world := (agent_sound.reachable reached).confined

instance (hashlib : Hashlib) (scope : String) (world : AgentWorld) (request : ApiRequest) :
    Decidable (StaysBelow hashlib scope world request) := by
  unfold StaysBelow
  split <;> infer_instance

def readerBearer : String := "iris_01_A"

def managerBearer : String := "iris_02_B"

def bearerHashlib : Hashlib where
  sha256 := fun text =>
    if text = readerBearer then "aa307eb933db609997396fd27ff720c0c422615d5cea18795785b734323e7b7d"
    else if text = managerBearer then "e6b9235f3074ea353eacbae845cd347575db25798a69a3de52ae8f644b7a90d8"
    else ""
  pbkdf2Hmac := fun _ _ _ => ""

def readerWorld : AgentWorld where
  gateway :=
    { auth :=
        { password := none
          sessions := fun _ => none
          tokens := [⟨"01", "reader",
            "aa307eb933db609997396fd27ff720c0c422615d5cea18795785b734323e7b7d", {"files.read"}, false⟩] }
      requireLocalAuth := true
      mode := "develop" }
  bearers := [readerBearer]
  sessions := []
  passwords := []
  performed := []

def requestBy (bearer : String) (route : Route) : ApiRequest := ⟨"Bearer " ++ bearer, none, false, route⟩

def managerToken (scopes : AuthManager.ScopesBody) : Route :=
  .createToken "manager" scopes "02" "B"

theorem reader_start : (agentSystem bearerHashlib "files.write").start readerWorld :=
  ⟨rfl, rfl, rfl, List.nodup_singleton _, readerBearer, ⟨"agent", "reader", {"files.read"}⟩, rfl,
    by decide +kernel, by decide +kernel⟩

/-- A second token that reads, and an upload that is refused. -/
theorem reader_confined : ∃ world : AgentWorld, world.bearers = [readerBearer, managerBearer] ∧ world.performed = [.list] ∧
    Confined bearerHashlib "files.write" world := by
  obtain ⟨world, run, checked⟩ : ∃ world, Run
      ((agentSystem bearerHashlib "files.write").guarded (StaysBelow bearerHashlib "files.write")) readerWorld
      [requestBy readerBearer (managerToken .absent), requestBy managerBearer (.file .list),
        requestBy managerBearer (.file .upload)] world ∧
      decide (world.bearers = [readerBearer, managerBearer] ∧ world.performed = [.list]) = true :=
    Run.of_guarded_check (by decide +kernel)
  have checked := of_decide_eq_true checked
  exact ⟨world, checked.1, checked.2, agent_confined ⟨_, _, reader_start, run⟩⟩

/-- The reader draws itself a token that writes. -/
theorem reader_writes : ∃ world, Reachable (agentSystem bearerHashlib "files.write") world ∧
    ¬ Confined bearerHashlib "files.write" world := by
  obtain ⟨world, run, checked⟩ : ∃ world, Run (agentSystem bearerHashlib "files.write") readerWorld
      [requestBy readerBearer (managerToken (.items ["files.read", "files.write"])),
        requestBy managerBearer (.file .upload)] world ∧ decide (world.performed = [.upload]) = true :=
    Run.of_check (by decide +kernel)
  have checked := of_decide_eq_true checked
  refine ⟨world, ⟨_, _, reader_start, run⟩, fun confined => ?_⟩
  exact confined.performed .upload (checked ▸ List.mem_singleton_self _) rfl

end EspIris.Gateway.Security
