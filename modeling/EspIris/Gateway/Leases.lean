import EspIris.Gateway.Security

/-! A maintenance lease: `renew_maintenance` and `finish_maintenance` with the gate and the endpoint that the lease
holds, for requests that come at any time. -/

namespace EspIris.Gateway.Leases
open Machine (System Reachable Run Invariant)
open Security (Hashlib)

inductive LeaseState
  | detached
  | flashing
  | reattaching
  | verifying
  | expiredQuarantined
  | released
  | aborted
  | verificationFailed
  deriving DecidableEq, Repr

/-- `ACTIVE_MAINTENANCE_STATES`. -/
def LeaseState.isActive : LeaseState → Bool
  | .released | .aborted | .verificationFailed => false
  | _ => true

/-- What `finish_maintenance` reads of a device's status. -/
structure DeviceStatus where
  deviceId : Option String
  bootId : Option String
  firmwareMode : Option String
  appVersion : Option String
  /-- None when it is no list. -/
  capabilityNames : Option (List String)
  deriving DecidableEq, Repr

/-- `expectedDeviceId` is there for an endpoint's lease. -/
structure Evidence where
  expectedDeviceId : Option (Option String)
  verification : Option DeviceStatus
  observationRetries : Option Nat
  lastObservationError : Option String
  deriving DecidableEq, Repr

/-- A row of `maintenance_leases`, without what only documents it. -/
structure Lease where
  deviceId : String
  tokenHash : String
  state : LeaseState
  endpoint : String
  evidence : Evidence
  previousBootId : Option String
  expectedVersion : Option String
  expiresNs : Nat
  finishedNs : Option Nat
  error : Option String
  deriving DecidableEq, Repr

/-- `_authorized_lease`: the row as it is afterwards. -/
def authorizedLease (hashlib : Hashlib) (lease : Lease) (token : String) (now : Nat) : Except String Lease :=
  if token = "" ∨ lease.tokenHash ≠ hashlib.sha256 token then .error "invalid maintenance lease token"
  else if lease.state.isActive = true ∧ lease.expiresNs < now ∧ lease.state ≠ .expiredQuarantined then
    .ok { lease with
          state := .expiredQuarantined
          error := some "maintenance lease expired before completion" }
  else .ok lease

/-- `int(max(30.0, ttl_seconds) * 1_000_000_000)`. -/
def leaseTime (ttlNs : Nat) : Nat := max 30000000000 ttlNs

/-- `renew_maintenance` behind the authorization. -/
def renewed (lease : Lease) (now ttlNs : Nat) : Except String Lease :=
  if lease.state.isActive then
    .ok { lease with
          state := if lease.state = .detached then .flashing else lease.state
          expiresNs := now + leaseTime ttlNs }
  else .error "maintenance lease is already finished"

def Lease.expectedDevice (lease : Lease) : Option String :=
  match lease.evidence.expectedDeviceId with
  | some expected => expected.filter (· ≠ "")
  | none => some lease.deviceId

def isBlank (text : Option String) : Bool := text.all (· = "")

/-- The status that `finish_maintenance` releases the lease for. -/
def Lease.accepts (lease : Lease) (status : DeviceStatus) : Bool :=
  let bootChanged := ! isBlank status.bootId &&
    (isBlank lease.previousBootId || status.bootId != lease.previousBootId)
  let versionMatches := isBlank lease.expectedVersion || status.appVersion == lease.expectedVersion
  status.firmwareMode == some "recovery" && bootChanged && versionMatches &&
    status.capabilityNames.any (·.contains "ota")

/-- An item of the hub's `list_devices`. -/
structure ListedDevice where
  endpoint : String
  deviceId : String
  deriving DecidableEq, Repr

inductive Observed
  | nothing
  | retry (error : String)
  | status (status : DeviceStatus)
  deriving DecidableEq, Repr

def Lease.observe (lease : Lease) (listed : List ListedDevice) (status : Except String DeviceStatus) : Observed :=
  let found := listed.filter fun item =>
    item.endpoint == lease.endpoint && lease.expectedDevice.all (· == item.deviceId)
  match found with
  | [item] =>
    if item.deviceId = "" then .nothing
    else
      match status with
      | .error error => .retry error
      | .ok status => if status.deviceId = some item.deviceId then .status status else .nothing
  | _ => .nothing

/-- A request of `finish_maintenance` once it waits; it works on the row as it was at its beginning. -/
inductive FinishPhase
  | verifying (lease : Lease) (retries : Nat) (lastError : Option String)
  | over
  deriving DecidableEq, Repr

inductive Reservation
  | free
  | own
  /-- Another lease has reserved the endpoint since. -/
  | other
  deriving DecidableEq, Repr

structure Outcome where
  state : LeaseState
  finishedNs : Option Nat
  error : Option String
  deriving DecidableEq, Repr

def Lease.outcome (lease : Lease) : Outcome := ⟨lease.state, lease.finishedNs, lease.error⟩

/-- The row, its endpoint and the requests. As a record: how often the gate and the endpoint were released for the
lease, the final states that requests have reported, and how the lease first ended. -/
structure LeaseWorld where
  lease : Lease
  reserved : Reservation
  finishes : Nat → Option FinishPhase
  started : Nat
  gateReleases : Nat
  endpointReleases : Nat
  reported : List LeaseState
  settled : Option Outcome

inductive LeaseEvent
  | renew (token : String) (ttlNs now : Nat)
  /-- A request begins and runs to its first wait; `closing` is whether the hub is. -/
  | finish (token : String) (abort closing : Bool) (now : Nat)
  | observe (number : Nat) (listed : List ListedDevice) (status : Except String DeviceStatus) (now : Nat)
  /-- The deadline, another error or a cancellation. -/
  | fail (number : Nat) (error : String) (now : Nat)
  | otherReserve
  | otherResume

namespace LeaseWorld
variable (world : LeaseWorld)

def update (lease : Lease) : LeaseWorld :=
  { world with
    lease
    settled := world.settled.orElse fun _ => if lease.state.isActive then none else some lease.outcome }

def setFinish (number : Nat) (phase : FinishPhase) : LeaseWorld :=
  { world with finishes := fun other => if other = number then some phase else world.finishes other }

def report (state : LeaseState) : LeaseWorld := { world with reported := world.reported ++ [state] }

/-- `release_maintenance` in the `finally`. -/
def releaseGate : LeaseWorld := { world with gateReleases := world.gateReleases + 1 }

/-- The exception handler of `finish_maintenance`. -/
def failFinish (number : Nat) (lease : Lease) (retries : Nat) (lastError : Option String) (error : String) (now : Nat) :
    LeaseWorld :=
  (((world.update { world.lease with
      state := .verificationFailed
      evidence := { lease.evidence with observationRetries := some retries, lastObservationError := lastError }
      finishedNs := some now
      error := some error }).report .verificationFailed).releaseGate).setFinish number .over

/-- `finish_maintenance` up to its first wait, behind the authorization. -/
def beginFinish (number : Nat) (lease : Lease) (abort closing : Bool) (now : Nat) : LeaseWorld :=
  if lease.state.isActive then
    let reattaching := world.update { lease with state := .reattaching }
    if reattaching.reserved = .free then
      reattaching.failFinish number lease 0 none "device endpoint is not reserved for maintenance" now
    else
      let resumed := { reattaching with reserved := .free, endpointReleases := reattaching.endpointReleases + 1 }
      if closing then resumed.failFinish number lease 0 none "ESP-Iris Hub is closing" now
      else if abort then
        (((resumed.update { resumed.lease with state := .aborted, finishedNs := some now }).report
          .aborted).releaseGate).setFinish number .over
      else
        (resumed.update { resumed.lease with state := .verifying }).setFinish number (.verifying lease 0 none)
  else (world.report lease.state).setFinish number .over

def next (hashlib : Hashlib) : LeaseEvent → Option LeaseWorld
  | .renew token ttlNs now =>
    match authorizedLease hashlib world.lease token now with
    | .error _ => some world
    | .ok lease =>
      let authorized := world.update lease
      match renewed lease now ttlNs with
      | .error _ => some authorized
      | .ok lease => some (authorized.update lease)
  | .finish token abort closing now =>
    let begun := { world with started := world.started + 1 }
    match authorizedLease hashlib world.lease token now with
    | .error _ => some (begun.setFinish world.started .over)
    | .ok lease => some ((begun.update lease).beginFinish world.started lease abort closing now)
  | .observe number listed status now =>
    match world.finishes number with
    | some (.verifying lease retries lastError) =>
      match lease.observe listed status with
      | .nothing => some world
      | .retry error => some (world.setFinish number (.verifying lease (retries + 1) (some error)))
      | .status found =>
        if lease.accepts found then
          some ((((world.update { world.lease with
              state := .released
              evidence := { lease.evidence with
                verification := some found
                observationRetries := some retries
                lastObservationError := lastError }
              finishedNs := some now
              error := none }).report .released).releaseGate).setFinish number .over)
        else some world
    | _ => none
  | .fail number error now =>
    match world.finishes number with
    | some (.verifying lease retries lastError) => some (world.failFinish number lease retries lastError error now)
    | _ => none
  | .otherReserve => if world.reserved = .free then some { world with reserved := .other } else none
  | .otherResume => if world.reserved = .other then some { world with reserved := .free } else none

end LeaseWorld

def leaseSystem (hashlib : Hashlib) : System LeaseWorld LeaseEvent :=
  .ofPartial
    (fun world => world.lease.state.isActive = true ∧ world.reserved = .own ∧ (∀ number, world.finishes number = none) ∧
      world.started = 0 ∧ world.gateReleases = 0 ∧ world.endpointReleases = 0 ∧ world.reported = [] ∧
      world.settled = none)
    fun world event => world.next hashlib event

def isVerifying : Option FinishPhase → Bool
  | some (.verifying ..) => true
  | _ => false

def LeaseWorld.busy (world : LeaseWorld) : Bool :=
  (List.range world.started).any fun number => isVerifying (world.finishes number)

def OneFinish (hashlib : Hashlib) (world : LeaseWorld) : LeaseEvent → Prop
  | .finish token .. => world.lease.tokenHash = hashlib.sha256 token → world.busy = false
  | _ => True

/-- How the lease ends once stays so: it is what every request reports, and it goes with the one release of the
gate and of the endpoint. -/
structure EndsOnce (world : LeaseWorld) : Prop where
  active : world.settled = none → world.lease.state.isActive = true
  settled : ∀ outcome, world.settled = some outcome → world.lease.outcome = outcome ∧ outcome.state.isActive = false
  reported : ∀ state ∈ world.reported, ∃ outcome, world.settled = some outcome ∧ outcome.state = state
  held : world.settled = none → world.gateReleases = 0 ∧ world.endpointReleases ≤ 1
  ended : world.settled ≠ none → world.gateReleases = 1 ∧ world.endpointReleases = 1

structure LeaseSound (world : LeaseWorld) : Prop where
  ends : EndsOnce world
  bounded : ∀ number, isVerifying (world.finishes number) = true → number < world.started
  single : ∀ number other, isVerifying (world.finishes number) = true → isVerifying (world.finishes other) = true →
    number = other
  unsettled : ∀ number, isVerifying (world.finishes number) = true → world.settled = none ∧ world.endpointReleases = 1
  idle : world.settled = none → (∀ number, isVerifying (world.finishes number) = false) →
    world.reserved = .own ∧ world.endpointReleases = 0

variable {hashlib : Hashlib} {world : LeaseWorld} {lease authorized : Lease}

theorem authorizedLease_cases {token : String} {now : Nat}
    (granted : authorizedLease hashlib lease token now = .ok authorized) :
    lease.tokenHash = hashlib.sha256 token ∧
      (authorized = lease ∨ lease.state.isActive = true ∧ authorized.state.isActive = true) := by
  unfold authorizedLease at granted
  split at granted
  next => contradiction
  next known =>
    rw [not_or, not_not] at known
    refine ⟨known.2, ?_⟩
    split at granted
    next expired =>
      cases granted
      exact .inr ⟨expired.1, rfl⟩
    cases granted
    exact .inl rfl

theorem renewed_active {now ttlNs : Nat} {after : Lease} (done : renewed lease now ttlNs = .ok after) :
    lease.state.isActive = true ∧ after.state.isActive = true := by
  unfold renewed at done
  split at done
  next active =>
    cases done
    refine ⟨active, ?_⟩
    dsimp only
    split
    next => rfl
    next => exact active
  next => contradiction

theorem reported_empty (ends : EndsOnce world) (unsettled : world.settled = none) : world.reported = [] := by
  refine List.eq_nil_iff_forall_not_mem.mpr fun state member => ?_
  obtain ⟨outcome, settled, _⟩ := ends.reported state member
  rw [unsettled] at settled
  contradiction

theorem settle {number : Nat} (inactive : lease.state.isActive = false) (unsettled : world.settled = none)
    (gate : world.gateReleases = 0) (endpoint : world.endpointReleases = 1) (reported : world.reported = [])
    (others : ∀ other, other ≠ number → isVerifying (world.finishes other) = false) :
    LeaseSound ((((world.update lease).report lease.state).releaseGate).setFinish number .over) := by
  have none : ∀ other, isVerifying
      (((((world.update lease).report lease.state).releaseGate).setFinish number .over).finishes other) = false := by
    intro other
    dsimp only [LeaseWorld.setFinish]
    split
    next => rfl
    next different => exact others other different
  have settled : (world.update lease).settled = some lease.outcome := by
    dsimp only [LeaseWorld.update]
    rw [unsettled, inactive]
    rfl
  have final : (((((world.update lease).report lease.state).releaseGate).setFinish number .over)).settled ≠ Option.none :=
    fun still => absurd (settled.symm.trans still) (Option.some_ne_none _)
  refine ⟨⟨fun still => absurd still final, ?_, ?_, fun still => absurd still final, ?_⟩, ?_, ?_, ?_,
    fun still => absurd still final⟩
  · intro outcome same
    cases settled.symm.trans same
    exact ⟨rfl, inactive⟩
  · intro state member
    dsimp only [LeaseWorld.setFinish, LeaseWorld.releaseGate, LeaseWorld.report, LeaseWorld.update] at member
    rw [reported, List.nil_append, List.mem_singleton] at member
    exact ⟨lease.outcome, settled, member.symm⟩
  · refine fun _ => ⟨?_, endpoint⟩
    dsimp only [LeaseWorld.setFinish, LeaseWorld.releaseGate, LeaseWorld.report, LeaseWorld.update]
    rw [gate]
  · exact fun other verifying => absurd ((none other).symm.trans verifying) Bool.false_ne_true
  · exact fun other _ verifying => absurd ((none other).symm.trans verifying) Bool.false_ne_true
  · exact fun other verifying => absurd ((none other).symm.trans verifying) Bool.false_ne_true

theorem LeaseSound.over (sound : LeaseSound world) {number : Nat} (idle : isVerifying (world.finishes number) = false) :
    LeaseSound (world.setFinish number .over) := by
  have same : ∀ other, isVerifying ((world.setFinish number .over).finishes other) = isVerifying (world.finishes other) := by
    intro other
    dsimp only [LeaseWorld.setFinish]
    split
    next isNumber =>
      rw [isNumber, idle]
      rfl
    next => rfl
  refine ⟨⟨sound.ends.active, sound.ends.settled, sound.ends.reported, sound.ends.held, sound.ends.ended⟩, ?_, ?_, ?_, ?_⟩
  · exact fun other verifying => sound.bounded other ((same other).symm.trans verifying)
  · exact fun one other first second => sound.single one other ((same one).symm.trans first) ((same other).symm.trans second)
  · exact fun other verifying => sound.unsettled other ((same other).symm.trans verifying)
  · exact fun still none => sound.idle still fun other => (same other).symm.trans (none other)

theorem LeaseSound.update (sound : LeaseSound world) (unsettled : world.settled = none)
    (active : lease.state.isActive = true) : LeaseSound (world.update lease) := by
  have still : (world.update lease).settled = none := by
    dsimp only [LeaseWorld.update]
    rw [unsettled, active]
    rfl
  refine ⟨⟨fun _ => active, ?_, ?_, fun _ => sound.ends.held unsettled, fun ended => absurd still ended⟩, sound.bounded,
    sound.single, fun number verifying => ⟨still, (sound.unsettled number verifying).2⟩, fun _ => sound.idle unsettled⟩
  · intro outcome settled
    rw [still] at settled
    contradiction
  · intro state member
    dsimp only [LeaseWorld.update] at member
    rw [reported_empty sound.ends unsettled] at member
    exact absurd member List.not_mem_nil

theorem settled_active (ends : EndsOnce world) (active : world.lease.state.isActive = true) : world.settled = none := by
  cases settled : world.settled with
  | none => rfl
  | some outcome =>
    obtain ⟨same, inactive⟩ := ends.settled outcome settled
    rw [← same] at inactive
    exact absurd (active.symm.trans inactive) Bool.true_eq_false.mp

theorem update_same (ends : EndsOnce world) : world.update world.lease = world := by
  unfold LeaseWorld.update
  cases settled : world.settled with
  | none =>
    rw [ends.active settled]
    cases world
    cases settled
    rfl
  | some outcome =>
    cases world
    cases settled
    rfl

section sound
variable (sound : LeaseSound world)
include sound

theorem LeaseSound.authorize {token : String} {now : Nat}
    (granted : authorizedLease hashlib world.lease token now = .ok authorized) :
    LeaseSound (world.update authorized) := by
  rcases (authorizedLease_cases granted).2 with rfl | ⟨before, after⟩
  · rw [update_same sound.ends]
    exact sound
  · exact sound.update (settled_active sound.ends before) after

theorem LeaseSound.begin : LeaseSound { world with started := world.started + 1 } :=
  ⟨⟨sound.ends.active, sound.ends.settled, sound.ends.reported, sound.ends.held, sound.ends.ended⟩,
    fun number verifying => Nat.lt_succ_of_lt (sound.bounded number verifying), sound.single, sound.unsettled, sound.idle⟩

theorem LeaseSound.again (inactive : world.lease.state.isActive = false) :
    LeaseSound (world.report world.lease.state) := by
  refine ⟨⟨sound.ends.active, sound.ends.settled, ?_, sound.ends.held, sound.ends.ended⟩, sound.bounded, sound.single,
    sound.unsettled, sound.idle⟩
  intro state member
  rcases List.mem_append.mp member with old | new
  · exact sound.ends.reported state old
  · cases List.mem_singleton.mp new
    cases settled : world.settled with
    | none => exact absurd (inactive.symm.trans (sound.ends.active settled)) Bool.false_ne_true
    | some outcome =>
      refine ⟨outcome, settled, ?_⟩
      rw [← (sound.ends.settled outcome settled).1]
      rfl

/-- The endpoint is released, and the one request waits for the device. -/
theorem LeaseSound.verify {number : Nat} {snapshot : Lease} (unsettled : world.settled = none)
    (active : lease.state.isActive = true) (endpoint : world.endpointReleases = 0)
    (idle : ∀ other, isVerifying (world.finishes other) = false) (fresh : number < world.started) :
    LeaseSound
      (({ world with reserved := .free, endpointReleases := world.endpointReleases + 1 }.update lease).setFinish number
        (.verifying snapshot 0 none)) := by
  have only : ∀ other, isVerifying
      ((({ world with reserved := .free, endpointReleases := world.endpointReleases + 1 }.update lease).setFinish number
        (.verifying snapshot 0 none)).finishes other) = true → other = number := by
    intro other verifying
    dsimp only [LeaseWorld.setFinish] at verifying
    split at verifying
    next same => exact same
    next => exact absurd ((idle other).symm.trans verifying) Bool.false_ne_true
  have still : ({ world with reserved := .free, endpointReleases := world.endpointReleases + 1 }.update lease).settled =
      none := by
    dsimp only [LeaseWorld.update]
    rw [unsettled, active]
    rfl
  have once : world.endpointReleases + 1 = 1 := by rw [endpoint]
  refine ⟨⟨fun _ => active, ?_, ?_, fun _ => ⟨(sound.ends.held unsettled).1, once.le⟩, fun ended => absurd still ended⟩,
    ?_, ?_, fun other _ => ⟨still, once⟩, ?_⟩
  · intro outcome settled
    cases still.symm.trans settled
  · intro state member
    have member : state ∈ world.reported := member
    rw [reported_empty sound.ends unsettled] at member
    exact absurd member List.not_mem_nil
  · intro other verifying
    rw [only other verifying]
    exact fresh
  · intro one other first second
    rw [only one first, only other second]
  · intro _ none
    have itself := none number
    dsimp only [LeaseWorld.setFinish] at itself
    rw [if_pos rfl] at itself
    contradiction

/-- The endpoint is reserved for the lease, so the request ends it or goes on to verify. -/
theorem LeaseSound.beginFinish {number : Nat} (abort closing : Bool) (now : Nat)
    (idle : ∀ other, isVerifying (world.finishes other) = false) (fresh : number < world.started) :
    LeaseSound (world.beginFinish number world.lease abort closing now) := by
  unfold LeaseWorld.beginFinish
  split
  next active =>
    have unsettled := settled_active sound.ends active
    obtain ⟨own, none⟩ := sound.idle unsettled idle
    have reattaching : LeaseSound (world.update { world.lease with state := .reattaching }) :=
      sound.update unsettled rfl
    have still : (world.update { world.lease with state := .reattaching }).settled = Option.none := by
      dsimp only [LeaseWorld.update]
      rw [unsettled]
      rfl
    have empty := reported_empty reattaching.ends still
    have held := (reattaching.ends.held still).1
    dsimp only
    split
    next free =>
      have reserved : world.reserved = .free := free
      rw [own] at reserved
      contradiction
    split
    next =>
      refine settle rfl still held ?_ empty fun other _ => idle other
      dsimp only [LeaseWorld.update]
      rw [none]
    split
    next =>
      refine settle rfl still held ?_ empty fun other _ => idle other
      dsimp only [LeaseWorld.update]
      rw [none]
    next => exact reattaching.verify still rfl none idle fresh
  next inactive =>
    have idle : isVerifying (world.finishes number) = false := idle number
    exact LeaseSound.over (sound.again (Bool.eq_false_iff.mpr inactive)) idle

theorem LeaseSound.end {number : Nat} (verifying : isVerifying (world.finishes number) = true)
    (inactive : lease.state.isActive = false) :
    LeaseSound ((((world.update lease).report lease.state).releaseGate).setFinish number .over) := by
  obtain ⟨unsettled, endpoint⟩ := sound.unsettled number verifying
  refine settle inactive unsettled (sound.ends.held unsettled).1 endpoint (reported_empty sound.ends unsettled) ?_
  intro other different
  cases isOther : isVerifying (world.finishes other) with
  | false => rfl
  | true => exact absurd (sound.single other number isOther verifying) different

theorem LeaseSound.retry {number retries : Nat} {lastError : Option String}
    (verifying : isVerifying (world.finishes number) = true) :
    LeaseSound (world.setFinish number (.verifying lease retries lastError)) := by
  have same : ∀ other, isVerifying ((world.setFinish number (.verifying lease retries lastError)).finishes other) =
      isVerifying (world.finishes other) := by
    intro other
    dsimp only [LeaseWorld.setFinish]
    split
    next isNumber =>
      rw [isNumber, verifying]
      rfl
    next => rfl
  refine ⟨⟨sound.ends.active, sound.ends.settled, sound.ends.reported, sound.ends.held, sound.ends.ended⟩, ?_, ?_, ?_, ?_⟩
  · exact fun other isOther => sound.bounded other ((same other).symm.trans isOther)
  · exact fun one other first second => sound.single one other ((same one).symm.trans first) ((same other).symm.trans second)
  · exact fun other isOther => sound.unsettled other ((same other).symm.trans isOther)
  · exact fun still none => sound.idle still fun other => (same other).symm.trans (none other)

/-- Another lease takes the endpoint, or gives it back, only when this one has released it. -/
theorem LeaseSound.other (released : world.reserved ≠ .own) (reserved : Reservation) :
    LeaseSound { world with reserved } := by
  refine ⟨⟨sound.ends.active, sound.ends.settled, sound.ends.reported, sound.ends.held, sound.ends.ended⟩, sound.bounded,
    sound.single, sound.unsettled, fun still none => ?_⟩
  exact absurd (sound.idle still none).1 released

theorem LeaseSound.renew {token : String} {ttlNs now : Nat} {after : LeaseWorld}
    (next : world.next hashlib (.renew token ttlNs now) = some after) : LeaseSound after := by
  dsimp only [LeaseWorld.next] at next
  split at next
  next =>
    cases next
    exact sound
  next authorized granted =>
    have authorizedSound := sound.authorize granted
    split at next
    next =>
      cases next
      exact authorizedSound
    next lease done =>
      cases next
      obtain ⟨before, active⟩ := renewed_active done
      exact authorizedSound.update (settled_active authorizedSound.ends before) active

theorem LeaseSound.finish {token : String} {abort closing : Bool} {now : Nat} {after : LeaseWorld}
    (alone : OneFinish hashlib world (.finish token abort closing now))
    (next : world.next hashlib (.finish token abort closing now) = some after) : LeaseSound after := by
  have fresh : isVerifying (world.finishes world.started) = false := by
    cases isNumber : isVerifying (world.finishes world.started) with
    | false => rfl
    | true => exact absurd (sound.bounded world.started isNumber) (Nat.lt_irrefl _)
  dsimp only [LeaseWorld.next] at next
  split at next
  next =>
    cases next
    exact sound.begin.over fresh
  next authorized granted =>
    cases next
    have quiet := alone (authorizedLease_cases granted).1
    have idle : ∀ number, isVerifying (world.finishes number) = false := by
      intro number
      cases verifying : isVerifying (world.finishes number) with
      | false => rfl
      | true =>
        have busy : world.busy = true :=
          List.any_eq_true.mpr ⟨number, List.mem_range.mpr (sound.bounded number verifying), verifying⟩
        exact absurd (quiet.symm.trans busy) Bool.false_ne_true
    exact (sound.begin.authorize granted).beginFinish abort closing now idle (Nat.lt_succ_self _)

end sound

theorem lease_sound (hashlib : Hashlib) : Invariant ((leaseSystem hashlib).guarded (OneFinish hashlib)) LeaseSound where
  start := by
    rintro world ⟨active, reserved, finishes, started, gate, endpoint, reported, settled⟩
    have none : ∀ number, isVerifying (world.finishes number) = false := by
      intro number
      rw [finishes]
      rfl
    refine ⟨⟨fun _ => active, ?_, ?_, fun _ => ⟨gate, endpoint.le.trans (Nat.zero_le _)⟩, fun ended => absurd settled ended⟩,
      ?_, ?_, ?_, fun _ _ => ⟨reserved, endpoint⟩⟩
    · intro outcome some
      rw [settled] at some
      contradiction
    · rw [reported]
      exact fun state member => absurd member List.not_mem_nil
    · exact fun number verifying => absurd ((none number).symm.trans verifying) Bool.false_ne_true
    · exact fun number _ verifying => absurd ((none number).symm.trans verifying) Bool.false_ne_true
    · exact fun number verifying => absurd ((none number).symm.trans verifying) Bool.false_ne_true
  step := by
    rintro world event after sound ⟨alone, next⟩
    have next : world.next hashlib event = some after := next
    cases event with
    | renew token ttlNs now => exact sound.renew next
    | finish token abort closing now => exact sound.finish alone next
    | observe number listed status now =>
      dsimp only [LeaseWorld.next] at next
      split at next
      next lease retries lastError point =>
        have verifying : isVerifying (world.finishes number) = true := by
          rw [point]
          rfl
        split at next
        next =>
          cases next
          exact sound
        next error _ =>
          cases next
          exact sound.retry verifying
        next found _ =>
          split at next
          next =>
            cases next
            exact sound.end verifying rfl
          cases next
          exact sound
      next => contradiction
    | fail number error now =>
      dsimp only [LeaseWorld.next] at next
      split at next
      next lease retries lastError point =>
        cases next
        exact sound.end (by rw [point]; rfl) rfl
      next => contradiction
    | otherReserve =>
      dsimp only [LeaseWorld.next] at next
      split at next
      next free =>
        cases next
        exact sound.other (by rw [free]; exact Reservation.noConfusion) .other
      next => contradiction
    | otherResume =>
      dsimp only [LeaseWorld.next] at next
      split at next
      next taken =>
        cases next
        exact sound.other (by rw [taken]; exact Reservation.noConfusion) .free
      next => contradiction

theorem EndsOnce.active_iff (ends : EndsOnce world) : world.lease.state.isActive = true ↔ world.gateReleases = 0 := by
  cases settled : world.settled with
  | none => exact ⟨fun _ => (ends.held settled).1, fun _ => ends.active settled⟩
  | some outcome =>
    obtain ⟨same, inactive⟩ := ends.settled outcome settled
    have released := (ends.ended (settled ▸ Option.some_ne_none outcome)).1
    have inactive : world.lease.state.isActive = false := by
      rw [← same] at inactive
      exact inactive
    rw [inactive, released]
    exact ⟨fun active => absurd active Bool.false_ne_true, fun zero => absurd zero Nat.one_ne_zero⟩

theorem beginFinish_gateReleases (world : LeaseWorld) (number : Nat) (lease : Lease) (abort closing : Bool) (now : Nat) :
    world.gateReleases ≤ (world.beginFinish number lease abort closing now).gateReleases := by
  unfold LeaseWorld.beginFinish
  split
  next =>
    dsimp only
    split
    next => exact Nat.le_succ _
    split
    next => exact Nat.le_succ _
    split
    next => exact Nat.le_succ _
    next => exact Nat.le_refl _
  next => exact Nat.le_refl _

theorem next_gateReleases {event : LeaseEvent} {after : LeaseWorld} (next : world.next hashlib event = some after) :
    world.gateReleases ≤ after.gateReleases := by
  cases event with
  | renew token ttlNs now =>
    dsimp only [LeaseWorld.next] at next
    split at next
    next =>
      cases next
      exact Nat.le_refl _
    split at next
    next =>
      cases next
      exact Nat.le_refl _
    cases next
    exact Nat.le_refl _
  | finish token abort closing now =>
    dsimp only [LeaseWorld.next] at next
    split at next
    next =>
      cases next
      exact Nat.le_refl _
    next lease _ =>
      cases next
      exact beginFinish_gateReleases ({ world with started := world.started + 1 }.update lease) ..
  | observe number listed status now =>
    dsimp only [LeaseWorld.next] at next
    split at next
    next =>
      split at next
      next =>
        cases next
        exact Nat.le_refl _
      next =>
        cases next
        exact Nat.le_refl _
      split at next
      next =>
        cases next
        exact Nat.le_succ _
      cases next
      exact Nat.le_refl _
    next => contradiction
  | fail number error now =>
    dsimp only [LeaseWorld.next] at next
    split at next
    next =>
      cases next
      exact Nat.le_succ _
    next => contradiction
  | otherReserve =>
    dsimp only [LeaseWorld.next] at next
    split at next
    next =>
      cases next
      exact Nat.le_refl _
    next => contradiction
  | otherResume =>
    dsimp only [LeaseWorld.next] at next
    split at next
    next =>
      cases next
      exact Nat.le_refl _
    next => contradiction

/-- Whatever is asked of a lease, it ends once. -/
theorem lease_ends_once (hashlib : Hashlib) {world : LeaseWorld}
    (reached : Reachable ((leaseSystem hashlib).guarded (OneFinish hashlib)) world) : EndsOnce world :=
  ((lease_sound hashlib).reachable reached).ends

instance (hashlib : Hashlib) (world : LeaseWorld) (event : LeaseEvent) : Decidable (OneFinish hashlib world event) := by
  unfold OneFinish
  split <;> infer_instance

def leaseHashlib : Hashlib where
  sha256 := fun text => if text = "t" then "e3b98a4da31a127d4bde6e43033f66ba274cab0eb7eb1c70ec41402bf6273dd8" else ""
  pbkdf2Hmac := fun _ _ _ => ""

/-- A lease for the device `d` at the port 1-1, with the token `t`. -/
def detachedLease : Lease where
  deviceId := "d"
  tokenHash := "e3b98a4da31a127d4bde6e43033f66ba274cab0eb7eb1c70ec41402bf6273dd8"
  state := .detached
  endpoint := "usb:location=1-1"
  evidence := ⟨none, none, none, none⟩
  previousBootId := some "1"
  expectedVersion := none
  expiresNs := 300
  finishedNs := none
  error := none

def detachedWorld : LeaseWorld where
  lease := detachedLease
  reserved := .own
  finishes := fun _ => none
  started := 0
  gateReleases := 0
  endpointReleases := 0
  reported := []
  settled := none

def reattached (number now : Nat) : LeaseEvent :=
  .observe number [⟨"usb:location=1-1", "d"⟩] (.ok ⟨some "d", some "2", some "recovery", none, some ["ota"]⟩) now

theorem detachedWorld_start : (leaseSystem leaseHashlib).start detachedWorld :=
  ⟨rfl, rfl, fun _ => rfl, rfl, rfl, rfl, rfl, rfl⟩

/-- A completed lease; the request to abort it comes too late. -/
theorem completed_once : ∃ world : LeaseWorld, world.reported = [.released, .released] ∧ EndsOnce world := by
  obtain ⟨world, run, checked⟩ : ∃ world, Run ((leaseSystem leaseHashlib).guarded (OneFinish leaseHashlib)) detachedWorld
      [.renew "t" 0 100, .finish "t" false false 110, reattached 0 120, .finish "t" true false 130] world ∧
      decide (world.reported = [.released, .released]) = true := Run.of_guarded_check (by decide +kernel)
  exact ⟨world, of_decide_eq_true checked, lease_ends_once leaseHashlib ⟨_, _, detachedWorld_start, run⟩⟩

/-- A second request while the first verifies fails the lease, and the first then releases it. -/
theorem failed_lease_released : ∃ world, Reachable (leaseSystem leaseHashlib) world ∧
    world.settled = some ⟨.verificationFailed, some 120, some "device endpoint is not reserved for maintenance"⟩ ∧
    world.lease.outcome = ⟨.released, some 130, none⟩ ∧ ¬ EndsOnce world := by
  obtain ⟨world, run, checked⟩ : ∃ world, Run (leaseSystem leaseHashlib) detachedWorld
      [.finish "t" false false 110, .finish "t" true false 120, reattached 0 130] world ∧
      decide (world.settled = some ⟨.verificationFailed, some 120, some "device endpoint is not reserved for maintenance"⟩ ∧
        world.lease.outcome = ⟨.released, some 130, none⟩) = true := Run.of_check (by decide +kernel)
  obtain ⟨settled, outcome⟩ := of_decide_eq_true checked
  refine ⟨world, ⟨_, _, detachedWorld_start, run⟩, settled, outcome, fun ends => ?_⟩
  have same := (ends.settled _ settled).1
  rw [outcome] at same
  exact absurd (congrArg Outcome.state same) LeaseState.noConfusion

end EspIris.Gateway.Leases
