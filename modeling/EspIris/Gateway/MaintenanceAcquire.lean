import EspIris.Gateway.Leases

/-! `acquire_maintenance` and `acquire_endpoint_maintenance` of the gateway behind the gate, with the hub's
`quiesce_endpoint` and their rollback. A step runs to the next place at which the call can raise. The hub closes only
when no request is left. -/

namespace EspIris.Gateway.MaintenanceAcquire
open Machine (System Reachable Run Invariant)
open Leases (Lease Reservation isBlank leaseTime)

inductive Target
  | device (deviceId : String)
  | endpoint (expectedDeviceId : Option String)
  deriving DecidableEq, Repr

structure AcquireCall where
  target : Target
  endpoint : String
  expectedVersion : String
  ttlNs : Nat
  deriving DecidableEq, Repr

/-- `device_id`, or `gate_key`. -/
def AcquireCall.gateKey (call : AcquireCall) : String :=
  match call.target with
  | .device deviceId => deviceId
  | .endpoint expectedDeviceId => expectedDeviceId.getD ("endpoint::" ++ call.endpoint)

def AcquireCall.isUsb (call : AcquireCall) : Bool := "usb:".toList.isPrefixOf call.endpoint.toList

structure CrashReport where
  coreDumpPresent : Bool
  coreDumpValid : Bool
  coreDumpSize : Nat
  deriving DecidableEq, Repr

def CrashReport.hasDump (report : CrashReport) : Bool := report.coreDumpPresent && report.coreDumpValid

inductive AcquirePoint
  /-- The gate, before the `try`. -/
  | gate
  | status
  | crashReport
  /-- `save_artifact` of the report. -/
  | crashIndex (hasDump : Bool)
  /-- `preserve_coredump` asks for the report again. -/
  | dumpReport
  | dumpChunk (total read : Nat)
  | dumpArtifact
  /-- `quiesce_endpoint` up to its reservation. -/
  | quiesce
  /-- The supervisor's task is cancelled and awaited. -/
  | draining (deviceId : Option String)
  | publishing
  /-- `endpoint` is set from here on. -/
  | insert
  | commit
  | audit
  | broadcast
  | returned
  | raised (error : String)
  deriving DecidableEq, Repr

def AcquirePoint.isOpen : AcquirePoint → Bool
  | .returned | .raised _ => false
  | _ => true

/-- The local variable `endpoint` is not None. -/
def AcquirePoint.isQuiesced : AcquirePoint → Bool
  | .insert | .commit | .audit | .broadcast => true
  | _ => false

def AcquirePoint.isStored : AcquirePoint → Bool
  | .commit | .audit | .broadcast => true
  | _ => false

/-- The call and its endpoint in the hub. `gate` is whether this call holds the gate; `before` is a record: the
endpoint was under supervision when the call began. -/
structure AcquireWorld where
  point : AcquirePoint
  gate : Bool
  previousBootId : Option String
  lease : Option Lease
  reserved : Reservation
  supervised : Bool
  /-- Of the endpoint's state. -/
  deviceId : Option String
  before : Bool

inductive AcquireEvent
  /-- The gate is acquired; an endpoint's device is live or cached with a boot id. -/
  | acquired (live : Bool) (cached : Option String)
  | status (deviceId bootId : Option String)
  | crashReport (report : CrashReport)
  | crashIndex
  | dumpReport (report : CrashReport)
  | dumpChunk (total length : Nat)
  | dumpArtifact
  | quiesce
  /-- A cancellation of the call is suppressed here as well. -/
  | drained
  | published
  | inserted (tokenHash : String) (now : Nat)
  | committed
  | audited
  | broadcast
  /-- The code raises where it is, or the call is cancelled there. -/
  | raise (error : String)
  /-- The commit raises, and the database takes the row back. -/
  | rolledBack (error : String)
  /-- Discovery adds a supervisor. -/
  | supervise
  | hello (deviceId : String)
  /-- `quiesce_endpoint` and `resume_maintenance_endpoint` for another lease. -/
  | otherQuiesce
  | otherResume

namespace AcquireWorld
variable (world : AcquireWorld)

/-- `resume_maintenance_endpoint`, which does not ask whose reservation it is; its error is suppressed. -/
def resumeEndpoint : AcquireWorld :=
  if world.reserved = .free then world else { world with reserved := .free, supervised := true }

def rollback (error : String) : AcquireWorld :=
  let resumed := if world.point.isQuiesced then world.resumeEndpoint else world
  { resumed with gate := false, point := .raised error }

/-- `quiesce_endpoint` behind the supervisor's task. -/
def detach (deviceId : Option String) : AcquireWorld :=
  { world with point := if isBlank deviceId then .insert else .publishing }

def quiesceEndpoint (call : AcquireCall) : AcquireWorld :=
  if call.isUsb = false then world.rollback "host maintenance is supported only for local USB devices"
  else if world.reserved ≠ .free then world.rollback "device endpoint is already reserved for maintenance"
  else
    let reserved := { world with reserved := .own }
    if world.supervised then { reserved with supervised := false, point := .draining world.deviceId }
    else reserved.detach world.deviceId

/-- The row of `create_maintenance_lease`. -/
def newLease (call : AcquireCall) (tokenHash : String) (now : Nat) : Lease where
  deviceId := call.gateKey
  tokenHash
  state := .detached
  endpoint := call.endpoint
  evidence :=
    { expectedDeviceId :=
        match call.target with
        | .device _ => none
        | .endpoint expectedDeviceId => some expectedDeviceId
      verification := none
      observationRetries := none
      lastObservationError := none }
  previousBootId := world.previousBootId.filter (· ≠ "")
  expectedVersion := some call.expectedVersion
  expiresNs := now + leaseTime call.ttlNs
  finishedNs := none
  error := none

def next (call : AcquireCall) : AcquireEvent → Option AcquireWorld
  | .acquired live cached =>
    match world.point, call.target with
    | .gate, .device _ => some { world with gate := true, point := .status }
    | .gate, .endpoint none => some { world with gate := true, point := .quiesce }
    | .gate, .endpoint (some _) =>
      if live then some { world with gate := true, point := .status }
      else some { world with gate := true, previousBootId := cached, point := .quiesce }
    | _, _ => none
  | .status deviceId bootId =>
    match world.point, call.target with
    | .status, .device requested =>
      if deviceId.getD "" ≠ requested then
        some (world.rollback "device status did not confirm the requested Device ID")
      else if isBlank bootId then some (world.rollback "device status did not provide a Boot ID")
      else some { world with previousBootId := bootId, point := .crashReport }
    | .status, .endpoint _ => some { world with previousBootId := bootId, point := .crashReport }
    | _, _ => none
  | .crashReport report =>
    match world.point with
    | .crashReport => some { world with point := .crashIndex report.hasDump }
    | _ => none
  | .crashIndex =>
    match world.point with
    | .crashIndex hasDump => some { world with point := if hasDump then .dumpReport else .quiesce }
    | _ => none
  | .dumpReport report =>
    match world.point with
    | .dumpReport =>
      if report.hasDump then
        some { world with point := if report.coreDumpSize = 0 then .dumpArtifact else .dumpChunk report.coreDumpSize 0 }
      else some (world.rollback "a valid core dump could not be preserved")
    | _ => none
  | .dumpChunk returned length =>
    match world.point with
    | .dumpChunk total read =>
      if returned ≠ total ∨ length = 0 then
        some (world.rollback "coredump preservation stopped before completion")
      else
        some { world with
          point := if read + length < total then .dumpChunk total (read + length) else .dumpArtifact }
    | _ => none
  | .dumpArtifact =>
    match world.point with
    | .dumpArtifact => some { world with point := .quiesce }
    | _ => none
  | .quiesce =>
    match world.point with
    | .quiesce => some (world.quiesceEndpoint call)
    | _ => none
  | .drained =>
    match world.point with
    | .draining deviceId => some (world.detach deviceId)
    | _ => none
  | .published =>
    match world.point with
    | .publishing => some { world with point := .insert }
    | _ => none
  | .inserted tokenHash now =>
    match world.point with
    | .insert => some { world with lease := some (world.newLease call tokenHash now), point := .commit }
    | _ => none
  | .committed =>
    match world.point with
    | .commit => some { world with point := .audit }
    | _ => none
  | .audited =>
    match world.point with
    | .audit => some { world with point := .broadcast }
    | _ => none
  | .broadcast =>
    match world.point with
    | .broadcast => some { world with point := .returned }
    | _ => none
  | .raise error =>
    match world.point with
    | .gate => some { world with point := .raised error }
    | .returned | .raised _ => none
    | _ => some (world.rollback error)
  | .rolledBack error =>
    match world.point with
    | .commit => some ({ world with lease := none }.rollback error)
    | _ => none
  | .supervise => if world.reserved = .free then some { world with supervised := true } else none
  | .hello deviceId => if world.supervised then some { world with deviceId := some deviceId } else none
  | .otherQuiesce =>
    if world.reserved = .free then some { world with reserved := .other, supervised := false } else none
  | .otherResume =>
    if world.reserved ≠ .free then some { world with reserved := .free, supervised := true } else none

end AcquireWorld

def acquireSystem (call : AcquireCall) : System AcquireWorld AcquireEvent :=
  .ofPartial
    (fun world => world.point = .gate ∧ world.gate = false ∧ world.previousBootId = none ∧ world.lease = none ∧
      world.before = world.supervised ∧ (world.supervised = true → world.reserved = .free))
    fun world event => world.next call event

structure Undone (world : AcquireWorld) : Prop where
  gate : world.gate = false
  endpoint : world.reserved = .free
  supervised : world.before = true → world.supervised = true
  lease : ∀ lease, world.lease = some lease → lease.state.isActive = false

def AcquireEvent.takesBack : AcquireEvent → Bool
  | .rolledBack _ => true
  | _ => false

/-- The rollback reaches everything: behind `quiesce_endpoint` and before the row is written, or with the row taken
back, or where the endpoint is not reserved. -/
def Revertible (world : AcquireWorld) (event : AcquireEvent) : Prop :=
  if world.point.isQuiesced then world.point.isStored = false ∨ event.takesBack = true else world.reserved = .free

structure AcquireSound (world : AcquireWorld) : Prop where
  gate : world.point = .gate → world.gate = false
  supervised : world.before = true → world.supervised = true ∨ world.reserved ≠ .free
  stored : world.point.isStored = true → ∃ lease, world.lease = some lease ∧ lease.state.isActive = true
  unstored : world.point.isOpen = true → world.point.isStored = false → world.lease = none

variable {call : AcquireCall} {world after : AcquireWorld} {event : AcquireEvent}

theorem resumeEndpoint_free (world : AcquireWorld) : world.resumeEndpoint.reserved = .free := by
  unfold AcquireWorld.resumeEndpoint
  split
  next free => exact free
  next => rfl

theorem resumeEndpoint_lease (world : AcquireWorld) :
    world.resumeEndpoint.lease = world.lease ∧ world.resumeEndpoint.before = world.before := by
  unfold AcquireWorld.resumeEndpoint
  split
  next => exact ⟨rfl, rfl⟩
  next => exact ⟨rfl, rfl⟩

theorem resumeEndpoint_supervised (supervised : world.before = true → world.supervised = true ∨ world.reserved ≠ .free)
    (before : world.before = true) : world.resumeEndpoint.supervised = true := by
  unfold AcquireWorld.resumeEndpoint
  split
  next free => exact (supervised before).resolve_right fun reserved => reserved free
  next => rfl

theorem rollback_lease (world : AcquireWorld) (error : String) : (world.rollback error).lease = world.lease := by
  dsimp only [AcquireWorld.rollback]
  split
  next => exact (resumeEndpoint_lease world).1
  next => rfl

theorem rollback_before (world : AcquireWorld) (error : String) : (world.rollback error).before = world.before := by
  dsimp only [AcquireWorld.rollback]
  split
  next => exact (resumeEndpoint_lease world).2
  next => rfl

theorem rollback_resumed (supervised : world.before = true → world.supervised = true ∨ world.reserved ≠ .free)
    (quiesced : world.point.isQuiesced = true) (error : String) : (world.rollback error).reserved = .free ∧
      (world.before = true → (world.rollback error).supervised = true) := by
  dsimp only [AcquireWorld.rollback]
  rw [if_pos quiesced]
  exact ⟨resumeEndpoint_free world, resumeEndpoint_supervised supervised⟩

theorem AcquireSound.rollback (supervised : world.before = true → world.supervised = true ∨ world.reserved ≠ .free)
    (error : String) : AcquireSound (world.rollback error) := by
  have point : (world.rollback error).point = .raised error := rfl
  refine ⟨?_, ?_, ?_, ?_⟩
  · exact fun isGate => absurd (point.symm.trans isGate) AcquirePoint.noConfusion
  · intro before
    rw [rollback_before] at before
    dsimp only [AcquireWorld.rollback]
    split
    next => exact .inl (resumeEndpoint_supervised supervised before)
    next => exact supervised before
  · exact fun stored => absurd stored Bool.false_ne_true
  · exact fun isOpen => absurd isOpen Bool.false_ne_true

def AcquirePoint.isEarly (point : AcquirePoint) : Bool := point.isOpen && ! point.isStored

inductive AcquireStep (world : AcquireWorld) : AcquireWorld → Prop
  | advance (gate : Bool) (previousBootId : Option String) {earlier : AcquirePoint} (point : AcquirePoint)
      (was : world.point = earlier) (early : earlier.isEarly = true) (still : point.isEarly = true)
      (behind : point ≠ .gate) : AcquireStep world { world with gate, previousBootId, point }
  | reserve (supervised : Bool) (point : AcquirePoint) (was : world.point = .quiesce) (still : point.isEarly = true)
      (behind : point ≠ .gate) : AcquireStep world { world with reserved := .own, supervised, point }
  | insert (lease : Lease) (active : lease.state.isActive = true) :
      AcquireStep world { world with lease := some lease, point := .commit }
  | behind {earlier : AcquirePoint} (point : AcquirePoint) (was : world.point = earlier) (stored : earlier.isStored = true)
      (still : point.isStored = true ∨ point = .returned) : AcquireStep world { world with point }
  | rollback (error : String) : AcquireStep world (world.rollback error)
  /-- The gate is refused. -/
  | refused (error : String) (was : world.point = .gate) : AcquireStep world { world with point := .raised error }
  /-- The endpoint stays supervised or becomes reserved. -/
  | endpoint (reserved : Reservation) (supervised : Bool) (deviceId : Option String)
      (kept : supervised = true ∨ reserved ≠ .free) : AcquireStep world { world with reserved, supervised, deviceId }

theorem detach_step (deviceId : Option String) {earlier : AcquirePoint} (was : world.point = earlier)
    (early : earlier.isEarly = true) : AcquireStep world (world.detach deviceId) := by
  unfold AcquireWorld.detach
  split
  next => exact .advance world.gate world.previousBootId .insert was early rfl AcquirePoint.noConfusion
  next => exact .advance world.gate world.previousBootId .publishing was early rfl AcquirePoint.noConfusion

theorem quiesceEndpoint_step (was : world.point = .quiesce) : AcquireStep world (world.quiesceEndpoint call) := by
  unfold AcquireWorld.quiesceEndpoint
  split
  next => exact .rollback _
  split
  next => exact .rollback _
  dsimp only
  split
  next => exact .reserve false _ was rfl AcquirePoint.noConfusion
  unfold AcquireWorld.detach
  split
  next => exact .reserve world.supervised .insert was rfl AcquirePoint.noConfusion
  next => exact .reserve world.supervised .publishing was rfl AcquirePoint.noConfusion

theorem step_cases (keeps : event.takesBack = false) (next : world.next call event = some after) :
    AcquireStep world after := by
  cases event with
  | acquired live cached =>
    dsimp only [AcquireWorld.next] at next
    split at next
    next _ _ point _ =>
      cases next
      exact .advance true world.previousBootId _ point rfl rfl AcquirePoint.noConfusion
    next _ _ point _ =>
      cases next
      exact .advance true world.previousBootId _ point rfl rfl AcquirePoint.noConfusion
    next _ _ point _ =>
      split at next
      next =>
        cases next
        exact .advance true world.previousBootId _ point rfl rfl AcquirePoint.noConfusion
      cases next
      exact .advance true cached _ point rfl rfl AcquirePoint.noConfusion
    next => contradiction
  | status deviceId bootId =>
    dsimp only [AcquireWorld.next] at next
    split at next
    next _ _ point _ =>
      split at next
      next =>
        cases next
        exact .rollback _
      split at next
      next =>
        cases next
        exact .rollback _
      cases next
      exact .advance world.gate bootId _ point rfl rfl AcquirePoint.noConfusion
    next _ _ point _ =>
      cases next
      exact .advance world.gate bootId _ point rfl rfl AcquirePoint.noConfusion
    next => contradiction
  | crashReport _ | dumpArtifact | published =>
    dsimp only [AcquireWorld.next] at next
    split at next
    next point =>
      cases next
      exact .advance world.gate world.previousBootId _ point rfl rfl AcquirePoint.noConfusion
    next => contradiction
  | crashIndex =>
    dsimp only [AcquireWorld.next] at next
    split at next
    next hasDump point =>
      cases next
      cases hasDump with
      | false => exact .advance world.gate world.previousBootId .quiesce point rfl rfl AcquirePoint.noConfusion
      | true => exact .advance world.gate world.previousBootId .dumpReport point rfl rfl AcquirePoint.noConfusion
    next => contradiction
  | dumpReport report =>
    dsimp only [AcquireWorld.next] at next
    split at next
    next point =>
      split at next
      next =>
        cases next
        split
        next => exact .advance world.gate world.previousBootId _ point rfl rfl AcquirePoint.noConfusion
        next => exact .advance world.gate world.previousBootId _ point rfl rfl AcquirePoint.noConfusion
      cases next
      exact .rollback _
    next => contradiction
  | dumpChunk returned length =>
    dsimp only [AcquireWorld.next] at next
    split at next
    next total read point =>
      split at next
      next =>
        cases next
        exact .rollback _
      cases next
      split
      next => exact .advance world.gate world.previousBootId _ point rfl rfl AcquirePoint.noConfusion
      next => exact .advance world.gate world.previousBootId _ point rfl rfl AcquirePoint.noConfusion
    next => contradiction
  | quiesce =>
    dsimp only [AcquireWorld.next] at next
    split at next
    next point =>
      cases next
      exact quiesceEndpoint_step point
    next => contradiction
  | drained =>
    dsimp only [AcquireWorld.next] at next
    split at next
    next deviceId point =>
      cases next
      exact detach_step deviceId point rfl
    next => contradiction
  | inserted tokenHash now =>
    dsimp only [AcquireWorld.next] at next
    split at next
    next =>
      cases next
      exact .insert _ rfl
    next => contradiction
  | committed | audited =>
    dsimp only [AcquireWorld.next] at next
    split at next
    next point =>
      cases next
      exact .behind _ point rfl (.inl rfl)
    next => contradiction
  | broadcast =>
    dsimp only [AcquireWorld.next] at next
    split at next
    next point =>
      cases next
      exact .behind _ point rfl (.inr rfl)
    next => contradiction
  | raise error =>
    dsimp only [AcquireWorld.next] at next
    split at next
    next point =>
      cases next
      exact .refused error point
    next => contradiction
    next => contradiction
    cases next
    exact .rollback error
  | rolledBack => contradiction
  | supervise =>
    dsimp only [AcquireWorld.next] at next
    split at next
    next =>
      cases next
      exact .endpoint world.reserved true world.deviceId (.inl rfl)
    next => contradiction
  | hello deviceId =>
    dsimp only [AcquireWorld.next] at next
    split at next
    next supervised =>
      cases next
      exact .endpoint world.reserved world.supervised _ (.inl supervised)
    next => contradiction
  | otherQuiesce =>
    dsimp only [AcquireWorld.next] at next
    split at next
    next =>
      cases next
      exact .endpoint .other false world.deviceId (.inr Reservation.noConfusion)
    next => contradiction
  | otherResume =>
    dsimp only [AcquireWorld.next] at next
    split at next
    next =>
      cases next
      exact .endpoint .free true world.deviceId (.inl rfl)
    next => contradiction

theorem takesBack_cases (takes : event.takesBack = true) (next : world.next call event = some after) :
    ∃ error, world.point = .commit ∧ after = { world with lease := none }.rollback error := by
  cases event with
  | rolledBack error =>
    dsimp only [AcquireWorld.next] at next
    split at next
    next point =>
      cases next
      exact ⟨error, point, rfl⟩
    next => contradiction
  | _ => contradiction

theorem isEarly_iff {point : AcquirePoint} : point.isEarly = true ↔ point.isOpen = true ∧ point.isStored = false := by
  unfold AcquirePoint.isEarly
  rw [Bool.and_eq_true, Bool.not_eq_true']

theorem AcquireSound.empty (sound : AcquireSound world) {earlier : AcquirePoint} (was : world.point = earlier)
    (early : earlier.isEarly = true) : world.lease = none := by
  rw [← was, isEarly_iff] at early
  exact sound.unstored early.1 early.2

theorem AcquireSound.step (sound : AcquireSound world) (step : AcquireStep world after) : AcquireSound after := by
  cases step with
  | advance gate previousBootId point was early still behind =>
    refine ⟨fun isGate => absurd isGate behind, sound.supervised, fun stored => ?_, fun _ _ => sound.empty was early⟩
    exact absurd ((isEarly_iff.mp still).2.symm.trans stored) Bool.false_ne_true
  | reserve supervised point was still behind =>
    refine ⟨fun isGate => absurd isGate behind, fun _ => .inr Reservation.noConfusion, fun stored => ?_,
      fun _ _ => sound.empty was rfl⟩
    exact absurd ((isEarly_iff.mp still).2.symm.trans stored) Bool.false_ne_true
  | insert lease active =>
    refine ⟨fun isGate => absurd isGate AcquirePoint.noConfusion, sound.supervised, fun _ => ⟨lease, rfl, active⟩, ?_⟩
    exact fun _ unstored => absurd unstored Bool.noConfusion
  | behind point was stored still =>
    rw [← was] at stored
    refine ⟨fun isGate => ?_, sound.supervised, fun _ => sound.stored stored, fun isOpen unstored => ?_⟩
    · obtain still | rfl := still
      · have isGate : point = .gate := isGate
        rw [isGate] at still
        contradiction
      · contradiction
    · obtain still | rfl := still
      · exact absurd (unstored.symm.trans still) Bool.false_ne_true
      · contradiction
  | rollback error => exact .rollback sound.supervised error
  | refused error was =>
    refine ⟨fun isGate => absurd isGate AcquirePoint.noConfusion, sound.supervised, ?_, ?_⟩
    · exact fun stored => absurd stored Bool.noConfusion
    · exact fun isOpen => absurd isOpen Bool.noConfusion
  | endpoint reserved supervised deviceId kept => exact ⟨sound.gate, fun _ => kept, sound.stored, sound.unstored⟩

theorem acquire_sound (call : AcquireCall) : Invariant (acquireSystem call) AcquireSound where
  start := by
    rintro world ⟨point, gate, _, lease, before, supervised⟩
    refine ⟨fun _ => gate, ?_, ?_, fun _ _ => lease⟩
    · intro wasBefore
      rw [before] at wasBefore
      exact .inl wasBefore
    · rw [point]
      exact fun stored => absurd stored Bool.noConfusion
  step := by
    intro world event after sound next
    cases takes : event.takesBack with
    | false => exact sound.step (step_cases takes next)
    | true =>
      obtain ⟨error, -, rfl⟩ := takesBack_cases takes next
      exact @AcquireSound.rollback { world with lease := none } sound.supervised error

/-- Where the call raises, its rollback runs; before the gate there is nothing to undo. -/
theorem raised_cases {error : String} (step : AcquireStep world after) (isOpen : world.point.isOpen = true)
    (raised : after.point = .raised error) :
    (world.point = .gate ∧ after = { world with point := .raised error }) ∨ after = world.rollback error := by
  cases step with
  | advance gate previousBootId point was early still behind =>
    have raised : point = .raised error := raised
    rw [raised] at still
    contradiction
  | reserve supervised point was still behind =>
    have raised : point = .raised error := raised
    rw [raised] at still
    contradiction
  | insert lease active => cases raised
  | behind point was stored still =>
    have raised : point = .raised error := raised
    rw [raised] at still
    obtain still | still := still
    · contradiction
    · contradiction
  | rollback other =>
    cases raised
    exact .inr rfl
  | refused other was =>
    cases raised
    exact .inl ⟨was, rfl⟩
  | endpoint reserved supervised deviceId kept =>
    have raised : world.point = .raised error := raised
    rw [raised] at isOpen
    contradiction

theorem AcquireSound.undone (sound : AcquireSound world) (error : String) (isOpen : world.point.isOpen = true)
    (keeps : event.takesBack = false) : Undone (world.rollback error) ↔ Revertible world event := by
  unfold Revertible
  split
  next quiesced =>
    have resumed := rollback_resumed sound.supervised quiesced error
    constructor
    · intro undone
      refine .inl ?_
      by_contra stored
      obtain ⟨lease, isLease, active⟩ := sound.stored (Bool.of_not_eq_false stored)
      have inactive := undone.lease lease ((rollback_lease world error).trans isLease)
      exact absurd (inactive.symm.trans active) Bool.false_ne_true
    · intro revertible
      have unstored := revertible.resolve_right (Bool.eq_false_iff.mp keeps)
      refine ⟨rfl, resumed.1, fun before => resumed.2 ((rollback_before world error).symm.trans before), ?_⟩
      intro lease isLease
      rw [rollback_lease, sound.unstored isOpen unstored] at isLease
      contradiction
  next early =>
    have same : world.rollback error = { world with gate := false, point := .raised error } := by
      dsimp only [AcquireWorld.rollback]
      rw [if_neg early]
    have unstored : world.point.isStored = false := by
      cases point : world.point with
      | commit | audit | broadcast => exact absurd (congrArg AcquirePoint.isQuiesced point) early
      | _ => rfl
    rw [same]
    refine ⟨fun undone => undone.endpoint, fun free => ⟨rfl, free, ?_, ?_⟩⟩
    · exact fun before => (sound.supervised before).resolve_right fun reserved => reserved free
    · intro lease isLease
      cases (sound.unstored isOpen unstored).symm.trans isLease

/-- A call that raises undoes what it has done, if it raises where its rollback knows of everything. -/
theorem acquisition_undone {call : AcquireCall} {world after : AcquireWorld}
    (reached : Reachable (acquireSystem call) world) {event : AcquireEvent} {error : String}
    (next : world.next call event = some after) (isOpen : world.point.isOpen = true)
    (raised : after.point = .raised error) : Undone after ↔ Revertible world event := by
  have sound := (acquire_sound call).reachable reached
  cases takes : event.takesBack with
  | false =>
    obtain ⟨atGate, rfl⟩ | rfl := raised_cases (step_cases takes next) isOpen raised
    · have same : { world with point := .raised error } = world.rollback error := by
        unfold AcquireWorld.rollback
        rw [atGate, ← sound.gate atGate]
        rfl
      rw [same]
      exact sound.undone error isOpen takes
    · exact sound.undone error isOpen takes
  | true =>
    obtain ⟨other, point, rfl⟩ := takesBack_cases takes next
    have quiesced : world.point.isQuiesced = true := by
      rw [point]
      rfl
    have resumed := @rollback_resumed { world with lease := none } sound.supervised quiesced other
    refine iff_of_true ⟨rfl, resumed.1, fun before => resumed.2 ((rollback_before _ other).symm.trans before), ?_⟩ ?_
    · intro lease isLease
      rw [rollback_lease] at isLease
      contradiction
    · unfold Revertible
      rw [if_pos quiesced]
      exact .inr takes

/-- A call for the device `d` at the port 1-1, which is connected. -/
def deviceCall : AcquireCall := ⟨.device "d", "usb:location=1-1", "", 300000000000⟩

def connected : AcquireWorld := ⟨.gate, false, none, none, .free, true, some "d", true⟩

theorem connected_start : (acquireSystem deviceCall).start connected := ⟨rfl, rfl, rfl, rfl, rfl, fun _ => rfl⟩

def quiescing : List AcquireEvent :=
  [.acquired true none, .status (some "d") (some "1"), .crashReport ⟨false, false, 0⟩, .crashIndex, .quiesce]

/-- The insert fails: the endpoint is under supervision again. -/
theorem failed_insert_undone : ∃ after : AcquireWorld, after.before = true ∧ Undone after := by
  obtain ⟨world, run, checked⟩ : ∃ world, Run (acquireSystem deviceCall) connected
      (quiescing ++ [.drained, .published]) world ∧ decide (world.point = .insert ∧ world.before = true) = true :=
    Run.of_check (by decide +kernel)
  obtain ⟨point, before⟩ := of_decide_eq_true checked
  have next : world.next deviceCall (.raise "database is locked") = some (world.rollback "database is locked") := by
    dsimp only [AcquireWorld.next]
    rw [point]
  have isOpen : world.point.isOpen = true := by
    rw [point]
    rfl
  have revertible : Revertible world (.raise "database is locked") := by
    unfold Revertible
    rw [point]
    exact .inl rfl
  exact ⟨_, (rollback_before world _).trans before,
    (acquisition_undone ⟨_, _, connected_start, run⟩ next isOpen rfl).mpr revertible⟩

/-- The supervisor's task ends with an error while the endpoint is reserved. -/
theorem failed_quiesce_stays : ∃ after, Reachable (acquireSystem deviceCall) after ∧
    after.point = .raised "database is locked" ∧ after.reserved = .own ∧ after.supervised = false ∧ ¬ Undone after := by
  obtain ⟨after, run, checked⟩ : ∃ after, Run (acquireSystem deviceCall) connected
      (quiescing ++ [.raise "database is locked"]) after ∧
      decide (after.point = .raised "database is locked" ∧ after.reserved = .own ∧ after.supervised = false) = true :=
    Run.of_check (by decide +kernel)
  obtain ⟨point, reserved, unsupervised⟩ := of_decide_eq_true checked
  refine ⟨after, ⟨_, _, connected_start, run⟩, point, reserved, unsupervised, fun undone => ?_⟩
  exact absurd (reserved.symm.trans undone.endpoint) Reservation.noConfusion

end EspIris.Gateway.MaintenanceAcquire
