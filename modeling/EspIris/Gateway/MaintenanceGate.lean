import EspIris.Gateway.Leases
import EspIris.Lib.AsyncLock

/-! The gate of one device in `OperationManager`: its lock and its two maintenance flags, for operations, for
`acquire_maintenance` and for the leases that come of it. The event sink never waits, so neither does `_emit`. -/

namespace EspIris.Gateway.MaintenanceGate
open Machine (System Reachable Run Invariant)
open Security (Hashlib)
open Leases

inductive GateClient
  | operation (number : Nat)
  | maintenance (number : Nat)
  deriving DecidableEq, Repr

/-- An operation in `execute`: it waits for the lock, or is inside its device call. -/
inductive OperationPhase
  | queued (cancelled : Bool)
  | inside (serialized : Bool)
  | over
  deriving DecidableEq, Repr

/-- A call of `acquire_maintenance`: it waits for the lock, or holds the gate until its lease is made. -/
inductive AcquirePhase
  | waiting
  | holding
  | over
  deriving DecidableEq, Repr

/-- `returned` is whether the token of the lease has been given to anyone. -/
structure HeldLease where
  world : LeaseWorld
  returned : Bool

/-- `intruded` is a record: an operation has started its device call while maintenance was active. -/
structure GateWorld where
  lock : AsyncLock GateClient
  pending : Bool
  active : Bool
  operations : Nat → Option OperationPhase
  acquires : Nat → Option AcquirePhase
  leases : Nat → Option HeldLease
  started : Nat
  intruded : Bool

inductive GateEvent
  | execute (serialized : Bool)
  /-- The first waiter gets its turn. -/
  | turn
  /-- `cancel_queued` marks the operation. -/
  | cancelQueued (number : Nat)
  /-- The task of a waiting operation is cancelled. -/
  | abandon (number : Nat)
  /-- The device call returns or raises. -/
  | done (number : Nat)
  | acquire
  /-- The wait for the lock times out or is cancelled. -/
  | giveUp (number : Nat)
  /-- The acquisition raises behind the gate; the lease may be in the store already. -/
  | fail (number : Nat) (stored : Option Lease)
  /-- The acquisition returns its lease. -/
  | grantLease (number : Nat) (lease : Lease)
  | lease (number : Nat) (event : LeaseEvent)
  | restart

def detached (lease : Lease) : LeaseWorld where
  lease := { lease with state := .detached }
  reserved := .own
  finishes := fun _ => none
  started := 0
  gateReleases := 0
  endpointReleases := 0
  reported := []
  settled := none

def restored (world : LeaseWorld) : LeaseWorld :=
  if world.lease.state.isActive then { detached world.lease with lease := world.lease }
  else { world with finishes := fun _ => none }

namespace GateWorld
variable (world : GateWorld)

def setOperation (number : Nat) (phase : OperationPhase) : GateWorld :=
  { world with operations := fun other => if other = number then some phase else world.operations other }

def setAcquire (number : Nat) (phase : AcquirePhase) : GateWorld :=
  { world with acquires := fun other => if other = number then some phase else world.acquires other }

def setLease (number : Nat) (lease : HeldLease) : GateWorld :=
  { world with leases := fun other => if other = number then some lease else world.leases other }

/-- `_run` calls the device. -/
def start (number : Nat) (serialized : Bool) : GateWorld :=
  { world with intruded := world.intruded || world.active }.setOperation number (.inside serialized)

/-- The lock is acquired in `acquire_maintenance`. -/
def hold (number : Nat) : GateWorld := { world with pending := false, active := true }.setAcquire number .holding

def releaseMaintenance : GateWorld :=
  { world with
    pending := false
    active := false
    lock := if world.lock.locked then world.lock.release else world.lock }

/-- `maintenance_state` is not None. -/
def reserved : Bool := world.active || world.pending

def anyLease : Bool :=
  (List.range world.started).any fun number =>
    (world.leases number).any fun held => held.world.lease.state.isActive

def restarted : GateWorld where
  lock := .free
  pending := false
  active := world.anyLease
  operations := fun _ => none
  acquires := fun _ => none
  leases := fun number => (world.leases number).map fun held => { held with world := restored held.world }
  started := world.started
  intruded := world.intruded

def next (hashlib : Hashlib) : GateEvent → Option GateWorld
  | .execute serialized =>
    let begun := { world with started := world.started + 1 }
    if world.reserved then some begun
    else if serialized then
      match world.lock.acquire (.operation world.started) with
      | (lock, true) => some ({ begun with lock }.start world.started true)
      | (lock, false) => some ({ begun with lock }.setOperation world.started (.queued false))
    else some (begun.start world.started false)
  | .turn =>
    match world.lock.grant with
    | some (.operation number, lock) =>
      match world.operations number with
      | some (.queued false) => some ({ world with lock }.start number true)
      -- it raises inside the lock
      | _ => some ({ world with lock := lock.release }.setOperation number .over)
    | some (.maintenance number, lock) => some ({ world with lock }.hold number)
    | none => none
  | .cancelQueued number =>
    match world.operations number with
    | some (.queued _) => some (world.setOperation number (.queued true))
    | _ => none
  | .abandon number =>
    match world.operations number with
    | some (.queued _) => some ({ world with lock := world.lock.leave (.operation number) }.setOperation number .over)
    | _ => none
  | .done number =>
    match world.operations number with
    | some (.inside true) => some ({ world with lock := world.lock.release }.setOperation number .over)
    | some (.inside false) => some (world.setOperation number .over)
    | _ => none
  | .acquire =>
    let begun := { world with started := world.started + 1 }
    if world.reserved then some begun
    else
      match world.lock.acquire (.maintenance world.started) with
      | (lock, true) => some ({ begun with lock }.hold world.started)
      | (lock, false) => some ({ begun with lock, pending := true }.setAcquire world.started .waiting)
  | .giveUp number =>
    match world.acquires number with
    | some .waiting =>
      some ({ world with lock := world.lock.leave (.maintenance number), pending := false }.setAcquire number .over)
    | _ => none
  | .fail number stored =>
    match world.acquires number with
    | some .holding =>
      let ended := world.releaseMaintenance.setAcquire number .over
      match stored with
      | some lease => some ({ ended with started := world.started + 1 }.setLease world.started ⟨detached lease, false⟩)
      | none => some ended
    | _ => none
  | .grantLease number lease =>
    match world.acquires number with
    | some .holding =>
      some ({ world with started := world.started + 1 }.setLease world.started ⟨detached lease, true⟩
        |>.setAcquire number .over)
    | _ => none
  | .lease number event =>
    match world.leases number with
    | some ⟨lease, true⟩ =>
      (lease.next hashlib event).map fun after =>
        let held := world.setLease number ⟨after, true⟩
        if after.gateReleases = lease.gateReleases then held else held.releaseMaintenance
    | _ => none
  | .restart => some world.restarted

end GateWorld

def gateSystem (hashlib : Hashlib) : System GateWorld GateEvent :=
  .ofPartial (fun world => world = ⟨.free, false, false, fun _ => none, fun _ => none, fun _ => none, 0, false⟩)
    fun world event => world.next hashlib event

def OneFinishEach (hashlib : Hashlib) (world : GateWorld) : GateEvent → Prop
  | .lease number event => ∀ held ∈ world.leases number, OneFinish hashlib held.world event
  | _ => True

structure Exclusive (world : GateWorld) : Prop where
  one : ∀ number other, world.operations number = some (.inside true) → world.operations other = some (.inside true) →
    number = other
  apart : world.active = true → ∀ number, world.operations number ≠ some (.inside true)
  undisturbed : world.intruded = false

inductive GateHolder
  | acquirer (number : Nat)
  | lease (number : Nat)

def GateWorld.Holds (world : GateWorld) : GateHolder → Prop
  | .acquirer number => world.acquires number = some .holding
  | .lease number => ∃ lease, world.leases number = some ⟨lease, true⟩ ∧ lease.lease.state.isActive = true

structure HoldersSound (world : GateWorld) : Prop where
  leases : ∀ number held, world.leases number = some held → LeaseSound held.world
  bounded : ∀ number held, world.leases number = some held → number < world.started
  active : ∀ holder, world.Holds holder → world.active = true
  single : ∀ one other, world.Holds one → world.Holds other → one = other

def GateClient.number : GateClient → Nat
  | .operation number | .maintenance number => number

structure TurnsSound (world : GateWorld) : Prop where
  exclusive : Exclusive world
  inside : ∀ number, world.operations number = some (.inside true) → world.lock.locked = true
  behind : world.active = true → world.lock.locked = true ∨ world.lock.waiters = []
  waiting : ∀ number, world.acquires number = some .waiting → world.pending = true
  alone : ∀ one other, world.acquires one = some .waiting → world.acquires other = some .waiting → one = other
  idle : world.pending = true → world.active = false
  queued : ∀ number, .maintenance number ∈ world.lock.waiters → world.acquires number = some .waiting
  numbered : ∀ client ∈ world.lock.waiters, client.number < world.started
  nodup : world.lock.waiters.Nodup

variable {hashlib : Hashlib} {world after : GateWorld}

section Holders

section sound
variable (sound : HoldersSound world)
include sound

theorem HoldersSound.fewer
    (leases : ∀ number held, after.leases number = some held → LeaseSound held.world ∧ number < after.started)
    (holders : ∀ holder, after.Holds holder → world.Holds holder) (active : after.active = world.active) :
    HoldersSound after := by
  refine ⟨fun number held isHeld => (leases number held isHeld).1, fun number held isHeld => (leases number held isHeld).2,
    ?_, ?_⟩
  · intro holder holds
    rw [active]
    exact sound.active holder (holders holder holds)
  · exact fun one other isOne isOther => sound.single one other (holders one isOne) (holders other isOther)

theorem HoldersSound.same (leases : after.leases = world.leases) (acquires : after.acquires = world.acquires)
    (active : after.active = world.active) (started : world.started ≤ after.started) : HoldersSound after := by
  refine sound.fewer ?_ ?_ active
  · intro number held isHeld
    rw [leases] at isHeld
    exact ⟨sound.leases number held isHeld, (sound.bounded number held isHeld).trans_le started⟩
  · intro holder holds
    cases holder with
    | acquirer number => exact (congrFun acquires number).symm.trans holds
    | lease number =>
      obtain ⟨lease, isLease, isActive⟩ := holds
      exact ⟨lease, (congrFun leases number).symm.trans isLease, isActive⟩

theorem HoldersSound.nobody (inactive : world.active = false) (holder : GateHolder) :
    ¬ world.Holds holder := by
  intro holds
  have active := sound.active holder holds
  rw [inactive] at active
  contradiction

theorem HoldersSound.others {holder : GateHolder} (holds : world.Holds holder) (other : GateHolder)
    (different : other ≠ holder) : ¬ world.Holds other :=
  fun isOther => different (sound.single other holder isOther holds)

/-- An acquisition goes on to a phase in which it does not hold the gate. -/
theorem HoldersSound.setAcquire (number : Nat) {phase : AcquirePhase} (waits : phase ≠ .holding) :
    HoldersSound (world.setAcquire number phase) := by
  refine sound.fewer (fun other held isHeld => ⟨sound.leases other held isHeld, sound.bounded other held isHeld⟩) ?_ rfl
  intro holder holds
  cases holder with
  | acquirer other =>
    have phases : (if other = number then some phase else world.acquires other) = some .holding := holds
    split at phases
    next =>
      cases phases
      contradiction
    next => exact phases
  | lease other => exact holds

theorem HoldersSound.hold (inactive : world.active = false) (number : Nat) :
    HoldersSound (world.hold number) := by
  have holder : ∀ holder, (world.hold number).Holds holder → holder = .acquirer number := by
    intro holder holds
    cases holder with
    | acquirer other =>
      have phases : (if other = number then some AcquirePhase.holding else world.acquires other) = some .holding := holds
      split at phases
      next same => rw [same]
      next => exact absurd phases (sound.nobody inactive (.acquirer other))
    | lease other => exact absurd holds (sound.nobody inactive (.lease other))
  exact ⟨sound.leases, sound.bounded, fun _ _ => rfl, fun one other isOne isOther =>
    (holder one isOne).trans (holder other isOther).symm⟩

end sound

theorem HoldersSound.empty (leases : ∀ number held, world.leases number = some held → LeaseSound held.world)
    (bounded : ∀ number held, world.leases number = some held → number < world.started)
    (none : ∀ holder, ¬ world.Holds holder) : HoldersSound world :=
  ⟨leases, bounded, fun holder holds => absurd holds (none holder), fun one _ holds => absurd holds (none one)⟩

theorem detached_sound (lease : Lease) (active : lease.state.isActive = true) :
    LeaseSound { detached lease with lease } := by
  refine ⟨⟨fun _ => active, ?_, ?_, fun _ => ⟨rfl, Nat.zero_le _⟩, fun ended => absurd rfl ended⟩, ?_, ?_, ?_,
    fun _ _ => ⟨rfl, rfl⟩⟩
  · exact fun outcome settled => absurd settled.symm (Option.some_ne_none outcome)
  · exact fun state member => absurd member List.not_mem_nil
  · exact fun number verifying => absurd verifying Bool.false_ne_true
  · exact fun number _ verifying => absurd verifying Bool.false_ne_true
  · exact fun number verifying => absurd verifying Bool.false_ne_true

theorem restored_sound {lease : LeaseWorld} (sound : LeaseSound lease) : LeaseSound (restored lease) := by
  unfold restored
  split
  next active => exact detached_sound lease.lease active
  next inactive =>
    refine ⟨⟨sound.ends.active, sound.ends.settled, sound.ends.reported, sound.ends.held, sound.ends.ended⟩, ?_, ?_, ?_,
      fun still _ => absurd (sound.ends.active still) inactive⟩
    · exact fun number verifying => absurd verifying Bool.false_ne_true
    · exact fun number _ verifying => absurd verifying Bool.false_ne_true
    · exact fun number verifying => absurd verifying Bool.false_ne_true

theorem restored_active (lease : LeaseWorld) : (restored lease).lease = lease.lease := by
  unfold restored
  split
  next => rfl
  next => rfl

section sound
variable (sound : HoldersSound world)
include sound

theorem HoldersSound.rows (after : GateWorld) {number : Nat} {row : HeldLease} (rowSound : LeaseSound row.world)
    (new : number < after.started) (later : world.started ≤ after.started)
    (leases : after.leases = (world.setLease number row).leases) (other : Nat) (held : HeldLease)
    (isHeld : after.leases other = some held) : LeaseSound held.world ∧ other < after.started := by
  have isHeld : (if other = number then some row else world.leases other) = some held :=
    (congrFun leases other).symm.trans isHeld
  split at isHeld
  next same =>
    cases isHeld
    exact ⟨rowSound, same ▸ new⟩
  next => exact ⟨sound.leases other held isHeld, (sound.bounded other held isHeld).trans_le later⟩

theorem HoldersSound.request {number : Nat} {before next : LeaseWorld}
    (isLease : world.leases number = some ⟨before, true⟩) (nextSound : LeaseSound next)
    (same : next.gateReleases = before.gateReleases) : HoldersSound (world.setLease number ⟨next, true⟩) := by
  have beforeSound : LeaseSound before := sound.leases number _ isLease
  refine sound.fewer (sound.rows _ nextSound (sound.bounded number _ isLease) (Nat.le_refl _) rfl) ?_ rfl
  intro holder holds
  cases holder with
  | acquirer other => exact holds
  | lease other =>
    obtain ⟨lease, isOther, active⟩ := holds
    have isOther : (if other = number then some (⟨next, true⟩ : HeldLease) else world.leases other) =
        some ⟨lease, true⟩ := isOther
    split at isOther
    next sameNumber =>
      cases isOther
      rw [nextSound.ends.active_iff, same, ← beforeSound.ends.active_iff] at active
      exact ⟨before, sameNumber ▸ isLease, active⟩
    next => exact ⟨lease, isOther, active⟩

/-- The request that ends the lease opens the gate, and nobody else has held it. -/
theorem HoldersSound.ending {number : Nat} {before next : LeaseWorld}
    (isLease : world.leases number = some ⟨before, true⟩) (nextSound : LeaseSound next)
    (earlier : before.gateReleases ≤ next.gateReleases) (different : next.gateReleases ≠ before.gateReleases) :
    world.active = true ∧ HoldersSound (world.setLease number ⟨next, true⟩).releaseMaintenance := by
  have beforeSound : LeaseSound before := sound.leases number _ isLease
  have inactive : next.lease.state.isActive ≠ true := by
    rw [ne_eq, nextSound.ends.active_iff]
    omega
  have active : before.lease.state.isActive = true := by
    rw [beforeSound.ends.active_iff]
    by_contra released
    have stays : next.settled ≠ none := fun still => inactive (nextSound.ends.active still)
    have ended : before.settled ≠ none := fun still => released (beforeSound.ends.held still).1
    have := (beforeSound.ends.ended ended).1
    have := (nextSound.ends.ended stays).1
    omega
  have holds : world.Holds (.lease number) := ⟨before, isLease, active⟩
  refine ⟨sound.active _ holds, ?_⟩
  have rows := sound.rows ((world.setLease number ⟨next, true⟩).releaseMaintenance) nextSound
    (sound.bounded number _ isLease) (Nat.le_refl _) rfl
  refine .empty (fun other held isHeld => (rows other held isHeld).1) (fun other held isHeld => (rows other held isHeld).2) ?_
  intro holder isHolder
  cases holder with
  | acquirer other => exact sound.others holds (.acquirer other) GateHolder.noConfusion isHolder
  | lease other =>
    obtain ⟨lease, isOther, isActive⟩ := isHolder
    have isOther : (if other = number then some (⟨next, true⟩ : HeldLease) else world.leases other) =
        some ⟨lease, true⟩ := isOther
    split at isOther
    next =>
      cases isOther
      exact inactive isActive
    next otherNumber =>
      have isOtherHolder : world.Holds (.lease other) := ⟨lease, isOther, isActive⟩
      exact sound.others holds _ (fun same => otherNumber (GateHolder.lease.inj same)) isOtherHolder

theorem HoldersSound.grantLease {number : Nat} (lease : Lease) (holding : world.acquires number = some .holding) :
    HoldersSound ({ world with started := world.started + 1 }.setLease world.started ⟨detached lease, true⟩
      |>.setAcquire number .over) := by
  have holds : world.Holds (.acquirer number) := holding
  let next := { world with started := world.started + 1 }.setLease world.started ⟨detached lease, true⟩
      |>.setAcquire number .over
  have rows := sound.rows (next) (detached_sound { lease with state := .detached } rfl) (Nat.lt_succ_self _)
    (Nat.le_succ _) rfl
  have holder : ∀ holder, next.Holds holder → holder = .lease world.started := by
    intro holder isHolder
    cases holder with
    | acquirer other =>
      have phases : (if other = number then some AcquirePhase.over else world.acquires other) = some .holding := isHolder
      split at phases
      next => cases phases
      next otherNumber =>
        exact absurd phases (sound.others holds (.acquirer other) fun same =>
          otherNumber (GateHolder.acquirer.inj same))
    | lease other =>
      obtain ⟨held, isOther, isActive⟩ := isHolder
      have isOther : (if other = world.started then some (⟨detached lease, true⟩ : HeldLease) else world.leases other) =
          some ⟨held, true⟩ := isOther
      split at isOther
      next same => rw [same]
      exact absurd ⟨held, isOther, isActive⟩ (sound.others holds (.lease other) GateHolder.noConfusion)
  exact ⟨fun other held isHeld => (rows other held isHeld).1, fun other held isHeld => (rows other held isHeld).2,
    fun _ _ => sound.active _ holds, fun one other isOne isOther => (holder one isOne).trans (holder other isOther).symm⟩

/-- The acquisition fails behind the gate; nobody learns of a lease it has made. -/
theorem HoldersSound.fail {number : Nat} (stored : Option Lease) (holding : world.acquires number = some .holding)
    (next : world.next hashlib (.fail number stored) = some after) :
    HoldersSound after := by
  have holds : world.Holds (.acquirer number) := holding
  have acquirers : ∀ other,
      (if other = number then some AcquirePhase.over else world.acquires other) ≠ some .holding := by
    intro other isHolding
    split at isHolding
    next => cases isHolding
    next otherNumber =>
      exact sound.others holds (.acquirer other) (fun same => otherNumber (GateHolder.acquirer.inj same)) isHolding
  have others : ∀ other, ¬ world.Holds (.lease other) := fun other => sound.others holds _ GateHolder.noConfusion
  dsimp only [GateWorld.next] at next
  rw [holding] at next
  cases stored with
  | none =>
    cases next
    refine .empty sound.leases sound.bounded fun holder => ?_
    cases holder with
    | acquirer other => exact acquirers other
    | lease other => exact others other
  | some lease =>
    cases next
    have rows := sound.rows (({ world.releaseMaintenance.setAcquire number .over with
      started := world.started + 1 }.setLease world.started ⟨detached lease, false⟩))
      (detached_sound { lease with state := .detached } rfl) (Nat.lt_succ_self _) (Nat.le_succ _) rfl
    refine .empty (fun other held isHeld => (rows other held isHeld).1) (fun other held isHeld => (rows other held isHeld).2)
      fun holder => ?_
    cases holder with
    | acquirer other => exact acquirers other
    | lease other =>
      rintro ⟨held, isOther, isActive⟩
      have isOther : (if other = world.started then some (⟨detached lease, false⟩ : HeldLease) else world.leases other) =
          some ⟨held, true⟩ := isOther
      split at isOther
      next => cases isOther
      next => exact others other ⟨held, isOther, isActive⟩

theorem HoldersSound.restart : HoldersSound world.restarted := by
  have before : ∀ number held, (world.leases number).map (fun held => { held with world := restored held.world }) = some held →
      ∃ earlier, world.leases number = some earlier ∧ held = { earlier with world := restored earlier.world } := by
    intro number held isHeld
    obtain ⟨earlier, isEarlier, same⟩ := Option.map_eq_some_iff.mp isHeld
    exact ⟨earlier, isEarlier, same.symm⟩
  have holders : ∀ holder, world.restarted.Holds holder → ∃ number, holder = .lease number ∧ world.Holds holder := by
    intro holder holds
    cases holder with
    | acquirer other => cases holds
    | lease other =>
      obtain ⟨lease, isLease, isActive⟩ := holds
      obtain ⟨⟨earlier, returned⟩, isEarlier, same⟩ := before other _ isLease
      cases same
      rw [restored_active] at isActive
      exact ⟨other, rfl, earlier, isEarlier, isActive⟩
  refine ⟨?_, ?_, ?_, ?_⟩
  · intro number held isHeld
    obtain ⟨earlier, isEarlier, rfl⟩ := before number held isHeld
    exact restored_sound (sound.leases number earlier isEarlier)
  · intro number held isHeld
    obtain ⟨earlier, isEarlier, _⟩ := before number held isHeld
    exact sound.bounded number earlier isEarlier
  · intro holder holds
    obtain ⟨number, rfl, lease, isLease, isActive⟩ := holders holder holds
    refine List.any_eq_true.mpr ⟨number, List.mem_range.mpr (sound.bounded number _ isLease), ?_⟩
    rw [isLease]
    exact isActive
  · intro one other isOne isOther
    obtain ⟨_, _, isOne⟩ := holders one isOne
    obtain ⟨_, _, isOther⟩ := holders other isOther
    exact sound.single one other isOne isOther

end sound

end Holders

section Turns

theorem TurnsSound.relock (sound : TurnsSound world) {lock : AsyncLock GateClient}
    (members : ∀ client ∈ lock.waiters, client ∈ world.lock.waiters) (nodup : lock.waiters.Nodup)
    (inside : ∀ number, world.operations number = some (.inside true) → lock.locked = true)
    (behind : world.active = true → lock.locked = true ∨ lock.waiters = []) : TurnsSound { world with lock } :=
  ⟨⟨sound.exclusive.one, sound.exclusive.apart, sound.exclusive.undisturbed⟩, inside, behind, sound.waiting, sound.alone,
    sound.idle, fun number waits => sound.queued number (members _ waits),
    fun client waits => sound.numbered client (members _ waits), nodup⟩

theorem TurnsSound.free (sound : TurnsSound world) (unlocked : world.lock.locked = false) (number : Nat) :
    world.operations number ≠ some (.inside true) := by
  intro inside
  have locked := sound.inside number inside
  rw [unlocked] at locked
  contradiction

/-- Nobody is inside and maintenance is not active: the lock may be released. -/
theorem TurnsSound.release (sound : TurnsSound world) (free : ∀ number, world.operations number ≠ some (.inside true))
    (inactive : world.active = false) : TurnsSound { world with lock := world.lock.release } := by
  refine sound.relock (fun _ waits => waits) sound.nodup (fun number inside => absurd inside (free number)) ?_
  intro active
  rw [inactive] at active
  contradiction

theorem TurnsSound.later (sound : TurnsSound world) : TurnsSound { world with started := world.started + 1 } :=
  ⟨⟨sound.exclusive.one, sound.exclusive.apart, sound.exclusive.undisturbed⟩, sound.inside, sound.behind, sound.waiting,
    sound.alone, sound.idle, sound.queued, fun client waits => (sound.numbered client waits).trans (Nat.lt_succ_self _),
    sound.nodup⟩

theorem TurnsSound.setLease (sound : TurnsSound world) (number : Nat) (lease : HeldLease) :
    TurnsSound (world.setLease number lease) :=
  ⟨⟨sound.exclusive.one, sound.exclusive.apart, sound.exclusive.undisturbed⟩, sound.inside, sound.behind, sound.waiting,
    sound.alone, sound.idle, sound.queued, sound.numbered, sound.nodup⟩

theorem setOperation_inside {number other : Nat} {phase : OperationPhase} (out : phase ≠ .inside true)
    (inside : (world.setOperation number phase).operations other = some (.inside true)) :
    world.operations other = some (.inside true) ∧ other ≠ number := by
  dsimp only [GateWorld.setOperation] at inside
  split at inside
  next =>
    cases inside
    contradiction
  next different => exact ⟨inside, different⟩

section sound
variable (sound : TurnsSound world)
include sound

theorem TurnsSound.setOperation (number : Nat) {phase : OperationPhase} (out : phase ≠ .inside true) :
    TurnsSound (world.setOperation number phase) := by
  refine ⟨⟨?_, ?_, sound.exclusive.undisturbed⟩, ?_, sound.behind, sound.waiting, sound.alone, sound.idle, sound.queued,
    sound.numbered, sound.nodup⟩
  · intro one other isOne isOther
    exact sound.exclusive.one one other (setOperation_inside out isOne).1 (setOperation_inside out isOther).1
  · exact fun active other inside => sound.exclusive.apart active other (setOperation_inside out inside).1
  · exact fun other inside => sound.inside other (setOperation_inside out inside).1

theorem TurnsSound.start (number : Nat) {serialized : Bool} (inactive : world.active = false)
    (alone : serialized = true → world.lock.locked = true ∧ ∀ other, world.operations other ≠ some (.inside true)) :
    TurnsSound (world.start number serialized) := by
  have undisturbed : (world.intruded || world.active) = false := by
    rw [sound.exclusive.undisturbed, inactive]
    rfl
  cases serialized with
  | false =>
    have quiet : TurnsSound { world with intruded := world.intruded || world.active } :=
      ⟨⟨sound.exclusive.one, sound.exclusive.apart, undisturbed⟩, sound.inside, sound.behind, sound.waiting, sound.alone,
        sound.idle, sound.queued, sound.numbered, sound.nodup⟩
    exact quiet.setOperation number (fun same => Bool.false_ne_true (OperationPhase.inside.inj same))
  | true =>
    obtain ⟨locked, free⟩ := alone rfl
    have only : ∀ other, (world.start number true).operations other = some (.inside true) → other = number := by
      intro other inside
      by_contra different
      have before : (if other = number then some (.inside true) else world.operations other) = some (.inside true) := inside
      rw [if_neg different] at before
      exact free other before
    refine ⟨⟨?_, ?_, undisturbed⟩, fun _ _ => locked, sound.behind, sound.waiting, sound.alone, sound.idle, sound.queued,
      sound.numbered, sound.nodup⟩
    · exact fun one other isOne isOther => (only one isOne).trans (only other isOther).symm
    · intro active
      have active : world.active = true := active
      rw [inactive] at active
      contradiction

theorem TurnsSound.queue (inactive : world.active = false) :
    TurnsSound { world with
      lock := ⟨world.lock.locked, world.lock.waiters ++ [.operation world.started]⟩
      started := world.started + 1 } := by
  have fresh : GateClient.operation world.started ∉ world.lock.waiters :=
    fun waits => Nat.lt_irrefl _ (sound.numbered _ waits)
  refine ⟨⟨sound.exclusive.one, sound.exclusive.apart, sound.exclusive.undisturbed⟩, sound.inside, ?_, sound.waiting,
    sound.alone, sound.idle, ?_, ?_, ?_⟩
  · intro active
    rw [inactive] at active
    contradiction
  · intro number waits
    obtain before | last := List.mem_append.mp waits
    · exact sound.queued number before
    · exact absurd (List.mem_singleton.mp last) GateClient.noConfusion
  · intro client waits
    obtain before | last := List.mem_append.mp waits
    · exact (sound.numbered client before).trans (Nat.lt_succ_self _)
    · rw [List.mem_singleton.mp last]
      exact Nat.lt_succ_self _
  · exact AsyncLock.appended_nodup sound.nodup fresh

/-- The lock goes to an acquisition: the only one that has waited for it, if any has. -/
theorem TurnsSound.hold (number : Nat) (locked : world.lock.locked = true)
    (free : ∀ other, world.operations other ≠ some (.inside true))
    (mine : ∀ other, world.acquires other = some .waiting → other = number)
    (served : GateClient.maintenance number ∉ world.lock.waiters) : TurnsSound (world.hold number) := by
  have nobody : ∀ other, (world.hold number).acquires other ≠ some .waiting := by
    intro other waits
    have phases : (if other = number then some AcquirePhase.holding else world.acquires other) = some .waiting := waits
    split at phases
    next => cases phases
    next different => exact different (mine other phases)
  refine ⟨⟨sound.exclusive.one, fun _ => free, sound.exclusive.undisturbed⟩, sound.inside, fun _ => .inl locked, ?_, ?_,
    fun pending => absurd pending Bool.false_ne_true, ?_, sound.numbered, sound.nodup⟩
  · exact fun other waits => absurd waits (nobody other)
  · exact fun one _ waits => absurd waits (nobody one)
  · intro other waits
    have isNumber := mine other (sound.queued other waits)
    rw [isNumber] at waits
    exact absurd waits served

theorem TurnsSound.nobody (idle : world.pending = false) (number : Nat) :
    world.acquires number ≠ some .waiting := by
  intro waits
  have pending := sound.waiting number waits
  rw [idle] at pending
  contradiction

theorem TurnsSound.wait (inactive : world.active = false) (idle : world.pending = false) :
    TurnsSound ({ world with
      lock := ⟨world.lock.locked, world.lock.waiters ++ [GateClient.maintenance world.started]⟩
      pending := true
      started := world.started + 1 }.setAcquire world.started .waiting) := by
  have fresh : GateClient.maintenance world.started ∉ world.lock.waiters :=
    fun waits => Nat.lt_irrefl _ (sound.numbered _ waits)
  have only : ∀ other, (if other = world.started then some AcquirePhase.waiting else world.acquires other) = some .waiting →
      other = world.started := by
    intro other phases
    split at phases
    next same => exact same
    next => exact absurd phases (sound.nobody idle other)
  refine ⟨⟨sound.exclusive.one, sound.exclusive.apart, sound.exclusive.undisturbed⟩, sound.inside, ?_, fun _ _ => rfl, ?_,
    fun _ => inactive, ?_, ?_, ?_⟩
  · intro active
    have active : world.active = true := active
    rw [inactive] at active
    contradiction
  · exact fun one other isOne isOther => (only one isOne).trans (only other isOther).symm
  · intro number waits
    obtain before | last := List.mem_append.mp waits
    · exact absurd (sound.queued number before) (sound.nobody idle number)
    · exact if_pos (GateClient.maintenance.inj (List.mem_singleton.mp last))
  · intro client waits
    obtain before | last := List.mem_append.mp waits
    · exact (sound.numbered client before).trans (Nat.lt_succ_self _)
    · rw [List.mem_singleton.mp last]
      exact Nat.lt_succ_self _
  · exact AsyncLock.appended_nodup sound.nodup fresh

theorem TurnsSound.giveUp {number : Nat} (waiting : world.acquires number = some .waiting) :
    TurnsSound ({ world with lock := world.lock.leave (.maintenance number), pending := false }.setAcquire number
      .over) := by
  have inactive := sound.idle (sound.waiting number waiting)
  have nobody : ∀ other, (if other = number then some AcquirePhase.over else world.acquires other) ≠ some .waiting := by
    intro other phases
    split at phases
    next => cases phases
    next different => exact different (sound.alone other number phases waiting)
  refine ⟨⟨sound.exclusive.one, sound.exclusive.apart, sound.exclusive.undisturbed⟩, sound.inside, ?_, ?_, ?_,
    fun pending => absurd pending Bool.false_ne_true, ?_, ?_, AsyncLock.leave_nodup sound.nodup⟩
  · intro active
    have active : world.active = true := active
    rw [inactive] at active
    contradiction
  · exact fun other waits => absurd waits (nobody other)
  · exact fun one _ waits => absurd waits (nobody one)
  · intro other waits
    obtain ⟨before, different⟩ := AsyncLock.mem_leave.mp waits
    have isNumber := sound.alone other number (sound.queued other before) waiting
    exact absurd (congrArg GateClient.maintenance isNumber) different
  · exact fun client waits => sound.numbered client (AsyncLock.mem_leave.mp waits).1

theorem TurnsSound.setAcquire (number : Nat) (was : world.acquires number ≠ some .waiting) :
    TurnsSound (world.setAcquire number .over) := by
  have before : ∀ other, (if other = number then some AcquirePhase.over else world.acquires other) = some .waiting →
      world.acquires other = some .waiting := by
    intro other phases
    split at phases
    next => cases phases
    next => exact phases
  refine ⟨⟨sound.exclusive.one, sound.exclusive.apart, sound.exclusive.undisturbed⟩, sound.inside, sound.behind, ?_, ?_,
    sound.idle, ?_, sound.numbered, sound.nodup⟩
  · exact fun other waits => sound.waiting other (before other waits)
  · exact fun one other isOne isOther => sound.alone one other (before one isOne) (before other isOther)
  · intro other waits
    have isWaiting := sound.queued other waits
    have different : other ≠ number := fun same => was (same ▸ isWaiting)
    exact (if_neg different).trans isWaiting

/-- Maintenance is active, so nobody is inside, and whoever has the lock gives it back. -/
theorem TurnsSound.releaseMaintenance (active : world.active = true) :
    TurnsSound world.releaseMaintenance := by
  have idle : world.pending = false := by
    cases pending : world.pending with
    | false => rfl
    | true => exact absurd ((sound.idle pending).symm.trans active) Bool.false_ne_true
  have waiters : world.releaseMaintenance.lock.waiters = world.lock.waiters := by
    dsimp only [GateWorld.releaseMaintenance]
    split
    next => rfl
    next => rfl
  have free := sound.exclusive.apart active
  have nobody := sound.nobody idle
  refine ⟨⟨sound.exclusive.one, fun _ => free, sound.exclusive.undisturbed⟩, fun number inside => absurd inside (free number),
    fun open_ => absurd open_ Bool.false_ne_true, fun number waits => absurd waits (nobody number),
    fun one _ waits => absurd waits (nobody one), fun pending => absurd pending Bool.false_ne_true, ?_, ?_, ?_⟩
  · exact fun number waits => sound.queued number (waiters ▸ waits)
  · exact fun client waits => sound.numbered client (waiters ▸ waits)
  · rw [waiters]
    exact sound.nodup

end sound

theorem TurnsSound.quiet (lock : world.lock = .free) (pending : world.pending = false)
    (operations : world.operations = fun _ => none) (acquires : world.acquires = fun _ => none)
    (undisturbed : world.intruded = false) : TurnsSound world := by
  have outside : ∀ number phase, world.operations number ≠ some phase := by
    intro number phase
    rw [operations]
    exact Option.some_ne_none _ ∘ Eq.symm
  have isOver : ∀ number phase, world.acquires number ≠ some phase := by
    intro number phase
    rw [acquires]
    exact Option.some_ne_none _ ∘ Eq.symm
  have waiters : world.lock.waiters = [] := congrArg AsyncLock.waiters lock
  refine ⟨⟨fun one _ inside => absurd inside (outside one _), fun _ number => outside number _, undisturbed⟩,
    fun number inside => absurd inside (outside number _), fun _ => .inr waiters, fun number waits => absurd waits (isOver number _),
    fun one _ waits => absurd waits (isOver one _), ?_, ?_, ?_, ?_⟩
  · rw [pending]
    exact fun still => absurd still Bool.false_ne_true
  · rw [waiters]
    exact fun number waits => absurd waits List.not_mem_nil
  · rw [waiters]
    exact fun client waits => absurd waits List.not_mem_nil
  · rw [waiters]
    exact List.nodup_nil

end Turns

structure GateSound (world : GateWorld) : Prop where
  holders : HoldersSound world
  turns : TurnsSound world

theorem not_reserved (free : ¬ world.reserved = true) : world.active = false ∧ world.pending = false :=
  Bool.or_eq_false_iff.mp (Bool.eq_false_iff.mpr free)

section sound
variable (sound : GateSound world)
include sound

theorem GateSound.later : GateSound { world with started := world.started + 1 } :=
  ⟨sound.holders.same rfl rfl rfl (Nat.le_succ _), sound.turns.later⟩

theorem GateSound.execute {serialized : Bool} (next : world.next hashlib (.execute serialized) = some after) :
    GateSound after := by
  dsimp only [GateWorld.next] at next
  split at next
  next =>
    cases next
    exact sound.later
  next free =>
    obtain ⟨inactive, _⟩ := not_reserved free
    split at next
    next =>
      obtain ⟨unlocked, _, acquired⟩ | acquired := world.lock.acquire_cases (.operation world.started)
      · rw [acquired] at next
        cases next
        refine ⟨sound.holders.same rfl rfl rfl (Nat.le_succ _), ?_⟩
        have taken : TurnsSound { world with lock := ⟨true, []⟩, started := world.started + 1 } :=
          sound.turns.later.relock (fun client waits => absurd waits List.not_mem_nil) List.nodup_nil (fun _ _ => rfl)
            fun _ => .inl rfl
        exact taken.start world.started inactive fun _ => ⟨rfl, sound.turns.free unlocked⟩
      · rw [acquired] at next
        cases next
        refine ⟨sound.holders.same rfl rfl rfl (Nat.le_succ _), ?_⟩
        exact (sound.turns.queue inactive).setOperation world.started OperationPhase.noConfusion
    cases next
    refine ⟨sound.holders.same rfl rfl rfl (Nat.le_succ _), ?_⟩
    exact sound.turns.later.start world.started inactive fun serialized => absurd serialized Bool.false_ne_true

theorem GateSound.turn (next : world.next hashlib .turn = some after) : GateSound after := by
  dsimp only [GateWorld.next] at next
  cases granted : world.lock.grant with
  | none =>
    rw [granted] at next
    contradiction
  | some first =>
    obtain ⟨client, lock⟩ := first
    obtain ⟨unlocked, waiters, locked⟩ := AsyncLock.grant_cases granted
    rw [granted] at next
    have free := sound.turns.free unlocked
    have inactive : world.active = false := by
      cases active : world.active with
      | false => rfl
      | true =>
        obtain locked | empty := sound.turns.behind active
        · rw [unlocked] at locked
          contradiction
        · rw [waiters] at empty
          contradiction
    have nodup := sound.turns.nodup
    rw [waiters, List.nodup_cons] at nodup
    have taken : TurnsSound { world with lock } := by
      refine sound.turns.relock (fun other waits => ?_) nodup.2 (fun _ _ => locked) fun _ => .inl locked
      rw [waiters]
      exact List.mem_cons_of_mem _ waits
    cases client with
    | operation number =>
      dsimp only at next
      split at next
      next =>
        cases next
        exact ⟨sound.holders.same rfl rfl rfl (Nat.le_refl _), taken.start number inactive fun _ => ⟨locked, free⟩⟩
      cases next
      exact ⟨sound.holders.same rfl rfl rfl (Nat.le_refl _),
        (taken.release free inactive).setOperation number OperationPhase.noConfusion⟩
    | maintenance number =>
      cases next
      have waiting : world.acquires number = some .waiting := by
        refine sound.turns.queued number ?_
        rw [waiters]
        exact List.mem_cons_self
      have holders : HoldersSound { world with lock } := sound.holders.same rfl rfl rfl (Nat.le_refl _)
      refine ⟨holders.hold inactive number, taken.hold number locked free ?_ nodup.1⟩
      exact fun other waits => sound.turns.alone other number waits waiting

theorem GateSound.operation {number : Nat} {event : GateEvent}
    (isOperation : event = .cancelQueued number ∨ event = .abandon number ∨ event = .done number)
    (next : world.next hashlib event = some after) : GateSound after := by
  obtain rfl | rfl | rfl := isOperation
  · dsimp only [GateWorld.next] at next
    split at next
    next =>
      cases next
      exact ⟨sound.holders.same rfl rfl rfl (Nat.le_refl _),
        sound.turns.setOperation number OperationPhase.noConfusion⟩
    next => contradiction
  · dsimp only [GateWorld.next] at next
    split at next
    next =>
      cases next
      refine ⟨sound.holders.same rfl rfl rfl (Nat.le_refl _), ?_⟩
      have left : TurnsSound { world with lock := world.lock.leave (.operation number) } := by
        refine sound.turns.relock (fun other waits => (AsyncLock.mem_leave.mp waits).1)
          (AsyncLock.leave_nodup sound.turns.nodup) sound.turns.inside fun active => ?_
        obtain locked | empty := sound.turns.behind active
        · exact .inl locked
        · refine .inr (List.eq_nil_iff_forall_not_mem.mpr fun other waits => ?_)
          have before := (AsyncLock.mem_leave.mp waits).1
          rw [empty] at before
          exact absurd before List.not_mem_nil
      exact left.setOperation number OperationPhase.noConfusion
    next => contradiction
  · dsimp only [GateWorld.next] at next
    split at next
    next inside =>
      cases next
      refine ⟨sound.holders.same rfl rfl rfl (Nat.le_refl _), ?_⟩
      have out : TurnsSound (world.setOperation number .over) := sound.turns.setOperation number OperationPhase.noConfusion
      refine out.release (fun other isInside => ?_) ?_
      · obtain ⟨isInside, different⟩ := setOperation_inside OperationPhase.noConfusion isInside
        exact different (sound.turns.exclusive.one other number isInside inside)
      · by_contra active
        exact sound.turns.exclusive.apart (Bool.of_not_eq_false active) number inside
    next =>
      cases next
      exact ⟨sound.holders.same rfl rfl rfl (Nat.le_refl _),
        sound.turns.setOperation number OperationPhase.noConfusion⟩
    next => contradiction

theorem GateSound.acquire (next : world.next hashlib .acquire = some after) :
    GateSound after := by
  dsimp only [GateWorld.next] at next
  split at next
  next =>
    cases next
    exact sound.later
  next free =>
    obtain ⟨inactive, idle⟩ := not_reserved free
    obtain ⟨unlocked, _, acquired⟩ | acquired := world.lock.acquire_cases (.maintenance world.started)
    · rw [acquired] at next
      cases next
      have holders : HoldersSound { world with lock := ⟨true, []⟩, started := world.started + 1 } :=
        sound.holders.same rfl rfl rfl (Nat.le_succ _)
      have taken : TurnsSound { world with lock := ⟨true, []⟩, started := world.started + 1 } :=
        sound.turns.later.relock (fun client waits => absurd waits List.not_mem_nil) List.nodup_nil (fun _ _ => rfl)
          fun _ => .inl rfl
      refine ⟨holders.hold inactive world.started, taken.hold world.started rfl (sound.turns.free unlocked) ?_
        List.not_mem_nil⟩
      exact fun other waits => absurd waits (sound.turns.nobody idle other)
    · rw [acquired] at next
      cases next
      refine ⟨?_, sound.turns.wait inactive idle⟩
      have holders : HoldersSound { world with
          lock := ⟨world.lock.locked, world.lock.waiters ++ [GateClient.maintenance world.started]⟩
          pending := true
          started := world.started + 1 } := sound.holders.same rfl rfl rfl (Nat.le_succ _)
      exact holders.setAcquire world.started AcquirePhase.noConfusion

theorem GateSound.fail {number : Nat} {stored : Option Lease}
    (next : world.next hashlib (.fail number stored) = some after) : GateSound after := by
  cases holding : world.acquires number == some .holding with
  | false =>
    dsimp only [GateWorld.next] at next
    split at next
    next isHolding =>
      rw [isHolding] at holding
      contradiction
    next => contradiction
  | true =>
    have holding : world.acquires number = some .holding := eq_of_beq holding
    have active : world.active = true := sound.holders.active (.acquirer number) holding
    refine ⟨sound.holders.fail stored holding next, ?_⟩
    have out : TurnsSound (world.releaseMaintenance.setAcquire number .over) := by
      refine (sound.turns.releaseMaintenance active).setAcquire number fun waits => ?_
      cases holding.symm.trans waits
    dsimp only [GateWorld.next] at next
    rw [holding] at next
    cases stored with
    | none =>
      cases next
      exact out
    | some lease =>
      cases next
      exact out.later.setLease world.started ⟨detached lease, false⟩

theorem GateSound.grantLease {number : Nat} {lease : Lease}
    (next : world.next hashlib (.grantLease number lease) = some after) : GateSound after := by
  dsimp only [GateWorld.next] at next
  split at next
  next holding =>
    cases next
    refine ⟨sound.holders.grantLease lease holding, ?_⟩
    refine (sound.turns.later.setLease world.started ⟨detached lease, true⟩).setAcquire number fun waits => ?_
    cases holding.symm.trans waits
  next => contradiction

theorem GateSound.lease {number : Nat} {event : LeaseEvent} (alone : OneFinishEach hashlib world (.lease number event))
    (next : world.next hashlib (.lease number event) = some after) : GateSound after := by
  dsimp only [GateWorld.next] at next
  split at next
  next lease isLease =>
    obtain ⟨moved, moves, rfl⟩ := Option.map_eq_some_iff.mp next
    have movedSound : LeaseSound moved :=
      (lease_sound hashlib).step lease event moved (sound.holders.leases number _ isLease) ⟨alone _ isLease, moves⟩
    have turns := sound.turns.setLease number ⟨moved, true⟩
    split
    next same => exact ⟨sound.holders.request isLease movedSound same, turns⟩
    next different =>
      obtain ⟨active, holders⟩ := sound.holders.ending isLease movedSound (next_gateReleases moves) different
      exact ⟨holders, turns.releaseMaintenance active⟩
  next => contradiction

theorem GateSound.restart : GateSound world.restarted :=
  ⟨sound.holders.restart, .quiet rfl rfl rfl rfl sound.turns.exclusive.undisturbed⟩

end sound

theorem gate_sound (hashlib : Hashlib) :
    Invariant ((gateSystem hashlib).guarded (OneFinishEach hashlib)) GateSound where
  start := by
    rintro world rfl
    refine ⟨.empty ?_ ?_ ?_, .quiet rfl rfl rfl rfl rfl⟩
    · exact fun number held isHeld => absurd isHeld.symm (Option.some_ne_none _)
    · exact fun number held isHeld => absurd isHeld.symm (Option.some_ne_none _)
    · intro holder holds
      cases holder with
      | acquirer number => cases holds
      | lease number =>
        obtain ⟨lease, isLease, _⟩ := holds
        cases isLease
  step := by
    rintro world event after sound ⟨alone, next⟩
    have next : world.next hashlib event = some after := next
    cases event with
    | execute serialized => exact sound.execute next
    | turn => exact sound.turn next
    | cancelQueued number => exact sound.operation (.inl rfl) next
    | abandon number => exact sound.operation (.inr (.inl rfl)) next
    | done number => exact sound.operation (.inr (.inr rfl)) next
    | acquire => exact sound.acquire next
    | giveUp number =>
      dsimp only [GateWorld.next] at next
      split at next
      next waiting =>
        cases next
        have holders : HoldersSound { world with lock := world.lock.leave (.maintenance number), pending := false } :=
          sound.holders.same rfl rfl rfl (Nat.le_refl _)
        exact ⟨holders.setAcquire number AcquirePhase.noConfusion, sound.turns.giveUp waiting⟩
      next => contradiction
    | fail number stored => exact sound.fail next
    | grantLease number lease => exact sound.grantLease next
    | lease number event => exact sound.lease alone next
    | restart =>
      cases next
      exact sound.restart

/-- One serialized operation or maintenance: operations, acquisitions, leases and restarts in any order. -/
theorem gate_exclusive (hashlib : Hashlib) {world : GateWorld}
    (reached : Reachable ((gateSystem hashlib).guarded (OneFinishEach hashlib)) world) : Exclusive world :=
  ((gate_sound hashlib).reachable reached).turns.exclusive

instance (hashlib : Hashlib) (world : GateWorld) (event : GateEvent) : Decidable (OneFinishEach hashlib world event) := by
  unfold OneFinishEach
  split <;> infer_instance

def emptyGate : GateWorld := ⟨.free, false, false, fun _ => none, fun _ => none, fun _ => none, 0, false⟩

/-- The operation gets the lock that the finished lease has given back. -/
theorem operation_after_lease : ∃ world : GateWorld,
    world.operations 2 = some (.inside true) ∧ world.lock = ⟨true, []⟩ ∧ Exclusive world := by
  obtain ⟨world, run, checked⟩ : ∃ world, Run ((gateSystem leaseHashlib).guarded (OneFinishEach leaseHashlib)) emptyGate
      [.acquire, .grantLease 0 detachedLease, .lease 1 (.finish "t" false false 110), .lease 1 (reattached 0 120),
        .execute true] world ∧
      decide (world.operations 2 = some (.inside true) ∧ world.lock = ⟨true, []⟩) = true :=
    Run.of_guarded_check (by decide +kernel)
  obtain ⟨inside, lock⟩ := of_decide_eq_true checked
  exact ⟨world, inside, lock, gate_exclusive leaseHashlib ⟨_, _, rfl, run⟩⟩

/-- The second request for the lease opens the gate, and the first frees the lock of the operation that came in. -/
theorem two_operations_inside : ∃ world, Reachable (gateSystem leaseHashlib) world ∧
    world.operations 2 = some (.inside true) ∧ world.operations 3 = some (.inside true) ∧ ¬ Exclusive world := by
  obtain ⟨world, run, checked⟩ : ∃ world, Run (gateSystem leaseHashlib) emptyGate
      [.acquire, .grantLease 0 detachedLease, .lease 1 (.finish "t" false false 110),
        .lease 1 (.finish "t" true false 120), .execute true, .lease 1 (reattached 0 130), .execute true] world ∧
      decide (world.operations 2 = some (.inside true) ∧ world.operations 3 = some (.inside true)) = true :=
    Run.of_check (by decide +kernel)
  obtain ⟨first, second⟩ := of_decide_eq_true checked
  refine ⟨world, ⟨_, _, rfl, run⟩, first, second, fun exclusive => ?_⟩
  exact absurd (exclusive.one 2 3 first second) (by decide)

end EspIris.Gateway.MaintenanceGate
