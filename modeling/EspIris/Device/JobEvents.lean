import EspIris.Device.OtaTransfer
import EspIris.Device.Session
import EspIris.Lib.Machine

/-! The updates of jobs that the protocol task sends on its own. A job waits for that by a flag in
its slot, and `queue_job_event` reads a slot three times: the flag, then the record under the lock,
then the id again, which names the stream. -/

namespace EspIris.Device
variable {cancel : Option JobCancel} {table : JobTable} {slot : Nat} {old new : Job} {kind : UInt16} {job : Job}

def EventType.jobUpdate : UInt8 := 0x20

namespace Jobs
open Codec.Device Machine

/-- Where `queue_job_event` stands between two accesses to the slots. -/
inductive ScanPoint
  | away
  | looking (slot : Nat)
  | found (slot : Nat)
  | encoded (slot : Nat) (payload : List UInt8)
  deriving DecidableEq, Repr

structure JobUpdate where
  streamId : UInt32
  payload : List UInt8
  deriving DecidableEq, Repr

/-- The job table beside the protocol task. The updates of the session that were queued, the records
that creations overwrote in it, and the jobs that were over when it began, are not in the code. -/
structure EventWorld where
  table : JobTable
  runtime : Runtime
  scan : ScanPoint
  emitted : List JobUpdate
  discarded : List Job
  «over» : List Nat

/-- Calls come from any task at any time and through any handle. Everything else that the protocol
task sends is `queueOther`. -/
inductive JobEvent
  | create (kind : UInt16) (cancel : Option JobCancel)
  | update (handle : JobHandle) (progressPermille : UInt16)
  | finish (handle : JobHandle) (result : EspErr)
  | clientCancel (slot : Nat) (deferred : Bool)
  | serveCancel (slot : Nat)
  | otaMark (job : Option JobHandle)
  | sessionMark (slot : Nat)
  | scan
  | queueOther (reply : Reply)
  | transmit
  | sessionBegin

def JobTable.change (table : JobTable) (slot : Nat) (change : Job → Job) : JobTable :=
  match table.job slot with
  | none => table
  | some job => table.write slot (change job) []

def whileRunning (change : Job → Job) (job : Job) : Job := if job.info.state = .running then change job else job

def slotInfo (table : JobTable) (slot : Nat) : JobInfo := ((table.job slot).map Job.info).getD JobInfo.zero

def updateReply (streamId : UInt32) (payload : List UInt8) : Reply :=
  ⟨Channel.event, EventType.jobUpdate, Flag.reliable, 0, streamId, payload⟩

/-- `queue_job_event`, which the pump calls when nothing waits to be transmitted. -/
def queueJobEvent (world : EventWorld) : Option EventWorld :=
  match world.scan with
  | .away => if world.runtime.txWire = [] then some { world with scan := .looking 0 } else none
  | .looking slot =>
    if slot < world.table.slots.length then
      some { world with
        scan := if (world.table.job slot).any Job.eventPending then .found slot else .looking (slot + 1) }
    else some { world with scan := .away }
  | .found slot =>
    some { world with
      table := world.table.change slot fun job => { job with eventPending := false }
      scan := .encoded slot (jobEncode (slotInfo world.table slot)) }
  | .encoded slot payload =>
    let streamId := (slotInfo world.table slot).id
    let queued := queueFrame world.runtime (updateReply streamId payload)
    some { world with
      runtime := queued.1
      scan := .away
      emitted := if queued.2 = EspErr.ok then world.emitted ++ [⟨streamId, payload⟩] else world.emitted }

def overSerials (table : JobTable) : List Nat :=
  (table.slots.filterMap id).filterMap fun job => if job.info.state.terminal then some job.serial else none

def jobEventStep (world : EventWorld) : JobEvent → Option EventWorld
  | .create kind cancel =>
    match jobCreate world.table kind cancel with
    | (table, .error _) => some { world with table := table }
    | (table, .ok handle) =>
      some { world with
        table := table
        discarded := world.discarded ++ (world.table.job handle.slot).toList }
  | .update handle progressPermille =>
    some { world with table := (jobUpdate world.table handle progressPermille).1 }
  | .finish handle result => some { world with table := (jobFinish world.table handle result).1 }
  | .clientCancel slot deferred =>
    some { world with table := world.table.change slot (whileRunning fun job => job.marked deferred) }
  | .serveCancel slot =>
    some { world with table := world.table.change slot fun job => { job with cancelPending := false } }
  | .otaMark job => some { world with table := markThrough world.table job }
  | .sessionMark slot => some { world with table := world.table.change slot (whileRunning Job.ending) }
  | .scan => queueJobEvent world
  | .queueOther reply =>
    if world.scan = .away then some { world with runtime := (queueFrame world.runtime reply).1 } else none
  | .transmit =>
    if world.scan = .away then some { world with runtime := { world.runtime with txWire := [], txWireOffset := 0 } }
    else none
  | .sessionBegin =>
    if world.scan = .away then
      some { world with emitted := [], discarded := [], «over» := overSerials world.table }
    else none

def EventWorld.initial (maxJobs : Nat) (runtime : Runtime) : EventWorld where
  table := .initial maxJobs
  runtime := runtime
  scan := .away
  emitted := []
  discarded := []
  «over» := []

def jobEventSystem (maxJobs : Nat) : System EventWorld JobEvent :=
  .ofPartial (fun world => ∃ runtime, world = .initial maxJobs runtime) jobEventStep

/-! What a change of a record keeps, whoever makes it. -/

structure Kept (old new : Job) : Prop where
  serial : new.serial = old.serial
  named : new.info.id = old.info.id
  ended : old.info.state.terminal = true → new.info.state = old.info.state ∧ new.info.result = old.info.result
  pending : old.eventPending = true → new.eventPending = true
  told : old.info.state.terminal = false → new.info.state.terminal = true → new.eventPending = true

theorem Kept.refl (job : Job) : Kept job job :=
  ⟨rfl, rfl, fun _ => ⟨rfl, rfl⟩, id, fun runs ends => absurd (runs.symm.trans ends) Bool.false_ne_true⟩

theorem Kept.of_state (serial : new.serial = old.serial) (named : new.info.id = old.info.id)
    (state : new.info.state = old.info.state) (result : new.info.result = old.info.result)
    (pending : old.eventPending = true → new.eventPending = true) : Kept old new :=
  ⟨serial, named, fun _ => ⟨state, result⟩, pending, fun runs ends =>
    absurd (runs.symm.trans (state ▸ ends)) Bool.false_ne_true⟩

theorem not_terminal_of_running (running : job.info.state = .running) : job.info.state.terminal = false := by
  rw [running]
  rfl

theorem Kept.finished (running : job.info.state = .running) (result : EspErr) :
    Kept job (job.finished result) :=
  ⟨rfl, rfl, fun isOver => absurd ((not_terminal_of_running running).symm.trans isOver) Bool.false_ne_true, fun _ => rfl,
    fun _ _ => rfl⟩

theorem Kept.whileRunning {change : Job → Job} (kept : ∀ job, Kept job (change job)) (job : Job) :
    Kept job (whileRunning change job) := by
  rw [Jobs.whileRunning]
  split
  · exact kept job
  · exact .refl job

theorem Kept.marked (deferred : Bool) (job : Job) : Kept job (job.marked deferred) :=
  .of_state rfl rfl rfl rfl fun _ => rfl

theorem Kept.served (job : Job) : Kept job { job with cancelPending := false } := .of_state rfl rfl rfl rfl fun waits => waits

theorem Kept.ending (job : Job) : Kept job job.ending := .of_state rfl rfl rfl rfl id

structure Rewrites (before after : JobTable) : Prop where
  created : after.created = before.created
  nextJobId : after.nextJobId = before.nextJobId
  kept : ∀ slot, Option.Rel Kept (before.job slot) (after.job slot)

theorem Rewrites.refl (table : JobTable) : Rewrites table table := by
  refine ⟨rfl, rfl, fun slot => ?_⟩
  cases table.job slot with
  | none => exact .none
  | some job => exact .some (.refl job)

theorem Rewrites.write {notes : List JobNote} (held : table.job slot = some old) (kept : Kept old new) :
    Rewrites table (table.write slot new notes) := by
  refine ⟨rfl, rfl, fun other => ?_⟩
  by_cases here : other = slot
  · rw [here, held, JobTable.job_write_same _ _ held]
    exact .some kept
  · rw [JobTable.job_write_other _ _ here]
    exact (Rewrites.refl table).kept other

theorem Rewrites.change {change : Job → Job} (kept : ∀ job, Kept job (change job)) (table : JobTable) (slot : Nat) :
    Rewrites table (table.change slot change) := by
  rw [JobTable.change]
  split
  next => exact .refl table
  next job held => exact .write held (kept job)

theorem jobUpdate_rewrites (table : JobTable) (handle : JobHandle) (progressPermille : UInt16) :
    Rewrites table (jobUpdate table handle progressPermille).1 := by
  rcases jobUpdate_cases table handle progressPermille with same | ⟨job, held, _, updated⟩
  · rw [same]
    exact .refl table
  · rw [updated]
    exact .write held (.of_state rfl rfl rfl rfl fun _ => rfl)

theorem jobFinish_rewrites (table : JobTable) (handle : JobHandle) (result : EspErr) :
    Rewrites table (jobFinish table handle result).1 := by
  rcases jobFinish_cases table handle result with ⟨same, _⟩ | ⟨job, held, running, finished⟩
  · rw [same]
    exact .refl table
  · rw [finished]
    exact .write held (.finished running result)

theorem markThrough_rewrites (table : JobTable) (job : Option JobHandle) : Rewrites table (markThrough table job) := by
  cases job with
  | none => exact .refl table
  | some handle =>
    rw [markThrough]
    split
    next => exact .refl table
    next held is => exact .write is (.of_state rfl rfl rfl rfl id)

theorem Rewrites.before {before after : JobTable} (rewrites : Rewrites before after) (held : after.job slot = some new)
    : ∃ old, before.job slot = some old ∧ Kept old new := by
  have kept := rewrites.kept slot
  rw [held] at kept
  generalize before.job slot = content at kept
  cases kept with
  | some kept => exact ⟨_, rfl, kept⟩

theorem Rewrites.after {before after : JobTable} (rewrites : Rewrites before after) (held : before.job slot = some old)
    : ∃ new, after.job slot = some new ∧ Kept old new := by
  have kept := rewrites.kept slot
  rw [held] at kept
  generalize after.job slot = content at kept
  cases kept with
  | some kept => exact ⟨_, rfl, kept⟩

/-! The numbers of the jobs. -/

structure Numbered (table : JobTable) : Prop where
  bound : ∀ slot job, table.job slot = some job → job.serial < table.created
  distinct : ∀ slot other job another, table.job slot = some job → table.job other = some another →
    job.serial = another.serial → slot = other
  nonzero : ∀ slot job, table.job slot = some job → job.info.id ≠ 0
  ids : table.created < 2 ^ 32 → ∀ slot job, table.job slot = some job → job.info.id.toNat = job.serial + 1
  next : table.created < 2 ^ 32 → table.nextJobId.toNat = table.created

theorem followingId_ne_zero (nextJobId : UInt32) : followingId nextJobId ≠ 0 := by
  rw [followingId]
  split
  · decide
  · assumption

theorem followingId_toNat {nextJobId : UInt32} (room : nextJobId.toNat + 1 < 2 ^ 32) :
    (followingId nextJobId).toNat = nextJobId.toNat + 1 := by
  have sum : (nextJobId + 1).toNat = nextJobId.toNat + 1 := by
    rw [UInt32.toNat_add, show (1 : UInt32).toNat = 1 from rfl, Nat.mod_eq_of_lt room]
  rw [followingId, if_neg, sum]
  intro zero
  rw [zero] at sum
  exact absurd sum (Nat.succ_ne_zero _).symm

theorem job_initial (maxJobs slot : Nat) : (JobTable.initial maxJobs).job slot = none := by
  rw [JobTable.job, JobTable.initial, Slots.get, List.getElem?_replicate]
  split <;> rfl

theorem Numbered.initial (maxJobs : Nat) : Numbered (.initial maxJobs) := by
  have empty : ∀ slot job, (JobTable.initial maxJobs).job slot ≠ some job := by
    intro slot job held
    rw [job_initial] at held
    contradiction
  exact ⟨fun _ _ held => absurd held (empty _ _), fun _ _ _ _ held => absurd held (empty _ _),
    fun _ _ held => absurd held (empty _ _), fun _ _ _ held => absurd held (empty _ _), fun _ => rfl⟩

theorem Numbered.rewrites {before after : JobTable} (numbered : Numbered before) (rewrites : Rewrites before after) :
    Numbered after where
  bound := by
    intro slot job held
    obtain ⟨old, was, kept⟩ := rewrites.before held
    rw [kept.serial, rewrites.created]
    exact numbered.bound slot old was
  distinct := by
    intro slot other job another held found same
    obtain ⟨old, was, kept⟩ := rewrites.before held
    obtain ⟨former, had, stays⟩ := rewrites.before found
    exact numbered.distinct slot other old former was had (kept.serial.symm.trans (same.trans stays.serial))
  nonzero := by
    intro slot job held
    obtain ⟨old, was, kept⟩ := rewrites.before held
    rw [kept.named]
    exact numbered.nonzero slot old was
  ids := by
    intro few slot job held
    obtain ⟨old, was, kept⟩ := rewrites.before held
    rw [kept.named, kept.serial]
    exact numbered.ids (rewrites.created ▸ few) slot old was
  next := by
    intro few
    rw [rewrites.nextJobId, rewrites.created]
    exact numbered.next (rewrites.created ▸ few)

theorem jobCreate_made {table after : JobTable} {handle : JobHandle}
    (made : jobCreate table kind cancel = (after, .ok handle)) :
    Slots.find reusable table.slots = some handle.slot ∧
    after = { table with
      slots := Slots.put table.slots handle.slot (freshJob table kind cancel)
      nextJobId := followingId table.nextJobId
      created := table.created + 1 } := by
  rw [jobCreate] at made
  split at made
  next => cases made
  split at made
  next => cases made
  next slot found =>
    cases made
    exact ⟨found, rfl⟩

theorem Numbered.created {table after : JobTable} {handle : JobHandle} (numbered : Numbered table)
    (made : jobCreate table kind cancel = (after, .ok handle)) : Numbered after := by
  obtain ⟨_, rfl⟩ := jobCreate_made made
  refine ⟨?_, ?_, ?_, ?_, ?_⟩
  · intro slot job held
    rcases Slots.get_put_cases held with ⟨_, rfl⟩ | ⟨_, kept⟩
    · exact Nat.lt_succ_self _
    · exact Nat.lt_succ_of_lt (numbered.bound slot job kept)
  · intro slot other job another held found same
    rcases Slots.get_put_cases held with ⟨rfl, rfl⟩ | ⟨_, kept⟩
    · rcases Slots.get_put_cases found with ⟨rfl, rfl⟩ | ⟨_, stays⟩
      · rfl
      · exact absurd same.symm (Nat.ne_of_lt (numbered.bound other another stays))
    · rcases Slots.get_put_cases found with ⟨rfl, rfl⟩ | ⟨_, stays⟩
      · exact absurd same (Nat.ne_of_lt (numbered.bound slot job kept))
      · exact numbered.distinct slot other job another kept stays same
  · intro slot job held
    rcases Slots.get_put_cases held with ⟨_, rfl⟩ | ⟨_, kept⟩
    · exact followingId_ne_zero _
    · exact numbered.nonzero slot job kept
  · intro few slot job held
    have fewer : table.created + 1 < 2 ^ 32 := few
    rcases Slots.get_put_cases held with ⟨_, rfl⟩ | ⟨_, kept⟩
    · have last := numbered.next (Nat.lt_of_succ_lt fewer)
      show (followingId table.nextJobId).toNat = table.created + 1
      rw [followingId_toNat (last ▸ fewer), last]
    · exact numbered.ids (Nat.lt_of_succ_lt fewer) slot job kept
  · intro few
    have fewer : table.created + 1 < 2 ^ 32 := few
    have last := numbered.next (Nat.lt_of_succ_lt fewer)
    show (followingId table.nextJobId).toNat = table.created + 1
    rw [followingId_toNat (last ▸ fewer), last]

/-! What is queued for whom. -/

theorem irisGetLe32_jobEncode (info : JobInfo) : irisGetLe32 (jobEncode info) 0 = info.id := by
  apply UInt32.toNat_inj.mp
  rw [irisGetLe32_toNat, jobEncode, irisPutLe32_eq, List.append_assoc, List.append_assoc, List.append_assoc,
    List.append_assoc]
  exact Bytes.field_littleEndian 4 info.id.toNat _ info.id.toNat_lt

def Carries (payload : List UInt8) (job : Job) : Prop :=
  ∃ info, payload = jobEncode info ∧ info.id = job.info.id ∧ info.state = job.info.state ∧
    info.result = job.info.result

def Emitted (updates : List JobUpdate) (job : Job) : Prop :=
  ∃ update ∈ updates, update.streamId = job.info.id ∧ Carries update.payload job

theorem Carries.kept {payload : List UInt8} (carries : Carries payload old) (kept : Kept old new)
    (isOver : old.info.state.terminal = true) : Carries payload new := by
  obtain ⟨info, encoded, id, state, result⟩ := carries
  obtain ⟨sameState, sameResult⟩ := kept.ended isOver
  exact ⟨info, encoded, id.trans kept.named.symm, state.trans sameState.symm, result.trans sameResult.symm⟩

theorem Emitted.kept {updates : List JobUpdate} (emitted : Emitted updates old) (kept : Kept old new)
    (isOver : old.info.state.terminal = true) : Emitted updates new := by
  obtain ⟨update, member, stream, carries⟩ := emitted
  exact ⟨update, member, stream.trans kept.named.symm, carries.kept kept isOver⟩

theorem Emitted.append {updates : List JobUpdate} (emitted : Emitted updates job) (more : List JobUpdate) :
    Emitted (updates ++ more) job := by
  obtain ⟨update, member, told⟩ := emitted
  exact ⟨update, List.mem_append_left _ member, told⟩

def ScanPoint.encodes : ScanPoint → Nat → Bool
  | .encoded slot _, other => slot = other
  | _, _ => false

def sparesUpdates (world : EventWorld) : JobEvent → Bool
  | .create kind cancel =>
    match jobCreate world.table kind cancel with
    | (_, .ok handle) =>
      (world.table.job handle.slot).all (fun job => !job.eventPending) && !world.scan.encodes handle.slot
    | _ => true
  | _ => true

def Told (world : EventWorld) (slot : Nat) (job : Job) : Prop :=
  job.eventPending = true ∨ Emitted world.emitted job ∨
    ∃ payload, world.scan = .encoded slot payload ∧ Carries payload job

structure EventsSound (world : EventWorld) : Prop where
  numbered : Numbered world.table
  free : world.scan ≠ .away → world.runtime.txWire = []
  encoded : ∀ slot payload, world.scan = .encoded slot payload →
    ∃ job, world.table.job slot = some job ∧ ∃ info, payload = jobEncode info ∧ info.id = job.info.id
  found : ∀ slot, world.scan = .found slot → ∃ job, world.table.job slot = some job
  told : ∀ slot job, world.table.job slot = some job → job.info.state.terminal = true → job.serial ∉ world.over →
    Told world slot job
  delivered : ∀ job ∈ world.discarded, job.serial ∉ world.over → Emitted world.emitted job
  named : ∀ update ∈ world.emitted, ∃ info, update.payload = jobEncode info ∧ update.streamId = info.id

section steps
variable {world after : EventWorld}

theorem EventsSound.initial (maxJobs : Nat) (runtime : Runtime) : EventsSound (.initial maxJobs runtime) where
  numbered := .initial maxJobs
  free := fun busy => absurd rfl busy
  encoded := nofun
  found := nofun
  told := by
    intro slot job held
    rw [show (EventWorld.initial maxJobs runtime).table.job slot = none from job_initial maxJobs slot] at held
    contradiction
  delivered := nofun
  named := nofun

section sound
variable (sound : EventsSound world)
include sound

theorem EventsSound.rewrites (rewrites : Rewrites world.table table) :
    EventsSound { world with table := table } where
  numbered := sound.numbered.rewrites rewrites
  free := sound.free
  encoded := by
    intro slot payload here
    obtain ⟨old, was, info, encoded, names⟩ := sound.encoded slot payload here
    obtain ⟨job, held, kept⟩ := rewrites.after was
    exact ⟨job, held, info, encoded, names.trans kept.named.symm⟩
  found := by
    intro slot here
    obtain ⟨old, was⟩ := sound.found slot here
    obtain ⟨job, held, _⟩ := rewrites.after was
    exact ⟨job, held⟩
  told := by
    intro slot job held isOver new
    obtain ⟨old, was, kept⟩ := rewrites.before held
    cases before : old.info.state.terminal with
    | false => exact .inl (kept.told before isOver)
    | true =>
      rcases sound.told slot old was before (kept.serial ▸ new) with pending | emitted | ⟨payload, here, carries⟩
      · exact .inl (kept.pending pending)
      · exact .inr (.inl (emitted.kept kept before))
      · exact .inr (.inr ⟨payload, here, carries.kept kept before⟩)
  delivered := sound.delivered
  named := sound.named

theorem EventsSound.create (spares : sparesUpdates world (.create kind cancel) = true)
    (step : jobEventStep world (.create kind cancel) = some after) : EventsSound after := by
  rw [jobEventStep] at step
  split at step
  next table code refused =>
    have same : table = world.table := by
      rcases jobCreate_cases world.table kind cancel with ⟨other, still⟩ | ⟨slot, _, _, created⟩
      · rw [still] at refused
        exact (congrArg Prod.fst refused).symm
      · rw [created] at refused
        exact absurd (congrArg Prod.snd refused) nofun
    cases step
    rw [same]
    exact sound
  next table handle made =>
    have numbered := sound.numbered.created made
    rw [sparesUpdates, made, Bool.and_eq_true] at spares
    obtain ⟨quiet, elsewhere⟩ := spares
    obtain ⟨taken, rfl⟩ := jobCreate_made made
    obtain ⟨inside, vacant⟩ := Slots.find_vacant taken
    have elsewhere : world.scan.encodes handle.slot = false := by
      rw [← Bool.not_eq_true', elsewhere]
    have other : ∀ slot payload, world.scan = .encoded slot payload → slot ≠ handle.slot := by
      intro slot payload here same
      rw [here, ScanPoint.encodes, same, decide_eq_true rfl] at elsewhere
      contradiction
    cases step
    refine ⟨numbered, sound.free, ?_, ?_, ?_, ?_, sound.named⟩
    · intro slot payload here
      obtain ⟨job, held, names⟩ := sound.encoded slot payload here
      exact ⟨job, (Slots.get_put_other _ _ (other slot payload here)).trans held, names⟩
    · intro slot here
      obtain ⟨job, held⟩ := sound.found slot here
      by_cases same : slot = handle.slot
      · rw [same]
        exact ⟨_, Slots.get_put_same _ inside⟩
      · exact ⟨job, (Slots.get_put_other _ _ same).trans held⟩
    · intro slot job held isOver new
      rcases Slots.get_put_cases held with ⟨_, rfl⟩ | ⟨_, kept⟩
      · contradiction
      · exact sound.told slot job kept isOver new
    · intro job member new
      rcases List.mem_append.mp member with before | last
      · exact sound.delivered job before new
      · have held : world.table.job handle.slot = some job := Option.mem_toList.mp last
        have isOver : job.info.state.terminal = true := by
          have empty : reusable (world.table.job handle.slot) = true := vacant
          rw [held] at empty
          exact empty
        rw [held, Option.all_some, Bool.not_eq_true'] at quiet
        rcases sound.told handle.slot job held isOver new with pending | emitted | ⟨payload, here, _⟩
        · rw [quiet] at pending
          contradiction
        · exact emitted
        · exact absurd rfl (other handle.slot payload here)

/-- The flag goes down as the record is encoded, so what it told is told by the payload. -/
theorem EventsSound.encode (here : world.scan = .found slot) :
    EventsSound { world with
      table := world.table.change slot fun job => { job with eventPending := false }
      scan := .encoded slot (jobEncode (slotInfo world.table slot)) } := by
  obtain ⟨job, held⟩ := sound.found slot here
  have info : slotInfo world.table slot = job.info := by
    rw [slotInfo, held]
    rfl
  have changed : world.table.change slot (fun job => { job with eventPending := false }) =
      world.table.write slot { job with eventPending := false } [] := by rw [JobTable.change, held]
  rw [changed, info]
  have now : (world.table.write slot { job with eventPending := false } []).job slot =
      some { job with eventPending := false } := JobTable.job_write_same _ _ held
  have former : ∀ place other, (world.table.write slot { job with eventPending := false } []).job place = some other →
      ∃ old, world.table.job place = some old ∧ other.serial = old.serial ∧ other.info = old.info := by
    intro place other is
    rcases JobTable.job_write_cases is with ⟨rfl, rfl⟩ | ⟨_, kept⟩
    · exact ⟨job, held, rfl, rfl⟩
    · exact ⟨other, kept, rfl, rfl⟩
  refine ⟨⟨?_, ?_, ?_, ?_, sound.numbered.next⟩, ?_, ?_, nofun, ?_, sound.delivered, sound.named⟩
  · intro place other is
    obtain ⟨old, was, serial, _⟩ := former place other is
    exact serial ▸ sound.numbered.bound place old was
  · intro place elsewhere other another is found same
    obtain ⟨old, was, serial, _⟩ := former place other is
    obtain ⟨older, had, number, _⟩ := former elsewhere another found
    exact sound.numbered.distinct place elsewhere old older was had (serial.symm.trans (same.trans number))
  · intro place other is
    obtain ⟨old, was, _, same⟩ := former place other is
    exact same ▸ sound.numbered.nonzero place old was
  · intro few place other is
    obtain ⟨old, was, serial, same⟩ := former place other is
    rw [same, serial]
    exact sound.numbered.ids few place old was
  · intro _
    exact sound.free (by rw [here]; nofun)
  · intro place payload at_
    cases at_
    exact ⟨_, now, job.info, rfl, rfl⟩
  · intro place other is isOver new
    rcases JobTable.job_write_cases is with ⟨rfl, rfl⟩ | ⟨elsewhere, kept⟩
    · exact .inr (.inr ⟨_, rfl, job.info, rfl, rfl, rfl, rfl⟩)
    · rcases sound.told place other kept isOver new with pending | emitted | ⟨payload, point, _⟩
      · exact .inl pending
      · exact .inr (.inl emitted)
      · rw [here] at point
        contradiction

/-- What was encoded goes into the free transmit slot, under the id of its own job. -/
theorem EventsSound.queue {payload : List UInt8} (here : world.scan = .encoded slot payload)
    (step : queueJobEvent world = some after) : EventsSound after := by
  obtain ⟨job, held, info, encoded, names⟩ := sound.encoded slot payload here
  have named : slotInfo world.table slot = job.info := by
    rw [slotInfo, held]
    rfl
  have fits : (updateReply job.info.id payload).Fits := by
    rw [encoded]
    exact ⟨(by decide : Channel.event < Channel.count), (by decide : 16 ≤ maxPayloadSize)⟩
  have queued : (queueFrame world.runtime (updateReply job.info.id payload)).2 = EspErr.ok := by
    rw [queueFrame_empty _ _ (sound.free (by rw [here]; nofun)) fits]
  rw [queueJobEvent, here] at step
  dsimp only at step
  rw [named, if_pos queued] at step
  cases step
  refine ⟨sound.numbered, fun busy => absurd rfl busy, nofun, nofun, ?_, ?_, ?_⟩
  · intro place other is isOver new
    rcases sound.told place other is isOver new with pending | emitted | ⟨bytes, point, carries⟩
    · exact .inl pending
    · exact .inr (.inl (emitted.append _))
    · rw [here] at point
      cases point
      cases held.symm.trans is
      exact .inr (.inl ⟨_, List.mem_append_right _ (List.mem_singleton.mpr rfl), rfl, carries⟩)
  · intro other member new
    exact (sound.delivered other member new).append _
  · intro update member
    rcases List.mem_append.mp member with before | last
    · exact sound.named update before
    · cases List.mem_singleton.mp last
      exact ⟨info, encoded, names.symm⟩

/-- The protocol task goes from one point to another with nothing encoded. -/
theorem EventsSound.point {scan : ScanPoint} {runtime : Runtime}
    (before : ∀ slot payload, world.scan ≠ .encoded slot payload)
    (unencoded : ∀ slot payload, scan ≠ .encoded slot payload) (free : scan ≠ .away → runtime.txWire = [])
    (found : ∀ slot, scan = .found slot → ∃ job, world.table.job slot = some job) :
    EventsSound { world with scan := scan, runtime := runtime } where
  numbered := sound.numbered
  free := free
  encoded := fun slot payload here => absurd here (unencoded slot payload)
  found := found
  told := by
    intro slot job held isOver new
    rcases sound.told slot job held isOver new with pending | emitted | ⟨payload, here, _⟩
    · exact .inl pending
    · exact .inr (.inl emitted)
    · exact absurd here (before slot payload)
  delivered := sound.delivered
  named := sound.named

theorem EventsSound.scan (step : queueJobEvent world = some after) : EventsSound after := by
  cases here : world.scan with
  | away =>
    rw [queueJobEvent, here, Option.ite_none_right_eq_some] at step
    obtain ⟨free, step⟩ := step
    cases step
    exact sound.point (by rw [here]; nofun) nofun (fun _ => free) nofun
  | looking slot =>
    have free := sound.free (by rw [here]; nofun)
    rw [queueJobEvent, here] at step
    dsimp only at step
    split at step
    next =>
      split at step
      next pending =>
        cases step
        refine sound.point (by rw [here]; nofun) nofun (fun _ => free) fun other same => ?_
        cases same
        obtain ⟨job, held, _⟩ := (Option.any_eq_true _ _).mp pending
        exact ⟨job, held⟩
      cases step
      exact sound.point (by rw [here]; nofun) nofun (fun _ => free) nofun
    cases step
    exact sound.point (by rw [here]; nofun) nofun (fun _ => free) nofun
  | found slot =>
    rw [queueJobEvent, here] at step
    cases step
    exact sound.encode here
  | encoded slot payload => exact sound.queue here step

end sound

theorem mem_overSerials (held : table.job slot = some job) (isOver : job.info.state.terminal = true) :
    job.serial ∈ overSerials table := by
  rw [overSerials, List.mem_filterMap]
  refine ⟨job, List.mem_filterMap.mpr ⟨some job, ?_, rfl⟩, if_pos isOver⟩
  rw [JobTable.job, Slots.get, Option.join_eq_some_iff] at held
  exact List.mem_of_getElem? held

theorem EventsSound.step {event : JobEvent} (sound : EventsSound world) (spares : sparesUpdates world event = true)
    (step : jobEventStep world event = some after) : EventsSound after := by
  cases event with
  | create kind cancel => exact sound.create spares step
  | update handle progressPermille =>
    cases step
    exact sound.rewrites (jobUpdate_rewrites _ _ _)
  | finish handle result =>
    cases step
    exact sound.rewrites (jobFinish_rewrites _ _ _)
  | clientCancel slot deferred =>
    cases step
    exact sound.rewrites (.change (Kept.whileRunning (Kept.marked deferred)) _ _)
  | serveCancel slot =>
    cases step
    exact sound.rewrites (.change Kept.served _ _)
  | otaMark job =>
    cases step
    exact sound.rewrites (markThrough_rewrites _ _)
  | sessionMark slot =>
    cases step
    exact sound.rewrites (.change (Kept.whileRunning Kept.ending) _ _)
  | scan => exact sound.scan step
  | queueOther reply =>
    rw [jobEventStep, Option.ite_none_right_eq_some] at step
    obtain ⟨here, step⟩ := step
    cases step
    exact @EventsSound.point _ sound world.scan (queueFrame world.runtime reply).1 (by rw [here]; nofun)
      (by rw [here]; nofun) (fun busy => absurd here busy) (by rw [here]; nofun)
  | transmit =>
    rw [jobEventStep, Option.ite_none_right_eq_some] at step
    obtain ⟨here, step⟩ := step
    cases step
    exact @EventsSound.point _ sound world.scan { world.runtime with txWire := [], txWireOffset := 0 }
      (by rw [here]; nofun) (by rw [here]; nofun) (fun busy => absurd here busy) (by rw [here]; nofun)
  | sessionBegin =>
    rw [jobEventStep, Option.ite_none_right_eq_some] at step
    obtain ⟨here, step⟩ := step
    cases step
    exact ⟨sound.numbered, sound.free, sound.encoded, sound.found,
      fun slot job held isOver new => absurd (mem_overSerials held isOver) new, nofun, nofun⟩

def StaysOver (before after : EventWorld) : Prop :=
  ∀ slot job, before.table.job slot = some job → job.info.state.terminal = true →
    (∃ now, after.table.job slot = some now ∧ now.serial = job.serial ∧ now.info.state = job.info.state ∧
      now.info.result = job.info.result) ∨ job ∈ after.discarded

theorem Rewrites.stays (rewrites : Rewrites world.table table) :
    StaysOver world { world with table := table } := by
  intro slot job held isOver
  obtain ⟨now, is, kept⟩ := rewrites.after held
  exact .inl ⟨now, is, kept.serial, kept.ended isOver⟩

theorem StaysOver.of_table (same : after.table = world.table) : StaysOver world after := by
  intro slot job held isOver
  rw [← same] at held
  exact .inl ⟨job, held, rfl, rfl, rfl⟩

theorem StaysOver.create (step : jobEventStep world (.create kind cancel) = some after) : StaysOver world after := by
  rw [jobEventStep] at step
  split at step
  next table code refused =>
    cases step
    rcases jobCreate_cases world.table kind cancel with ⟨other, still⟩ | ⟨slot, _, _, created⟩
    · rw [still] at refused
      exact .of_table (congrArg Prod.fst refused).symm
    · rw [created] at refused
      exact absurd (congrArg Prod.snd refused) nofun
  next table handle made =>
    obtain ⟨_, rfl⟩ := jobCreate_made made
    cases step
    intro slot job held isOver
    by_cases same : slot = handle.slot
    · rw [same] at held
      exact .inr (List.mem_append_right _ (Option.mem_toList.mpr held))
    · exact .inl ⟨job, (Slots.get_put_other _ _ same).trans held, rfl, rfl, rfl⟩

theorem StaysOver.scan (step : queueJobEvent world = some after) : StaysOver world after := by
  rw [queueJobEvent] at step
  split at step
  next =>
    rw [Option.ite_none_right_eq_some] at step
    cases step.2
    exact .of_table rfl
  next =>
    split at step
    · cases step
      exact .of_table rfl
    · cases step
      exact .of_table rfl
  next slot _ =>
    cases step
    intro place job held isOver
    by_cases same : place = slot
    · subst same
      refine .inl ⟨{ job with eventPending := false }, ?_, rfl, rfl, rfl⟩
      rw [JobTable.change, held]
      exact JobTable.job_write_same _ _ held
    · refine .inl ⟨job, ?_, rfl, rfl, rfl⟩
      rw [JobTable.change]
      split
      · exact held
      · exact (JobTable.job_write_other _ _ same).trans held
  cases step
  exact .of_table rfl

theorem StaysOver.step {event : JobEvent} (step : jobEventStep world event = some after) : StaysOver world after := by
  cases event with
  | create kind cancel => exact .create step
  | update handle progressPermille =>
    cases step
    exact (jobUpdate_rewrites _ _ _).stays
  | finish handle result =>
    cases step
    exact (jobFinish_rewrites _ _ _).stays
  | clientCancel slot deferred =>
    cases step
    exact (Rewrites.change (Kept.whileRunning (Kept.marked deferred)) _ _).stays
  | serveCancel slot =>
    cases step
    exact (Rewrites.change Kept.served _ _).stays
  | otaMark job =>
    cases step
    exact (markThrough_rewrites _ _).stays
  | sessionMark slot =>
    cases step
    exact (Rewrites.change (Kept.whileRunning Kept.ending) _ _).stays
  | scan => exact .scan step
  | queueOther reply =>
    rw [jobEventStep, Option.ite_none_right_eq_some] at step
    cases step.2
    exact .of_table rfl
  | transmit =>
    rw [jobEventStep, Option.ite_none_right_eq_some] at step
    cases step.2
    exact .of_table rfl
  | sessionBegin =>
    rw [jobEventStep, Option.ite_none_right_eq_some] at step
    cases step.2
    exact .of_table rfl

structure RetainedIds (table : JobTable) : Prop where
  nonzero : ∀ slot job, table.job slot = some job → job.info.id ≠ 0
  distinct : ∀ slot other job another, table.job slot = some job → table.job other = some another →
    job.info.id = another.info.id → slot = other

theorem Numbered.retained (numbered : Numbered table) (few : table.created < 2 ^ 32) :
    RetainedIds table where
  nonzero := numbered.nonzero
  distinct := by
    intro slot other job another held found same
    have first := numbered.ids few slot job held
    have second := numbered.ids few other another found
    rw [same, second] at first
    exact numbered.distinct slot other job another held found (Nat.succ.inj first).symm

/-- Where creations spare the updates, every job that ended in the session was told of before its
record was overwritten, and every update names its own job. In any run an ended job stays as it
ended, and the ids of the retained jobs differ. -/
theorem terminal_updates_emitted {maxJobs : Nat}
    (reached : Reachable ((jobEventSystem maxJobs).guarded fun world event => sparesUpdates world event = true) world) :
    (∀ job ∈ world.discarded, job.serial ∉ world.over → Emitted world.emitted job) ∧
    (∀ update ∈ world.emitted, ∃ info, update.payload = jobEncode info ∧ update.streamId = info.id) ∧
    (∀ event after, jobEventStep world event = some after → StaysOver world after) ∧
    (world.table.created < 2 ^ 32 → RetainedIds world.table) := by
  have invariant : Invariant ((jobEventSystem maxJobs).guarded fun world event => sparesUpdates world event = true)
      EventsSound := by
    refine ⟨?_, fun before event after sound step => sound.step step.1 step.2⟩
    rintro _ ⟨runtime, rfl⟩
    exact .initial maxJobs runtime
  have sound := invariant.reachable reached
  exact ⟨sound.delivered, sound.named, fun event after step => .step step, sound.numbered.retained⟩

end steps

def endedUnseen : List JobEvent := [.create 7 none, .finish ⟨0, 0⟩ EspErr.ok, .create 7 none]

def endedEncoded : List JobEvent :=
  [.create 7 none, .scan, .scan, .scan, .finish ⟨0, 0⟩ EspErr.ok, .create 7 none, .scan]

def firstWorld : EventWorld := .initial 1 .zero

/-- An end is never told, and an update is sent under the id of another job. -/
theorem terminal_update_lost :
    ¬ (∀ world, Reachable (jobEventSystem 1) world →
      ∀ job ∈ world.discarded, job.serial ∉ world.over → Emitted world.emitted job) ∧
    ¬ (∀ world, Reachable (jobEventSystem 1) world →
      ∀ update ∈ world.emitted, ∃ info, update.payload = jobEncode info ∧ update.streamId = info.id) := by
  constructor
  · intro told
    obtain ⟨world, run, checked⟩ : ∃ world, Run (jobEventSystem 1) firstWorld endedUnseen world ∧
        (!world.discarded.isEmpty && world.emitted.isEmpty && world.over.isEmpty) = true := Run.of_check (by decide)
    rw [Bool.and_eq_true, Bool.and_eq_true, List.isEmpty_iff, List.isEmpty_iff] at checked
    obtain ⟨⟨lost, none⟩, isOver⟩ := checked
    obtain ⟨job, member⟩ := List.exists_mem_of_ne_nil world.discarded (by simpa using lost)
    obtain ⟨update, emitted, _⟩ := told world ⟨_, _, ⟨.zero, rfl⟩, run⟩ job member (by rw [isOver]; exact List.not_mem_nil)
    rw [none] at emitted
    exact List.not_mem_nil emitted
  · intro named
    obtain ⟨world, run, checked⟩ : ∃ world, Run (jobEventSystem 1) firstWorld endedEncoded world ∧
        world.emitted.any (fun update => irisGetLe32 update.payload 0 ≠ update.streamId) = true :=
      Run.of_check (by decide +kernel)
    obtain ⟨update, member, wrong⟩ := List.any_eq_true.mp checked
    obtain ⟨info, payload, same⟩ := named world ⟨_, _, ⟨.zero, rfl⟩, run⟩ update member
    apply of_decide_eq_true wrong
    rw [payload, same, irisGetLe32_jobEncode]

def endedSeen : List JobEvent :=
  [.create 7 none, .finish ⟨0, 0⟩ EspErr.ok, .scan, .scan, .scan, .scan, .transmit, .create 7 none]

theorem terminal_updates_emitted_once :
    ∃ world, Reachable ((jobEventSystem 1).guarded fun world event => sparesUpdates world event = true) world ∧
      (∃ job ∈ world.discarded, job.info.state = .succeeded ∧ Emitted world.emitted job) := by
  obtain ⟨world, run, checked⟩ : ∃ world,
      Run ((jobEventSystem 1).guarded fun world event => sparesUpdates world event = true) firstWorld endedSeen world ∧
        world.discarded.any (fun job => job.info.state = .succeeded ∧ job.serial ∉ world.over) = true :=
    Run.of_guarded_check (by decide +kernel)
  obtain ⟨job, member, ended⟩ := List.any_eq_true.mp checked
  obtain ⟨succeeded, new⟩ := of_decide_eq_true ended
  have reached : Reachable ((jobEventSystem 1).guarded fun world event => sparesUpdates world event = true) world :=
    ⟨_, _, ⟨.zero, rfl⟩, run⟩
  exact ⟨world, reached, job, member, succeeded, (terminal_updates_emitted reached).1 job member new⟩

end Jobs

end EspIris.Device
