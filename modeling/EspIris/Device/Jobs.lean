import EspIris.Codec.Device
import EspIris.Lib.Slots

/-! The job table of `esp_iris_services.c`. A handle is the address of a slot, and a slot is used
again as soon as its job is over; the numbers of the creations, which the code does not have,
tell the jobs of one slot apart. -/

namespace EspIris.Device.Jobs
open Codec.Device (irisPutLe16 irisPutLe32)

/-- `esp_iris_job_state_t`. -/
inductive JobState
  | queued
  | running
  | succeeded
  | failed
  | cancelled
  deriving DecidableEq, Repr

def JobState.code : JobState → UInt8
  | .queued => 0
  | .running => 1
  | .succeeded => 2
  | .failed => 3
  | .cancelled => 4

/-- `state >= ESP_IRIS_JOB_SUCCEEDED`. -/
def JobState.terminal (state : JobState) : Bool := state.code ≥ 2

/-- `esp_iris_job_info_t`. -/
structure JobInfo where
  id : UInt32
  kind : UInt16
  state : JobState
  progressPermille : UInt16
  result : EspErr
  cancelRequested : Bool
  deriving DecidableEq, Repr

/-- The info that a caller of `esp_iris_job_get_info` has set to zero before. -/
def JobInfo.zero : JobInfo where
  id := 0
  kind := 0
  state := .queued
  progressPermille := 0
  result := 0
  cancelRequested := false

/-- The cancel callback of a job with its `user_ctx`. -/
inductive JobCancel
  | otaJobCancel
  | systemJobCancel
  | application (userCtx : Nat)
  deriving DecidableEq, Repr

/-- `struct esp_iris_job` in a slot whose magic is set. `serial` is the number of its creation. -/
structure Job where
  info : JobInfo
  cancel : Option JobCancel
  eventPending : Bool
  cancelPending : Bool
  serial : Nat
  deriving DecidableEq, Repr

/-- `esp_iris_job_handle_t`: only the slot is in it. `serial` is the creation that returned it. -/
structure JobHandle where
  slot : Nat
  serial : Nat
  deriving DecidableEq, Repr

/-- What happened to jobs: a call through the handle of one creation changed the job of another,
a job ended, its callback was invoked, at a session end or not. -/
inductive JobNote
  | acted (through serial : Nat)
  | ended (serial : Nat) (state : JobState)
  | called (serial : Nat) (sessionEnd : Bool)
  deriving DecidableEq, Repr

def JobNote.about : JobNote → Nat
  | .acted _ serial => serial
  | .ended serial _ => serial
  | .called serial _ => serial

/-- The jobs of `iris_service_state_t`. The count of creations and the notes are not in the code. -/
structure JobTable where
  slots : List (Option Job)
  nextJobId : UInt32
  created : Nat
  notes : List JobNote
  deriving DecidableEq, Repr

def JobTable.initial (maxJobs : Nat) : JobTable where
  slots := List.replicate maxJobs none
  nextJobId := 0
  created := 0
  notes := []

def JobTable.job (table : JobTable) (slot : Nat) : Option Job := Slots.get table.slots slot

def JobTable.write (table : JobTable) (slot : Nat) (job : Job) (notes : List JobNote) : JobTable :=
  { table with slots := Slots.put table.slots slot job, notes := table.notes ++ notes }

def JobTable.note (table : JobTable) (notes : List JobNote) : JobTable :=
  { table with notes := table.notes ++ notes }

/-- `do { id = ++next_job_id } while (id == 0)`. -/
def followingId (nextJobId : UInt32) : UInt32 := if nextJobId + 1 = 0 then 1 else nextJobId + 1

/-- The slots that `esp_iris_job_create` takes. -/
def reusable (content : Option Job) : Bool := content.all fun job => job.info.state.terminal

def freshJob (table : JobTable) (kind : UInt16) (cancel : Option JobCancel) : Job where
  info := { JobInfo.zero with id := followingId table.nextJobId, kind := kind, state := .running }
  cancel := cancel
  eventPending := true
  cancelPending := false
  serial := table.created

def jobCreate (table : JobTable) (kind : UInt16) (cancel : Option JobCancel) :
    JobTable × Except EspErr JobHandle :=
  if kind = 0 then (table, .error EspErr.invalidArg)
  else
    match Slots.find reusable table.slots with
    | none => (table, .error EspErr.noMem)
    | some slot =>
      ({ table with
          slots := Slots.put table.slots slot (freshJob table kind cancel)
          nextJobId := followingId table.nextJobId
          created := table.created + 1 },
        .ok ⟨slot, table.created⟩)

def jobUpdate (table : JobTable) (handle : JobHandle) (progressPermille : UInt16) : JobTable × EspErr :=
  match table.job handle.slot with
  | none => (table, EspErr.invalidArg)
  | some job =>
    if progressPermille > 1000 then (table, EspErr.invalidArg)
    else if job.info.state ≠ .running then (table, EspErr.invalidState)
    else
      (table.write handle.slot
        { job with info := { job.info with progressPermille := progressPermille }, eventPending := true }
        [.acted handle.serial job.serial], EspErr.ok)

def JobInfo.outcome (info : JobInfo) (result : EspErr) : JobState :=
  if info.cancelRequested then .cancelled else if result = EspErr.ok then .succeeded else .failed

def Job.finished (job : Job) (result : EspErr) : Job :=
  { job with
    info := { job.info with
      result := result
      progressPermille := if result = EspErr.ok then 1000 else job.info.progressPermille
      state := job.info.outcome result }
    eventPending := true }

def jobFinish (table : JobTable) (handle : JobHandle) (result : EspErr) : JobTable × EspErr :=
  match table.job handle.slot with
  | none => (table, EspErr.invalidArg)
  | some job =>
    if job.info.state ≠ .running then (table, EspErr.invalidState)
    else
      (table.write handle.slot (job.finished result)
        [.acted handle.serial job.serial, .ended job.serial (job.info.outcome result)], EspErr.ok)

def jobCancelRequested (table : JobTable) (handle : JobHandle) : Bool :=
  (table.job handle.slot).any fun job => job.info.cancelRequested

/-- `esp_iris_job_get_info`, into an info that was set to zero. -/
def jobGetInfo (table : JobTable) (handle : JobHandle) : JobInfo :=
  ((table.job handle.slot).map Job.info).getD JobInfo.zero

/-- `find_job`: the slot of the job with this id. -/
def findJob (table : JobTable) (id : UInt32) : Option Nat :=
  table.slots.findIdx? fun content => content.any fun job => job.info.id = id

def jobEncode (info : JobInfo) : List UInt8 :=
  irisPutLe32 info.id ++ irisPutLe16 info.kind ++ [info.state.code, if info.cancelRequested then 1 else 0] ++
    irisPutLe16 info.progressPermille ++ irisPutLe16 0 ++ irisPutLe32 info.result

/-- A client's CANCEL marks a job; `deferred` leaves its callback to the worker. -/
def Job.marked (job : Job) (deferred : Bool) : Job :=
  { job with
    info := { job.info with cancelRequested := true }
    eventPending := true
    cancelPending := job.cancelPending || deferred }

def Job.ending (job : Job) : Job := { job with info := { job.info with cancelRequested := true } }

/-! What the calls do to a table, once for each. -/

section calls
variable {table : JobTable} {handle : JobHandle}

theorem JobTable.job_write_same {slot : Nat} {old : Job} (job : Job) (notes : List JobNote)
    (held : table.job slot = some old) : (table.write slot job notes).job slot = some job :=
  Slots.get_put_same job (Slots.inside_of_get held)

theorem JobTable.job_write_other {slot other : Nat} (job : Job) (notes : List JobNote) (different : other ≠ slot) :
    (table.write slot job notes).job other = table.job other :=
  Slots.get_put_other table.slots job different

theorem JobTable.job_write_cases {slot other : Nat} {job found : Job} {notes : List JobNote}
    (held : (table.write slot job notes).job other = some found) :
    (other = slot ∧ found = job) ∨ (other ≠ slot ∧ table.job other = some found) :=
  Slots.get_put_cases held

/-- An update leaves the table alone, or goes to the running job in the slot. -/
theorem jobUpdate_cases (table : JobTable) (handle : JobHandle) (progressPermille : UInt16) :
    (jobUpdate table handle progressPermille).1 = table ∨
    ∃ job, table.job handle.slot = some job ∧ job.info.state = .running ∧
      (jobUpdate table handle progressPermille).1 = table.write handle.slot
        { job with info := { job.info with progressPermille := progressPermille }, eventPending := true }
        [.acted handle.serial job.serial] := by
  rw [jobUpdate]
  split
  next => exact .inl rfl
  next job held =>
    split
    next => exact .inl rfl
    split
    next => exact .inl rfl
    next running => exact .inr ⟨job, held, not_not.mp running, rfl⟩

/-- A finish leaves the table alone, or ends the running job in the slot. -/
theorem jobFinish_cases (table : JobTable) (handle : JobHandle) (result : EspErr) :
    ((jobFinish table handle result).1 = table ∧
      ∀ job, table.job handle.slot = some job → job.info.state ≠ .running) ∨
    ∃ job, table.job handle.slot = some job ∧ job.info.state = .running ∧
      (jobFinish table handle result).1 = table.write handle.slot (job.finished result)
        [.acted handle.serial job.serial, .ended job.serial (job.info.outcome result)] := by
  rw [jobFinish]
  split
  next empty =>
    refine .inl ⟨rfl, fun job held => ?_⟩
    rw [empty] at held
    contradiction
  next job held =>
    split
    next isOver =>
      refine .inl ⟨rfl, fun other found => ?_⟩
      cases held.symm.trans found
      exact isOver
    next running => exact .inr ⟨job, held, not_not.mp running, rfl⟩

/-- A creation leaves the table alone, or takes a slot that is empty or whose job is over. -/
theorem jobCreate_cases (table : JobTable) (kind : UInt16) (cancel : Option JobCancel) :
    (∃ code, jobCreate table kind cancel = (table, .error code)) ∨
    ∃ slot, slot < table.slots.length ∧ reusable (table.job slot) = true ∧
      jobCreate table kind cancel =
        ({ table with
            slots := Slots.put table.slots slot (freshJob table kind cancel)
            nextJobId := followingId table.nextJobId
            created := table.created + 1 },
          .ok ⟨slot, table.created⟩) := by
  rw [jobCreate]
  split
  next => exact .inl ⟨_, rfl⟩
  split
  next => exact .inl ⟨_, rfl⟩
  next slot found => exact .inr ⟨slot, (Slots.find_vacant found).1, (Slots.find_vacant found).2, rfl⟩

theorem outcome_terminal (info : JobInfo) (result : EspErr) : (info.outcome result).terminal = true := by
  rw [JobInfo.outcome]
  split
  · rfl
  · split <;> rfl

end calls

end EspIris.Device.Jobs
