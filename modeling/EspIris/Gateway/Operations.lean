import EspIris.Gateway.OperationIdentity
import EspIris.Lib.Machine

/-! `OperationManager` over its store: operations that are submitted or executed, each in a task of
the event loop, and the recovery of the rows when the gateway starts again. A task that is
scheduled or sleeps for zero seconds waits its turn in the ready queue; every other await resumes
whenever the environment says so. -/

namespace EspIris.Gateway.Operations
open Machine

inductive OperationState
  | queued
  | running
  | preservingEvidence
  | enteringRecovery
  | waitingRecovery
  | recoveryConnected
  | preparingOta
  | erasing
  | validatingPlan
  | transferring
  | verifying
  | committing
  | waitingDevice
  | reconnecting
  | succeeded
  | failed
  | cancelled
  | interrupted
  | outcomeUnknown
  deriving DecidableEq, Repr

/-- `TERMINAL_OPERATION_STATES`. -/
def OperationState.isTerminal : OperationState → Bool
  | .succeeded | .failed | .cancelled | .interrupted | .outcomeUnknown => true
  | _ => false

def operationTransitions : OperationState → OperationState → Bool
  | .queued, target => target ∈ [.running, .cancelled, .interrupted, .outcomeUnknown]
  | source, _ => ! source.isTerminal

/-- `operation_transition`; a refused transition has no result. -/
def operationTransition (current requested : OperationState) : Option OperationState :=
  if current = requested ∧ current.isTerminal = false then some requested
  else if operationTransitions current requested then some requested
  else none

theorem operationTransition_active {current requested target : OperationState}
    (allowed : operationTransition current requested = some target) : current.isTerminal = false ∧ target = requested := by
  unfold operationTransition at allowed
  split at allowed
  next same => exact ⟨same.2, (Option.some.inj allowed).symm⟩
  split at allowed
  next legal =>
    refine ⟨?_, (Option.some.inj allowed).symm⟩
    cases current <;> first | rfl | cases legal
  next => contradiction

/-- An active operation can begin and be given up; it ends in another way only once it has begun. -/
theorem operationTransition_gives_up {current requested : OperationState} (active : current.isTerminal = false)
    (target : requested ∈ [OperationState.running, .cancelled, .interrupted, .outcomeUnknown]) :
    operationTransition current requested = some requested := by
  simp only [List.mem_cons, List.not_mem_nil, or_false] at target
  rcases target with rfl | rfl | rfl | rfl <;> cases current <;> first | rfl | cases active

theorem operationTransition_begun {current requested : OperationState} (active : current.isTerminal = false)
    (begun : current ≠ .queued) : operationTransition current requested = some requested := by
  have legal : operationTransitions current requested = true := by
    cases current <;> first | rfl | exact absurd rfl begun | cases active
  unfold operationTransition
  rw [if_pos legal]
  exact ite_self _

structure Progress where
  stage : OperationState
  permille : Nat
  deriving DecidableEq, Repr

/-- A row of the table `operations`, without its times and its copy of the parameters; a row from
before schema version 5 has no fingerprint. -/
structure Row where
  deviceId : String
  actorType : String
  actorName : String
  action : String
  status : OperationState
  requestFingerprint : Option String
  queuePosition : Nat
  error : Option String
  result : Option String
  progress : Option Progress
  deriving DecidableEq, Repr

inductive Answer
  | returned (operation : Row) (created : Bool)
  | conflict
  | maintenance
  | unsupported
  | unregistered
  | illegalTransition
  | operationCancelled
  | outcomeUnknown
  | failed
  | sinkFailed
  | summaryFailed
  | cancelled
  deriving DecidableEq, Repr

/-- What runs in a task: a client's call of `submit` or `execute`, or the `execute` that `submit`
left in the background. -/
inductive Kind
  | submit
  | execute
  | background
  deriving DecidableEq, Repr

/-- The await a task is at. `waits` is the number of the background task whose id `submit` found. -/
inductive Phase
  | starting
  | polling (left : Nat) (waits : Nat)
  | submitted (background : Nat)
  | announcing
  | locking
  | beginning
  | calling
  | closing (answer : Answer)
  | done (answer : Answer)
  deriving DecidableEq, Repr

/-- `created` is whether this task put the row into the store. -/
structure Task where
  kind : Kind
  request : Request
  phase : Phase
  cancelled : Bool
  created : Bool

/-- `_Pending`, with whether it is still in `_pending`. -/
structure Pending where
  deviceId : String
  cancelled : Bool
  running : Bool
  listed : Bool
  deriving DecidableEq, Repr

inductive Maintenance
  | pending
  | active
  deriving DecidableEq, Repr

inductive Ready
  | task (number : Nat)
  | completed (operationId : String)
  deriving DecidableEq, Repr

/-- The store and the manager over it. `submissionIds` gives the background task of each id it
holds; `order` lists the ids in `_pending`, `calls` the ids whose device call was started. -/
structure Manager where
  store : String → Option Row
  pending : String → Option Pending
  order : List String
  locked : String → Bool
  submissionIds : String → Option Nat
  maintenance : String → Option Maintenance
  tasks : Nat → Option Task
  started : Nat
  ready : List Ready
  calls : List String

def Manager.setTask (manager : Manager) (number : Nat) (task : Task) : Manager :=
  { manager with tasks := fun other => if other = number then some task else manager.tasks other }

def Manager.setRow (manager : Manager) (operationId : String) (row : Row) : Manager :=
  { manager with store := fun other => if other = operationId then some row else manager.store other }

def Manager.setPending (manager : Manager) (operationId : String) (pending : Pending) : Manager :=
  { manager with
    pending := fun other => if other = operationId then some pending else manager.pending other }

def Manager.finish (manager : Manager) (number : Nat) (task : Task) (answer : Answer) : Manager :=
  let ended := manager.setTask number { task with phase := .done answer }
  match task.kind with
  | .background => { ended with ready := ended.ready ++ [.completed task.request.operationId] }
  | .submit | .execute => ended

/-- `self._pending.pop(operation_id, None)`. -/
def Manager.popPending (manager : Manager) (operationId : String) : Manager :=
  { manager with
    pending := fun other =>
      if other = operationId then (manager.pending other).map fun pending => { pending with listed := false }
      else manager.pending other
    order := manager.order.filter fun other => other ≠ operationId }

/-- `execute` is left through its `finally`; `holds` is whether it is inside the lock. -/
def Manager.leave (manager : Manager) (number : Nat) (task : Task) (holds : Bool) (answer : Answer) : Manager :=
  let popped := manager.popPending task.request.operationId
  let released := { popped with
    locked := fun device => if holds ∧ device = task.request.deviceId then false else popped.locked device }
  released.finish number task answer

/-- `_transition` with the other columns it writes. -/
def Manager.transition (manager : Manager) (operationId : String) (status : OperationState) (changes : Row → Row) :
    Option Manager :=
  match manager.store operationId with
  | none => none
  | some row =>
    (operationTransition row.status status).map fun target =>
      manager.setRow operationId { changes row with status := target }

def requireSameRequest (row : Row) (fingerprint : String) (created : Bool) : Answer :=
  if row.requestFingerprint = some fingerprint then .returned row created else .conflict

/-- The row that `execute` inserts. -/
def newRow (request : Request) (fingerprint : String) (queuePosition : Nat) : Row where
  deviceId := request.deviceId
  actorType := request.actorType
  actorName := request.actorName
  action := request.action
  status := if request.serialized then .queued else .running
  requestFingerprint := some fingerprint
  queuePosition := queuePosition
  error := none
  result := none
  progress := none

def Manager.queuePosition (manager : Manager) (deviceId : String) : Nat :=
  (manager.order.filter fun id =>
    (manager.pending id).any fun pending => pending.deviceId = deviceId && ! pending.cancelled).length

inductive CallRaised
  | cancelled
  | operationCancelled
  | outcomeUnknown (message : String)
  | failed (message : String)
  deriving DecidableEq, Repr

inductive Event
  | request (kind : Kind) (request : Request)
  | turn
  | emitted (task : Nat) (raises : Bool)
  | granted (task : Nat)
  | staged (task : Nat) (status : OperationState) (permille : Option Nat)
  | returned (task : Nat) (summary : Option String)
  | raised (task : Nat) (exception : CallRaised)
  | cancel (task : Nat)
  | cancelQueued (operationId : String)
  | reserve (deviceId : String)
  | acquire (deviceId : String)
  | giveUp (deviceId : String)
  | release (deviceId : String)
  | restart (reserved : List String)

/-- The actions that a cancelled task leaves as `outcome_unknown`. -/
def uncertainWhenCancelled (action : String) : Bool :=
  action ∈ ["firmware.ota", "firmware.system_update", "device.restart", "rpc.raw"]

/-- The actions that a restart leaves as `outcome_unknown`. -/
def uncertainWhenRecovered (action : String) : Bool :=
  ["rpc.", "device.restart", "firmware.ota", "firmware.system_update"].any fun start => action.startsWith start

def interruptedStatus (uncertain : Bool) : OperationState := if uncertain then .outcomeUnknown else .interrupted

/-- `_recover_interrupted` on one row. -/
def recoverRow (row : Row) : Row :=
  if row.status.isTerminal then row
  else
    { row with
      status := interruptedStatus (uncertainWhenRecovered row.action)
      error := some "gateway restarted; operation was not replayed" }

/-- The gateway starts over a store with any rows of earlier times; `reserved` are the devices
under maintenance. -/
def Manager.initial (store : String → Option Row) (reserved : List String) : Manager where
  store := fun id => (store id).map recoverRow
  pending := fun _ => none
  order := []
  locked := fun _ => false
  submissionIds := fun _ => none
  maintenance := fun device => if device ∈ reserved then some .active else none
  tasks := fun _ => none
  started := 0
  ready := []
  calls := []

def Manager.restart (manager : Manager) (reserved : List String) : Manager :=
  { Manager.initial manager.store reserved with
    started := manager.started
    calls := manager.calls }

def Manager.schedule (manager : Manager) (kind : Kind) (request : Request) : Manager :=
  let number := manager.started
  let scheduled := manager.setTask number ⟨kind, request, .starting, false, false⟩
  { scheduled with
    started := number + 1
    ready := scheduled.ready ++ [.task number] }

def Manager.sleep (manager : Manager) (number : Nat) (task : Task) (phase : Phase) : Manager :=
  let asleep := manager.setTask number { task with phase := phase }
  { asleep with ready := asleep.ready ++ [.task number] }

/-- `submit` leaves an `execute` in the background and gives it a turn. -/
def Manager.startBackground (manager : Manager) (number : Nat) (task : Task) : Manager :=
  let scheduled := manager.schedule .background task.request
  let held := { scheduled with
    submissionIds := fun id =>
      if id = task.request.operationId then some manager.started else scheduled.submissionIds id }
  held.sleep number task (.submitted manager.started)

/-- `execute` puts a row into the store. -/
def Manager.create (manager : Manager) (number : Nat) (task : Task) (fingerprint : String) : Manager :=
  let request := task.request
  let row := newRow request fingerprint (manager.queuePosition request.deviceId)
  let listed := (manager.setRow request.operationId row).setPending request.operationId
    ⟨request.deviceId, false, false, true⟩
  { listed with order := listed.order ++ [request.operationId] }.setTask number
    { task with phase := .announcing, created := true }

section manager
variable (fingerprint : Request → Option String)

/-- The first step of `execute`, up to its first await. -/
def Manager.startExecute (manager : Manager) (number : Nat) (task : Task) : Manager :=
  let request := task.request
  if (manager.maintenance request.deviceId).isSome then manager.finish number task .maintenance
  else
    match fingerprint request with
    | none => manager.finish number task .unsupported
    | some print =>
      match manager.store request.operationId with
      | some row => manager.finish number task (requireSameRequest row print false)
      | none => manager.create number task print

/-- The first step of `submit`. -/
def Manager.startSubmit (manager : Manager) (number : Nat) (task : Task) : Manager :=
  let request := task.request
  if (manager.maintenance request.deviceId).isSome then manager.finish number task .maintenance
  else
    match fingerprint request with
    | none => manager.finish number task .unsupported
    | some print =>
      match manager.store request.operationId with
      | some row => manager.finish number task (requireSameRequest row print false)
      | none =>
        match manager.submissionIds request.operationId with
        | some waits => manager.sleep number task (.polling 10 waits)
        | none => manager.startBackground number task

/-- One turn of `submit` in its loop. -/
def Manager.poll (manager : Manager) (number : Nat) (task : Task) (left waits : Nat) : Manager :=
  match manager.store task.request.operationId, fingerprint task.request with
  | some row, some print => manager.finish number task (requireSameRequest row print false)
  | _, _ =>
    if left ≤ 1 then manager.finish number task .unregistered
    else manager.sleep number task (.polling (left - 1) waits)

/-- What `submit` makes of its background task, over or not. -/
def reported (row : Row) : Phase → Answer
  | .done (.returned _ created) => .returned row created
  | .done raised => raised
  | _ => .returned row true

/-- `submit` after its background task had a turn. -/
def Manager.endSubmit (manager : Manager) (number : Nat) (task : Task) (background : Nat) : Manager :=
  match manager.store task.request.operationId, fingerprint task.request, manager.tasks background with
  | some row, some print, some other =>
    manager.finish number task (if row.requestFingerprint = some print then reported row other.phase else .conflict)
  | _, _, _ => manager.finish number task .unregistered

def Manager.taskTurn (manager : Manager) (number : Nat) (task : Task) : Option Manager :=
  let goesOn :=
    match task.phase with
    | .starting =>
      match task.kind with
      | .submit => some (manager.startSubmit fingerprint number task)
      | .execute | .background => some (manager.startExecute fingerprint number task)
    | .polling left waits => some (manager.poll fingerprint number task left waits)
    | .submitted background => some (manager.endSubmit fingerprint number task background)
    | _ => none
  goesOn.map fun after => if task.cancelled then manager.finish number task .cancelled else after

def Manager.turn (manager : Manager) : Option Manager :=
  match manager.ready with
  | [] => none
  | .completed id :: rest =>
    some { manager with
      ready := rest
      submissionIds := fun other => if other = id then none else manager.submissionIds other }
  | .task number :: rest =>
    (manager.tasks number).bind fun task => { manager with ready := rest }.taskTurn fingerprint number task

/-- `pending.running = True`. -/
def Manager.markRunning (manager : Manager) (operationId : String) : Manager :=
  match manager.pending operationId with
  | some pending => manager.setPending operationId { pending with running := true }
  | none => manager

/-- `_run` up to its first await. -/
def Manager.run (manager : Manager) (number : Nat) (task : Task) : Manager :=
  let running := manager.markRunning task.request.operationId
  match running.transition task.request.operationId .running fun row => { row with queuePosition := 0 } with
  | some begun => begun.setTask number { task with phase := .beginning }
  | none => running.leave number task task.request.serialized .illegalTransition

def Manager.grant (manager : Manager) (number : Nat) (task : Task) : Manager :=
  let held := { manager with
    locked := fun device => if device = task.request.deviceId then true else manager.locked device }
  if (held.pending task.request.operationId).any Pending.cancelled then
    held.leave number task true .operationCancelled
  else held.run number task

/-- A terminal transition of `_run`, and the emit behind it. -/
def Manager.close (manager : Manager) (number : Nat) (task : Task) (status : OperationState) (changes : Row → Row)
    (answer : Row → Answer) : Manager :=
  match manager.transition task.request.operationId status changes with
  | some closed =>
    match closed.store task.request.operationId with
    | some row => closed.setTask number { task with phase := .closing (answer row) }
    | none => manager
  | none => manager.leave number task task.request.serialized .illegalTransition

def succeed (summary : String) (row : Row) : Row :=
  { row with
    result := some summary
    progress := row.progress.map fun _ => ⟨.succeeded, 1000⟩ }

/-- What `await call()` raised. -/
def Manager.callRaised (manager : Manager) (number : Nat) (task : Task) : CallRaised → Manager
  | .cancelled =>
    let uncertain := (manager.store task.request.operationId).any fun row => uncertainWhenCancelled row.action
    manager.close number task (interruptedStatus uncertain)
      (fun row => { row with error := some "gateway task was interrupted; device writes were not replayed" })
      fun _ => .cancelled
  | .operationCancelled => manager.leave number task task.request.serialized .operationCancelled
  | .outcomeUnknown message =>
    manager.close number task .outcomeUnknown
      (fun row => { row with
        error := some (if message = "" then "device outcome could not be established" else message) })
      fun _ => .outcomeUnknown
  | .failed message =>
    manager.close number task .failed (fun row => { row with error := some message }) fun _ => .failed

/-- The statuses that `stage` takes; `progress` looks at none, and its callers name only these. -/
def stageStatuses : List OperationState :=
  [.running, .preservingEvidence, .enteringRecovery, .waitingRecovery, .recoveryConnected, .preparingOta, .erasing,
    .validatingPlan, .transferring, .verifying, .committing, .waitingDevice, .reconnecting]

/-- `stage`, and `progress` where a permille comes with it. -/
def Manager.stage (manager : Manager) (operationId : String) (status : OperationState) (permille : Option Nat) :
    Manager :=
  match permille with
  | none => (manager.transition operationId status id).getD manager
  | some permille =>
    (manager.transition operationId status fun row =>
      { row with progress := some ⟨status, min permille 1000⟩ }).getD manager

def Manager.cancelTask (manager : Manager) (number : Nat) (task : Task) : Manager :=
  match task.phase with
  | .starting | .polling _ _ | .submitted _ => manager.setTask number { task with cancelled := true }
  | .announcing => manager.finish number task .cancelled
  | .locking => manager.leave number task false .cancelled
  | .beginning | .closing _ => manager.leave number task task.request.serialized .cancelled
  | .calling | .done _ => manager

/-- One round of the loop of `cancel_queued`. -/
def Manager.cancelQueued (manager : Manager) (operationId : String) : Option Manager :=
  match manager.pending operationId with
  | none => none
  | some pending =>
    if pending.running ∨ pending.cancelled then none
    else
      let flagged := manager.setPending operationId { pending with cancelled := true }
      some ((flagged.transition operationId .cancelled fun row =>
        { row with error := some "cancelled when gateway entered observe mode" }).getD flagged)

def Manager.startCall (manager : Manager) (number : Nat) (task : Task) : Manager :=
  let calling := manager.setTask number { task with phase := .calling }
  { calling with calls := calling.calls ++ [task.request.operationId] }

def Manager.emitted (manager : Manager) (number : Nat) (task : Task) (raises : Bool) : Option Manager :=
  match task.phase with
  | .announcing =>
    if raises then some (manager.finish number task .sinkFailed)
    else if task.request.serialized then some (manager.setTask number { task with phase := .locking })
    else some (manager.run number task)
  | .beginning =>
    if raises then some (manager.leave number task task.request.serialized .sinkFailed)
    else some (manager.startCall number task)
  | .closing answer =>
    some (manager.leave number task task.request.serialized (if raises then .sinkFailed else answer))
  | _ => none

def Manager.reserve (manager : Manager) (deviceId : String) (state : Option Maintenance) : Manager :=
  { manager with maintenance := fun device => if device = deviceId then state else manager.maintenance device }

def managerNext (manager : Manager) : Event → Option Manager
  | .request kind request =>
    if kind = .background then none else some (manager.schedule kind request)
  | .turn => manager.turn fingerprint
  | .emitted number raises => (manager.tasks number).bind fun task => manager.emitted number task raises
  | .granted number =>
    (manager.tasks number).bind fun task =>
      if task.phase = .locking ∧ manager.locked task.request.deviceId = false then some (manager.grant number task)
      else none
  | .staged number status permille =>
    (manager.tasks number).bind fun task =>
      if task.phase = .calling ∧ status ∈ stageStatuses then
        some (manager.stage task.request.operationId status permille)
      else none
  | .returned number summary =>
    (manager.tasks number).bind fun task =>
      if task.phase = .calling then
        match summary with
        | some summary => some (manager.close number task .succeeded (succeed summary) fun row => .returned row true)
        | none => some (manager.leave number task task.request.serialized .summaryFailed)
      else none
  | .raised number exception =>
    (manager.tasks number).bind fun task =>
      if task.phase = .calling then some (manager.callRaised number task exception) else none
  | .cancel number => (manager.tasks number).map fun task => manager.cancelTask number task
  | .cancelQueued id => manager.cancelQueued id
  | .reserve device => if (manager.maintenance device).isSome then none else some (manager.reserve device (some .pending))
  | .acquire device =>
    if manager.maintenance device = some .pending ∧ manager.locked device = false then
      some { manager.reserve device (some .active) with
        locked := fun other => if other = device then true else manager.locked other }
    else none
  | .giveUp device =>
    if manager.maintenance device = some .pending then some (manager.reserve device none) else none
  | .release device =>
    some { manager.reserve device none with
      locked := fun other => if other = device then false else manager.locked other }
  | .restart reserved => some (manager.restart reserved)

def operationManager : System Manager Event :=
  .ofPartial (fun manager => ∃ store reserved, manager = .initial store reserved) (managerNext fingerprint)

end manager

end EspIris.Gateway.Operations
