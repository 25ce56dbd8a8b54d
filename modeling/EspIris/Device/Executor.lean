import EspIris.Device.Runtime
import EspIris.Lib.Machine

/-! The service executor, `esp_iris_executor.inc`: a mailbox for one request, shared by the
protocol task and a worker task that frees itself when idle. Both tasks are cut at their
atomic accesses and critical sections, so every interleaving of those is a run. -/

namespace EspIris.Device
open Codec.Device Machine

/-- `IRIS_EXEC_*`. -/
inductive Stage
  | idle
  | queued
  | running
  | done
  | reserved
  | draining
  deriving DecidableEq, Repr

/-- What one pass of the final loop of `executor_run_one` took from the flags. -/
structure Taken where
  abandoned : Bool
  deinit : Bool
  systemCancel : Bool
  deriving DecidableEq, Repr

/-- The next atomic step of the worker task. `cleaned` is the local of `executor_run_one`. -/
inductive WorkerPoint
  | absent
  | waiting
  | reaping
  | claiming
  | checking
  | entering
  | handling
  | settling (cleaned : Bool)
  | cancelling (taken : Taken) (cleaned : Bool)
  | notifying
  deriving DecidableEq, Repr

/-- How `executor_dispatch` treats a frame. -/
inductive DispatchPath
  | status
  | cancelSystemUpdate
  | otaStatus
  | otaCancel
  | cancelJob
  | queryJob
  | refuse
  | reserve
  | inline
  deriving DecidableEq, Repr

/-- The next atomic step of the protocol task inside the executor; `idle` is outside. -/
inductive CallPoint
  | idle
  | busy (path : DispatchPath) (header : WireHeader)
  | ensuring (frame : DecodedFrame)
  | submitting (frame : DecodedFrame)
  | notifying
  | abandoning (deinit : Bool)
  | notifyingAbandon
  | draining
  | finishing (retry : Bool)
  deriving DecidableEq, Repr

/-- `s_executor` with the flags other services keep for it: the jobs whose cancel is pending
and `s_cancel_requested`. A dereferenced null pointer is a fault. The tickets are ghosts that
number the accepted frames: that of the frame in the slot, and that of the frame whose
handler last returned. -/
structure Mailbox where
  stage : Stage
  abandoned : Bool
  deinit : Bool
  otaCancel : Bool
  task : Bool
  work : Option Runtime
  header : WireHeader
  completion : Option DecodedFrame
  jobCancels : Nat
  systemCancel : Bool
  notified : Bool
  worker : WorkerPoint
  call : CallPoint
  fault : Bool
  ticket : Nat
  answer : Nat

def Mailbox.initial : Mailbox where
  stage := .idle
  abandoned := false
  deinit := false
  otaCancel := false
  task := false
  work := none
  header := ⟨0, 0, 0, 0, 0, 0, 0, 0⟩
  completion := none
  jobCancels := 0
  systemCancel := false
  notified := false
  worker := .absent
  call := .idle
  fault := false
  ticket := 0
  answer := 0

def executorBusy (mailbox : Mailbox) : Bool := decide (mailbox.stage ≠ .idle)

/-- The branches of `executor_dispatch`; those of the OTA channel depend on the build. -/
def dispatchPath (otaEnabled : Bool) (busy : Bool) (header : WireHeader) : DispatchPath :=
  let systemUpdate := header.channel = Channel.systemUpdate
  let ota := header.channel = Channel.ota
  let control := header.channel = Channel.control
  if systemUpdate ∧ header.type = SystemUpdateType.status then .status
  else if busy then
    if systemUpdate ∧ header.type = SystemUpdateType.cancel then .cancelSystemUpdate
    else if otaEnabled ∧ ota ∧ header.type = OtaType.status ∧ header.payloadSize = 0 then .otaStatus
    else if otaEnabled ∧ ota ∧ header.type = OtaType.cancel ∧ header.payloadSize = 0 then .otaCancel
    else if control ∧ header.type = ControlType.cancel ∧ header.payloadSize = 4 then .cancelJob
    else if control ∧ header.type = ControlType.jobQuery then .queryJob
    else .refuse
  else if control ∧ (header.type = ControlType.request ∨ header.type = ControlType.cancel) ∨ ota ∨ systemUpdate then
    .reserve
  else .inline

inductive Trace
  | accepted (ticket : Nat) (session : UInt32)
  | entered (ticket : Nat)
  | returned (ticket : Nat)
  | emitted (ticket : Nat) (session : UInt32)
  | ended
  | cleaned
  deriving DecidableEq, Repr

/-- The choices of the environment at a worker step: whether the wait times out, what the
handler queues, and how many job cancels are left after callbacks and cleanup. -/
inductive WorkerInput
  | advance
  | timeout
  | handler (replies : List Reply)
  | callbacks (jobCancels : Nat)

/-- `executor_reap_idle`: the critical section that frees the worker. -/
def reapIdle (mailbox : Mailbox) : Mailbox :=
  if mailbox.stage = .idle ∧ mailbox.work.isSome then
    { mailbox with work := none, task := false, completion := none, worker := .absent }
  else { mailbox with worker := .waiting }

/-- The critical section at the head of the final loop of `executor_run_one`. -/
def settle (mailbox : Mailbox) (cleaned : Bool) : Mailbox :=
  if mailbox.abandoned ∨ mailbox.otaCancel ∨ mailbox.jobCancels ≠ 0 ∨ mailbox.systemCancel then
    { mailbox with
      abandoned := false
      deinit := if mailbox.abandoned then false else mailbox.deinit
      otaCancel := false
      jobCancels := mailbox.jobCancels - 1
      worker := .cancelling ⟨mailbox.abandoned, mailbox.abandoned && mailbox.deinit, mailbox.systemCancel⟩ cleaned }
  else
    { mailbox with
      stage := if cleaned then .idle else .done
      worker := .notifying }

def runCallbacks (mailbox : Mailbox) (taken : Taken) (cleaned : Bool) (jobCancels : Nat) : Mailbox :=
  { mailbox with
    systemCancel := if taken.systemCancel then false else mailbox.systemCancel
    jobCancels := min jobCancels mailbox.jobCancels
    work := if taken.abandoned then mailbox.work.map fun work => { work with txWire := [] } else mailbox.work
    worker := .settling (cleaned || taken.abandoned) }

/-- One step of `executor_worker`. -/
def workerStep (mailbox : Mailbox) (input : WorkerInput) : Option (Mailbox × List Trace) :=
  match mailbox.worker, input with
  | .waiting, .advance =>
    if mailbox.notified then some ({ mailbox with notified := false, worker := .claiming }, []) else none
  | .waiting, .timeout =>
    if mailbox.notified then none else some ({ mailbox with worker := .reaping }, [])
  | .reaping, .advance => some (reapIdle mailbox, [])
  | .claiming, .advance =>
    if mailbox.stage = .queued then some ({ mailbox with stage := .running, worker := .checking }, [])
    else some ({ mailbox with worker := .waiting }, [])
  | .checking, .advance =>
    if mailbox.abandoned then some ({ mailbox with worker := .settling false }, [])
    else some ({ mailbox with worker := .entering }, [])
  | .entering, .advance => some ({ mailbox with worker := .handling }, [.entered mailbox.ticket])
  | .handling, .handler replies =>
    some ({ mailbox with
      work := mailbox.work.map fun work => queueReplies work replies
      answer := mailbox.ticket
      worker := .settling false }, [.returned mailbox.ticket])
  | .settling cleaned, .advance => some (settle mailbox cleaned, [])
  | .cancelling taken cleaned, .callbacks jobCancels =>
    some (runCallbacks mailbox taken cleaned jobCancels, if taken.abandoned then [.cleaned] else [])
  | .notifying, .advance => some ({ mailbox with worker := .waiting }, [])
  | _, _ => none

/-- The choices of the environment at a step of the protocol task: allocations, and what the
job table and the system update say to a cancel. -/
structure CallInput where
  workAllocated : Bool
  taskCreated : Bool
  cancelAccepted : Bool
  reply : Reply

/-- The second half of the busy branches of `executor_dispatch`, under the lock. -/
def cancelWhileBusy (mailbox : Mailbox) (path : DispatchPath) (accepted : Bool) : Mailbox :=
  match path with
  | .cancelSystemUpdate =>
    if mailbox.stage ≠ .done ∧ accepted then { mailbox with systemCancel := true } else mailbox
  | .otaCancel => if mailbox.stage ≠ .done then { mailbox with otaCancel := true } else mailbox
  | .cancelJob =>
    if mailbox.stage ≠ .done ∧ accepted then { mailbox with jobCancels := mailbox.jobCancels + 1 } else mailbox
  | _ => mailbox

/-- `executor_ensure` after the slot was reserved. -/
def executorEnsure (mailbox : Mailbox) (input : CallInput) : Option Mailbox :=
  if mailbox.work.isNone ∧ input.workAllocated = false then none
  else if mailbox.task = false ∧ input.taskCreated = false then none
  else some { mailbox with
    work := some (mailbox.work.getD .zero)
    task := true
    worker := if mailbox.task then mailbox.worker else .waiting
    notified := if mailbox.task then mailbox.notified else false }

/-- The request that `executor_dispatch` writes into the slot. -/
def executorSubmit (mailbox : Mailbox) (session : UInt32) (frame : DecodedFrame) (ticket : Nat) : Mailbox :=
  { mailbox with
    header := frame.header
    completion := none
    work := mailbox.work.map fun work =>
      { work with
        sessionId := session
        txWire := []
        txWireOffset := 0
        rxWire := frame.payload ++ work.rxWire.drop frame.payload.length }
    ticket := ticket
    stage := .queued
    call := .notifying }

/-- The critical section of `executor_abandon`. -/
def executorAbandon (mailbox : Mailbox) (session : UInt32) (deinit : Bool) : Mailbox :=
  let flagged := { mailbox with
    deinit := deinit || mailbox.deinit
    abandoned := true
    otaCancel := true
    systemCancel := true }
  if mailbox.stage = .idle ∨ mailbox.stage = .done then
    match mailbox.work with
    | none => { flagged with fault := true }
    | some work =>
      { flagged with work := some { work with sessionId := session }, stage := .queued, call := .notifyingAbandon }
  else { flagged with call := .notifyingAbandon }

def completionReply (frame : DecodedFrame) : Reply where
  channel := frame.header.channel
  type := frame.header.type
  flags := frame.header.flags
  requestId := frame.header.requestId
  streamId := frame.header.streamId
  payload := frame.payload

/-- `completion_decoded` after the drain looked at the result. -/
def decodeCompletion (mailbox : Mailbox) (work : Runtime) : Option DecodedFrame :=
  match mailbox.completion with
  | some frame => some frame
  | none => (irisFrameDecodeInPlace work.txWire (work.txWire.length - 1)).2.toOption

/-- `executor_queue_next` between its two critical sections. -/
def drainResult (mailbox : Mailbox) (runtime : Runtime) : Mailbox × Runtime × List Trace :=
  match mailbox.work with
  | none => ({ mailbox with fault := true }, runtime, [])
  | some work =>
    if work.sessionId = runtime.sessionId ∧ work.txWire ≠ [] ∧ mailbox.abandoned = false then
      match decodeCompletion mailbox work with
      | some frame =>
        let queued := queueFrame runtime (completionReply frame)
        let completed := { mailbox with completion := some frame }
        if queued.2 = EspErr.ok then
          ({ completed with call := .finishing false }, queued.1, [.emitted mailbox.answer runtime.sessionId])
        else ({ completed with call := .finishing true }, queued.1, [])
      | none =>
        ({ mailbox with call := .finishing false }, { runtime with invalidFrames := runtime.invalidFrames + 1 }, [])
    else ({ mailbox with call := .finishing false }, runtime, [])

/-- The last critical section of `executor_queue_next`. -/
def finishDrain (mailbox : Mailbox) (retry : Bool) : Mailbox :=
  { mailbox with
    work := if retry then mailbox.work else mailbox.work.map fun work => { work with txWire := [] }
    stage := if mailbox.abandoned then .queued else if retry then .done else .idle
    call := if mailbox.abandoned then .notifying else .idle }

/-- `xTaskNotifyGive(s_executor.task)`. -/
def notifyTask (mailbox : Mailbox) : Mailbox :=
  if mailbox.task then { mailbox with notified := true, call := .idle } else { mailbox with fault := true }

def callStep (mailbox : Mailbox) (runtime : Runtime) (ticket : Nat) (input : CallInput) :
    Option (Mailbox × Runtime × List Trace) :=
  match mailbox.call with
  | .idle => none
  | .busy path _ =>
    some ({ cancelWhileBusy mailbox path input.cancelAccepted with call := .idle },
      (queueFrame runtime input.reply).1, [])
  | .ensuring frame =>
    match executorEnsure mailbox input with
    | some ready => some ({ ready with call := .submitting frame }, runtime, [])
    | none => some ({ mailbox with stage := .idle, call := .idle }, (queueFrame runtime input.reply).1, [])
  | .submitting frame =>
    some (executorSubmit mailbox runtime.sessionId frame ticket, runtime, [.accepted ticket runtime.sessionId])
  | .notifying => some (notifyTask mailbox, runtime, [])
  | .abandoning deinit => some (executorAbandon mailbox runtime.sessionId deinit, runtime, [.ended])
  | .notifyingAbandon => some (notifyTask mailbox, runtime, [])
  | .draining => some (drainResult mailbox runtime)
  | .finishing retry => some (finishDrain mailbox retry, runtime, [])

/-- The head of `executor_dispatch`: the busy check and, when free, the reservation. The busy
check decides alone, since only the protocol task leaves the idle stage. -/
def dispatchStart (otaEnabled : Bool) (mailbox : Mailbox) (frame : DecodedFrame) : Mailbox :=
  match dispatchPath otaEnabled (executorBusy mailbox) frame.header with
  | .reserve =>
    { mailbox with
      abandoned := false
      deinit := false
      otaCancel := false
      stage := .reserved
      call := .ensuring frame }
  | .inline => mailbox
  | .status => mailbox
  | path => { mailbox with call := .busy path frame.header }

/-- The unlocked test of `executor_abandon`; without a worker the cleanup runs at once. -/
def abandonStart (mailbox : Mailbox) (deinit : Bool) : Mailbox × List Trace :=
  if mailbox.work.isNone ∨ mailbox.task = false then (mailbox, [.ended, .cleaned])
  else ({ mailbox with call := .abandoning deinit }, [])

/-- The first critical section of `executor_queue_next`. -/
def drainStart (mailbox : Mailbox) (runtime : Runtime) : Mailbox :=
  if runtime.txWire = [] ∧ mailbox.stage = .done then { mailbox with stage := .draining, call := .draining }
  else mailbox

end EspIris.Device
