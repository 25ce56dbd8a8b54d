import EspIris.Device.SystemUpdate
import EspIris.Device.Executor

/-! The services in action: the application with its jobs, the protocol task that dispatches and
answers, and the worker of the executor that runs the handlers of RPC, OTA and system update and
then settles the cancels. A pass of the settling loop is one step. The callback of an application
job may finish its own job. -/

namespace EspIris.Device.Jobs
open Codec.Device Bytes Machine

/-- Where the worker stands; `handling` is before anything that other tasks see. -/
inductive WorkPoint
  | resting
  | handling (frame : DecodedFrame)
  | continuing (frame : DecodedFrame) (progress : Progress)
  | settling (cleaned : Bool)
  deriving DecidableEq, Repr

structure CancelNote where
  matching : Bool
  accepted : Bool
  deriving DecidableEq, Repr

/-- The services with their executor. `call` is a frame that `executor_dispatch` found it busy for.
The handles that the application got, the transfers whose cancel was accepted (by the creation of
their jobs) and the notes are not in the code. -/
structure ServiceWorld where
  services : Services
  stage : Stage
  worker : Bool
  queued : Option DecodedFrame
  point : WorkPoint
  call : Option DecodedFrame
  completion : Option Reply
  otaSnapshot : List UInt8
  appHandles : List JobHandle
  acknowledged : List Nat
  cancels : List CancelNote

structure WorkAnswers where
  ota : OtaAnswers
  backend : BackendAnswers
  rpcRefused : Option EspErr
  rpcExpired : Bool
  rpcResult : EspErr
  inventory : List UInt8
  finishing : Nat → Option EspErr

inductive ServiceEvent
  | appCreate (kind : UInt16) (userCtx : Option Nat)
  | appUpdate (handle : JobHandle) (progressPermille : UInt16)
  | appFinish (handle : JobHandle) (result : EspErr)
  | dispatch (frame : DecodedFrame) (ensured : Bool)
  | answerBusy
  | claim
  | work (answers : WorkAnswers)
  | settle (finishing : Nat → Option EspErr)
  | drain
  | reap
  | sessionEnd (finishing : Nat → Option EspErr)

def setTable (services : Services) (table : JobTable) : Services := { services with table := table }

def noteJob (services : Services) (note : JobNote) : Services :=
  setTable services (services.table.note [note])

def runCallback (services : Services) (slot : Nat) (job : Job) (sessionEnd : Bool)
    (finishing : Nat → Option EspErr) : Services :=
  let noted := noteJob services (.called job.serial sessionEnd)
  match job.cancel with
  | none => services
  | some .otaJobCancel => { noted with otaCancel := true }
  | some .systemJobCancel => jobCancel noted
  | some (.application _) =>
    match finishing job.serial with
    | none => noted
    | some result => setTable noted (jobFinish noted.table ⟨slot, job.serial⟩ result).1

/-- One turn of the job loop of `services_session_end_now`. -/
def endSlot (finishing : Nat → Option EspErr) (services : Services) (slot : Nat) : Services :=
  match services.table.job slot with
  | none => services
  | some job =>
    if job.info.state = .running then
      let marked := setTable services (services.table.write slot job.ending [])
      let called := runCallback marked slot job.ending true finishing
      setTable called (jobFinish called.table ⟨slot, job.serial⟩ EspErr.invalidState).1
    else services

def sessionEndNow (services : Services) (finishing : Nat → Option EspErr) : Services :=
  let aborted := otaAbort (updateSessionEnd services) EspErr.invalidState
  (List.range aborted.table.slots.length).foldl (endSlot finishing) aborted

/-- `handle_job` on the worker, for a CANCEL. -/
def handleJobCancel (services : Services) (frame : DecodedFrame) (finishing : Nat → Option EspErr) :
    Services × Reply :=
  if frame.header.payloadSize ≠ 4 then (services, refuse frame.header EspErr.invalidSize)
  else
    match findJob services.table (irisGetLe32 frame.payload 0) with
    | none => (services, refuse frame.header EspErr.notFound)
    | some slot =>
      match services.table.job slot with
      | none => (services, refuse frame.header EspErr.notFound)
      | some job =>
        let status := fun job : Job =>
          { respond frame.header ControlType.jobStatus 0 0 (jobEncode job.info) with channel := Channel.control }
        if job.info.state = .running then
          let marked := job.marked false
          (runCallback (setTable services (services.table.write slot marked [])) slot marked false finishing,
            status marked)
        else (services, status job)

/-- The CANCEL branch of `executor_dispatch` for a job while the executor is busy. -/
def deferJobCancel (services : Services) (stage : Stage) (frame : DecodedFrame) : Services × Reply :=
  match findJob services.table (irisGetLe32 frame.payload 0) with
  | none => (services, refuse frame.header EspErr.notFound)
  | some slot =>
    match services.table.job slot with
    | none => (services, refuse frame.header EspErr.notFound)
    | some job =>
      let status := fun job : Job =>
        { respond frame.header ControlType.jobStatus 0 0 (jobEncode job.info) with channel := Channel.control }
      if stage = .done then (services, refuse frame.header EspErr.notFound)
      else if job.info.state = .running then
        (setTable services (services.table.write slot (job.marked true) []), status (job.marked true))
      else (services, status job)

def rpcReply (services : Services) (frame : DecodedFrame) (answers : WorkAnswers) : Reply :=
  match answers.rpcRefused with
  | some code => refuse frame.header code
  | none =>
    let result := if answers.rpcExpired = false ∧ executorCancelled services = false then answers.rpcResult
      else EspErr.timeout
    { respond frame.header ControlType.response (if result = EspErr.ok then 0 else Flag.error) 0
        (irisPutLe32 result) with channel := Channel.control }

def namedJob (services : Services) (frame : DecodedFrame) : Option Job :=
  (findJob services.table (irisGetLe32 frame.payload 0)).bind services.table.job

def namedTransfer (services : Services) (frame : DecodedFrame) : Option Job :=
  (namedJob services frame).filter fun job =>
    job.info.state = .running && (job.cancel = some .otaJobCancel || job.cancel = some .systemJobCancel)

def isRpc (header : WireHeader) : Bool := header.channel = Channel.control && header.type = ControlType.request

def isJobCancel (header : WireHeader) : Bool := header.channel = Channel.control && header.type = ControlType.cancel

def isOtaCancel (header : WireHeader) : Bool := header.channel = Channel.ota && header.type = OtaType.cancel

def isUpdateCancel (header : WireHeader) : Bool :=
  header.channel = Channel.systemUpdate && header.type = SystemUpdateType.cancel

def cancelMatches (services : Services) (frame : DecodedFrame) : Bool :=
  if isJobCancel frame.header then (namedJob services frame).any fun job => job.info.state = .running
  else if isOtaCancel frame.header then services.ota.active
  else operationMatches services frame.payload && updateInProgress services

def isCancel (header : WireHeader) : Bool := isJobCancel header || isOtaCancel header || isUpdateCancel header

def refuses (reply : Reply) : Bool := reply.type = ControlType.error && reply.channel = Channel.control

def accepts (reply : Reply) : Bool :=
  !refuses reply && (reply.channel ≠ Channel.control || byteAt reply.payload 6 = JobState.running.code)

def cancelNotes (services : Services) (frame : DecodedFrame) (reply : Reply) : List CancelNote :=
  if isCancel frame.header then [⟨cancelMatches services frame, accepts reply⟩] else []

def stopped (services : Services) (frame : DecodedFrame) (reply : Reply) : List Nat :=
  if accepts reply = false then []
  else if isJobCancel frame.header then ((namedTransfer services frame).map Job.serial).toList
  else if isOtaCancel frame.header then
    if services.ota.active then (services.ota.job.map JobHandle.serial).toList else []
  else if isUpdateCancel frame.header then (services.update.job.map JobHandle.serial).toList
  else []

section machine
variable (sha256 : List UInt8 → List UInt8) (config : ServiceConfig)

/-- `executor_run_one` calls the handler of a request. -/
def handleRequest (services : Services) (frame : DecodedFrame) (answers : WorkAnswers) : Services × Progress :=
  if frame.header.channel = Channel.control then
    if frame.header.type = ControlType.request then (services, .answered (rpcReply services frame answers))
    else
      let done := handleJobCancel services frame answers.finishing
      (done.1, .answered done.2)
  else if frame.header.channel = Channel.systemUpdate then
    if frame.header.type = 0x0e then
      (services, .answered (respond frame.header 0x0f 0 0 answers.inventory))
    else handleUpdate sha256 config services frame answers.backend
  else if config.otaEnabled then handleOta sha256 config services frame answers.ota
  else (services, .answered (refuse frame.header EspErr.notSupported))

def continueRequest (services : Services) (frame : DecodedFrame) (progress : Progress) (answers : WorkAnswers) :
    Services × Progress :=
  match progress with
  | .answered reply => (services, .answered reply)
  | .otaDecided result =>
    let done := otaFinish services frame result
    (done.1, .answered done.2)
  | .updatePrepared =>
    let done := beginJob config services frame
    (done.1, .answered done.2)
  | .commitEntered =>
    let decided := commitDecide services answers.backend
    (decided.1, .commitDecided decided.2)
  | .commitDecided err =>
    let done := commitFinish services frame err
    (done.1, .answered done.2)

def afterPart (world : ServiceWorld) (frame : DecodedFrame) (done : Services × Progress) : ServiceWorld :=
  match done.2 with
  | .answered reply =>
    { world with
      services := done.1
      completion := some reply
      otaSnapshot := otaStatusPayload done.1
      point := .settling false }
  | progress => { world with services := done.1, point := .continuing frame progress }

def Progress.reply : Progress → Option Reply
  | .answered reply => some reply
  | _ => none

def workStep (world : ServiceWorld) (answers : WorkAnswers) : Option ServiceWorld :=
  match world.point with
  | .handling frame =>
    let done := handleRequest sha256 config world.services frame answers
    let moved := afterPart world frame done
    some { moved with
      acknowledged := moved.acknowledged ++ done.2.reply.toList.flatMap (stopped world.services frame)
      cancels := moved.cancels ++ done.2.reply.toList.flatMap (cancelNotes world.services frame) }
  | .continuing frame progress =>
    some (afterPart world frame (continueRequest config world.services frame progress answers))
  | _ => none

def pendingSlot (table : JobTable) : Option Nat := table.slots.findIdx? fun content => content.any Job.cancelPending

def serveCancel (services : Services) (finishing : Nat → Option EspErr) : Services :=
  match pendingSlot services.table with
  | none => services
  | some slot =>
    match services.table.job slot with
    | none => services
    | some job =>
      let served := { job with cancelPending := false }
      runCallback (setTable services (services.table.write slot served [])) slot served false finishing

def settleServices (services : Services) (finishing : Nat → Option EspErr) : Services :=
  let taken := { services with abandoned := false, otaCancel := false }
  let served := serveCancel taken finishing
  let polled := if services.updateCancel then pollUpdateCancel served else served
  let aborted := if services.otaCancel then otaAbort polled EspErr.invalidState else polled
  if services.abandoned then sessionEndNow aborted finishing else aborted

/-- A pass of the final loop of `executor_run_one`. -/
def settleStep (world : ServiceWorld) (finishing : Nat → Option EspErr) : Option ServiceWorld :=
  match world.point with
  | .settling cleaned =>
    let services := world.services
    if services.abandoned = false ∧ services.otaCancel = false ∧ pendingSlot services.table = none ∧
        services.updateCancel = false then
      some { world with stage := if cleaned then .idle else .done, point := .resting }
    else
      let settled := settleServices services finishing
      some { world with
        services := settled
        completion := if services.abandoned then none else world.completion
        otaSnapshot := otaStatusPayload settled
        point := .settling (cleaned || services.abandoned) }
  | _ => none

/-- `executor_dispatch` and the handlers that it leaves to the protocol task; a request that needs
the worker is queued when `executor_ensure` succeeds. -/
def dispatchStep (world : ServiceWorld) (frame : DecodedFrame) (ensured : Bool) : Option ServiceWorld :=
  if world.call.isSome then none
  else
    match dispatchPath config.otaEnabled (decide (world.stage ≠ .idle)) frame.header with
    | .reserve =>
      let reserved := { world.services with abandoned := false, otaCancel := false }
      if ensured then
        some { world with
          services := reserved
          stage := .queued
          worker := true
          queued := some frame
          completion := none
          otaSnapshot := otaStatusPayload reserved }
      else some { world with services := reserved }
    | .status => some world
    | .inline => some world
    | _ => some { world with call := some frame }

def busyAnswer (world : ServiceWorld) (frame : DecodedFrame) : Services × Reply :=
  let services := world.services
  match dispatchPath config.otaEnabled true frame.header with
  | .cancelSystemUpdate =>
    if world.stage = .done then (services, refuse frame.header EspErr.invalidState)
    else
      let asked := requestUpdateCancel services frame
      if asked.2 ≠ EspErr.ok then (services, refuse frame.header asked.2)
      else
        let status := { frame with
          header := { frame.header with type := SystemUpdateType.status, payloadSize := 0 } }
        (asked.1, handleStatus asked.1 status)
  | .otaStatus =>
    (services, respond frame.header frame.header.type 0 (irisGetLe32 world.otaSnapshot 0) world.otaSnapshot)
  | .otaCancel =>
    if world.stage = .done then (services, refuse frame.header EspErr.invalidState)
    else
      ({ services with otaCancel := true },
        respond frame.header OtaType.status 0 frame.header.streamId [])
  | .cancelJob => deferJobCancel services world.stage frame
  | .queryJob =>
    (services, match namedJob services frame with
      | none => refuse frame.header EspErr.notFound
      | some job => respond frame.header ControlType.jobStatus 0 0 (jobEncode job.info))
  | _ => (services, refuse frame.header EspErr.invalidState)

def answerBusy (world : ServiceWorld) : Option ServiceWorld :=
  world.call.map fun frame =>
    let done := busyAnswer config world frame
    { world with
      services := done.1
      call := none
      acknowledged := world.acknowledged ++ stopped world.services frame done.2
      cancels := world.cancels ++ cancelNotes world.services frame done.2 }

/-- `iris_services_session_end`: at once where there is no worker, else by the worker. -/
def sessionEndStep (world : ServiceWorld) (finishing : Nat → Option EspErr) : ServiceWorld :=
  if world.worker = false then { world with services := sessionEndNow world.services finishing }
  else
    { world with
      services := { world.services with abandoned := true, otaCancel := true, updateCancel := true }
      stage := if world.stage = .idle ∨ world.stage = .done then .queued else world.stage }

def serviceStep (world : ServiceWorld) : ServiceEvent → Option ServiceWorld
  | .appCreate kind userCtx =>
    match jobCreate world.services.table kind (userCtx.map .application) with
    | (_, .error _) => some world
    | (table, .ok handle) =>
      some { world with
        services := setTable world.services table
        appHandles := world.appHandles ++ [handle] }
  | .appUpdate handle progress =>
    if handle ∈ world.appHandles then
      some { world with services := setTable world.services (jobUpdate world.services.table handle progress).1 }
    else none
  | .appFinish handle result =>
    if handle ∈ world.appHandles then
      some { world with services := setTable world.services (jobFinish world.services.table handle result).1 }
    else none
  | .dispatch frame ensured => dispatchStep config world frame ensured
  | .answerBusy => answerBusy config world
  | .claim =>
    match world.point, world.stage, world.queued with
    | .resting, .queued, some frame =>
      some { world with
        stage := .running
        point := if world.services.abandoned then .settling false else .handling frame }
    | _, _, _ => none
  | .work answers => workStep sha256 config world answers
  | .settle finishing => settleStep world finishing
  | .drain =>
    if world.stage = .done ∧ world.call = none then some { world with stage := .idle, completion := none } else none
  | .reap =>
    if world.stage = .idle ∧ world.point = .resting then some { world with worker := false } else none
  | .sessionEnd finishing => if world.call = none then some (sessionEndStep world finishing) else none

def ServiceWorld.initial (backendRegistered : Bool) : ServiceWorld where
  services := .initial config backendRegistered
  stage := .idle
  worker := false
  queued := none
  point := .resting
  call := none
  completion := none
  otaSnapshot := []
  appHandles := []
  acknowledged := []
  cancels := []

def serviceSystem : System ServiceWorld ServiceEvent :=
  .ofPartial (fun world => ∃ backendRegistered, world = .initial config backendRegistered)
    (serviceStep sha256 config)

end machine

end EspIris.Device.Jobs
