import EspIris.Device.Session
import EspIris.Lib.Machine

/-! The events that the protocol task sends for a session, at the grain of its critical sections: a bit of
`pending_events` is set by any task, and cleared by the protocol task once it has built the frame. -/

namespace EspIris.Device.SessionEvents
open Machine

/-- What applications announce: `esp_iris_mark_healthy` and `esp_iris_mark_planned_restart`. -/
inductive Notice
  | healthy
  | plannedRestart
  deriving DecidableEq, Repr

def Notice.type : Notice → UInt8
  | .healthy => EventType.healthy
  | .plannedRestart => EventType.plannedRestart

def jobUpdate : UInt8 := 0x20

/-- The order in which `next_pending_event` looks. -/
def eventOrder : List UInt8 :=
  [EventType.boot, EventType.linkReady, EventType.previousBootCrash, EventType.coreDumpAvailable,
    EventType.crashLoopDetected, EventType.healthy, EventType.plannedRestart, EventType.recoveryEntered]

def nextPending (pending : UInt8 → Bool) : Option UInt8 := eventOrder.find? pending

structure EventFrame where
  session : Nat
  type : UInt8
  deriving DecidableEq, Repr

inductive Point
  | idle
  | ending (again : Bool)
  | beginning
  | scheduling (rest : List UInt8)
  | picking
  | building (type : UInt8)
  | clearing (type : UInt8)
  | serving
  deriving DecidableEq, Repr

structure EventTask where
  sessionState : SessionState
  pendingEvents : UInt8 → Bool
  previousBootCrash : Bool
  coreDumpPresent : Bool
  crashLoopTriggered : Bool
  healthy : Bool
  transmitting : Bool
  point : Point
  sessions : Nat
  frames : List EventFrame

def EventTask.initial (previousBootCrash coreDumpPresent crashLoopTriggered healthy : Bool) : EventTask where
  sessionState := .disconnected
  pendingEvents := fun _ => false
  previousBootCrash := previousBootCrash
  coreDumpPresent := coreDumpPresent
  crashLoopTriggered := crashLoopTriggered
  healthy := healthy
  transmitting := false
  point := .idle
  sessions := 0
  frames := []

/-- The critical section of `schedule_event`. -/
def EventTask.set (task : EventTask) (type : UInt8) : EventTask :=
  { task with pendingEvents := fun other => other = type || task.pendingEvents other }

/-- The critical section at the end of `queue_event`. -/
def EventTask.clear (task : EventTask) (type : UInt8) : EventTask :=
  { task with pendingEvents := fun other => other ≠ type && task.pendingEvents other }

/-- The critical section of `begin_session` and of `end_session`; the transmit slot is emptied with it. -/
def EventTask.wipe (task : EventTask) : EventTask :=
  { task with pendingEvents := fun _ => false, transmitting := false }

def EventTask.build (task : EventTask) (type : UInt8) : EventTask :=
  { task with transmitting := true, frames := task.frames ++ [⟨task.sessions, type⟩] }

/-- Whether `schedule_session_events` schedules the type. -/
def EventTask.wants (task : EventTask) (type : UInt8) : Bool :=
  if type = EventType.previousBootCrash then task.previousBootCrash
  else if type = EventType.coreDumpAvailable then task.coreDumpPresent
  else if type = EventType.crashLoopDetected then task.crashLoopTriggered
  else if type = EventType.healthy then task.healthy
  else true

/-- The types in the order of `schedule_session_events`. -/
def sessionTypes : List UInt8 :=
  [EventType.boot, EventType.linkReady, EventType.previousBootCrash, EventType.coreDumpAvailable,
    EventType.crashLoopDetected, EventType.healthy]

/-- `begin_session` up to its critical section. -/
def EventTask.beginSession (task : EventTask) : EventTask :=
  match irisSessionTransition task.sessionState .linkUp with
  | none => { task with point := .idle }
  | some state => { task with sessionState := state, point := .beginning, sessions := task.sessions + 1 }

/-- `end_session` up to its critical section; a session may begin behind it. -/
def EventTask.endSession (task : EventTask) (again : Bool) : EventTask :=
  { task with
    sessionState := (irisSessionTransition task.sessionState .linkDown).getD task.sessionState
    point := .ending again }

def EventTask.helloAck (task : EventTask) (newSession authenticated : Bool) : EventTask :=
  if newSession then if authenticated then task.endSession true else task
  else if task.sessionState = .ready then task
  else if authenticated then
    match irisSessionTransition task.sessionState .authenticated with
    | none => task
    | some state => { task with sessionState := state, point := .scheduling sessionTypes }
  else task

/-- The part of `pump_link` that chooses what to send, up to the first look at the pending events. -/
def EventTask.output (task : EventTask) (helloDue : Bool) : EventTask :=
  if helloDue then { task with transmitting := true }
  else if task.sessionState ≠ .ready then task
  else if (nextPending task.pendingEvents).isSome then { task with point := .picking }
  else { task with point := .serving }

def EventTask.advance (task : EventTask) : Option EventTask :=
  match task.point with
  | .ending true => some task.wipe.beginSession
  | .ending false => some { task.wipe with point := .idle }
  | .beginning => some { task.wipe with point := .idle }
  | .scheduling [] => some { task with point := .idle }
  | .scheduling (type :: rest) =>
    some { (if task.wants type then task.set type else task) with point := .scheduling rest }
  | .picking => some { task with point := .building ((nextPending task.pendingEvents).getD 0) }
  | .building type => some { task.build type with point := .clearing type }
  | .clearing type => some { task.clear type with point := .idle }
  | .idle | .serving => none

inductive TaskEvent
  | connected
  | disconnected
  | helloAck (newSession authenticated : Bool)
  | reply
  | flushed
  | output (helloDue : Bool)
  | served (job other : Bool)
  | advance
  | markHealthy
  | schedule (notice : Notice)
  deriving DecidableEq, Repr

/-- `served` is what `iris_services_queue_next` does: it sends a job update, anything else, or nothing. -/
def next (task : EventTask) : TaskEvent → Option EventTask
  | .connected => if task.point = .idle then some task.beginSession else none
  | .disconnected => if task.point = .idle then some (task.endSession false) else none
  | .helloAck newSession authenticated =>
    if task.point = .idle then some (task.helloAck newSession authenticated) else none
  | .reply => if task.point = .idle then some { task with transmitting := true } else none
  | .flushed => if task.point = .idle then some { task with transmitting := false } else none
  | .output helloDue =>
    if task.point = .idle ∧ task.transmitting = false ∧ task.sessionState ≠ .disconnected then
      some (task.output helloDue)
    else none
  | .served job other =>
    if task.point = .serving then
      some { (if job then task.build jobUpdate else { task with transmitting := other }) with point := .idle }
    else none
  | .advance => task.advance
  | .markHealthy => some { task with healthy := true }
  | .schedule notice => some (task.set notice.type)

def events : System EventTask TaskEvent :=
  .ofPartial (fun task => ∃ crash dump loop healthy, task = .initial crash dump loop healthy) next

end EspIris.Device.SessionEvents
