import EspIris.Lib.AsyncLock
import EspIris.Lib.Machine

/-! The mode of the gateway: `require_develop`, `switch_mode` and `cancel_queued` against the handlers that contact a
device. A handler is the list of what it does between two waits; the event sink never waits, so neither does
`switch_mode`. -/

namespace EspIris.Gateway.ObserveMode
open Machine (System Reachable Run Invariant)

inductive HandlerStep
  /-- `require_develop`; `current_status` answers from its cache instead of an error. -/
  | requireDevelop
  /-- A wait for something else than a device: the body, the gate, a timer, the client. -/
  | pause
  /-- A request to a device through the hub. -/
  | request
  /-- `execute`. -/
  | execute (serialized : Bool)
  /-- `submit`: a background task executes the operation. -/
  | submit
  deriving DecidableEq, Repr

open HandlerStep

def operationHandler (operation : HandlerStep) : List HandlerStep := [requireDevelop, pause, operation]

def immediateHandler (operation : HandlerStep) : List HandlerStep := [requireDevelop, operation]

def rawRpc : List HandlerStep := operationHandler (execute true)
def structuredRpc : List HandlerStep := operationHandler (execute true)
def console : List HandlerStep := operationHandler (execute true)
def restart : List HandlerStep := operationHandler (execute true)
def mirror : List HandlerStep := operationHandler (execute true)
def inputEvent : List HandlerStep := operationHandler (execute true)
def audioUpload : List HandlerStep := operationHandler (execute true)
def screenshot : List HandlerStep := operationHandler (execute false)
def fileMkdir : List HandlerStep := operationHandler (execute true)
def fileRename : List HandlerStep := operationHandler (execute true)
def ota : List HandlerStep := operationHandler submit
def systemUpdate : List HandlerStep := operationHandler submit
def job (cancel : Bool) : List HandlerStep := immediateHandler (execute cancel)
def factoryRecovery : List HandlerStep := immediateHandler (execute true)
def fileDelete : List HandlerStep := immediateHandler (execute true)
def crashReport : List HandlerStep := immediateHandler request
def fileVolumes : List HandlerStep := immediateHandler request
def fileStat : List HandlerStep := immediateHandler request
def fileList : List HandlerStep := immediateHandler request
def status : List HandlerStep := immediateHandler request

def fileUpload (chunks : Nat) : List HandlerStep :=
  requireDevelop :: List.replicate chunks pause ++ [execute true]

/-- `preserve_coredump`: the report and the chunks. -/
def coreDump (chunks : Nat) : List HandlerStep := requireDevelop :: request :: List.replicate chunks request

/-- `file_stat`, the response's headers, and each read with the write of its chunk. -/
def fileDownload (reads : Nat) : List HandlerStep :=
  requireDevelop :: request :: pause :: (List.replicate reads [request, pause]).flatten

def systemInventory : List HandlerStep := [request]

def operationReconcile (inventory : Bool) : List HandlerStep :=
  if inventory then [request, request, request] else [request]

/-- The body, the gate, the status, the crash report and what `preserve_coredump` asks for. -/
def maintenanceAcquire (requests : Nat) : List HandlerStep := pause :: pause :: List.replicate requests request

def maintenanceFinish (rounds : List Bool) : List HandlerStep :=
  pause :: rounds.flatMap fun observed => if observed then [pause, request] else [pause]

inductive Handler
  | rawRpc | structuredRpc | console | restart | mirror | inputEvent | audioUpload | screenshot | fileMkdir | fileRename
  | ota | systemUpdate
  | job (cancel : Bool)
  | factoryRecovery | fileDelete
  | crashReport | fileVolumes | fileStat | fileList | status
  | fileUpload (chunks : Nat)
  | coreDump (chunks : Nat)
  | fileDownload (reads : Nat)
  | systemInventory
  | operationReconcile (inventory : Bool)
  | maintenanceAcquire (requests : Nat)
  | maintenanceFinish (rounds : List Bool)
  deriving DecidableEq, Repr

def Handler.steps : Handler → List HandlerStep
  | .rawRpc => ObserveMode.rawRpc
  | .structuredRpc => ObserveMode.structuredRpc
  | .console => ObserveMode.console
  | .restart => ObserveMode.restart
  | .mirror => ObserveMode.mirror
  | .inputEvent => ObserveMode.inputEvent
  | .audioUpload => ObserveMode.audioUpload
  | .screenshot => ObserveMode.screenshot
  | .fileMkdir => ObserveMode.fileMkdir
  | .fileRename => ObserveMode.fileRename
  | .ota => ObserveMode.ota
  | .systemUpdate => ObserveMode.systemUpdate
  | .job cancel => ObserveMode.job cancel
  | .factoryRecovery => ObserveMode.factoryRecovery
  | .fileDelete => ObserveMode.fileDelete
  | .crashReport => ObserveMode.crashReport
  | .fileVolumes => ObserveMode.fileVolumes
  | .fileStat => ObserveMode.fileStat
  | .fileList => ObserveMode.fileList
  | .status => ObserveMode.status
  | .fileUpload chunks => ObserveMode.fileUpload chunks
  | .coreDump chunks => ObserveMode.coreDump chunks
  | .fileDownload reads => ObserveMode.fileDownload reads
  | .systemInventory => ObserveMode.systemInventory
  | .operationReconcile inventory => ObserveMode.operationReconcile inventory
  | .maintenanceAcquire requests => ObserveMode.maintenanceAcquire requests
  | .maintenanceFinish rounds => ObserveMode.maintenanceFinish rounds

inductive RequestPhase
  | waiting (rest : List HandlerStep)
  /-- A device request is on its way. -/
  | requesting (rest : List HandlerStep)
  /-- In `_pending`, for the device's lock. -/
  | queued (cancelled : Bool) (rest : List HandlerStep)
  /-- The operation is inside its device call. -/
  | inside (serialized : Bool) (rest : List HandlerStep)
  | over
  deriving DecidableEq, Repr

structure ModeRequest where
  device : String
  phase : RequestPhase
  deriving DecidableEq, Repr

/-- `disturbed` is a record: a device operation or a device request was started in observe mode. -/
structure ModeWorld where
  observe : Bool
  requests : Nat → Option ModeRequest
  locks : String → AsyncLock Nat
  started : Nat
  disturbed : Bool

/-- `accepted` is whether `execute` gets past its checks: the operation is new and no maintenance has the device. -/
inductive ModeEvent
  | arrive (handler : Handler) (device : String) (accepted : Bool)
  /-- What the request waits for is there: the answer, or the end of its device call. -/
  | resume (number : Nat) (accepted : Bool)
  /-- The first waiter of the device's lock gets its turn. -/
  | turn (device : String)
  /-- The request raises where it waits, or is cancelled there. -/
  | fail (number : Nat)
  /-- `switch_mode`. -/
  | switchMode (observe : Bool)
  deriving DecidableEq, Repr

def ModeRequest.cancelQueued (request : ModeRequest) : ModeRequest :=
  match request.phase with
  | .queued _ rest => { request with phase := .queued true rest }
  | _ => request

namespace ModeWorld
variable (world : ModeWorld)

def set (number : Nat) (device : String) (phase : RequestPhase) : ModeWorld :=
  { world with requests := fun other => if other = number then some ⟨device, phase⟩ else world.requests other }

def setLock (device : String) (lock : AsyncLock Nat) : ModeWorld :=
  { world with locks := fun other => if other = device then lock else world.locks other }

def touch : ModeWorld := { world with disturbed := world.disturbed || world.observe }

def run (number : Nat) (device : String) (accepted : Bool) : List HandlerStep → ModeWorld
  | [] => world.set number device .over
  | .requireDevelop :: rest =>
    if world.observe then world.set number device .over else run number device accepted rest
  | .pause :: rest => world.set number device (.waiting rest)
  | .request :: rest => world.touch.set number device (.requesting rest)
  | .submit :: rest => world.set number device (.waiting (.execute true :: rest))
  | .execute serialized :: rest =>
    if accepted = false then world.set number device .over
    else if serialized then
      match (world.locks device).acquire number with
      | (lock, true) => ((world.setLock device lock).touch).set number device (.inside true rest)
      | (lock, false) => (world.setLock device lock).set number device (.queued false rest)
    else world.touch.set number device (.inside false rest)

def release (device : String) : ModeWorld := world.setLock device (world.locks device).release

def next : ModeEvent → Option ModeWorld
  | .arrive handler device accepted =>
    some ({ world with started := world.started + 1 }.run world.started device accepted handler.steps)
  | .resume number accepted =>
    match world.requests number with
    | some ⟨device, .waiting rest⟩ => some (world.run number device accepted rest)
    | some ⟨device, .requesting rest⟩ => some (world.run number device accepted rest)
    | some ⟨device, .inside true rest⟩ => some ((world.release device).run number device accepted rest)
    | some ⟨device, .inside false rest⟩ => some (world.run number device accepted rest)
    | _ => none
  | .turn device =>
    match (world.locks device).grant with
    | some (number, lock) =>
      match world.requests number with
      | some ⟨_, .queued false rest⟩ => some (((world.setLock device lock).touch).set number device (.inside true rest))
      -- it raises inside the lock
      | some ⟨_, .queued true _⟩ => some ((world.setLock device lock.release).set number device .over)
      | _ => none
    | none => none
  | .fail number =>
    match world.requests number with
    | some ⟨device, .queued _ _⟩ =>
      some ((world.setLock device ((world.locks device).leave number)).set number device .over)
    | some ⟨device, .inside true _⟩ => some ((world.release device).set number device .over)
    | some ⟨_, .over⟩ => none
    | some ⟨device, _⟩ => some (world.set number device .over)
    | none => none
  | .switchMode observe =>
    if world.observe = observe then some world
    else if observe then
      some { world with
        observe := true
        requests := fun number => (world.requests number).map ModeRequest.cancelQueued }
    else some { world with observe := false }

end ModeWorld

def modeSystem : System ModeWorld ModeEvent :=
  .ofPartial (fun world => world = ⟨false, fun _ => none, fun _ => .free, 0, false⟩) ModeWorld.next

def exposed : List HandlerStep → Bool
  | [] => false
  | .requireDevelop :: _ => false
  | .pause :: rest => exposed rest
  | _ => true

/-- What the request does next, when what it waits for is there, goes to a device without another check. `cancel_queued`
takes care of the queue. -/
def RequestPhase.isExposed : RequestPhase → Bool
  | .waiting rest | .requesting rest | .inside _ rest => exposed rest
  | .queued .. | .over => false

/-- The mode is switched to observe when no request is on its way to a device past its check, and in observe mode no
request comes for a handler that does not check. -/
def Guarded (world : ModeWorld) : ModeEvent → Prop
  | .switchMode true =>
    world.observe = false → ∀ number < world.started, ((world.requests number).all (! ·.phase.isExposed)) = true
  | .arrive handler .. => world.observe = true → exposed handler.steps = false
  | _ => True

def RequestPhase.isStill : RequestPhase → Bool
  | .waiting rest | .requesting rest | .inside _ rest => ! exposed rest
  | .queued cancelled _ => cancelled
  | .over => true

structure ModeSound (world : ModeWorld) : Prop where
  undisturbed : world.disturbed = false
  still : world.observe = true → ∀ number request, world.requests number = some request → request.phase.isStill = true
  bounded : ∀ number request, world.requests number = some request → number < world.started

variable {world after : ModeWorld}

theorem ModeSound.set (sound : ModeSound world) {number : Nat} (device : String) {phase : RequestPhase}
    (known : number < world.started) (still : world.observe = true → phase.isStill = true) :
    ModeSound (world.set number device phase) := by
  refine ⟨sound.undisturbed, fun observe other request isRequest => ?_, fun other request isRequest => ?_⟩
  · have isRequest : (if other = number then some ⟨device, phase⟩ else world.requests other) = some request := isRequest
    split at isRequest
    next =>
      cases isRequest
      exact still observe
    next => exact sound.still observe other request isRequest
  · have isRequest : (if other = number then some ⟨device, phase⟩ else world.requests other) = some request := isRequest
    split at isRequest
    next same =>
      rw [same]
      exact known
    next => exact sound.bounded other request isRequest

theorem ModeSound.setLock (sound : ModeSound world) (device : String) (lock : AsyncLock Nat) :
    ModeSound (world.setLock device lock) :=
  ⟨sound.undisturbed, sound.still, sound.bounded⟩

theorem ModeSound.touch (sound : ModeSound world) (develop : world.observe = false) : ModeSound world.touch := by
  refine ⟨?_, sound.still, sound.bounded⟩
  dsimp only [ModeWorld.touch]
  rw [sound.undisturbed, develop]
  rfl

theorem ModeSound.begin (sound : ModeSound world) {number : Nat} (device : String) (phase : RequestPhase)
    (known : number < world.started) (develop : world.observe = false) :
    ModeSound (world.touch.set number device phase) := by
  refine (sound.touch develop).set device known fun observe => ?_
  have observe : world.observe = true := observe
  rw [develop] at observe
  contradiction

/-- Up to its next wait a handler starts nothing in observe mode, unless it does so without a check. -/
theorem ModeSound.run (sound : ModeSound world) {number : Nat} (device : String) (accepted : Bool)
    (known : number < world.started) (steps : List HandlerStep) (safe : world.observe = true → exposed steps = false) :
    ModeSound (world.run number device accepted steps) := by
  have develop : exposed steps = true → world.observe = false := by
    intro isExposed
    by_contra observe
    exact absurd ((safe (Bool.of_not_eq_false observe)).symm.trans isExposed) Bool.false_ne_true
  induction steps with
  | nil => exact sound.set device known fun _ => rfl
  | cons step rest ih =>
    cases step with
    | requireDevelop =>
      unfold ModeWorld.run
      split
      next => exact sound.set device known fun _ => rfl
      next observe =>
        have isDevelop : world.observe = false := Bool.eq_false_iff.mpr observe
        exact ih (fun isObserve => absurd isObserve observe) fun _ => isDevelop
    | pause =>
      refine sound.set device known fun observe => ?_
      have rest : exposed rest = false := safe observe
      dsimp only [RequestPhase.isStill]
      rw [rest]
      rfl
    | request => exact sound.begin device _ known (develop rfl)
    | submit =>
      refine sound.set device known fun observe => ?_
      exact absurd ((develop rfl).symm.trans observe) Bool.false_ne_true
    | execute serialized =>
      have isDevelop := develop rfl
      unfold ModeWorld.run
      split
      next => exact sound.set device known fun _ => rfl
      split
      next =>
        split
        next lock _ => exact (sound.setLock device lock).begin device _ known isDevelop
        next lock _ =>
          refine (sound.setLock device lock).set device known fun observe => ?_
          exact absurd (isDevelop.symm.trans observe) Bool.false_ne_true
      next => exact sound.begin device _ known isDevelop

theorem not_exposed {rest : List HandlerStep} (still : (! exposed rest) = true) : exposed rest = false :=
  (Bool.not_eq_true' _).mp still

theorem ModeSound.resume (sound : ModeSound world) {number : Nat} {accepted : Bool}
    (next : world.next (.resume number accepted) = some after) : ModeSound after := by
  dsimp only [ModeWorld.next] at next
  split at next
  next device rest request =>
    cases next
    exact sound.run device accepted (sound.bounded _ _ request) rest fun observe =>
      not_exposed (sound.still observe _ _ request)
  next device rest request =>
    cases next
    exact sound.run device accepted (sound.bounded _ _ request) rest fun observe =>
      not_exposed (sound.still observe _ _ request)
  next device rest request =>
    cases next
    exact (sound.setLock device _).run device accepted (sound.bounded _ _ request) rest fun observe =>
      not_exposed (sound.still observe _ _ request)
  next device rest request =>
    cases next
    exact sound.run device accepted (sound.bounded _ _ request) rest fun observe =>
      not_exposed (sound.still observe _ _ request)
  next => contradiction

theorem ModeSound.turn (sound : ModeSound world) {device : String} (next : world.next (.turn device) = some after) :
    ModeSound after := by
  dsimp only [ModeWorld.next] at next
  split at next
  next number lock _ =>
    split at next
    next request =>
      cases next
      refine (sound.setLock device lock).begin device _ (sound.bounded _ _ request) ?_
      by_contra observe
      exact absurd (sound.still (Bool.of_not_eq_false observe) _ _ request) Bool.false_ne_true
    next request =>
      cases next
      exact (sound.setLock device _).set device (sound.bounded _ _ request) fun _ => rfl
    next => contradiction
  next => contradiction

theorem ModeSound.fail (sound : ModeSound world) {number : Nat} (next : world.next (.fail number) = some after) :
    ModeSound after := by
  dsimp only [ModeWorld.next] at next
  split at next
  next request =>
    cases next
    exact (sound.setLock _ _).set _ (sound.bounded _ _ request) fun _ => rfl
  next request =>
    cases next
    exact (sound.setLock _ _).set _ (sound.bounded _ _ request) fun _ => rfl
  next => contradiction
  next request =>
    cases next
    exact sound.set _ (sound.bounded _ _ request) fun _ => rfl
  next => contradiction

theorem cancelQueued_still {request : ModeRequest} (quiet : request.phase.isExposed = false) :
    request.cancelQueued.phase.isStill = true := by
  obtain ⟨device, phase⟩ := request
  cases phase with
  | waiting rest | requesting rest | inside serialized rest => exact (Bool.not_eq_true' _).mpr quiet
  | _ => rfl

theorem ModeSound.switchMode (sound : ModeSound world) {observe : Bool} (guarded : Guarded world (.switchMode observe))
    (next : world.next (.switchMode observe) = some after) : ModeSound after := by
  dsimp only [ModeWorld.next] at next
  split at next
  next =>
    cases next
    exact sound
  next different =>
    split at next
    next toObserve =>
      cases next
      rw [toObserve] at guarded different
      have quiet := guarded (Bool.eq_false_iff.mpr different)
      have before : ∀ number request, (world.requests number).map ModeRequest.cancelQueued = some request →
          ∃ earlier, world.requests number = some earlier ∧ earlier.cancelQueued = request :=
        fun number request isRequest => Option.map_eq_some_iff.mp isRequest
      refine ⟨sound.undisturbed, fun _ number request isRequest => ?_, fun number request isRequest => ?_⟩
      · obtain ⟨earlier, isEarlier, rfl⟩ := before number request isRequest
        have still := quiet number (sound.bounded number earlier isEarlier)
        rw [isEarlier, Option.all_some, Bool.not_eq_true'] at still
        exact cancelQueued_still still
      · obtain ⟨earlier, isEarlier, _⟩ := before number request isRequest
        exact sound.bounded number earlier isEarlier
    cases next
    exact ⟨sound.undisturbed, fun observe => absurd observe Bool.false_ne_true, sound.bounded⟩

theorem mode_sound : Invariant (modeSystem.guarded Guarded) ModeSound where
  start := by
    rintro world rfl
    refine ⟨rfl, fun observe => absurd observe Bool.false_ne_true, ?_⟩
    exact fun number request isRequest => absurd isRequest.symm (Option.some_ne_none request)
  step := by
    rintro world event after sound ⟨guarded, next⟩
    have next : world.next event = some after := next
    cases event with
    | arrive handler device accepted =>
      cases next
      have later : ModeSound { world with started := world.started + 1 } :=
        ⟨sound.undisturbed, sound.still, fun number request isRequest =>
          Nat.lt_succ_of_lt (sound.bounded number request isRequest)⟩
      exact later.run device accepted (Nat.lt_succ_self _) handler.steps guarded
    | resume number accepted => exact sound.resume next
    | turn device => exact sound.turn next
    | fail number => exact sound.fail next
    | switchMode observe => exact sound.switchMode guarded next

/-- In observe mode nothing starts at a device, whatever comes and waits. -/
theorem observe_undisturbed {world : ModeWorld} (reached : Reachable (modeSystem.guarded Guarded) world) :
    world.disturbed = false :=
  (mode_sound.reachable reached).undisturbed

instance (world : ModeWorld) (event : ModeEvent) : Decidable (Guarded world event) := by
  unfold Guarded
  split <;> infer_instance

def developWorld : ModeWorld := ⟨false, fun _ => none, fun _ => .free, 0, false⟩

/-- The operation inside its call ends, the queued one is cancelled and the new request is refused. -/
theorem observe_stops : ∃ world : ModeWorld, world.observe = true ∧
    (world.requests 0 = some ⟨"d", .over⟩ ∧ world.requests 1 = some ⟨"d", .over⟩ ∧
      world.requests 2 = some ⟨"d", .over⟩) ∧ world.disturbed = false := by
  obtain ⟨world, run, checked⟩ : ∃ world, Run (modeSystem.guarded Guarded) developWorld
      [.arrive .rawRpc "d" true, .resume 0 true, .arrive .factoryRecovery "d" true, .switchMode true, .resume 0 true,
        .turn "d", .arrive .console "d" true] world ∧
      decide (world.observe = true ∧ world.requests 0 = some ⟨"d", .over⟩ ∧ world.requests 1 = some ⟨"d", .over⟩ ∧
        world.requests 2 = some ⟨"d", .over⟩) = true := Run.of_guarded_check (by decide +kernel)
  obtain ⟨observe, isOver⟩ := of_decide_eq_true checked
  exact ⟨world, observe, isOver, observe_undisturbed ⟨_, _, rfl, run⟩⟩

/-- The request has passed its check and reads its body while the mode is switched. -/
theorem rpc_in_observe : ∃ world, Reachable modeSystem world ∧ world.observe = true ∧
    world.requests 0 = some ⟨"d", .inside true []⟩ ∧ ¬ world.disturbed = false := by
  obtain ⟨world, run, checked⟩ : ∃ world, Run modeSystem developWorld
      [.arrive .rawRpc "d" true, .switchMode true, .resume 0 true] world ∧
      decide (world.observe = true ∧ world.requests 0 = some ⟨"d", .inside true []⟩ ∧ world.disturbed = true) = true :=
    Run.of_check (by decide +kernel)
  obtain ⟨observe, inside, disturbed⟩ := of_decide_eq_true checked
  refine ⟨world, ⟨_, _, rfl, run⟩, observe, inside, ?_⟩
  rw [disturbed]
  exact Bool.noConfusion

end EspIris.Gateway.ObserveMode
