import EspIris.Lib.Queue

/-! The closed-loop acceptance of an update: `run_system_update` and `closed_loop_ota` watch
the events of the device until the updated firmware is healthy. The hub replays its history
of the device into the queue they watch. -/

namespace EspIris.Gateway
open Queue

abbrev BootId := Nat

/-- `EventType` of a device event; an unlisted type is reported as `unknown`. -/
inductive EventName
  | boot | healthy | plannedRestart | linkReady | previousBootCrash | recoveryEntered
  | coreDumpAvailable | crashLoopDetected | jobUpdate | otaReady | unknown
  deriving DecidableEq, Repr

structure Event where
  bootId : Option BootId
  eventName : Option EventName
  deriving DecidableEq, Repr

def historyLimit : Nat := 100
def queueLimit : Nat := 256

/-- The history deque of one device, which never outgrows its `maxlen`. -/
structure History where
  events : List Event
  bounded : events.length ≤ historyLimit

/-- `deque.append` with `maxlen`. -/
def History.append (history : History) (event : Event) : History where
  events := (history.events ++ [event]).drop (history.events.length + 1 - historyLimit)
  bounded := by
    simp only [List.length_drop, List.length_append, List.length_singleton]
    omega

/-- `subscribe`: a new queue that holds the whole history. -/
def History.subscribe (history : History) : List Event := history.events

/-- What the two functions can end with: `contact` is `ConnectionError`, `OSError` or
`KeyError`, and `lookup` any other `LookupError`. -/
inductive Failure
  | contact
  | lookup
  | outcomeUnknown (message : String)
  | runtime (message : String)
  deriving DecidableEq, Repr

structure Status where
  bootId : Option BootId
  recoveryMode : Bool
  projectName : Option String
  firmwareSha256 : Option String
  appVersion : Option String
  deriving DecidableEq, Repr

structure Inventory where
  partitionTableSha256 : Option String
  lastOperationId : Option String
  lastResult : Option Int
  bootloaderSha256 : Option String
  deriving DecidableEq, Repr

structure Metadata where
  projectName : Option String
  elfSha256 : Option String
  version : Option String
  deriving DecidableEq, Repr

inductive ValidationMode
  | elfSha256
  | version
  deriving DecidableEq, Repr

structure Validation where
  mode : ValidationMode
  expectedField : String
  actualField : String
  expected : String
  actual : String
  deriving DecidableEq, Repr

def validateOtaIdentity (status : Status) (metadata : Metadata) (mode : ValidationMode) :
    Except Failure Validation :=
  if status.projectName ≠ metadata.projectName then
    .error (.runtime "device reconnected with an unexpected firmware project")
  else
    let (expectedField, actualField, expected, actual, label) :=
      match mode with
      | .elfSha256 => ("elf_sha256", "firmware_sha256", (metadata.elfSha256.getD "").toLower,
          (status.firmwareSha256.getD "").toLower, "firmware ELF SHA-256")
      | .version => ("version", "app_version", metadata.version.getD "", status.appVersion.getD "",
          "firmware version")
    if expected = "" then .error (.runtime ("OTA artifact is missing the expected " ++ label))
    else if actual = "" then
      .error (.outcomeUnknown ("device did not report its " ++ label ++ "; acceptance remains unknown"))
    else if actual ≠ expected then
      .error (.runtime ("device reconnected with an unexpected " ++ label ++ ": expected " ++
        expected ++ ", got " ++ actual))
    else .ok ⟨mode, expectedField, actualField, expected, actual⟩

/-- How the device answers during acceptance. A status is asked for after some number of
events was taken from the queue, possibly more than once at the same point. -/
structure World where
  restart : Except Failure Unit
  status : Nat → Nat → Except Failure Status
  inventory : Nat → Except Failure Inventory

/-- The outer `except (ConnectionError, OSError, KeyError, LookupError)`. -/
def reconcile {α : Type} (message : String) : Except Failure α → Except Failure α
  | .error .contact => .error (.outcomeUnknown message)
  | .error .lookup => .error (.outcomeUnknown message)
  | other => other

def restartDevice (world : World) (completionEvidence : String) : Except Failure Unit :=
  if completionEvidence ≠ "session_close" then
    match world.restart with
    | .error .contact => .ok ()
    | other => other
  else .ok ()

/-- `new_boot` after one event. -/
def noteBoot (writerBoot newBoot : Option BootId) (event : Event) : Option BootId :=
  if event.bootId ≠ none ∧ event.bootId ≠ writerBoot then event.bootId else newBoot

def ReportsHealth (newBoot : Option BootId) (event : Event) : Prop :=
  event.eventName = some .healthy ∧ event.bootId = newBoot

instance (newBoot : Option BootId) (event : Event) : Decidable (ReportsHealth newBoot event) :=
  inferInstanceAs (Decidable (_ ∧ _))

structure Watched where
  newBoot : Option BootId
  healthy : Bool
  taken : Nat

/-- The loop of `run_system_update`: it stops at the first reported health. -/
def watchHealth (writerBoot : Option BootId) : Nat → Option BootId → List Event → Watched
  | taken, newBoot, [] => ⟨newBoot, false, taken⟩
  | taken, newBoot, event :: events =>
    let newBoot := noteBoot writerBoot newBoot event
    if ReportsHealth newBoot event then ⟨newBoot, true, taken + 1⟩
    else watchHealth writerBoot (taken + 1) newBoot events

/-- What `run_system_update` has fixed before it subscribes. -/
structure SystemPlan where
  writerBoot : Option BootId
  targetLayoutSha256 : String
  wireOperationId : String
  bootloaderSha256 : Option String
  application : Option Metadata
  targetRecovery : Option Metadata
  validationMode : ValidationMode
  timeout : String

structure SystemAcceptance where
  bootId : Option BootId
  targetInventory : Inventory
  applicationValidation : Option Validation
  recoveryValidation : Option Validation

def checkInventory (plan : SystemPlan) (inventory : Inventory) : Except Failure Unit :=
  if inventory.partitionTableSha256 ≠ some plan.targetLayoutSha256 then
    .error (.runtime "post-update partition-table SHA-256 does not match")
  else if inventory.lastOperationId ≠ some plan.wireOperationId then
    .error (.runtime "post-update sysmeta operation ID does not match")
  else if inventory.lastResult.getD (-1) ≠ 0 then
    .error (.runtime "post-update sysmeta records a failed commit")
  else if plan.bootloaderSha256 ≠ none ∧ inventory.bootloaderSha256 ≠ plan.bootloaderSha256 then
    .error (.runtime "post-update bootloader SHA-256 does not match")
  else .ok ()

def checkTarget (status : Status) (mode : ValidationMode) :
    Option Metadata → Except Failure (Option Validation)
  | none => .ok none
  | some image => (validateOtaIdentity status image mode).map some

def checkRecovery (status : Status) (mode : ValidationMode) :
    Option Metadata → Except Failure (Option Validation)
  | none => .ok none
  | some image =>
    if status.recoveryMode then (validateOtaIdentity status image mode).map some
    else .error (.runtime "updated Recovery did not boot in recovery mode")

/-- The guarded part of `run_system_update` after the bundle was written. -/
def observeSystemUpdate (world : World) (plan : SystemPlan) (completionEvidence : String)
    (events : List Event) : Except Failure (Option BootId × Status × Inventory) := do
  restartDevice world completionEvidence
  let watched := watchHealth plan.writerBoot 0 none events
  if watched.newBoot = none ∨ watched.healthy = false then
    throw (.outcomeUnknown ("system update was written but healthy acceptance was not observed within " ++
      plan.timeout ++ " seconds"))
  let status ← world.status watched.taken 0
  let inventory ← world.inventory watched.taken
  let after ← world.status watched.taken 1
  if status.bootId ≠ watched.newBoot ∨ after.bootId ≠ watched.newBoot then
    throw (.outcomeUnknown "system update rebooted after HEALTHY; acceptance needs reconciliation")
  return (watched.newBoot, after, inventory)

/-- `run_system_update` from the subscription on. The bundle was written, and `events` are
those its loop takes from the queue before the deadline. -/
def runSystemUpdate (world : World) (plan : SystemPlan) (completionEvidence : String)
    (events : List Event) : Except Failure SystemAcceptance := do
  let (bootId, status, inventory) ← reconcile
    "system update outcome needs read-only reconciliation"
    (observeSystemUpdate world plan completionEvidence events)
  checkInventory plan inventory
  let application ← checkTarget status plan.validationMode plan.application
  let recovery ← checkRecovery status plan.validationMode plan.targetRecovery
  return ⟨bootId, inventory, application, recovery⟩

/-- The loop of `closed_loop_ota`: a status read that does not confirm the healthy boot only
moves the noted boot. -/
def watchStatus (world : World) (writerBoot : Option BootId) :
    Nat → Option BootId → List Event → Except Failure (Option BootId × Option Status)
  | _, newBoot, [] => .ok (newBoot, none)
  | taken, newBoot, event :: events =>
    let newBoot := noteBoot writerBoot newBoot event
    if ReportsHealth newBoot event then
      match world.status (taken + 1) 0 with
      | .error reason => .error reason
      | .ok candidate =>
        if candidate.bootId = newBoot then .ok (newBoot, some candidate)
        else if candidate.bootId ≠ writerBoot ∧ candidate.bootId ≠ none then
          watchStatus world writerBoot (taken + 1) candidate.bootId events
        else watchStatus world writerBoot (taken + 1) newBoot events
    else watchStatus world writerBoot (taken + 1) newBoot events

structure OtaResult where
  healthy : Bool
  bootId : Option BootId
  completionEvidence : String

/-- The result of `DeviceSession.ota_update` has neither `healthy` nor `boot_id`. -/
def OtaResult.ofSession (completionEvidence : String) : OtaResult where
  healthy := false
  bootId := none
  completionEvidence := completionEvidence

structure OtaPlan where
  writerBoot : Option BootId
  metadata : Metadata
  validationMode : ValidationMode
  timeout : String

structure OtaAcceptance where
  bootId : Option BootId
  validation : Validation

/-- `closed_loop_ota` from the subscription on, without the outer `except`. -/
def observeOta (world : World) (plan : OtaPlan) (result : OtaResult) (events : List Event) :
    Except Failure OtaAcceptance := do
  if result.healthy then
    let status ← world.status 0 0
    if status.bootId = none ∨ status.bootId = plan.writerBoot then
      throw (.outcomeUnknown "OTA HEALTHY result has no confirmed new boot")
    if result.bootId ≠ none ∧ result.bootId ≠ status.bootId then
      throw (.outcomeUnknown "OTA boot changed after HEALTHY result")
    let validation ← validateOtaIdentity status plan.metadata plan.validationMode
    return ⟨status.bootId, validation⟩
  restartDevice world result.completionEvidence
  let (newBoot, reconnected) ← watchStatus world plan.writerBoot 0 none events
  match newBoot, reconnected with
  | some boot, some status =>
    let validation ← validateOtaIdentity status plan.metadata plan.validationMode
    return ⟨some boot, validation⟩
  | _, _ =>
    throw (.outcomeUnknown ("OTA was written, but the final reconnect/healthy acceptance was not observed within " ++
      plan.timeout ++ " seconds"))

def closedLoopOta (world : World) (plan : OtaPlan) (result : OtaResult) (events : List Event) :
    Except Failure OtaAcceptance :=
  reconcile "OTA write or post-write observation lost contact; reconcile before another write"
    (observeOta world plan result events)

def Rival (writerBoot : BootId) (event : Event) : Prop :=
  event.eventName = some .healthy ∧ event.bootId ≠ some writerBoot

instance (writerBoot : BootId) (event : Event) : Decidable (Rival writerBoot event) :=
  inferInstanceAs (Decidable (_ ∧ _))

/-- Every event with a boot, noted or not, that is no rival passes without a check. -/
theorem quiet_of_not_rival {writerBoot : BootId} {newBoot : Option BootId} {event : Event}
    (noted : newBoot ≠ some writerBoot) (quiet : ¬ Rival writerBoot event) :
    ¬ ReportsHealth (noteBoot (some writerBoot) newBoot event) event := by
  rintro ⟨healthy, same⟩
  have own : event.bootId = some writerBoot := not_not.mp fun other => quiet ⟨healthy, other⟩
  rw [noteBoot, if_neg (by simp [own])] at same
  exact noted (same.symm.trans own)

theorem noteBoot_ne_writer {writerBoot : BootId} {newBoot : Option BootId} (event : Event)
    (noted : newBoot ≠ some writerBoot) : noteBoot (some writerBoot) newBoot event ≠ some writerBoot := by
  unfold noteBoot
  split
  next other => exact other.2
  next => exact noted

theorem rival_reportsHealth {writerBoot : BootId} (newBoot : Option BootId) {event : Event}
    (rival : Rival writerBoot event) (named : event.bootId ≠ none) :
    noteBoot (some writerBoot) newBoot event = event.bootId ∧
      ReportsHealth (noteBoot (some writerBoot) newBoot event) event := by
  have noted : noteBoot (some writerBoot) newBoot event = event.bootId := if_pos ⟨named, rival.2⟩
  exact ⟨noted, rival.1, noted.symm⟩

theorem watchHealth_first {writerBoot : BootId} {before : List Event} (after : List Event) {rival : Event}
    (quiet : ∀ event ∈ before, ¬ Rival writerBoot event) (stops : Rival writerBoot rival)
    (named : rival.bootId ≠ none) (taken : Nat) (newBoot : Option BootId) (noted : newBoot ≠ some writerBoot) :
    watchHealth (some writerBoot) taken newBoot (before ++ rival :: after) =
      ⟨rival.bootId, true, taken + before.length + 1⟩ := by
  induction before generalizing taken newBoot with
  | nil =>
    obtain ⟨moved, reports⟩ := rival_reportsHealth newBoot stops named
    rw [List.nil_append, watchHealth, if_pos reports, moved]
    rfl
  | cons event before ih =>
    have pass := quiet_of_not_rival noted (quiet event List.mem_cons_self)
    have rest := ih (fun other member => quiet other (List.mem_cons_of_mem _ member)) (taken + 1)
      (noteBoot (some writerBoot) newBoot event) (noteBoot_ne_writer event noted)
    rw [List.cons_append, watchHealth, if_neg pass, rest, List.length_cons]
    congr 1
    omega

/-- The loop of `closed_loop_ota` asks for a status at the first rival and not before. -/
theorem watchStatus_first {writerBoot : BootId} {before : List Event} (after : List Event) {rival : Event} (world : World)
    (quiet : ∀ event ∈ before, ¬ Rival writerBoot event) (stops : Rival writerBoot rival)
    (named : rival.bootId ≠ none) (taken : Nat) (newBoot : Option BootId) (noted : newBoot ≠ some writerBoot) :
    watchStatus world (some writerBoot) taken newBoot (before ++ rival :: after) =
      watchStatus world (some writerBoot) (taken + before.length) rival.bootId (rival :: after) := by
  induction before generalizing taken newBoot with
  | nil =>
    have moved := (rival_reportsHealth newBoot stops named).1
    have again := (rival_reportsHealth rival.bootId stops named).1
    simp only [List.nil_append, watchStatus, moved, again, List.length_nil, Nat.add_zero]
  | cons event before ih =>
    have pass := quiet_of_not_rival noted (quiet event List.mem_cons_self)
    have rest := ih (fun other member => quiet other (List.mem_cons_of_mem _ member)) (taken + 1)
      (noteBoot (some writerBoot) newBoot event) (noteBoot_ne_writer event noted)
    rw [List.cons_append, watchStatus, if_neg pass, rest, List.length_cons]
    congr 1
    omega

theorem first_of_mem {α : Type} (condition : α → Prop) [DecidablePred condition] (items : List α)
    (found : ∃ item ∈ items, condition item) :
    ∃ before item after, items = before ++ item :: after ∧ condition item ∧
      ∀ other ∈ before, ¬ condition other := by
  obtain ⟨item, search⟩ : ∃ item, items.find? (fun item => decide (condition item)) = some item := by
    rw [← Option.isSome_iff_exists, List.find?_isSome]
    simpa using found
  obtain ⟨met, before, after, split, earlier⟩ := List.find?_eq_some_iff_append.mp search
  exact ⟨before, item, after, split, of_decide_eq_true met, fun other member => by simpa using earlier other member⟩

theorem take_through {α : Type} (before : List α) (item : α) (after : List α) :
    (before ++ item :: after).take (before.length + 1) = before ++ [item] := by
  rw [List.append_cons]
  exact List.take_left' (by simp)

/-- An update that was written from `writerBoot`, the events its acceptance sees and the boot
that follows it. The history is of older boots and of the writer's. -/
structure Scenario where
  history : History
  turns : List (Turn Event)
  writerBoot : BootId
  newBoot : BootId
  different : newBoot ≠ writerBoot
  named : ∀ event ∈ history.events, event.eventName = some .healthy → event.bootId ≠ none
  fresh : ∀ event ∈ history.events, event.bootId ≠ some newBoot
  live : ∀ event ∈ published turns, event.eventName = some .healthy →
    event.bootId = some writerBoot ∨ event.bootId = some newBoot
  healthy : ∃ event ∈ received queueLimit history.subscribe turns,
    event.eventName = some .healthy ∧ event.bootId = some newBoot

def Scenario.events (scenario : Scenario) : List Event :=
  received queueLimit scenario.history.subscribe scenario.turns

def Scenario.Undisturbed (scenario : Scenario) : Prop :=
  ∀ event ∈ scenario.events, event.eventName = some .healthy →
    event.bootId = some scenario.writerBoot ∨ event.bootId = some scenario.newBoot

/-- The device answers as the new boot with the expected identity once an event of that boot
was taken. Before, it may be away, still run the writer, or already run the new boot. -/
structure Scenario.Answers (scenario : Scenario) (expected : Status → Prop) (found : Inventory → Prop)
    (world : World) : Prop where
  restart : world.restart = .ok () ∨ world.restart = .error .contact
  booted : ∀ taken ask, (∃ event ∈ scenario.events.take taken, event.bootId = some scenario.newBoot) →
    ∃ status, world.status taken ask = .ok status ∧ status.bootId = some scenario.newBoot ∧ expected status
  earlier : ∀ taken ask status, world.status taken ask = .ok status →
    status.bootId = some scenario.writerBoot ∨ status.bootId = some scenario.newBoot ∧ expected status
  inventory : ∀ taken, (∃ event ∈ scenario.events.take taken, event.bootId = some scenario.newBoot) →
    ∃ inventory, world.inventory taken = .ok inventory ∧ found inventory

def Succeeds {α : Type} (result : Except Failure α) : Prop := ∃ value, result = .ok value

theorem restartDevice_ok (world : World) (completionEvidence : String)
    (tolerated : world.restart = .ok () ∨ world.restart = .error .contact) :
    restartDevice world completionEvidence = .ok () := by
  unfold restartDevice
  split
  · rcases tolerated with accepted | lost
    · rw [accepted]
    · rw [lost]
  · rfl

/-- The events come from the history first, so a disturbed loop meets an older boot's health
report before any event of the new boot. -/
theorem Scenario.first_rival (scenario : Scenario) :
    ∃ before rival after, scenario.events = before ++ rival :: after ∧ Rival scenario.writerBoot rival ∧
      rival.bootId ≠ none ∧ (∀ event ∈ before, ¬ Rival scenario.writerBoot event) ∧
      (scenario.Undisturbed → rival.bootId = some scenario.newBoot) ∧
      (¬ scenario.Undisturbed → ∀ event ∈ before ++ [rival], event.bootId ≠ some scenario.newBoot) := by
  obtain ⟨report, taken, isHealthy, onNew⟩ := scenario.healthy
  have reportRival : Rival scenario.writerBoot report := by
    refine ⟨isHealthy, ?_⟩
    rw [onNew]
    exact fun same => scenario.different (Option.some.inj same)
  obtain ⟨before, rival, after, split, stops, quiet⟩ :=
    first_of_mem (Rival scenario.writerBoot) scenario.events ⟨report, taken, reportRival⟩
  obtain ⟨kept, later, ordered, fromHistory, fromLive⟩ :=
    received_ordered queueLimit scenario.history.subscribe scenario.turns
  have member : rival ∈ scenario.events := by
    rw [split]
    simp
  have origin : rival ∈ kept ∨ rival ∈ later := by
    have inside : rival ∈ kept ++ later := ordered ▸ member
    exact List.mem_append.mp inside
  refine ⟨before, rival, after, split, stops, ?_, quiet, ?_, ?_⟩
  · rcases origin with old | fresh
    · exact scenario.named rival (fromHistory.subset old) stops.1
    · rcases scenario.live rival (fromLive.subset fresh) stops.1 with own | new
      · exact absurd own stops.2
      · simp [new]
  · intro undisturbed
    exact (undisturbed rival member stops.1).resolve_left stops.2
  · intro disturbed
    -- the disturbing report is in the part from the history, and so is everything up to `rival`
    simp only [Scenario.Undisturbed, not_forall, not_or] at disturbed
    obtain ⟨other, otherTaken, otherHealthy, otherBoot⟩ := disturbed
    have otherOld : other ∈ kept := by
      have inside : other ∈ kept ++ later := ordered ▸ otherTaken
      rcases List.mem_append.mp inside with old | fresh
      · exact old
      · rcases scenario.live other (fromLive.subset fresh) otherHealthy with own | new
        · exact absurd own otherBoot.1
        · exact absurd new otherBoot.2
    have notBefore : other ∉ before := fun inside => quiet other inside ⟨otherHealthy, otherBoot.1⟩
    have covered : ∀ event ∈ before ++ [rival], event ∈ kept := by
      rcases List.append_eq_append_iff.mp (split.symm.trans ordered) with
        ⟨middle, keptIs, tailIs⟩ | ⟨middle, beforeIs, -⟩
      · cases middle with
        | nil =>
          rw [keptIs, List.append_nil] at otherOld
          exact absurd otherOld notBefore
        | cons first middle =>
          obtain ⟨rfl, -⟩ := List.cons.inj tailIs
          intro event inside
          rw [keptIs]
          simp only [List.mem_append, List.mem_cons] at inside ⊢
          tauto
      · refine absurd ?_ notBefore
        rw [beforeIs]
        exact List.mem_append_left _ otherOld
    intro event inside
    exact scenario.fresh event (fromHistory.subset (covered event inside))

def SystemPlan.Expects (plan : SystemPlan) (status : Status) : Prop :=
  Succeeds (checkTarget status plan.validationMode plan.application) ∧
    Succeeds (checkRecovery status plan.validationMode plan.targetRecovery)

def SystemPlan.Finds (plan : SystemPlan) (inventory : Inventory) : Prop :=
  checkInventory plan inventory = .ok ()

def OtaPlan.Expects (plan : OtaPlan) (status : Status) : Prop :=
  Succeeds (validateOtaIdentity status plan.metadata plan.validationMode)

theorem runSystemUpdate_undisturbed (scenario : Scenario) (plan : SystemPlan) (evidence : String) (world : World)
    (writer : plan.writerBoot = some scenario.writerBoot) (undisturbed : scenario.Undisturbed)
    (answers : scenario.Answers plan.Expects plan.Finds world) :
    Succeeds (runSystemUpdate world plan evidence scenario.events) := by
  obtain ⟨before, rival, after, split, stops, named, quiet, onNew, -⟩ := scenario.first_rival
  have seen : ∃ event ∈ scenario.events.take (before.length + 1), event.bootId = some scenario.newBoot := by
    refine ⟨rival, ?_, onNew undisturbed⟩
    rw [split, take_through]
    simp
  have watched := watchHealth_first after quiet stops named 0 none (by simp)
  rw [Nat.zero_add] at watched
  obtain ⟨status, statusRead, statusBoot, -⟩ := answers.booted _ 0 seen
  obtain ⟨inventory, inventoryRead, found⟩ := answers.inventory _ seen
  obtain ⟨last, lastRead, lastBoot, ⟨application, applicationOk⟩, ⟨recovery, recoveryOk⟩⟩ := answers.booted _ 1 seen
  have observed : observeSystemUpdate world plan evidence scenario.events =
      .ok (some scenario.newBoot, last, inventory) := by
    simp only [observeSystemUpdate, restartDevice_ok world evidence answers.restart, writer]
    rw [split, watched, onNew undisturbed]
    simp [bind, Except.bind, pure, Except.pure, statusRead, inventoryRead, lastRead, statusBoot, lastBoot]
  refine ⟨⟨some scenario.newBoot, inventory, application, recovery⟩, ?_⟩
  have checked : checkInventory plan inventory = .ok () := found
  simp only [runSystemUpdate, observed, reconcile, bind, Except.bind, checked, applicationOk, recoveryOk]
  rfl

/-- An older health report makes `run_system_update` fail however the device answers. -/
theorem runSystemUpdate_disturbed (scenario : Scenario) (plan : SystemPlan) (evidence : String) (world : World)
    (writer : plan.writerBoot = some scenario.writerBoot) (disturbed : ¬ scenario.Undisturbed)
    (answers : scenario.Answers plan.Expects plan.Finds world) :
    ¬ Succeeds (runSystemUpdate world plan evidence scenario.events) := by
  obtain ⟨before, rival, after, split, stops, named, quiet, -, old⟩ := scenario.first_rival
  have rivalOld := old disturbed rival (by simp)
  have watched := watchHealth_first after quiet stops named 0 none (by simp)
  rw [Nat.zero_add] at watched
  have failed : ∃ reason, observeSystemUpdate world plan evidence scenario.events = .error reason := by
    simp only [observeSystemUpdate, restartDevice_ok world evidence answers.restart, writer]
    rw [split, watched]
    simp only [bind, Except.bind, pure, Except.pure, named, Bool.true_eq_false, or_self, if_false]
    cases first : world.status (before.length + 1) 0 with
    | error reason => exact ⟨reason, rfl⟩
    | ok status =>
      have other : status.bootId ≠ rival.bootId := by
        rcases answers.earlier _ _ status first with own | new
        · exact fun same => stops.2 (same.symm.trans own)
        · exact fun same => rivalOld (same.symm.trans new.1)
      cases world.inventory (before.length + 1) with
      | error reason => exact ⟨reason, rfl⟩
      | ok inventory =>
        cases world.status (before.length + 1) 1 with
        | error reason => exact ⟨reason, rfl⟩
        | ok last => exact ⟨_, if_pos (Or.inl other)⟩
  obtain ⟨reason, failed⟩ := failed
  rintro ⟨accepted, succeeded⟩
  simp only [runSystemUpdate, failed, bind, Except.bind] at succeeded
  cases reason <;> simp [reconcile] at succeeded

theorem closedLoopOta_undisturbed (scenario : Scenario) (plan : OtaPlan) (evidence : String) (world : World)
    (writer : plan.writerBoot = some scenario.writerBoot) (undisturbed : scenario.Undisturbed)
    (answers : scenario.Answers plan.Expects (fun _ => True) world) :
    Succeeds (closedLoopOta world plan (.ofSession evidence) scenario.events) := by
  obtain ⟨before, rival, after, split, stops, named, quiet, onNew, -⟩ := scenario.first_rival
  have seen : ∃ event ∈ scenario.events.take (before.length + 1), event.bootId = some scenario.newBoot := by
    refine ⟨rival, ?_, onNew undisturbed⟩
    rw [split, take_through]
    simp
  have watched := watchStatus_first after world quiet stops named 0 none (by simp)
  rw [Nat.zero_add] at watched
  obtain ⟨noted, reports⟩ := rival_reportsHealth rival.bootId stops named
  obtain ⟨status, statusRead, statusBoot, validation, valid⟩ := answers.booted _ 0 seen
  have reconnected : watchStatus world plan.writerBoot 0 none scenario.events =
      .ok (some scenario.newBoot, some status) := by
    rw [writer, split, watched, watchStatus, if_pos reports, noted, onNew undisturbed, statusRead]
    simp [statusBoot]
  refine ⟨⟨some scenario.newBoot, validation⟩, ?_⟩
  simp only [closedLoopOta, observeOta, OtaResult.ofSession, restartDevice_ok world evidence answers.restart,
    reconnected, bind, Except.bind, pure, Except.pure, Bool.false_eq_true, if_false, valid, reconcile]

def Scenario.rebooting (scenario : Scenario) (status : Status) (inventory : Inventory) : World where
  restart := .ok ()
  status := fun taken _ =>
    if ∃ event ∈ scenario.events.take taken, event.bootId = some scenario.newBoot then .ok status
    else .error .contact
  inventory := fun _ => .ok inventory

theorem Scenario.rebooting_answers (scenario : Scenario) (expected : Status → Prop) (found : Inventory → Prop)
    (status : Status) (inventory : Inventory) (boot : status.bootId = some scenario.newBoot)
    (identity : expected status) (contents : found inventory) :
    scenario.Answers expected found (scenario.rebooting status inventory) := by
  refine ⟨Or.inl rfl, ?_, ?_, ?_⟩
  · intro taken ask seen
    exact ⟨status, if_pos seen, boot, identity⟩
  · intro taken ask answer read
    simp only [Scenario.rebooting] at read
    split at read
    · rw [Except.ok.injEq] at read
      subst read
      exact Or.inr ⟨boot, identity⟩
    · contradiction
  · intro taken seen
    exact ⟨inventory, rfl, contents⟩

theorem closedLoopOta_disturbed (scenario : Scenario) (plan : OtaPlan) (evidence : String) (status : Status)
    (inventory : Inventory) (writer : plan.writerBoot = some scenario.writerBoot)
    (disturbed : ¬ scenario.Undisturbed) :
    ¬ Succeeds (closedLoopOta (scenario.rebooting status inventory) plan (.ofSession evidence) scenario.events) := by
  obtain ⟨before, rival, after, split, stops, named, quiet, -, old⟩ := scenario.first_rival
  have watched := watchStatus_first after (scenario.rebooting status inventory) quiet stops named 0 none
    (by simp)
  rw [Nat.zero_add] at watched
  have reports := (rival_reportsHealth rival.bootId stops named).2
  have away : (scenario.rebooting status inventory).status (before.length + 1) 0 = .error .contact := by
    refine if_neg ?_
    rintro ⟨event, inside, onNew⟩
    refine old disturbed event ?_ onNew
    rwa [split, take_through] at inside
  have failed : watchStatus (scenario.rebooting status inventory) plan.writerBoot 0 none scenario.events =
      .error .contact := by
    rw [writer, split, watched, watchStatus, if_pos reports, away]
  have restarted := restartDevice_ok (scenario.rebooting status inventory) evidence (Or.inl rfl)
  rintro ⟨accepted, succeeded⟩
  simp [closedLoopOta, observeOta, OtaResult.ofSession, restarted, failed, bind, Except.bind, reconcile]
    at succeeded

/-- Either function accepts the update, however the device answers, exactly when no health
report of an older boot is replayed to it. -/
theorem acceptance_iff_undisturbed (scenario : Scenario) (system : SystemPlan) (ota : OtaPlan) (evidence : String)
    (systemWriter : system.writerBoot = some scenario.writerBoot)
    (otaWriter : ota.writerBoot = some scenario.writerBoot)
    (systemIdentity : ∃ status, status.bootId = some scenario.newBoot ∧ system.Expects status)
    (systemContents : ∃ inventory, system.Finds inventory)
    (otaIdentity : ∃ status, status.bootId = some scenario.newBoot ∧ ota.Expects status) :
    ((∀ world, scenario.Answers system.Expects system.Finds world →
      Succeeds (runSystemUpdate world system evidence scenario.events)) ↔ scenario.Undisturbed) ∧
    ((∀ world, scenario.Answers ota.Expects (fun _ => True) world →
      Succeeds (closedLoopOta world ota (.ofSession evidence) scenario.events)) ↔ scenario.Undisturbed) := by
  obtain ⟨systemStatus, systemBoot, systemExpected⟩ := systemIdentity
  obtain ⟨inventory, found⟩ := systemContents
  obtain ⟨otaStatus, otaBoot, otaExpected⟩ := otaIdentity
  refine ⟨⟨?_, ?_⟩, ⟨?_, ?_⟩⟩
  · intro succeeds
    by_contra disturbed
    have answers := scenario.rebooting_answers _ _ _ _ systemBoot systemExpected found
    exact runSystemUpdate_disturbed scenario system evidence _ systemWriter disturbed answers (succeeds _ answers)
  · intro undisturbed world answers
    exact runSystemUpdate_undisturbed scenario system evidence world systemWriter undisturbed answers
  · intro succeeds
    by_contra disturbed
    have answers := scenario.rebooting_answers ota.Expects (fun _ => True) _ inventory otaBoot otaExpected trivial
    exact closedLoopOta_disturbed scenario ota evidence otaStatus inventory otaWriter disturbed (succeeds _ answers)
  · intro undisturbed world answers
    exact closedLoopOta_undisturbed scenario ota evidence world otaWriter undisturbed answers

def throughRecovery : Scenario where
  history := ⟨[⟨some 1, some .healthy⟩, ⟨some 2, some .linkReady⟩], by decide⟩
  turns := [.publish ⟨some 3, some .linkReady⟩, .publish ⟨some 3, some .healthy⟩, .take, .take, .take, .take]
  writerBoot := 2
  newBoot := 3
  different := by decide
  named := by decide
  fresh := by decide
  live := by decide
  healthy := by decide

def updatedStatus : Status := ⟨some 3, false, some "product", none, some "2.0"⟩
def updatedInventory : Inventory := ⟨some "layout", some "operation", some 0, none⟩
def layoutPlan : SystemPlan := ⟨some 2, "layout", "operation", none, none, none, .version, "60"⟩
def versionPlan : OtaPlan := ⟨some 2, ⟨some "product", none, some "2.0"⟩, .version, "60"⟩

theorem acceptance_iff_undisturbed_through_recovery :
    ((∀ world, throughRecovery.Answers layoutPlan.Expects layoutPlan.Finds world →
      Succeeds (runSystemUpdate world layoutPlan "commit_response" throughRecovery.events)) ↔
        throughRecovery.Undisturbed) ∧
    ((∀ world, throughRecovery.Answers versionPlan.Expects (fun _ => True) world →
      Succeeds (closedLoopOta world versionPlan (.ofSession "commit_response") throughRecovery.events)) ↔
        throughRecovery.Undisturbed) :=
  acceptance_iff_undisturbed throughRecovery layoutPlan versionPlan "commit_response" rfl rfl
    ⟨updatedStatus, rfl, ⟨none, rfl⟩, ⟨none, rfl⟩⟩ ⟨updatedInventory, rfl⟩
    ⟨updatedStatus, rfl, ⟨.version, "version", "app_version", "2.0", "2.0"⟩, by decide⟩

/-- The health of boot 1 is taken for that of the update, although the device answers as
boot 3 all along. -/
theorem replayed_health_rejects_update :
    throughRecovery.Answers layoutPlan.Expects layoutPlan.Finds
      ⟨.ok (), fun _ _ => .ok updatedStatus, fun _ => .ok updatedInventory⟩ ∧
    (runSystemUpdate ⟨.ok (), fun _ _ => .ok updatedStatus, fun _ => .ok updatedInventory⟩ layoutPlan
      "commit_response" throughRecovery.events).isOk = false := by
  have expected : layoutPlan.Expects updatedStatus := ⟨⟨none, rfl⟩, ⟨none, rfl⟩⟩
  refine ⟨⟨Or.inl rfl, ?_, ?_, ?_⟩, by decide⟩
  · intro taken ask seen
    exact ⟨updatedStatus, rfl, rfl, expected⟩
  · intro taken ask status read
    obtain rfl : updatedStatus = status := Except.ok.inj read
    exact Or.inr ⟨rfl, expected⟩
  · intro taken seen
    exact ⟨updatedInventory, rfl, rfl⟩

end EspIris.Gateway
