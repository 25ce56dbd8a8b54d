import EspIris.Gateway.BundleRoundTrip

/-! What a closed loop has accepted, as `reconcile_operation` sees it. -/

namespace EspIris.Gateway.Reconciliation
variable {component : SystemUpdateComponent} {status : Status} {writerBoot : BootId} {events : List Event}
variable {world : World}

/-- The status that `closed_loop_ota` makes its last check on. -/
def finalStatus (world : World) (plan : OtaPlan) (result : OtaResult) (events : List Event) : Option Status :=
  if result.healthy then (world.status 0 0).toOption
  else
    match watchStatus world plan.writerBoot 0 none events with
    | .ok (_, status) => status
    | .error _ => none

/-- A run of `closed_loop_ota` in `elf_sha256` mode. -/
structure OtaRun where
  world : World
  events : List Event
  image : FirmwareImage
  result : OtaResult
  writerBoot : BootId
  previousBoot : Option BootId
  throughRecovery : Bool
  reports : Nat
  timeout : String

def OtaRun.plan (run : OtaRun) : OtaPlan where
  writerBoot := some run.writerBoot
  metadata := run.image.metadata
  validationMode := .elfSha256
  timeout := run.timeout

structure OtaRun.Leaves (run : OtaRun) (operation : OperationRecord) : Prop where
  action : operation.action = "firmware.ota"
  params : operation.params = ⟨some run.image.asDict, none⟩
  progress : operation.progress =
    stored (otaUpdates run.plan run.previousBoot run.throughRecovery run.reports run.result.healthy)

structure OtaRun.Accepts (run : OtaRun) (report : DeviceReport) : Prop where
  accepted : Succeeds (closedLoopOta run.world run.plan run.result run.events)
  final : finalStatus run.world run.plan run.result run.events = some report.status.read

/-- A run of `run_system_update`. -/
structure SystemRun (library : PythonLibrary) where
  world : World
  events : List Event
  bundle : SystemUpdateBundle library
  operationId : String
  completionEvidence : String
  writerBoot : BootId
  previousBoot : Option BootId
  preserved : Bool
  throughRecovery : Bool
  reports : Nat
  timeout : String

def SystemRun.plan {library : PythonLibrary} (run : SystemRun library) : SystemPlan :=
  run.bundle.plan run.operationId (some run.writerBoot) run.timeout

structure SystemRun.Leaves {library : PythonLibrary} (run : SystemRun library) (operation : OperationRecord) : Prop where
  action : operation.action = "firmware.system_update"
  operationId : operation.operationId = run.operationId
  params : operation.params = ⟨none, some run.bundle.asDict⟩
  progress : operation.progress =
    stored (run.bundle.updates run.previousBoot (some run.writerBoot) run.preserved run.throughRecovery run.reports)

structure SystemRun.Accepts {library : PythonLibrary} (run : SystemRun library) (report : DeviceReport)
    (inventory : Inventory) : Prop where
  accepted : Succeeds (runSystemUpdate run.world run.plan run.completionEvidence run.events)
  final : ∃ boot, observeSystemUpdate run.world run.plan run.completionEvidence run.events =
    .ok (boot, report.status.read, inventory)

def HealthyKept (operation : OperationRecord) (log : List StoredEvent) (boot : BootId) : Prop :=
  ∃ event ∈ latestEvents log operation.deviceId, event.event.eventName = some .healthy ∧
    event.event.bootId = some boot ∧ operation.createdNs ≤ event.hostReceiveNs

theorem healthyEvent_isSome (operation : OperationRecord) (log : List StoredEvent) (boot : BootId) :
    (healthyEvent operation log boot).isSome = true ↔ HealthyKept operation log boot := by
  unfold healthyEvent HealthyKept
  rw [List.find?_isSome]
  simp only [List.mem_reverse, decide_eq_true_eq]

theorem stored_append (earlier later : List Progress) :
    stored (earlier ++ later) = later.foldl Progress.update (stored earlier) := List.foldl_append

theorem stored_reports (progress : Progress) (reports : Nat) :
    (List.replicate reports Progress.empty).foldl Progress.update progress = progress := by
  induction reports with
  | zero => rfl
  | succ reports ih => exact ih

theorem stored_ota (plan : OtaPlan) (previousBoot : Option BootId) (throughRecovery healthy : Bool) (reports : Nat) :
    (stored (otaUpdates plan previousBoot throughRecovery reports healthy)).writerBootId = some plan.writerBoot := by
  unfold otaUpdates
  cases healthy with
  | true =>
    rw [if_pos rfl, List.append_nil, stored_append, stored_append, stored_reports, stored_append]
    rfl
  | false =>
    rw [stored_append]
    rfl

theorem stored_system {library : PythonLibrary} (bundle : SystemUpdateBundle library)
    (previousBoot writerBoot : Option BootId) (preserved throughRecovery : Bool) (reports : Nat) :
    (stored (bundle.updates previousBoot writerBoot preserved throughRecovery reports)).writerBootId = some writerBoot ∧
      (stored (bundle.updates previousBoot writerBoot preserved throughRecovery reports)).targetApplication =
        some ((bundle.target .application).map FirmwareImage.asDict) ∧
      (stored (bundle.updates previousBoot writerBoot preserved throughRecovery reports)).targetRecovery =
        some ((bundle.target .recovery).map FirmwareImage.asDict) := by
  unfold SystemUpdateBundle.updates
  rw [stored_append, stored_append, stored_reports, stored_append]
  exact ⟨rfl, rfl, rfl⟩

theorem validateOtaIdentity_elf {metadata : Metadata} {validation : Validation}
    (valid : validateOtaIdentity status metadata .elfSha256 = .ok validation) :
    status.projectName = metadata.projectName ∧ metadata.elfSha256.getD "" ≠ "" ∧
      (status.firmwareSha256.getD "").toLower = (metadata.elfSha256.getD "").toLower := by
  unfold validateOtaIdentity at valid
  split at valid
  next => contradiction
  next project =>
    dsimp only at valid
    split at valid
    next => contradiction
    next some_elf =>
      split at valid
      next => contradiction
      split at valid
      next => contradiction
      next same =>
        refine ⟨not_not.mp project, fun empty => some_elf ?_, not_not.mp same⟩
        rw [empty]
        exact String.map_eq_empty.mpr rfl

theorem watchStatus_boot {taken : Nat} {newBoot boot : Option BootId} (noted : newBoot ≠ some writerBoot)
    (watched : watchStatus world (some writerBoot) taken newBoot events = .ok (boot, some status)) :
    status.bootId = boot ∧ boot ≠ some writerBoot := by
  induction events generalizing taken newBoot with
  | nil => simp [watchStatus] at watched
  | cons event events ih =>
    have moved := noteBoot_ne_writer event noted
    unfold watchStatus at watched
    dsimp only at watched
    split at watched
    next =>
      split at watched
      next => contradiction
      next candidate _ =>
        split at watched
        next same =>
          cases watched
          exact ⟨same, moved⟩
        split at watched
        next other => exact ih other.1 watched
        next => exact ih moved watched
    next => exact ih moved watched

theorem reconcile_ok {Result : Type} {message : String} {call : Except Failure Result} {result : Result}
    (done : Gateway.reconcile message call = .ok result) : call = .ok result := by
  cases call with
  | ok value => exact done
  | error failure => cases failure <;> contradiction

theorem except_bind_ok {Value Next : Type} {call : Except Failure Value} {rest : Value → Except Failure Next}
    {next : Next} (goes : call >>= rest = .ok next) : ∃ value, call = .ok value ∧ rest value = .ok next := by
  cases call with
  | error failure => contradiction
  | ok value => exact ⟨value, rfl, goes⟩

theorem closedLoopOta_final {plan : OtaPlan} {result : OtaResult} {acceptance : OtaAcceptance}
    (writer : plan.writerBoot = some writerBoot) (accepted : closedLoopOta world plan result events = .ok acceptance) :
    ∃ final, finalStatus world plan result events = some final ∧ final.bootId ≠ some writerBoot ∧
      validateOtaIdentity final plan.metadata plan.validationMode = .ok acceptance.validation := by
  have observed := reconcile_ok accepted
  unfold observeOta at observed
  unfold finalStatus
  cases healthy : result.healthy with
  | true =>
    rw [if_pos rfl]
    rw [healthy, if_pos rfl] at observed
    obtain ⟨status, read, observed⟩ := except_bind_ok observed
    dsimp only at observed
    split at observed
    next => contradiction
    next booted =>
      split at observed
      next => contradiction
      obtain ⟨validation, valid, observed⟩ := except_bind_ok observed
      cases observed
      rw [not_or, writer] at booted
      exact ⟨status, by rw [read]; rfl, booted.2, valid⟩
  | false =>
    rw [if_neg Bool.false_ne_true]
    rw [healthy, if_neg Bool.false_ne_true] at observed
    obtain ⟨_, _, observed⟩ := except_bind_ok observed
    obtain ⟨⟨newBoot, reconnected⟩, watched, observed⟩ := except_bind_ok observed
    dsimp only at observed
    split at observed
    next boot status =>
      obtain ⟨validation, valid, observed⟩ := except_bind_ok observed
      cases observed
      rw [writer] at watched ⊢
      obtain ⟨same, other⟩ := watchStatus_boot (Option.some_ne_none _).symm watched
      exact ⟨status, by rw [watched], same ▸ other, valid⟩
    next => contradiction

theorem watchHealth_boot (taken : Nat) {newBoot : Option BootId} (events : List Event)
    (noted : newBoot ≠ some writerBoot) :
    (watchHealth (some writerBoot) taken newBoot events).newBoot ≠ some writerBoot := by
  induction events generalizing taken newBoot with
  | nil => exact noted
  | cons event events ih =>
    have moved := noteBoot_ne_writer event noted
    unfold watchHealth
    dsimp only
    split
    next => exact moved
    next => exact ih _ moved

theorem runSystemUpdate_final {plan : SystemPlan} {evidence : String} {acceptance : SystemAcceptance}
    {boot : Option BootId} {inventory : Inventory} (writer : plan.writerBoot = some writerBoot)
    (observed : observeSystemUpdate world plan evidence events = .ok (boot, status, inventory))
    (accepted : runSystemUpdate world plan evidence events = .ok acceptance) :
    status.bootId ≠ some writerBoot ∧ checkInventory plan inventory = .ok () ∧
      Succeeds (checkTarget status plan.validationMode plan.application) ∧
      Succeeds (checkRecovery status plan.validationMode plan.targetRecovery) := by
  refine ⟨?_, ?_⟩
  · unfold observeSystemUpdate at observed
    obtain ⟨_, _, observed⟩ := except_bind_ok observed
    dsimp only at observed
    split at observed
    next => contradiction
    obtain ⟨_, _, observed⟩ := except_bind_ok observed
    obtain ⟨_, _, observed⟩ := except_bind_ok observed
    obtain ⟨after, _, observed⟩ := except_bind_ok observed
    split at observed
    next => contradiction
    next same =>
      cases observed
      rw [not_or, not_not, not_not] at same
      rw [same.2, writer]
      exact watchHealth_boot 0 events (Option.some_ne_none _).symm
  · unfold runSystemUpdate at accepted
    obtain ⟨⟨_, _, _⟩, same, accepted⟩ := except_bind_ok accepted
    have agree := (reconcile_ok same).symm.trans observed
    cases agree
    obtain ⟨_, checked, accepted⟩ := except_bind_ok accepted
    obtain ⟨application, first, accepted⟩ := except_bind_ok accepted
    obtain ⟨recovery, second, _⟩ := except_bind_ok accepted
    exact ⟨checked, ⟨application, first⟩, ⟨recovery, second⟩⟩

theorem checkInventory_ok {plan : SystemPlan} {inventory : Inventory} (checked : checkInventory plan inventory = .ok ()) :
    inventory.partitionTableSha256 = some plan.targetLayoutSha256 ∧
      inventory.lastOperationId = some plan.wireOperationId ∧ inventory.lastResult = some 0 ∧
      (plan.bootloaderSha256 ≠ none → inventory.bootloaderSha256 = plan.bootloaderSha256) := by
  unfold checkInventory at checked
  split at checked
  next => contradiction
  next layout =>
    split at checked
    next => contradiction
    next receipt =>
      split at checked
      next => contradiction
      next result =>
        split at checked
        next => contradiction
        next bootloader =>
          refine ⟨not_not.mp layout, not_not.mp receipt, ?_, fun named => ?_⟩
          · cases last : inventory.lastResult with
            | none =>
              rw [last] at result
              exact absurd (by decide) result
            | some value =>
              rw [last] at result
              exact congrArg some (not_not.mp result)
          · by_contra other
            exact bootloader ⟨named, other⟩

theorem SystemUpdateBundle.find_component {library : PythonLibrary} (bundle : SystemUpdateBundle library)
    (member : component ∈ bundle.components) (named : component.kind ≠ .data) :
    bundle.components.find? (·.kind = component.kind) = some component := by
  have among : component ∈ bundle.components.filter (·.kind = component.kind) :=
    List.mem_filter.mpr ⟨member, by simp⟩
  have single := bundle.single component.kind named
  rw [← List.head?_filter]
  generalize bundle.components.filter (·.kind = component.kind) = found at among single
  match found with
  | [] => contradiction
  | [only] => rw [List.mem_singleton.mp among, List.head?_cons]
  | _ :: _ :: _ => simp at single

theorem inspectFirmwareImage_sha256 {library : PythonLibrary} {data : List UInt8} {image : FirmwareImage}
    (inspected : inspectFirmwareImage library data = .ok image) : image.sha256 = hexText (library.sha256 data) := by
  unfold inspectFirmwareImage at inspected
  split at inspected
  next => contradiction
  split at inspected
  next => contradiction
  split at inspected
  next => contradiction
  dsimp only at inspected
  split at inspected
  next => contradiction
  cases inspected
  rfl

theorem SystemUpdateBundle.target_component {library : PythonLibrary} (bundle : SystemUpdateBundle library)
    (member : component ∈ bundle.components) (image : component.kind = .application ∨ component.kind = .recovery) :
    ∃ found, bundle.target component.kind = some found ∧ found.sha256 = hexText component.sha256 := by
  have named : component.kind ≠ .data := by
    rcases image with same | same
    · rw [same]
      decide
    · rw [same]
      decide
  obtain ⟨found, inspected⟩ := bundle.inspected component member image
  refine ⟨found, ?_, ?_⟩
  · unfold SystemUpdateBundle.target
    rw [bundle.find_component member named, Option.bind_some, inspected]
    rfl
  · rw [bundle.digests component member]
    exact inspectFirmwareImage_sha256 inspected

theorem hexText_ne_empty {bytes : List UInt8} (some_byte : bytes ≠ []) : hexText bytes ≠ "" := by
  intro empty
  cases bytes with
  | nil => contradiction
  | cons byte rest =>
    have long := congrArg String.length empty
    simp [hexText] at long

theorem SystemUpdateBundle.digest_ne_empty {library : PythonLibrary} (bundle : SystemUpdateBundle library)
    (member : component ∈ bundle.components) :
    hexText component.sha256 ≠ "" := by
  apply hexText_ne_empty
  intro empty
  have long := library.sha256_length component.data
  rw [← bundle.digests component member, empty] at long
  contradiction

theorem identityMatches_valid {status : LiveStatus} {image : FirmwareImage}
    (digest : image.sha256 = hexText component.sha256) (some_digest : hexText component.sha256 ≠ "")
    (valid : Succeeds (validateOtaIdentity status.read image.metadata .elfSha256)) :
    identityMatches (some (some image.asDict)) component.asDict status = true := by
  obtain ⟨_, valid⟩ := valid
  obtain ⟨project, some_elf, elf⟩ := validateOtaIdentity_elf valid
  have project : status.projectName = some image.projectName := project
  have some_elf : image.elfSha256 ≠ "" := some_elf
  have elf : (status.firmwareSha256.getD "").toLower = image.elfSha256.toLower := elf
  simp [identityMatches, FirmwareImage.asDict, SystemUpdateComponent.asDict, some_elf, some_digest, digest, project, elf]

theorem checkTarget_some {mode : ValidationMode} {image : Metadata}
    (checked : Succeeds (checkTarget status mode (some image))) : Succeeds (validateOtaIdentity status image mode) := by
  obtain ⟨_, checked⟩ := checked
  unfold checkTarget at checked
  dsimp only at checked
  cases valid : validateOtaIdentity status image mode with
  | ok validation => exact ⟨validation, rfl⟩
  | error failure =>
    rw [valid] at checked
    contradiction

theorem checkRecovery_some {mode : ValidationMode} {image : Metadata}
    (checked : Succeeds (checkRecovery status mode (some image))) :
    status.recoveryMode = true ∧ Succeeds (validateOtaIdentity status image mode) := by
  obtain ⟨_, checked⟩ := checked
  unfold checkRecovery at checked
  dsimp only at checked
  split at checked
  next recovers =>
    cases valid : validateOtaIdentity status image mode with
    | ok validation => exact ⟨recovers, validation, rfl⟩
    | error failure =>
      rw [valid] at checked
      contradiction
  next => contradiction

section accepted
variable {library : PythonLibrary} {run : SystemRun library} {report : DeviceReport} {inventory : Inventory}
  {operation : OperationRecord}

theorem SystemRun.Accepts.checks (accepts : run.Accepts report inventory) :
    report.bootId ≠ run.writerBoot ∧ checkInventory run.plan inventory = .ok () ∧
      Succeeds (checkTarget report.status.read .elfSha256 run.plan.application) ∧
      Succeeds (checkRecovery report.status.read .elfSha256 run.plan.targetRecovery) := by
  obtain ⟨_, accepted⟩ := accepts.accepted
  obtain ⟨_, observed⟩ := accepts.final
  have writer : run.plan.writerBoot = some run.writerBoot := rfl
  obtain ⟨boot, checks⟩ := runSystemUpdate_final writer observed accepted
  exact ⟨fun same => boot (congrArg some same), checks⟩

theorem SystemRun.Accepts.componentMatches (accepts : run.Accepts report inventory) (leaves : run.Leaves operation)
    (member : component ∈ run.bundle.components) :
    componentMatches operation.progress report.status inventory component.asDict = true := by
  obtain ⟨_, checked, application, recovery⟩ := accepts.checks
  obtain ⟨_, _, _, bootloader⟩ := checkInventory_ok checked
  obtain ⟨_, application_kept, recovery_kept⟩ := stored_system run.bundle run.previousBoot (some run.writerBoot)
    run.preserved run.throughRecovery run.reports
  have some_digest := run.bundle.digest_ne_empty member
  unfold Reconciliation.componentMatches
  cases kind : component.kind with
  | partitionTable => simp [SystemUpdateComponent.asDict, kind]
  | data => simp [SystemUpdateComponent.asDict, kind]
  | bootloader =>
    have found := run.bundle.find_component member (by rw [kind]; decide)
    rw [kind] at found
    have named : run.plan.bootloaderSha256 = some (hexText component.sha256) := by
      unfold SystemRun.plan SystemUpdateBundle.plan
      rw [found]
      rfl
    rw [named] at bootloader
    have same := bootloader (Option.some_ne_none _)
    simp [SystemUpdateComponent.asDict, kind, same, some_digest]
  | application =>
    obtain ⟨image, target, digest⟩ := run.bundle.target_component member (.inl kind)
    rw [kind] at target
    have named : run.plan.application = some image.metadata := by
      unfold SystemRun.plan SystemUpdateBundle.plan
      rw [target]
      rfl
    rw [named] at application
    have matched := identityMatches_valid digest some_digest (checkTarget_some application)
    rw [leaves.progress, application_kept, target]
    simpa [SystemUpdateComponent.asDict, kind] using matched
  | recovery =>
    obtain ⟨image, target, digest⟩ := run.bundle.target_component member (.inr kind)
    rw [kind] at target
    have named : run.plan.targetRecovery = some image.metadata := by
      unfold SystemRun.plan SystemUpdateBundle.plan
      rw [target]
      rfl
    rw [named] at recovery
    have matched := identityMatches_valid digest some_digest (checkRecovery_some recovery).2
    rw [leaves.progress, recovery_kept, target]
    simpa [SystemUpdateComponent.asDict, kind] using matched

theorem SystemRun.Accepts.mode (accepts : run.Accepts report inventory) (leaves : run.Leaves operation) :
    report.firmwareMode = expectedMode operation.params ↔
      report.firmwareMode = .normal ∨ ∃ component ∈ run.bundle.components, component.kind = .recovery := by
  obtain ⟨_, _, _, recovery⟩ := accepts.checks
  have listed : expectedMode operation.params =
      if run.bundle.components.any (·.kind = .recovery) then .recovery else .normal := by
    unfold expectedMode
    rw [leaves.params]
    simp [SystemUpdateBundle.asDict, SystemUpdateComponent.asDict, Function.comp_def]
  rw [listed]
  by_cases carries : ∃ component ∈ run.bundle.components, component.kind = .recovery
  · obtain ⟨component, member, kind⟩ := carries
    obtain ⟨image, target, _⟩ := run.bundle.target_component member (.inr kind)
    rw [kind] at target
    have named : run.plan.targetRecovery = some image.metadata := by
      unfold SystemRun.plan SystemUpdateBundle.plan
      rw [target]
      rfl
    rw [named] at recovery
    have recovers : report.firmwareMode = .recovery := by
      have read := (checkRecovery_some recovery).1
      simpa [DeviceReport.status, LiveStatus.read] using read
    have any : run.bundle.components.any (·.kind = .recovery) = true :=
      List.any_eq_true.mpr ⟨component, member, by simp [kind]⟩
    rw [if_pos any]
    exact ⟨fun _ => .inr ⟨component, member, kind⟩, fun _ => recovers⟩
  · have none_any : ¬ run.bundle.components.any (·.kind = .recovery) = true := by
      intro any
      obtain ⟨component, member, kind⟩ := List.any_eq_true.mp any
      exact carries ⟨component, member, by simpa using kind⟩
    rw [if_neg none_any]
    exact ⟨.inl, fun either => either.resolve_right carries⟩

end accepted

/-- A run of `closed_loop_ota` that succeeded is confirmed exactly in the normal role, with HEALTHY kept. -/
theorem OtaRun.Accepts.reconciled {run : OtaRun} {report : DeviceReport} {operation : OperationRecord}
    (accepts : run.Accepts report) (leaves : run.Leaves operation) (library : PythonLibrary) (log : List StoredEvent)
    (uncertain : operation.status = .outcomeUnknown ∨ operation.status = .interrupted)
    (own : report.deviceId = operation.deviceId) (inventory : Except String Inventory) :
    ∃ record, reconcileOperation library (some operation) log ⟨.ok report.status, inventory, .ok report.status⟩ =
        .ok record ∧ record.outcome ≠ .observedFailure ∧
      (record.outcome = .observedSuccess ↔ report.firmwareMode = .normal ∧ HealthyKept operation log report.bootId) := by
  obtain ⟨acceptance, accepted⟩ := accepts.accepted
  have writer : run.plan.writerBoot = some run.writerBoot := rfl
  obtain ⟨final, found, booted, valid⟩ := closedLoopOta_final writer accepted
  cases accepts.final.symm.trans found
  obtain ⟨project, some_elf, elf⟩ := validateOtaIdentity_elf valid
  have kept : operation.progress.writerBootId = some (some run.writerBoot) := by
    rw [leaves.progress, stored_ota]
    rfl
  have matched : imageMatches operation report.status = true := by
    unfold imageMatches
    rw [leaves.params]
    have project : report.status.projectName = some run.image.projectName := project
    have some_elf : run.image.elfSha256 ≠ "" := some_elf
    have elf : (report.status.firmwareSha256.getD "").toLower = run.image.elfSha256.toLower := elf
    simp [FirmwareImage.asDict, some_elf, elf, project]
  have other : some report.bootId ≠ some run.writerBoot := booted
  refine ⟨reconcileOta operation (some run.writerBoot) report.status report.bootId
    (healthyEvent operation log report.bootId), ?_, ?_, ?_⟩
  · unfold reconcileOperation
    have known : ¬ (operation.status ≠ .outcomeUnknown ∧ operation.status ≠ .interrupted) := by tauto
    simp [known, DeviceReport.status, own, leaves.action, kept]
  · unfold reconcileOta
    split
    next => exact Outcome.noConfusion
    next => exact Outcome.noConfusion
  · rw [← healthyEvent_isSome]
    unfold reconcileOta
    split
    next confirmed =>
      refine ⟨fun _ => ⟨Option.some.inj confirmed.2.2.1, confirmed.2.1⟩, fun _ => rfl⟩
    next missing =>
      refine ⟨Outcome.noConfusion, fun both => absurd ?_ missing⟩
      exact ⟨matched, both.2, congrArg some both.1, Option.some_ne_none _, other⟩

/-- The same for `run_system_update`; an update of the recovery ends in its role anyhow. -/
theorem SystemRun.Accepts.reconciled {library : PythonLibrary} {run : SystemRun library} {report : DeviceReport}
    {inventory : Inventory} {operation : OperationRecord} (accepts : run.Accepts report inventory)
    (leaves : run.Leaves operation) (log : List StoredEvent)
    (uncertain : operation.status = .outcomeUnknown ∨ operation.status = .interrupted)
    (own : report.deviceId = operation.deviceId) :
    ∃ record, reconcileOperation library (some operation) log ⟨.ok report.status, .ok inventory, .ok report.status⟩ =
        .ok record ∧ record.outcome ≠ .observedFailure ∧
      (record.outcome = .observedSuccess ↔
        (report.firmwareMode = .normal ∨ ∃ component ∈ run.bundle.components, component.kind = .recovery) ∧
          HealthyKept operation log report.bootId) := by
  obtain ⟨booted, checked, _⟩ := accepts.checks
  obtain ⟨layout, receipt, result, _⟩ := checkInventory_ok checked
  have kept : operation.progress.writerBootId = some (some run.writerBoot) := by
    rw [leaves.progress]
    exact (stored_system _ _ _ _ _ _).1
  have components : targetComponentsMatch operation.params operation.progress report.status inventory = true := by
    unfold targetComponentsMatch
    rw [leaves.params]
    refine List.all_eq_true.mpr fun record member => ?_
    obtain ⟨component, among, rfl⟩ := List.mem_map.mp member
    exact accepts.componentMatches leaves among
  have target : inventory.partitionTableSha256 = operation.params.bundle.bind (·.targetLayoutSha256) := by
    rw [layout, leaves.params]
    rfl
  have wire : inventory.lastOperationId = some (library.wireId operation.operationId) := by
    rw [receipt, leaves.operationId]
    rfl
  have other : some report.bootId ≠ some run.writerBoot := fun same => booted (Option.some.inj same)
  refine ⟨reconcileSystemUpdate library operation (some run.writerBoot) report.status report.bootId
    (healthyEvent operation log report.bootId) ⟨.ok report.status, .ok inventory, .ok report.status⟩, ?_, ?_, ?_⟩
  · unfold reconcileOperation
    have known : ¬ (operation.status ≠ .outcomeUnknown ∧ operation.status ≠ .interrupted) := by tauto
    simp [known, DeviceReport.status, own, leaves.action, kept]
  · unfold reconcileSystemUpdate
    dsimp only
    split
    next => exact Outcome.noConfusion
    split
    next failed => exact absurd result failed.2.2
    split
    next => exact Outcome.noConfusion
    next => exact Outcome.noConfusion
  · rw [← accepts.mode leaves, ← healthyEvent_isSome]
    unfold reconcileSystemUpdate
    dsimp only
    split
    next moved =>
      rcases moved with foreign | rebooted
      · exact absurd (congrArg some own) foreign
      · exact absurd rfl rebooted
    split
    next failed => exact absurd result failed.2.2
    split
    next confirmed =>
      refine ⟨fun _ => ⟨Option.some.inj confirmed.2.2.2.1, confirmed.2.2.1⟩, fun _ => rfl⟩
    next missing =>
      refine ⟨Outcome.noConfusion, fun both => absurd ?_ missing⟩
      exact ⟨by simp [wire], result, both.2, congrArg some both.1, congrArg some both.1, Option.some_ne_none _, other,
        target, components⟩

/-- A closed loop that accepted its final status is never told of a failure, and is confirmed exactly
where the device has the role that the row leads to and the HEALTHY event of its boot is still kept. -/
theorem acceptance_reconciled (library : PythonLibrary) (log : List StoredEvent) {operation : OperationRecord}
    {report : DeviceReport} (uncertain : operation.status = .outcomeUnknown ∨ operation.status = .interrupted)
    (own : report.deviceId = operation.deviceId) :
    (∀ (run : OtaRun) (inventory : Except String Inventory), run.Leaves operation → run.Accepts report →
      ∃ record, reconcileOperation library (some operation) log ⟨.ok report.status, inventory, .ok report.status⟩ =
          .ok record ∧ record.outcome ≠ .observedFailure ∧
        (record.outcome = .observedSuccess ↔
          report.firmwareMode = .normal ∧ HealthyKept operation log report.bootId)) ∧
    (∀ (run : SystemRun library) (inventory : Inventory), run.Leaves operation → run.Accepts report inventory →
      ∃ record, reconcileOperation library (some operation) log ⟨.ok report.status, .ok inventory, .ok report.status⟩ =
          .ok record ∧ record.outcome ≠ .observedFailure ∧
        (record.outcome = .observedSuccess ↔
          (report.firmwareMode = .normal ∨ ∃ component ∈ run.bundle.components, component.kind = .recovery) ∧
            HealthyKept operation log report.bootId)) :=
  ⟨fun _ inventory leaves accepts => accepts.reconciled leaves library log uncertain own inventory,
    fun _ _ leaves accepts => accepts.reconciled leaves log uncertain own⟩

theorem letter_accepted : SystemBundle.Accepted SystemBundle.letterLibrary SystemBundle.noKeys
    (SystemBundle.letterMembers.map Prod.snd) none SystemBundle.letterBundle := by
  obtain ⟨_, _, isArchive, isOpen, accepted⟩ :=
    SystemBundle.loadSystemUpdateBundle_ok SystemBundle.loadSystemUpdateBundle_letter
  obtain rfl := Except.ok.inj isArchive
  obtain rfl := Except.ok.inj isOpen
  exact accepted

/-- The bundle that is loaded from the archive with the byte `a`. -/
def letterBundle : SystemUpdateBundle SystemBundle.letterLibrary := letter_accepted.taken

def letterReport (mode : FirmwareMode) : DeviceReport where
  deviceId := "device"
  bootId := 3
  firmwareMode := mode
  projectName := "product"
  firmwareSha256 := ""
  appVersion := "2.0"

def letterInventory : Inventory where
  partitionTableSha256 := some letterBundle.targetLayoutSha256
  lastOperationId := some "00000000000040008000000000000001"
  lastResult := some 0
  bootloaderSha256 := none

def letterRun (mode : FirmwareMode) : SystemRun SystemBundle.letterLibrary where
  world := ⟨.ok (), fun _ _ => .ok (letterReport mode).status.read, fun _ => .ok letterInventory⟩
  events := [⟨some 3, some .healthy⟩]
  bundle := letterBundle
  operationId := "00000000-0000-4000-8000-000000000001"
  completionEvidence := "commit_response"
  writerBoot := 2
  previousBoot := some 1
  preserved := false
  throughRecovery := true
  reports := 0
  timeout := "45"

def letterOperation : OperationRecord where
  operationId := "00000000-0000-4000-8000-000000000001"
  deviceId := "device"
  action := "firmware.system_update"
  status := .interrupted
  params := ⟨none, some letterBundle.asDict⟩
  progress := stored (letterBundle.updates (some 1) (some 2) false true 0)
  createdNs := 1

def letterLog : List StoredEvent := [⟨some "device", .device, ⟨some 3, some .healthy⟩, 2⟩]

theorem letterRun_leaves (mode : FirmwareMode) : (letterRun mode).Leaves letterOperation := ⟨rfl, rfl, rfl, rfl⟩

theorem letterRun_accepts (mode : FirmwareMode) : (letterRun mode).Accepts (letterReport mode) letterInventory where
  accepted := ⟨⟨some 3, letterInventory, none, none⟩, rfl⟩
  final := ⟨some 3, rfl⟩

theorem letter_healthyKept : HealthyKept letterOperation letterLog 3 :=
  ⟨⟨some "device", .device, ⟨some 3, some .healthy⟩, 2⟩, by decide, rfl, rfl, by decide⟩

theorem letter_reconciled : ∃ record, reconcileOperation SystemBundle.letterLibrary (some letterOperation) letterLog
    ⟨.ok (letterReport .normal).status, .ok letterInventory, .ok (letterReport .normal).status⟩ = .ok record ∧
      record.outcome = .observedSuccess := by
  have both := acceptance_reconciled SystemBundle.letterLibrary letterLog (Or.inr (rfl : letterOperation.status = .interrupted))
    (rfl : (letterReport .normal).deviceId = letterOperation.deviceId)
  obtain ⟨record, done, _, confirmed⟩ :=
    both.2 (letterRun .normal) letterInventory (letterRun_leaves .normal) (letterRun_accepts .normal)
  exact ⟨record, done, confirmed.mpr ⟨.inl rfl, letter_healthyKept⟩⟩

/-- The device stays in its recovery after the update: accepted, and not confirmed. -/
theorem recovery_acceptance_unconfirmed : (letterRun .recovery).Leaves letterOperation ∧
    (letterRun .recovery).Accepts (letterReport .recovery) letterInventory ∧
    HealthyKept letterOperation letterLog (letterReport .recovery).bootId ∧
    ∃ record, reconcileOperation SystemBundle.letterLibrary (some letterOperation) letterLog
      ⟨.ok (letterReport .recovery).status, .ok letterInventory, .ok (letterReport .recovery).status⟩ = .ok record ∧
        record.outcome = .outcomeUnknown :=
  ⟨letterRun_leaves .recovery, letterRun_accepts .recovery, letter_healthyKept, _, rfl, rfl⟩

end EspIris.Gateway.Reconciliation
