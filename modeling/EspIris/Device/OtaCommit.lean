import EspIris.Device.CrashDiversion
import EspIris.Device.JobIsolation

/-! OTA END takes two steps that outlast it: it clears the record of the crash counter, then it selects the
boot partition. -/

namespace EspIris.Device.Jobs
open Codec.Device

/-- What `esp_ota_set_boot_partition` comes to; an error does not say whether the partition is selected. -/
structure BootSelection where
  result : EspErr
  stored : Bool

def BootSelection.lands (selection : BootSelection) : Bool := selection.result = EspErr.ok || selection.stored

structure CommitAnswers where
  checks : OtaAnswers
  probe : ProbeInput
  reset : MarkInput
  boot : BootSelection

/-- The transfer with what OTA END may change for good; `esp_iris_start` has probed the crash record before
any frame is handled. -/
structure CommitWorld where
  services : Services
  crash : CrashDevice
  boot : Option OtaTarget
  probed : crash.runtime.crashLoopInitialized = true

structure CrashEvidence where
  count : UInt32
  failedValid : Bool
  failed : Image
  recoveryPending : Bool
  deriving DecidableEq, Repr

def CrashEvidence.of (state : CrashState) : CrashEvidence where
  count := state.count
  failedValid := state.has .failedValid
  failed := state.failed
  recoveryPending := state.has .recoveryPending

def CrashEvidence.none : CrashEvidence := .of stateInit

def CommitWorld.evidence (world : CommitWorld) : CrashEvidence := .of (stored world.crash.nvs)

section reset
variable (builds : Image → CrashBuild)

def espIrisCrashLoopReset (device : CrashDevice) (probe : ProbeInput) (reset : MarkInput) : CrashDevice × EspErr :=
  if device.runtime.crashLoopInitialized = false then
    irisCrashRecoveryReset builds (irisCrashRecoveryProbe builds device probe).1 reset
  else irisCrashRecoveryReset builds device reset

variable {builds} {device : CrashDevice}

theorem endProbe_initialized (state : CrashState) (err : EspErr) :
    (endProbe builds device state err).1.runtime.crashLoopInitialized = device.runtime.crashLoopInitialized := rfl

theorem divertProbe_initialized (state : CrashState) (input : ProbeInput) :
    (divertProbe builds device state input).1.runtime.crashLoopInitialized = device.runtime.crashLoopInitialized := by
  unfold divertProbe
  dsimp only
  split
  next => rfl
  split
  next => rfl
  split
  next => rfl
  split
  next => rfl
  next => rfl

theorem ended_initialized (diverts : Prop) [Decidable diverts] (state : CrashState) (input : ProbeInput) (err : EspErr) :
    (if diverts then divertProbe builds device state input
      else endProbe builds device state err).1.runtime.crashLoopInitialized = device.runtime.crashLoopInitialized := by
  split
  next => exact divertProbe_initialized state input
  next => exact endProbe_initialized state err

theorem irisCrashRecoveryProbe_initialized (input : ProbeInput) :
    (irisCrashRecoveryProbe builds device input).1.runtime.crashLoopInitialized = true := by
  unfold irisCrashRecoveryProbe
  dsimp only
  split
  next before => exact before
  split
  next => rfl
  split
  next => rfl
  next => exact (ended_initialized _ _ input _).trans rfl

theorem changeRecord_initialized (input : MarkInput) (change : CrashState → CrashState) :
    (changeRecord builds device input change).1.runtime.crashLoopInitialized = device.runtime.crashLoopInitialized := by
  unfold changeRecord
  dsimp only
  split_ifs <;> rfl

theorem espIrisCrashLoopReset_probed (probed : device.runtime.crashLoopInitialized = true) (probe : ProbeInput)
    (reset : MarkInput) : espIrisCrashLoopReset builds device probe reset = irisCrashRecoveryReset builds device reset := by
  unfold espIrisCrashLoopReset
  rw [if_neg fun not => Bool.noConfusion (probed.symm.trans not)]

theorem irisCrashRecoveryReset_initialized (probed : device.runtime.crashLoopInitialized = true) (reset : MarkInput) :
    (irisCrashRecoveryReset builds device reset).1.runtime.crashLoopInitialized = true := by
  unfold irisCrashRecoveryReset
  rw [if_neg fun not => Bool.noConfusion (probed.symm.trans not)]
  dsimp only
  split
  next => exact (changeRecord_initialized reset _).trans probed
  next => exact (changeRecord_initialized reset _).trans probed

theorem cleared_evidence (state : CrashState) : CrashEvidence.of (consumePlanned (clearFailure state)) = .none := by
  have noFlag : ∀ flag, hasFlag 0#32 flag = false := hasFlag_zero
  simp [CrashEvidence.of, CrashEvidence.none, consumePlanned, clearFailure, CrashState.has, CrashState.failed, stateInit, noFlag]

theorem cleared_valid {state : CrashState} (valid : stateValid state crashStateSize) :
    stateValid (consumePlanned (clearFailure state)) crashStateSize := KeepsFormat.valid ⟨rfl, rfl, rfl⟩ valid

theorem espIrisCrashLoopReset_initialized (probe : ProbeInput) (reset : MarkInput) :
    (espIrisCrashLoopReset builds device probe reset).1.runtime.crashLoopInitialized = true := by
  unfold espIrisCrashLoopReset
  split
  next => exact irisCrashRecoveryReset_initialized (irisCrashRecoveryProbe_initialized probe) reset
  next probed => exact irisCrashRecoveryReset_initialized (Bool.of_not_eq_false probed) reset

/-- A reset that reaches the record leaves no evidence, and returns what the write returned; any other
changes nothing that is stored, and returns an error. -/
theorem irisCrashRecoveryReset_cases (probed : device.runtime.crashLoopInitialized = true) (reset : MarkInput) :
    markSaves device reset = true ∧ CrashEvidence.of (stored (irisCrashRecoveryReset builds device reset).1.nvs) = .none ∧
        (irisCrashRecoveryReset builds device reset).2 = reset.saved.result ∨
      markSaves device reset = false ∧ (irisCrashRecoveryReset builds device reset).1.nvs = device.nvs ∧
        (irisCrashRecoveryReset builds device reset).2 ≠ EspErr.ok := by
  unfold irisCrashRecoveryReset markSaves reaches
  rw [probed, if_neg Bool.noConfusion]
  dsimp only
  cases locked : reset.nvs.locked with
  | false => exact .inr ⟨rfl, by simp [changeRecord, locked], by simp [changeRecord, locked, EspErr.noMem, EspErr.ok]⟩
  | true =>
    rw [if_neg Bool.noConfusion]
    unfold changeRecord
    dsimp only
    rw [locked, if_neg Bool.noConfusion]
    by_cases opened : reset.nvs.opened = EspErr.ok
    · rw [if_neg (not_not.mpr opened)]
      by_cases reads : (stateRead device.nvs reset.nvs).1 = EspErr.ok
      · rw [if_neg (not_not.mpr reads)]
        cases lands : reset.saved.lands with
        | true =>
          refine .inl ⟨by simp [opened, reads], ?_, rfl⟩
          unfold CrashDevice.settle stateWrite
          dsimp only
          rw [lands, if_pos rfl, stateRead_stored reads, stored_saved (cleared_valid (stored_valid device.nvs))]
          exact cleared_evidence _
        | false =>
          refine .inr ⟨by simp, ?_, ?_⟩
          · unfold CrashDevice.settle stateWrite
            dsimp only
            rw [lands, if_neg Bool.noConfusion]
          · intro ok
            have written : reset.saved.result = EspErr.ok := ok
            unfold NvsWrite.lands at lands
            rw [written] at lands
            exact Bool.noConfusion lands
      · rw [if_pos reads]
        exact .inr ⟨by simp [reads], rfl, reads⟩
    · rw [if_pos opened, if_pos opened]
      exact .inr ⟨by simp [opened], rfl, opened⟩

end reset

section digest
variable (sha256 : List UInt8 → List UInt8) (builds : Image → CrashBuild) (config : ServiceConfig)

def CommitWorld.reset (world : CommitWorld) (answers : CommitAnswers) : CommitWorld :=
  { world with
    crash := (espIrisCrashLoopReset builds world.crash answers.probe answers.reset).1
    probed := espIrisCrashLoopReset_initialized answers.probe answers.reset }

def CommitWorld.select (world : CommitWorld) (selection : BootSelection) : CommitWorld :=
  { world with boot := if selection.lands then world.services.ota.partition else world.boot }

def otaCommit (world : CommitWorld) (answers : CommitAnswers) : CommitWorld × EspErr :=
  let verified := otaVerify sha256 config world.services.ota answers.checks
  if verified ≠ EspErr.ok then (world, verified)
  else if executorCancelled world.services then (world, EspErr.invalidState)
  else
    let cleared := (espIrisCrashLoopReset builds world.crash answers.probe answers.reset).2
    if cleared ≠ EspErr.ok then (world.reset builds answers, cleared)
    else ((world.reset builds answers).select answers.boot, answers.boot.result)

/-- The `ESP_IRIS_OTA_END` branch of `handle_ota`. -/
def otaEnd (world : CommitWorld) (frame : DecodedFrame) (answers : CommitAnswers) : CommitWorld × Reply :=
  if world.services.ota.active = false then (world, refuse frame.header EspErr.invalidState)
  else
    let done := otaCommit sha256 builds config world answers
    let decided := { done.1.services with
      ota := { done.1.services.ota with hashActive := false }
      calls := if done.2 = EspErr.ok then done.1.services.calls ++ [.otaSelect] else done.1.services.calls }
    let finished := otaFinish decided frame done.2
    ({ done.1 with services := finished.1 }, finished.2)

end digest

def reportsError (reply : Reply) : Bool := reply.flags &&& Flag.error ≠ 0

def CommitWorld.Kept (before after : CommitWorld) : Prop := after.evidence = before.evidence ∧ after.boot = before.boot

/-- Where END comes to the reset and the reset reaches the record, a failure from there on finds no evidence,
and a selection that fails after it leaves the boot partition. -/
def FailsKeeping (sha256 : List UInt8 → List UInt8) (config : ServiceConfig) (world : CommitWorld) (answers : CommitAnswers) :
    Prop :=
  otaVerify sha256 config world.services.ota answers.checks = EspErr.ok → executorCancelled world.services = false →
    markSaves world.crash answers.reset = true →
    (answers.reset.saved.result ≠ EspErr.ok → world.evidence = .none) ∧
      (answers.reset.saved.result = EspErr.ok → answers.boot.result ≠ EspErr.ok →
        world.evidence = .none ∧ (answers.boot.stored = true → world.services.ota.partition = world.boot))

section commit
variable {sha256 : List UInt8 → List UInt8} {builds : Image → CrashBuild} {config : ServiceConfig}

/-- A commit that does not come to an end keeps everything exactly under the condition. -/
theorem otaCommit_kept_iff (world : CommitWorld) (answers : CommitAnswers) :
    ((otaCommit sha256 builds config world answers).2 ≠ EspErr.ok →
      world.Kept (otaCommit sha256 builds config world answers).1) ↔ FailsKeeping sha256 config world answers := by
  unfold otaCommit FailsKeeping
  dsimp only
  by_cases verified : otaVerify sha256 config world.services.ota answers.checks = EspErr.ok
  · rw [if_neg (not_not.mpr verified)]
    cases cancelled : executorCancelled world.services with
    | true => exact iff_of_true (fun _ => ⟨rfl, rfl⟩) fun _ => Bool.noConfusion
    | false =>
      rw [if_neg Bool.noConfusion]
      have reset := @irisCrashRecoveryReset_cases builds _ world.probed answers.reset
      rw [← espIrisCrashLoopReset_probed world.probed answers.probe answers.reset] at reset
      rcases reset with ⟨saves, cleared, result⟩ | ⟨saves, same, failed⟩
      · rw [result]
        have evidence : (world.reset builds answers).evidence = .none := cleared
        by_cases saved : answers.reset.saved.result = EspErr.ok
        · rw [if_neg (not_not.mpr saved)]
          constructor
          · intro kept _ _ _
            refine ⟨fun fails => absurd saved fails, fun _ fails => ?_⟩
            obtain ⟨same, boot⟩ := kept fails
            refine ⟨same.symm.trans evidence, fun stores => ?_⟩
            have lands : answers.boot.lands = true := by rw [BootSelection.lands, stores, Bool.or_true]
            unfold CommitWorld.select at boot
            dsimp only at boot
            rw [lands] at boot
            exact boot
          · intro keeps fails
            obtain ⟨blank, selected⟩ := (keeps verified rfl saves).2 saved fails
            refine ⟨evidence.trans blank.symm, ?_⟩
            unfold CommitWorld.select
            dsimp only
            split
            next lands =>
              unfold BootSelection.lands at lands
              rw [decide_eq_false fails, Bool.false_or] at lands
              exact selected lands
            next => rfl
        · rw [if_pos saved]
          constructor
          · intro kept _ _ _
            exact ⟨fun fails => (kept fails).1.symm.trans evidence, fun is => absurd is saved⟩
          · intro keeps fails
            exact ⟨evidence.trans ((keeps verified rfl saves).1 fails).symm, rfl⟩
      · rw [if_pos failed]
        refine iff_of_true (fun _ => ⟨?_, rfl⟩) fun _ _ is => absurd (saves.symm.trans is) Bool.noConfusion
        exact congrArg (fun nvs => CrashEvidence.of (stored nvs)) same
  · rw [if_pos verified]
    exact iff_of_true (fun _ => ⟨rfl, rfl⟩) fun is => absurd is verified

theorem otaFinish_reports (services : Services) (frame : DecodedFrame) (result : EspErr) :
    reportsError (otaFinish services frame result).2 = true ↔ result ≠ EspErr.ok := by
  have flags : reportsError (otaFinish services frame result).2 = decide
      ((Flag.response ||| (Flag.streamEnd ||| if result = EspErr.ok then 0 else Flag.error)) &&& Flag.error ≠ 0) := rfl
  rw [flags, decide_eq_true_eq]
  by_cases ok : result = EspErr.ok
  · rw [if_pos ok]
    exact iff_of_false (by decide) (not_not.mpr ok)
  · rw [if_neg ok]
    exact iff_of_true (by decide) ok

/-- An END that reports an error keeps the record of the crash counter and the boot partition exactly where
it fails before the reset reaches the record, or finds no evidence there. -/
theorem ota_end_keeps_evidence (world : CommitWorld) (frame : DecodedFrame) (answers : CommitAnswers) :
    (reportsError (otaEnd sha256 builds config world frame answers).2 = true →
      world.Kept (otaEnd sha256 builds config world frame answers).1) ↔
      (world.services.ota.active = true → FailsKeeping sha256 config world answers) := by
  unfold otaEnd
  cases active : world.services.ota.active with
  | false => exact iff_of_true (fun _ => ⟨rfl, rfl⟩) fun is => Bool.noConfusion is
  | true =>
    rw [if_neg Bool.noConfusion]
    dsimp only
    rw [otaFinish_reports]
    exact (otaCommit_kept_iff world answers).trans ⟨fun keeps _ => keeps, fun keeps => keeps rfl⟩

end commit

def transferAnswers : OtaAnswers :=
  { allWell.ota with target := some ⟨[], 0x10000, true, false⟩, description := .ok ([], []) }

def transferred : Services :=
  let begun := (otaBegin oneJobConfig (.initial oneJobConfig true)
    (requestFrame Channel.ota OtaType.begin (irisPutLe32 1 ++ digestOfSeven [7] ++ List.replicate 4 0)) transferAnswers).1
  (otaData oneJobConfig begun (requestFrame Channel.ota OtaType.data (irisPutLe32 0 ++ [7])) transferAnswers).1

def crashedOnce : CrashDevice where
  nvs := some ⟨crashStateSize, attributeReset normalBuild .panic (recordStart normalBuild (some firstApplication) stateInit)⟩
  image := firstApplication
  reason := .panic
  runtime := { CrashRuntime.zero with crashLoopInitialized := true }
  phase := .running

def selectionFails : CommitAnswers where
  checks := transferAnswers
  probe := ⟨nvsReads, true, 0, .ok factoryRecovery.address, EspErr.ok, nvsWorks, nvsWorks, nvsWorks⟩
  reset := ⟨nvsReads, 0, nvsWorks⟩
  boot := ⟨EspErr.fail, false⟩

/-- An END whose last step fails has lost the record of the crash. -/
theorem failed_selection_loses_evidence : ¬ ∀ sha256 builds config world frame answers,
    reportsError (otaEnd sha256 builds config world frame answers).2 = true →
      world.Kept (otaEnd sha256 builds config world frame answers).1 := by
  intro keeps
  have kept := keeps digestOfSeven productBuilds oneJobConfig ⟨transferred, crashedOnce, none, rfl⟩
    (requestFrame Channel.ota OtaType.finish []) selectionFails (by decide +kernel)
  exact absurd kept.1 (by decide +kernel)

end EspIris.Device.Jobs
