import EspIris.Protocol
import EspIris.Lib.Machine

/-! The crash counter, `esp_iris_crash_recovery.c`: one record in the NVS that attributes each
crash to the image that ran before it, and the diversion of an image that keeps crashing to the
recovery target. Every image of the model is built with `CONFIG_ESP_IRIS_CRASH_LOOP_TRACKING`. -/

namespace EspIris.Device
open Machine

/-- `esp_reset_reason_t`. -/
inductive ResetReason
  | unknown
  | poweron
  | ext
  | sw
  | panic
  | intWdt
  | taskWdt
  | wdt
  | deepsleep
  | brownout
  | sdio
  | usb
  | jtag
  | efuse
  | pwrGlitch
  | cpuLockup
  deriving DecidableEq, Repr

def ResetReason.code : ResetReason → UInt32
  | .unknown => 0
  | .poweron => 1
  | .ext => 2
  | .sw => 3
  | .panic => 4
  | .intWdt => 5
  | .taskWdt => 6
  | .wdt => 7
  | .deepsleep => 8
  | .brownout => 9
  | .sdio => 10
  | .usb => 11
  | .jtag => 12
  | .efuse => 13
  | .pwrGlitch => 14
  | .cpuLockup => 15

structure Image where
  address : UInt32
  sha256 : List UInt8
  deriving DecidableEq, Repr

/-- What Kconfig fixes for an image, in its ranges: the limit is 1 to 100, and only a normal
image can divert to recovery. -/
structure CrashBuild where
  firmwareRole : Nat
  limit : UInt32
  recovery : Bool
  countPowerFaults : Bool
  stableMs : Nat
  limitRange : 1 ≤ limit ∧ limit ≤ 100
  recoveryIsNormal : recovery = true → firmwareRole = 1

/-- `IRIS_CRASH_FLAG_*`. -/
inductive CrashFlag
  | lastStartedValid
  | failedValid
  | plannedRestart
  | recoveryPending
  deriving DecidableEq, Repr

def CrashFlag.bit : CrashFlag → Nat
  | .lastStartedValid => 0
  | .failedValid => 1
  | .plannedRestart => 2
  | .recoveryPending => 3

def CrashFlag.mask (flag : CrashFlag) : BitVec 32 := BitVec.twoPow 32 flag.bit

def hasFlag (flags : BitVec 32) (flag : CrashFlag) : Bool := flags &&& flag.mask ≠ 0

theorem CrashFlag.bit_lt (flag : CrashFlag) : flag.bit < 32 := by cases flag <;> decide

theorem CrashFlag.bit_inj {first second : CrashFlag} : first.bit = second.bit ↔ first = second := by
  cases first <;> cases second <;> decide

theorem hasFlag_eq (flags : BitVec 32) (flag : CrashFlag) : hasFlag flags flag = flags.getLsbD flag.bit := by
  rw [hasFlag, CrashFlag.mask, BitVec.and_twoPow]
  cases is : flags.getLsbD flag.bit with
  | false => simp
  | true =>
    have nonzero : BitVec.twoPow 32 flag.bit ≠ 0#32 := by cases flag <;> decide
    simpa using nonzero

@[simp] theorem hasFlag_zero (flag : CrashFlag) : hasFlag 0 flag = false := by
  rw [hasFlag_eq]
  exact BitVec.getLsbD_zero

@[simp] theorem hasFlag_set (flags : BitVec 32) (set flag : CrashFlag) :
    hasFlag (flags ||| set.mask) flag = (hasFlag flags flag || decide (set = flag)) := by
  rw [hasFlag_eq, hasFlag_eq, BitVec.getLsbD_or, CrashFlag.mask, BitVec.getLsbD_twoPow]
  simp [CrashFlag.bit_lt, CrashFlag.bit_inj]

@[simp] theorem hasFlag_clear (flags mask : BitVec 32) (flag : CrashFlag) :
    hasFlag (flags &&& ~~~ mask) flag = (hasFlag flags flag && ! hasFlag mask flag) := by
  rw [hasFlag_eq, hasFlag_eq, hasFlag_eq, BitVec.getLsbD_and, BitVec.getLsbD_not]
  simp [CrashFlag.bit_lt]

@[simp] theorem hasFlag_mask (set flag : CrashFlag) : hasFlag set.mask flag = decide (set = flag) := by
  rw [hasFlag_eq, CrashFlag.mask, BitVec.getLsbD_twoPow]
  simp [CrashFlag.bit_lt, CrashFlag.bit_inj]

/-- `iris_crash_state_t`. -/
structure CrashState where
  magic : UInt32
  version : UInt16
  size : UInt16
  flags : BitVec 32
  count : UInt32
  limit : UInt32
  failureResetReason : UInt32
  lastStartedAddress : UInt32
  plannedTargetAddress : UInt32
  failedAddress : UInt32
  lastStartedSha256 : List UInt8
  failedSha256 : List UInt8
  deriving DecidableEq, Repr

def CrashState.has (state : CrashState) (flag : CrashFlag) : Bool := hasFlag state.flags flag

def CrashState.lastStarted (state : CrashState) : Image := ⟨state.lastStartedAddress, state.lastStartedSha256⟩

def CrashState.failed (state : CrashState) : Image := ⟨state.failedAddress, state.failedSha256⟩

def crashStateMagic : UInt32 := 0x53495249
def crashStateVersion : UInt16 := 1
/-- `sizeof(iris_crash_state_t)`, which is packed. -/
def crashStateSize : Nat := 100

def noSha256 : List UInt8 := List.replicate 32 0

def stateInit : CrashState where
  magic := crashStateMagic
  version := crashStateVersion
  size := 100
  flags := 0
  count := 0
  limit := 0
  failureResetReason := 0
  lastStartedAddress := 0
  plannedTargetAddress := 0
  failedAddress := 0
  lastStartedSha256 := noSha256
  failedSha256 := noSha256

def stateValid (state : CrashState) (storedSize : Nat) : Bool :=
  storedSize = crashStateSize ∧ state.magic = crashStateMagic ∧ state.version = crashStateVersion ∧ state.size = 100

/-- What is stored under the key `crash_loop`: how long it is, and how its bytes read as a record. -/
structure Blob where
  size : Nat
  state : CrashState
  deriving DecidableEq, Repr

/-- What `nvs_set_blob` and `nvs_commit` come to: the NVS replaces a blob as a whole, but an error
does not say whether it did. -/
structure NvsWrite where
  result : EspErr
  stored : Bool

def NvsWrite.lands (write : NvsWrite) : Bool := write.result = EspErr.ok || write.stored

/-- What the mutex and the NVS answer when the record is opened and read; `leftover` is what a
failing read leaves in the buffer. -/
structure NvsRead where
  locked : Bool
  opened : EspErr
  sized : EspErr
  read : EspErr
  leftover : CrashState

/-- `state_read`; a blob that is no record is read as a new one. -/
def stateRead (nvs : Option Blob) (input : NvsRead) : EspErr × CrashState :=
  if input.sized ≠ EspErr.ok then (input.sized, stateInit)
  else
    match nvs with
    | none => (EspErr.ok, stateInit)
    | some blob =>
      if blob.size ≠ crashStateSize then (EspErr.ok, stateInit)
      else if input.read ≠ EspErr.ok then (input.read, input.leftover)
      else if stateValid blob.state blob.size then (EspErr.ok, blob.state)
      else (EspErr.ok, stateInit)

def stateWrite (nvs : Option Blob) (state : CrashState) (write : NvsWrite) : Option Blob :=
  if write.lands then some ⟨crashStateSize, state⟩ else nvs

def stateLimit (build : CrashBuild) (state : CrashState) : UInt32 :=
  if state.limit ≥ 1 ∧ state.limit ≤ 100 then state.limit else build.limit

def resetCountsForLoop (build : CrashBuild) : ResetReason → Bool
  | .panic | .intWdt | .taskWdt | .wdt | .cpuLockup => true
  | .brownout | .pwrGlitch => build.countPowerFaults
  | _ => false

/-- The fields of `iris_runtime_t` that show the record. -/
structure CrashRuntime where
  crashLoopInitialized : Bool
  crashStateError : EspErr
  previousBootPlanned : Bool
  crashCount : UInt32
  crashLimit : UInt32
  crashOriginResetReason : UInt32
  crashFailedAppAddress : UInt32
  crashFailedFirmwareSha256 : List UInt8
  crashRecoveryPending : Bool
  crashLoopTriggered : Bool
  crashStableDeadlineUs : Nat

def CrashRuntime.zero : CrashRuntime where
  crashLoopInitialized := false
  crashStateError := EspErr.ok
  previousBootPlanned := false
  crashCount := 0
  crashLimit := 0
  crashOriginResetReason := 0
  crashFailedAppAddress := 0
  crashFailedFirmwareSha256 := noSha256
  crashRecoveryPending := false
  crashLoopTriggered := false
  crashStableDeadlineUs := 0

def runtimeFromState (build : CrashBuild) (runtime : CrashRuntime) (state : CrashState) : CrashRuntime :=
  { runtime with
    crashCount := state.count
    crashLimit := stateLimit build state
    crashOriginResetReason := state.failureResetReason
    crashFailedAppAddress := state.failedAddress
    crashFailedFirmwareSha256 := state.failedSha256
    crashRecoveryPending := state.has .recoveryPending
    crashLoopTriggered := state.has .recoveryPending ||
      (state.count ≥ stateLimit build state && state.has .failedValid) }

def clearFailure (state : CrashState) : CrashState :=
  { state with
    flags := state.flags &&& ~~~ (CrashFlag.failedValid.mask ||| CrashFlag.recoveryPending.mask)
    count := 0
    failureResetReason := 0
    failedAddress := 0
    failedSha256 := noSha256 }

def consumePlanned (state : CrashState) : CrashState :=
  { state with
    flags := state.flags &&& ~~~ CrashFlag.plannedRestart.mask
    plannedTargetAddress := 0 }

/-- `flags |= IRIS_CRASH_FLAG_PLANNED_RESTART`. -/
def markPlanned (state : CrashState) (target : UInt32) : CrashState :=
  { state with
    flags := state.flags ||| CrashFlag.plannedRestart.mask
    plannedTargetAddress := target }

def countsCrash (build : CrashBuild) (reason : ResetReason) (state : CrashState) : Bool :=
  state.has .lastStartedValid && resetCountsForLoop build reason

def sameFailure (state : CrashState) : Bool := state.has .failedValid && state.failed = state.lastStarted

def countCrash (reason : ResetReason) (state : CrashState) : CrashState :=
  { state with
    flags := state.flags ||| CrashFlag.failedValid.mask
    count := if sameFailure state then (if state.count < 0xffffffff then state.count + 1 else state.count) else 1
    failureResetReason := reason.code
    failedAddress := state.lastStartedAddress
    failedSha256 := state.lastStartedSha256 }

def attributeReset (build : CrashBuild) (reason : ResetReason) (state : CrashState) : CrashState :=
  if countsCrash build reason state then countCrash reason state else state

def recordStart (build : CrashBuild) (running : Option Image) (state : CrashState) : CrashState :=
  match running with
  | none => state
  | some image =>
    { state with
      flags := state.flags ||| CrashFlag.lastStartedValid.mask
      lastStartedAddress := image.address
      lastStartedSha256 := image.sha256
      limit := if build.firmwareRole ≠ 2 then build.limit else state.limit }

def failedImageRunning (running : Option Image) (state : CrashState) : Bool :=
  running.any fun image => state.has .failedValid && state.failed = image

def raisePending (build : CrashBuild) (running : Option Image) (state : CrashState) : CrashState :=
  if build.recovery ∧ failedImageRunning running state ∧ state.count ≥ stateLimit build state then
    { state with flags := state.flags ||| CrashFlag.recoveryPending.mask }
  else state

def probeRecord (build : CrashBuild) (running : Option Image) (reason : ResetReason) (state : CrashState) :
    CrashState :=
  raisePending build running (recordStart build running (attributeReset build reason (consumePlanned state)))

/-- Where the device is between two resets; after `esp_restart` only a reset is left. -/
inductive BootPhase
  | off
  | running
  | diverted
  deriving DecidableEq, Repr

/-- The device as the crash counter sees it: the NVS and, since the last reset, the running image,
the reason of the reset and the runtime. -/
structure CrashDevice where
  nvs : Option Blob
  image : Image
  reason : ResetReason
  runtime : CrashRuntime
  phase : BootPhase

/-- What the environment answers to a probe: `known` is whether `current_image` finds the running
image, and `target` what `esp_iris_platform_select_recovery_target` selects. -/
structure ProbeInput where
  nvs : NvsRead
  known : Bool
  now : Nat
  target : Except EspErr UInt32
  bootSelected : EspErr
  saved : NvsWrite
  diverted : NvsWrite
  restored : NvsWrite

structure MarkInput where
  nvs : NvsRead
  bootAddress : UInt32
  saved : NvsWrite

inductive CrashEvent
  | boot (image : Image) (reason : ResetReason)
  | probe (input : ProbeInput)
  | markPlanned (input : MarkInput)
  | markHealthy (input : MarkInput)
  | reset (input : MarkInput)
  | poll (now : Nat) (input : MarkInput)

section device
variable (builds : Image → CrashBuild)

def CrashDevice.build (device : CrashDevice) : CrashBuild := builds device.image

def ProbeInput.running (input : ProbeInput) (device : CrashDevice) : Option Image :=
  if input.known then some device.image else none

def endProbe (device : CrashDevice) (state : CrashState) (err : EspErr) : CrashDevice × EspErr :=
  ({ device with
    runtime := runtimeFromState (device.build builds) { device.runtime with crashStateError := err } state }, err)

def divertProbe (device : CrashDevice) (state : CrashState) (input : ProbeInput) : CrashDevice × EspErr :=
  let restore (nvs : Option Blob) (state : CrashState) (err : EspErr) : CrashDevice × EspErr :=
    let restored := consumePlanned state
    endProbe builds { device with nvs := stateWrite nvs restored input.restored } restored err
  match input.target with
  | .error err => restore device.nvs state err
  | .ok address =>
    if address = device.image.address then restore device.nvs state EspErr.invalidState
    else
      let planned := markPlanned state address
      let nvs := stateWrite device.nvs planned input.diverted
      if input.diverted.result ≠ EspErr.ok then restore nvs planned input.diverted.result
      else if input.bootSelected ≠ EspErr.ok then restore nvs planned input.bootSelected
      else ({ device with nvs := nvs, phase := .diverted }, EspErr.ok)

def irisCrashRecoveryProbe (device : CrashDevice) (input : ProbeInput) : CrashDevice × EspErr :=
  let build := device.build builds
  if device.runtime.crashLoopInitialized then (device, device.runtime.crashStateError)
  else
    let begun := { device.runtime with
      crashLoopInitialized := true
      crashLimit := build.limit
      crashStateError := EspErr.ok }
    if input.nvs.locked = false then
      ({ device with runtime := { begun with crashStateError := EspErr.noMem } }, EspErr.noMem)
    else if input.nvs.opened ≠ EspErr.ok then
      ({ device with runtime := { begun with crashStateError := input.nvs.opened } }, input.nvs.opened)
    else
      let read := stateRead device.nvs input.nvs
      let running := input.running device
      let readable := decide (read.1 = EspErr.ok)
      let state := if readable then probeRecord build running device.reason read.2 else read.2
      let err := if readable then input.saved.result else read.1
      let planned := read.2.has .plannedRestart && device.reason = .sw
      let shown := runtimeFromState build
        { begun with previousBootPlanned := if readable then planned else begun.previousBootPlanned } state
      let saved := { device with
        nvs := if readable then stateWrite device.nvs state input.saved else device.nvs
        runtime := { shown with
          crashStableDeadlineUs :=
            if build.firmwareRole ≠ 2 ∧ state.count > 0 then input.now + build.stableMs * 1000
            else shown.crashStableDeadlineUs } }
      -- the same test as for the flag, on the record that was written
      if build.recovery ∧ err = EspErr.ok ∧ state.has .recoveryPending ∧ running = some state.failed then
        divertProbe builds saved state input
      else endProbe builds saved state err

/-- What `mark_planned`, `mark_healthy` and `reset` share: they read the record, change it and write it. -/
def changeRecord (device : CrashDevice) (input : MarkInput) (change : CrashState → CrashState) :
    CrashDevice × EspErr :=
  if input.nvs.locked = false then (device, EspErr.noMem)
  else
    let read := stateRead device.nvs input.nvs
    let err := if input.nvs.opened ≠ EspErr.ok then input.nvs.opened else read.1
    if err ≠ EspErr.ok then
      ({ device with runtime := { device.runtime with crashStateError := err } }, err)
    else
      let state := change read.2
      ({ device with
        nvs := stateWrite device.nvs state input.saved
        runtime := { runtimeFromState (device.build builds) device.runtime state with
          crashStateError := input.saved.result } }, input.saved.result)

def irisCrashRecoveryMarkPlanned (device : CrashDevice) (input : MarkInput) : CrashDevice × EspErr :=
  if device.runtime.crashLoopInitialized = false then (device, EspErr.invalidState)
  else changeRecord builds device input fun state => markPlanned state input.bootAddress

def CrashDevice.settle (device : CrashDevice) : CrashDevice :=
  { device with runtime := { device.runtime with crashStableDeadlineUs := 0 } }

def irisCrashRecoveryMarkHealthy (device : CrashDevice) (input : MarkInput) : CrashDevice × EspErr :=
  if device.runtime.crashLoopInitialized = false then (device, EspErr.invalidState)
  else if (device.build builds).firmwareRole = 2 then (device.settle, EspErr.ok)
  else changeRecord builds device.settle input clearFailure

def irisCrashRecoveryReset (device : CrashDevice) (input : MarkInput) : CrashDevice × EspErr :=
  if device.runtime.crashLoopInitialized = false then (device, EspErr.invalidState)
  else
    let changed := changeRecord builds device input fun state => consumePlanned (clearFailure state)
    if input.nvs.locked = false then changed else (changed.1.settle, changed.2)

def irisCrashRecoveryPoll (device : CrashDevice) (now : Nat) (input : MarkInput) : CrashDevice :=
  if device.runtime.crashStableDeadlineUs = 0 ∨ now < device.runtime.crashStableDeadlineUs then device
  else (irisCrashRecoveryMarkHealthy builds device.settle input).1

def crashNext (device : CrashDevice) : CrashEvent → Option CrashDevice
  | .boot image reason => some { device with image := image, reason := reason, runtime := .zero, phase := .running }
  | .probe input => if device.phase = .running then some (irisCrashRecoveryProbe builds device input).1 else none
  | .markPlanned input =>
    if device.phase = .running then some (irisCrashRecoveryMarkPlanned builds device input).1 else none
  | .markHealthy input =>
    if device.phase = .running then some (irisCrashRecoveryMarkHealthy builds device input).1 else none
  | .reset input => if device.phase = .running then some (irisCrashRecoveryReset builds device input).1 else none
  | .poll now input => if device.phase = .running then some (irisCrashRecoveryPoll builds device now input) else none

def CrashDevice.fresh (device : CrashDevice) : Prop :=
  device.phase = .off ∧ device.runtime = .zero ∧ ∀ blob, device.nvs = some blob → stateValid blob.state blob.size = false

def crashDevice : System CrashDevice CrashEvent := .ofPartial CrashDevice.fresh (crashNext builds)

end device

end EspIris.Device
