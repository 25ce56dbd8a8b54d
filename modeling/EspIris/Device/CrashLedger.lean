import EspIris.Device.CrashRecovery
import Mathlib.Algebra.Group.Nat.Defs

/-! What the record of the crash counter says about the boots so far: its count is the length of
the last unbroken series of one image's crashes, and an image is diverted for its own crashes, as
long as no other image's crash is counted while recovery is still asked for. -/

namespace EspIris.Device
open Machine
variable {state : CrashState} {started : Option Image} {before after : CrashDevice}
variable {flag : CrashFlag} {first second : CrashState} {device : CrashDevice} {event : CrashEvent}
variable {nvs : Option Blob}
variable (build : CrashBuild)

inductive Mark
  | crash (image : Image)
  | cleared
  deriving DecidableEq, Repr

def streak (image : Image) : List Mark → Nat
  | .crash other :: earlier => if other = image then streak image earlier + 1 else 0
  | _ => 0

/-- The boots so far: the image whose start was recorded last, the crashes and clearings that
reached the record, and, counting boots, where a planned restart was last marked and where the
record was last probed. -/
structure BootLedger where
  started : Option Image
  marks : List Mark
  boots : Nat
  marked : Option Nat
  probed : Nat

def BootLedger.empty : BootLedger := ⟨none, [], 0, none, 0⟩

def reaches (device : CrashDevice) (input : NvsRead) (write : NvsWrite) : Bool :=
  input.locked && input.opened = EspErr.ok && (stateRead device.nvs input).1 = EspErr.ok && write.lands

def probeSaves (device : CrashDevice) (input : ProbeInput) : Bool :=
  device.runtime.crashLoopInitialized = false && reaches device input.nvs input.saved

def markSaves (device : CrashDevice) (input : MarkInput) : Bool :=
  device.runtime.crashLoopInitialized && reaches device input.nvs input.saved

section ledger
variable (builds : Image → CrashBuild)

def healthClears (device : CrashDevice) (input : MarkInput) : Bool :=
  markSaves device input && (device.build builds).firmwareRole ≠ 2

def pollDue (device : CrashDevice) (now : Nat) : Bool :=
  ¬ (device.runtime.crashStableDeadlineUs = 0 ∨ now < device.runtime.crashStableDeadlineUs)

def BootLedger.clear (ledger : BootLedger) (happens : Bool) : BootLedger :=
  if happens then { ledger with marks := .cleared :: ledger.marks } else ledger

def newCrash (build : CrashBuild) (reason : ResetReason) (started : Option Image) : List Mark :=
  if resetCountsForLoop build reason then started.toList.map Mark.crash else []

def BootLedger.note (ledger : BootLedger) (before : CrashDevice) (event : CrashEvent) (after : CrashDevice) : BootLedger :=
  match event with
  | .boot _ _ => { ledger with boots := ledger.boots + 1 }
  | .probe input =>
    if probeSaves before input then
      { ledger with
        started := if input.known then some before.image else ledger.started
        marks := newCrash (before.build builds) before.reason ledger.started ++ ledger.marks
        marked := if after.phase = .diverted then some ledger.boots else ledger.marked
        probed := ledger.boots }
    else ledger
  | .markPlanned input => if markSaves before input then { ledger with marked := some ledger.boots } else ledger
  | .markHealthy input => ledger.clear (healthClears builds before input)
  | .reset input => ledger.clear (markSaves before input)
  | .poll now input => ledger.clear (pollDue before now && healthClears builds before input)

def bootHistory : System (CrashDevice × BootLedger) CrashEvent :=
  (crashDevice builds).recorded BootLedger.empty (BootLedger.note builds)

end ledger

def stored (nvs : Option Blob) : CrashState :=
  match nvs with
  | some blob => if stateValid blob.state blob.size then blob.state else stateInit
  | none => stateInit

variable {marks : List Mark}

theorem stored_valid (nvs : Option Blob) : stateValid (stored nvs) crashStateSize := by
  cases nvs with
  | none => decide
  | some blob =>
    rw [stored]
    split
    next valid =>
      rw [stateValid, decide_eq_true_eq] at valid ⊢
      exact ⟨rfl, valid.2⟩
    next => decide

theorem stored_saved (valid : stateValid state crashStateSize) :
    stored (some ⟨crashStateSize, state⟩) = state := if_pos valid

theorem stateRead_stored {input : NvsRead} (reads : (stateRead nvs input).1 = EspErr.ok) :
    (stateRead nvs input).2 = stored nvs := by
  cases nvs with
  | none => by_cases sized : input.sized = EspErr.ok <;> simp [stateRead, stored, sized]
  | some blob =>
    by_cases sized : input.sized = EspErr.ok
    · by_cases fits : blob.size = crashStateSize
      · by_cases read : input.read = EspErr.ok
        · by_cases valid : stateValid blob.state blob.size <;> simp_all [stateRead, stored]
        · simp [stateRead, sized, fits, read] at reads
      · simp [stateRead, stored, sized, fits, stateValid]
    · simp [stateRead, sized] at reads

def KeepsFormat (before after : CrashState) : Prop :=
  after.magic = before.magic ∧ after.version = before.version ∧ after.size = before.size

theorem KeepsFormat.valid {before after : CrashState} (keeps : KeepsFormat before after)
    (valid : stateValid before crashStateSize) : stateValid after crashStateSize := by
  simp only [stateValid, decide_eq_true_eq] at valid ⊢
  rw [keeps.1, keeps.2.1, keeps.2.2]
  exact valid

theorem KeepsFormat.trans {first second third : CrashState} (early : KeepsFormat first second)
    (late : KeepsFormat second third) : KeepsFormat first third :=
  ⟨late.1.trans early.1, late.2.1.trans early.2.1, late.2.2.trans early.2.2⟩

theorem raisePending_cases (running : Option Image) (state : CrashState) :
    raisePending build running state = state ∨
      (build.recovery = true ∧ failedImageRunning running state = true ∧ state.count ≥ stateLimit build state ∧
        raisePending build running state =
          { state with flags := state.flags ||| CrashFlag.recoveryPending.mask }) := by
  rw [raisePending]
  split
  next raises => exact Or.inr ⟨raises.1, raises.2.1, raises.2.2, rfl⟩
  next => exact Or.inl rfl

theorem raisePending_format (running : Option Image) (state : CrashState) :
    KeepsFormat state (raisePending build running state) := by
  rcases raisePending_cases build running state with same | ⟨_, _, _, raised⟩
  · rw [same]
    exact ⟨rfl, rfl, rfl⟩
  · rw [raised]
    exact ⟨rfl, rfl, rfl⟩

theorem attributeReset_format (reason : ResetReason) (state : CrashState) :
    KeepsFormat state (attributeReset build reason state) := by
  unfold attributeReset
  split <;> exact ⟨rfl, rfl, rfl⟩

theorem recordStart_format (running : Option Image) (state : CrashState) :
    KeepsFormat state (recordStart build running state) := by
  cases running <;> exact ⟨rfl, rfl, rfl⟩

theorem probeRecord_format (running : Option Image) (reason : ResetReason) (state : CrashState) :
    KeepsFormat state (probeRecord build running reason state) :=
  have consumed : KeepsFormat state (consumePlanned state) := ⟨rfl, rfl, rfl⟩
  ((consumed.trans (attributeReset_format _ _ _)).trans (recordStart_format _ _ _)).trans (raisePending_format _ _ _)

theorem consumePlanned_markPlanned (state : CrashState) (target : UInt32) :
    consumePlanned (markPlanned state target) = consumePlanned state := by
  have flags : (state.flags ||| CrashFlag.plannedRestart.mask) &&& ~~~ CrashFlag.plannedRestart.mask =
      state.flags &&& ~~~ CrashFlag.plannedRestart.mask := by
    ext bit
    simp only [BitVec.getElem_and, BitVec.getElem_or, BitVec.getElem_not]
    cases CrashFlag.plannedRestart.mask[bit] <;> simp
  simp only [consumePlanned, markPlanned, flags]

theorem consumePlanned_twice (state : CrashState) :
    consumePlanned (consumePlanned state) = consumePlanned state := by
  have flags : state.flags &&& ~~~ CrashFlag.plannedRestart.mask &&& ~~~ CrashFlag.plannedRestart.mask =
      state.flags &&& ~~~ CrashFlag.plannedRestart.mask := by
    rw [BitVec.and_assoc, BitVec.and_self]
  simp only [consumePlanned, flags]

def EqualButMarker (first second : CrashState) : Prop := consumePlanned first = consumePlanned second

theorem EqualButMarker.has (same : EqualButMarker first second) (other : flag ≠ .plannedRestart) :
    first.has flag = second.has flag := by
  have flags : hasFlag (consumePlanned first).flags flag = hasFlag (consumePlanned second).flags flag := by rw [same]
  have different : ¬ CrashFlag.plannedRestart = flag := fun is => other is.symm
  simpa [consumePlanned, different, CrashState.has] using flags

theorem EqualButMarker.format (same : EqualButMarker first second) :
    KeepsFormat first second := by
  have magic : (consumePlanned first).magic = (consumePlanned second).magic := by rw [same]
  have version : (consumePlanned first).version = (consumePlanned second).version := by rw [same]
  have size : (consumePlanned first).size = (consumePlanned second).size := by rw [same]
  exact ⟨magic.symm, version.symm, size.symm⟩

structure Agrees (state : CrashState) (started : Option Image) (marks : List Mark) : Prop where
  valid : stateValid state crashStateSize
  begun : state.has .lastStartedValid = started.isSome
  started : ∀ image, started = some image → state.lastStarted = image
  broken : state.has .failedValid = (marks.head?.any fun mark => mark ≠ .cleared)
  failed : ∀ image earlier, marks = .crash image :: earlier → state.failed = image
  count : state.count.toNat = min (streak state.failed marks) (2 ^ 32 - 1)

theorem Agrees.empty : Agrees stateInit none [] :=
  ⟨by decide, by decide, by simp, by decide, by simp, by decide⟩

theorem Agrees.of_same {before after : CrashState} (agrees : Agrees before started marks)
    (format : KeepsFormat before after) (begun : after.has .lastStartedValid = before.has .lastStartedValid)
    (broken : after.has .failedValid = before.has .failedValid) (count : after.count = before.count)
    (failed : after.failed = before.failed) (last : after.lastStarted = before.lastStarted) :
    Agrees after started marks where
  valid := format.valid agrees.valid
  begun := begun.trans agrees.begun
  started := last ▸ agrees.started
  broken := broken.trans agrees.broken
  failed := failed ▸ agrees.failed
  count := by
    rw [count, failed]
    exact agrees.count

theorem Agrees.consumed (agrees : Agrees state started marks) : Agrees (consumePlanned state) started marks :=
  agrees.of_same ⟨rfl, rfl, rfl⟩ (by simp [consumePlanned, CrashState.has])
    (by simp [consumePlanned, CrashState.has]) rfl rfl rfl

theorem Agrees.equal (agrees : Agrees first started marks) (same : EqualButMarker first second) :
    Agrees second started marks := by
  have count : (consumePlanned first).count = (consumePlanned second).count := by rw [same]
  have failed : (consumePlanned first).failed = (consumePlanned second).failed := by rw [same]
  have last : (consumePlanned first).lastStarted = (consumePlanned second).lastStarted := by rw [same]
  exact agrees.of_same same.format (same.has (by decide)).symm (same.has (by decide)).symm count.symm failed.symm
    last.symm

theorem Agrees.cleared (agrees : Agrees state started marks)
    : Agrees (clearFailure state) started (.cleared :: marks) where
  valid := KeepsFormat.valid ⟨rfl, rfl, rfl⟩ agrees.valid
  begun := by
    have kept : (clearFailure state).has .lastStartedValid = state.has .lastStartedValid := by
      simp [clearFailure, CrashState.has]
    exact kept.trans agrees.begun
  started := agrees.started
  broken := by simp [clearFailure, CrashState.has]
  failed := by simp
  count := by simp [clearFailure, streak]

theorem streak_other {image : Image} (other : ∀ earlier, marks ≠ .crash image :: earlier) :
    streak image marks = 0 := by
  cases marks with
  | nil => rfl
  | cons mark earlier =>
    cases mark with
    | cleared => rfl
    | crash last =>
      have different : last ≠ image := fun same => other earlier (by rw [same])
      rw [streak, if_neg different]

/-- The count of a crash is the length of its series, up to the largest count. -/
theorem Agrees.counted {image : Image} (reason : ResetReason) (agrees : Agrees state (some image) marks) :
    Agrees (countCrash reason state) (some image) (.crash image :: marks) := by
  have last : state.lastStarted = image := agrees.started image rfl
  have failed : (countCrash reason state).failed = image := last
  refine ⟨KeepsFormat.valid ⟨rfl, rfl, rfl⟩ agrees.valid, ?_, agrees.started, ?_, ?_, ?_⟩
  · have kept : (countCrash reason state).has .lastStartedValid = state.has .lastStartedValid := by
      simp [countCrash, CrashState.has]
    exact kept.trans agrees.begun
  · simp [countCrash, CrashState.has]
  · intro other earlier same
    cases same
    exact failed
  · rw [failed, streak, if_pos rfl]
    by_cases again : sameFailure state = true
    · have same : state.failed = image := by
        simp only [sameFailure, Bool.and_eq_true, decide_eq_true_eq] at again
        exact again.2.trans last
      have before := agrees.count
      rw [same] at before
      simp only [countCrash, again, if_true]
      by_cases room : state.count < 0xffffffff
      · have below : state.count.toNat < 2 ^ 32 - 1 := room
        have next : (state.count + 1).toNat = state.count.toNat + 1 := by
          rw [UInt32.toNat_add, show (1 : UInt32).toNat = 1 from rfl]
          exact Nat.mod_eq_of_lt (by omega)
        rw [if_pos room, next]
        omega
      · have full : ¬ state.count.toNat < 2 ^ 32 - 1 := room
        rw [if_neg room]
        omega
    · have other : streak image marks = 0 := by
        apply streak_other
        intro earlier is
        have valid : state.has .failedValid = true := by
          rw [agrees.broken, is]
          rfl
        refine again ?_
        rw [sameFailure, valid, last, agrees.failed image earlier is]
        simp
      simp only [countCrash, again, other]
      rfl

theorem Agrees.attributed (reason : ResetReason) (agrees : Agrees state started marks) :
    Agrees (attributeReset build reason state) started (newCrash build reason started ++ marks) := by
  have begun := agrees.begun
  unfold attributeReset countsCrash newCrash
  cases counts : resetCountsForLoop build reason with
  | false => simpa using agrees
  | true =>
    cases started with
    | none => simpa [begun] using agrees
    | some image => simpa [begun] using agrees.counted reason

theorem Agrees.recorded (running : Option Image) (agrees : Agrees state started marks) :
    Agrees (recordStart build running state) (running.or started) marks := by
  cases running with
  | none => exact agrees
  | some image =>
    have same : (recordStart build (some image) state).has .failedValid = state.has .failedValid := by
      simp [recordStart, CrashState.has]
    refine ⟨KeepsFormat.valid ⟨rfl, rfl, rfl⟩ agrees.valid, ?_, ?_, same.trans agrees.broken, agrees.failed, agrees.count⟩
    · simp [recordStart, CrashState.has]
    · intro other is
      cases is
      rfl

theorem Agrees.raised (running : Option Image) (agrees : Agrees state started marks) :
    Agrees (raisePending build running state) started marks := by
  rcases raisePending_cases build running state with same | ⟨_, _, _, raised⟩
  · rw [same]
    exact agrees
  · rw [raised]
    exact agrees.of_same ⟨rfl, rfl, rfl⟩ (by simp [CrashState.has]) (by simp [CrashState.has]) rfl rfl rfl

theorem Agrees.probed (running : Option Image) (reason : ResetReason) (agrees : Agrees state started marks) :
    Agrees (probeRecord build running reason state) (running.or started) (newCrash build reason started ++ marks) :=
  ((agrees.consumed.attributed build reason).recorded build running).raised build running

section steps
variable (builds : Image → CrashBuild)

structure SameBoot (before after : CrashDevice) : Prop where
  image : after.image = before.image
  reason : after.reason = before.reason
  unprobed : after.runtime.crashLoopInitialized = false → before.runtime.crashLoopInitialized = false ∧
    after.runtime.previousBootPlanned = before.runtime.previousBootPlanned

theorem stateWrite_equal {state last next : CrashState} (write : NvsWrite) (holds : nvs = some ⟨crashStateSize, last⟩)
    (same : EqualButMarker state last) (other : EqualButMarker state next) :
    ∃ left, EqualButMarker state left ∧ stateWrite nvs next write = some ⟨crashStateSize, left⟩ ∧
      (write.lands → left = next) := by
  rw [stateWrite]
  split
  next => exact ⟨next, other, rfl, fun _ => rfl⟩
  next lost => exact ⟨last, same, holds, fun lands => absurd lands lost⟩

structure DivertEnds (device : CrashDevice) (state : CrashState) (input : ProbeInput) (after : CrashDevice) : Prop where
  record : ∃ left, EqualButMarker state left ∧ after.nvs = some ⟨crashStateSize, left⟩ ∧
    (input.restored.lands → after.phase ≠ .diverted → left.has .plannedRestart = false)
  phase : after.phase = device.phase ∨ after.phase = .diverted
  image : after.image = device.image
  reason : after.reason = device.reason
  probed : after.runtime.crashLoopInitialized = device.runtime.crashLoopInitialized

theorem consumePlanned_unmarked (state : CrashState) : (consumePlanned state).has .plannedRestart = false := by
  simp [consumePlanned, CrashState.has]

theorem restored_ends {state last marked : CrashState} (input : ProbeInput) (err : EspErr)
    (holds : nvs = some ⟨crashStateSize, last⟩) (same : EqualButMarker state last) (other : EqualButMarker state marked)
    : DivertEnds device state input
      (endProbe builds { device with nvs := stateWrite nvs (consumePlanned marked) input.restored }
        (consumePlanned marked) err).1 := by
  have consumed : EqualButMarker state (consumePlanned marked) := other.trans (consumePlanned_twice marked).symm
  obtain ⟨left, equal, writes, lands⟩ := stateWrite_equal input.restored holds same consumed
  refine ⟨⟨left, equal, writes, ?_⟩, Or.inl rfl, rfl, rfl, rfl⟩
  intro arrives _
  rw [lands arrives]
  exact consumePlanned_unmarked marked

theorem divertProbe_ends (input : ProbeInput) (holds : device.nvs = some ⟨crashStateSize, state⟩) :
    DivertEnds device state input (divertProbe builds device state input).1 := by
  have unmarked : EqualButMarker state state := rfl
  unfold divertProbe
  split
  next => exact restored_ends builds input _ holds unmarked unmarked
  next address _ =>
    split
    next => exact restored_ends builds input _ holds unmarked unmarked
    have planned : EqualButMarker state (markPlanned state address) := (consumePlanned_markPlanned state address).symm
    obtain ⟨left, equal, writes, _⟩ := stateWrite_equal input.diverted holds unmarked planned
    split
    next => exact restored_ends builds input _ writes equal planned
    split
    next => exact restored_ends builds input _ writes equal planned
    next => exact ⟨⟨left, equal, writes, fun _ stays => absurd rfl stays⟩, Or.inr rfl, rfl, rfl, rfl⟩

def Computes (device : CrashDevice) (event : CrashEvent) (state : CrashState) : Prop :=
  match event with
  | .boot _ _ => False
  | .probe input =>
    EqualButMarker (probeRecord (device.build builds) (input.running device) device.reason (stored device.nvs)) state
  | .markPlanned input => state = markPlanned (stored device.nvs) input.bootAddress
  | .markHealthy _ | .poll _ _ => state = clearFailure (stored device.nvs)
  | .reset _ => state = consumePlanned (clearFailure (stored device.nvs))

inductive CrashMoves (before : CrashDevice) (event : CrashEvent) (after : CrashDevice) : Prop
  | booted (image : Image) (reason : ResetReason) (is : event = .boot image reason)
      (result : after = { before with image := image, reason := reason, runtime := .zero, phase := .running })
  | kept (nvs : after.nvs = before.nvs) (phase : after.phase = before.phase) (same : SameBoot before after)
      (silent : ∀ ledger : BootLedger, ledger.note builds before event after = ledger)
  | probed (input : ProbeInput) (state left : CrashState) (is : event = .probe input)
      (saves : probeSaves before input = true)
      (computed : state = probeRecord (before.build builds) (input.running before) before.reason (stored before.nvs))
      (equal : EqualButMarker state left) (nvs : after.nvs = some ⟨crashStateSize, left⟩)
      (unmarked : input.restored.lands → after.phase ≠ .diverted → left.has .plannedRestart = false)
      (same : SameBoot before after) (begun : after.runtime.crashLoopInitialized = true)
      (phase : after.phase = before.phase ∨ after.phase = .diverted ∧ (before.build builds).recovery = true ∧
        state.has .recoveryPending = true ∧ input.running before = some state.failed)
  | marked (input : MarkInput) (is : event = .markPlanned input)
      (saves : markSaves before input = true)
      (nvs : after.nvs = some ⟨crashStateSize, markPlanned (stored before.nvs) input.bootAddress⟩)
      (phase : after.phase = before.phase) (same : SameBoot before after)
  | cleared (state : CrashState) (clears : ∀ ledger : BootLedger, ledger.note builds before event after = ledger.clear true)
      (computed : Computes builds before event state) (change : EqualButMarker (clearFailure (stored before.nvs)) state)
      (nvs : after.nvs = some ⟨crashStateSize, state⟩)
      (unmarked : state.has .plannedRestart = true → (stored before.nvs).has .plannedRestart = true)
      (phase : after.phase = before.phase) (same : SameBoot before after)

theorem attributeReset_has (reason : ResetReason) (state : CrashState) (other : flag ≠ .failedValid) :
    (attributeReset build reason state).has flag = state.has flag := by
  have different : ¬ CrashFlag.failedValid = flag := fun is => other is.symm
  unfold attributeReset
  split
  next => simp [countCrash, CrashState.has, different]
  next => rfl

theorem recordStart_has (running : Option Image) (state : CrashState) (other : flag ≠ .lastStartedValid) :
    (recordStart build running state).has flag = state.has flag := by
  have different : ¬ CrashFlag.lastStartedValid = flag := fun is => other is.symm
  cases running with
  | none => rfl
  | some image => simp [recordStart, CrashState.has, different]

theorem raisePending_has (running : Option Image) (state : CrashState) (other : flag ≠ .recoveryPending) :
    (raisePending build running state).has flag = state.has flag := by
  have different : ¬ CrashFlag.recoveryPending = flag := fun is => other is.symm
  rcases raisePending_cases build running state with same | ⟨_, _, _, raised⟩
  · rw [same]
  · rw [raised]
    simp [CrashState.has, different]

theorem probeRecord_unmarked (running : Option Image) (reason : ResetReason) (state : CrashState) :
    (probeRecord build running reason state).has .plannedRestart = false := by
  rw [probeRecord, raisePending_has _ _ _ (by decide), recordStart_has _ _ _ (by decide),
    attributeReset_has _ _ _ (by decide)]
  exact consumePlanned_unmarked state

theorem DivertEnds.moves {device saved after : CrashDevice} {state : CrashState} {input : ProbeInput}
    (ends : DivertEnds saved state input after) (saves : probeSaves device input = true)
    (computed : state = probeRecord (device.build builds) (input.running device) device.reason (stored device.nvs))
    (image : saved.image = device.image) (reason : saved.reason = device.reason)
    (begun : saved.runtime.crashLoopInitialized = true) (phase : saved.phase = device.phase)
    (diverts : (device.build builds).recovery = true ∧ state.has .recoveryPending = true ∧
      input.running device = some state.failed) : CrashMoves builds device (.probe input) after := by
  obtain ⟨left, equal, nvs, unmarked⟩ := ends.record
  have started : after.runtime.crashLoopInitialized = true := ends.probed.trans begun
  refine .probed input state left rfl saves computed equal nvs unmarked
    ⟨ends.image.trans image, ends.reason.trans reason, fun unprobed => ?_⟩ started ?_
  · rw [started] at unprobed
    contradiction
  · exact ends.phase.imp (fun same => same.trans phase) fun diverted => ⟨diverted, diverts⟩

theorem irisCrashRecoveryProbe_moves (device : CrashDevice) (input : ProbeInput) :
    CrashMoves builds device (.probe input) (irisCrashRecoveryProbe builds device input).1 := by
  have silent (after : CrashDevice) (lost : probeSaves device input = false) (ledger : BootLedger) :
      ledger.note builds device (.probe input) after = ledger := by
    rw [BootLedger.note, lost]
    rfl
  by_cases again : device.runtime.crashLoopInitialized = true
  · rw [irisCrashRecoveryProbe, if_pos again]
    exact .kept rfl rfl ⟨rfl, rfl, fun unprobed => ⟨unprobed, rfl⟩⟩ (silent _ (by simp [probeSaves, again]))
  have first : device.runtime.crashLoopInitialized = false := Bool.eq_false_iff.mpr again
  rw [irisCrashRecoveryProbe, if_neg again]
  by_cases locked : input.nvs.locked = false
  · rw [if_pos locked]
    exact .kept rfl rfl ⟨rfl, rfl, fun unprobed => (by cases unprobed)⟩ (silent _ (by simp [probeSaves, reaches, locked]))
  rw [if_neg locked]
  by_cases opened : input.nvs.opened = EspErr.ok
  swap
  · rw [if_pos opened]
    exact .kept rfl rfl ⟨rfl, rfl, fun unprobed => (by cases unprobed)⟩ (silent _ (by simp [probeSaves, reaches, opened]))
  rw [if_neg (not_not.mpr opened)]
  dsimp only
  by_cases reads : (stateRead device.nvs input.nvs).1 = EspErr.ok
  swap
  · -- nothing is written, and the image is not diverted
    rw [if_neg (fun both => reads (by simpa [reads] using both.2.1))]
    refine .kept (by simp [endProbe, reads]) rfl ⟨rfl, rfl, fun unprobed => ?_⟩
      (silent _ (by simp [probeSaves, reaches, reads]))
    simp [endProbe, runtimeFromState] at unprobed
  simp only [reads, decide_true, if_true, stateRead_stored reads]
  by_cases lands : input.saved.lands = true
  swap
  · have failed : input.saved.result ≠ EspErr.ok := fun done => lands (by simp [NvsWrite.lands, done])
    rw [if_neg (fun both => failed both.2.1)]
    refine .kept (by simp [endProbe, stateWrite, lands]) rfl ⟨rfl, rfl, fun unprobed => ?_⟩
      (silent _ (by simp [probeSaves, reaches, lands]))
    simp [endProbe, runtimeFromState] at unprobed
  have saves : probeSaves device input = true := by simp [probeSaves, reaches, first, locked, opened, reads, lands]
  have written (state : CrashState) : stateWrite device.nvs state input.saved = some ⟨crashStateSize, state⟩ := if_pos lands
  split
  next diverts =>
    refine DivertEnds.moves builds (divertProbe_ends builds input ?_) saves rfl rfl rfl rfl rfl
      ⟨diverts.1, diverts.2.2.1, diverts.2.2.2⟩
    exact written _
  next stays =>
    refine .probed input _ _ rfl saves rfl rfl (written _) (fun _ _ => ?_) ⟨rfl, rfl, fun unprobed => ?_⟩ ?_
      (Or.inl rfl)
    · exact probeRecord_unmarked _ _ _ _
    · simp [endProbe, runtimeFromState] at unprobed
    · simp [endProbe, runtimeFromState]

/-- The call that changes the record either does not get to it or changes it. -/
theorem changeRecord_shape (device : CrashDevice) (input : MarkInput) (change : CrashState → CrashState) :
    SameBoot device (changeRecord builds device input change).1 ∧
      (changeRecord builds device input change).1.phase = device.phase ∧
      (changeRecord builds device input change).1.nvs =
        if reaches device input.nvs input.saved then some ⟨crashStateSize, change (stored device.nvs)⟩
        else device.nvs := by
  unfold changeRecord
  by_cases locked : input.nvs.locked = false
  · rw [if_pos locked]
    exact ⟨⟨rfl, rfl, fun unprobed => ⟨unprobed, rfl⟩⟩, rfl, by simp [reaches, locked]⟩
  rw [if_neg locked]
  by_cases opened : input.nvs.opened = EspErr.ok
  swap
  · dsimp only
    rw [if_pos (show (if input.nvs.opened ≠ EspErr.ok then input.nvs.opened else (stateRead device.nvs input.nvs).1) ≠
      EspErr.ok by rwa [if_pos opened])]
    exact ⟨⟨rfl, rfl, fun unprobed => ⟨unprobed, rfl⟩⟩, rfl, by simp [reaches, opened]⟩
  by_cases reads : (stateRead device.nvs input.nvs).1 = EspErr.ok
  swap
  · dsimp only
    rw [if_neg (not_not.mpr opened), if_pos reads]
    exact ⟨⟨rfl, rfl, fun unprobed => ⟨unprobed, rfl⟩⟩, rfl, by simp [reaches, reads]⟩
  dsimp only
  rw [if_neg (not_not.mpr opened), if_neg (not_not.mpr reads), stateRead_stored reads]
  refine ⟨⟨rfl, rfl, fun unprobed => ⟨unprobed, rfl⟩⟩, rfl, ?_⟩
  simp [stateWrite, reaches, locked, opened, reads]

theorem SameBoot.trans {first second third : CrashDevice} (early : SameBoot first second)
    (late : SameBoot second third) : SameBoot first third where
  image := late.image.trans early.image
  reason := late.reason.trans early.reason
  unprobed := fun unprobed =>
    have middle := late.unprobed unprobed
    have first := early.unprobed middle.1
    ⟨first.1, middle.2.trans first.2⟩

theorem SameBoot.settle (device : CrashDevice) : SameBoot device device.settle :=
  ⟨rfl, rfl, fun unprobed => ⟨unprobed, rfl⟩⟩

theorem clearing_moves (happens : Bool)
    (clears : ∀ ledger : BootLedger, ledger.note builds before event after = ledger.clear happens) (state : CrashState)
    (computed : Computes builds before event state) (change : EqualButMarker (clearFailure (stored before.nvs)) state)
    (unmarked : state.has .plannedRestart = true → (stored before.nvs).has .plannedRestart = true)
    (phase : after.phase = before.phase) (same : SameBoot before after)
    (nvs : after.nvs = if happens then some ⟨crashStateSize, state⟩ else before.nvs) :
    CrashMoves builds before event after := by
  cases happens with
  | true => exact .cleared state clears computed change nvs unmarked phase same
  | false => exact .kept nvs phase same clears

theorem clearFailure_marker (state : CrashState) :
    (clearFailure state).has .plannedRestart = state.has .plannedRestart := by
  simp [clearFailure, CrashState.has]

theorem irisCrashRecoveryMarkHealthy_shape (device : CrashDevice) (input : MarkInput) :
    SameBoot device (irisCrashRecoveryMarkHealthy builds device input).1 ∧
      (irisCrashRecoveryMarkHealthy builds device input).1.phase = device.phase ∧
      (irisCrashRecoveryMarkHealthy builds device input).1.nvs =
        if healthClears builds device input then some ⟨crashStateSize, clearFailure (stored device.nvs)⟩
        else device.nvs := by
  unfold irisCrashRecoveryMarkHealthy
  by_cases begun : device.runtime.crashLoopInitialized = false
  · rw [if_pos begun]
    exact ⟨⟨rfl, rfl, fun unprobed => ⟨unprobed, rfl⟩⟩, rfl, by simp [healthClears, markSaves, begun]⟩
  rw [if_neg begun]
  by_cases recovery : (device.build builds).firmwareRole = 2
  · rw [if_pos recovery]
    exact ⟨SameBoot.settle device, rfl, by simp [healthClears, recovery, CrashDevice.settle]⟩
  rw [if_neg recovery]
  obtain ⟨same, phase, nvs⟩ := changeRecord_shape builds device.settle input clearFailure
  refine ⟨(SameBoot.settle device).trans same, phase, nvs.trans ?_⟩
  have reaching : reaches device.settle input.nvs input.saved = healthClears builds device input := by
    have probed : device.runtime.crashLoopInitialized = true := by simpa using begun
    simp only [healthClears, markSaves, probed, recovery, ne_eq, not_false_eq_true, decide_true, Bool.and_true,
      Bool.true_and]
    rfl
  rw [reaching]
  rfl

theorem crashNext_moves (step : crashNext builds before event = some after) : CrashMoves builds before event after := by
  cases event with
  | boot image reason => exact .booted image reason rfl (Option.some.inj step).symm
  | probe input =>
    obtain ⟨_, result⟩ := Option.ite_none_right_eq_some.mp step
    cases result
    exact irisCrashRecoveryProbe_moves builds before input
  | markPlanned input =>
    obtain ⟨_, result⟩ := Option.ite_none_right_eq_some.mp step
    cases result
    unfold irisCrashRecoveryMarkPlanned
    by_cases begun : before.runtime.crashLoopInitialized = false
    · rw [if_pos begun]
      refine .kept rfl rfl ⟨rfl, rfl, fun unprobed => ⟨unprobed, rfl⟩⟩ fun ledger => ?_
      simp [BootLedger.note, markSaves, begun]
    rw [if_neg begun]
    obtain ⟨same, phase, nvs⟩ := changeRecord_shape builds before input fun state => markPlanned state input.bootAddress
    by_cases reaching : reaches before input.nvs input.saved = true
    · rw [if_pos reaching] at nvs
      exact .marked input rfl (by simp [markSaves, begun, reaching]) nvs phase same
    · rw [if_neg reaching] at nvs
      refine .kept nvs phase same fun ledger => ?_
      simp [BootLedger.note, markSaves, reaching]
  | markHealthy input =>
    obtain ⟨_, result⟩ := Option.ite_none_right_eq_some.mp step
    cases result
    obtain ⟨same, phase, nvs⟩ := irisCrashRecoveryMarkHealthy_shape builds before input
    exact clearing_moves builds _ (fun _ => rfl) _ rfl rfl (fun marked => (clearFailure_marker _).symm.trans marked)
      phase same nvs
  | reset input =>
    obtain ⟨_, result⟩ := Option.ite_none_right_eq_some.mp step
    cases result
    unfold irisCrashRecoveryReset
    by_cases begun : before.runtime.crashLoopInitialized = false
    · rw [if_pos begun]
      refine .kept rfl rfl ⟨rfl, rfl, fun unprobed => ⟨unprobed, rfl⟩⟩ fun ledger => ?_
      simp [BootLedger.note, BootLedger.clear, markSaves, begun]
    rw [if_neg begun]
    obtain ⟨same, phase, nvs⟩ :=
      changeRecord_shape builds before input fun state => consumePlanned (clearFailure state)
    have saves : markSaves before input = reaches before input.nvs input.saved := by simp [markSaves, begun]
    have unmarked (marked : (consumePlanned (clearFailure (stored before.nvs))).has .plannedRestart = true) :
        (stored before.nvs).has .plannedRestart = true := by
      rw [consumePlanned_unmarked] at marked
      contradiction
    dsimp only
    split
    · exact clearing_moves builds _ (fun _ => rfl) _ rfl (consumePlanned_twice _).symm unmarked phase same (saves ▸ nvs)
    · have settled := same.trans (SameBoot.settle _)
      exact clearing_moves builds _ (fun _ => rfl) _ rfl (consumePlanned_twice _).symm unmarked phase settled (saves ▸ nvs)
  | poll now input =>
    obtain ⟨_, result⟩ := Option.ite_none_right_eq_some.mp step
    cases result
    unfold irisCrashRecoveryPoll
    split
    next early =>
      refine .kept rfl rfl ⟨rfl, rfl, fun unprobed => ⟨unprobed, rfl⟩⟩ fun ledger => ?_
      simp [BootLedger.note, BootLedger.clear, pollDue, early]
    next due =>
      obtain ⟨same, phase, nvs⟩ := irisCrashRecoveryMarkHealthy_shape builds before.settle input
      have clears : healthClears builds before.settle input = (pollDue before now && healthClears builds before input) := by
        rw [pollDue, decide_eq_true due, Bool.true_and]
        rfl
      exact clearing_moves builds _ (fun _ => rfl) _ rfl rfl (fun marked => (clearFailure_marker _).symm.trans marked)
        phase ((SameBoot.settle before).trans same) (clears ▸ nvs)

theorem crashNext_running (step : crashNext builds before event = some after) (diverted : after.phase = .diverted) :
    before.phase = .running := by
  cases event with
  | boot image reason =>
    cases step
    contradiction
  | probe input | markPlanned input | markHealthy input | reset input
  | poll now input => exact (Option.ite_none_right_eq_some.mp step).1

theorem divertProbe_planned (device : CrashDevice) (state : CrashState) (input : ProbeInput) :
    (divertProbe builds device state input).1.runtime.previousBootPlanned = device.runtime.previousBootPlanned := by
  unfold divertProbe
  split
  · rfl
  · split
    · rfl
    · split
      · rfl
      · split <;> rfl

theorem probe_sees {input : ProbeInput} (unseen : device.runtime.previousBootPlanned = false)
    (sees : (irisCrashRecoveryProbe builds device input).1.runtime.previousBootPlanned = true) :
    (stored device.nvs).has .plannedRestart = true := by
  by_cases again : device.runtime.crashLoopInitialized = true
  · rw [irisCrashRecoveryProbe, if_pos again, unseen] at sees
    contradiction
  rw [irisCrashRecoveryProbe, if_neg again] at sees
  by_cases locked : input.nvs.locked = false
  · simp [locked, unseen] at sees
  by_cases opened : input.nvs.opened = EspErr.ok
  swap
  · simp [locked, opened, unseen] at sees
  rw [if_neg locked, if_neg (not_not.mpr opened)] at sees
  dsimp only at sees
  by_cases reads : (stateRead device.nvs input.nvs).1 = EspErr.ok
  swap
  · rw [if_neg (fun both => reads (by simpa [reads] using both.2.1))] at sees
    simp [reads, unseen, endProbe, runtimeFromState] at sees
  simp only [reads, decide_true, if_true, stateRead_stored reads] at sees
  split at sees
  · rw [divertProbe_planned] at sees
    exact (Bool.and_eq_true_iff.mp sees).1
  · exact (Bool.and_eq_true_iff.mp sees).1

end steps

end EspIris.Device
