import EspIris.Device.CrashLedger

/-! Over whole histories of boots: the record counts the last series of crashes, and the probe
diverts an image for a series of its own that reached the limit. -/

namespace EspIris.Device
open Machine
variable {before after : CrashDevice} {state : CrashState} {ledger : BootLedger} {event : CrashEvent}
variable {marks : List Mark} {device : CrashDevice} {input : ProbeInput}

section history
variable (builds : Image → CrashBuild)

theorem CrashMoves.agrees (moves : CrashMoves builds before event after)
    (agrees : Agrees (stored before.nvs) ledger.started ledger.marks) :
    Agrees (stored after.nvs) (ledger.note builds before event after).started
      (ledger.note builds before event after).marks := by
  cases moves with
  | booted image reason is result =>
    subst is result
    exact agrees
  | kept nvs phase same silent =>
    rw [silent, nvs]
    exact agrees
  | probed input state left is saves computed equal nvs unmarked same phase =>
    subst is computed
    have probed := (agrees.probed (before.build builds) (input.running before) before.reason).equal equal
    have started : (input.running before).or ledger.started = if input.known then some before.image else ledger.started := by
      unfold ProbeInput.running
      split <;> simp
    rw [nvs, stored_saved probed.valid]
    simp only [BootLedger.note, saves, if_true]
    exact started ▸ probed
  | marked input is saves nvs phase same =>
    subst is
    have marked := agrees.equal (consumePlanned_markPlanned (stored before.nvs) input.bootAddress).symm
    rw [nvs, stored_saved marked.valid]
    simp only [BootLedger.note, saves, if_true]
    exact marked
  | cleared state clears computed change nvs unmarked phase same =>
    have cleared := agrees.cleared.equal change
    rw [clears, nvs, stored_saved cleared.valid]
    exact cleared

def RecordAgrees (state : CrashDevice × BootLedger) : Prop :=
  Agrees (stored state.1.nvs) state.2.started state.2.marks

theorem stored_fresh (fresh : device.fresh) : stored device.nvs = stateInit := by
  cases is : device.nvs with
  | none => rfl
  | some blob => simp [stored, fresh.2.2 blob is]

theorem history_agrees : Invariant (bootHistory builds) RecordAgrees where
  start := by
    rintro ⟨device, ledger⟩ ⟨fresh, rfl⟩
    rw [RecordAgrees, stored_fresh fresh]
    exact Agrees.empty
  step := by
    rintro ⟨before, ledger⟩ event ⟨after, noted⟩ agrees ⟨step, note⟩
    simp only at note
    subst note
    exact (crashNext_moves builds step).agrees builds agrees

/-- A probe that counts a crash of another image than the record names, while it still asks for
the recovery of that one; the image that crashed can divert, and not at its first crash. -/
def SwitchesWhilePending (device : CrashDevice) (input : ProbeInput) : Prop :=
  let read := stored device.nvs
  probeSaves device input = true ∧ countsCrash (device.build builds) device.reason read = true ∧
    read.has .recoveryPending = true ∧ sameFailure read = false ∧
    (builds read.lastStarted).recovery = true ∧ 1 < (builds read.lastStarted).limit

def NoSwitchWhilePending (state : CrashDevice × BootLedger) : CrashEvent → Prop
  | .probe input => ¬ SwitchesWhilePending builds state.1 input
  | _ => True

def PendingEarned (state : CrashState) (marks : List Mark) : Prop :=
  state.has .recoveryPending = true → state.has .failedValid = true ∧
    ((builds state.failed).recovery = true → (builds state.failed).limit.toNat ≤ streak state.failed marks)

theorem PendingEarned.equal {first second : CrashState} (earned : PendingEarned builds first marks)
    (same : EqualButMarker first second) : PendingEarned builds second marks := by
  have failed : (consumePlanned first).failed = (consumePlanned second).failed := by rw [same]
  have named : second.failed = first.failed := failed.symm
  intro pending
  rw [← same.has (by decide)] at pending ⊢
  rw [named]
  exact earned pending

theorem streak_cons (image : Image) (marks : List Mark) : streak image (.crash image :: marks) = streak image marks + 1 :=
  if_pos rfl

theorem PendingEarned.attributed {state : CrashState} {started : Option Image} {marks : List Mark} (build : CrashBuild)
    (reason : ResetReason) (agrees : Agrees state started marks) (earned : PendingEarned builds state marks)
    (allowed : ¬ (countsCrash build reason state = true ∧ state.has .recoveryPending = true ∧
      sameFailure state = false ∧ (builds state.lastStarted).recovery = true ∧ 1 < (builds state.lastStarted).limit)) :
    PendingEarned builds (attributeReset build reason state) (newCrash build reason started ++ marks) := by
  intro pending
  rw [attributeReset_has _ _ _ (by decide)] at pending
  obtain ⟨valid, series⟩ := earned pending
  have begun := agrees.begun
  unfold attributeReset newCrash
  cases counts : countsCrash build reason state with
  | false =>
    have silent : (if resetCountsForLoop build reason then started.toList.map Mark.crash else []) = [] := by
      cases started with
      | none => simp
      | some image =>
        have uncounted : resetCountsForLoop build reason = false := by simpa [countsCrash, begun] using counts
        rw [uncounted]
        rfl
    rw [silent]
    exact ⟨valid, series⟩
  | true =>
    simp only [countsCrash, Bool.and_eq_true] at counts
    obtain ⟨image, isThat⟩ := Option.isSome_iff_exists.mp (begun ▸ counts.1)
    have last : state.lastStarted = image := agrees.started image isThat
    have failed : (countCrash reason state).failed = image := last
    rw [if_pos rfl, if_pos counts.2, isThat, failed]
    refine ⟨by simp [countCrash, CrashState.has], fun diverts => ?_⟩
    change (builds image).limit.toNat ≤ streak image (.crash image :: marks)
    rw [streak_cons]
    by_cases again : sameFailure state = true
    · have same : state.failed = image := by
        simp only [sameFailure, Bool.and_eq_true, decide_eq_true_eq] at again
        exact again.2.trans last
      rw [same] at series
      exact Nat.le_succ_of_le (series diverts)
    · -- the image that crashed diverts at its first crash
      have low : ¬ 1 < (builds image).limit := by
        intro high
        refine allowed ⟨?_, pending, Bool.eq_false_iff.mpr again, ?_, ?_⟩
        · simp [countsCrash, counts.1, counts.2]
        · rw [last]
          exact diverts
        · rw [last]
          exact high
      have bound : (builds image).limit.toNat ≤ 1 := UInt32.not_lt.mp low
      omega

theorem PendingEarned.recorded (build : CrashBuild) (running : Option Image) (earned : PendingEarned builds state marks)
    : PendingEarned builds (recordStart build running state) marks := by
  intro pending
  rw [recordStart_has _ _ _ (by decide)] at pending ⊢
  have failed : (recordStart build running state).failed = state.failed := by cases running <;> rfl
  rw [failed]
  exact earned pending

/-- The limit that the probe of a normal image compares with is the image's own. -/
theorem stateLimit_recorded {build : CrashBuild} (normal : build.recovery = true) (image : Image) (state : CrashState) :
    stateLimit build (recordStart build (some image) state) = build.limit := by
  have role := build.recoveryIsNormal normal
  have limit : (recordStart build (some image) state).limit = build.limit := by simp [recordStart, role]
  rw [stateLimit, limit]
  exact ite_self _

theorem PendingEarned.raised {started : Option Image} (input : ProbeInput)
    (agrees : Agrees (recordStart (device.build builds) (input.running device) state) started marks)
    (earned : PendingEarned builds (recordStart (device.build builds) (input.running device) state) marks) :
    PendingEarned builds (raisePending (device.build builds) (input.running device)
      (recordStart (device.build builds) (input.running device) state)) marks := by
  rcases raisePending_cases (device.build builds) (input.running device)
    (recordStart (device.build builds) (input.running device) state) with same | ⟨diverts, failing, reached, raised⟩
  · rw [same]
    exact earned
  rw [raised]
  intro _
  unfold ProbeInput.running at *
  by_cases known : input.known = true
  swap
  · simp [failedImageRunning, known] at failing
  simp only [known, if_true] at *
  have count := agrees.count
  rw [stateLimit_recorded diverts] at reached
  generalize recordStart (device.build builds) (some device.image) state = record at *
  simp only [failedImageRunning, Option.any_some, Bool.and_eq_true, decide_eq_true_eq] at failing
  refine ⟨by simpa [CrashState.has] using failing.1, fun _ => ?_⟩
  have named : CrashState.failed { record with flags := record.flags ||| CrashFlag.recoveryPending.mask } =
      device.image := failing.2
  rw [failing.2] at count
  rw [named]
  have limit : (device.build builds).limit.toNat ≤ record.count.toNat := reached
  change (device.build builds).limit.toNat ≤ streak device.image marks
  omega

def DiversionEarned (state : CrashDevice × BootLedger) : Prop :=
  state.1.phase = .diverted → (builds state.1.image).limit.toNat ≤ streak state.1.image state.2.marks

theorem PendingEarned.probed (agrees : RecordAgrees (device, ledger))
    (earned : PendingEarned builds (stored device.nvs) ledger.marks) (saves : probeSaves device input = true)
    (allowed : ¬ SwitchesWhilePending builds device input) :
    PendingEarned builds
      (probeRecord (device.build builds) (input.running device) device.reason (stored device.nvs))
      (newCrash (device.build builds) device.reason ledger.started ++ ledger.marks) := by
  have consumed : EqualButMarker (stored device.nvs) (consumePlanned (stored device.nvs)) :=
    (consumePlanned_twice _).symm
  have begun := (earned.equal builds consumed).attributed builds (device.build builds) device.reason agrees.consumed
    (by
      rintro ⟨counts, pending, switches, diverts, high⟩
      refine allowed ⟨saves, ?_, ?_, ?_, diverts, high⟩
      · rw [countsCrash, consumed.has (by decide)]
        exact counts
      · rw [consumed.has (by decide)]
        exact pending
      · rw [sameFailure, consumed.has (by decide)]
        exact switches)
  exact (begun.recorded builds (device.build builds) (input.running device)).raised builds input
    ((agrees.consumed.attributed (device.build builds) device.reason).recorded _ _)

theorem PendingEarned.cleared (marks : List Mark) :
    PendingEarned builds (clearFailure state) marks := by
  intro pending
  simp [clearFailure, CrashState.has] at pending

theorem CrashMoves.earned (moves : CrashMoves builds before event after) (agrees : RecordAgrees (before, ledger))
    (earned : PendingEarned builds (stored before.nvs) ledger.marks)
    (allowed : NoSwitchWhilePending builds (before, ledger) event)
    (running : after.phase = .diverted → before.phase = .running) :
    PendingEarned builds (stored after.nvs) (ledger.note builds before event after).marks ∧
      DiversionEarned builds (after, ledger.note builds before event after) := by
  have stays (same : after.phase = before.phase) :
      DiversionEarned builds (after, ledger.note builds before event after) := by
    intro diverted
    have was := (same.symm.trans diverted).symm.trans (running diverted)
    contradiction
  have noted := moves.agrees builds agrees
  cases moves with
  | booted image reason is result =>
    subst is result
    exact ⟨earned, fun diverted => (by cases diverted)⟩
  | kept nvs phase same silent =>
    refine ⟨?_, stays phase⟩
    rw [silent, nvs]
    exact earned
  | probed input state left is saves computed equal nvs unmarked same begun phase =>
    subst is
    have probed := PendingEarned.probed builds agrees earned saves allowed
    rw [← computed] at probed
    have marks : (ledger.note builds before (.probe input) after).marks =
        newCrash (before.build builds) before.reason ledger.started ++ ledger.marks := by
      simp only [BootLedger.note, saves, if_true]
    rw [DiversionEarned, marks, nvs, stored_saved (equal.format.valid ?_)]
    · refine ⟨probed.equal builds equal, fun diverted => ?_⟩
      rcases phase with same | ⟨_, diverts, pending, named⟩
      · have held := stays same diverted
        rw [marks] at held
        exact held
      · have image : before.image = state.failed := by
          unfold ProbeInput.running at named
          split at named
          · exact Option.some.inj named
          · cases named
        rw [same.image, image]
        refine (probed pending).2 ?_
        rw [← image]
        exact diverts
    · rw [computed]
      exact (probeRecord_format _ _ _ _).valid (stored_valid _)
  | marked input is saves nvs phase same =>
    subst is
    refine ⟨?_, stays phase⟩
    have marked : EqualButMarker (stored before.nvs) (markPlanned (stored before.nvs) input.bootAddress) :=
      (consumePlanned_markPlanned _ _).symm
    rw [nvs, stored_saved (marked.format.valid (stored_valid _))]
    simp only [BootLedger.note, saves, if_true]
    exact earned.equal builds marked
  | cleared state clears computed change nvs unmarked phase same =>
    refine ⟨?_, stays phase⟩
    have format : KeepsFormat (stored before.nvs) (clearFailure (stored before.nvs)) := ⟨rfl, rfl, rfl⟩
    rw [nvs, stored_saved (change.format.valid (format.valid (stored_valid _)))]
    exact (PendingEarned.cleared builds _).equal builds change

theorem history_earned : Invariant ((bootHistory builds).guarded (NoSwitchWhilePending builds)) fun state =>
    RecordAgrees state ∧ PendingEarned builds (stored state.1.nvs) state.2.marks ∧ DiversionEarned builds state :=
  ((history_agrees builds).guarded _).over
    (by
      rintro ⟨device, ledger⟩ ⟨fresh, rfl⟩
      rw [stored_fresh fresh]
      refine ⟨fun pending => ?_, fun diverted => ?_⟩
      · have none : stateInit.has .recoveryPending = false := by decide
        rw [none] at pending
        contradiction
      · rw [fresh.1] at diverted
        contradiction)
    (by
      rintro ⟨before, ledger⟩ event ⟨after, noted⟩ agrees ⟨earned, _⟩ ⟨allowed, step, note⟩
      simp only at note
      subst note
      exact (crashNext_moves builds step).earned builds agrees earned allowed (crashNext_running builds step))

def CrashEvent.writes : CrashEvent → List NvsWrite
  | .boot _ _ => []
  | .probe input => [input.saved, input.diverted, input.restored]
  | .markPlanned input | .markHealthy input | .reset input | .poll _ input => [input.saved]

def WritesSucceed (_ : CrashDevice × BootLedger) (event : CrashEvent) : Prop :=
  ∀ write ∈ event.writes, write.result = EspErr.ok

structure MarkerAgrees (state : CrashDevice × BootLedger) : Prop where
  unseen : state.1.runtime.crashLoopInitialized = false → state.1.runtime.previousBootPlanned = false
  marked : (stored state.1.nvs).has .plannedRestart = true →
    ∃ boot, state.2.marked = some boot ∧ state.2.probed ≤ boot
  past : ∀ boot, state.2.marked = some boot → boot ≤ state.2.boots ∧
    (state.1.runtime.crashLoopInitialized = false → boot < state.2.boots)
  probed : state.2.probed ≤ state.2.boots

theorem MarkerAgrees.keeps {before after : CrashDevice × BootLedger} (agrees : MarkerAgrees before)
    (same : SameBoot before.1 after.1)
    (stays : (stored after.1.nvs).has .plannedRestart = true → (stored before.1.nvs).has .plannedRestart = true)
    (marked : after.2.marked = before.2.marked) (probed : after.2.probed = before.2.probed)
    (boots : after.2.boots = before.2.boots) : MarkerAgrees after where
  unseen := fun unprobed => (same.unprobed unprobed).2.trans (agrees.unseen (same.unprobed unprobed).1)
  marked := fun has => by
    rw [marked, probed]
    exact agrees.marked (stays has)
  past := by
    rw [marked, boots]
    exact fun boot is => ⟨(agrees.past boot is).1, fun unprobed => (agrees.past boot is).2 (same.unprobed unprobed).1⟩
  probed := by
    rw [probed, boots]
    exact agrees.probed

theorem CrashMoves.marker (moves : CrashMoves builds before event after) (agrees : MarkerAgrees (before, ledger))
    (succeed : WritesSucceed (before, ledger) event) :
    MarkerAgrees (after, ledger.note builds before event after) := by
  cases moves with
  | booted image reason is result =>
    subst is result
    refine ⟨fun _ => rfl, agrees.marked, ?_, Nat.le_succ_of_le agrees.probed⟩
    intro boot isThat
    have past := (agrees.past boot isThat).1
    exact ⟨Nat.le_succ_of_le past, fun _ => Nat.lt_succ_of_le past⟩
  | kept nvs phase same silent =>
    refine agrees.keeps same ?_ (by rw [silent]) (by rw [silent]) (by rw [silent])
    rw [nvs]
    exact id
  | probed input state left is saves computed equal nvs unmarked same begun phase =>
    subst is
    have lands : input.restored.lands = true := by
      have done := succeed input.restored (by simp [CrashEvent.writes])
      simp [NvsWrite.lands, done]
    have stays : ¬ after.runtime.crashLoopInitialized = false := by simp [begun]
    simp only [BootLedger.note, saves, if_true]
    refine ⟨fun unprobed => absurd unprobed stays, fun has => ?_, fun boot isThat => ?_, Nat.le_refl _⟩
    · by_cases diverted : after.phase = .diverted
      · exact ⟨ledger.boots, if_pos diverted, Nat.le_refl _⟩
      · rw [nvs, stored_saved (equal.format.valid ?_), unmarked lands diverted] at has
        · contradiction
        · rw [computed]
          exact (probeRecord_format _ _ _ _).valid (stored_valid _)
    · refine ⟨?_, fun unprobed => absurd unprobed stays⟩
      dsimp only at isThat
      split at isThat
      · exact Nat.le_of_eq (Option.some.inj isThat).symm
      · exact (agrees.past boot isThat).1
  | marked input is saves nvs phase same =>
    subst is
    have begun : before.runtime.crashLoopInitialized = true := by
      simp only [markSaves, Bool.and_eq_true] at saves
      exact saves.1
    have stays (unprobed : after.runtime.crashLoopInitialized = false) : False := by
      have was := (same.unprobed unprobed).1
      rw [begun] at was
      contradiction
    simp only [BootLedger.note, saves, if_true]
    refine ⟨fun unprobed => (stays unprobed).elim, fun _ => ⟨ledger.boots, rfl, agrees.probed⟩, ?_, agrees.probed⟩
    intro boot isThat
    exact ⟨Nat.le_of_eq (Option.some.inj isThat).symm, fun unprobed => (stays unprobed).elim⟩
  | cleared state clears computed change nvs unmarked phase same =>
    refine agrees.keeps same ?_ (by rw [clears]; rfl) (by rw [clears]; rfl) (by rw [clears]; rfl)
    have format : KeepsFormat (stored before.nvs) (clearFailure (stored before.nvs)) := ⟨rfl, rfl, rfl⟩
    dsimp only
    rw [nvs, stored_saved (change.format.valid (format.valid (stored_valid _)))]
    exact unmarked

theorem history_marker : Invariant ((bootHistory builds).guarded WritesSucceed) MarkerAgrees where
  start := by
    rintro ⟨device, ledger⟩ ⟨fresh, rfl⟩
    refine ⟨fun _ => by rw [fresh.2.1]; rfl, fun has => ?_, fun boot is => (by cases is), Nat.le_refl _⟩
    have none : stateInit.has .plannedRestart = false := by decide
    dsimp only at has
    rw [stored_fresh fresh, none] at has
    contradiction
  step := by
    rintro ⟨before, ledger⟩ event ⟨after, noted⟩ agrees ⟨succeed, step, note⟩
    simp only at note
    subst note
    exact (crashNext_moves builds step).marker builds agrees succeed

def CountsSeries (state : CrashDevice × BootLedger) : Prop :=
  (stored state.1.nvs).count.toNat = min (streak (stored state.1.nvs).failed state.2.marks) (2 ^ 32 - 1)

def SeesLastMarker (before : CrashDevice × BootLedger) (after : CrashDevice) : Prop :=
  before.1.runtime.previousBootPlanned = false → after.runtime.previousBootPlanned = true →
    ∃ boot, before.2.marked = some boot ∧ before.2.probed ≤ boot ∧ boot < before.2.boots

def SameFailure (before after : CrashDevice) : Prop :=
  (stored after.nvs).count = (stored before.nvs).count ∧ (stored after.nvs).failed = (stored before.nvs).failed ∧
    (stored after.nvs).has .failedValid = (stored before.nvs).has .failedValid

theorem probeRecord_uncounted {build : CrashBuild} {reason : ResetReason} (running : Option Image)
    (uncounted : countsCrash build reason state = false) :
    (probeRecord build running reason state).count = state.count ∧
      (probeRecord build running reason state).failed = state.failed ∧
      (probeRecord build running reason state).has .failedValid = state.has .failedValid := by
  have consumed : EqualButMarker state (consumePlanned state) := (consumePlanned_twice _).symm
  have attributed : attributeReset build reason (consumePlanned state) = consumePlanned state := by
    rw [attributeReset, countsCrash, ← consumed.has (by decide), ← countsCrash, uncounted]
    rfl
  rw [probeRecord, attributed, raisePending_has _ _ _ (by decide), recordStart_has _ _ _ (by decide)]
  refine ⟨?_, ?_, (consumed.has (by decide)).symm⟩
  · rcases raisePending_cases build running (recordStart build running (consumePlanned state)) with same | raised
    · rw [same]
      cases running <;> rfl
    · rw [raised.2.2.2]
      cases running <;> rfl
  · rcases raisePending_cases build running (recordStart build running (consumePlanned state)) with same | raised
    · rw [same]
      cases running <;> rfl
    · rw [raised.2.2.2]
      cases running <;> rfl

theorem probe_uncounted (moves : CrashMoves builds before (.probe input) after)
    (uncounted : countsCrash (before.build builds) before.reason (stored before.nvs) = false) :
    SameFailure before after := by
  cases moves with
  | booted image reason is result => cases is
  | kept nvs phase same silent =>
    rw [SameFailure, nvs]
    exact ⟨rfl, rfl, rfl⟩
  | probed other state left is saves computed equal nvs unmarked same begun phase =>
    cases is
    obtain ⟨count, failed, valid⟩ := probeRecord_uncounted (input.running before) uncounted
    rw [← computed] at count failed valid
    have format : KeepsFormat (stored before.nvs) state := by
      rw [computed]
      exact probeRecord_format _ _ _ _
    rw [SameFailure, nvs, stored_saved (equal.format.valid (format.valid (stored_valid _)))]
    have counts : (consumePlanned state).count = (consumePlanned left).count := by rw [equal]
    have names : (consumePlanned state).failed = (consumePlanned left).failed := by rw [equal]
    exact ⟨counts.symm.trans count, names.symm.trans failed, (equal.has (by decide)).symm.trans valid⟩
  | marked other is saves nvs phase same => cases is
  | cleared state clears computed change nvs unmarked phase same =>
    -- a probe puts no clearing into an empty ledger
    have noted := congrArg BootLedger.marks (clears BootLedger.empty)
    simp only [BootLedger.note, BootLedger.clear, if_true, BootLedger.empty] at noted
    split at noted
    · simp [newCrash] at noted
    · cases noted

/-- What the record means, in any history of boots: the count, what leaves the failure alone, who
can clear it, and that a write replaces it as a whole. The marker of a planned restart is seen once
where no write fails. -/
structure CounterSemantics (state : CrashDevice × BootLedger) : Prop where
  series : CountsSeries state
  uncounted : ∀ input after, crashNext builds state.1 (.probe input) = some after →
    countsCrash (state.1.build builds) state.1.reason (stored state.1.nvs) = false → SameFailure state.1 after
  marker : Reachable ((bootHistory builds).guarded WritesSucceed) state →
    ∀ input after, crashNext builds state.1 (.probe input) = some after → SeesLastMarker state after
  recovery : (state.1.build builds).firmwareRole = 2 → ∀ input after,
    (crashNext builds state.1 (.markHealthy input) = some after ∨
      ∃ now, crashNext builds state.1 (.poll now input) = some after) → after.nvs = state.1.nvs
  whole : ∀ event after, crashNext builds state.1 event = some after →
    after.nvs = state.1.nvs ∨ ∃ record, Computes builds state.1 event record ∧
      after.nvs = some ⟨crashStateSize, record⟩

theorem CrashMoves.whole (moves : CrashMoves builds before event after) : after.nvs = before.nvs ∨
      ∃ record, Computes builds before event record ∧ after.nvs = some ⟨crashStateSize, record⟩ := by
  cases moves with
  | booted image reason is result =>
    subst result
    exact Or.inl rfl
  | kept nvs phase same silent => exact Or.inl nvs
  | probed input state left is saves computed equal nvs unmarked same begun phase =>
    subst is computed
    exact Or.inr ⟨left, equal, nvs⟩
  | marked input is saves nvs phase same =>
    subst is
    exact Or.inr ⟨_, rfl, nvs⟩
  | cleared state clears computed change nvs unmarked phase same => exact Or.inr ⟨state, computed, nvs⟩

theorem recovery_keeps {before after : CrashDevice} {input : MarkInput} (role : (before.build builds).firmwareRole = 2)
    (step : crashNext builds before (.markHealthy input) = some after ∨
      ∃ now, crashNext builds before (.poll now input) = some after) : after.nvs = before.nvs := by
  have silent : healthClears builds before input = false := by simp [healthClears, role]
  rcases step with step | ⟨now, step⟩
  · obtain ⟨_, result⟩ := Option.ite_none_right_eq_some.mp step
    cases result
    rw [(irisCrashRecoveryMarkHealthy_shape builds before input).2.2, silent]
    rfl
  · obtain ⟨_, result⟩ := Option.ite_none_right_eq_some.mp step
    cases result
    unfold irisCrashRecoveryPoll
    split
    · rfl
    · have silent : healthClears builds before.settle input = false := silent
      rw [(irisCrashRecoveryMarkHealthy_shape builds before.settle input).2.2, silent]
      rfl

theorem MarkerAgrees.sees {state : CrashDevice × BootLedger} (agrees : MarkerAgrees state)
    (step : crashNext builds state.1 (.probe input) = some after) :
    SeesLastMarker state after := by
  intro unseen sees
  obtain ⟨_, result⟩ := Option.ite_none_right_eq_some.mp step
  cases result
  obtain ⟨boot, marked, probed⟩ := agrees.marked (probe_sees builds unseen sees)
  refine ⟨boot, marked, probed, (agrees.past boot marked).2 ?_⟩
  refine Bool.eq_false_iff.mpr fun begun => ?_
  rw [irisCrashRecoveryProbe, if_pos begun, unseen] at sees
  contradiction

end history

def firstApplication : Image := ⟨0x120000, List.replicate 32 0xa5⟩
def secondApplication : Image := ⟨0x120000, List.replicate 32 0xb6⟩
def factoryRecovery : Image := ⟨0x20000, List.replicate 32 0x5a⟩

def normalBuild : CrashBuild where
  firmwareRole := 1
  limit := 3
  recovery := true
  countPowerFaults := false
  stableMs := 30000
  limitRange := by decide
  recoveryIsNormal := by decide

def recoveryBuild : CrashBuild where
  firmwareRole := 2
  limit := 3
  recovery := false
  countPowerFaults := false
  stableMs := 30000
  limitRange := by decide
  recoveryIsNormal := by decide

def productBuilds (image : Image) : CrashBuild := if image = factoryRecovery then recoveryBuild else normalBuild

def nvsWorks : NvsWrite := ⟨EspErr.ok, true⟩
def nvsReads : NvsRead := ⟨true, EspErr.ok, EspErr.ok, EspErr.ok, stateInit⟩

def soundProbe : CrashEvent :=
  .probe ⟨nvsReads, true, 0, .ok factoryRecovery.address, EspErr.ok, nvsWorks, nvsWorks, nvsWorks⟩

def newDevice : CrashDevice := ⟨none, firstApplication, .poweron, .zero, .off⟩

def threeCrashes : List CrashEvent :=
  [.boot firstApplication .poweron, soundProbe, .boot firstApplication .panic, soundProbe,
    .boot firstApplication .panic, soundProbe, .boot firstApplication .panic, soundProbe]

def oneCrashMore : List CrashEvent :=
  threeCrashes ++ [.boot factoryRecovery .sw, soundProbe, .boot secondApplication .sw, soundProbe,
    .boot secondApplication .panic, soundProbe]

instance (state : CrashDevice × BootLedger) (event : CrashEvent) :
    Decidable (NoSwitchWhilePending productBuilds state event) :=
  match event with
  | .probe _ => inferInstanceAs (Decidable (¬ (_ ∧ _ ∧ _ ∧ _ ∧ _ ∧ _)))
  | .boot _ _ | .markPlanned _ | .markHealthy _ | .reset _ | .poll _ _ => .isTrue trivial

/-- In every history in which no other image's crash is counted while recovery is asked for, the
probe diverts an image only after as many crashes of its own in a row as its limit says. -/
theorem diversion_earned (builds : Image → CrashBuild) (state : CrashDevice × BootLedger)
    (reached : Reachable ((bootHistory builds).guarded (NoSwitchWhilePending builds)) state) :
    DiversionEarned builds state :=
  ((history_earned builds).reachable reached).2.2

def historyNext (both : CrashDevice × BootLedger) (event : CrashEvent) : Option (CrashDevice × BootLedger) :=
  (crashNext productBuilds both.1 event).map fun after => (after, both.2.note productBuilds both.1 event after)

def historyStart (both : CrashDevice × BootLedger) : Prop := both.1.fresh ∧ both.2 = BootLedger.empty

theorem bootHistory_computed : bootHistory productBuilds = .ofPartial historyStart historyNext :=
  System.recorded_ofPartial _ _ _ _

theorem newDevice_start : historyStart (newDevice, BootLedger.empty) := ⟨⟨rfl, rfl, fun blob is => (by cases is)⟩, rfl⟩

theorem history_reaches {events : List CrashEvent} {check : CrashDevice × BootLedger → Bool}
    (passes : (events.foldlM historyNext (newDevice, BootLedger.empty)).any check = true) :
    ∃ state, Reachable (bootHistory productBuilds) state ∧ check state = true := by
  obtain ⟨state, run, checked⟩ : ∃ state, Run (System.ofPartial historyStart historyNext)
      (newDevice, BootLedger.empty) events state ∧ check state = true := Run.of_check passes
  rw [← bootHistory_computed] at run
  have start : (bootHistory productBuilds).start (newDevice, BootLedger.empty) := newDevice_start
  exact ⟨state, ⟨_, events, start, run⟩, checked⟩

def isDiverted (state : CrashDevice × BootLedger) : Bool := state.1.phase = .diverted

theorem diversion_earned_thrice :
    ∃ state, Reachable ((bootHistory productBuilds).guarded (NoSwitchWhilePending productBuilds)) state ∧
      state.1.phase = .diverted ∧ DiversionEarned productBuilds state := by
  obtain ⟨state, run, diverted⟩ : ∃ state, Run ((System.ofPartial historyStart historyNext).guarded
      (NoSwitchWhilePending productBuilds)) (newDevice, BootLedger.empty) threeCrashes state ∧ isDiverted state = true :=
    Run.of_guarded_check (by decide +kernel)
  rw [← bootHistory_computed] at run
  have start : (bootHistory productBuilds).start (newDevice, BootLedger.empty) := newDevice_start
  have reached : Reachable ((bootHistory productBuilds).guarded (NoSwitchWhilePending productBuilds)) state :=
    ⟨_, threeCrashes, start, run⟩
  exact ⟨state, reached, of_decide_eq_true diverted, diversion_earned productBuilds state reached⟩

def isUnearned (state : CrashDevice × BootLedger) : Bool := state.1.phase = .diverted ∧
  (productBuilds state.1.image).limit = 3 ∧ streak state.1.image state.2.marks = 1

/-- An image that crashed once is diverted at a limit of three. -/
theorem diverted_after_one_crash :
    ∃ state, Reachable (bootHistory productBuilds) state ∧ ¬ DiversionEarned productBuilds state ∧
      state.1.phase = .diverted ∧ (productBuilds state.1.image).limit = 3 ∧ streak state.1.image state.2.marks = 1 := by
  obtain ⟨state, reached, checked⟩ := @history_reaches oneCrashMore isUnearned (by decide +kernel)
  obtain ⟨diverted, limit, once⟩ := of_decide_eq_true checked
  refine ⟨state, reached, fun earned => ?_, diverted, limit, once⟩
  have series := earned diverted
  rw [limit, once] at series
  exact absurd series (by decide)

/-- In every history of boots the record means what it says. -/
theorem crash_counter_semantics (builds : Image → CrashBuild) (state : CrashDevice × BootLedger) (reached : Reachable (bootHistory builds) state) :
    CounterSemantics builds state where
  series := ((history_agrees builds).reachable reached).count
  uncounted := fun _ _ step => probe_uncounted builds (crashNext_moves builds step)
  marker := fun succeeding _ _ => ((history_marker builds).reachable succeeding).sees builds
  recovery := fun role _ _ => recovery_keeps builds role
  whole := fun _ _ step => (crashNext_moves builds step).whole builds

def countedRun : List CrashEvent :=
  [.boot firstApplication .poweron, soundProbe, .boot firstApplication .panic, soundProbe,
    .markPlanned ⟨nvsReads, firstApplication.address, nvsWorks⟩, .boot firstApplication .sw, soundProbe]

def isCounted (state : CrashDevice × BootLedger) : Bool :=
  (stored state.1.nvs).count = 1 ∧ state.1.runtime.previousBootPlanned = true

theorem crash_counter_semantics_counted :
    ∃ state, Reachable (bootHistory productBuilds) state ∧ (stored state.1.nvs).count = 1 ∧
      state.1.runtime.previousBootPlanned = true ∧ CounterSemantics productBuilds state := by
  obtain ⟨state, reached, checked⟩ := @history_reaches countedRun isCounted (by decide +kernel)
  obtain ⟨count, planned⟩ := of_decide_eq_true checked
  exact ⟨state, reached, count, planned, crash_counter_semantics productBuilds state reached⟩

end EspIris.Device
