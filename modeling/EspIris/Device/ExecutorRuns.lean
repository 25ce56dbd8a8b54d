import EspIris.Device.ExecutorSafety

/-! Runs of the executor: the invariants together, the way back to rest, and the one race
that breaks them, the worker freeing itself while a session end is about to use it. -/

namespace EspIris.Device
open Machine
variable {mailbox : Mailbox} {state : ExecutorState}

structure ExecutorSafe (state : ExecutorState) : Prop where
  control : Control state.mailbox
  slots : Slots state.mailbox state.runtime
  ledger : Ledger state.mailbox state.connected state.issued state.log

theorem ExecutorSafe.initial : ExecutorSafe ⟨.zero, .initial, false, [], 0, []⟩ where
  control := by constructor <;> grind [Mailbox.initial]
  slots := by constructor <;> grind [Mailbox.initial]
  ledger := by constructor <;> grind [Mailbox.initial, Sound.nil, owesCleanup]

/-- The guard leaves the worker in place wherever the protocol task still needs it. -/
theorem NoReapInAbandon.keepsTask (control : Control state.mailbox) (allowed : NoReapInAbandon state (.worker .advance))
    (point : state.mailbox.worker = .reaping) (idle : state.mailbox.stage = .idle) :
    state.mailbox.call.needsTask = false := by
  cases control
  unfold NoReapInAbandon at allowed
  cases call : state.mailbox.call <;> grind

theorem endWith_safe (deinit : Bool) (safe : ExecutorSafe state) (outside : state.mailbox.call = .idle)
    : ExecutorSafe (endWith state deinit) where
  control := abandonStart_control deinit safe.control outside
  slots := by
    obtain ⟨work, completion, free⟩ := safe.slots
    unfold endWith abandonStart
    split <;> constructor <;> grind
  ledger := abandonStart_ledger deinit safe.control safe.ledger outside

theorem Ledger.opened {connected : Bool} {issued : Nat} {log : List Trace}
    (ledger : Ledger mailbox connected issued log) : Ledger mailbox true issued log := by
  obtain ⟨sound, unused, bound, owed, live, waiting, handling, answered, returned, apart⟩ := ledger
  exact ⟨sound, unused, bound, owed, live, waiting, handling, answered, returned, by simp⟩

theorem betweenCalls_safe {otaEnabled : Bool} {state after : ExecutorState} {event : ExecutorEvent}
    (safe : ExecutorSafe state) (outside : state.mailbox.call = .idle)
    (step : betweenCalls otaEnabled state event = some after) : ExecutorSafe after := by
  have ⟨control, slots, ledger⟩ := safe
  -- Only a drain needs a free transmit slot.
  have slotsOf (runtime : Runtime) : Slots state.mailbox runtime :=
    ⟨slots.work, slots.completion, fun drains => by simp [outside] at drains⟩
  unfold betweenCalls at step
  split at step
  case h_1 session =>
    split at step
    · cases step
      exact ⟨control, slotsOf _, ledger.opened⟩
    · contradiction
  case h_2 reply =>
    cases step
    exact ⟨control, slotsOf _, ledger⟩
  case h_3 =>
    cases step
    exact ⟨control, slotsOf _, ledger⟩
  case h_4 frame =>
    split at step
    next connected =>
      cases step
      rw [connected] at ledger
      refine ⟨dispatchStart_control otaEnabled frame control outside, dispatchStart_slots otaEnabled frame slots, ?_⟩
      dsimp only
      rw [connected]
      exact dispatchStart_ledger otaEnabled frame control ledger outside
    next => contradiction
  case h_5 =>
    cases step
    exact endWith_safe false safe outside
  case h_6 =>
    cases step
    exact endWith_safe true safe outside
  case h_7 =>
    split at step
    next connected =>
      cases step
      rw [connected] at ledger
      refine ⟨drainStart_control state.runtime control outside, drainStart_slots slots, ?_⟩
      dsimp only
      rw [connected]
      exact drainStart_ledger state.runtime control ledger outside
    next => contradiction
  case h_8 => contradiction

theorem executorNext_safe {otaEnabled : Bool} {state after : ExecutorState} {event : ExecutorEvent}
    (safe : ExecutorSafe state) (allowed : NoReapInAbandon state event)
    (step : executorNext otaEnabled state event = some after) : ExecutorSafe after := by
  have ⟨control, slots, ledger⟩ := safe
  unfold executorNext at step
  rw [control.noFault, if_neg Bool.false_ne_true] at step
  cases event with
  | worker input =>
    obtain ⟨result, moved, rfl⟩ := Option.map_eq_some_iff.mp step
    refine ⟨workerStep_control control moved ?_, workerStep_slots slots moved, workerStep_ledger control ledger moved⟩
    intro point idle
    cases input with
    | advance => exact allowed.keepsTask control point idle
    | _ => simp [workerStep, point] at moved
  | protocol input =>
    obtain ⟨result, moved, rfl⟩ := Option.map_eq_some_iff.mp step
    exact ⟨callStep_control control slots moved, callStep_slots control slots moved,
      callStep_ledger control slots ledger moved⟩
  | _ =>
    dsimp only at step
    split at step
    next outside => exact betweenCalls_safe safe outside step
    next => contradiction

theorem executor_safe (otaEnabled : Bool) :
    Invariant ((executor otaEnabled).guarded NoReapInAbandon) ExecutorSafe where
  start := by
    rintro state rfl
    exact .initial
  step := fun _ _ _ safe step => executorNext_safe safe step.1 step.2

def AtRest (state : ExecutorState) : Prop :=
  state.mailbox.stage = .idle ∧ state.mailbox.call = .idle

theorem ExecutorSafe.cleaned (safe : ExecutorSafe state) (rest : AtRest state) :
    owesCleanup state.log = false := by
  have settledRuns := state.mailbox.worker.settled_runs
  obtain ⟨noFault, owned, present, runs, reserves, drains, used, needsTask, notifies, flagged, noRetry, notice⟩ :=
    safe.control
  have owed := safe.ledger.owed
  have stage : state.mailbox.stage = .idle := rest.1
  grind

def ExecutorEvent.drives : ExecutorEvent → Bool
  | .worker _ | .protocol _ | .queueNext | .flush => true
  | _ => false

def systemCancelLeft (systemCancel : Bool) : WorkerPoint → Bool
  | .cancelling taken _ => systemCancel && !taken.systemCancel
  | _ => systemCancel

def pendingCancels (mailbox : Mailbox) : Nat :=
  mailbox.abandoned.toNat + mailbox.otaCancel.toNat + mailbox.jobCancels +
    (systemCancelLeft mailbox.systemCancel mailbox.worker).toNat

def callRank : CallPoint → Nat
  | .idle => 0
  | .busy _ _ => 100
  | .ensuring _ => 300
  | .submitting _ => 200
  | .notifying | .notifyingAbandon => 100
  | .abandoning _ => 300
  | .draining => 12
  | .finishing _ => 11

def stageRank (stage : Stage) (worker : WorkerPoint) (filled : Bool) : Nat :=
  match stage, worker with
  | .queued, .notifying => 65
  | .queued, .reaping => 64
  | .queued, .waiting => 63
  | .queued, _ => 62
  | .running, .checking => 50
  | .running, .entering => 49
  | .running, .handling => 48
  | .running, .cancelling _ _ => 45
  | .running, _ => 40
  | .done, _ => 20 + filled.toNat
  | _, _ => 0

def mailboxRank (mailbox : Mailbox) (filled : Bool) : Nat :=
  callRank mailbox.call + stageRank mailbox.stage mailbox.worker filled + 10 * pendingCancels mailbox

def executorRank (state : ExecutorState) : Nat :=
  mailboxRank state.mailbox (!state.runtime.txWire.isEmpty)

theorem stageRank_le (stage : Stage) (worker : WorkerPoint) (filled : Bool) : stageRank stage worker filled ≤ 65 := by
  cases filled <;> unfold stageRank <;> split <;> decide

theorem cancelWhileBusy_lowers (path : DispatchPath) {header : WireHeader} (before after : Bool)
    (point : mailbox.call = .busy path header) :
    mailboxRank { cancelWhileBusy mailbox path false with call := .idle } after < mailboxRank mailbox before := by
  have stage := stageRank_le mailbox.stage mailbox.worker after
  have flag := Bool.toNat_le mailbox.otaCancel
  unfold cancelWhileBusy mailboxRank pendingCancels
  rw [point]
  split
  · simp only [Bool.false_eq_true, and_false, if_false, callRank]
    omega
  · split <;> simp only [callRank, Bool.toNat_true] <;> omega
  · simp only [Bool.false_eq_true, and_false, if_false, callRank]
    omega
  · simp only [callRank]
    omega

theorem executorAbandon_lowers (session : UInt32) {deinit : Bool} (before after : Bool)
    (point : mailbox.call = .abandoning deinit) (owned : mailbox.work.isSome = true) :
    mailboxRank (executorAbandon mailbox session deinit) after < mailboxRank mailbox before := by
  obtain ⟨work, owned⟩ := Option.isSome_iff_exists.mp owned
  have queued := stageRank_le .queued mailbox.worker after
  have kept := stageRank_le mailbox.stage mailbox.worker after
  have system := Bool.toNat_le (systemCancelLeft true mailbox.worker)
  unfold executorAbandon mailboxRank pendingCancels
  rw [point, owned]
  split <;> simp only [callRank, Bool.toNat_true] <;> omega

theorem executorEnsure_lowers {frame : DecodedFrame} (reply : Reply) (before after : Bool)
    (point : mailbox.call = .ensuring frame) (reserved : mailbox.stage = .reserved)
    (present : mailbox.worker = .absent ↔ mailbox.task = false) :
    ∃ ready, executorEnsure mailbox ⟨true, true, false, reply⟩ = some ready ∧
      mailboxRank { ready with call := .submitting frame } after < mailboxRank mailbox before := by
  simp only [executorEnsure, Bool.true_eq_false, and_false, if_false]
  refine ⟨_, rfl, ?_⟩
  unfold mailboxRank pendingCancels
  rw [point, reserved]
  cases task : mailbox.task with
  | true =>
    simp only [if_true, callRank, stageRank]
    omega
  | false =>
    rw [present.mpr task]
    simp only [Bool.false_eq_true, if_false, callRank, stageRank, systemCancelLeft]
    omega

/-- Any step of the protocol task lowers the rank, if its allocations succeed. -/
theorem callStep_lowers (safe : ExecutorSafe state) (inside : state.mailbox.call ≠ .idle) (reply : Reply) : ∃ result,
      callStep state.mailbox state.runtime state.issued ⟨true, true, false, reply⟩ = some result ∧
        executorRank { state with mailbox := result.1, runtime := result.2.1, log := state.log ++ result.2.2 } <
          executorRank state := by
  have ⟨control, slots, ledger⟩ := safe
  unfold executorRank
  cases point : state.mailbox.call with
  | idle => exact absurd point inside
  | busy path header =>
    simp only [callStep, point]
    exact ⟨_, rfl, cancelWhileBusy_lowers path _ _ point⟩
  | ensuring frame =>
    have reserved := control.reserves.mpr (by rw [point]; rfl)
    obtain ⟨ready, ensured, lower⟩ := executorEnsure_lowers reply (!state.runtime.txWire.isEmpty)
      (!state.runtime.txWire.isEmpty) point reserved control.present
    simp only [callStep, point, ensured]
    exact ⟨_, rfl, lower⟩
  | submitting frame =>
    have reserved := control.reserves.mpr (by rw [point]; rfl)
    have queued := stageRank_le .queued state.mailbox.worker (!state.runtime.txWire.isEmpty)
    have free : stageRank .reserved state.mailbox.worker (!state.runtime.txWire.isEmpty) = 0 := rfl
    simp only [callStep, point, executorSubmit]
    refine ⟨_, rfl, ?_⟩
    simp only [mailboxRank, pendingCancels, point, reserved, free, callRank]
    omega
  | notifying =>
    have task := control.needsTask (by rw [point]; rfl)
    simp only [callStep, point, notifyTask, task]
    refine ⟨_, rfl, ?_⟩
    simp only [mailboxRank, pendingCancels, point, callRank, if_true]
    omega
  | abandoning deinit =>
    have owned := control.owned.trans (control.needsTask (by rw [point]; rfl))
    simp only [callStep, point]
    exact ⟨_, rfl, executorAbandon_lowers _ _ _ point owned⟩
  | notifyingAbandon =>
    have task := control.needsTask (by rw [point]; rfl)
    simp only [callStep, point, notifyTask, task]
    refine ⟨_, rfl, ?_⟩
    simp only [mailboxRank, pendingCancels, point, callRank, if_true]
    omega
  | draining =>
    have stage := control.drains.mpr (by rw [point]; rfl)
    have owned := control.owned.trans (control.needsTask (by rw [point]; rfl))
    obtain ⟨work, owned⟩ := Option.isSome_iff_exists.mp owned
    obtain ⟨completion, shape, -, -⟩ := drainResult_shape slots point owned
    simp only [callStep, point]
    refine ⟨_, rfl, ?_⟩
    rw [shape]
    simp only [mailboxRank, pendingCancels, point, callRank, stageRank, stage]
    omega
  | finishing retry =>
    have stage := control.drains.mpr (by rw [point]; rfl)
    have once : retry = false := by
      cases retry with
      | false => rfl
      | true => exact absurd point control.noRetry
    have clear : state.mailbox.abandoned = false := by
      by_contra raised
      rcases control.flagged (Bool.not_eq_false _ ▸ raised) with queued | running
      · simp [stage] at queued
      · simp [stage] at running
    simp only [callStep, point, finishDrain, once, clear]
    refine ⟨_, rfl, ?_⟩
    simp only [mailboxRank, pendingCancels, point, callRank, stageRank, stage, clear, Bool.false_eq_true, if_false]
    omega

theorem settle_lowers {cleaned : Bool} (filled : Bool) (point : mailbox.worker = .settling cleaned)
    (stage : mailbox.stage = .running) : mailboxRank (settle mailbox cleaned) filled < mailboxRank mailbox filled := by
  have slot := Bool.toNat_le filled
  unfold settle mailboxRank pendingCancels
  rw [point, stage]
  split
  next pending =>
    have taken : 0 < mailbox.abandoned.toNat + mailbox.otaCancel.toNat + mailbox.jobCancels +
        mailbox.systemCancel.toNat := by
      rcases pending with raised | raised | raised | raised
      · simp only [raised, Bool.toNat_true]
        omega
      · simp only [raised, Bool.toNat_true]
        omega
      · omega
      · simp only [raised, Bool.toNat_true]
        omega
    simp only [systemCancelLeft, stageRank, Bool.and_not_self, Bool.toNat_false]
    omega
  cases cleaned <;> simp only [systemCancelLeft, stageRank, if_true, Bool.false_eq_true, if_false] <;> omega

theorem runCallbacks_lowers {taken : Taken} {cleaned : Bool} (jobCancels : Nat) (filled : Bool)
    (point : mailbox.worker = .cancelling taken cleaned) (stage : mailbox.stage = .running) :
    mailboxRank (runCallbacks mailbox taken cleaned jobCancels) filled < mailboxRank mailbox filled := by
  have least := min_le_right jobCancels mailbox.jobCancels
  unfold runCallbacks mailboxRank pendingCancels
  rw [point, stage]
  cases system : taken.systemCancel <;> simp [systemCancelLeft, stageRank, system] <;> omega

/-- The worker can go on from a queued or running request, and that lowers the rank. -/
theorem workerStep_lowers (control : Control mailbox) (outside : mailbox.call = .idle)
    (busy : mailbox.stage = .queued ∨ mailbox.stage = .running) (filled : Bool) :
    ∃ input result, workerStep mailbox input = some result ∧
      mailboxRank result.1 filled < mailboxRank mailbox filled := by
  have queued (resting : mailbox.worker.runs = false) : mailbox.stage = .queued := by grind [control.runs]
  have running (runs : mailbox.worker.runs = true) : mailbox.stage = .running := control.runs.mpr runs
  cases point : mailbox.worker with
  | absent => grind [control.used, control.present]
  | waiting =>
    have stage := queued (by rw [point]; rfl)
    have notice : mailbox.notified = true := by grind [control.notice stage]
    refine ⟨.advance, _, by simp only [workerStep, point, notice]; rfl, ?_⟩
    simp only [mailboxRank, pendingCancels, point, stage, stageRank, systemCancelLeft]
    omega
  | reaping =>
    have stage := queued (by rw [point]; rfl)
    refine ⟨.advance, _, by simp only [workerStep, point]; rfl, ?_⟩
    simp only [reapIdle, mailboxRank, pendingCancels, point, stage, stageRank, systemCancelLeft, reduceCtorEq,
      false_and, if_false]
    omega
  | claiming =>
    have stage := queued (by rw [point]; rfl)
    refine ⟨.advance, _, by simp only [workerStep, point, stage]; rfl, ?_⟩
    simp only [mailboxRank, pendingCancels, point, stage, stageRank, systemCancelLeft]
    omega
  | checking =>
    have stage := running (by rw [point]; rfl)
    cases abandoned : mailbox.abandoned with
    | true =>
      refine ⟨.advance, _, by simp only [workerStep, point, abandoned]; rfl, ?_⟩
      simp only [mailboxRank, pendingCancels, point, stage, abandoned, stageRank, systemCancelLeft]
      omega
    | false =>
      refine ⟨.advance, _, by simp only [workerStep, point, abandoned]; rfl, ?_⟩
      simp only [mailboxRank, pendingCancels, point, stage, abandoned, stageRank, systemCancelLeft]
      omega
  | entering =>
    have stage := running (by rw [point]; rfl)
    refine ⟨.advance, _, by simp only [workerStep, point]; rfl, ?_⟩
    simp only [mailboxRank, pendingCancels, point, stage, stageRank, systemCancelLeft]
    omega
  | handling =>
    have stage := running (by rw [point]; rfl)
    refine ⟨.handler [], _, by simp only [workerStep, point]; rfl, ?_⟩
    simp only [mailboxRank, pendingCancels, point, stage, stageRank, systemCancelLeft]
    omega
  | settling cleaned =>
    have stage := running (by rw [point]; rfl)
    exact ⟨.advance, _, by simp only [workerStep, point]; rfl, settle_lowers filled point stage⟩
  | cancelling taken cleaned =>
    have stage := running (by rw [point]; rfl)
    exact ⟨.callbacks 0, _, by simp only [workerStep, point]; rfl, runCallbacks_lowers 0 filled point stage⟩
  | notifying =>
    have stage := queued (by rw [point]; rfl)
    refine ⟨.advance, _, by simp only [workerStep, point]; rfl, ?_⟩
    simp only [mailboxRank, pendingCancels, point, stage, stageRank, systemCancelLeft]
    omega

theorem ExecutorSafe.rest_of_done (safe : ExecutorSafe state) (outside : state.mailbox.call = .idle)
    (done : state.mailbox.stage = .done) : state.connected = true := by
  have cutsRuns := state.mailbox.worker.cuts_runs
  obtain ⟨noFault, owned, present, runs, reserves, drains, used, needsTask, notifies, flagged, noRetry, notice⟩ :=
    safe.control
  have apart := safe.ledger.apart
  grind

/-- Some step of the two tasks or of the drain is possible and lowers the rank. -/
theorem executor_progress (otaEnabled : Bool) (state : ExecutorState) (safe : ExecutorSafe state)
    (busy : ¬ AtRest state) :
    ∃ event next, event.drives = true ∧
      ((executor otaEnabled).guarded NoReapInAbandon).step state event next ∧ ExecutorSafe next ∧
        executorRank next < executorRank state := by
  -- The guard concerns the worker only while the protocol task is inside the executor.
  have lowers (event : ExecutorEvent) (next : ExecutorState) (allowed : NoReapInAbandon state event)
      (moved : executorNext otaEnabled state event = some next) (drives : event.drives = true)
      (lower : executorRank next < executorRank state) :
      ∃ event next, event.drives = true ∧
        ((executor otaEnabled).guarded NoReapInAbandon).step state event next ∧ ExecutorSafe next ∧
          executorRank next < executorRank state :=
    ⟨event, next, drives, ⟨allowed, moved⟩, executorNext_safe safe allowed moved, lower⟩
  have noFault := safe.control.noFault
  by_cases outside : state.mailbox.call = .idle
  · have allowed (event : ExecutorEvent) : NoReapInAbandon state event := by
      unfold NoReapInAbandon
      split
      · simp [outside, CallPoint.abandons]
      · trivial
    have stage : state.mailbox.stage ≠ .idle := fun idle => busy ⟨idle, outside⟩
    have notReserved : state.mailbox.stage ≠ .reserved := by grind [safe.control.reserves]
    have notDraining : state.mailbox.stage ≠ .draining := by grind [safe.control.drains]
    by_cases done : state.mailbox.stage = .done
    · have connected := safe.rest_of_done outside done
      by_cases free : state.runtime.txWire = []
      · refine lowers .queueNext _ (allowed _) (by simp [executorNext, noFault, outside, betweenCalls, connected]; rfl)
          rfl ?_
        simp [executorRank, mailboxRank, pendingCancels, drainStart, free, done, outside, callRank, stageRank]
      · have filled : state.runtime.txWire.isEmpty = false := List.isEmpty_eq_false_iff.mpr free
        refine lowers .flush _ (allowed _) (by simp [executorNext, noFault, outside, betweenCalls]; rfl) rfl ?_
        simp [executorRank, mailboxRank, pendingCancels, filled, done, outside, callRank, stageRank]
    · have working : state.mailbox.stage = .queued ∨ state.mailbox.stage = .running := by
        grind [state.mailbox.stage.exhausted]
      obtain ⟨input, result, moved, lower⟩ := workerStep_lowers safe.control outside working
        (!state.runtime.txWire.isEmpty)
      exact lowers (.worker input) { state with mailbox := result.1, log := state.log ++ result.2 } (allowed _)
        (by simp [executorNext, noFault, moved]) rfl lower
  · obtain ⟨result, moved, lower⟩ := callStep_lowers safe outside ⟨0, 0, 0, 0, 0, []⟩
    exact lowers (.protocol ⟨true, true, false, ⟨0, 0, 0, 0, 0, []⟩⟩)
      { state with mailbox := result.1, runtime := result.2.1, log := state.log ++ result.2.2 } trivial
      (by simp [executorNext, noFault, moved]) rfl lower

/-- What holds of the mailbox at any moment: what was observed is sound, no task used memory
that was freed, and the two tasks and the drain can take the mailbox back to rest, where no
cleanup is owed. -/
structure MailboxSafe (otaEnabled : Bool) (state : ExecutorState) : Prop where
  sound : Sound state.log
  noFault : state.mailbox.fault = false
  cleaned : AtRest state → owesCleanup state.log = false
  settles : ∃ events last, (∀ event ∈ events, event.drives = true) ∧
    Run (executor otaEnabled) state events last ∧ AtRest last

/-- The mailbox is safe in every run in which the worker does not free itself while the protocol
task is ending a session. -/
theorem mailbox_safe (otaEnabled : Bool) (state : ExecutorState)
    (reached : Reachable ((executor otaEnabled).guarded NoReapInAbandon) state) : MailboxSafe otaEnabled state := by
  have safe := (executor_safe otaEnabled).reachable reached
  obtain ⟨events, last, drives, run, rest⟩ :=
    reaches_of_rank ExecutorSafe AtRest (fun event : ExecutorEvent => event.drives = true) executorRank
      (executor_progress otaEnabled) state safe
  exact ⟨safe.ledger.sound, safe.control.noFault, safe.cleaned, events, last, drives, run.unguarded, rest⟩

def requestRun : List ExecutorEvent :=
  let request : DecodedFrame := ⟨⟨Channel.control, ControlType.request, 0, 1, 1, 0, 1, 0⟩, []⟩
  let go : ExecutorEvent := .protocol ⟨true, true, false, ⟨0, 0, 0, 0, 0, []⟩⟩
  [.openSession 1, .dispatch request, go, go, go, .worker .advance, .worker .advance, .worker .advance, .worker .advance]

theorem mailbox_safe_in_handler :
    ∃ state, Reachable ((executor true).guarded NoReapInAbandon) state ∧
      state.log = [.accepted 1 1, .entered 1] ∧ MailboxSafe true state := by
  obtain ⟨state, run, logged⟩ : ∃ state, Run ((executor true).guarded NoReapInAbandon)
      ⟨.zero, .initial, false, [], 0, []⟩ requestRun state ∧ decide (state.log = [.accepted 1 1, .entered 1]) = true :=
    Run.of_guarded_check (by decide +kernel)
  have reached : Reachable ((executor true).guarded NoReapInAbandon) state := ⟨_, requestRun, rfl, run⟩
  exact ⟨state, reached, of_decide_eq_true logged, mailbox_safe true state reached⟩

/-- A session ends with a request in the mailbox, the worker cleans up, and its wait times out
just when the next session ends. -/
def reapedRun : List ExecutorEvent :=
  let request : DecodedFrame := ⟨⟨Channel.control, ControlType.request, 0, 1, 1, 0, 1, 0⟩, []⟩
  let go : ExecutorEvent := .protocol ⟨true, true, false, ⟨0, 0, 0, 0, 0, []⟩⟩
  [.openSession 1, .dispatch request, go, go, go, .endSession, go, go,
    .worker .advance, .worker .advance, .worker .advance, .worker .advance, .worker (.callbacks 0),
    .worker .advance, .worker .advance, .worker .timeout, .openSession 2, .endSession, .worker .advance, go]

/-- The worker frees itself between the test and the critical section of `executor_abandon`: a
null pointer is dereferenced, the second cleanup never runs and no run comes back to rest. -/
theorem reaped_while_abandoning :
    ∃ state, Reachable (executor true) state ∧ ¬ MailboxSafe true state ∧ owesCleanup state.log = true ∧
      ∀ events last, Run (executor true) state events last → ¬ AtRest last := by
  obtain ⟨last, computed, fault, owed, call⟩ :
      ∃ last, reapedRun.foldlM (executorNext true) ⟨.zero, .initial, false, [], 0, []⟩ = some last ∧
        last.mailbox.fault = true ∧ owesCleanup last.log = true ∧ last.mailbox.call = .abandoning false :=
    ⟨_, rfl, rfl, rfl, rfl⟩
  have busy : ¬ AtRest last := fun rest => by
    rw [AtRest, call] at rest
    exact absurd rest.2 (by decide)
  refine ⟨last, ⟨_, reapedRun, rfl, Run.of_computed computed⟩, ?_, owed, ?_⟩
  · intro safe
    rw [safe.noFault] at fault
    contradiction
  · intro events after run
    have ended : after = last := run.stuck fun event next step => by
      simp [executor, System.ofPartial, executorNext, fault] at step
    rwa [ended]

/-- What a session end relies on. Inside `executor_abandon` the worker and its memory are there,
and a cleanup that is owed is still requested from a worker that lives, or under way in it,
and the two tasks and the drain can carry it out. -/
structure AbandonSafe (otaEnabled : Bool) (state : ExecutorState) : Prop where
  live : state.mailbox.call.abandons = true →
    state.mailbox.work.isSome = true ∧ state.mailbox.task = true ∧ state.mailbox.worker ≠ .absent
  noFault : state.mailbox.fault = false
  kept : owesCleanup state.log = true →
    (state.mailbox.abandoned = true ∨ state.mailbox.worker.cleans = true) ∧
      state.mailbox.task = true ∧ state.mailbox.worker ≠ .absent
  carriedOut : ∃ events last, (∀ event ∈ events, event.drives = true) ∧
    Run (executor otaEnabled) state events last ∧ owesCleanup last.log = false

theorem CallPoint.abandons_needsTask (call : CallPoint) : call.abandons = true → call.needsTask = true := by
  cases call <;> simp [CallPoint.abandons, CallPoint.needsTask]

theorem Control.live (control : Control mailbox) (task : mailbox.task = true) :
    mailbox.work.isSome = true ∧ mailbox.worker ≠ .absent := by
  refine ⟨control.owned.trans task, ?_⟩
  intro gone
  rw [control.present.mp gone] at task
  exact Bool.false_ne_true task

/-- A cleanup that is owed keeps the stage away from idle, so its worker cannot free itself. -/
theorem ExecutorSafe.owed_kept (safe : ExecutorSafe state) (owes : owesCleanup state.log = true) :
    (state.mailbox.abandoned = true ∨ state.mailbox.worker.cleans = true) ∧ state.mailbox.task = true := by
  have control := safe.control
  have requested := safe.ledger.owed owes
  refine ⟨requested, ?_⟩
  rcases requested with abandoned | cleans
  · rcases control.flagged abandoned with queued | running
    · exact control.used (by simp [queued]) (by simp [queued])
    · exact control.used (by simp [running]) (by simp [running])
  · have running := control.runs.mpr (state.mailbox.worker.settled_runs (.inr cleans))
    exact control.used (by simp [running]) (by simp [running])

/-- Session ends are safe in every run in which the worker does not free itself while the
protocol task is inside one. -/
theorem abandon_safe (otaEnabled : Bool) (state : ExecutorState)
    (reached : Reachable ((executor otaEnabled).guarded NoReapInAbandon) state) : AbandonSafe otaEnabled state := by
  have invariant := executor_safe otaEnabled
  have safe := invariant.reachable reached
  obtain ⟨events, last, drives, run, rest⟩ :=
    reaches_of_rank ExecutorSafe AtRest (fun event : ExecutorEvent => event.drives = true) executorRank
      (executor_progress otaEnabled) state safe
  refine ⟨?_, safe.control.noFault, ?_, events, last, drives, run.unguarded, ?_⟩
  · intro inside
    have task := safe.control.needsTask (state.mailbox.call.abandons_needsTask inside)
    exact ⟨(safe.control.live task).1, task, (safe.control.live task).2⟩
  · intro owes
    obtain ⟨requested, task⟩ := safe.owed_kept owes
    exact ⟨requested, task, (safe.control.live task).2⟩
  · exact (invariant.run run safe).cleaned rest

/-- The second session of `reapedRun` ends after its worker cleaned up, and the worker goes on waiting. -/
def abandonedRun : List ExecutorEvent :=
  let request : DecodedFrame := ⟨⟨Channel.control, ControlType.request, 0, 1, 1, 0, 1, 0⟩, []⟩
  let go : ExecutorEvent := .protocol ⟨true, true, false, ⟨0, 0, 0, 0, 0, []⟩⟩
  [.openSession 1, .dispatch request, go, go, go, .endSession, go, go,
    .worker .advance, .worker .advance, .worker .advance, .worker .advance, .worker (.callbacks 0),
    .worker .advance, .worker .advance, .openSession 2, .endSession, go]

theorem abandon_safe_with_worker :
    ∃ state, Reachable ((executor true).guarded NoReapInAbandon) state ∧
      (state.mailbox.call = .notifyingAbandon ∧ owesCleanup state.log = true) ∧ AbandonSafe true state := by
  obtain ⟨state, run, met⟩ : ∃ state, Run ((executor true).guarded NoReapInAbandon)
      ⟨.zero, .initial, false, [], 0, []⟩ abandonedRun state ∧
        decide (state.mailbox.call = .notifyingAbandon ∧ owesCleanup state.log = true) = true :=
    Run.of_guarded_check (by decide +kernel)
  have reached : Reachable ((executor true).guarded NoReapInAbandon) state := ⟨_, abandonedRun, rfl, run⟩
  exact ⟨state, reached, of_decide_eq_true met, abandon_safe true state reached⟩

/-- Without the condition `executor_abandon` goes on with a worker that freed itself after the test:
its memory and its task are null, and the cleanup is requested from nobody. -/
theorem worker_gone_in_abandon :
    ∃ before after, Reachable (executor true) before ∧ ¬ AbandonSafe true before ∧
      (before.mailbox.call = .abandoning false ∧ before.mailbox.work.isNone ∧ before.mailbox.task = false) ∧
      (executor true).step before (.protocol ⟨true, true, false, ⟨0, 0, 0, 0, 0, []⟩⟩) after ∧
      ¬ AbandonSafe true after ∧ owesCleanup after.log = true ∧ after.mailbox.fault = true := by
  obtain ⟨before, after, computed, moved, gone, owes, fault⟩ :
      ∃ before after, reapedRun.dropLast.foldlM (executorNext true) ⟨.zero, .initial, false, [], 0, []⟩ = some before ∧
        executorNext true before (.protocol ⟨true, true, false, ⟨0, 0, 0, 0, 0, []⟩⟩) = some after ∧
        (before.mailbox.call = .abandoning false ∧ before.mailbox.work.isNone ∧ before.mailbox.task = false) ∧
        owesCleanup after.log = true ∧ after.mailbox.fault = true :=
    ⟨_, _, rfl, rfl, ⟨rfl, rfl, rfl⟩, rfl, rfl⟩
  refine ⟨before, after, ⟨_, reapedRun.dropLast, rfl, Run.of_computed computed⟩, ?_, gone, moved, ?_, owes, fault⟩
  · intro safe
    have task := (safe.live (by rw [gone.1]; rfl)).2.1
    rw [gone.2.2] at task
    exact Bool.false_ne_true task
  · intro safe
    rw [safe.noFault] at fault
    exact Bool.false_ne_true fault

end EspIris.Device
