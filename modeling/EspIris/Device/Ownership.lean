import EspIris.Device.ExecutorSafety
import EspIris.Device.ProtocolTask

/-! What the mailbox keeps in every interleaving, also where the worker frees itself during a call
of `executor_abandon`: a request in the slot has a worker, and only the protocol task queues one. -/

namespace EspIris.Device
variable {mailbox : Mailbox} {result : Mailbox × List Trace} {input : WorkerInput}

structure Ownership (mailbox : Mailbox) : Prop where
  owned : mailbox.work.isSome = mailbox.task
  runs : mailbox.worker.runs = true → mailbox.stage = .running
  reserves : mailbox.call.reserves = true → mailbox.stage = .reserved
  drains : mailbox.call.drains = true → mailbox.stage = .draining
  used : mailbox.stage ≠ .idle → mailbox.stage ≠ .reserved → mailbox.task = true
  submits : ∀ frame, mailbox.call = .submitting frame → mailbox.task = true

@[grind]
def Pending (mailbox : Mailbox) : Prop :=
  mailbox.abandoned = false ∧ (mailbox.stage = .queued ∨ mailbox.worker = .checking)

theorem Ownership.pending (own : Ownership mailbox) (pending : Pending mailbox) :
    mailbox.work.isSome = true ∧ mailbox.task = true := by
  have task : mailbox.task = true := by
    rcases pending.2 with queued | checking
    · exact own.used (by simp [queued]) (by simp [queued])
    · have running := own.runs (by simp [checking, WorkerPoint.runs])
      exact own.used (by simp [running]) (by simp [running])
  exact ⟨own.owned.trans task, task⟩

theorem workerStep_ownership (own : Ownership mailbox) (step : workerStep mailbox input = some result) :
    Ownership result.1 := by
  cases own
  unfold workerStep at step
  split at step
  all_goals
    first
      | contradiction
      | (try split at step) <;> cases step <;> constructor <;>
          grind -linarith +splitImp [reapIdle, settle, runCallbacks, WorkerPoint.runs, CallPoint.reserves, CallPoint.drains]

theorem workerStep_pending (own : Ownership mailbox) (step : workerStep mailbox input = some result)
    (pending : Pending result.1) :
    Pending mailbox := by
  cases own
  unfold workerStep at step
  split at step
  all_goals
    first
      | contradiction
      | (try split at step) <;> cases step <;>
          grind -linarith +splitImp [reapIdle, settle, runCallbacks, WorkerPoint.runs]

theorem workerStep_ticket (step : workerStep mailbox input = some result) :
    result.1.ticket = mailbox.ticket ∧ result.1.call = mailbox.call := by
  unfold workerStep at step
  split at step
  all_goals
    first
      | contradiction
      | (try split at step) <;> cases step <;> grind -linarith +splitImp [reapIdle, settle, runCallbacks]

/-- The worker comes to the entry of a handler only by taking a pending request up. -/
theorem workerStep_entering (step : workerStep mailbox input = some result) (entering : result.1.worker = .entering) :
    picks mailbox input = true := by
  unfold workerStep at step
  split at step
  all_goals
    first
      | contradiction
      | (try split at step) <;> cases step <;> grind -linarith +splitImp [reapIdle, settle, runCallbacks, picks]

theorem picks_pending (picked : picks mailbox input = true) :
    Pending mailbox := by
  unfold picks at picked
  split at picked
  next point => exact ⟨by simpa using picked, .inr point⟩
  next => contradiction

def Trace.plain : Trace → Bool
  | .accepted _ _ | .entered _ => false
  | _ => true

/-- The worker enters a handler from its entry, and nothing else of what it shows matters here. -/
theorem workerStep_traces (step : workerStep mailbox input = some result) :
    (∀ trace ∈ result.2, trace.plain = true) ∨
      mailbox.worker = .entering ∧ result.2 = [.entered mailbox.ticket] := by
  unfold workerStep at step
  split at step
  case h_6 point =>
    cases step
    exact .inr ⟨point, rfl⟩
  case h_9 taken cleaned jobCancels point =>
    cases step
    left
    split <;> simp [Trace.plain]
  all_goals
    first
      | contradiction
      | (try split at step) <;> cases step <;> simp [Trace.plain]

theorem notifyTask_keeps (mailbox : Mailbox) :
    ∃ notified call fault, notifyTask mailbox =
      { mailbox with notified := notified, call := call, fault := fault } ∧ (call = .idle ∨ call = mailbox.call) := by
  unfold notifyTask
  split
  · exact ⟨_, _, _, rfl, .inl rfl⟩
  · exact ⟨_, _, _, rfl, .inr rfl⟩

theorem drainResult_keeps (mailbox : Mailbox) (runtime : Runtime) :
    ∃ completion call fault, (drainResult mailbox runtime).1 =
        { mailbox with completion := completion, call := call, fault := fault } ∧
      (call = mailbox.call ∨ ∃ retry, call = .finishing retry) ∧
      ∀ trace ∈ (drainResult mailbox runtime).2.2, trace.plain = true := by
  unfold drainResult
  split
  · exact ⟨_, _, _, rfl, .inl rfl, by simp⟩
  split
  · split
    · dsimp only
      split
      · exact ⟨_, _, _, rfl, .inr ⟨_, rfl⟩, by simp [Trace.plain]⟩
      · exact ⟨_, _, _, rfl, .inr ⟨_, rfl⟩, by simp⟩
    · exact ⟨_, _, _, rfl, .inr ⟨_, rfl⟩, by simp⟩
  · exact ⟨_, _, _, rfl, .inr ⟨_, rfl⟩, by simp⟩

structure Calls (before after : Mailbox) (traces : List Trace) : Prop where
  own : Ownership after
  ticket : after.ticket = before.ticket
  pending : Pending after → Pending before
  reserves : after.call.reserves = true → before.call.reserves = true
  worker : after.worker = .entering → before.worker = .entering
  plain : ∀ trace ∈ traces, trace.plain = true
  abandons : (∃ deinit, before.call = .abandoning deinit) → ¬ Pending after

theorem callStep_calls {mailbox : Mailbox} {runtime : Runtime} {ticket : Nat} {input : CallInput}
    {result : Mailbox × Runtime × List Trace} (own : Ownership mailbox)
    (step : callStep mailbox runtime ticket input = some result) :
    (∃ frame, mailbox.call = .submitting frame ∧
        result = (executorSubmit mailbox runtime.sessionId frame ticket, runtime, [.accepted ticket runtime.sessionId])) ∨
      Calls mailbox result.1 result.2.2 := by
  cases own
  unfold callStep at step
  split at step
  case h_1 => contradiction
  case h_2 path header point =>
    cases step
    obtain ⟨otaCancel, jobCancels, systemCancel, shape, -⟩ := cancelWhileBusy_shape mailbox path input.cancelAccepted
    rw [shape]
    right
    constructor <;> grind -linarith +splitImp [Ownership, CallPoint.reserves, CallPoint.drains]
  case h_4 frame point =>
    cases step
    exact .inl ⟨frame, point, rfl⟩
  case h_8 point =>
    cases step
    obtain ⟨completion, call, fault, shape, moves, plain⟩ := drainResult_keeps mailbox runtime
    rw [shape]
    right
    constructor <;> grind -linarith +splitImp [Ownership, CallPoint.reserves, CallPoint.drains]
  case h_3 frame point =>
    right
    split at step
    next ready ensured =>
      cases step
      unfold executorEnsure at ensured
      split at ensured
      · contradiction
      split at ensured
      · contradiction
      cases ensured
      constructor <;> grind -linarith +splitImp [Ownership, CallPoint.reserves, CallPoint.drains, WorkerPoint.runs]
    cases step
    constructor <;> grind -linarith +splitImp [Ownership, CallPoint.reserves, CallPoint.drains]
  case h_6 deinit point =>
    cases step
    right
    unfold executorAbandon
    dsimp only
    split
    · split
      · constructor <;> grind -linarith +splitImp [Ownership, CallPoint.reserves, CallPoint.drains, Trace.plain]
      · constructor <;> grind -linarith +splitImp [Ownership, CallPoint.reserves, CallPoint.drains, Trace.plain]
    · constructor <;> grind -linarith +splitImp [Ownership, CallPoint.reserves, CallPoint.drains, Trace.plain]
  case h_9 retry point =>
    cases step
    right
    unfold finishDrain
    constructor <;> grind -linarith +splitImp [Ownership, CallPoint.reserves, CallPoint.drains]
  all_goals
    cases step
    right
    obtain ⟨notified, call, fault, shape, moves⟩ := notifyTask_keeps mailbox
    rw [shape]
    constructor <;> grind -linarith +splitImp [Ownership, CallPoint.reserves, CallPoint.drains]

theorem executorSubmit_ownership (session : UInt32) {frame : DecodedFrame} (ticket : Nat) (own : Ownership mailbox)
    (point : mailbox.call = .submitting frame) :
    Ownership (executorSubmit mailbox session frame ticket) := by
  cases own
  unfold executorSubmit
  constructor <;> grind -linarith +splitImp [CallPoint.reserves, CallPoint.drains]

theorem dispatchStart_ownership (otaEnabled : Bool) (frame : DecodedFrame) (own : Ownership mailbox)
    (outside : mailbox.call = .idle) :
    Ownership (dispatchStart otaEnabled mailbox frame) ∧
      (Pending (dispatchStart otaEnabled mailbox frame) → Pending mailbox) ∧
      (dispatchStart otaEnabled mailbox frame).ticket = mailbox.ticket ∧
      (dispatchStart otaEnabled mailbox frame).worker = mailbox.worker := by
  have free : dispatchPath otaEnabled (executorBusy mailbox) frame.header = .reserve → mailbox.stage = .idle := by
    unfold dispatchPath executorBusy
    grind
  cases own
  unfold dispatchStart
  split
  all_goals
    refine ⟨?_, ?_, rfl, rfl⟩
    · constructor <;> grind -linarith +splitImp [CallPoint.reserves, CallPoint.drains]
    · grind [WorkerPoint.runs]

theorem drainStart_ownership (runtime : Runtime) (own : Ownership mailbox) :
    Ownership (drainStart mailbox runtime) ∧ (Pending (drainStart mailbox runtime) → Pending mailbox) ∧
      (drainStart mailbox runtime).ticket = mailbox.ticket ∧ (drainStart mailbox runtime).worker = mailbox.worker ∧
      ((drainStart mailbox runtime).call.reserves = true → mailbox.call.reserves = true) := by
  obtain ⟨owned, runs, reserves, drains, used, submits⟩ := own
  unfold drainStart
  split
  · refine ⟨?_, ?_, rfl, rfl, ?_⟩
    · constructor <;> grind -linarith +splitImp [CallPoint.reserves, CallPoint.drains]
    · grind [WorkerPoint.runs]
    · simp [CallPoint.reserves]
  · exact ⟨⟨owned, runs, reserves, drains, used, submits⟩, id, rfl, rfl, id⟩

/-- A session that ends leaves no request pending, or is about to withdraw it. -/
theorem abandonStart_ownership (deinit : Bool) (own : Ownership mailbox) (outside : mailbox.call = .idle) :
    Ownership (abandonStart mailbox deinit).1 ∧
      (Pending (abandonStart mailbox deinit).1 → Pending mailbox) ∧
      (abandonStart mailbox deinit).1.ticket = mailbox.ticket ∧
      (abandonStart mailbox deinit).1.worker = mailbox.worker ∧
      (abandonStart mailbox deinit).1.call.reserves = false ∧
      ((∃ deinit', (abandonStart mailbox deinit).1.call = .abandoning deinit') ∨
        ¬ Pending (abandonStart mailbox deinit).1) ∧
      ∀ trace ∈ (abandonStart mailbox deinit).2, trace.plain = true := by
  unfold abandonStart
  split
  next absent =>
    refine ⟨own, id, rfl, rfl, by rw [outside]; rfl, .inr fun pending => ?_, by simp [Trace.plain]⟩
    obtain ⟨work, task⟩ := own.pending pending
    rcases absent with none | idle
    · rw [Option.isNone_iff_eq_none] at none
      rw [none] at work
      contradiction
    · rw [idle] at task
      contradiction
  cases own
  refine ⟨?_, id, rfl, rfl, rfl, .inl ⟨deinit, rfl⟩, by simp⟩
  constructor <;> grind -linarith +splitImp [CallPoint.reserves, CallPoint.drains]

end EspIris.Device
