import EspIris.Device.Executor

/-! The mailbox under every interleaving of the protocol task and the worker: which requests
run, which results are sent, when an ended session is cleaned up, and that the mailbox always
comes back to rest. -/

namespace EspIris.Device
open Machine
variable {runtime : Runtime} {result : Mailbox × Runtime × List Trace} {input : CallInput} {session : UInt32}
variable {ticket : Nat} {cleaned : Bool} {frame : DecodedFrame}

structure ExecutorState where
  runtime : Runtime
  mailbox : Mailbox
  connected : Bool
  sessions : List UInt32
  issued : Nat
  log : List Trace

/-- `reply` is any other frame that the protocol task queues, and `flush` the transport taking
what is in the transmit slot. -/
inductive ExecutorEvent
  | openSession (session : UInt32)
  | reply (reply : Reply)
  | flush
  | dispatch (frame : DecodedFrame)
  | endSession
  | deinit
  | queueNext
  | protocol (input : CallInput)
  | worker (input : WorkerInput)

def endWith (state : ExecutorState) (deinit : Bool) : ExecutorState :=
  { state with
    mailbox := (abandonStart state.mailbox deinit).1
    connected := false
    log := state.log ++ (abandonStart state.mailbox deinit).2 }

/-- What the protocol task does between its calls: it opens sessions under new ids, dispatches
and drains within a session, and ends whatever there is. -/
def betweenCalls (otaEnabled : Bool) (state : ExecutorState) : ExecutorEvent → Option ExecutorState
  | .openSession session =>
    if state.connected = false ∧ session ∉ state.sessions then
      some { state with
        connected := true
        sessions := session :: state.sessions
        runtime := { state.runtime with sessionId := session, txWire := [] } }
    else none
  | .reply reply => some { state with runtime := (queueFrame state.runtime reply).1 }
  | .flush => some { state with runtime := { state.runtime with txWire := [] } }
  | .dispatch frame =>
    if state.connected then
      some { state with
        mailbox := dispatchStart otaEnabled state.mailbox frame
        issued := state.issued + 1 }
    else none
  | .endSession => some (endWith state false)
  | .deinit => some (endWith state true)
  | .queueNext =>
    if state.connected then some { state with mailbox := drainStart state.mailbox state.runtime } else none
  | _ => none

def executorNext (otaEnabled : Bool) (state : ExecutorState) (event : ExecutorEvent) : Option ExecutorState :=
  if state.mailbox.fault then none
  else
    match event with
    | .worker input =>
      (workerStep state.mailbox input).map fun result =>
        { state with mailbox := result.1, log := state.log ++ result.2 }
    | .protocol input =>
      (callStep state.mailbox state.runtime state.issued input).map fun result =>
        { state with mailbox := result.1, runtime := result.2.1, log := state.log ++ result.2.2 }
    | event => if state.mailbox.call = .idle then betweenCalls otaEnabled state event else none

def executor (otaEnabled : Bool) : System ExecutorState ExecutorEvent :=
  .ofPartial (fun state => state = ⟨.zero, .initial, false, [], 0, []⟩) (executorNext otaEnabled)

/-- The calls of `executor_abandon`. -/
@[grind]
def CallPoint.abandons : CallPoint → Bool
  | .abandoning _ | .notifyingAbandon => true
  | _ => false

/-- The worker does not free itself while the protocol task is inside `executor_abandon`. -/
def NoReapInAbandon (state : ExecutorState) : ExecutorEvent → Prop
  | .worker .advance =>
    ¬ (state.mailbox.worker = .reaping ∧ state.mailbox.call.abandons = true ∧ state.mailbox.stage = .idle)
  | _ => True

instance (state : ExecutorState) : (event : ExecutorEvent) → Decidable (NoReapInAbandon state event)
  | .worker .advance => inferInstanceAs (Decidable (¬ (_ ∧ _)))
  | .worker .timeout => isTrue trivial
  | .worker (.handler _) => isTrue trivial
  | .worker (.callbacks _) => isTrue trivial
  | .openSession _ => isTrue trivial
  | .reply _ => isTrue trivial
  | .flush => isTrue trivial
  | .dispatch _ => isTrue trivial
  | .endSession => isTrue trivial
  | .deinit => isTrue trivial
  | .queueNext => isTrue trivial
  | .protocol _ => isTrue trivial

@[grind]
def WorkerPoint.runs : WorkerPoint → Bool
  | .checking | .entering | .handling | .settling _ | .cancelling _ _ => true
  | _ => false

@[grind]
def CallPoint.reserves : CallPoint → Bool
  | .ensuring _ | .submitting _ => true
  | _ => false

@[grind]
def CallPoint.drains : CallPoint → Bool
  | .draining | .finishing _ => true
  | _ => false

@[grind]
def CallPoint.notifies : CallPoint → Bool
  | .notifying | .notifyingAbandon => true
  | _ => false

@[grind]
def CallPoint.needsTask : CallPoint → Bool
  | .submitting _ | .notifying | .abandoning _ | .notifyingAbandon | .draining | .finishing _ => true
  | _ => false

@[grind]
def WorkerPoint.cuts : WorkerPoint → Bool
  | .settling cleaned => cleaned
  | .cancelling taken cleaned => taken.abandoned || cleaned
  | _ => false

theorem WorkerPoint.cuts_runs (worker : WorkerPoint) : worker.cuts = true → worker.runs = true := by
  cases worker <;> simp [WorkerPoint.cuts, WorkerPoint.runs]

theorem Stage.exhausted (stage : Stage) : stage = .idle ∨ stage = .queued ∨ stage = .running ∨ stage = .done ∨
    stage = .reserved ∨ stage = .draining := by
  cases stage <;> simp

structure Control (mailbox : Mailbox) : Prop where
  noFault : mailbox.fault = false
  owned : mailbox.work.isSome = mailbox.task
  present : mailbox.worker = .absent ↔ mailbox.task = false
  runs : mailbox.stage = .running ↔ mailbox.worker.runs = true
  reserves : mailbox.stage = .reserved ↔ mailbox.call.reserves = true
  drains : mailbox.stage = .draining ↔ mailbox.call.drains = true
  used : mailbox.stage ≠ .idle → mailbox.stage ≠ .reserved → mailbox.task = true
  needsTask : mailbox.call.needsTask = true → mailbox.task = true
  notifies : mailbox.call = .notifying →
    mailbox.stage ≠ .idle ∧ mailbox.abandoned = false ∧ mailbox.worker.cuts = false
  flagged : mailbox.abandoned = true → mailbox.stage = .queued ∨ mailbox.stage = .running
  noRetry : mailbox.call ≠ .finishing true
  notice : mailbox.stage = .queued →
    mailbox.notified = true ∨ mailbox.worker = .claiming ∨ mailbox.call.notifies = true

theorem reapIdle_control {mailbox : Mailbox} (control : Control mailbox) (point : mailbox.worker = .reaping)
    (allowed : mailbox.stage = .idle → mailbox.call.needsTask = false) : Control (reapIdle mailbox) := by
  cases control
  unfold reapIdle
  split <;> constructor <;> grind -linarith +splitImp

theorem settle_control {mailbox : Mailbox} (control : Control mailbox) (point : mailbox.worker = .settling cleaned) :
    Control (settle mailbox cleaned) := by
  cases control
  unfold settle
  split <;> constructor <;> grind -linarith +splitImp

theorem runCallbacks_control {mailbox : Mailbox} {taken : Taken} (jobCancels : Nat) (control : Control mailbox)
    (point : mailbox.worker = .cancelling taken cleaned) :
    Control (runCallbacks mailbox taken cleaned jobCancels) := by
  cases control
  unfold runCallbacks
  constructor <;> grind -linarith +splitImp

theorem workerStep_control {mailbox : Mailbox} {input : WorkerInput} {result : Mailbox × List Trace}
    (control : Control mailbox) (step : workerStep mailbox input = some result)
    (allowed : mailbox.worker = .reaping → mailbox.stage = .idle → mailbox.call.needsTask = false) :
    Control result.1 := by
  unfold workerStep at step
  split at step
  case h_3 point =>
    cases step
    exact reapIdle_control control point (allowed point)
  case h_8 cleaned point =>
    cases step
    exact settle_control control point
  case h_9 taken cleaned jobCancels point =>
    cases step
    exact runCallbacks_control jobCancels control point
  all_goals
    cases control
    first
      | contradiction
      | (try split at step) <;> cases step <;> constructor <;> grind -linarith +splitImp

structure Slots (mailbox : Mailbox) (runtime : Runtime) : Prop where
  work : ∀ work, mailbox.work = some work → SlotHolds work.txWire
  completion : ∀ frame, mailbox.completion = some frame → (completionReply frame).Fits
  free : mailbox.call = .draining → runtime.txWire = []

theorem decodeCompletion_fits {mailbox : Mailbox} {runtime work : Runtime} (slots : Slots mailbox runtime)
    (owned : mailbox.work = some work) (filled : work.txWire ≠ []) :
    ∃ frame, decodeCompletion mailbox work = some frame ∧ (completionReply frame).Fits := by
  unfold decodeCompletion
  split
  next frame decoded => exact ⟨frame, rfl, slots.completion frame decoded⟩
  rcases slots.work work owned with empty | ⟨sender, reply, fits, wire⟩
  · exact absurd empty filled
  · have decodes := (replyBody_roundTrip sender reply fits).deviceDecodes [0]
    rw [wire, List.length_append, List.length_singleton, Nat.add_sub_cancel, decodes]
    exact ⟨_, rfl, fits.channel, fits.payload⟩

/-- Draining moves on without a retry and touches nothing but the decoded result. -/
theorem drainResult_shape {mailbox : Mailbox} {runtime work : Runtime} (slots : Slots mailbox runtime)
    (point : mailbox.call = .draining) (owned : mailbox.work = some work) :
    ∃ completion, (drainResult mailbox runtime).1 =
        { mailbox with completion := completion, call := .finishing false } ∧
      (∀ frame, completion = some frame → (completionReply frame).Fits) ∧
      ((drainResult mailbox runtime).2.2 = [] ∨
        (drainResult mailbox runtime).2.2 = [.emitted mailbox.answer runtime.sessionId] ∧
          work.sessionId = runtime.sessionId ∧ work.txWire ≠ [] ∧ mailbox.abandoned = false) := by
  simp only [drainResult, owned]
  split
  next live =>
    obtain ⟨frame, decoded, fits⟩ := decodeCompletion_fits slots owned live.2.1
    have queued := queueFrame_empty runtime (completionReply frame) (slots.free point) fits
    rw [decoded]
    dsimp only
    rw [queued, if_pos rfl]
    refine ⟨some frame, rfl, ?_, Or.inr ⟨rfl, live⟩⟩
    intro other same
    cases same
    exact fits
  next => exact ⟨mailbox.completion, rfl, slots.completion, Or.inl rfl⟩

theorem executorEnsure_control {mailbox ready : Mailbox} (control : Control mailbox)
    (point : mailbox.call = .ensuring frame) (ensured : executorEnsure mailbox input = some ready) :
    Control { ready with call := .submitting frame } := by
  cases control
  unfold executorEnsure at ensured
  split at ensured
  · contradiction
  · split at ensured
    · contradiction
    · cases ensured
      constructor <;> grind -linarith +splitImp

theorem executorAbandon_control {mailbox : Mailbox} (session : UInt32) {deinit : Bool} (control : Control mailbox)
    (point : mailbox.call = .abandoning deinit) : Control (executorAbandon mailbox session deinit) := by
  obtain ⟨noFault, owned, present, runs, reserves, drains, used, needsTask, notifies, flagged, noRetry, notice⟩ := control
  have task : mailbox.task = true := needsTask (by rw [point]; rfl)
  rw [task, Option.isSome_iff_exists] at owned
  obtain ⟨work, owned⟩ := owned
  unfold executorAbandon
  split
  · rw [owned]
    constructor <;> grind -linarith +splitImp
  · have stages := mailbox.stage.exhausted
    constructor <;> grind -linarith +splitImp

theorem executorSubmit_control {mailbox : Mailbox} (session : UInt32) (ticket : Nat) (control : Control mailbox)
    (point : mailbox.call = .submitting frame) :
    Control (executorSubmit mailbox session frame ticket) := by
  have cutsRuns := mailbox.worker.cuts_runs
  cases control
  unfold executorSubmit
  constructor <;> grind -linarith +splitImp

theorem cancelWhileBusy_shape (mailbox : Mailbox) (path : DispatchPath) (accepted : Bool) :
    ∃ otaCancel jobCancels systemCancel, cancelWhileBusy mailbox path accepted =
      { mailbox with otaCancel := otaCancel, jobCancels := jobCancels, systemCancel := systemCancel } ∧
        jobCancels ≤ mailbox.jobCancels + 1 := by
  unfold cancelWhileBusy
  split
  · split <;> exact ⟨_, _, _, rfl, by omega⟩
  · split <;> exact ⟨_, _, _, rfl, by omega⟩
  · split <;> exact ⟨_, _, _, rfl, by omega⟩
  · exact ⟨_, _, _, rfl, by omega⟩

theorem callStep_control {mailbox : Mailbox} (control : Control mailbox) (slots : Slots mailbox runtime)
    (step : callStep mailbox runtime ticket input = some result) : Control result.1 := by
  unfold callStep at step
  split at step
  case h_1 => contradiction
  case h_2 path header point =>
    cases step
    obtain ⟨otaCancel, jobCancels, systemCancel, shape, -⟩ := cancelWhileBusy_shape mailbox path input.cancelAccepted
    rw [shape]
    cases control
    constructor <;> grind -linarith +splitImp
  case h_3 frame point =>
    split at step
    next ready ensured =>
      cases step
      exact executorEnsure_control control point ensured
    cases step
    cases control
    constructor <;> grind -linarith +splitImp
  case h_4 frame point =>
    cases step
    exact executorSubmit_control runtime.sessionId ticket control point
  case h_6 deinit point =>
    cases step
    exact executorAbandon_control runtime.sessionId control point
  case h_8 point =>
    cases step
    have owned := control.owned
    rw [control.needsTask (by rw [point]; rfl), Option.isSome_iff_exists] at owned
    obtain ⟨work, owned⟩ := owned
    obtain ⟨completion, shape, -, -⟩ := drainResult_shape slots point owned
    rw [shape]
    cases control
    constructor <;> grind -linarith +splitImp
  all_goals
    cases control
    cases step
    constructor <;> grind -linarith +splitImp [notifyTask, finishDrain]

theorem dispatchStart_control (otaEnabled : Bool) {mailbox : Mailbox} (frame : DecodedFrame) (control : Control mailbox)
    (outside : mailbox.call = .idle) : Control (dispatchStart otaEnabled mailbox frame) := by
  have reserves : dispatchPath otaEnabled (executorBusy mailbox) frame.header = .reserve → mailbox.stage = .idle := by
    unfold dispatchPath executorBusy
    grind
  cases control
  unfold dispatchStart
  split <;> constructor <;> grind -linarith +splitImp

theorem abandonStart_control {mailbox : Mailbox} (deinit : Bool) (control : Control mailbox)
    (outside : mailbox.call = .idle) : Control (abandonStart mailbox deinit).1 := by
  cases control
  unfold abandonStart
  split <;> constructor <;> grind -linarith +splitImp

theorem drainStart_control {mailbox : Mailbox} (runtime : Runtime) (control : Control mailbox)
    (outside : mailbox.call = .idle) : Control (drainStart mailbox runtime) := by
  cases control
  unfold drainStart
  split <;> constructor <;> grind -linarith +splitImp

theorem queueReplies_slot (replies : List Reply) (work : Runtime) (holds : SlotHolds work.txWire) :
    SlotHolds (queueReplies work replies).txWire := by
  induction replies generalizing work with
  | nil => exact holds
  | cons reply replies ih => exact ih _ (queueFrame_slot work reply holds)

theorem workerStep_slots {mailbox : Mailbox} {input : WorkerInput} {result : Mailbox × List Trace}
    (slots : Slots mailbox runtime) (step : workerStep mailbox input = some result) : Slots result.1 runtime := by
  have empty := SlotHolds.empty
  have queued := queueReplies_slot
  obtain ⟨work, completion, free⟩ := slots
  unfold workerStep at step
  split at step
  all_goals first
    | contradiction
    | (try split at step) <;> cases step <;> constructor <;> grind -linarith +splitImp [reapIdle, settle, runCallbacks, Option.map_eq_some_iff]

/-- The slot of a worker that is made ready is as it was, or freshly allocated. -/
theorem executorEnsure_slot {mailbox ready : Mailbox} {work : Runtime}
    (ensured : executorEnsure mailbox input = some ready) (owned : ready.work = some work) :
    mailbox.work = some work ∨ work = .zero := by
  unfold executorEnsure at ensured
  split at ensured
  · contradiction
  split at ensured
  · contradiction
  cases ensured
  cases memory : mailbox.work with
  | none =>
    simp only [memory, Option.getD_none, Option.some.injEq] at owned
    exact Or.inr owned.symm
  | some before =>
    simp only [memory, Option.getD_some] at owned
    exact Or.inl owned

theorem callStep_slots {mailbox : Mailbox} (control : Control mailbox) (slots : Slots mailbox runtime)
    (step : callStep mailbox runtime ticket input = some result) : Slots result.1 result.2.1 := by
  have empty := SlotHolds.empty
  unfold callStep at step
  split at step
  case h_1 => contradiction
  case h_2 path header point =>
    cases step
    obtain ⟨otaCancel, jobCancels, systemCancel, shape, -⟩ := cancelWhileBusy_shape mailbox path input.cancelAccepted
    rw [shape]
    exact ⟨slots.work, slots.completion, fun other => by cases other⟩
  case h_3 frame point =>
    split at step
    next ready ensured =>
      cases step
      have completion : ready.completion = mailbox.completion := by grind [executorEnsure]
      refine ⟨?_, completion ▸ slots.completion, fun other => by cases other⟩
      intro work owned
      rcases executorEnsure_slot ensured owned with kept | allocated
      · exact slots.work work kept
      · exact allocated ▸ SlotHolds.empty
    cases step
    exact ⟨slots.work, slots.completion, fun other => by cases other⟩
  case h_8 point =>
    cases step
    have owned := control.owned
    rw [control.needsTask (by rw [point]; rfl), Option.isSome_iff_exists] at owned
    obtain ⟨work, owned⟩ := owned
    obtain ⟨completion, shape, fits, -⟩ := drainResult_shape slots point owned
    rw [shape]
    exact ⟨slots.work, fits, fun other => by cases other⟩
  all_goals
    obtain ⟨work, completion, free⟩ := slots
    cases step
    constructor <;>
      grind [executorSubmit, executorAbandon, notifyTask, finishDrain, Option.map_eq_some_iff]

theorem dispatchStart_slots (otaEnabled : Bool) {mailbox : Mailbox} (frame : DecodedFrame)
    (slots : Slots mailbox runtime) : Slots (dispatchStart otaEnabled mailbox frame) runtime := by
  obtain ⟨work, completion, free⟩ := slots
  unfold dispatchStart
  split <;> constructor <;> grind -linarith +splitImp

theorem drainStart_slots {mailbox : Mailbox} (slots : Slots mailbox runtime) :
    Slots (drainStart mailbox runtime) runtime := by
  obtain ⟨work, completion, free⟩ := slots
  unfold drainStart
  split <;> constructor <;> grind -linarith +splitImp

def owesCleanup (log : List Trace) : Bool :=
  log.foldl (fun owed event =>
    match event with
    | .ended => true
    | .cleaned => false
    | _ => owed) false

def liveRequest (log : List Trace) : Option (Nat × UInt32) :=
  log.foldl (fun live event =>
    match event with
    | .accepted ticket session => some (ticket, session)
    | .ended => none
    | .emitted _ _ => none
    | _ => live) none

@[grind =]
theorem owesCleanup_snoc (log : List Trace) (event : Trace) :
    owesCleanup (log ++ [event]) =
      match event with
      | .ended => true
      | .cleaned => false
      | _ => owesCleanup log := by
  cases event <;> simp [owesCleanup, List.foldl_append]

@[grind =]
theorem liveRequest_snoc (log : List Trace) (event : Trace) :
    liveRequest (log ++ [event]) =
      match event with
      | .accepted ticket session => some (ticket, session)
      | .ended => none
      | .emitted _ _ => none
      | _ => liveRequest log := by
  cases event <;> simp [liveRequest, List.foldl_append]

@[grind]
def Guaranteed (before : List Trace) : Trace → Prop
  | .accepted ticket _ => (∀ session, .accepted ticket session ∉ before) ∧ owesCleanup before = false
  | .entered ticket => (∃ session, .accepted ticket session ∈ before) ∧ .entered ticket ∉ before
  | .returned ticket => .entered ticket ∈ before
  | .emitted ticket session =>
    liveRequest before = some (ticket, session) ∧ ∀ other, .emitted ticket other ∉ before
  | .ended => True
  | .cleaned => ∀ ticket, .entered ticket ∈ before → .returned ticket ∈ before

/-- Every request runs at most once, every result is sent at most once and within the session
that asked for it, and an ended session is cleaned up after the handler returned and before
another request is taken. -/
inductive Sound : List Trace → Prop
  | nil : Sound []
  | snoc {log : List Trace} {event : Trace} (sound : Sound log) (guaranteed : Guaranteed log event) :
      Sound (log ++ [event])

theorem liveRequest_accepted {log : List Trace} (sound : Sound log) (live : liveRequest log = some (ticket, session)) :
    .accepted ticket session ∈ log := by
  induction sound with
  | nil => contradiction
  | snoc _ _ ih =>
    rw [liveRequest_snoc] at live
    split at live <;> grind

theorem emitted_accepted {log : List Trace} (sound : Sound log) (emitted : .emitted ticket session ∈ log) :
    .accepted ticket session ∈ log := by
  induction sound with
  | nil => contradiction
  | snoc before guaranteed ih =>
    rcases List.mem_append.mp emitted with earlier | last
    · exact List.mem_append_left _ (ih earlier)
    · rw [List.mem_singleton] at last
      subst last
      exact List.mem_append_left _ (liveRequest_accepted before guaranteed.1)

theorem live_not_emitted {log : List Trace} (sound : Sound log) (live : liveRequest log = some (ticket, session))
    (other : UInt32) : .emitted ticket other ∉ log := by
  induction sound with
  | nil => simp
  | snoc before guaranteed ih =>
    intro inside
    have accepted := @emitted_accepted other ticket _ before
    rw [liveRequest_snoc] at live
    split at live <;> grind

@[grind]
def Mailbox.Keeps (mailbox : Mailbox) : Prop :=
  mailbox.abandoned = false ∧ mailbox.worker.cuts = false ∧
    (mailbox.stage = .queued ∨ mailbox.stage = .running ∨ mailbox.stage = .done ∨ mailbox.call = .draining)

@[grind]
def WorkerPoint.settles : WorkerPoint → Bool
  | .settling _ | .cancelling _ _ => true
  | _ => false

@[grind]
def WorkerPoint.cleans : WorkerPoint → Bool
  | .cancelling taken _ => taken.abandoned
  | _ => false

theorem WorkerPoint.settled_runs (worker : WorkerPoint) :
    worker.settles = true ∨ worker.cleans = true → worker.runs = true := by
  cases worker <;> simp [WorkerPoint.settles, WorkerPoint.cleans, WorkerPoint.runs]

structure Ledger (mailbox : Mailbox) (connected : Bool) (issued : Nat) (log : List Trace) : Prop where
  sound : Sound log
  unused : ∀ ticket, issued < ticket ∨ ticket = issued ∧ mailbox.call.reserves = true →
    (∀ session, .accepted ticket session ∉ log) ∧ .entered ticket ∉ log
  bound : mailbox.ticket ≤ issued
  owed : owesCleanup log = true → mailbox.abandoned = true ∨ mailbox.worker.cleans = true
  live : mailbox.Keeps →
    ∃ work, mailbox.work = some work ∧ liveRequest log = some (mailbox.ticket, work.sessionId)
  waiting : mailbox.abandoned = false ∧ (mailbox.stage = .queued ∨ mailbox.worker = .checking) ∨
      mailbox.worker = .entering →
    .entered mailbox.ticket ∉ log ∧ ∃ session, .accepted mailbox.ticket session ∈ log
  handling : mailbox.worker = .handling → .entered mailbox.ticket ∈ log
  answered : mailbox.stage = .done ∨ mailbox.call = .draining ∨
      mailbox.worker.settles = true ∧ mailbox.abandoned = false ∧ mailbox.worker.cuts = false →
    mailbox.answer = mailbox.ticket
  returned : ∀ ticket, .entered ticket ∈ log →
    .returned ticket ∈ log ∨ mailbox.worker = .handling ∧ ticket = mailbox.ticket
  apart : connected = false →
    (mailbox.call = .idle ∨ mailbox.call = .notifyingAbandon) ∧ ¬ mailbox.Keeps ∨
      ∃ deinit, mailbox.call = .abandoning deinit

theorem queueReplies_session (replies : List Reply) (work : Runtime) :
    (queueReplies work replies).sessionId = work.sessionId := by
  induction replies generalizing work with
  | nil => rfl
  | cons reply replies ih =>
    obtain ⟨_, _, _, shape⟩ := queueFrame_shape work reply
    have rest := ih (queueFrame work reply).1
    rw [shape] at rest
    rw [queueReplies, List.foldl_cons, shape]
    exact rest

section worker
variable {mailbox : Mailbox} {connected : Bool} {issued : Nat} {log : List Trace}

theorem reapIdle_ledger (control : Control mailbox) (ledger : Ledger mailbox connected issued log)
    (point : mailbox.worker = .reaping) : Ledger (reapIdle mailbox) connected issued log := by
  cases control
  cases ledger
  unfold reapIdle
  split <;> constructor <;> grind -linarith +splitImp

theorem settle_ledger (control : Control mailbox) (ledger : Ledger mailbox connected issued log)
    (point : mailbox.worker = .settling cleaned) : Ledger (settle mailbox cleaned) connected issued log := by
  cases control
  cases ledger
  unfold settle
  split <;> constructor <;> grind -linarith +splitImp

/-- The pass that cleans up logs it, and the handler has returned by then. -/
theorem runCallbacks_ledger {taken : Taken} (jobCancels : Nat) (control : Control mailbox)
    (ledger : Ledger mailbox connected issued log) (point : mailbox.worker = .cancelling taken cleaned) :
    Ledger (runCallbacks mailbox taken cleaned jobCancels) connected issued
      (log ++ if taken.abandoned then [.cleaned] else []) := by
  cases control
  cases ledger
  unfold runCallbacks
  cases ended : taken.abandoned with
  | false =>
    simp only [Bool.false_eq_true, if_false, List.append_nil]
    constructor <;> grind -linarith +splitImp
  | true =>
    simp only [if_true]
    constructor <;> grind -linarith +splitImp [Sound.snoc]

theorem handler_ledger (replies : List Reply) (control : Control mailbox)
    (ledger : Ledger mailbox connected issued log) (point : mailbox.worker = .handling) :
    Ledger { mailbox with
      work := mailbox.work.map fun work => queueReplies work replies
      answer := mailbox.ticket
      worker := .settling false } connected issued (log ++ [.returned mailbox.ticket]) := by
  have session := queueReplies_session replies
  cases control
  cases ledger
  constructor <;> grind -linarith +splitImp [Sound.snoc]

theorem workerStep_ledger {input : WorkerInput} {result : Mailbox × List Trace} (control : Control mailbox)
    (ledger : Ledger mailbox connected issued log) (step : workerStep mailbox input = some result) :
    Ledger result.1 connected issued (log ++ result.2) := by
  unfold workerStep at step
  split at step
  case h_3 point =>
    cases step
    rw [List.append_nil]
    exact reapIdle_ledger control ledger point
  case h_6 point =>
    cases step
    cases control
    cases ledger
    constructor <;> grind -linarith +splitImp [Sound.snoc]
  case h_7 replies point =>
    cases step
    exact handler_ledger replies control ledger point
  case h_8 cleaned point =>
    cases step
    rw [List.append_nil]
    exact settle_ledger control ledger point
  case h_9 taken cleaned jobCancels point =>
    cases step
    exact runCallbacks_ledger jobCancels control ledger point
  all_goals
    cases control
    cases ledger
    first
      | contradiction
      | ((try split at step) <;> cases step <;> rw [List.append_nil] <;> constructor <;> grind -linarith +splitImp)

end worker

section calls
variable {mailbox : Mailbox} {connected : Bool} {issued : Nat} {log : List Trace}

theorem executorSubmit_ledger (control : Control mailbox) (ledger : Ledger mailbox connected issued log)
    (point : mailbox.call = .submitting frame) :
    Ledger (executorSubmit mailbox session frame issued) connected issued (log ++ [.accepted issued session]) := by
  have cutsRuns := mailbox.worker.cuts_runs
  have settledRuns := mailbox.worker.settled_runs
  obtain ⟨noFault, owned, present, runs, reserves, drains, used, needsTask, notifies, flagged, noRetry, notice⟩ := control
  obtain ⟨sound, unused, bound, owed, live, waiting, handling, answered, returned, apart⟩ := ledger
  have task : mailbox.task = true := needsTask (by rw [point]; rfl)
  rw [task, Option.isSome_iff_exists] at owned
  obtain ⟨work, owned⟩ := owned
  have unusedTicket := unused issued (Or.inr ⟨rfl, by rw [point]; rfl⟩)
  have stage : mailbox.stage = .reserved := reserves.mpr (by rw [point]; rfl)
  have clean : owesCleanup log = false := by grind
  have accepted : Sound (log ++ [.accepted issued session]) := Sound.snoc sound ⟨unusedTicket.1, clean⟩
  unfold executorSubmit
  rw [owned, Option.map_some]
  constructor <;> grind -linarith +splitImp

theorem executorAbandon_ledger {deinit : Bool} (control : Control mailbox)
    (ledger : Ledger mailbox connected issued log) (point : mailbox.call = .abandoning deinit) :
    Ledger (executorAbandon mailbox session deinit) connected issued (log ++ [.ended]) := by
  have stages := mailbox.stage.exhausted
  obtain ⟨noFault, owned, present, runs, reserves, drains, used, needsTask, notifies, flagged, noRetry, notice⟩ := control
  cases ledger
  have task : mailbox.task = true := needsTask (by rw [point]; rfl)
  rw [task, Option.isSome_iff_exists] at owned
  obtain ⟨work, owned⟩ := owned
  unfold executorAbandon
  split
  · rw [owned]
    constructor <;> grind -linarith +splitImp [Sound.snoc]
  · constructor <;> grind -linarith +splitImp [Sound.snoc]

theorem drainResult_ledger (control : Control mailbox) (slots : Slots mailbox runtime)
    (ledger : Ledger mailbox connected issued log) (point : mailbox.call = .draining) :
    Ledger (drainResult mailbox runtime).1 connected issued (log ++ (drainResult mailbox runtime).2.2) := by
  have cutsRuns := mailbox.worker.cuts_runs
  have stage : mailbox.stage = .draining := control.drains.mpr (by rw [point]; rfl)
  have memory := control.owned
  rw [control.needsTask (by rw [point]; rfl), Option.isSome_iff_exists] at memory
  obtain ⟨work, memory⟩ := memory
  obtain ⟨completion, shape, -, sent⟩ := drainResult_shape slots point memory
  rw [shape]
  cases control
  obtain ⟨sound, unused, bound, owed, live, waiting, handling, answered, returned, apart⟩ := ledger
  rcases sent with nothing | ⟨result, sameSession, -, clear⟩
  · rw [nothing, List.append_nil]
    constructor <;> grind -linarith +splitImp
  · have request : liveRequest log = some (mailbox.answer, runtime.sessionId) := by grind
    have unsent := live_not_emitted sound request
    rw [result]
    constructor <;> grind -linarith +splitImp [Sound.snoc]

theorem callStep_ledger (control : Control mailbox) (slots : Slots mailbox runtime)
    (ledger : Ledger mailbox connected issued log) (step : callStep mailbox runtime issued input = some result) :
    Ledger result.1 connected issued (log ++ result.2.2) := by
  unfold callStep at step
  split at step
  case h_1 => contradiction
  case h_2 path header point =>
    cases step
    obtain ⟨otaCancel, jobCancels, systemCancel, shape, -⟩ := cancelWhileBusy_shape mailbox path input.cancelAccepted
    rw [shape, List.append_nil]
    cases ledger
    constructor <;> grind -linarith +splitImp
  case h_3 frame point =>
    have cutsRuns := mailbox.worker.cuts_runs
    cases control
    cases ledger
    split at step
    next ready ensured =>
      cases step
      rw [List.append_nil]
      constructor <;> grind -linarith +splitImp [executorEnsure]
    cases step
    rw [List.append_nil]
    constructor <;> grind -linarith +splitImp
  case h_4 frame point =>
    cases step
    exact executorSubmit_ledger control ledger point
  case h_6 deinit point =>
    cases step
    exact executorAbandon_ledger control ledger point
  case h_8 point =>
    cases step
    exact drainResult_ledger control slots ledger point
  all_goals
    cases control
    cases ledger
    cases step
    rw [List.append_nil]
    constructor <;> grind -linarith +splitImp [notifyTask, finishDrain, Option.map_eq_some_iff]

theorem dispatchStart_ledger (otaEnabled : Bool) (frame : DecodedFrame) (control : Control mailbox)
    (ledger : Ledger mailbox true issued log) (outside : mailbox.call = .idle) :
    Ledger (dispatchStart otaEnabled mailbox frame) true (issued + 1) log := by
  have idle : dispatchPath otaEnabled (executorBusy mailbox) frame.header = .reserve → mailbox.stage = .idle := by
    unfold dispatchPath executorBusy
    grind
  cases control
  cases ledger
  unfold dispatchStart
  split <;> constructor <;> grind -linarith +splitImp

/-- Without a worker nothing was ever left behind, so the cleanup is done on the spot. -/
theorem abandonStart_ledger (deinit : Bool) (control : Control mailbox)
    (ledger : Ledger mailbox connected issued log) (outside : mailbox.call = .idle) :
    Ledger (abandonStart mailbox deinit).1 false issued (log ++ (abandonStart mailbox deinit).2) := by
  have stages := mailbox.stage.exhausted
  obtain ⟨noFault, owned, present, runs, reserves, drains, used, needsTask, notifies, flagged, noRetry, notice⟩ := control
  obtain ⟨sound, unused, bound, owed, live, waiting, handling, answered, returned, apart⟩ := ledger
  unfold abandonStart
  split
  next alone =>
    have split : log ++ [Trace.ended, .cleaned] = (log ++ [.ended]) ++ [.cleaned] := by simp
    rw [split]
    have task : mailbox.task = false := by
      rcases alone with noWork | noTask
      · rw [← owned]
        simpa using noWork
      · exact noTask
    have stage : mailbox.stage = .idle := by grind
    have ended : Sound (log ++ [.ended]) := Sound.snoc sound trivial
    constructor <;> grind -linarith +splitImp [Sound.snoc]
  rw [List.append_nil]
  constructor <;> grind -linarith +splitImp

theorem drainStart_ledger (runtime : Runtime) (control : Control mailbox)
    (ledger : Ledger mailbox true issued log) (outside : mailbox.call = .idle) :
    Ledger (drainStart mailbox runtime) true issued log := by
  have cutsRuns := mailbox.worker.cuts_runs
  cases control
  cases ledger
  unfold drainStart
  split <;> constructor <;> grind -linarith +splitImp

end calls

end EspIris.Device
