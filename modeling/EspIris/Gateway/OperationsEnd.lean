import EspIris.Gateway.OperationsOnce

/-! A row that is not terminal has the task that works on it, in every run in which no such task is
ended from outside before it could write the outcome. -/

namespace EspIris.Gateway.Operations
open Machine
variable {status : OperationState} {after : Manager} {id : String} {changes : Row → Row} {row : Row}

def Manager.closed (manager : Manager) (operationId : String) : Bool :=
  (manager.store operationId).any fun row => row.status.isTerminal

theorem closed_iff {manager : Manager} {id : String} :
    manager.closed id = true ↔ ∃ row, manager.store id = some row ∧ row.status.isTerminal = true := Option.any_eq_true _ _

/-- A task ends outside of what `_run` catches, its row being active. -/
def leavesActive (manager : Manager) : Event → Bool
  | .emitted number true | .cancel number =>
    (manager.tasks number).any fun task => task.phase.early && ! manager.closed task.request.operationId
  | .raised number .operationCancelled | .returned number none =>
    (manager.tasks number).any fun task => ! manager.closed task.request.operationId
  | _ => false

def classifiedApart (manager : Manager) : Event → Bool
  | .raised number .cancelled =>
    (manager.tasks number).any fun task => (manager.store task.request.operationId).any fun row =>
      ! row.status.isTerminal && uncertainWhenCancelled row.action != uncertainWhenRecovered row.action
  | _ => false

theorem uncertain_apart (action : String) : uncertainWhenCancelled action ≠ uncertainWhenRecovered action ↔
    uncertainWhenRecovered action = true ∧
      action ∉ ["firmware.ota", "firmware.system_update", "device.restart", "rpc.raw"] := by
  have begins : ∀ named ∈ ["firmware.ota", "firmware.system_update", "device.restart", "rpc.raw"],
      uncertainWhenRecovered named = true := by decide +kernel
  unfold uncertainWhenCancelled
  by_cases named : action ∈ ["firmware.ota", "firmware.system_update", "device.restart", "rpc.raw"]
  · rw [begins action named]
    simp only [named, decide_true, ne_eq, not_true_eq_false, and_false]
  · simp only [named, decide_false, not_false_eq_true, and_true]
    cases uncertainWhenRecovered action <;> decide

/-- Of the actions of the gateway, those of the remote calls by name. -/
theorem named_rpc_apart {name : String} (named : name ≠ "raw") :
    uncertainWhenCancelled ("rpc." ++ name) ≠ uncertainWhenRecovered ("rpc." ++ name) := by
  refine (uncertain_apart _).mpr ⟨?_, fun listed => ?_⟩
  · unfold uncertainWhenRecovered
    simp [String.startsWith_string_iff]
  · have letters : ∀ action ∈ ["firmware.ota", "firmware.system_update", "device.restart"],
        action.toList.head? ≠ some 'r' := by decide +kernel
    have first : ("rpc." ++ name).toList.head? = some 'r' := by
      rw [String.toList_append]
      rfl
    have apart : "rpc." ++ name ∈ ["firmware.ota", "firmware.system_update", "device.restart"] ++ ["rpc." ++ "raw"] := listed
    rcases List.mem_append.mp apart with other | raw
    · exact letters _ other first
    · exact named ((String.append_right_inj _).mp (List.mem_singleton.mp raw))
def Phase.begun : Phase → Bool
  | .beginning | .calling => true
  | _ => false

structure Settled (manager : Manager) : Prop where
  rows : ∀ id row, manager.store id = some row → row.status.isTerminal = false →
    ∃ number task, manager.tasks number = some task ∧ task.request.operationId = id ∧ task.created ∧ task.phase.working
  begun : ∀ number task, manager.tasks number = some task → task.phase.begun →
    ∃ row, manager.store task.request.operationId = some row ∧ row.status ≠ .queued
  listed : ∀ id pending, manager.pending id = some pending → ∃ row, manager.store id = some row
  flagged : ∀ id pending, manager.pending id = some pending → pending.cancelled → manager.closed id

theorem Row.Kept.active {before after : Row} (kept : before.Kept after) (active : after.status.isTerminal = false) :
    before.status.isTerminal = false := by
  cases terminal : before.status.isTerminal with
  | false => rfl
  | true =>
    rw [kept.terminal terminal, terminal] at active
    contradiction

theorem Follows.closed {before after : Manager} (follows : Follows before after) (closed : before.closed id = true) :
    after.closed id = true := by
  obtain ⟨row, is, terminal⟩ := closed_iff.mp closed
  obtain ⟨now, isNow, kept⟩ := follows.store id row is
  exact closed_iff.mpr ⟨now, isNow, kept.terminal terminal ▸ terminal⟩

/-- A task acts, and when it stops working on its row that is terminal. -/
theorem Settled.acts {before after : Manager} {number : Nat} {task : Task} (settled : Settled before)
    (acts : Acts number before after) (is : before.tasks number = some task)
    (ends : task.phase.working → after.closed task.request.operationId = true ∨
      ∃ now, after.tasks number = some now ∧ now.phase.working)
    (begins : ∀ now, after.tasks number = some now → now.phase.begun →
      ∃ row, after.store task.request.operationId = some row ∧ row.status ≠ .queued) : Settled after where
  rows := by
    intro id now isNow active
    obtain ⟨row, isRow, kept⟩ := acts.row_before isNow
    obtain ⟨owner, works, isOwner, sameId, created, working⟩ := settled.rows id row isRow (kept.active active)
    by_cases same : owner = number
    · subst same
      cases is.symm.trans isOwner
      rcases ends working with closed | ⟨later, isLater, still⟩
      · obtain ⟨other, isOther, terminal⟩ := closed_iff.mp closed
        rw [sameId, isNow] at isOther
        cases isOther
        rw [active] at terminal
        contradiction
      · obtain ⟨old, isOld, goes⟩ := acts.task_before isLater
        cases is.symm.trans isOld
        exact ⟨owner, later, isLater, goes.request ▸ sameId, goes.created.trans created, still⟩
    · exact ⟨owner, works, (acts.others owner same).trans isOwner, sameId, created, working⟩
  begun := by
    intro other now isNow begun
    by_cases same : other = number
    · subst same
      obtain ⟨old, isOld, goes⟩ := acts.task_before isNow
      cases is.symm.trans isOld
      exact goes.request ▸ begins now isNow begun
    · obtain ⟨row, isRow, begunRow⟩ := settled.begun other now ((acts.others other same).symm.trans isNow) begun
      obtain ⟨later, isLater, kept⟩ := acts.store _ row isRow
      exact ⟨later, isLater, kept.begun begunRow⟩
  listed := by
    intro id now isNow
    obtain ⟨old, isOld, _⟩ := acts.pending id now isNow
    obtain ⟨row, isRow⟩ := settled.listed id old isOld
    obtain ⟨later, isLater, _⟩ := acts.store id row isRow
    exact ⟨later, isLater⟩
  flagged := by
    intro id now isNow cancelled
    obtain ⟨old, isOld, same⟩ := acts.pending id now isNow
    exact acts.closed (settled.flagged id old isOld (same ▸ cancelled))

section outcomes
variable {manager : Manager} {number : Nat} {task : Task}

/-- What is refused to a row that has begun is refused because it is terminal. -/
theorem transition_refused (is : manager.store id = some row)
    (begun : row.status ≠ .queued ∨ status ∈ [OperationState.running, .cancelled, .interrupted, .outcomeUnknown])
    (refused : manager.transition id status changes = none) : manager.closed id = true := by
  have none := transition_none is refused
  refine closed_iff.mpr ⟨row, is, ?_⟩
  cases terminal : row.status.isTerminal with
  | true => rfl
  | false =>
    rcases begun with begun | always
    · rw [operationTransition_begun terminal begun] at none
      contradiction
    · rw [operationTransition_gives_up terminal always] at none
      contradiction

theorem run_outcome (is : manager.store task.request.operationId = some row) :
    (manager.run number task).closed task.request.operationId = true ∧
        (∀ now, (manager.run number task).tasks number = some now → now.phase.begun = false) ∨
      ∃ now, (manager.run number task).tasks number = some now ∧ now.phase.working ∧
        ∃ row, (manager.run number task).store task.request.operationId = some row ∧ row.status ≠ .queued := by
  unfold Manager.run
  dsimp only
  split
  next begun goes =>
    obtain ⟨old, _, _, rfl⟩ := transition_some goes
    exact .inr ⟨_, setTask_tasks _, rfl, _, setRow_store _ _, nofun⟩
  next refused =>
    have marked : (manager.markRunning task.request.operationId).store task.request.operationId = some row := by
      rw [markRunning_store, is]
    have closed := transition_refused marked (.inr (by decide)) refused
    refine .inl ⟨?_, fun now isNow => ?_⟩
    · rw [Manager.closed, leave_store]
      exact closed
    · cases (leave_tasks _ _).symm.trans isNow
      rfl

theorem close_outcome {answer : Row → Answer} (is : manager.store task.request.operationId = some row)
    (begun : row.status ≠ .queued) (terminal : status.isTerminal = true) :
    (manager.close number task status changes answer).closed task.request.operationId = true ∧
      ∀ now, (manager.close number task status changes answer).tasks number = some now → now.phase.begun = false := by
  unfold Manager.close
  split
  next closed goes =>
    obtain ⟨old, _, _, rfl⟩ := transition_some goes
    rw [setRow_store]
    refine ⟨closed_iff.mpr ⟨_, setRow_store _ _, terminal⟩, fun now isNow => ?_⟩
    cases (setTask_tasks _).symm.trans isNow
    rfl
  next refused =>
    have closed := transition_refused is (.inl begun) refused
    refine ⟨?_, fun now isNow => ?_⟩
    · rw [Manager.closed, leave_store]
      exact closed
    · cases (leave_tasks _ _).symm.trans isNow
      rfl

end outcomes

section events
variable {manager : Manager} {number : Nat} {task : Task}

section settled
variable (settled : Settled manager)
include settled

theorem Settled.finish (is : manager.tasks number = some task)
    (ended : task.phase.working → manager.closed task.request.operationId = true) (answer : Answer) :
    Settled (manager.finish number task answer) := by
  have acts := Acts.finish is answer
  refine settled.acts acts is (fun working => .inl (acts.closed (ended working))) fun now isNow begun => ?_
  cases (finish_tasks answer).symm.trans isNow
  contradiction

theorem Settled.leave (is : manager.tasks number = some task)
    (ended : task.phase.working → manager.closed task.request.operationId = true) (holds : Bool) (answer : Answer) :
    Settled (manager.leave number task holds answer) := by
  have acts := Acts.leave is holds answer
  refine settled.acts acts is (fun working => .inl (acts.closed (ended working))) fun now isNow begun => ?_
  cases (leave_tasks holds answer).symm.trans isNow
  contradiction

theorem Settled.run (owned : Owned manager) (is : manager.tasks number = some task) (early : task.phase.early) :
    Settled (manager.run number task) := by
  obtain ⟨row, isRow⟩ := owned.stored number task is (owned.inside number task is (Phase.early_inside early).1)
  have acts := run_acts is early
  rcases run_outcome isRow with ⟨closed, idle⟩ | ⟨now, isNow, working, begun⟩
  · refine settled.acts acts is (fun _ => .inl closed) fun now isNow begun => ?_
    rw [idle now isNow] at begun
    contradiction
  · exact settled.acts acts is (fun _ => .inr ⟨now, isNow, working⟩) fun _ _ _ => begun

theorem Settled.sameRows (store : after.store = manager.store) (tasks : after.tasks = manager.tasks)
    (pending : after.pending = manager.pending) : Settled after := by
  cases after
  subst store tasks pending
  exact { settled with }

theorem Settled.grant (owned : Owned manager) (is : manager.tasks number = some task) (early : task.phase.early) :
    Settled (manager.grant number task) := by
  unfold Manager.grant
  dsimp only
  split
  next cancelled =>
    obtain ⟨pending, isPending, flag⟩ := (Option.any_eq_true _ _).mp cancelled
    have closed := settled.flagged task.request.operationId pending isPending flag
    refine Settled.leave ?_ ?_ (fun _ => ?_) _ _
    · exact settled.sameRows rfl rfl rfl
    · exact is
    · exact closed
  refine Settled.run ?_ ?_ is early
  · exact settled.sameRows rfl rfl rfl
  · exact owned.same rfl rfl rfl

theorem Settled.close (is : manager.tasks number = some task) (calling : task.phase = .calling)
    (terminal : status.isTerminal = true) (keeps : KeepsRequest changes) (answer : Row → Answer) :
    Settled (manager.close number task status changes answer) := by
  have begins : status ≠ .queued := by
    rintro rfl
    contradiction
  obtain ⟨row, isRow, begun⟩ := settled.begun number task is (calling ▸ rfl)
  obtain ⟨closed, idle⟩ := close_outcome isRow begun terminal
  refine settled.acts (close_acts is calling begins keeps answer) is (fun _ => .inl closed) fun now isNow begun => ?_
  rw [idle now isNow] at begun
  contradiction

end settled

theorem interruptedStatus_terminal (uncertain : Bool) : (interruptedStatus uncertain).isTerminal = true := by
  cases uncertain <;> rfl

theorem Settled.callRaised (settled : Settled manager) (is : manager.tasks number = some task)
    (calling : task.phase = .calling) {exception : CallRaised}
    (allowed : leavesActive manager (.raised number exception) = false) :
    Settled (manager.callRaised number task exception) := by
  cases exception with
  | cancelled =>
    refine settled.close is calling (interruptedStatus_terminal _) ?_ _
    exact fun row => ⟨rfl, rfl⟩
  | operationCancelled =>
    refine settled.leave is (fun _ => ?_) _ _
    simpa only [leavesActive, is, Option.any_some, Bool.not_eq_false'] using allowed
  | outcomeUnknown message =>
    refine settled.close is calling ?_ ?_ _
    · rfl
    · exact fun row => ⟨rfl, rfl⟩
  | failed message =>
    refine settled.close is calling ?_ ?_ _
    · rfl
    · exact fun row => ⟨rfl, rfl⟩

theorem stage_tasks (id : String) (status : OperationState) (permille : Option Nat) :
    (manager.stage id status permille).tasks = manager.tasks := by
  have kept (changes : Row → Row) : ((manager.transition id status changes).getD manager).tasks = manager.tasks := by
    cases goes : manager.transition id status changes with
    | none => rfl
    | some after => exact transition_tasks goes
  cases permille with
  | none => exact kept _
  | some permille => exact kept _

theorem Settled.stage (settled : Settled manager) (is : manager.tasks number = some task)
    (calling : task.phase = .calling) (id : String) (listed : status ∈ stageStatuses) (permille : Option Nat) :
    Settled (manager.stage id status permille) := by
  have acts : Acts number manager (manager.stage id status permille) := stage_acts number id listed permille
  have same : (manager.stage id status permille).tasks number = some task := (congrFun (stage_tasks id status permille) number).trans is
  obtain ⟨row, isRow, begun⟩ := settled.begun number task is (calling ▸ rfl)
  obtain ⟨now, isNow, kept⟩ := acts.store _ row isRow
  exact settled.acts acts is (fun working => .inr ⟨task, same, working⟩) fun _ _ _ => ⟨now, isNow, kept.begun begun⟩

theorem Settled.announced (settled : Settled manager) (is : manager.tasks number = some task)
    (announcing : task.phase = .announcing) : Settled (manager.setTask number { task with phase := .locking }) := by
  have inside : task.phase.inside := announcing ▸ rfl
  have acts : Acts number manager (manager.setTask number { task with phase := .locking }) :=
    .setTask is (.moves inside rfl (fun _ => announcing ▸ rfl) fun _ => announcing ▸ rfl)
  refine settled.acts acts is (fun _ => .inr ⟨_, setTask_tasks _, rfl⟩) fun now isNow begun => ?_
  cases (setTask_tasks _).symm.trans isNow
  contradiction

theorem Settled.startCall (settled : Settled manager) (is : manager.tasks number = some task)
    (beginning : task.phase = .beginning) : Settled (manager.startCall number task) := by
  have inside : task.phase.inside := beginning ▸ rfl
  have acts : Acts number manager (manager.setTask number { task with phase := .calling }) :=
    .setTask is (.moves inside rfl nofun fun _ => beginning ▸ rfl)
  have calling : Settled (manager.setTask number { task with phase := .calling }) := by
    refine settled.acts acts is (fun _ => .inr ⟨_, setTask_tasks _, rfl⟩) fun _ _ _ => ?_
    exact settled.begun number task is (beginning ▸ rfl)
  exact calling.sameRows rfl rfl rfl

theorem early_closed (is : manager.tasks number = some task) (early : task.phase.early)
    (allowed : (manager.tasks number).any (fun task => task.phase.early && ! manager.closed task.request.operationId) = false) :
    manager.closed task.request.operationId = true := by
  simpa only [is, Option.any_some, early, Bool.true_and, Bool.not_eq_false'] using allowed

section settled
variable (settled : Settled manager)
include settled

theorem Settled.emitted (owned : Owned manager) (is : manager.tasks number = some task) {raises : Bool}
    (emits : manager.emitted number task raises = some after)
    (allowed : leavesActive manager (.emitted number raises) = false) : Settled after := by
  unfold Manager.emitted at emits
  split at emits
  next announcing =>
    have early : task.phase.early := announcing ▸ rfl
    split at emits
    next raised =>
      subst raised
      cases emits
      exact settled.finish is (fun _ => early_closed is early allowed) _
    split at emits
    · cases emits
      exact settled.announced is announcing
    · cases emits
      exact settled.run owned is early
  next beginning =>
    have early : task.phase.early := beginning ▸ rfl
    split at emits
    next raised =>
      subst raised
      cases emits
      exact settled.leave is (fun _ => early_closed is early allowed) _ _
    cases emits
    exact settled.startCall is beginning
  next answer closing =>
    cases emits
    refine settled.leave is (fun working => ?_) _ _
    rw [closing] at working
    contradiction
  next => contradiction

theorem Settled.cancelTask (is : manager.tasks number = some task)
    (allowed : leavesActive manager (.cancel number) = false) : Settled (manager.cancelTask number task) := by
  have flagged (starting : task.phase.begun = false) :
      Settled (manager.setTask number { task with cancelled := true }) := by
    have acts : Acts number manager (manager.setTask number { task with cancelled := true }) :=
      .setTask is ⟨rfl, rfl, rfl, .inl rfl⟩
    refine settled.acts acts is (fun working => .inr ⟨_, setTask_tasks _, working⟩) fun now isNow begun => ?_
    cases (setTask_tasks _).symm.trans isNow
    rw [starting] at begun
    contradiction
  unfold Manager.cancelTask
  split
  next first => exact flagged (first ▸ rfl)
  next again => exact flagged (again ▸ rfl)
  next slept => exact flagged (slept ▸ rfl)
  next announcing => exact settled.finish is (fun _ => early_closed is (announcing ▸ rfl) allowed) _
  next locking => exact settled.leave is (fun _ => early_closed is (locking ▸ rfl) allowed) _ _
  next beginning => exact settled.leave is (fun _ => early_closed is (beginning ▸ rfl) allowed) _ _
  next closing =>
    refine settled.leave is (fun working => ?_) _ _
    rw [closing] at working
    contradiction
  next => exact settled
  next => exact settled

theorem cancelQueued_closed (rounds : manager.cancelQueued id = some after)
    : after.closed id = true ∧ after.tasks = manager.tasks ∧
      ∀ other, other ≠ id → after.pending other = manager.pending other := by
  unfold Manager.cancelQueued at rounds
  split at rounds
  next => contradiction
  next pending listed =>
    split at rounds
    next => contradiction
    dsimp only at rounds
    obtain ⟨row, isRow⟩ := settled.listed id pending listed
    rw [Option.some.injEq] at rounds
    cases goes : (manager.setPending id { pending with cancelled := true }).transition id .cancelled fun row =>
        { row with error := some "cancelled when gateway entered observe mode" } with
    | some closed =>
      rw [goes] at rounds
      cases rounds
      obtain ⟨old, _, _, rfl⟩ := transition_some goes
      exact ⟨closed_iff.mpr ⟨_, setRow_store _ _, rfl⟩, rfl, fun other different => if_neg different⟩
    | none =>
      rw [goes] at rounds
      cases rounds
      refine ⟨transition_refused isRow (.inr (by decide)) goes, rfl, fun other different => if_neg different⟩

theorem Settled.cancelQueued (rounds : manager.cancelQueued id = some after) :
    Settled after := by
  have follows := cancelQueued_follows rounds
  obtain ⟨closed, tasks, others⟩ := cancelQueued_closed settled rounds
  constructor
  · intro other now isNow active
    obtain ⟨row, isRow, kept⟩ := follows.row_before isNow
    rw [tasks]
    exact settled.rows other row isRow (kept.active active)
  · intro number task is begun
    rw [tasks] at is
    obtain ⟨row, isRow, begunRow⟩ := settled.begun number task is begun
    obtain ⟨now, isNow, kept⟩ := follows.store _ row isRow
    exact ⟨now, isNow, kept.begun begunRow⟩
  · intro other pending is
    by_cases same : other = id
    · subst same
      obtain ⟨row, isRow, _⟩ := closed_iff.mp closed
      exact ⟨row, isRow⟩
    · rw [others other same] at is
      obtain ⟨row, isRow⟩ := settled.listed other pending is
      obtain ⟨now, isNow, _⟩ := follows.store other row isRow
      exact ⟨now, isNow⟩
  · intro other pending is cancelled
    by_cases same : other = id
    · exact same ▸ closed
    · rw [others other same] at is
      exact follows.closed (settled.flagged other pending is cancelled)

/-- A task that owns no row gets another phase, or a new task is created. -/
theorem Settled.setTask (before : ∀ old, manager.tasks number = some old → old.phase.working = false)
    (idle : task.phase.begun = false) :
    Settled (manager.setTask number task) := by
  refine { settled with rows := ?_, begun := ?_ }
  · intro id row is active
    obtain ⟨owner, works, isOwner, sameId, created, working⟩ := settled.rows id row is active
    refine ⟨owner, works, (setTask_other ?_ task).trans isOwner, sameId, created, working⟩
    rintro rfl
    rw [before works isOwner] at working
    contradiction
  · intro other now isNow begun
    by_cases same : other = number
    · subst same
      cases (setTask_tasks task).symm.trans isNow
      rw [idle] at begun
      contradiction
    · exact settled.begun other now ((setTask_other same task).symm.trans isNow) begun

theorem Settled.schedule {busy : Option Nat} (scheduled : Scheduled busy manager) (kind : Kind) (request : Request) :
    Settled (manager.schedule kind request) := by
  have added : Settled (manager.setTask manager.started ⟨kind, request, .starting, false, false⟩) := by
    refine settled.setTask (fun old is => ?_) rfl
    exact absurd (scheduled.numbered _ old is) (Nat.lt_irrefl _)
  exact added.sameRows rfl rfl rfl

theorem Settled.sleep {phase : Phase} {background : Nat} (is : manager.tasks number = some task)
    (outside : task.phase.working = false) (waits : phase.waits = some background) :
    Settled (manager.sleep number task phase) := by
  have asleep : Settled (manager.setTask number { task with phase := phase }) := by
    refine settled.setTask (fun old isOld => ?_) ?_
    · cases is.symm.trans isOld
      exact outside
    · cases phase <;> first | rfl | contradiction
  exact asleep.sameRows rfl rfl rfl

theorem Settled.create {print : String} (is : manager.tasks number = some task) (outside : task.phase.working = false)
    (absent : manager.store task.request.operationId = none) :
    Settled (manager.create number task print) := by
  have itself : (manager.create number task print).tasks number = some { task with phase := .announcing, created := true } :=
    setTask_tasks _
  have stored {id : String} {row : Row} (isRow : manager.store id = some row) :
      id ≠ task.request.operationId ∧ (manager.create number task print).store id = some row := by
    have different : id ≠ task.request.operationId := by
      rintro rfl
      exact absurd (isRow.symm.trans absent) nofun
    exact ⟨different, (setRow_other different _).trans isRow⟩
  constructor
  · intro id row isRow active
    by_cases same : id = task.request.operationId
    · exact ⟨number, _, itself, same.symm, rfl, rfl⟩
    · obtain ⟨owner, works, isOwner, sameId, created, working⟩ :=
        settled.rows id row ((setRow_other same _).symm.trans isRow) active
      refine ⟨owner, works, (setTask_other ?_ _).trans isOwner, sameId, created, working⟩
      rintro rfl
      cases is.symm.trans isOwner
      rw [outside] at working
      contradiction
  · intro other now isNow begun
    by_cases same : other = number
    · subst same
      cases itself.symm.trans isNow
      contradiction
    · obtain ⟨row, isRow, begunRow⟩ := settled.begun other now ((setTask_other same _).symm.trans isNow) begun
      exact ⟨row, (stored isRow).2, begunRow⟩
  · intro id pending isPending
    by_cases same : id = task.request.operationId
    · subst same
      exact ⟨_, setRow_store _ _⟩
    · obtain ⟨row, isRow⟩ := settled.listed id pending ((if_neg same).symm.trans isPending)
      exact ⟨row, (stored isRow).2⟩
  · intro id pending isPending cancelled
    by_cases same : id = task.request.operationId
    · subst same
      cases (if_pos rfl).symm.trans isPending
      contradiction
    · obtain ⟨row, isRow, terminal⟩ := closed_iff.mp (settled.flagged id pending ((if_neg same).symm.trans isPending) cancelled)
      exact closed_iff.mpr ⟨row, (stored isRow).2, terminal⟩

end settled

theorem Phase.working_inside {phase : Phase} (outside : phase.inside = false) : phase.working = false := by
  cases phase <;> first | rfl | contradiction

theorem Settled.taskTurn (settled : Settled manager) (scheduled : Scheduled (some number) manager)
    (is : manager.tasks number = some task) (turn : TaskTurn manager number task after) : Settled after := by
  cases turn with
  | ends outside answer =>
    refine settled.finish is (fun working => ?_) answer
    rw [Phase.working_inside outside] at working
    contradiction
  | waits client first held => exact settled.sleep is (first ▸ rfl) rfl
  | waitsOn again => exact settled.sleep is (again ▸ rfl) rfl
  | leaves client first =>
    have added : Settled { manager.schedule .background task.request with
        submissionIds := fun id =>
          if id = task.request.operationId then some manager.started
          else (manager.schedule .background task.request).submissionIds id } :=
      (settled.schedule scheduled .background task.request).sameRows rfl rfl rfl
    have there : (manager.schedule .background task.request).tasks number = some task :=
      (setTask_other (Nat.ne_of_lt (scheduled.numbered number task is)) _).trans is
    exact added.sleep there (first ▸ rfl) rfl
  | creates print first absent => exact settled.create is (first ▸ rfl) absent

end events

theorem recoverRow_terminal (row : Row) : (recoverRow row).status.isTerminal = true := by
  unfold recoverRow
  split
  next terminal => exact terminal
  next => exact interruptedStatus_terminal _

/-- After the recovery of its rows the gateway has none that is active. -/
theorem Settled.recovered {manager : Manager} {store : String → Option Row}
    (rows : manager.store = fun id => (store id).map recoverRow) (tasks : ∀ number, manager.tasks number = none)
    (pending : ∀ id, manager.pending id = none) : Settled manager := by
  constructor
  · intro id row is active
    rw [rows] at is
    obtain ⟨old, _, rfl⟩ := Option.map_eq_some_iff.mp is
    rw [recoverRow_terminal] at active
    contradiction
  · intro number task is
    rw [tasks] at is
    contradiction
  · intro id now is
    rw [pending] at is
    contradiction
  · intro id now is
    rw [pending] at is
    contradiction

/-- A device call that is cancelled leaves its row as the restart would. -/
theorem cancelled_classified {manager : Manager} {number : Nat} {task : Task} (is : manager.tasks number = some task)
    (isRow : manager.store task.request.operationId = some row)
    (allowed : classifiedApart manager (.raised number .cancelled) = false) :
    ∃ now, (manager.callRaised number task .cancelled).store task.request.operationId = some now ∧
      now.status = (recoverRow row).status := by
  have alike : row.status.isTerminal = false → uncertainWhenCancelled row.action = uncertainWhenRecovered row.action := by
    intro active
    simp only [classifiedApart, is, isRow, Option.any_some, active] at allowed
    simpa only [Bool.not_false, Bool.true_and, bne_eq_false_iff_eq] using allowed
  simp only [Manager.callRaised, isRow, Option.any_some]
  unfold Manager.close
  split
  next closed goes =>
    obtain ⟨old, isOld, active, rfl⟩ := transition_some goes
    cases isRow.symm.trans isOld
    rw [setRow_store]
    refine ⟨_, setRow_store _ _, ?_⟩
    rw [recoverRow, if_neg (by rw [active]; decide), alike active]
  next refused =>
    refine ⟨row, by rw [leave_store, isRow], ?_⟩
    have always : interruptedStatus (uncertainWhenCancelled row.action) ∈
        [OperationState.running, .cancelled, .interrupted, .outcomeUnknown] := by
      cases uncertainWhenCancelled row.action <;> decide
    obtain ⟨same, isSame, terminal⟩ := closed_iff.mp (transition_refused isRow (.inr always) refused)
    cases isRow.symm.trans isSame
    rw [recoverRow, if_pos terminal]

section invariant
variable (fingerprint : Request → Option String)

/-- Every task that put a row into the store is left to write its outcome, and a cancelled device
call is classified as the restart would. -/
def WritesOutcome (manager : Manager) (event : Event) : Prop :=
  leavesActive manager event = false ∧ classifiedApart manager event = false

instance (manager : Manager) (event : Event) : Decidable (WritesOutcome manager event) :=
  inferInstanceAs (Decidable (_ ∧ _))

theorem managerNext_settled {before after : Manager} {event : Event} (scheduled : Scheduled none before)
    (owned : Owned before) (settled : Settled before) (allowed : leavesActive before event = false)
    (step : managerNext fingerprint before event = some after) : Settled after := by
  cases event with
  | request kind request =>
    rw [managerNext, Option.ite_none_left_eq_some] at step
    obtain ⟨_, step⟩ := step
    cases step
    exact settled.schedule scheduled kind request
  | turn =>
    rcases turn_cases fingerprint step with ⟨id, rest, head, rfl⟩ | ⟨number, task, rest, head, is, turn⟩
    · exact settled.sameRows rfl rfl rfl
    · have popped : Settled { before with ready := rest } := settled.sameRows rfl rfl rfl
      exact popped.taskTurn (scheduled.pop head) is turn
  | emitted number raises =>
    obtain ⟨task, is, emits⟩ := Option.bind_eq_some_iff.mp step
    exact settled.emitted owned is emits allowed
  | granted number =>
    obtain ⟨task, is, grants⟩ := Option.bind_eq_some_iff.mp step
    rw [Option.ite_none_right_eq_some] at grants
    obtain ⟨⟨locking, _⟩, grants⟩ := grants
    cases grants
    exact settled.grant owned is (locking ▸ rfl)
  | staged number status permille =>
    obtain ⟨task, is, stages⟩ := Option.bind_eq_some_iff.mp step
    rw [Option.ite_none_right_eq_some] at stages
    obtain ⟨⟨calling, listed⟩, stages⟩ := stages
    cases stages
    exact settled.stage is calling _ listed permille
  | returned number summary =>
    obtain ⟨task, is, returns⟩ := Option.bind_eq_some_iff.mp step
    rw [Option.ite_none_right_eq_some] at returns
    obtain ⟨calling, returns⟩ := returns
    cases summary with
    | some summary =>
      cases returns
      refine settled.close is calling ?_ ?_ _
      · rfl
      · exact fun row => ⟨rfl, rfl⟩
    | none =>
      cases returns
      refine settled.leave is (fun _ => ?_) _ _
      simpa only [leavesActive, is, Option.any_some, Bool.not_eq_false'] using allowed
  | raised number exception =>
    obtain ⟨task, is, raises⟩ := Option.bind_eq_some_iff.mp step
    rw [Option.ite_none_right_eq_some] at raises
    obtain ⟨calling, raises⟩ := raises
    cases raises
    exact settled.callRaised is calling allowed
  | cancel number =>
    obtain ⟨task, is, rfl⟩ := Option.map_eq_some_iff.mp step
    exact settled.cancelTask is allowed
  | cancelQueued id => exact settled.cancelQueued step
  | reserve device =>
    rw [managerNext, Option.ite_none_left_eq_some] at step
    obtain ⟨_, step⟩ := step
    cases step
    exact settled.sameRows rfl rfl rfl
  | acquire device =>
    rw [managerNext, Option.ite_none_right_eq_some] at step
    obtain ⟨_, step⟩ := step
    cases step
    exact settled.sameRows rfl rfl rfl
  | giveUp device =>
    rw [managerNext, Option.ite_none_right_eq_some] at step
    obtain ⟨_, step⟩ := step
    cases step
    exact settled.sameRows rfl rfl rfl
  | release device =>
    cases step
    exact settled.sameRows rfl rfl rfl
  | restart reserved =>
    cases step
    exact .recovered rfl (fun _ => rfl) fun _ => rfl

def writingOperations : System Manager Event := (operationManager fingerprint).guarded WritesOutcome

structure Sound (manager : Manager) : Prop where
  scheduled : Scheduled none manager
  owned : Owned manager
  settled : Settled manager

theorem sound_invariant : Invariant (writingOperations fingerprint) Sound where
  start := by
    rintro _ ⟨store, reserved, rfl⟩
    refine ⟨?_, ?_, .recovered rfl (fun _ => rfl) fun _ => rfl⟩
    · exact (scheduled_invariant fingerprint).start _ ⟨store, reserved, rfl⟩
    · exact (owned_invariant fingerprint).start _ ⟨store, reserved, rfl⟩
  step := by
    intro before event after sound ⟨allowed, step⟩
    refine ⟨?_, ?_, managerNext_settled fingerprint sound.scheduled sound.owned sound.settled allowed.1 step⟩
    · exact (scheduled_invariant fingerprint).step _ event _ sound.scheduled step
    · exact (owned_invariant fingerprint).step _ event _ sound.owned step

end invariant

section endings
variable (sha256 : List UInt8 → String) (dumps : JsonText.Json → Option (List UInt8))

/-- While every outcome is written, a task that put a row into the store and is over left it
terminal, every row that is still active has its task, a terminal status stays in every run, and a
cancelled device call leaves the status that the restart would. -/
theorem operations_end_terminal {manager : Manager}
    (reached : Reachable (writingOperations (requestFingerprint sha256 dumps)) manager) :
    (∀ number task, manager.tasks number = some task → task.created → task.phase.over →
      ∃ row, manager.store task.request.operationId = some row ∧ row.status.isTerminal) ∧
    (∀ id row, manager.store id = some row → row.status.isTerminal = false →
      ∃ number task, manager.tasks number = some task ∧ task.request.operationId = id ∧ task.created ∧
        task.phase.over = false) ∧
    (∀ events later, Run (gatewayOperations sha256 dumps) manager events later →
      ∀ id row, manager.store id = some row → row.status.isTerminal →
        ∃ now, later.store id = some now ∧ now.status = row.status) ∧
    ∀ number after, (writingOperations (requestFingerprint sha256 dumps)).step manager (.raised number .cancelled) after →
      ∀ task row, manager.tasks number = some task → manager.store task.request.operationId = some row →
        ∃ now, after.store task.request.operationId = some now ∧ now.status = (recoverRow row).status := by
  have sound := (sound_invariant (requestFingerprint sha256 dumps)).reachable reached
  refine ⟨fun number task is created isOver => ?_, fun id row is active => ?_, ?_, ?_⟩
  · obtain ⟨row, isRow⟩ := sound.owned.stored number task is created
    refine ⟨row, isRow, ?_⟩
    cases terminal : row.status.isTerminal with
    | true => rfl
    | false =>
      obtain ⟨owner, works, isOwner, sameId, owns, working⟩ := sound.settled.rows _ row isRow terminal
      cases sound.owned.alone owner number works task isOwner is owns created sameId
      cases is.symm.trans isOwner
      cases phase : task.phase <;> rw [phase] at isOver working <;> contradiction
  · obtain ⟨owner, works, isOwner, sameId, owns, working⟩ := sound.settled.rows id row is active
    refine ⟨owner, works, isOwner, sameId, owns, ?_⟩
    cases phase : works.phase <;> first | rfl | (rw [phase] at working; contradiction)
  · intro events later run id row is terminal
    obtain ⟨now, isNow, kept⟩ := run_rows (requestFingerprint sha256 dumps) run is
    exact ⟨now, isNow, kept.terminal terminal⟩
  · intro number after ⟨allowed, step⟩ task row is isRow
    obtain ⟨same, isSame, raises⟩ := Option.bind_eq_some_iff.mp step
    cases is.symm.trans isSame
    rw [Option.ite_none_right_eq_some] at raises
    obtain ⟨_, raises⟩ := raises
    cases raises
    exact cancelled_classified is isRow allowed.2

end endings

def restartCancelled : List Event :=
  restartStored ++ [.emitted 0 false, .granted 0, .emitted 0 false, .raised 0 .cancelled, .emitted 0 false]

theorem operations_end_terminal_restart : ∃ manager task row,
    Reachable (writingOperations (requestFingerprint restartDigest restartText)) manager ∧ manager.tasks 0 = some task ∧
      task.phase.over ∧ manager.store task.request.operationId = some row ∧ row.status.isTerminal := by
  obtain ⟨manager, run, check⟩ : ∃ manager, Run (writingOperations (requestFingerprint restartDigest restartText))
      (Manager.initial (fun _ => none) []) restartCancelled manager ∧
      (manager.tasks 0).any (fun task => task.created && task.phase.over) = true := Run.of_guarded_check (by decide +kernel)
  obtain ⟨task, is, isOver⟩ := (Option.any_eq_true _ _).mp check
  rw [Bool.and_eq_true] at isOver
  have reached : Reachable (writingOperations (requestFingerprint restartDigest restartText)) manager :=
    ⟨_, restartCancelled, ⟨_, [], rfl⟩, run⟩
  obtain ⟨row, isRow, terminal⟩ := (operations_end_terminal restartDigest restartText reached).1 0 task is isOver.1 isOver.2
  exact ⟨manager, task, row, reached, is, isOver.2, isRow, terminal⟩

/-- The sink raises at the first event of an operation: its task is over and its row stays queued. -/
theorem row_left_queued : ∃ manager task row,
    Reachable (gatewayOperations restartDigest restartText) manager ∧ manager.tasks 0 = some task ∧ task.created ∧
      task.phase.over ∧ manager.store task.request.operationId = some row ∧ row.status.isTerminal = false := by
  obtain ⟨manager, run, check⟩ : ∃ manager, Run (gatewayOperations restartDigest restartText)
      (Manager.initial (fun _ => none) []) (restartStored ++ [.emitted 0 true]) manager ∧
      (manager.tasks 0).any (fun task => task.created && task.phase.over &&
        (manager.store task.request.operationId).any fun row => ! row.status.isTerminal) = true :=
    Run.of_check (by decide +kernel)
  obtain ⟨task, is, both⟩ := (Option.any_eq_true _ _).mp check
  simp only [Bool.and_eq_true, Option.any_eq_true, Bool.not_eq_true'] at both
  obtain ⟨⟨created, isOver⟩, row, isRow, active⟩ := both
  exact ⟨manager, task, row, ⟨_, _, ⟨_, [], rfl⟩, run⟩, is, created, isOver, isRow, active⟩

end EspIris.Gateway.Operations
