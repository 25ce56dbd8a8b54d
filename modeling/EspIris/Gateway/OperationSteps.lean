import EspIris.Gateway.Operations

/-! What one event can do to the operations. Outside of a task's first turn, rows and tasks only go
on as they are; the device is called in one place. -/

namespace EspIris.Gateway.Operations
open Machine
variable {status : OperationState} {changes : Row → Row} {id : String} {before after : Manager}

def Phase.inside : Phase → Bool
  | .announcing | .locking | .beginning | .calling | .closing _ => true
  | _ => false

def Phase.early : Phase → Bool
  | .announcing | .locking | .beginning => true
  | _ => false

def Phase.working : Phase → Bool
  | .announcing | .locking | .beginning | .calling => true
  | _ => false

def Phase.over : Phase → Bool
  | .done _ => true
  | _ => false

/-- The background task that `submit` waits for. -/
def Phase.waits : Phase → Option Nat
  | .polling _ background | .submitted background => some background
  | _ => none

structure Row.Kept (before after : Row) : Prop where
  fingerprint : after.requestFingerprint = before.requestFingerprint
  action : after.action = before.action
  terminal : before.status.isTerminal → after.status = before.status
  begun : before.status ≠ .queued → after.status ≠ .queued

theorem Row.Kept.refl (row : Row) : row.Kept row := ⟨rfl, rfl, fun _ => rfl, fun begun => begun⟩

theorem Row.Kept.trans {first middle last : Row} (left : first.Kept middle) (right : middle.Kept last) :
    first.Kept last where
  fingerprint := right.fingerprint.trans left.fingerprint
  action := right.action.trans left.action
  terminal := by
    intro terminal
    have same := left.terminal terminal
    rw [right.terminal (same ▸ terminal), same]
  begun := fun begun => right.begun (left.begun begun)

theorem recoverRow_kept (row : Row) : row.Kept (recoverRow row) := by
  unfold recoverRow interruptedStatus
  split
  · exact .refl row
  next active =>
    refine ⟨rfl, rfl, fun terminal => absurd terminal active, fun _ => ?_⟩
    dsimp only
    split <;> decide

def Phase.Follows (old new : Phase) : Prop :=
  new = old ∨ new.over ∨ (old.inside ∧ new.inside ∧ (new.early → old.early) ∧ (new.working → old.working))

structure Task.Follows (old new : Task) : Prop where
  kind : new.kind = old.kind
  request : new.request = old.request
  created : new.created = old.created
  phase : old.phase.Follows new.phase

theorem Task.Follows.refl (task : Task) : task.Follows task := ⟨rfl, rfl, rfl, .inl rfl⟩

theorem Task.Follows.over (task : Task) (answer : Answer) : task.Follows { task with phase := .done answer } :=
  ⟨rfl, rfl, rfl, .inr (.inl rfl)⟩

theorem Phase.Follows.trans {first middle last : Phase} (left : first.Follows middle) (right : middle.Follows last) :
    first.Follows last := by
  rcases right with rfl | isOver | ⟨inside, onward⟩
  · exact left
  · exact .inr (.inl isOver)
  · rcases left with rfl | isOver | ⟨begun, _, early, working⟩
    · exact .inr (.inr ⟨inside, onward⟩)
    · cases middle <;> first | exact absurd isOver Bool.false_ne_true | exact absurd inside Bool.false_ne_true
    · exact .inr (.inr ⟨begun, onward.1, fun is => early (onward.2.1 is), fun is => working (onward.2.2 is)⟩)

theorem Task.Follows.trans {first middle last : Task} (left : first.Follows middle) (right : middle.Follows last) :
    first.Follows last where
  kind := right.kind.trans left.kind
  request := right.request.trans left.request
  created := right.created.trans left.created
  phase := left.phase.trans right.phase

structure Follows (before after : Manager) : Prop where
  store : ∀ id row, before.store id = some row → ∃ now, after.store id = some now ∧ row.Kept now
  absent : ∀ id, before.store id = none → after.store id = none
  tasks : ∀ number task, before.tasks number = some task → ∃ now, after.tasks number = some now ∧ task.Follows now
  idle : ∀ number, before.tasks number = none → after.tasks number = none
  calls : after.calls = before.calls
  started : after.started = before.started
  submissionIds : after.submissionIds = before.submissionIds
  ready : ∃ ended : List String, after.ready = before.ready ++ ended.map Ready.completed

theorem Follows.same (store : after.store = before.store) (tasks : after.tasks = before.tasks)
    (calls : after.calls = before.calls) (started : after.started = before.started)
    (submissionIds : after.submissionIds = before.submissionIds) (ready : after.ready = before.ready) :
    Follows before after where
  store := fun id row is => ⟨row, store ▸ is, .refl row⟩
  absent := fun id none => store ▸ none
  tasks := fun number task is => ⟨task, tasks ▸ is, .refl task⟩
  idle := fun number none => tasks ▸ none
  calls := calls
  started := started
  submissionIds := submissionIds
  ready := ⟨[], by rw [ready, List.map_nil, List.append_nil]⟩

theorem Follows.trans {first middle last : Manager} (left : Follows first middle) (right : Follows middle last) :
    Follows first last where
  store := by
    intro id row is
    obtain ⟨now, isNow, kept⟩ := left.store id row is
    obtain ⟨later, isLater, further⟩ := right.store id now isNow
    exact ⟨later, isLater, kept.trans further⟩
  absent := fun id none => right.absent id (left.absent id none)
  tasks := by
    intro number task is
    obtain ⟨now, isNow, follows⟩ := left.tasks number task is
    obtain ⟨later, isLater, further⟩ := right.tasks number now isNow
    exact ⟨later, isLater, follows.trans further⟩
  idle := fun number none => right.idle number (left.idle number none)
  calls := right.calls.trans left.calls
  started := right.started.trans left.started
  submissionIds := right.submissionIds.trans left.submissionIds
  ready := by
    obtain ⟨ended, first⟩ := left.ready
    obtain ⟨more, second⟩ := right.ready
    exact ⟨ended ++ more, by rw [second, first, List.map_append, List.append_assoc]⟩

theorem Follows.task_before (follows : Follows before after) {number : Nat} {now : Task}
    (is : after.tasks number = some now) : ∃ task, before.tasks number = some task ∧ task.Follows now := by
  cases was : before.tasks number with
  | none =>
    rw [follows.idle number was] at is
    contradiction
  | some task =>
    obtain ⟨same, isSame, goes⟩ := follows.tasks number task was
    cases is.symm.trans isSame
    exact ⟨task, rfl, goes⟩

theorem Follows.row_before (follows : Follows before after) {now : Row} (is : after.store id = some now) :
    ∃ row, before.store id = some row ∧ row.Kept now := by
  cases was : before.store id with
  | none =>
    rw [follows.absent id was] at is
    contradiction
  | some row =>
    obtain ⟨same, isSame, kept⟩ := follows.store id row was
    cases is.symm.trans isSame
    exact ⟨row, rfl, kept⟩

structure Acts (number : Nat) (before after : Manager) : Prop extends Follows before after where
  others : ∀ other, other ≠ number → after.tasks other = before.tasks other
  pending : ∀ id now, after.pending id = some now → ∃ old, before.pending id = some old ∧ now.cancelled = old.cancelled

theorem Acts.same {number : Nat} (store : after.store = before.store) (tasks : after.tasks = before.tasks)
    (calls : after.calls = before.calls) (started : after.started = before.started)
    (submissionIds : after.submissionIds = before.submissionIds) (ready : after.ready = before.ready)
    (pending : after.pending = before.pending) : Acts number before after where
  toFollows := .same store tasks calls started submissionIds ready
  others := fun other _ => congrFun tasks other
  pending := fun _ now is => ⟨now, pending ▸ is, rfl⟩

theorem Acts.refl (number : Nat) (manager : Manager) : Acts number manager manager := .same rfl rfl rfl rfl rfl rfl rfl

theorem Acts.trans {number : Nat} {first middle last : Manager} (left : Acts number first middle)
    (right : Acts number middle last) : Acts number first last where
  toFollows := left.toFollows.trans right.toFollows
  others := fun other different => (right.others other different).trans (left.others other different)
  pending := by
    intro id now is
    obtain ⟨old, isOld, same⟩ := right.pending id now is
    obtain ⟨older, isOlder, too⟩ := left.pending id old isOld
    exact ⟨older, isOlder, same.trans too⟩

section primitives
variable {manager : Manager} {number : Nat} {task : Task}

@[simp] theorem setTask_tasks (new : Task) : (manager.setTask number new).tasks number = some new := if_pos rfl

theorem setTask_other {other : Nat} (different : other ≠ number) (new : Task) :
    (manager.setTask number new).tasks other = manager.tasks other := if_neg different

@[simp] theorem setRow_store (id : String) (row : Row) : (manager.setRow id row).store id = some row := if_pos rfl

theorem setRow_other {id other : String} (different : other ≠ id) (row : Row) :
    (manager.setRow id row).store other = manager.store other := if_neg different

theorem Follows.setTask {new : Task} (is : manager.tasks number = some task) (follows : task.Follows new) :
    Follows manager (manager.setTask number new) where
  store := fun id row is => ⟨row, is, .refl row⟩
  absent := fun id none => none
  tasks := by
    intro other old isOld
    by_cases same : other = number
    · subst same
      cases is.symm.trans isOld
      exact ⟨new, setTask_tasks new, follows⟩
    · exact ⟨old, (setTask_other same new).trans isOld, .refl old⟩
  idle := by
    intro other none
    have different : other ≠ number := by
      rintro rfl
      rw [is] at none
      contradiction
    exact (setTask_other different new).trans none
  calls := rfl
  started := rfl
  submissionIds := rfl
  ready := ⟨[], by rw [List.map_nil, List.append_nil]; rfl⟩

theorem Follows.setRow {row new : Row} (is : manager.store id = some row) (kept : row.Kept new) :
    Follows manager (manager.setRow id new) where
  store := by
    intro other old isOld
    by_cases same : other = id
    · subst same
      cases is.symm.trans isOld
      exact ⟨new, setRow_store other new, kept⟩
    · exact ⟨old, (setRow_other same new).trans isOld, .refl old⟩
  absent := by
    intro other none
    have different : other ≠ id := by
      rintro rfl
      rw [is] at none
      contradiction
    exact (setRow_other different new).trans none
  tasks := fun other old isOld => ⟨old, isOld, .refl old⟩
  idle := fun other none => none
  calls := rfl
  started := rfl
  submissionIds := rfl
  ready := ⟨[], by rw [List.map_nil, List.append_nil]; rfl⟩

theorem Acts.setTask {new : Task} (is : manager.tasks number = some task) (follows : task.Follows new) :
    Acts number manager (manager.setTask number new) where
  toFollows := .setTask is follows
  others := fun _ different => setTask_other different new
  pending := fun _ now is => ⟨now, is, rfl⟩

theorem Acts.finish (is : manager.tasks number = some task) (answer : Answer) :
    Acts number manager (manager.finish number task answer) := by
  have ends : Acts number manager (manager.setTask number { task with phase := .done answer }) :=
    .setTask is (.over task answer)
  refine ends.trans ?_
  unfold Manager.finish
  dsimp only
  split
  · refine { Acts.refl number _ with ready := ⟨[task.request.operationId], rfl⟩ }
  · exact .refl number _
  · exact .refl number _

theorem finish_tasks (answer : Answer) :
    (manager.finish number task answer).tasks number = some { task with phase := .done answer } := by
  unfold Manager.finish
  dsimp only
  split <;> exact setTask_tasks _

@[simp] theorem finish_store (answer : Answer) : (manager.finish number task answer).store = manager.store := by
  unfold Manager.finish
  dsimp only
  split <;> rfl

theorem popPending_acts (id : String) : Acts number manager (manager.popPending id) where
  toFollows := .same rfl rfl rfl rfl rfl rfl
  others := fun _ _ => rfl
  pending := by
    intro other now is
    simp only [Manager.popPending] at is
    split at is
    next =>
      obtain ⟨old, isOld, rfl⟩ := Option.map_eq_some_iff.mp is
      exact ⟨old, isOld, rfl⟩
    next => exact ⟨now, is, rfl⟩

theorem Acts.leave (is : manager.tasks number = some task) (holds : Bool) (answer : Answer) :
    Acts number manager (manager.leave number task holds answer) := by
  refine (popPending_acts task.request.operationId).trans ?_
  unfold Manager.leave
  refine Acts.trans ?_ (.finish ?_ answer)
  · exact .same rfl rfl rfl rfl rfl rfl rfl
  · exact is

theorem leave_tasks (holds : Bool) (answer : Answer) :
    (manager.leave number task holds answer).tasks number = some { task with phase := .done answer } := finish_tasks answer

@[simp] theorem leave_store (holds : Bool) (answer : Answer) :
    (manager.leave number task holds answer).store = manager.store := finish_store answer

theorem transition_some (goes : manager.transition id status changes = some after) :
    ∃ row, manager.store id = some row ∧ row.status.isTerminal = false ∧
      after = manager.setRow id { changes row with status := status } := by
  unfold Manager.transition at goes
  split at goes
  next => contradiction
  next row is =>
    obtain ⟨target, allowed, rfl⟩ := Option.map_eq_some_iff.mp goes
    obtain ⟨active, rfl⟩ := operationTransition_active allowed
    exact ⟨row, is, active, rfl⟩

/-- A transition that is refused leaves a terminal row, or one that has not begun. -/
theorem transition_none {row : Row} (is : manager.store id = some row)
    (refused : manager.transition id status changes = none) :
    operationTransition row.status status = none := by
  unfold Manager.transition at refused
  rw [is] at refused
  exact Option.map_eq_none_iff.mp refused

def KeepsRequest (changes : Row → Row) : Prop :=
  ∀ row, (changes row).requestFingerprint = row.requestFingerprint ∧ (changes row).action = row.action

theorem Follows.transition (keeps : KeepsRequest changes) (begins : status ≠ .queued)
    (goes : manager.transition id status changes = some after) : Follows manager after := by
  obtain ⟨row, is, active, rfl⟩ := transition_some goes
  refine .setRow is ⟨(keeps row).1, (keeps row).2, fun terminal => ?_, fun _ => begins⟩
  rw [active] at terminal
  contradiction

theorem Acts.transition (keeps : KeepsRequest changes) (begins : status ≠ .queued)
    (goes : manager.transition id status changes = some after) : Acts number manager after := by
  have follows := Follows.transition keeps begins goes
  obtain ⟨row, is, active, rfl⟩ := transition_some goes
  exact { follows with
    others := fun _ _ => rfl
    pending := fun id now is => ⟨now, is, rfl⟩ }

theorem Acts.transition_getD (keeps : KeepsRequest changes) (begins : status ≠ .queued) :
    Acts number manager ((manager.transition id status changes).getD manager) := by
  cases goes : manager.transition id status changes with
  | none => exact .refl number manager
  | some after => exact .transition keeps begins goes

theorem Follows.transition_getD (keeps : KeepsRequest changes) (begins : status ≠ .queued) :
    Follows manager ((manager.transition id status changes).getD manager) := by
  have acts : Acts 0 manager ((manager.transition id status changes).getD manager) := .transition_getD keeps begins
  exact acts.toFollows

theorem transition_tasks (goes : manager.transition id status changes = some after) : after.tasks = manager.tasks := by
  obtain ⟨_, _, _, rfl⟩ := transition_some goes
  rfl

end primitives

section events
variable {manager : Manager} {number : Nat} {task : Task}

/-- A task that put its row into the store goes on to another of its awaits. -/
theorem Task.Follows.moves {phase : Phase} (inside : task.phase.inside) (stays : phase.inside)
    (early : phase.early → task.phase.early) (working : phase.working → task.phase.working) :
    task.Follows { task with phase := phase } :=
  ⟨rfl, rfl, rfl, .inr (.inr ⟨inside, stays, early, working⟩)⟩

theorem Phase.early_inside {phase : Phase} (early : phase.early) : phase.inside ∧ phase.working := by
  cases phase <;> first | exact ⟨rfl, rfl⟩ | exact absurd early Bool.false_ne_true

theorem markRunning_acts (id : String) : Acts number manager (manager.markRunning id) := by
  unfold Manager.markRunning
  split
  next pending listed =>
    refine { Follows.same rfl rfl rfl rfl rfl rfl with others := fun _ _ => rfl, pending := fun other now is => ?_ }
    by_cases same : other = id
    · subst same
      cases (if_pos rfl).symm.trans is
      exact ⟨pending, listed, rfl⟩
    · exact ⟨now, (if_neg same).symm.trans is, rfl⟩
  next => exact .refl number manager

theorem markRunning_tasks (id : String) : (manager.markRunning id).tasks = manager.tasks := by
  unfold Manager.markRunning
  split <;> rfl

@[simp] theorem markRunning_store (id : String) : (manager.markRunning id).store = manager.store := by
  unfold Manager.markRunning
  split <;> rfl

theorem run_acts (is : manager.tasks number = some task) (early : task.phase.early) :
    Acts number manager (manager.run number task) := by
  have marked : (manager.markRunning task.request.operationId).tasks number = some task :=
    (congrFun (markRunning_tasks _) number).trans is
  refine (markRunning_acts task.request.operationId).trans ?_
  unfold Manager.run
  dsimp only
  split
  next begun goes =>
    have kept : KeepsRequest fun row => { row with queuePosition := 0 } := fun row => ⟨rfl, rfl⟩
    have there : begun.tasks number = some task := (congrFun (transition_tasks goes) number).trans marked
    refine (Acts.transition kept (by decide) goes).trans (.setTask there ?_)
    exact .moves (Phase.early_inside early).1 rfl (fun _ => early) (fun _ => (Phase.early_inside early).2)
  next => exact .leave marked _ _

theorem grant_acts (is : manager.tasks number = some task) (early : task.phase.early) :
    Acts number manager (manager.grant number task) := by
  unfold Manager.grant
  dsimp only
  split
  · refine Acts.trans ?_ (.leave ?_ _ _)
    · exact .same rfl rfl rfl rfl rfl rfl rfl
    · exact is
  · refine Acts.trans ?_ (run_acts ?_ early)
    · exact .same rfl rfl rfl rfl rfl rfl rfl
    · exact is

theorem close_acts (is : manager.tasks number = some task) (calling : task.phase = .calling) (begins : status ≠ .queued)
    (keeps : KeepsRequest changes) (answer : Row → Answer) :
    Acts number manager (manager.close number task status changes answer) := by
  unfold Manager.close
  split
  next closed goes =>
    have there : closed.tasks number = some task := (congrFun (transition_tasks goes) number).trans is
    split
    next row _ =>
      refine (Acts.transition keeps begins goes).trans (.setTask there ?_)
      refine .moves (calling ▸ rfl) rfl (fun early => ?_) (fun working => ?_)
      · exact absurd early Bool.false_ne_true
      · exact absurd working Bool.false_ne_true
    next => exact .refl number manager
  next => exact .leave is _ _

theorem interruptedStatus_ne (uncertain : Bool) : interruptedStatus uncertain ≠ .queued := by
  cases uncertain <;> decide

theorem callRaised_acts (is : manager.tasks number = some task) (calling : task.phase = .calling)
    (exception : CallRaised) : Acts number manager (manager.callRaised number task exception) := by
  cases exception with
  | cancelled =>
    refine close_acts is calling (interruptedStatus_ne _) ?_ _
    exact fun row => ⟨rfl, rfl⟩
  | operationCancelled => exact .leave is _ _
  | outcomeUnknown message =>
    refine close_acts is calling ?_ ?_ _
    · decide
    · exact fun row => ⟨rfl, rfl⟩
  | failed message =>
    refine close_acts is calling ?_ ?_ _
    · decide
    · exact fun row => ⟨rfl, rfl⟩

theorem stage_acts (number : Nat) (id : String) (listed : status ∈ stageStatuses) (permille : Option Nat) :
    Acts number manager (manager.stage id status permille) := by
  have begins : status ≠ .queued := by
    rintro rfl
    exact absurd listed (by decide)
  cases permille with
  | none | some permille => exact .transition_getD (fun row => ⟨rfl, rfl⟩) begins

theorem cancelTask_acts (is : manager.tasks number = some task) : Acts number manager (manager.cancelTask number task) := by
  have flagged : Acts number manager (manager.setTask number { task with cancelled := true }) :=
    .setTask is ⟨rfl, rfl, rfl, .inl rfl⟩
  unfold Manager.cancelTask
  split
  · exact flagged
  · exact flagged
  · exact flagged
  · exact .finish is _
  · exact .leave is _ _
  · exact .leave is _ _
  · exact .leave is _ _
  · exact .refl number manager
  · exact .refl number manager

theorem cancelQueued_follows (rounds : manager.cancelQueued id = some after) :
    Follows manager after := by
  unfold Manager.cancelQueued at rounds
  split at rounds
  next => contradiction
  next pending listed =>
    split at rounds
    next => contradiction
    cases rounds
    refine Follows.trans ?_ (.transition_getD ?_ ?_)
    · exact .same rfl rfl rfl rfl rfl rfl
    · exact fun row => ⟨rfl, rfl⟩
    · decide

theorem emitted_cases (is : manager.tasks number = some task) {raises : Bool}
    (emits : manager.emitted number task raises = some after) :
    Acts number manager after ∨ (raises = false ∧ task.phase = .beginning ∧ after = manager.startCall number task) := by
  unfold Manager.emitted at emits
  split at emits
  next phase =>
    have early : task.phase.early := phase ▸ rfl
    split at emits
    · cases emits
      exact .inl (.finish is _)
    · split at emits
      · cases emits
        exact .inl (.setTask is (.moves (Phase.early_inside early).1 rfl (fun _ => early) fun _ => (Phase.early_inside early).2))
      · cases emits
        exact .inl (run_acts is early)
  next phase =>
    split at emits
    · cases emits
      exact .inl (.leave is _ _)
    next silent =>
      cases emits
      exact .inr ⟨Bool.eq_false_iff.mpr silent, phase, rfl⟩
  next =>
    cases emits
    exact .inl (.leave is _ _)
  next => contradiction

end events

section steps
variable (fingerprint : Request → Option String)

inductive TaskTurn (manager : Manager) (number : Nat) (task : Task) : Manager → Prop
  | ends (outside : task.phase.inside = false) (answer : Answer) :
      TaskTurn manager number task (manager.finish number task answer)
  | waits {left background : Nat} (client : task.kind ≠ .background)
      (first : task.phase = .starting) (held : manager.submissionIds task.request.operationId = some background) :
      TaskTurn manager number task (manager.sleep number task (.polling left background))
  | waitsOn {before left background : Nat} (again : task.phase = .polling before background) :
      TaskTurn manager number task (manager.sleep number task (.polling left background))
  | leaves (client : task.kind ≠ .background) (first : task.phase = .starting) :
      TaskTurn manager number task (manager.startBackground number task)
  | creates (print : String) (first : task.phase = .starting) (absent : manager.store task.request.operationId = none) :
      TaskTurn manager number task (manager.create number task print)

theorem startExecute_turn (manager : Manager) (number : Nat) {task : Task} (first : task.phase = .starting) :
    TaskTurn manager number task (manager.startExecute fingerprint number task) := by
  have outside : task.phase.inside = false := first ▸ rfl
  unfold Manager.startExecute
  dsimp only
  split
  · exact .ends outside _
  · split
    · exact .ends outside _
    next print _ =>
      split
      · exact .ends outside _
      next absent => exact .creates print first absent

theorem startSubmit_turn (manager : Manager) (number : Nat) {task : Task} (first : task.phase = .starting)
    (submit : task.kind = .submit) : TaskTurn manager number task (manager.startSubmit fingerprint number task) := by
  have outside : task.phase.inside = false := first ▸ rfl
  have client : task.kind ≠ .background := by
    rw [submit]
    decide
  unfold Manager.startSubmit
  dsimp only
  split
  · exact .ends outside _
  · split
    · exact .ends outside _
    · split
      · exact .ends outside _
      · split
        next background held => exact .waits client first held
        next => exact .leaves client first

theorem poll_turn (manager : Manager) (number : Nat) {task : Task} {left background : Nat}
    (again : task.phase = .polling left background) :
    TaskTurn manager number task (manager.poll fingerprint number task left background) := by
  have outside : task.phase.inside = false := again ▸ rfl
  unfold Manager.poll
  split
  · exact .ends outside _
  · split
    · exact .ends outside _
    · exact .waitsOn again

theorem endSubmit_turn (manager : Manager) (number : Nat) (task : Task) (background : Nat)
    (outside : task.phase.inside = false) :
    TaskTurn manager number task (manager.endSubmit fingerprint number task background) := by
  unfold Manager.endSubmit
  split
  · exact .ends outside _
  · exact .ends outside _

theorem taskTurn_turn {manager : Manager} {number : Nat} {task : Task}
    (turns : manager.taskTurn fingerprint number task = some after) : TaskTurn manager number task after := by
  obtain ⟨goes, isOne, rfl⟩ := Option.map_eq_some_iff.mp turns
  have turn : task.phase.inside = false ∧ TaskTurn manager number task goes := by
    split at isOne
    next first =>
      refine ⟨first ▸ rfl, ?_⟩
      split at isOne
      next submit =>
        cases isOne
        exact startSubmit_turn fingerprint manager number first submit
      all_goals
        cases isOne
        exact startExecute_turn fingerprint manager number first
    next again =>
      cases isOne
      exact ⟨again ▸ rfl, poll_turn fingerprint manager number again⟩
    next slept =>
      cases isOne
      exact ⟨slept ▸ rfl, endSubmit_turn fingerprint manager number task _ (slept ▸ rfl)⟩
    next => contradiction
  split
  · exact .ends turn.1 _
  · exact turn.2

theorem turn_cases (turns : before.turn fingerprint = some after) :
    (∃ id rest, before.ready = .completed id :: rest ∧ after = { before with
      ready := rest
      submissionIds := fun other => if other = id then none else before.submissionIds other }) ∨
    ∃ number task rest, before.ready = .task number :: rest ∧ before.tasks number = some task ∧
      TaskTurn { before with ready := rest } number task after := by
  unfold Manager.turn at turns
  split at turns
  next => contradiction
  next id rest head =>
    cases turns
    exact .inl ⟨id, rest, head, rfl⟩
  next number rest head =>
    obtain ⟨task, is, turn⟩ := Option.bind_eq_some_iff.mp turns
    exact .inr ⟨number, task, rest, head, is, taskTurn_turn fingerprint turn⟩

inductive Moves (before : Manager) : Event → Manager → Prop
  | goesOn {event : Event} {after : Manager} (follows : Follows before after) : Moves before event after
  | requested {kind : Kind} (client : kind ≠ .background) (request : Request) :
      Moves before (.request kind request) (before.schedule kind request)
  | turned {after : Manager} (turns : before.turn fingerprint = some after) : Moves before .turn after
  | started {number : Nat} {task : Task} (is : before.tasks number = some task) (begun : task.phase = .beginning) :
      Moves before (.emitted number false) (before.startCall number task)
  | restarted (reserved : List String) : Moves before (.restart reserved) (before.restart reserved)

theorem managerNext_moves {event : Event} (step : managerNext fingerprint before event = some after) :
    Moves fingerprint before event after := by
  cases event with
  | request kind request =>
    rw [managerNext, Option.ite_none_left_eq_some] at step
    obtain ⟨client, step⟩ := step
    cases step
    exact .requested client request
  | turn => exact .turned step
  | emitted number raises =>
    obtain ⟨task, is, emits⟩ := Option.bind_eq_some_iff.mp step
    rcases emitted_cases is emits with follows | ⟨rfl, begun, rfl⟩
    · exact .goesOn follows.toFollows
    · exact .started is begun
  | granted number =>
    obtain ⟨task, is, grants⟩ := Option.bind_eq_some_iff.mp step
    rw [Option.ite_none_right_eq_some] at grants
    obtain ⟨⟨locking, _⟩, grants⟩ := grants
    cases grants
    exact .goesOn (grant_acts is (locking ▸ rfl)).toFollows
  | staged number status permille =>
    obtain ⟨task, is, stages⟩ := Option.bind_eq_some_iff.mp step
    rw [Option.ite_none_right_eq_some] at stages
    obtain ⟨⟨_, listed⟩, stages⟩ := stages
    cases stages
    exact .goesOn (stage_acts number _ listed permille).toFollows
  | returned number summary =>
    obtain ⟨task, is, returns⟩ := Option.bind_eq_some_iff.mp step
    rw [Option.ite_none_right_eq_some] at returns
    obtain ⟨calling, returns⟩ := returns
    cases summary with
    | some summary =>
      cases returns
      refine .goesOn (close_acts is calling ?_ ?_ _).toFollows
      · decide
      · exact fun row => ⟨rfl, rfl⟩
    | none =>
      cases returns
      exact .goesOn (Acts.leave is _ _).toFollows
  | raised number exception =>
    obtain ⟨task, is, raises⟩ := Option.bind_eq_some_iff.mp step
    rw [Option.ite_none_right_eq_some] at raises
    obtain ⟨calling, raises⟩ := raises
    cases raises
    exact .goesOn (callRaised_acts is calling exception).toFollows
  | cancel number =>
    obtain ⟨task, is, rfl⟩ := Option.map_eq_some_iff.mp step
    exact .goesOn (cancelTask_acts is).toFollows
  | cancelQueued id => exact .goesOn (cancelQueued_follows step)
  | reserve device =>
    rw [managerNext, Option.ite_none_left_eq_some] at step
    obtain ⟨_, step⟩ := step
    cases step
    exact .goesOn (.same rfl rfl rfl rfl rfl rfl)
  | acquire device =>
    rw [managerNext, Option.ite_none_right_eq_some] at step
    obtain ⟨_, step⟩ := step
    cases step
    exact .goesOn (.same rfl rfl rfl rfl rfl rfl)
  | giveUp device =>
    rw [managerNext, Option.ite_none_right_eq_some] at step
    obtain ⟨_, step⟩ := step
    cases step
    exact .goesOn (.same rfl rfl rfl rfl rfl rfl)
  | release device =>
    cases step
    exact .goesOn (.same rfl rfl rfl rfl rfl rfl)
  | restart reserved =>
    cases step
    exact .restarted reserved

end steps

end EspIris.Gateway.Operations
