import EspIris.Gateway.OperationQueue

/-! The device call of an operation is started once, across restarts: a row belongs to the one task
that put it into the store, and a request that finds its id taken starts nothing. -/

namespace EspIris.Gateway.Operations
open Machine

structure Owned (manager : Manager) : Prop where
  stored : ∀ number task, manager.tasks number = some task → task.created → ∃ row, manager.store task.request.operationId = some row
  alone : ∀ number other task also, manager.tasks number = some task → manager.tasks other = some also →
    task.created → also.created → task.request.operationId = also.request.operationId → number = other
  inside : ∀ number task, manager.tasks number = some task → task.phase.inside → task.created
  fresh : ∀ number task, manager.tasks number = some task → task.phase.inside = false → task.phase.over = false →
    task.created = false
  once : ∀ id, manager.calls.count id ≤ 1
  begun : ∀ id, manager.store id = none → manager.calls.count id = 0
  early : ∀ number task, manager.tasks number = some task → task.phase.early →
    manager.calls.count task.request.operationId = 0

theorem Phase.Follows.inside {old new : Phase} (follows : old.Follows new) (inside : new.inside) : old.inside := by
  rcases follows with rfl | isOver | ⟨begun, _⟩
  · exact inside
  · cases new <;> first | exact absurd isOver Bool.false_ne_true | exact absurd inside Bool.false_ne_true
  · exact begun

theorem Phase.Follows.early {old new : Phase} (follows : old.Follows new) (early : new.early) : old.early := by
  rcases follows with rfl | isOver | ⟨_, _, kept, _⟩
  · exact early
  · cases new <;> first | exact absurd isOver Bool.false_ne_true | exact absurd early Bool.false_ne_true
  · exact kept early

theorem Phase.Follows.fresh {old new : Phase} (follows : old.Follows new) (outside : new.inside = false)
    (unfinished : new.over = false) : old = new := by
  rcases follows with rfl | isOver | ⟨_, inside, _⟩
  · rfl
  · rw [unfinished] at isOver
    contradiction
  · rw [outside] at inside
    contradiction

theorem Owned.follows {before after : Manager} (owned : Owned before) (follows : Follows before after) : Owned after where
  stored := by
    intro number task is created
    obtain ⟨old, isOld, goes⟩ := follows.task_before is
    obtain ⟨row, isRow⟩ := owned.stored number old isOld (goes.created ▸ created)
    obtain ⟨now, isNow, _⟩ := follows.store _ row isRow
    exact ⟨now, goes.request ▸ isNow⟩
  alone := by
    intro number other task also is isAlso created createdToo same
    obtain ⟨old, isOld, goes⟩ := follows.task_before is
    obtain ⟨older, isOlder, goesToo⟩ := follows.task_before isAlso
    refine owned.alone number other old older isOld isOlder (goes.created ▸ created) (goesToo.created ▸ createdToo) ?_
    rw [← goes.request, ← goesToo.request, same]
  inside := by
    intro number task is inside
    obtain ⟨old, isOld, goes⟩ := follows.task_before is
    exact goes.created.trans (owned.inside number old isOld (goes.phase.inside inside))
  fresh := by
    intro number task is outside unfinished
    obtain ⟨old, isOld, goes⟩ := follows.task_before is
    have same := goes.phase.fresh outside unfinished
    exact goes.created.trans (owned.fresh number old isOld (same ▸ outside) (same ▸ unfinished))
  once := fun id => follows.calls ▸ owned.once id
  begun := by
    intro id none
    rw [follows.calls]
    refine owned.begun id ?_
    cases was : before.store id with
    | none => rfl
    | some row =>
      obtain ⟨now, isNow, _⟩ := follows.store id row was
      rw [isNow] at none
      contradiction
  early := by
    intro number task is early
    obtain ⟨old, isOld, goes⟩ := follows.task_before is
    rw [follows.calls, goes.request]
    exact owned.early number old isOld (goes.phase.early early)

section ownership
variable {manager : Manager} {number : Nat}

theorem Owned.setTask {task : Task} (owned : Owned manager) (created : task.created = false)
    (outside : task.phase.inside = false) : Owned (manager.setTask number task) := by
  have other {number' : Nat} {now : Task} (isNow : (manager.setTask number task).tasks number' = some now) :
      now = task ∨ manager.tasks number' = some now := by
    by_cases same : number' = number
    · subst same
      exact .inl (Option.some.inj ((setTask_tasks _).symm.trans isNow)).symm
    · exact .inr ((setTask_other same _).symm.trans isNow)
  refine { owned with stored := ?_, alone := ?_, inside := ?_, fresh := ?_, early := ?_ }
  · intro number' now isNow owns
    rcases other isNow with rfl | was
    · exact absurd owns (by rw [created]; decide)
    · exact owned.stored number' now was owns
  · intro number' other' now also isNow isAlso owns ownsToo same
    rcases other isNow with rfl | was
    · exact absurd owns (by rw [created]; decide)
    rcases other isAlso with rfl | wasToo
    · exact absurd ownsToo (by rw [created]; decide)
    · exact owned.alone number' other' now also was wasToo owns ownsToo same
  · intro number' now isNow inside
    rcases other isNow with rfl | was
    · exact absurd inside (by rw [outside]; decide)
    · exact owned.inside number' now was inside
  · intro number' now isNow nowOutside unfinished
    rcases other isNow with rfl | was
    · exact created
    · exact owned.fresh number' now was nowOutside unfinished
  · intro number' now isNow early
    rcases other isNow with rfl | was
    · exact absurd (Phase.early_inside early).1 (by rw [outside]; decide)
    · exact owned.early number' now was early

theorem Owned.same {after : Manager} (owned : Owned manager) (tasks : after.tasks = manager.tasks)
    (store : after.store = manager.store) (calls : after.calls = manager.calls) : Owned after := by
  cases after
  subst tasks store calls
  exact { owned with }

theorem Owned.create {task : Task} {print : String} (owned : Owned manager)
    (absent : manager.store task.request.operationId = none) : Owned (manager.create number task print) := by
  have itself : (manager.create number task print).tasks number = some { task with phase := .announcing, created := true } :=
    setTask_tasks _
  have other {number' : Nat} {now : Task} (isNow : (manager.create number task print).tasks number' = some now) :
      (number' = number ∧ now = { task with phase := .announcing, created := true }) ∨ manager.tasks number' = some now := by
    by_cases same : number' = number
    · subst same
      exact .inl ⟨rfl, (Option.some.inj (itself.symm.trans isNow)).symm⟩
    · exact .inr ((setTask_other same _).symm.trans isNow)
  have row (id : String) : (∃ row, manager.store id = some row) →
      ∃ row, (manager.create number task print).store id = some row := by
    intro stored
    by_cases same : id = task.request.operationId
    · subst same
      exact ⟨_, setRow_store _ _⟩
    · obtain ⟨row, is⟩ := stored
      exact ⟨row, (setRow_other same _).trans is⟩
  -- nobody else has a row of this id
  have apart {number' : Nat} {old : Task} (was : manager.tasks number' = some old) (owns : old.created)
      (same : old.request.operationId = task.request.operationId) : False := by
    obtain ⟨row, is⟩ := owned.stored number' old was owns
    rw [same, absent] at is
    contradiction
  constructor
  · intro number' now isNow owns
    rcases other isNow with ⟨_, rfl⟩ | was
    · exact ⟨_, setRow_store _ _⟩
    · exact row _ (owned.stored number' now was owns)
  · intro number' other' now also isNow isAlso owns ownsToo same
    rcases other isNow with ⟨rfl, rfl⟩ | was
    · rcases other isAlso with ⟨rfl, _⟩ | wasToo
      · rfl
      · exact (apart wasToo ownsToo same.symm).elim
    · rcases other isAlso with ⟨rfl, rfl⟩ | wasToo
      · exact (apart was owns same).elim
      · exact owned.alone number' other' now also was wasToo owns ownsToo same
  · intro number' now isNow inside
    rcases other isNow with ⟨_, rfl⟩ | was
    · rfl
    · exact owned.inside number' now was inside
  · intro number' now isNow outside unfinished
    rcases other isNow with ⟨_, rfl⟩ | was
    · exact absurd outside nofun
    · exact owned.fresh number' now was outside unfinished
  · exact owned.once
  · intro id none
    refine owned.begun id ?_
    cases was : manager.store id with
    | none => rfl
    | some _ =>
      obtain ⟨now, isNow⟩ := row id ⟨_, was⟩
      rw [isNow] at none
      contradiction
  · intro number' now isNow early
    rcases other isNow with ⟨_, rfl⟩ | was
    · exact owned.begun _ absent
    · exact owned.early number' now was early

theorem count_snoc (calls : List String) (id other : String) :
    (calls ++ [id]).count other = calls.count other + if id = other then 1 else 0 := by
  rw [List.count_append, List.count_singleton]
  simp only [beq_iff_eq]

theorem Owned.startCall {task : Task} (owned : Owned manager) (is : manager.tasks number = some task)
    (begun : task.phase = .beginning) : Owned (manager.startCall number task) := by
  have inside : task.phase.inside := begun ▸ rfl
  have early : task.phase.early := begun ▸ rfl
  have owns := owned.inside number task is inside
  have goes : Follows manager (manager.setTask number { task with phase := .calling }) :=
    .setTask is (.moves inside rfl nofun fun _ => (Phase.early_inside early).2)
  have calling := owned.follows goes
  have zero := owned.early number task is early
  have counts (id : String) : (manager.startCall number task).calls.count id =
      manager.calls.count id + if task.request.operationId = id then 1 else 0 := count_snoc _ _ _
  refine { calling with once := ?_, begun := ?_, early := ?_ }
  · intro id
    rw [counts]
    split
    next same => exact Nat.le_of_eq (congrArg (· + 1) (same ▸ zero))
    next => exact owned.once id
  · intro id none
    obtain ⟨row, isRow⟩ := owned.stored number task is owns
    rw [counts, if_neg, owned.begun id none]
    rintro rfl
    exact absurd (isRow.symm.trans none) nofun
  · intro number' now isNow earlyNow
    have different : task.request.operationId ≠ now.request.operationId := by
      intro same
      have owned' := calling.inside number' now isNow (Phase.early_inside earlyNow).1
      have itself := calling.alone number number' _ now (setTask_tasks _) isNow owns owned' same
      subst itself
      cases (setTask_tasks _).symm.trans isNow
      exact absurd earlyNow Bool.false_ne_true
    rw [counts, if_neg different]
    exact calling.early number' now isNow earlyNow

theorem Owned.schedule (owned : Owned manager) (kind : Kind) (request : Request) : Owned (manager.schedule kind request) := by
  have added : Owned (manager.setTask manager.started ⟨kind, request, .starting, false, false⟩) := owned.setTask rfl rfl
  exact added.same rfl rfl rfl

theorem Owned.sleep {task : Task} {phase : Phase} {background : Nat} (owned : Owned manager)
    (created : task.created = false) (waits : phase.waits = some background) :
    Owned (manager.sleep number task phase) := by
  have outside : phase.inside = false := by
    cases phase <;> first | rfl | contradiction
  have asleep : Owned (manager.setTask number { task with phase := phase }) := owned.setTask created outside
  exact asleep.same rfl rfl rfl

theorem Owned.taskTurn {task : Task} {after : Manager} (owned : Owned manager) (is : manager.tasks number = some task)
    (turn : TaskTurn manager number task after) : Owned after := by
  cases turn with
  | ends outside answer => exact owned.follows (Acts.finish is answer).toFollows
  | waits client first held =>
    exact owned.sleep (owned.fresh number task is (first ▸ rfl) (first ▸ rfl)) rfl
  | waitsOn again => exact owned.sleep (owned.fresh number task is (again ▸ rfl) (again ▸ rfl)) rfl
  | leaves client first =>
    have created := owned.fresh number task is (first ▸ rfl) (first ▸ rfl)
    have held : Owned { manager.schedule .background task.request with
        submissionIds := fun id =>
          if id = task.request.operationId then some manager.started
          else (manager.schedule .background task.request).submissionIds id } :=
      (owned.schedule .background task.request).same rfl rfl rfl
    exact held.sleep created rfl
  | creates print first absent => exact owned.create absent

end ownership

section invariant
variable (fingerprint : Request → Option String)

theorem Owned.empty {manager : Manager} (tasks : ∀ number, manager.tasks number = none)
    (once : ∀ id, manager.calls.count id ≤ 1)
    (begun : ∀ id, manager.store id = none → manager.calls.count id = 0) : Owned manager := by
  have absurd_task {number : Nat} {task : Task} (is : manager.tasks number = some task) : False := by
    rw [tasks] at is
    contradiction
  constructor
  · intro number task is
    exact (absurd_task is).elim
  · intro number other task also is
    exact (absurd_task is).elim
  · intro number task is
    exact (absurd_task is).elim
  · intro number task is
    exact (absurd_task is).elim
  · exact once
  · exact begun
  · intro number task is
    exact (absurd_task is).elim

theorem owned_invariant : Invariant (operationManager fingerprint) Owned where
  start := by
    rintro _ ⟨store, reserved, rfl⟩
    exact .empty (fun _ => rfl) (fun _ => Nat.zero_le 1) fun _ _ => rfl
  step := by
    intro before event after owned step
    cases managerNext_moves fingerprint step with
    | goesOn follows => exact owned.follows follows
    | requested client request => exact owned.schedule _ request
    | started is begun => exact owned.startCall is begun
    | restarted reserved =>
      exact .empty (fun _ => rfl) owned.once fun id none => owned.begun id (Option.map_eq_none_iff.mp none)
    | turned turns =>
      rcases turn_cases fingerprint turns with ⟨id, rest, head, rfl⟩ | ⟨number, task, rest, head, is, turn⟩
      · exact owned.same rfl rfl rfl
      · have popped : Owned { before with ready := rest } := owned.same rfl rfl rfl
        exact popped.taskTurn is turn

theorem managerNext_rows {before after : Manager} {event : Event}
    (step : managerNext fingerprint before event = some after) {id : String} {row : Row}
    (is : before.store id = some row) : ∃ now, after.store id = some now ∧ row.Kept now := by
  cases managerNext_moves fingerprint step with
  | goesOn follows => exact follows.store id row is
  | requested client request => exact ⟨row, is, .refl row⟩
  | started isTask begun => exact ⟨row, is, .refl row⟩
  | restarted reserved => exact ⟨recoverRow row, congrArg (Option.map recoverRow) is, recoverRow_kept row⟩
  | turned turns =>
    rcases turn_cases fingerprint turns with ⟨_, rest, head, rfl⟩ | ⟨number, task, rest, head, isTask, turn⟩
    · exact ⟨row, is, .refl row⟩
    · cases turn with
      | ends outside answer => exact ⟨row, (congrFun (finish_store answer) id).trans is, .refl row⟩
      | creates print first absent =>
        have different : id ≠ task.request.operationId := by
          rintro rfl
          exact absurd (is.symm.trans absent) nofun
        exact ⟨row, (setRow_other different _).trans is, .refl row⟩
      | waits | waitsOn | leaves => exact ⟨row, is, .refl row⟩

theorem run_rows {earlier later : Manager} {events : List Event}
    (run : Run (operationManager fingerprint) earlier events later) {id : String} {row : Row}
    (is : earlier.store id = some row) : ∃ now, later.store id = some now ∧ row.Kept now := by
  induction run with
  | refl => exact ⟨row, is, .refl row⟩
  | snoc _ step ih =>
    obtain ⟨middle, isMiddle, kept⟩ := ih
    obtain ⟨now, isNow, further⟩ := managerNext_rows fingerprint step isMiddle
    exact ⟨now, isNow, kept.trans further⟩

def Manager.onTurn (manager : Manager) (number : Nat) (task : Task) : Prop :=
  (∃ rest, manager.ready = .task number :: rest) ∧ manager.tasks number = some task ∧ task.cancelled = false

def Manager.answersOnly (manager : Manager) (number : Nat) (task : Task) (answer : Answer) : Prop :=
  manager.turn fingerprint = some ({ manager with ready := manager.ready.tail }.finish number task answer)

/-- A request whose id is taken by a row is answered from the row at each of its turns. A `submit`
whose background task had its turn finds it over, or it is the one that put the row there. -/
structure AnsweredFrom (manager : Manager) (row : Row) (number : Nat) (task : Task) (print : String) : Prop where
  first : task.phase = .starting → manager.answersOnly fingerprint number task
    (if (manager.maintenance task.request.deviceId).isSome then .maintenance else requireSameRequest row print false)
  again : ∀ left background, task.phase = .polling left background →
    manager.answersOnly fingerprint number task (requireSameRequest row print false)
  behind : ∀ background, task.phase = .submitted background → ∃ other, manager.tasks background = some other ∧
    (other.phase.over ∨ other.created) ∧ manager.answersOnly fingerprint number task
      (if row.requestFingerprint = some print then reported row other.phase else .conflict)

/-- A background task that somebody waits for has had its turn when the other one has his. -/
theorem Scheduled.awaited {manager : Manager} {number : Nat} {task : Task} {background : Nat}
    (scheduled : Scheduled none manager) (turn : manager.onTurn number task)
    (waits : task.phase.waits = some background) : ∃ other, manager.tasks background = some other ∧
      other.request.operationId = task.request.operationId ∧ (other.phase.over ∨ other.phase.inside) := by
  obtain ⟨⟨rest, head⟩, is, _⟩ := turn
  obtain ⟨other, isOther, kind, sameId⟩ := scheduled.waiters number task background is waits
  have free := scheduled.backgrounds background other isOther kind
  refine ⟨other, isOther, sameId, ?_⟩
  have begun : other.phase ≠ .starting := by
    intro starting
    have listed := (scheduled.waiting background other isOther starting).resolve_left nofun
    have order := scheduled.order
    rw [head] at listed order
    rcases List.mem_cons.mp listed with same | later
    · cases same
      cases is.symm.trans isOther
      rw [starting] at waits
      contradiction
    · obtain ⟨_, isOver⟩ := (List.pairwise_cons.mp order).1 _ later number background rfl rfl
      exact isOver task other is waits isOther starting
  cases phase : other.phase with
  | starting => exact absurd phase begun
  | polling left awaited =>
    rw [phase] at free
    contradiction
  | submitted awaited =>
    rw [phase] at free
    contradiction
  | announcing | locking | beginning | calling | closing _ => exact .inr rfl
  | done answer => exact .inl rfl

theorem turn_onTurn {manager : Manager} {number : Nat} {task : Task} (turn : manager.onTurn number task) :
    manager.turn fingerprint =
      let popped := { manager with ready := manager.ready.tail }
      match task.phase with
      | .starting =>
        match task.kind with
        | .submit => some (popped.startSubmit fingerprint number task)
        | .execute | .background => some (popped.startExecute fingerprint number task)
      | .polling left waits => some (popped.poll fingerprint number task left waits)
      | .submitted background => some (popped.endSubmit fingerprint number task background)
      | _ => none := by
  obtain ⟨⟨rest, head⟩, is, live⟩ := turn
  unfold Manager.turn Manager.taskTurn
  rw [head]
  dsimp only
  rw [is, Option.bind_some, live]
  exact Option.map_id'

theorem answered_from {manager : Manager} {row : Row} {number : Nat} {task : Task} {print : String}
    (scheduled : Scheduled none manager) (owned : Owned manager) (turn : manager.onTurn number task)
    (is : manager.store task.request.operationId = some row) (prints : fingerprint task.request = some print) :
    AnsweredFrom fingerprint manager row number task print where
  first := by
    intro starting
    rw [Manager.answersOnly, turn_onTurn fingerprint turn, starting]
    have started (kind : Kind) : (match kind with
        | .submit => some ({ manager with ready := manager.ready.tail }.startSubmit fingerprint number task)
        | .execute | .background =>
          some ({ manager with ready := manager.ready.tail }.startExecute fingerprint number task)) =
        some ({ manager with ready := manager.ready.tail }.finish number task
          (if (manager.maintenance task.request.deviceId).isSome then .maintenance else requireSameRequest row print false)) := by
      unfold Manager.startSubmit Manager.startExecute
      dsimp only
      rw [prints, is]
      split <;> split <;> rfl
    exact started task.kind
  again := by
    intro left background polling
    rw [Manager.answersOnly, turn_onTurn fingerprint turn, polling]
    dsimp only
    unfold Manager.poll
    dsimp only
    rw [prints, is]
  behind := by
    intro background submitted
    have waits : task.phase.waits = some background := submitted ▸ rfl
    obtain ⟨other, isOther, _, ended⟩ := scheduled.awaited turn waits
    refine ⟨other, isOther, ended.imp_right (owned.inside background other isOther), ?_⟩
    rw [Manager.answersOnly, turn_onTurn fingerprint turn, submitted]
    dsimp only
    unfold Manager.endSubmit
    dsimp only
    rw [prints, is, isOther]

end invariant

section history
variable (sha256 : List UInt8 → String) (dumps : JsonText.Json → Option (List UInt8))

def gatewayOperations : System Manager Event := operationManager (requestFingerprint sha256 dumps)

/-- Over the whole history the device call of an id is started at most once. Once a row is stored
every later request of its id is answered from it, with a conflict when the fingerprint differs; and
when a `submit` waits for another one and there is no row, that one ended without putting one there. -/
theorem operation_at_most_once {earlier later : Manager} {events : List Event}
    (reached : Reachable (gatewayOperations sha256 dumps) earlier)
    (run : Run (gatewayOperations sha256 dumps) earlier events later) :
    (∀ id, later.calls.count id ≤ 1) ∧
    (∀ id row, earlier.store id = some row → ∃ now, later.store id = some now ∧
      now.requestFingerprint = row.requestFingerprint ∧
      ∀ number task print, later.onTurn number task → task.request.operationId = id →
        requestFingerprint sha256 dumps task.request = some print →
        AnsweredFrom (requestFingerprint sha256 dumps) later now number task print) ∧
    ∀ number task background, later.onTurn number task → task.phase.waits = some background →
      later.store task.request.operationId = none →
      ∃ other, later.tasks background = some other ∧ other.phase.over ∧ other.created = false := by
  have scheduled := (scheduled_invariant (requestFingerprint sha256 dumps)).reachable (reached.run run)
  have owned := (owned_invariant (requestFingerprint sha256 dumps)).reachable (reached.run run)
  refine ⟨owned.once, fun id row is => ?_, fun number task background turn waits absent => ?_⟩
  · obtain ⟨now, isNow, kept⟩ := run_rows (requestFingerprint sha256 dumps) run is
    refine ⟨now, isNow, kept.fingerprint, fun number task print turn same prints => ?_⟩
    subst same
    exact answered_from (requestFingerprint sha256 dumps) scheduled owned turn isNow prints
  · obtain ⟨other, isOther, sameId, ended⟩ := scheduled.awaited turn waits
    have unowned : other.created = false := by
      refine Bool.eq_false_iff.mpr fun created => ?_
      obtain ⟨row, isRow⟩ := owned.stored background other isOther created
      rw [sameId, absent] at isRow
      contradiction
    refine ⟨other, isOther, ended.resolve_right fun inside => ?_, unowned⟩
    rw [owned.inside background other isOther inside] at unowned
    contradiction

end history

section restart

def restartRequest : Request :=
  ⟨"op-1", "dev", "user", "ada", ["operate"], "device.restart", .object [(.str "delay_ms", .int 250)], true⟩

def restartText (value : JsonText.Json) : Option (List UInt8) := some (JsonText.encoded value)

def restartDigest (_ : List UInt8) : String := "513800f446a31e5563e1a5975256f75835767e3c693cccf44493acba0d1dcafb"

def restartPrint : String := "sha256:v1:" ++ restartDigest []

def restartStored : List Event := [.request .execute restartRequest, .turn]

def restartAgain (reserved : Bool) (manager : Manager) : Bool :=
  match manager.ready, manager.tasks 1, manager.store "op-1" with
  | .task 1 :: _, some task, some row =>
    task.cancelled = false && task.request.operationId = "op-1" &&
      requestFingerprint restartDigest restartText task.request = some restartPrint &&
      row.requestFingerprint = some restartPrint && (manager.maintenance task.request.deviceId).isSome = reserved &&
      (match task.phase with | .starting => true | _ => false)
  | _, _, _ => false

theorem restartAgain_spec {reserved : Bool} {manager : Manager} (again : restartAgain reserved manager = true) :
    ∃ task row, manager.onTurn 1 task ∧ task.phase = .starting ∧ task.request.operationId = "op-1" ∧
      requestFingerprint restartDigest restartText task.request = some restartPrint ∧
      manager.store "op-1" = some row ∧ row.requestFingerprint = some restartPrint ∧
      (manager.maintenance task.request.deviceId).isSome = reserved := by
  unfold restartAgain at again
  split at again
  next rest task row head is stored =>
    simp only [Bool.and_eq_true, decide_eq_true_eq] at again
    obtain ⟨⟨⟨⟨⟨live, id⟩, prints⟩, printed⟩, maintained⟩, phase⟩ := again
    refine ⟨task, row, ⟨⟨rest, head⟩, is, live⟩, ?_, id, prints, stored, printed, maintained⟩
    split at phase
    next first => exact first
    next => contradiction
  next => contradiction

theorem restartAgain_reached (reserved : Bool) (device : List Event)
    (passes : ((restartStored ++ device).foldlM (managerNext (requestFingerprint restartDigest restartText))
      (Manager.initial (fun _ => none) [])).any (fun earlier => (earlier.store "op-1").isSome &&
        (managerNext (requestFingerprint restartDigest restartText) earlier (.request .execute restartRequest)).any
          (restartAgain reserved)) = true) :
    ∃ earlier later row, Reachable (gatewayOperations restartDigest restartText) earlier ∧
      Run (gatewayOperations restartDigest restartText) earlier [.request .execute restartRequest] later ∧
      earlier.store "op-1" = some row ∧ restartAgain reserved later = true := by
  obtain ⟨earlier, run, check⟩ : ∃ earlier, Run (gatewayOperations restartDigest restartText)
      (Manager.initial (fun _ => none) []) (restartStored ++ device) earlier ∧ _ := Run.of_check passes
  rw [Bool.and_eq_true] at check
  obtain ⟨row, stored⟩ := Option.isSome_iff_exists.mp check.1
  obtain ⟨later, step, again⟩ := (Option.any_eq_true (restartAgain reserved) _).mp check.2
  exact ⟨earlier, later, row, ⟨_, _, ⟨_, [], rfl⟩, run⟩, Run.single step, stored, again⟩

theorem operation_at_most_once_restart : ∃ manager row task,
    Reachable (gatewayOperations restartDigest restartText) manager ∧ (∀ id, manager.calls.count id ≤ 1) ∧
      manager.store "op-1" = some row ∧ task.phase = .starting ∧
      AnsweredFrom (requestFingerprint restartDigest restartText) manager row 1 task restartPrint := by
  obtain ⟨earlier, later, row, reached, run, stored, again⟩ := restartAgain_reached false [] (by decide +kernel)
  obtain ⟨task, _, turn, first, id, prints, _⟩ := restartAgain_spec again
  obtain ⟨once, answered, _⟩ := operation_at_most_once restartDigest restartText reached run
  obtain ⟨now, isNow, _, from_row⟩ := answered "op-1" row stored
  exact ⟨later, now, task, reached.run run, once, isNow, first, from_row 1 task restartPrint turn id prints⟩

/-- While the device is reserved for maintenance the same request is refused, its row stored or not. -/
theorem repeated_request_refused : ∃ manager row task after,
    Reachable (gatewayOperations restartDigest restartText) manager ∧ manager.onTurn 1 task ∧
      manager.store task.request.operationId = some row ∧
      row.requestFingerprint = requestFingerprint restartDigest restartText task.request ∧
      manager.turn (requestFingerprint restartDigest restartText) = some after ∧
      after.tasks 1 = some { task with phase := .done .maintenance } := by
  obtain ⟨earlier, later, _, reached, run, _, again⟩ := restartAgain_reached true [.reserve "dev"] (by decide +kernel)
  obtain ⟨task, row, turn, first, id, prints, stored, printed, maintained⟩ := restartAgain_spec again
  have reached := reached.run run
  have scheduled := (scheduled_invariant (requestFingerprint restartDigest restartText)).reachable reached
  have owned := (owned_invariant (requestFingerprint restartDigest restartText)).reachable reached
  rw [← id] at stored
  have answered := (answered_from _ scheduled owned turn stored prints).first first
  rw [if_pos maintained] at answered
  exact ⟨later, row, task, _, reached, turn, stored, printed.trans prints.symm, answered, finish_tasks _⟩

end restart

end EspIris.Gateway.Operations
