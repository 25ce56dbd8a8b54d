import EspIris.Gateway.OperationSteps

/-! The ready queue of the event loop: every task that is to have its first turn stands in it, and
nobody stands before the background task he waits for. -/

namespace EspIris.Gateway.Operations
open Machine

def Precedes (manager : Manager) (first second : Ready) : Prop :=
  ∀ number other, first = .task number → second = .task other → number ≠ other ∧
    ∀ waiter awaited, manager.tasks number = some waiter → waiter.phase.waits = some other →
      manager.tasks other = some awaited → awaited.phase ≠ .starting

/-- The tasks and the ready queue; `busy` is the task that has its turn. -/
structure Scheduled (busy : Option Nat) (manager : Manager) : Prop where
  numbered : ∀ number task, manager.tasks number = some task → number < manager.started
  listed : ∀ number, .task number ∈ manager.ready → ∃ task, manager.tasks number = some task
  waiting : ∀ number task, manager.tasks number = some task → task.phase = .starting →
    busy = some number ∨ .task number ∈ manager.ready
  turn : ∀ number, busy = some number → .task number ∉ manager.ready ∧ ∃ task, manager.tasks number = some task
  order : manager.ready.Pairwise (Precedes manager)
  submissions : ∀ id background, manager.submissionIds id = some background →
    ∃ task, manager.tasks background = some task ∧ task.kind = .background ∧ task.request.operationId = id
  waiters : ∀ number task background, manager.tasks number = some task → task.phase.waits = some background →
    ∃ other, manager.tasks background = some other ∧ other.kind = .background ∧
      other.request.operationId = task.request.operationId
  backgrounds : ∀ number task, manager.tasks number = some task → task.kind = .background → task.phase.waits = none

theorem Phase.Follows.starting {old new : Phase} (follows : old.Follows new) (starting : new = .starting) :
    old = .starting := by
  subst starting
  rcases follows with rfl | isOver | ⟨_, inside, _⟩
  · rfl
  · exact absurd isOver Bool.false_ne_true
  · exact absurd inside Bool.false_ne_true

theorem Phase.Follows.waits {old new : Phase} (follows : old.Follows new) {background : Nat}
    (waits : new.waits = some background) : old.waits = some background := by
  rcases follows with rfl | isOver | ⟨_, inside, _⟩
  · exact waits
  · cases new <;> first | exact absurd isOver Bool.false_ne_true | contradiction
  · cases new <;> first | exact absurd inside Bool.false_ne_true | contradiction

theorem Precedes.mono {before after : Manager} {first second : Ready}
    (waits : ∀ number task, .task number = first → after.tasks number = some task → ∀ background, task.phase.waits = some background →
      ∃ old, before.tasks number = some old ∧ old.phase.waits = some background)
    (starting : ∀ number task, .task number = second → after.tasks number = some task → task.phase = .starting →
      ∃ old, before.tasks number = some old ∧ old.phase = .starting)
    (precedes : Precedes before first second) : Precedes after first second := by
  intro number other isFirst isSecond
  obtain ⟨different, isOver⟩ := precedes number other isFirst isSecond
  refine ⟨different, fun waiter awaited isWaiter itWaits isAwaited starts => ?_⟩
  obtain ⟨old, isOld, waited⟩ := waits number waiter isFirst.symm isWaiter other itWaits
  obtain ⟨begun, isBegun, began⟩ := starting other awaited isSecond.symm isAwaited starts
  exact isOver old begun isOld waited isBegun began

theorem Precedes.completed (manager : Manager) (first : Ready) (id : String) : Precedes manager first (.completed id) :=
  fun _ _ _ second => nomatch second

structure QueueFollows (before after : Manager) : Prop where
  tasks : ∀ number old, before.tasks number = some old →
    ∃ now, after.tasks number = some now ∧ now.kind = old.kind ∧ now.request = old.request
  earlier : ∀ number now, after.tasks number = some now → ∃ old, before.tasks number = some old ∧ now.kind = old.kind ∧
    now.request = old.request ∧ (now.phase = .starting → old.phase = .starting) ∧
    ∀ background, now.phase.waits = some background → old.phase.waits = some background
  started : after.started = before.started
  submissionIds : after.submissionIds = before.submissionIds
  ready : ∃ ended : List String, after.ready = before.ready ++ ended.map Ready.completed

theorem Follows.queue {before after : Manager} (follows : Follows before after) : QueueFollows before after where
  tasks := by
    intro number old isOld
    obtain ⟨now, isNow, goes⟩ := follows.tasks number old isOld
    exact ⟨now, isNow, goes.kind, goes.request⟩
  earlier := by
    intro number now isNow
    obtain ⟨old, isOld, goes⟩ := follows.task_before isNow
    exact ⟨old, isOld, goes.kind, goes.request, goes.phase.starting, fun _ => goes.phase.waits⟩
  started := follows.started
  submissionIds := follows.submissionIds
  ready := follows.ready

/-- A task that had its first turn gets a phase in which it waits for nobody. -/
theorem QueueFollows.setTask {manager after : Manager} {number : Nat} {task : Task} (new : Task)
    (is : manager.tasks number = some task) (kind : new.kind = task.kind) (request : new.request = task.request)
    (begun : new.phase ≠ .starting) (free : new.phase.waits = none) (tasks : after.tasks = (manager.setTask number new).tasks)
    (started : after.started = manager.started) (submissionIds : after.submissionIds = manager.submissionIds)
    (ready : after.ready = manager.ready) : QueueFollows manager after where
  tasks := by
    intro other old isOld
    rw [tasks]
    by_cases same : other = number
    · subst same
      cases is.symm.trans isOld
      exact ⟨new, setTask_tasks new, kind, request⟩
    · exact ⟨old, (setTask_other same new).trans isOld, rfl, rfl⟩
  earlier := by
    intro other now isNow
    rw [tasks] at isNow
    by_cases same : other = number
    · subst same
      cases (setTask_tasks new).symm.trans isNow
      refine ⟨task, is, kind, request, fun starting => absurd starting begun, fun background waits => ?_⟩
      rw [free] at waits
      contradiction
    · exact ⟨now, (setTask_other same new).symm.trans isNow, rfl, rfl, id, fun _ => id⟩
  started := started
  submissionIds := submissionIds
  ready := ⟨[], by rw [ready, List.map_nil, List.append_nil]⟩

theorem Scheduled.follows {busy : Option Nat} {before after : Manager} (scheduled : Scheduled busy before)
    (follows : QueueFollows before after) : Scheduled busy after := by
  obtain ⟨ended, ready⟩ := follows.ready
  have same (number : Nat) : Ready.task number ∈ after.ready ↔ Ready.task number ∈ before.ready := by
    rw [ready, List.mem_append]
    refine or_iff_left fun among => ?_
    obtain ⟨id, _, is⟩ := List.mem_map.mp among
    contradiction
  constructor
  · intro number task is
    obtain ⟨old, isOld, _⟩ := follows.earlier number task is
    exact follows.started ▸ scheduled.numbered number old isOld
  · intro number member
    obtain ⟨old, isOld⟩ := scheduled.listed number ((same number).mp member)
    obtain ⟨now, isNow, _⟩ := follows.tasks number old isOld
    exact ⟨now, isNow⟩
  · intro number task is starting
    obtain ⟨old, isOld, _, _, starts, _⟩ := follows.earlier number task is
    rw [same]
    exact scheduled.waiting number old isOld (starts starting)
  · intro number isBusy
    obtain ⟨idle, old, isOld⟩ := scheduled.turn number isBusy
    obtain ⟨now, isNow, _⟩ := follows.tasks number old isOld
    exact ⟨fun member => idle ((same number).mp member), now, isNow⟩
  · rw [ready, List.pairwise_append]
    refine ⟨scheduled.order.imp fun precedes => ?_, ?_, fun first _ second among => ?_⟩
    · refine precedes.mono (fun number now _ isNow background waits => ?_) fun number now _ isNow starting => ?_
      · obtain ⟨old, isOld, _, _, _, waited⟩ := follows.earlier number now isNow
        exact ⟨old, isOld, waited background waits⟩
      · obtain ⟨old, isOld, _, _, starts, _⟩ := follows.earlier number now isNow
        exact ⟨old, isOld, starts starting⟩
    · rw [List.pairwise_map]
      exact List.pairwise_of_forall fun first second => .completed after _ second
    · obtain ⟨id, _, rfl⟩ := List.mem_map.mp among
      exact .completed after first id
  · intro id background holds
    rw [follows.submissionIds] at holds
    obtain ⟨old, isOld, kind, request⟩ := scheduled.submissions id background holds
    obtain ⟨now, isNow, kind', request'⟩ := follows.tasks background old isOld
    exact ⟨now, isNow, kind'.trans kind, request' ▸ request⟩
  · intro number task background is waits
    obtain ⟨old, isOld, _, request, _, waited⟩ := follows.earlier number task is
    obtain ⟨other, isOther, kind, sameId⟩ := scheduled.waiters number old background isOld (waited background waits)
    obtain ⟨now, isNow, kind', request'⟩ := follows.tasks background other isOther
    refine ⟨now, isNow, kind'.trans kind, ?_⟩
    rw [request', request, sameId]
  · intro number task is kind
    obtain ⟨old, isOld, kind', _, _, waited⟩ := follows.earlier number task is
    cases waits : task.phase.waits with
    | none => rfl
    | some background =>
      have none := scheduled.backgrounds number old isOld (kind' ▸ kind)
      rw [waited background waits] at none
      contradiction

section turns
variable {manager : Manager} {number : Nat}

theorem Scheduled.pop {rest : List Ready} (scheduled : Scheduled none manager)
    (head : manager.ready = .task number :: rest) : Scheduled (some number) { manager with ready := rest } := by
  have order := scheduled.order
  rw [head] at order
  obtain ⟨first, others⟩ := List.pairwise_cons.mp order
  refine { scheduled with listed := ?_, waiting := ?_, turn := ?_, order := others }
  · intro other member
    exact scheduled.listed other (head ▸ List.mem_cons_of_mem _ member)
  · intro other task is starting
    have listed := (scheduled.waiting other task is starting).resolve_left nofun
    rw [head, List.mem_cons] at listed
    rcases listed with same | later
    · cases same
      exact .inl rfl
    · exact .inr later
  · intro other same
    cases same
    refine ⟨fun member => ?_, scheduled.listed number (head ▸ List.mem_cons_self)⟩
    exact (first _ member number number rfl rfl).1 rfl

theorem Scheduled.popCompleted {rest : List Ready} {id : String} (scheduled : Scheduled none manager)
    (head : manager.ready = .completed id :: rest) :
    Scheduled none { manager with
      ready := rest
      submissionIds := fun other => if other = id then none else manager.submissionIds other } := by
  have order := scheduled.order
  rw [head] at order
  refine { scheduled with
    listed := ?_, waiting := ?_, turn := nofun, order := (List.pairwise_cons.mp order).2, submissions := ?_ }
  · intro other member
    exact scheduled.listed other (head ▸ List.mem_cons_of_mem _ member)
  · intro other task is starting
    have listed := (scheduled.waiting other task is starting).resolve_left nofun
    rw [head, List.mem_cons] at listed
    exact .inr (listed.resolve_left nofun)
  · intro other background holds
    dsimp only at holds
    split at holds
    · contradiction
    · exact scheduled.submissions other background holds

theorem Scheduled.rest {task : Task} (scheduled : Scheduled (some number) manager)
    (is : manager.tasks number = some task) (begun : task.phase ≠ .starting) : Scheduled none manager := by
  refine { scheduled with waiting := ?_, turn := nofun }
  intro other task isOther starting
  rcases scheduled.waiting other task isOther starting with same | listed
  · cases same
    cases is.symm.trans isOther
    exact absurd starting begun
  · exact .inr listed

theorem Scheduled.sleep {task : Task} {phase : Phase} {background : Nat} (scheduled : Scheduled (some number) manager)
    (is : manager.tasks number = some task) (client : task.kind ≠ .background) (waits : phase.waits = some background)
    (awaits : ∃ other, manager.tasks background = some other ∧ other.kind = .background ∧
      other.request.operationId = task.request.operationId) :
    Scheduled none (manager.sleep number task phase) := by
  have begun : phase ≠ .starting := by
    rintro rfl
    contradiction
  obtain ⟨idle, _⟩ := scheduled.turn number rfl
  have different : background ≠ number := by
    rintro rfl
    obtain ⟨other, isOther, kind, _⟩ := awaits
    cases is.symm.trans isOther
    exact client kind
  -- every other task is the one it was
  have other {number' : Nat} {now : Task} (isNow : (manager.sleep number task phase).tasks number' = some now) :
      (number' = number ∧ now = { task with phase := phase }) ∨ (number' ≠ number ∧ manager.tasks number' = some now) := by
    by_cases same : number' = number
    · subst same
      exact .inl ⟨rfl, (Option.some.inj ((setTask_tasks _).symm.trans isNow)).symm⟩
    · exact .inr ⟨same, (setTask_other same _).symm.trans isNow⟩
  have kept {number' : Nat} {old : Task} (isOld : manager.tasks number' = some old) (apart : number' ≠ number) :
      (manager.sleep number task phase).tasks number' = some old := (setTask_other apart _).trans isOld
  have itself : (manager.sleep number task phase).tasks number = some { task with phase := phase } := setTask_tasks _
  have order : ∀ first ∈ manager.ready, Precedes (manager.sleep number task phase) first (.task number) := by
    intro first member number' other' isFirst isSecond
    cases isSecond
    refine ⟨?_, fun waiter awaited _ _ isAwaited => ?_⟩
    · rintro rfl
      exact idle (isFirst ▸ member)
    · cases itself.symm.trans isAwaited
      exact begun
  constructor
  · intro number' now isNow
    rcases other isNow with ⟨rfl, _⟩ | ⟨_, was⟩
    · exact scheduled.numbered _ task is
    · exact scheduled.numbered _ now was
  · intro number' member
    by_cases same : number' = number
    · subst same
      exact ⟨_, itself⟩
    · rcases List.mem_append.mp member with earlier | last
      · obtain ⟨old, isOld⟩ := scheduled.listed number' earlier
        exact ⟨old, kept isOld same⟩
      · cases List.mem_singleton.mp last
        exact absurd rfl same
  · intro number' now isNow starting
    rcases other isNow with ⟨rfl, rfl⟩ | ⟨apart, was⟩
    · exact absurd starting begun
    · rcases scheduled.waiting number' now was starting with same | listed
      · cases same
        exact absurd rfl apart
      · exact .inr (List.mem_append_left _ listed)
  · nofun
  · refine List.pairwise_append.mpr ⟨?_, List.pairwise_singleton _ _, fun first member second last => ?_⟩
    · refine scheduled.order.imp_of_mem fun {first second} inFirst inSecond precedes => ?_
      refine precedes.mono (fun number' now isFirst isNow waited itWaits => ?_) fun number' now _ isNow starting => ?_
      · rcases other isNow with ⟨rfl, _⟩ | ⟨_, was⟩
        · exact absurd (isFirst ▸ inFirst) idle
        · exact ⟨now, was, itWaits⟩
      · rcases other isNow with ⟨rfl, rfl⟩ | ⟨_, was⟩
        · exact absurd starting begun
        · exact ⟨now, was, starting⟩
    · cases List.mem_singleton.mp last
      exact order first member
  · intro id background' holds
    obtain ⟨old, isOld, kind, request⟩ := scheduled.submissions id background' holds
    by_cases same : background' = number
    · subst same
      cases is.symm.trans isOld
      exact absurd kind client
    · exact ⟨old, kept isOld same, kind, request⟩
  · intro number' now background' isNow itWaits
    have found : ∃ old, manager.tasks background' = some old ∧ old.kind = .background ∧
        old.request.operationId = now.request.operationId := by
      rcases other isNow with ⟨rfl, rfl⟩ | ⟨_, was⟩
      · cases waits.symm.trans itWaits
        exact awaits
      · exact scheduled.waiters number' now background' was itWaits
    obtain ⟨old, isOld, kind, request⟩ := found
    refine ⟨old, kept isOld ?_, kind, request⟩
    rintro rfl
    cases is.symm.trans isOld
    exact client kind
  · intro number' now isNow kind
    rcases other isNow with ⟨_, rfl⟩ | ⟨_, was⟩
    · exact absurd kind client
    · exact scheduled.backgrounds number' now was kind

theorem Scheduled.schedule {busy : Option Nat} (scheduled : Scheduled busy manager) (kind : Kind) (request : Request) :
    Scheduled busy (manager.schedule kind request) := by
  have fresh : manager.tasks manager.started = none := by
    cases is : manager.tasks manager.started with
    | none => rfl
    | some task => exact absurd (scheduled.numbered _ task is) (Nat.lt_irrefl _)
  have itself : (manager.schedule kind request).tasks manager.started = some ⟨kind, request, .starting, false, false⟩ :=
    setTask_tasks _
  have apart {number : Nat} {old : Task} (isOld : manager.tasks number = some old) : number ≠ manager.started := by
    rintro rfl
    rw [fresh] at isOld
    contradiction
  have kept {number : Nat} {old : Task} (isOld : manager.tasks number = some old) :
      (manager.schedule kind request).tasks number = some old := (setTask_other (apart isOld) _).trans isOld
  have other {number : Nat} {now : Task} (isNow : (manager.schedule kind request).tasks number = some now) :
      (number = manager.started ∧ now = ⟨kind, request, .starting, false, false⟩) ∨ manager.tasks number = some now := by
    by_cases same : number = manager.started
    · subst same
      exact .inl ⟨rfl, (Option.some.inj (itself.symm.trans isNow)).symm⟩
    · exact .inr ((setTask_other same _).symm.trans isNow)
  constructor
  · intro number now isNow
    rcases other isNow with ⟨rfl, _⟩ | was
    · exact Nat.lt_succ_self _
    · exact Nat.lt_succ_of_lt (scheduled.numbered number now was)
  · intro number member
    rcases List.mem_append.mp member with earlier | last
    · obtain ⟨old, isOld⟩ := scheduled.listed number earlier
      exact ⟨old, kept isOld⟩
    · cases List.mem_singleton.mp last
      exact ⟨_, itself⟩
  · intro number now isNow starting
    rcases other isNow with ⟨rfl, _⟩ | was
    · exact .inr (List.mem_append_right _ List.mem_cons_self)
    · exact (scheduled.waiting number now was starting).imp_right (List.mem_append_left _)
  · intro number isBusy
    obtain ⟨idle, old, isOld⟩ := scheduled.turn number isBusy
    refine ⟨fun member => ?_, old, kept isOld⟩
    rcases List.mem_append.mp member with earlier | last
    · exact idle earlier
    · cases List.mem_singleton.mp last
      exact absurd rfl (apart isOld)
  · refine List.pairwise_append.mpr ⟨?_, List.pairwise_singleton _ _, fun first member second last => ?_⟩
    · refine scheduled.order.imp_of_mem fun {first second} inFirst inSecond precedes => ?_
      refine precedes.mono (fun number now isFirst isNow waited itWaits => ?_) fun number now isSecond isNow starting => ?_
      · rcases other isNow with ⟨rfl, rfl⟩ | was
        · contradiction
        · exact ⟨now, was, itWaits⟩
      · rcases other isNow with ⟨rfl, rfl⟩ | was
        · obtain ⟨old, isOld⟩ := scheduled.listed _ (isSecond ▸ inSecond)
          exact absurd rfl (apart isOld)
        · exact ⟨now, was, starting⟩
    · cases List.mem_singleton.mp last
      intro number other' isFirst isSecond
      cases isSecond
      obtain ⟨old, isOld⟩ := scheduled.listed number (isFirst ▸ member)
      refine ⟨apart isOld, fun waiter awaited isWaiter itWaits _ => ?_⟩
      -- nobody waits for a number that was not given yet
      rcases other isWaiter with ⟨rfl, _⟩ | was
      · exact absurd rfl (apart isOld)
      · obtain ⟨awaited', isAwaited, _⟩ := scheduled.waiters number waiter _ was itWaits
        exact absurd rfl (apart isAwaited)
  · intro id background holds
    obtain ⟨old, isOld, rest⟩ := scheduled.submissions id background holds
    exact ⟨old, kept isOld, rest⟩
  · intro number now background isNow itWaits
    rcases other isNow with ⟨_, rfl⟩ | was
    · contradiction
    · obtain ⟨old, isOld, rest⟩ := scheduled.waiters number now background was itWaits
      exact ⟨old, kept isOld, rest⟩
  · intro number now isNow isBackground
    rcases other isNow with ⟨_, rfl⟩ | was
    · rfl
    · exact scheduled.backgrounds number now was isBackground

theorem Scheduled.startBackground {task : Task} (scheduled : Scheduled (some number) manager)
    (is : manager.tasks number = some task) (client : task.kind ≠ .background) :
    Scheduled none (manager.startBackground number task) := by
  have added := scheduled.schedule .background task.request
  have itself : (manager.schedule .background task.request).tasks manager.started =
      some ⟨.background, task.request, .starting, false, false⟩ := setTask_tasks _
  have there : (manager.schedule .background task.request).tasks number = some task := by
    refine (setTask_other ?_ _).trans is
    exact Nat.ne_of_lt (scheduled.numbered number task is)
  unfold Manager.startBackground
  refine Scheduled.sleep ?_ there client rfl ⟨_, itself, rfl, rfl⟩
  refine { added with submissions := ?_ }
  intro id background holds
  dsimp only at holds
  split at holds
  next same =>
    cases holds
    exact ⟨_, itself, rfl, same.symm⟩
  next => exact added.submissions id background holds

theorem Scheduled.create {task : Task} {print : String} (scheduled : Scheduled (some number) manager)
    (is : manager.tasks number = some task) : Scheduled none (manager.create number task print) := by
  have follows : QueueFollows manager (manager.create number task print) :=
    .setTask { task with phase := .announcing, created := true } is rfl rfl nofun rfl rfl rfl rfl rfl
  exact (scheduled.follows follows).rest (setTask_tasks _) nofun

theorem Scheduled.taskTurn {task : Task} {after : Manager} (scheduled : Scheduled (some number) manager)
    (is : manager.tasks number = some task) (turn : TaskTurn manager number task after) : Scheduled none after := by
  cases turn with
  | ends outside answer => exact (scheduled.follows (Acts.finish is answer).toFollows.queue).rest (finish_tasks answer) nofun
  | waits client first held => exact scheduled.sleep is client rfl (scheduled.submissions _ _ held)
  | @waitsOn before left background again =>
    have waits : task.phase.waits = some background := again ▸ rfl
    refine scheduled.sleep is (fun kind => ?_) rfl (scheduled.waiters number task background is waits)
    rw [scheduled.backgrounds number task is kind] at waits
    contradiction
  | leaves client first => exact scheduled.startBackground is client
  | creates print first absent => exact scheduled.create is

end turns

theorem Scheduled.empty {manager : Manager} (tasks : ∀ number, manager.tasks number = none)
    (submissionIds : ∀ id, manager.submissionIds id = none) (ready : manager.ready = []) : Scheduled none manager := by
  have absurd_task {number : Nat} {task : Task} (is : manager.tasks number = some task) : False := by
    rw [tasks] at is
    contradiction
  constructor
  · intro number task is
    exact (absurd_task is).elim
  · intro number member
    rw [ready] at member
    contradiction
  · intro number task is
    exact (absurd_task is).elim
  · nofun
  · rw [ready]
    exact .nil
  · intro id background holds
    rw [submissionIds] at holds
    contradiction
  · intro number task background is
    exact (absurd_task is).elim
  · intro number task is
    exact (absurd_task is).elim

theorem Scheduled.startCall {manager : Manager} {number : Nat} {task : Task} (scheduled : Scheduled none manager)
    (is : manager.tasks number = some task) : Scheduled none (manager.startCall number task) := by
  have follows : QueueFollows manager (manager.startCall number task) :=
    .setTask { task with phase := .calling } is rfl rfl nofun rfl rfl rfl rfl rfl
  exact scheduled.follows follows

section invariant
variable (fingerprint : Request → Option String)

theorem scheduled_invariant : Invariant (operationManager fingerprint) (Scheduled none) where
  start := by
    rintro _ ⟨store, reserved, rfl⟩
    exact .empty (fun _ => rfl) (fun _ => rfl) rfl
  step := by
    intro before event after scheduled step
    cases managerNext_moves fingerprint step with
    | goesOn follows => exact scheduled.follows follows.queue
    | requested client request => exact scheduled.schedule _ request
    | started is begun => exact scheduled.startCall is
    | restarted reserved => exact .empty (fun _ => rfl) (fun _ => rfl) rfl
    | turned turns =>
      rcases turn_cases fingerprint turns with ⟨id, rest, head, rfl⟩ | ⟨number, task, rest, head, is, turn⟩
      · exact scheduled.popCompleted head
      · exact (scheduled.pop head).taskTurn is turn

end invariant

end EspIris.Gateway.Operations
