import EspIris.Device.SessionEnd

/-! A handle acts on its own job, and a session end cancels whatever runs, in every run in which
nobody uses a handle whose slot has been taken for another job that runs, and in which no session
ends while the OTA transfer, or the deferred cancel of the system update, still has a running job. -/

namespace EspIris.Device.Jobs
open Codec.Device Machine

def WorkPoint.hasJob (point : WorkPoint) (services : Services) : Bool :=
  match point with
  | .continuing _ progress => progress.hasJob services
  | _ => updateInProgress services

/-- No call of the event goes through a handle whose slot has a running job of another creation.
The handlers of the two transfers need no such care. -/
def OwnHandles (world : ServiceWorld) : ServiceEvent → Prop
  | .appUpdate handle _ => Current world.services.table handle
  | .appFinish handle _ => Current world.services.table handle
  | .settle _ => runsJobCancel world.services = true → UpdateCurrent world.services
  | _ => True

def Pointed (point : WorkPoint) (services : Services) : Prop :=
  match point with
  | .continuing _ (.answered _) => False
  | .continuing _ (.otaDecided _) => services.ota.active = true
  | .continuing _ .updatePrepared => updateInProgress services = true ∧ services.update.job = none
  | .continuing _ .commitEntered => updateInProgress services = true
  | .continuing _ (.commitDecided _) => updateInProgress services = false
  | _ => True

def ofApplication (cancel : Option JobCancel) : Prop := ∀ kind : TransferKind, cancel ≠ some kind.cancel

structure WorldSound (world : ServiceWorld) : Prop where
  table : TableSound (owners (world.point.hasJob world.services) world.services) world.services.table
  published : Published world.services
  names : NamesUpdate world.services
  apps : ∀ handle ∈ world.appHandles, Names ofApplication world.services.table handle
  pointed : Pointed world.point world.services
  alone : world.worker = false → world.point = .resting ∧ world.stage = .idle

def ServiceEvent.serves : ServiceEvent → Bool
  | .settle _ => true
  | _ => false

section steps
variable {sha256 : List UInt8 → List UInt8} {config : ServiceConfig} {world after : ServiceWorld} {serving : Bool}

abbrev WorldMoves (serving : Bool) (before after : ServiceWorld) : Prop :=
  Moves serving (before.point.hasJob before.services) before.services (after.point.hasJob after.services) after.services

/-- An event that moves the jobs keeps what the worker's own facts do not decide. -/
theorem WorldSound.moved (sound : WorldSound world) (moves : WorldMoves serving world after)
    (apps : after.appHandles = world.appHandles) (pointed : Pointed after.point after.services)
    (alone : after.worker = false → after.point = .resting ∧ after.stage = .idle) : WorldSound after where
  table := sound.table.move moves.move
  published := moves.published sound.published
  names := moves.names sound.names
  apps := by
    rw [apps]
    exact fun handle member => (sound.apps handle member).move moves.move
  pointed := pointed
  alone := alone

theorem hasJob_congr {point : WorkPoint} {before after : Services} (update : after.update = before.update) :
    point.hasJob after = point.hasJob before := by
  have same : updateInProgress after = updateInProgress before := by rw [updateInProgress, updateInProgress, update]
  cases point with
  | continuing frame progress => cases progress <;> first | rfl | exact same
  | _ => exact same

theorem Pointed.congr {point : WorkPoint} {before after : Services} (pointed : Pointed point before)
    (ota : after.ota = before.ota) (update : after.update = before.update) : Pointed point after := by
  have same : updateInProgress after = updateInProgress before := by rw [updateInProgress, updateInProgress, update]
  cases point with
  | continuing frame progress => cases progress <;> simp only [Pointed, ota, update, same] at pointed ⊢ <;> exact pointed
  | _ => trivial

variable (serving) in
theorem handleRequest_moves (frame : DecodedFrame) (answers : WorkAnswers)
    (sound : TableSound (owners (updateInProgress world.services) world.services) world.services.table)
    (named : NamesUpdate world.services) :
    Moves serving (updateInProgress world.services) world.services
      ((handleRequest sha256 config world.services frame answers).2.hasJob
        (handleRequest sha256 config world.services frame answers).1)
      (handleRequest sha256 config world.services frame answers).1 := by
  rw [handleRequest]
  split
  next =>
    split
    next => exact (Handles.refl _ world.services).toMoves
    next => exact handleJobCancel_moves sound named
  split
  next =>
    split
    next => exact (Handles.refl _ world.services).toMoves
    next => exact (handleUpdate_handles sha256 config frame answers.backend sound).toMoves
  split
  next => exact (handleOta_handles sha256 config frame answers.ota sound).toMoves
  next => exact (Handles.refl _ world.services).toMoves

def Leaves (frame : DecodedFrame) (done : Services × Progress) : Prop :=
  (∃ reply, done.2 = .answered reply) ∨ Pointed (.continuing frame done.2) done.1

theorem handleBegin_leaves (services : Services) (frame : DecodedFrame) (answers : BackendAnswers) :
    Leaves frame (handleBegin sha256 config services frame answers) := by
  rw [handleBegin]
  dsimp only
  split
  next => exact .inl ⟨_, rfl⟩
  split
  next => split <;> exact .inl ⟨_, rfl⟩
  split
  next => exact .inl ⟨_, rfl⟩
  next => exact .inr ⟨rfl, rfl⟩

theorem handleCommit_leaves (services : Services) (frame : DecodedFrame) :
    Leaves frame (handleCommit services frame) := by
  rw [handleCommit]
  dsimp only
  split
  next => exact .inl ⟨_, rfl⟩
  next => exact .inr rfl

theorem handleUpdate_leaves (services : Services) (frame : DecodedFrame) (answers : BackendAnswers) :
    Leaves frame (handleUpdate sha256 config services frame answers) := by
  rw [handleUpdate]
  dsimp only
  split
  next => exact .inl ⟨_, rfl⟩
  split
  next => exact handleBegin_leaves services frame answers
  repeat' (first | exact handleCommit_leaves services frame | exact .inl ⟨_, rfl⟩ | split)

theorem handleOta_leaves (services : Services) (frame : DecodedFrame) (answers : OtaAnswers) :
    Leaves frame (handleOta sha256 config services frame answers) := by
  rw [handleOta]
  dsimp only
  split
  next => exact .inl ⟨_, rfl⟩
  split
  next => exact .inl ⟨_, rfl⟩
  split
  next => exact .inl ⟨_, rfl⟩
  next active =>
    split
    next => exact .inl ⟨_, rfl⟩
    split
    next => exact .inl ⟨_, rfl⟩
    split
    next =>
      have still : services.ota.active = true := Bool.not_eq_false _ ▸ active
      exact .inr still
    next => exact .inl ⟨_, rfl⟩

theorem handleRequest_leaves (services : Services) (frame : DecodedFrame) (answers : WorkAnswers) :
    Leaves frame (handleRequest sha256 config services frame answers) := by
  rw [handleRequest]
  split
  next => split <;> exact .inl ⟨_, rfl⟩
  split
  next =>
    split
    next => exact .inl ⟨_, rfl⟩
    next => exact handleUpdate_leaves services frame answers.backend
  split
  next => exact handleOta_leaves services frame answers.ota
  next => exact .inl ⟨_, rfl⟩

variable (serving) in
theorem continueRequest_moves {services : Services} {frame : DecodedFrame} {progress : Progress}
    (answers : WorkAnswers) (sound : TableSound (owners (progress.hasJob services) services) services.table)
    (pointed : Pointed (.continuing frame progress) services) :
    Moves serving (progress.hasJob services) services
      ((continueRequest config services frame progress answers).2.hasJob
        (continueRequest config services frame progress answers).1)
      (continueRequest config services frame progress answers).1 ∧
    Leaves frame (continueRequest config services frame progress answers) := by
  cases progress with
  | answered reply => exact pointed.elim
  | otaDecided result =>
    refine ⟨?_, .inl ⟨_, rfl⟩⟩
    have finished : Handles serving (updateInProgress services) services (updateInProgress services)
        (otaFinish services frame result).1 := otaFinish_handles sound pointed result
    exact (Handles.of_ota (show (otaFinish services frame result).1.update = services.update from rfl) finished).toMoves
  | updatePrepared => exact ⟨(beginJob_handles config frame sound pointed.1).toMoves, .inl ⟨_, rfl⟩⟩
  | commitEntered =>
    obtain ⟨handles, isOver⟩ := commitDecide_handles answers.backend pointed
    exact ⟨handles.toMoves, .inr isOver⟩
  | commitDecided err => exact ⟨(commitFinish_handles frame err sound pointed).toMoves, .inl ⟨_, rfl⟩⟩

/-- The worker is at a part of a handler, or settles, once it has left the one before. -/
theorem afterPart_point (world : ServiceWorld) {frame : DecodedFrame} {done : Services × Progress}
    (leaves : Leaves frame done) :
    (afterPart world frame done).services = done.1 ∧
    (afterPart world frame done).appHandles = world.appHandles ∧
    (afterPart world frame done).worker = world.worker ∧
    (afterPart world frame done).point.hasJob done.1 = done.2.hasJob done.1 ∧
    Pointed (afterPart world frame done).point done.1 := by
  obtain ⟨services, progress⟩ := done
  cases progress with
  | answered reply => exact ⟨rfl, rfl, rfl, rfl, trivial⟩
  | _ =>
    rcases leaves with ⟨reply, answered⟩ | pointed
    · cases answered
    · exact ⟨rfl, rfl, rfl, rfl, pointed⟩

section sound
variable (sound : WorldSound world)
include sound

/-- A part of a handler that moves the jobs, then the point that it leaves. -/
theorem afterPart_sound {frame : DecodedFrame} {done : Services × Progress} {noted : ServiceWorld}
    (busy : world.point ≠ .resting)
    (moves : Moves serving (world.point.hasJob world.services) world.services (done.2.hasJob done.1) done.1)
    (leaves : Leaves frame done) (services : noted.services = (afterPart world frame done).services)
    (point : noted.point = (afterPart world frame done).point)
    (apps : noted.appHandles = (afterPart world frame done).appHandles)
    (worker : noted.worker = (afterPart world frame done).worker) :
    WorldMoves serving world noted ∧ WorldSound noted := by
  obtain ⟨left, handles, still, hasJob, pointed⟩ := afterPart_point world leaves
  have moved : WorldMoves serving world noted := by
    rw [WorldMoves, services, point, left, hasJob]
    exact moves
  refine ⟨moved, sound.moved moved (apps.trans handles) ?_ fun alone => ?_⟩
  · rw [services, point, left]
    exact pointed
  · rw [worker, still] at alone
    exact absurd (sound.alone alone).1 busy

theorem workStep_sound {answers : WorkAnswers} (step : workStep sha256 config world answers = some after) :
    WorldMoves serving world after ∧ WorldSound after := by
  rw [workStep] at step
  dsimp only at step
  split at step
  next frame here =>
    have before : world.point.hasJob world.services = updateInProgress world.services := by rw [here]; rfl
    have table := sound.table
    rw [before] at table
    have moves := @handleRequest_moves sha256 config world serving frame answers table sound.names
    rw [← before] at moves
    have leaves := @handleRequest_leaves sha256 config world.services frame answers
    cases step
    exact afterPart_sound sound (by rw [here]; nofun) moves leaves rfl rfl rfl rfl
  next frame progress here =>
    have before : world.point.hasJob world.services = progress.hasJob world.services := by rw [here]; rfl
    have table := sound.table
    rw [before] at table
    have pointed := sound.pointed
    rw [here] at pointed
    obtain ⟨moves, leaves⟩ := @continueRequest_moves config serving _ _ _ answers table pointed
    rw [← before] at moves
    cases step
    exact afterPart_sound sound (by rw [here]; nofun) moves leaves rfl rfl rfl rfl
  next => contradiction

theorem settleStep_sound {finishing : Nat → Option EspErr}
    (current : runsJobCancel world.services = true → UpdateCurrent world.services)
    (step : settleStep world finishing = some after) : WorldMoves true world after ∧ WorldSound after := by
  rw [settleStep] at step
  dsimp only at step
  split at step
  next cleaned here =>
    have before : world.point.hasJob world.services = updateInProgress world.services := by rw [here]; rfl
    have table := sound.table
    rw [before] at table
    split at step
    next =>
      have moved : WorldMoves true world after := by
        cases step
        rw [WorldMoves, before]
        exact (Handles.refl _ world.services).toMoves
      refine ⟨moved, sound.moved moved ?_ ?_ ?_⟩ <;> cases step
      · rfl
      · trivial
      · exact fun alone => absurd (sound.alone alone).1 (by rw [here]; nofun)
    have moved : WorldMoves true world after := by
      have moves := settleServices_moves finishing table sound.names current
      cases step
      rw [WorldMoves, before]
      exact moves
    refine ⟨moved, sound.moved moved ?_ ?_ ?_⟩ <;> cases step
    · rfl
    · trivial
    · exact fun alone => absurd (sound.alone alone).1 (by rw [here]; nofun)
  next => contradiction

/-- An event of another task: it leaves the transfers and the worker alone, and moves the table. -/
theorem WorldSound.tabled {own : Owners} (own_is : own = owners (world.point.hasJob world.services) world.services)
    (move : TableMove serving own world.services.table own after.services.table)
    (ota : after.services.ota = world.services.ota) (update : after.services.update = world.services.update)
    (point : after.point = world.point) (apps : after.appHandles = world.appHandles)
    (worker : after.worker = false → world.worker = false ∧ (world.stage = .idle → after.stage = .idle)) :
    WorldMoves serving world after ∧ WorldSound after := by
  have same : owners (after.point.hasJob after.services) after.services =
      owners (world.point.hasJob world.services) world.services :=
    owners_congr (congrArg Ota.active ota) (congrArg Ota.job ota) (congrArg SystemUpdate.job update)
      (by rw [point]; exact hasJob_congr update)
  have moved : WorldMoves serving world after := by
    refine .of_move ?_ (congrArg SystemUpdate.job update) fun shown => ?_
    · rw [same, ← own_is]
      exact move
    · rw [Published, update]
      exact shown
  refine ⟨moved, sound.moved moved apps ?_ fun alone => ?_⟩
  · rw [point]
    exact sound.pointed.congr ota update
  · obtain ⟨before, stage⟩ := worker alone
    obtain ⟨resting, idle⟩ := sound.alone before
    exact ⟨point.trans resting, stage idle⟩

theorem WorldSound.flagged (table : after.services.table = world.services.table)
    (ota : after.services.ota = world.services.ota) (update : after.services.update = world.services.update)
    (point : after.point = world.point) (apps : after.appHandles = world.appHandles)
    (worker : after.worker = false → world.worker = false ∧ (world.stage = .idle → after.stage = .idle)) :
    WorldMoves serving world after ∧ WorldSound after :=
  sound.tabled rfl (by rw [table]; exact .refl _ _) ota update point apps worker

theorem dispatchStep_sound {frame : DecodedFrame} {ensured : Bool}
    (step : dispatchStep config world frame ensured = some after) :
    WorldMoves serving world after ∧ WorldSound after := by
  rw [dispatchStep] at step
  split at step
  next => contradiction
  split at step
  next =>
    dsimp only at step
    split at step
    next =>
      cases step
      exact sound.flagged rfl rfl rfl rfl rfl nofun
    cases step
    exact sound.flagged rfl rfl rfl rfl rfl fun alone => ⟨alone, id⟩
  next =>
    cases step
    exact sound.flagged rfl rfl rfl rfl rfl fun alone => ⟨alone, id⟩
  next =>
    cases step
    exact sound.flagged rfl rfl rfl rfl rfl fun alone => ⟨alone, id⟩
  cases step
  exact sound.flagged rfl rfl rfl rfl rfl fun alone => ⟨alone, id⟩

end sound

/-- The locked half of a busy branch: it marks a job, raises a flag, or does nothing. -/
theorem busyAnswer_shape (world : ServiceWorld) (frame : DecodedFrame) :
    (busyAnswer config world frame).1.ota = world.services.ota ∧
    (busyAnswer config world frame).1.update = world.services.update ∧
    ((busyAnswer config world frame).1.table = world.services.table ∨
      ∃ slot job, world.services.table.job slot = some job ∧ job.info.state = .running ∧
        (busyAnswer config world frame).1.table = world.services.table.write slot (job.marked true) []) := by
  rw [busyAnswer]
  split
  next =>
    split
    next => exact ⟨rfl, rfl, .inl rfl⟩
    have shape : (requestUpdateCancel world.services frame).1.ota = world.services.ota ∧
        (requestUpdateCancel world.services frame).1.update = world.services.update ∧
        (requestUpdateCancel world.services frame).1.table = world.services.table := by
      rw [requestUpdateCancel]
      split
      · exact ⟨rfl, rfl, rfl⟩
      · split <;> exact ⟨rfl, rfl, rfl⟩
    dsimp only
    split
    next => exact ⟨rfl, rfl, .inl rfl⟩
    next => exact ⟨shape.1, shape.2.1, .inl shape.2.2⟩
  next => exact ⟨rfl, rfl, .inl rfl⟩
  next => split <;> exact ⟨rfl, rfl, .inl rfl⟩
  next =>
    rw [deferJobCancel]
    split
    next => exact ⟨rfl, rfl, .inl rfl⟩
    next slot _ =>
      split
      next => exact ⟨rfl, rfl, .inl rfl⟩
      next job held =>
        dsimp only
        split
        next => exact ⟨rfl, rfl, .inl rfl⟩
        split
        next running => exact ⟨rfl, rfl, .inr ⟨slot, job, held, running, rfl⟩⟩
        next => exact ⟨rfl, rfl, .inl rfl⟩
  next => exact ⟨rfl, rfl, .inl rfl⟩
  next => exact ⟨rfl, rfl, .inl rfl⟩

theorem answerBusy_sound (sound : WorldSound world) (step : answerBusy config world = some after) :
    WorldMoves serving world after ∧ WorldSound after := by
  rw [answerBusy, Option.map_eq_some_iff] at step
  obtain ⟨frame, _, rfl⟩ := step
  obtain ⟨ota, update, table⟩ := @busyAnswer_shape config world frame
  rcases table with same | ⟨slot, job, held, _, marked⟩
  · exact sound.flagged same ota update rfl rfl fun alone => ⟨alone, id⟩
  · refine sound.tabled rfl ?_ ota update rfl rfl fun alone => ⟨alone, id⟩
    show TableMove serving _ _ _ (busyAnswer config world frame).1.table
    rw [marked]
    exact marked_move held true

theorem appCreate_sound {kind : UInt16} {userCtx : Option Nat} (sound : WorldSound world)
    (step : serviceStep sha256 config world (.appCreate kind userCtx) = some after) :
    WorldMoves serving world after ∧ WorldSound after := by
  rw [serviceStep] at step
  split at step
  next =>
    cases step
    exact sound.flagged rfl rfl rfl rfl rfl fun alone => ⟨alone, id⟩
  next table handle made =>
    have created : TableMove serving (owners (world.point.hasJob world.services) world.services) world.services.table
        ((owners (world.point.hasJob world.services) world.services).add (userCtx.map .application) handle) table :=
      .created _ made fun transfer callback => by cases userCtx <;> cases transfer <;> cases callback
    rw [Owners.add_application] at created
    have tabled : WorldMoves serving world { world with services := setTable world.services table } ∧
        WorldSound { world with services := setTable world.services table } :=
      sound.tabled rfl created rfl rfl rfl rfl fun alone => ⟨alone, id⟩
    have noted := tabled.2
    cases step
    refine ⟨setTable_moves created, noted.table, noted.published, noted.names, fun other member => ?_, noted.pointed,
      noted.alone⟩
    rcases List.mem_append.mp member with old | new
    · exact noted.apps other old
    · cases List.mem_singleton.mp new
      rcases jobCreate_cases world.services.table kind (userCtx.map .application) with
        ⟨code, refused⟩ | ⟨slot, inside, _, creates⟩
      · rw [refused] at made
        cases made
      · rw [creates] at made
        cases made
        refine ⟨Nat.lt_succ_self _, fun job held _ => ?_⟩
        rcases Slots.get_put_cases held with ⟨_, rfl⟩ | ⟨elsewhere, _⟩
        · intro transfer callback
          cases userCtx <;> cases transfer <;> cases callback
        · exact absurd rfl elsewhere

theorem claim_sound (sound : WorldSound world) (step : serviceStep sha256 config world .claim = some after) :
    WorldMoves serving world after ∧ WorldSound after := by
  rw [serviceStep] at step
  split at step
  next frame here queued _ =>
    have before : world.point.hasJob world.services = updateInProgress world.services := by rw [here]; rfl
    have hasJob : ∀ isOver : Bool, (if isOver = true then WorkPoint.settling false else .handling frame).hasJob
        world.services = updateInProgress world.services := fun isOver => by cases isOver <;> rfl
    have pointed : ∀ isOver : Bool, Pointed (if isOver = true then WorkPoint.settling false else .handling frame)
        world.services := fun isOver => by cases isOver <;> trivial
    have moved : WorldMoves serving world after := by
      cases step
      rw [WorldMoves, before, hasJob]
      exact (Handles.refl _ world.services).toMoves
    refine ⟨moved, sound.moved moved ?_ ?_ ?_⟩ <;> cases step
    · rfl
    · exact pointed _
    · intro alone
      rw [(sound.alone alone).2] at queued
      contradiction
  next => contradiction

theorem sessionEndStep_sound {finishing : Nat → Option EspErr} (sound : WorldSound world)
    (step : some (sessionEndStep world finishing) = some after) : WorldMoves serving world after ∧ WorldSound after := by
  cases step
  rw [sessionEndStep]
  split
  next none =>
    have here := (sound.alone none).1
    have before : world.point.hasJob world.services = updateInProgress world.services := by rw [here]; rfl
    have table := sound.table
    rw [before] at table
    have moved : WorldMoves serving world { world with services := sessionEndNow world.services finishing } := by
      rw [WorldMoves, here]
      exact sessionEndNow_moves finishing table
    refine ⟨moved, sound.moved moved rfl ?_ sound.alone⟩
    show Pointed world.point _
    rw [here]
    trivial
  next some => exact sound.flagged rfl rfl rfl rfl rfl fun alone => absurd alone some

/-- Every event that keeps to its own handles moves the jobs, and keeps the facts about them. -/
theorem serviceStep_sound {event : ServiceEvent} (sound : WorldSound world) (own : OwnHandles world event)
    (step : serviceStep sha256 config world event = some after) : WorldMoves event.serves world after ∧ WorldSound after := by
  cases event with
  | appCreate kind userCtx => exact appCreate_sound sound step
  | appUpdate handle progressPermille =>
    rw [serviceStep, Option.ite_none_right_eq_some] at step
    obtain ⟨_, step⟩ := step
    cases step
    exact sound.tabled rfl (jobUpdate_move own progressPermille) rfl rfl rfl rfl fun alone => ⟨alone, id⟩
  | appFinish handle result =>
    rw [serviceStep, Option.ite_none_right_eq_some] at step
    obtain ⟨member, step⟩ := step
    cases step
    exact sound.tabled rfl (finish_unowned sound.table own (sound.apps handle member) result) rfl rfl rfl rfl
      fun alone => ⟨alone, id⟩
  | dispatch frame ensured => exact dispatchStep_sound sound step
  | answerBusy => exact answerBusy_sound sound step
  | claim => exact claim_sound sound step
  | work answers => exact workStep_sound sound step
  | settle finishing => exact settleStep_sound sound own step
  | drain =>
    rw [serviceStep, Option.ite_none_right_eq_some] at step
    obtain ⟨_, step⟩ := step
    cases step
    exact sound.flagged rfl rfl rfl rfl rfl fun alone => ⟨alone, fun _ => rfl⟩
  | reap =>
    rw [serviceStep, Option.ite_none_right_eq_some] at step
    obtain ⟨free, step⟩ := step
    have moved : WorldMoves false world after := by
      cases step
      exact (Handles.refl _ world.services).toMoves
    refine ⟨moved, sound.moved moved ?_ ?_ fun _ => ?_⟩ <;> cases step
    · rfl
    · exact sound.pointed
    · exact ⟨free.2, free.1⟩
  | sessionEnd finishing =>
    rw [serviceStep, Option.ite_none_right_eq_some] at step
    exact sessionEndStep_sound sound step.2

end steps

/-! The session end, for every job that runs when it comes. -/

/-- Every job that ran was called back once, where it has a callback, and then ended as cancelled;
nothing else was noted of it. -/
def EndsCancelled (before after : JobTable) : Prop :=
  ∃ notes, after.notes = before.notes ++ notes ∧
    ∀ slot job, before.job slot = some job → job.info.state = .running →
      notes.filter (fun note => note.about = job.serial) = endNotes job

theorem filter_flatMap_one {α : Type} {keep : α → Bool} {f : Nat → List α} {slot : Nat} {slots : List Nat}
    (once : slots.Nodup) (member : slot ∈ slots) (own : ∀ note ∈ f slot, keep note = true)
    (others : ∀ other ∈ slots, other ≠ slot → ∀ note ∈ f other, keep note = false) :
    (slots.flatMap f).filter keep = f slot := by
  induction slots with
  | nil => exact absurd member List.not_mem_nil
  | cons first rest ih =>
    obtain ⟨new, once⟩ := List.nodup_cons.mp once
    rw [List.flatMap_cons, List.filter_append]
    by_cases here : first = slot
    · subst here
      have none : (rest.flatMap f).filter keep = [] := by
        rw [List.filter_eq_nil_iff]
        intro note noted
        obtain ⟨other, inside, from_other⟩ := List.mem_flatMap.mp noted
        rw [others other (List.mem_cons_of_mem _ inside) (fun same => new (same ▸ inside)) note from_other]
        exact Bool.false_ne_true
      rw [none, List.append_nil, List.filter_eq_self]
      exact own
    · have none : (f first).filter keep = [] := by
        rw [List.filter_eq_nil_iff]
        intro note noted
        rw [others first List.mem_cons_self here note noted]
        exact Bool.false_ne_true
      rw [none, List.nil_append]
      exact ih once ((List.mem_cons.mp member).resolve_left fun same => here same.symm)
        fun other inside => others other (List.mem_cons_of_mem _ inside)

theorem endNotes_about {job : Job} {note : JobNote} (member : note ∈ endNotes job) : note.about = job.serial := by
  rw [endNotes, calledNotes] at member
  rcases List.mem_append.mp member with called | ended
  · split at called
    · rw [List.mem_singleton.mp called]
      rfl
    · exact absurd called List.not_mem_nil
  · rcases List.mem_cons.mp ended with rfl | last
    · rfl
    · rw [List.mem_singleton.mp last]
      rfl

theorem sessionEndNow_cancels {services : Services} {own : Owners} (finishing : Nat → Option EspErr)
    (sound : TableSound own services.table) (inactive : services.ota.active = false) :
    EndsCancelled services.table (sessionEndNow services finishing).table := by
  obtain ⟨table, ota, _, _, _, _⟩ := updateSessionEnd_shape services
  have aborted : otaAbort (updateSessionEnd services) EspErr.invalidState = updateSessionEnd services :=
    otaAbort_inactive (by rw [ota]; exact inactive) _
  have visited := sessionEndNow_visited finishing services
  rw [aborted] at visited
  have notes := visited.notes
  rw [table] at notes
  refine ⟨_, notes, fun slot job held running => ?_⟩
  have content : slotNotes (services.table.job slot) = endNotes job := by rw [held, slotNotes, if_pos running]
  rw [← content]
  refine filter_flatMap_one List.nodup_range (List.mem_range.mpr (Slots.inside_of_get held)) ?_ ?_
  · intro note member
    rw [content] at member
    exact decide_eq_true (endNotes_about member)
  · intro other _ elsewhere note member
    cases found : services.table.job other with
    | none =>
      rw [found] at member
      exact absurd member List.not_mem_nil
    | some another =>
      rw [found, slotNotes] at member
      split at member
      next =>
        rw [endNotes_about member]
        exact decide_eq_false fun same => elsewhere (sound.distinct other slot another job found held same)
      next => exact absurd member List.not_mem_nil

/-- When a session ends, no transfer has a running job that is not left to the loop over the jobs:
no OTA transfer is active, and where the worker ends the session no client's cancel waits for it and
the handle of the system update leads to no running job. -/
def EndsClean (world : ServiceWorld) : ServiceEvent → Prop
  | .sessionEnd _ => world.worker = false → world.services.ota.active = false
  | .settle _ => world.services.abandoned = true → world.services.ota.active = false ∧
      pendingSlot world.services.table = none ∧
      ∀ handle, world.services.update.job = some handle → ∀ job, world.services.table.job handle.slot = some job →
        job.info.state ≠ .running
  | _ => True

def EndsSession (world : ServiceWorld) : ServiceEvent → Prop
  | .sessionEnd _ => world.worker = false
  | .settle _ => world.services.abandoned = true
  | _ => False

def KeepsToOwn (world : ServiceWorld) (event : ServiceEvent) : Prop := OwnHandles world event ∧ EndsClean world event

section isolation
variable {sha256 : List UInt8 → List UInt8} {config : ServiceConfig} {world after : ServiceWorld}

theorem WorldSound.initial (backendRegistered : Bool) : WorldSound (.initial config backendRegistered) where
  table := by
    have none : owners (updateInProgress (.initial config backendRegistered)) (.initial config backendRegistered) =
        fun _ => Option.none := by
      funext kind
      cases kind <;> rfl
    show TableSound (owners (updateInProgress (.initial config backendRegistered))
      (Services.initial config backendRegistered)) _
    rw [none]
    exact .initial config.maxJobs
  published := rfl
  names := .none rfl
  apps := fun handle member => absurd member List.not_mem_nil
  pointed := trivial
  alone := fun _ => ⟨rfl, rfl⟩

theorem worldSound_invariant (allowed : ServiceWorld → ServiceEvent → Prop)
    (own : ∀ world event, allowed world event → OwnHandles world event) :
    Invariant ((serviceSystem sha256 config).guarded allowed) WorldSound where
  start := by
    rintro world ⟨backendRegistered, rfl⟩
    exact .initial backendRegistered
  step := fun before event after sound step => (serviceStep_sound sound (own before event step.1) step.2).2

/-- `job_cancel` with a handle that leads to no running job ends none. -/
theorem jobCancel_table {services : Services}
    (unnamed : ∀ handle, services.update.job = some handle → ∀ job, services.table.job handle.slot = some job →
      job.info.state ≠ .running) : (jobCancel services).table = services.table ∧
        (jobCancel services).ota = services.ota := by
  obtain ⟨table, ota, job, _, _, _⟩ := @backendAbort_shape services EspErr.invalidState .cancelled rfl
  refine ⟨?_, ota⟩
  rw [jobCancel, finishUpdateJob, table, job]
  cases named : services.update.job with
  | none => rfl
  | some handle =>
    rcases jobFinish_cases services.table handle EspErr.invalidState with ⟨same, _⟩ | ⟨found, held, running, _⟩
    · exact same
    · exact absurd running (unnamed handle named found held)

/-- A pass that ends a session comes to the loop over the jobs with the table as it was. -/
theorem abortedServices_table {services : Services} (finishing : Nat → Option EspErr)
    (inactive : services.ota.active = false) (unpending : pendingSlot services.table = none)
    (unnamed : ∀ handle, services.update.job = some handle → ∀ job, services.table.job handle.slot = some job →
      job.info.state ≠ .running) :
    (abortedServices services finishing).table = services.table ∧
      (abortedServices services finishing).ota.active = false := by
  have served : serveCancel (taken services) finishing = taken services := by
    rw [serveCancel, show pendingSlot (taken services).table = none from unpending]
  have polled : (polledServices services finishing).table = services.table ∧
      (polledServices services finishing).ota = services.ota := by
    rw [polledServices, served]
    split
    next =>
      rw [pollUpdateCancel]
      split
      next => exact @jobCancel_table { taken services with updateCancel := false } unnamed
      next => exact ⟨rfl, rfl⟩
    next => exact ⟨rfl, rfl⟩
  have still : (polledServices services finishing).ota.active = false := by rw [polled.2]; exact inactive
  rw [abortedServices]
  split
  next =>
    rw [otaAbort_inactive still]
    exact ⟨polled.1, still⟩
  next => exact ⟨polled.1, still⟩

theorem settle_cancels {finishing : Nat → Option EspErr} (sound : WorldSound world)
    (clean : EndsClean world (.settle finishing)) (isOver : world.services.abandoned = true)
    (step : serviceStep sha256 config world (.settle finishing) = some after) :
    EndsCancelled world.services.table after.services.table := by
  obtain ⟨inactive, unpending, unnamed⟩ := clean isOver
  obtain ⟨table, still⟩ := abortedServices_table finishing inactive unpending unnamed
  rw [serviceStep, settleStep] at step
  split at step
  next cleaned here =>
    dsimp only at step
    rw [if_neg (fun none => Bool.false_ne_true (none.1.symm.trans isOver))] at step
    have cancels := @sessionEndNow_cancels (abortedServices world.services finishing) _ finishing
      (by rw [table]; exact sound.table) still
    rw [table] at cancels
    cases step
    show EndsCancelled _ (settleServices world.services finishing).table
    rw [settleServices_eq, if_pos isOver]
    exact cancels
  next => contradiction

theorem sessionEnd_cancels {finishing : Nat → Option EspErr} (sound : WorldSound world)
    (clean : EndsClean world (.sessionEnd finishing)) (alone : world.worker = false)
    (step : serviceStep sha256 config world (.sessionEnd finishing) = some after) :
    EndsCancelled world.services.table after.services.table := by
  rw [serviceStep, Option.ite_none_right_eq_some] at step
  obtain ⟨_, step⟩ := step
  rw [sessionEndStep, if_pos alone] at step
  cases step
  exact sessionEndNow_cancels finishing sound.table (clean alone)

/-- Where nobody uses a handle whose slot was taken for another running job, and sessions end clean,
a call acts on the job of its handle, and every job that runs when a session ends is called back once
and cancelled. -/
theorem handles_isolated (reached : Reachable ((serviceSystem sha256 config).guarded KeepsToOwn) world) :
    (∀ through serial, .acted through serial ∈ world.services.table.notes → through = serial) ∧
    ∀ event after, KeepsToOwn world event → serviceStep sha256 config world event = some after →
      EndsSession world event → EndsCancelled world.services.table after.services.table := by
  have sound := (worldSound_invariant KeepsToOwn fun _ _ both => both.1).reachable reached
  refine ⟨sound.table.acted, fun event after keeps step ends => ?_⟩
  cases event with
  | settle finishing => exact settle_cancels sound keeps.2 ends step
  | sessionEnd finishing => exact sessionEnd_cancels sound keeps.2 ends step
  | _ => exact ends.elim

end isolation

/-! A device with room for one job, to which a client sends a BEGIN of a system update and a CANCEL. -/

def oneJobConfig : ServiceConfig where
  maxJobs := 1
  otaEnabled := true
  otaChunkBytes := 1024
  requireProjectNameMatch := false
  updateChunkBytes := 1024
  manifestBytes := 1024
  signatureBytes := 256
  maxComponents := 4

/-- The SHA-256 digest of the byte seven. -/
def digestOfSeven : List UInt8 → List UInt8 := fun _ =>
  [0xca, 0x35, 0x87, 0x58, 0xf6, 0xd2, 0x7e, 0x6c, 0xf4, 0x52, 0x72, 0x93, 0x79, 0x77, 0xa7, 0x48, 0xfd, 0x88, 0x39,
    0x1d, 0xb6, 0x79, 0xce, 0xda, 0x7d, 0xc7, 0xbf, 0x1f, 0x00, 0x5e, 0xe8, 0x79]

def requestFrame (channel type : UInt8) (payload : List UInt8) : DecodedFrame where
  header := ⟨channel, type, 0, 1, 1, 0, 1, UInt32.ofNat payload.length⟩
  payload := payload

def operationOne : List UInt8 := 1 :: List.replicate 15 0

def beginFrame : DecodedFrame :=
  requestFrame Channel.systemUpdate SystemUpdateType.begin
    (operationOne ++ irisPutLe16 1 ++ irisPutLe16 0 ++ [1, 0] ++ irisPutLe16 0 ++ digestOfSeven [7] ++ [7])

def cancelFrame : DecodedFrame := requestFrame Channel.systemUpdate SystemUpdateType.cancel operationOne

def allWell : WorkAnswers where
  ota := ⟨none, true, true, 0, true, 0, true, 0, .error 0, [], 0, 0, 0⟩
  backend := ⟨true, true, true, 0, 0, 0, 0, 0⟩
  rpcRefused := none
  rpcExpired := false
  rpcResult := 0
  inventory := []
  finishing := fun _ => none

def served (frame : DecodedFrame) (parts : Nat) : List ServiceEvent :=
  [.dispatch frame true, .claim] ++ List.replicate parts (.work allWell) ++ [.settle fun _ => none, .drain]

def reusedSlot : List ServiceEvent :=
  served beginFrame 2 ++ served cancelFrame 1 ++ [.appCreate 7 (some 0), .sessionEnd fun _ => none, .claim]

theorem EndsCancelled.ended {before after : JobTable} (ends : EndsCancelled before after) {slot : Nat} {job : Job}
    (held : before.job slot = some job) (running : job.info.state = .running) :
    .ended job.serial .cancelled ∈ after.notes := by
  obtain ⟨notes, grows, cancelled⟩ := ends
  have member : .ended job.serial .cancelled ∈ notes.filter fun note => note.about = job.serial := by
    rw [cancelled slot job held running, endNotes]
    exact List.mem_append_right _ (List.mem_cons_of_mem _ (List.mem_singleton.mpr rfl))
  rw [grows]
  exact List.mem_append_right _ (List.mem_filter.mp member).1

def settledNow (world : ServiceWorld) : Option ServiceWorld :=
  serviceStep digestOfSeven oneJobConfig world (.settle fun _ => none)

def spoiled (world : ServiceWorld) : Bool := world.services.abandoned = true ∧
  (world.services.table.job 0).any (fun job => job.info.state = .running ∧ job.serial = 1) = true ∧
  (settledNow world).any (fun after => after.services.table.notes.contains (.acted 0 1) ∧
    ¬ after.services.table.notes.contains (.ended 1 .cancelled)) = true

/-- The deferred cancel of the system update ends the application's job: through a handle that was
returned for another one, and as failed. -/
theorem stale_handle_ends_job :
    ¬ (∀ world, Reachable (serviceSystem digestOfSeven oneJobConfig) world →
      ∀ through serial, .acted through serial ∈ world.services.table.notes → through = serial) ∧
    ¬ (∀ world, Reachable (serviceSystem digestOfSeven oneJobConfig) world →
      ∀ event after, serviceStep digestOfSeven oneJobConfig world event = some after → EndsSession world event →
        EndsCancelled world.services.table after.services.table) := by
  obtain ⟨world, run, checked⟩ : ∃ world, Run (serviceSystem digestOfSeven oneJobConfig) (.initial oneJobConfig true)
      reusedSlot world ∧ spoiled world = true := Run.of_check (by decide +kernel)
  have reached : Reachable (serviceSystem digestOfSeven oneJobConfig) world := ⟨_, _, ⟨true, rfl⟩, run⟩
  obtain ⟨isOver, runs, after⟩ := of_decide_eq_true checked
  obtain ⟨job, held, state⟩ := (Option.any_eq_true _ _).mp runs
  obtain ⟨running, serial⟩ := of_decide_eq_true state
  obtain ⟨next, step, spoils⟩ := (Option.any_eq_true _ _).mp after
  obtain ⟨acted, uncancelled⟩ := of_decide_eq_true spoils
  refine ⟨fun isolated => ?_, fun cancels => ?_⟩
  · have same := isolated next (reached.step step) 0 1 (List.contains_iff_mem.mp acted)
    contradiction
  · have ended := (cancels world reached _ next step isOver).ended held running
    rw [serial] at ended
    exact uncancelled (List.contains_iff_mem.mpr ended)

instance (table : JobTable) (handle : JobHandle) : Decidable (Current table handle) :=
  inferInstanceAs (Decidable (∀ job ∈ table.job handle.slot, job.info.state = .running → job.serial = handle.serial))

instance (world : ServiceWorld) : DecidablePred (KeepsToOwn world)
  | .appUpdate handle _ | .appFinish handle _ => inferInstanceAs (Decidable (Current world.services.table handle ∧ True))
  | .settle _ =>
    inferInstanceAs (Decidable ((runsJobCancel world.services = true →
        ∀ handle ∈ world.services.update.job, Current world.services.table handle) ∧
      (world.services.abandoned = true → world.services.ota.active = false ∧ pendingSlot world.services.table = none ∧
        ∀ handle ∈ world.services.update.job, ∀ job ∈ world.services.table.job handle.slot, job.info.state ≠ .running)))
  | .sessionEnd _ => inferInstanceAs (Decidable (True ∧ (world.worker = false → world.services.ota.active = false)))
  | .appCreate .. | .dispatch .. | .answerBusy | .claim | .work _ | .drain | .reap => isTrue ⟨trivial, trivial⟩

/-- One slot has three jobs; the handle of the first is used again when the second is over. -/
def threeJobs : List ServiceEvent :=
  [.appCreate 7 (some 0), .appFinish ⟨0, 0⟩ EspErr.ok, .appCreate 7 (some 0), .appFinish ⟨0, 1⟩ EspErr.ok,
    .appUpdate ⟨0, 0⟩ 500, .appCreate 7 (some 0)]

def thirdRuns (world : ServiceWorld) : Bool :=
  world.worker = false ∧ world.services.ota.active = false ∧ world.call = none ∧
    (world.services.table.job 0).any (fun job => job.info.state = .running ∧ job.serial = 2 ∧ job.cancel.isSome) = true

/-- The third job, with a callback, runs when the session ends. -/
theorem handles_isolated_session :
    ∃ world after, Run ((serviceSystem digestOfSeven oneJobConfig).guarded KeepsToOwn) (.initial oneJobConfig true)
        threeJobs world ∧
      serviceStep digestOfSeven oneJobConfig world (.sessionEnd fun _ => none) = some after ∧
      (world.services.table.job 0).any (fun job => job.info.state = .running ∧ job.serial = 2 ∧ job.cancel.isSome) ∧
      (∀ through serial, .acted through serial ∈ world.services.table.notes → through = serial) ∧
      EndsCancelled world.services.table after.services.table := by
  obtain ⟨world, run, checked⟩ : ∃ world, Run ((serviceSystem digestOfSeven oneJobConfig).guarded KeepsToOwn)
      (.initial oneJobConfig true) threeJobs world ∧ thirdRuns world = true := Run.of_guarded_check (by decide +kernel)
  obtain ⟨alone, inactive, free, runs⟩ := of_decide_eq_true checked
  have isolated := handles_isolated ⟨_, threeJobs, ⟨true, rfl⟩, run⟩
  have clean : KeepsToOwn world (.sessionEnd fun _ => none) := ⟨trivial, fun _ => inactive⟩
  have step : serviceStep digestOfSeven oneJobConfig world (.sessionEnd fun _ => none) =
      some (sessionEndStep world fun _ => none) := by rw [serviceStep, if_pos free]
  exact ⟨world, _, run, step, runs, isolated.1, isolated.2 _ _ clean step alone⟩

end EspIris.Device.Jobs
