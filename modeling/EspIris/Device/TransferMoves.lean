import EspIris.Device.JobMoves

/-! Every handler of the OTA transfer and of the system update, as moves of the job table. The flags
that carry a cancel are the worker's alone: no handler writes them. -/

namespace EspIris.Device.Jobs
variable (config : ServiceConfig) (sha256 : List UInt8 → List UInt8) (frame : DecodedFrame)

/-- Who owns what: an active OTA transfer its job, and the system update its own where `owns`. -/
def owners (owns : Bool) (services : Services) : Owners
  | .ota => if services.ota.active then services.ota.job else none
  | .update => if owns then services.update.job else none

theorem owners_congr {owns other : Bool} {before after : Services} (active : after.ota.active = before.ota.active)
    (otaJob : after.ota.job = before.ota.job) (updateJob : after.update.job = before.update.job)
    (same : other = owns) : owners other after = owners owns before := by
  funext kind
  cases kind
  · rw [owners, owners, active, otaJob]
  · rw [owners, owners, updateJob, same]

theorem owners_ota_zero (owns : Bool) (services : Services) (table : JobTable) :
    owners owns { services with table := table, ota := .zero } =
      Function.update (owners owns services) .ota none := by
  funext kind
  cases kind
  · rw [Function.update_self]
    rfl
  · rw [Function.update_of_ne (by decide)]
    rfl

theorem owners_update_false {before after : Services} (owns : Bool) (ota : after.ota = before.ota) :
    owners false after = Function.update (owners owns before) .update none := by
  funext kind
  cases kind
  · rw [Function.update_of_ne (by decide), owners, owners, ota]
  · rw [Function.update_self]
    rfl

theorem owners_of_active {services : Services} (owns : Bool) (active : services.ota.active = true) :
    owners owns services .ota = services.ota.job := if_pos active

structure SameFlags (before after : Services) : Prop where
  abandoned : after.abandoned = before.abandoned
  updateCancel : after.updateCancel = before.updateCancel
  otaCancel : after.otaCancel = before.otaCancel

theorem SameFlags.refl (services : Services) : SameFlags services services := ⟨rfl, rfl, rfl⟩

theorem SameFlags.trans {first middle last : Services} (left : SameFlags first middle)
    (right : SameFlags middle last) : SameFlags first last :=
  ⟨right.abandoned.trans left.abandoned, right.updateCancel.trans left.updateCancel,
    right.otaCancel.trans left.otaCancel⟩

def Published (services : Services) : Prop := services.update.publishedStatus = services.update.status

def NamesUpdate (services : Services) : Prop :=
  ∀ handle, services.update.job = some handle → Names (· = some .systemJobCancel) services.table handle

structure Moves (serving owns : Bool) (before : Services) (later : Bool) (after : Services) : Prop where
  move : TableMove serving (owners owns before) before.table (owners later after) after.table
  published : Published before → Published after
  names : NamesUpdate before → NamesUpdate after

structure Handles (serving owns : Bool) (before : Services) (later : Bool) (after : Services) : Prop extends
    Moves serving owns before later after where
  flags : SameFlags before after

theorem Moves.trans {serving owns middle later : Bool} {before between after : Services}
    (first : Moves serving owns before middle between) (second : Moves serving middle between later after) :
    Moves serving owns before later after :=
  ⟨first.move.trans second.move, fun same => second.published (first.published same),
    fun named => second.names (first.names named)⟩

theorem Handles.trans {serving owns middle later : Bool} {before between after : Services}
    (first : Handles serving owns before middle between) (second : Handles serving middle between later after) :
    Handles serving owns before later after :=
  ⟨first.toMoves.trans second.toMoves, first.flags.trans second.flags⟩

theorem NamesUpdate.move {serving : Bool} {own later : Owners} {before after : Services} (named : NamesUpdate before)
    (move : TableMove serving own before.table later after.table) (job : after.update.job = before.update.job) :
    NamesUpdate after := by
  intro handle names
  rw [job] at names
  exact (named handle names).move move

theorem NamesUpdate.none {services : Services} (job : services.update.job = none) : NamesUpdate services := by
  intro handle names
  rw [job] at names
  contradiction

theorem Moves.of_move {serving owns later : Bool} {before after : Services}
    (move : TableMove serving (owners owns before) before.table (owners later after) after.table)
    (job : after.update.job = before.update.job) (published : Published before → Published after) :
    Moves serving owns before later after := ⟨move, published, fun named => named.move move job⟩

theorem Handles.of_move {serving owns later : Bool} {before after : Services}
    (move : TableMove serving (owners owns before) before.table (owners later after) after.table)
    (job : after.update.job = before.update.job) (flags : SameFlags before after)
    (published : Published before → Published after) : Handles serving owns before later after :=
  ⟨.of_move move job published, flags⟩

theorem Handles.refl {serving : Bool} (owns : Bool) (services : Services) : Handles serving owns services owns services :=
  .of_move (.refl _ _) rfl (.refl _) id

theorem Handles.of_same {serving owns later : Bool} {before after : Services} (table : after.table = before.table)
    (same : owners later after = owners owns before) (job : after.update.job = before.update.job)
    (flags : SameFlags before after) (published : Published before → Published after) :
    Handles serving owns before later after := by
  refine .of_move ?_ job flags published
  rw [table, same]
  exact .refl _ _

theorem TableSound.names_update {services : Services} {handle : JobHandle}
    (sound : TableSound (owners true services) services.table) (job : services.update.job = some handle) :
    NamesUpdate services := by
  intro other names
  cases job.symm.trans names
  obtain ⟨found, held, number, _, callback⟩ := sound.held .update handle job
  refine ⟨number ▸ sound.bound handle.slot found held, fun another is _ => ?_⟩
  cases held.symm.trans is
  exact callback

section through
variable {serving : Bool} {own : Owners} {table : JobTable} {kind : TransferKind} {job : Option JobHandle}

theorem finishThrough_move (sound : TableSound own table) (owned : own kind = job) (result : EspErr) :
    TableMove serving own table (Function.update own kind none) (finishThrough table job result) := by
  cases job with
  | none =>
    have same : Function.update own kind none = own := by
      rw [← owned]
      exact Function.update_eq_self kind own
    rw [same]
    exact .refl own table
  | some handle =>
    rw [← sound.drop_eq owned]
    exact sound.finish_move owned result

theorem updateThrough_move (sound : TableSound own table) (owned : own kind = job) (progressPermille : UInt16) :
    TableMove serving own table own (updateThrough table job progressPermille) := by
  cases job with
  | none => exact .refl own table
  | some handle => exact jobUpdate_move (sound.current owned) progressPermille

theorem markThrough_move (sound : TableSound own table) (owned : own kind = job) :
    TableMove serving own table own (markThrough table job) := by
  cases job with
  | none => exact .refl own table
  | some handle =>
    obtain ⟨held, is, number, _, _⟩ := sound.held kind handle owned
    rw [markThrough, is]
    refine .written own is rfl rfl rfl (fun _ => rfl) (fun _ => id) fun note member => ?_
    cases List.mem_singleton.mp member
    exact number.symm

end through

def Progress.hasJob (progress : Progress) (services : Services) : Bool :=
  match progress with
  | .updatePrepared => false
  | .commitDecided _ => true
  | _ => updateInProgress services

section ota
variable {serving owns : Bool} {services : Services}

theorem otaAbort_handles (sound : TableSound (owners owns services) services.table) (result : EspErr) :
    Handles serving owns services owns (otaAbort services result) := by
  rw [otaAbort]
  split
  next active =>
    refine .of_move ?_ rfl ⟨rfl, rfl, rfl⟩ id
    rw [owners_ota_zero]
    exact finishThrough_move sound (owners_of_active owns active) result
  next => exact .refl owns services

theorem otaFinish_handles {frame : DecodedFrame} (sound : TableSound (owners owns services) services.table)
    (active : services.ota.active = true) (result : EspErr) :
    Handles serving owns services owns (otaFinish services frame result).1 := by
  rw [otaFinish]
  refine .of_move ?_ rfl ⟨rfl, rfl, rfl⟩ id
  rw [owners_ota_zero]
  exact finishThrough_move sound (owners_of_active owns active) result

theorem otaCancelNow_handles (sound : TableSound (owners owns services) services.table)
    (active : services.ota.active = true) : Handles serving owns services owns (otaCancelNow services frame).1 := by
  rw [otaCancelNow]
  have marked : TableMove serving (owners owns services) services.table (owners owns services)
      (markThrough services.table services.ota.job) := markThrough_move sound (owners_of_active owns active)
  have first : Handles serving owns services owns { services with table := markThrough services.table services.ota.job } :=
    .of_move marked rfl ⟨rfl, rfl, rfl⟩ id
  exact first.trans (otaAbort_handles (sound.move marked) EspErr.invalidState)

theorem otaData_handles (answers : OtaAnswers) (sound : TableSound (owners owns services) services.table)
    (active : services.ota.active = true) :
    Handles serving owns services owns (otaData config services frame answers).1 := by
  rw [otaData]
  split
  next => exact .refl owns services
  dsimp only
  generalize (if answers.hashUpdated = true then answers.otaWrite else EspErr.fail) = err
  split
  next => exact otaAbort_handles sound err
  next => exact .of_move (updateThrough_move sound (owners_of_active owns active) _) rfl ⟨rfl, rfl, rfl⟩ id

theorem otaBegin_refused {frame : DecodedFrame} {answers : OtaAnswers} {target : OtaTarget}
    (accepted : otaBeginRefusal services frame answers = .ok target) : services.ota.active = false := by
  rw [otaBeginRefusal] at accepted
  split at accepted
  next => contradiction
  split at accepted
  next => contradiction
  next idle => exact Bool.eq_false_iff.mpr idle

theorem otaBegin_handles (answers : OtaAnswers) (sound : TableSound (owners owns services) services.table) :
    Handles serving owns services owns (otaBegin config services frame answers).1 := by
  rw [otaBegin]
  split
  next => exact .refl owns services
  next target accepted =>
    have idle := otaBegin_refused accepted
    have unowned : owners owns services .ota = none := by rw [owners, idle]; rfl
    have none : Function.update (owners owns services) .ota none = owners owns services := by
      rw [← unowned]
      exact Function.update_eq_self _ _
    split
    next table code refused =>
      have same : table = services.table := by
        rcases jobCreate_cases services.table 0x100 (some .otaJobCancel) with ⟨other, still⟩ | ⟨slot, _, _, created⟩
        · rw [still] at refused
          exact (congrArg Prod.fst refused).symm
        · rw [created] at refused
          exact absurd (congrArg Prod.snd refused) nofun
      refine .of_move ?_ rfl ⟨rfl, rfl, rfl⟩ id
      rw [owners_ota_zero, none, same]
      exact .refl _ _
    next table handle made =>
      have created : TableMove serving (owners owns services) services.table
          (Function.update (owners owns services) .ota (some handle)) table := by
        rw [← Owners.add_transfer]
        refine .created _ made fun transfer callback => ?_
        rw [@TransferKind.cancel_injective transfer .ota callback.symm]
        exact unowned
      dsimp only
      generalize (if answers.hashReady = true then answers.otaBegin else EspErr.fail) = err
      split
      next =>
        refine .of_move ?_ rfl ⟨rfl, rfl, rfl⟩ id
        rw [owners_ota_zero]
        have owned : Function.update (owners owns services) .ota (some handle) .ota = some handle :=
          Function.update_self ..
        have dropped : TableMove serving (Function.update (owners owns services) .ota (some handle)) table
            (Owners.drop (Function.update (owners owns services) .ota (some handle)) handle)
            (jobFinish table handle err).1 := (sound.move created).finish_move owned err
        rw [(sound.move created).drop_eq owned, Function.update_idem] at dropped
        exact created.trans dropped
      refine .of_move ?_ rfl ⟨rfl, rfl, rfl⟩ id
      have after : owners owns { services with table := table, ota := otaOpened frame target handle } =
          Function.update (owners owns services) .ota (some handle) := by
        funext kind
        cases kind
        · rw [Function.update_self]
          rfl
        · rw [Function.update_of_ne (by decide)]
          rfl
      rw [after]
      exact created

theorem otaAbort_update (services : Services) (result : EspErr) : (otaAbort services result).update = services.update := by
  rw [otaAbort]
  split <;> rfl

theorem otaBegin_update (services : Services) (frame : DecodedFrame) (answers : OtaAnswers) :
    (otaBegin config services frame answers).1.update = services.update := by
  rw [otaBegin]
  split
  · rfl
  · split
    · rfl
    · dsimp only
      generalize (if answers.hashReady = true then answers.otaBegin else EspErr.fail) = err
      split <;> rfl

theorem otaData_update (services : Services) (frame : DecodedFrame) (answers : OtaAnswers) :
    (otaData config services frame answers).1.update = services.update := by
  rw [otaData]
  split
  · rfl
  · dsimp only
    generalize (if answers.hashUpdated = true then answers.otaWrite else EspErr.fail) = err
    split
    · exact otaAbort_update services err
    · rfl

theorem otaCancelNow_update (services : Services) (frame : DecodedFrame) :
    (otaCancelNow services frame).1.update = services.update := otaAbort_update _ _

theorem Handles.of_ota {before after : Services} (update : after.update = before.update)
    (handles : Handles serving (updateInProgress before) before (updateInProgress before) after) :
    Handles serving (updateInProgress before) before (updateInProgress after) after := by
  have same : updateInProgress after = updateInProgress before := by
    rw [updateInProgress, updateInProgress, update]
  rw [same]
  exact handles

theorem handleOta_handles (config : ServiceConfig) (frame : DecodedFrame) (answers : OtaAnswers)
    (sound : TableSound (owners (updateInProgress services) services) services.table) :
    Handles serving (updateInProgress services) services
      ((handleOta sha256 config services frame answers).2.hasJob (handleOta sha256 config services frame answers).1)
      (handleOta sha256 config services frame answers).1 := by
  rw [handleOta]
  dsimp only
  split
  next => exact .refl _ services
  split
  next => exact .of_ota (otaBegin_update ..) (otaBegin_handles config frame answers sound)
  split
  next => exact .refl _ services
  next idle =>
    have active : services.ota.active = true := Bool.not_eq_false _ ▸ idle
    split
    next => exact .of_ota (otaCancelNow_update services frame) (otaCancelNow_handles frame sound active)
    split
    next => exact .of_ota (otaData_update ..) (otaData_handles config frame answers sound active)
    split
    next => exact .of_same rfl (owners_congr rfl rfl rfl rfl) rfl ⟨rfl, rfl, rfl⟩ id
    next => exact .refl _ services

end ota

section update
variable {serving owns : Bool} {services : Services}

/-- What an abort leaves: the update is over, and nothing else that jobs see has changed. -/
theorem backendAbort_shape (services : Services) (reason : EspErr) {phase : UpdatePhase}
    (isOver : phase.inProgress = false) :
    (backendAbort services reason phase).table = services.table ∧
    (backendAbort services reason phase).ota = services.ota ∧
    (backendAbort services reason phase).update.job = services.update.job ∧
    updateInProgress (backendAbort services reason phase) = false ∧
    SameFlags services (backendAbort services reason phase) ∧
    (Published services → Published (backendAbort services reason phase)) := by
  rw [backendAbort]
  split
  next => exact ⟨rfl, rfl, rfl, isOver, ⟨rfl, rfl, rfl⟩, fun _ => rfl⟩
  next idle => exact ⟨rfl, rfl, rfl, Bool.eq_false_iff.mpr idle, .refl _, id⟩

theorem abortAndFinish_handles (sound : TableSound (owners owns services) services.table)
    (owned : owners owns services .update = services.update.job) (reason result : EspErr) {phase : UpdatePhase}
    (isOver : phase.inProgress = false) :
    Handles serving owns services (updateInProgress (finishUpdateJob (backendAbort services reason phase) result))
      (finishUpdateJob (backendAbort services reason phase) result) := by
  obtain ⟨table, ota, job, idle, flags, published⟩ := backendAbort_shape services reason isOver
  have still : updateInProgress (finishUpdateJob (backendAbort services reason phase) result) = false := idle
  rw [still]
  refine .of_move ?_ job ⟨flags.1, flags.2, flags.3⟩ published
  rw [owners_update_false owns (show (finishUpdateJob _ result).ota = services.ota from ota)]
  rw [finishUpdateJob, table, job]
  exact finishThrough_move sound owned result

theorem owners_of_progress (running : updateInProgress services = true) :
    owners (updateInProgress services) services .update = services.update.job := if_pos running

theorem failUpdate_handles (header : WireHeader) (err : EspErr)
    (sound : TableSound (owners (updateInProgress services) services) services.table)
    (running : updateInProgress services = true) :
    Handles serving (updateInProgress services) services (updateInProgress (failUpdate services header err).1)
      (failUpdate services header err).1 :=
  abortAndFinish_handles sound (owners_of_progress running) err err rfl

/-- An update goes on in another status: it publishes it, and may report progress. -/
theorem continued_handles {status : UpdateStatus} {after : Services} (progress : Option UInt16)
    (sound : TableSound (owners (updateInProgress services) services) services.table)
    (running : updateInProgress services = true) (still : status.phase.inProgress = true)
    (table : after.table = match progress with
      | none => services.table
      | some permille => updateThrough services.table services.update.job permille)
    (ota : after.ota = services.ota) (job : after.update.job = services.update.job)
    (current : after.update.status = status) (shown : after.update.publishedStatus = status)
    (flags : SameFlags services after) :
    Handles serving (updateInProgress services) services (updateInProgress after) after := by
  have goes : updateInProgress after = updateInProgress services := by
    rw [running, updateInProgress, current, still]
  have same : owners (updateInProgress after) after = owners (updateInProgress services) services :=
    owners_congr (congrArg Ota.active ota) (congrArg Ota.job ota) job goes
  refine .of_move ?_ job flags fun _ => shown.trans current.symm
  rw [same, table]
  cases progress with
  | none => exact .refl _ _
  | some permille => exact updateThrough_move sound (owners_of_progress running) permille

theorem logCall_handles (call : FlashCall) :
    Handles serving (updateInProgress services) services (updateInProgress (logCall services call)) (logCall services call) :=
  .of_same rfl (owners_congr rfl rfl rfl rfl) rfl ⟨rfl, rfl, rfl⟩ id

theorem inProgress_of_phase {phase : UpdatePhase} (is : services.update.status.phase = phase)
    (inside : phase.inProgress = true) : updateInProgress services = true := by
  rw [updateInProgress, is]
  exact inside

theorem handleComponentBegin_handles (answers : BackendAnswers)
    (sound : TableSound (owners (updateInProgress services) services) services.table) :
    Handles serving (updateInProgress services) services
      (updateInProgress (handleComponentBegin config services frame answers).1)
      (handleComponentBegin config services frame answers).1 := by
  rw [handleComponentBegin]
  dsimp only
  split
  next => exact .refl _ services
  next accepted =>
    have running : updateInProgress services = true :=
      inProgress_of_phase (by_contra fun other => accepted (.inr (.inr (.inl other)))) rfl
    split
    next => exact .refl _ services
    generalize (if answers.beginComponent ≠ EspErr.ok then answers.beginComponent
      else if answers.hashReady = true then EspErr.ok else EspErr.fail) = err
    split
    next => exact (logCall_handles _).trans (failUpdate_handles frame.header err sound running)
    next => exact continued_handles none sound running rfl rfl rfl rfl rfl rfl ⟨rfl, rfl, rfl⟩

theorem handleData_handles (answers : BackendAnswers)
    (sound : TableSound (owners (updateInProgress services) services) services.table) :
    Handles serving (updateInProgress services) services (updateInProgress (handleData config services frame answers).1)
      (handleData config services frame answers).1 := by
  rw [handleData]
  dsimp only
  split
  next => exact .refl _ services
  next placed =>
    have receiving : services.update.status.phase = .receiving := by
      by_contra other
      apply placed
      simp only [dataMisplaced, other, ne_eq, not_false_eq_true, decide_true, Bool.or_true, Bool.true_or]
    have running := inProgress_of_phase receiving rfl
    generalize (if answers.hashUpdated = true then answers.writeComponent else EspErr.fail) = err
    have called : ∃ call, (if answers.hashUpdated = true then
          logCall services (.writeComponent services.update.component services.update.status.componentReceived
            (List.take (dataSize frame) (List.drop systemDataHeaderSize frame.payload)) answers.writeComponent)
        else services) = { services with calls := call } := by
      split
      · exact ⟨_, rfl⟩
      · exact ⟨_, rfl⟩
    obtain ⟨calls, called⟩ := called
    rw [called]
    split
    next =>
      have first : Handles serving (updateInProgress services) services (updateInProgress services)
          { services with calls := calls } := .of_same rfl (owners_congr rfl rfl rfl rfl) rfl ⟨rfl, rfl, rfl⟩ id
      exact first.trans (@failUpdate_handles serving { services with calls := calls } frame.header err sound running)
    refine continued_handles (some _) sound running ?_ rfl rfl rfl rfl rfl ⟨rfl, rfl, rfl⟩
    exact running

theorem handleComponentEnd_handles (answers : BackendAnswers)
    (sound : TableSound (owners (updateInProgress services) services) services.table) :
    Handles serving (updateInProgress services) services (updateInProgress (handleComponentEnd sha256 services frame answers).1)
      (handleComponentEnd sha256 services frame answers).1 := by
  rw [handleComponentEnd]
  dsimp only
  split
  next => exact .refl _ services
  next accepted =>
    have receiving : services.update.status.phase = .receiving :=
      by_contra fun other => accepted (.inr (.inr (.inr (.inr (.inr (.inl other))))))
    have running := inProgress_of_phase receiving rfl
    generalize componentEndResult sha256 services answers = err
    have called : ∃ call, (if answers.hashFinished = true ∧ sha256 services.update.hashed = services.update.component.sha256
        then logCall { services with update := { services.update with hashActive := false } }
          (.endComponent services.update.component answers.endComponent)
        else { services with update := { services.update with hashActive := false } }) =
        { services with update := { services.update with hashActive := false }, calls := call } := by
      split
      · exact ⟨_, rfl⟩
      · exact ⟨_, rfl⟩
    obtain ⟨calls, called⟩ := called
    rw [called]
    split
    next =>
      have first : Handles serving (updateInProgress services) services (updateInProgress services)
          { services with update := { services.update with hashActive := false }, calls := calls } :=
        .of_same rfl (owners_congr rfl rfl rfl rfl) rfl ⟨rfl, rfl, rfl⟩ id
      exact first.trans (@failUpdate_handles serving
        { services with update := { services.update with hashActive := false }, calls := calls }
        frame.header err sound running)
    refine continued_handles (some _) sound running ?_ rfl rfl rfl rfl rfl ⟨rfl, rfl, rfl⟩
    show UpdatePhase.inProgress (if _ then .prepared else .componentVerified) = true
    split <;> rfl

theorem handleCancel_handles (sound : TableSound (owners (updateInProgress services) services) services.table) :
    Handles serving (updateInProgress services) services (updateInProgress (handleCancel services frame).1)
      (handleCancel services frame).1 := by
  rw [handleCancel]
  split
  next => exact .refl _ services
  next accepted =>
    have running : updateInProgress services = true :=
      Bool.not_eq_false _ ▸ fun idle => accepted (.inr (.inr idle))
    exact abortAndFinish_handles sound (owners_of_progress running) _ _ rfl

theorem handleCommit_handles (sound : TableSound (owners (updateInProgress services) services) services.table) :
    Handles serving (updateInProgress services) services
      ((handleCommit services frame).2.hasJob (handleCommit services frame).1) (handleCommit services frame).1 := by
  rw [handleCommit]
  dsimp only
  split
  next => exact .refl _ services
  next accepted =>
    have running : updateInProgress services = true :=
      inProgress_of_phase (by_contra fun other => accepted (.inr (.inr (.inl other)))) rfl
    exact continued_handles (some 950) sound running rfl rfl rfl rfl rfl rfl ⟨rfl, rfl, rfl⟩

theorem handleBegin_handles (config : ServiceConfig) (frame : DecodedFrame) (answers : BackendAnswers) :
    Handles serving (updateInProgress services) services
      ((handleBegin sha256 config services frame answers).2.hasJob (handleBegin sha256 config services frame answers).1)
      (handleBegin sha256 config services frame answers).1 := by
  rw [handleBegin]
  dsimp only
  split
  next => exact .refl _ services
  split
  next =>
    split
    · exact .refl _ services
    · exact .refl _ services
  next idle =>
    split
    next => exact .of_same rfl (owners_congr rfl rfl rfl rfl) rfl ⟨rfl, rfl, rfl⟩ id
    have goes : ∀ after : Services, after.table = services.table → after.ota = services.ota →
        TableMove serving (owners (updateInProgress services) services) services.table (owners false after) after.table := by
      intro after table ota
      have same : owners false after = owners (updateInProgress services) services := by
        funext kind
        cases kind
        · rw [owners, owners, ota]
        · rw [owners, owners, if_neg idle]
          rfl
      rw [same, table]
      exact .refl _ _
    exact ⟨⟨goes _ rfl rfl, fun _ => rfl, fun _ => .none rfl⟩, rfl, rfl, rfl⟩

theorem handleUpdate_handles (config : ServiceConfig) (frame : DecodedFrame) (answers : BackendAnswers)
    (sound : TableSound (owners (updateInProgress services) services) services.table) :
    Handles serving (updateInProgress services) services
      ((handleUpdate sha256 config services frame answers).2.hasJob
        (handleUpdate sha256 config services frame answers).1)
      (handleUpdate sha256 config services frame answers).1 := by
  rw [handleUpdate]
  dsimp only
  split
  next => exact .refl _ services
  split
  next => exact handleBegin_handles sha256 config frame answers
  split
  next => exact handleComponentBegin_handles config frame answers sound
  split
  next => exact handleData_handles config frame answers sound
  split
  next => exact handleComponentEnd_handles sha256 frame answers sound
  split
  next => exact handleCommit_handles frame sound
  split
  next => exact handleCancel_handles frame sound
  next => exact .refl _ services

theorem beginJob_handles (sound : TableSound (owners false services) services.table)
    (running : updateInProgress services = true) :
    Handles serving false services (updateInProgress (beginJob config services frame).1) (beginJob config services frame).1 := by
  have unowned : owners false services .update = none := rfl
  rw [beginJob]
  split
  next table code refused =>
    have same : table = services.table := by
      rcases jobCreate_cases services.table systemJobKind (some .systemJobCancel) with
        ⟨other, still⟩ | ⟨slot, _, _, created⟩
      · rw [still] at refused
        exact (congrArg Prod.fst refused).symm
      · rw [created] at refused
        exact absurd (congrArg Prod.snd refused) nofun
    subst same
    obtain ⟨kept, ota, job, idle, flags, published⟩ :=
      @backendAbort_shape { services with table := services.table } code .failed rfl
    refine .of_move ?_ job flags published
    rw [idle, kept, @owners_congr false _ services _ (congrArg Ota.active ota)
      (congrArg Ota.job ota) job rfl]
    exact .refl _ _
  next table handle made =>
    have created : TableMove serving (owners false services) services.table
        (Function.update (owners false services) .update (some handle)) table := by
      rw [← Owners.add_transfer]
      refine .created _ made fun transfer callback => ?_
      rw [@TransferKind.cancel_injective transfer .update callback.symm]
      rfl
    have owned : Function.update (owners false services) .update (some handle) .update = some handle :=
      Function.update_self ..
    have updated : TableMove serving (Function.update (owners false services) .update (some handle)) table
        (Function.update (owners false services) .update (some handle)) (updateThrough table (some handle) 50) :=
      updateThrough_move (sound.move created) owned 50
    have goes : ∀ started : Services, started.table = updateThrough table (some handle) 50 →
        started.ota = services.ota → started.update.job = some handle →
        started.update.status = services.update.status →
        started.update.publishedStatus = started.update.status → SameFlags services started →
        Handles serving false services (updateInProgress started) started := by
      intro started changed ota job status shown flags
      have still : updateInProgress started = true := by
        rw [updateInProgress, status]
        exact running
      have after : owners true started = Function.update (owners false services) .update (some handle) := by
        funext kind
        cases kind
        · rw [Function.update_of_ne (by decide), owners, owners, ota]
        · rw [Function.update_self, owners, if_pos rfl, job]
      have moves : TableMove serving (owners false services) services.table (owners true started) started.table := by
        rw [after, changed]
        exact created.trans updated
      rw [still]
      refine ⟨⟨moves, fun _ => shown, fun _ => ?_⟩, flags⟩
      exact (sound.move moves).names_update job
    exact goes _ rfl rfl rfl rfl rfl ⟨rfl, rfl, rfl⟩

/-- The backend commits, or not: either way the job is still to be finished. -/
theorem commitDecide_handles (answers : BackendAnswers) (running : updateInProgress services = true) :
    Handles serving (updateInProgress services) services true (commitDecide services answers).1 ∧
      updateInProgress (commitDecide services answers).1 = false := by
  rw [commitDecide]
  dsimp only
  generalize (services.updateCancel || services.update.job.any (jobCancelRequested services.table)) = cancelled
  generalize (if cancelled = true then EspErr.invalidState else answers.commit) = err
  have called : ∃ calls, (if cancelled = true then services
      else logCall services (.commit services.update.status.operationId answers.commit)) =
      { services with calls := calls } := by
    split
    · exact ⟨_, rfl⟩
    · exact ⟨_, rfl⟩
  obtain ⟨calls, called⟩ := called
  rw [called, running]
  split
  next => exact ⟨.of_same rfl (owners_congr rfl rfl rfl rfl) rfl ⟨rfl, rfl, rfl⟩ fun _ => rfl, rfl⟩
  refine ⟨.of_same rfl (owners_congr rfl rfl rfl rfl) rfl ⟨rfl, rfl, rfl⟩ fun _ => rfl, ?_⟩
  show UpdatePhase.inProgress (if err = EspErr.ok then .committed else .failed) = false
  split <;> rfl

theorem commitFinish_handles (err : EspErr) (sound : TableSound (owners true services) services.table)
    (isOver : updateInProgress services = false) :
    Handles serving true services (updateInProgress (commitFinish services frame err).1) (commitFinish services frame err).1 := by
  have still : updateInProgress (commitFinish services frame err).1 = false := isOver
  rw [still]
  refine .of_move ?_ rfl ⟨rfl, rfl, rfl⟩ id
  rw [owners_update_false true (show (commitFinish services frame err).1.ota = services.ota from rfl)]
  exact finishThrough_move sound rfl err

end update

end EspIris.Device.Jobs
