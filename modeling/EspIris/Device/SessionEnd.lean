import EspIris.Device.TransferMoves

/-! Cancel callbacks, the passes of the worker that run them, and the session end, which cancels
every running job in turn. -/

namespace EspIris.Device.Jobs
variable {table : JobTable} {slot : Nat} {job : Job} {own : Owners}

def UpdateCurrent (services : Services) : Prop :=
  ∀ handle, services.update.job = some handle → Current services.table handle

section callbacks
variable {serving : Bool} {services : Services}

theorem finishUpdateJob_idle (sound : TableSound (owners (updateInProgress services) services) services.table)
    (named : NamesUpdate services) (current : UpdateCurrent services) (idle : updateInProgress services = false)
    (result : EspErr) : finishUpdateJob services result = services := by
  rw [finishUpdateJob]
  cases job : services.update.job with
  | none => rfl
  | some handle =>
    rcases jobFinish_cases services.table handle result with ⟨same, _⟩ | ⟨found, held, running, _⟩
    · rw [finishThrough, same]
    · have number := current handle job found held running
      have owned := sound.only .update handle.slot found held running ((named handle job).2 found held number)
      rw [owners, idle] at owned
      contradiction

theorem backendAbort_idle (idle : updateInProgress services = false) (reason : EspErr) (phase : UpdatePhase) :
    backendAbort services reason phase = services := by
  rw [backendAbort, if_neg (Bool.eq_false_iff.mp idle)]

theorem jobCancel_idle (sound : TableSound (owners (updateInProgress services) services) services.table)
    (named : NamesUpdate services) (current : UpdateCurrent services) (idle : updateInProgress services = false) :
    jobCancel services = services := by
  rw [jobCancel, backendAbort_idle idle, finishUpdateJob_idle sound named current idle]

theorem jobCancel_handles (sound : TableSound (owners (updateInProgress services) services) services.table)
    (named : NamesUpdate services) (current : UpdateCurrent services) :
    Handles serving (updateInProgress services) services (updateInProgress (jobCancel services)) (jobCancel services) := by
  cases idle : updateInProgress services with
  | false =>
    rw [jobCancel_idle sound named current idle, idle]
    exact .refl _ services
  | true =>
    rw [← idle]
    exact abortAndFinish_handles sound (owners_of_progress idle) _ _ rfl

theorem setTable_moves {owns : Bool}
    (move : TableMove serving (owners owns services) services.table (owners owns services) table) :
    Moves serving owns services owns (setTable services table) := .of_move move rfl id

theorem application_of_cancel {userCtx : Nat} (cancel : job.cancel = some (.application userCtx)) :
    ∀ kind : TransferKind, job.cancel ≠ some kind.cancel := by
  intro kind same
  rw [cancel] at same
  cases kind <;> cases same

theorem finish_unowned {handle : JobHandle} (sound : TableSound own table) (current : Current table handle)
    (named : Names (fun cancel => ∀ kind : TransferKind, cancel ≠ some kind.cancel) table handle) (result : EspErr) :
    TableMove serving own table own (jobFinish table handle result).1 := by
  rcases @jobFinish_move serving own _ _ current result with stays | drops
  · exact stays
  · rw [sound.unowned named] at drops
    exact drops

theorem current_self (held : table.job slot = some job) :
    Current table ⟨slot, job.serial⟩ :=
  fun other is _ => by rw [Option.some.inj (is.symm.trans held)]

theorem runCallback_moves {slot : Nat} {job : Job} {sessionEnd : Bool} {finishing : Nat → Option EspErr}
    (sound : TableSound (owners (updateInProgress services) services) services.table)
    (named : NamesUpdate services) (held : services.table.job slot = some job)
    (current : job.cancel = some .systemJobCancel → UpdateCurrent services) :
    Moves serving (updateInProgress services) services
      (updateInProgress (runCallback services slot job sessionEnd finishing))
      (runCallback services slot job sessionEnd finishing) := by
  have noted : TableMove serving (owners (updateInProgress services) services) services.table
      (owners (updateInProgress services) services)
      (services.table.note [.called job.serial sessionEnd]) := .noted _ _ _ trivial
  rw [runCallback]
  split
  next => exact (Handles.refl _ services).toMoves
  next => exact .of_move noted rfl id
  next callback =>
    have first : Moves serving (updateInProgress services) services (updateInProgress services)
        (noteJob services (.called job.serial sessionEnd)) := setTable_moves noted
    refine first.trans (@jobCancel_handles serving (noteJob services _) (sound.move noted) (first.names named)
      fun handle names => current callback handle names).toMoves
  next userCtx callback =>
    have first : Moves serving (updateInProgress services) services (updateInProgress services)
        (noteJob services (.called job.serial sessionEnd)) := setTable_moves noted
    split
    next => exact first
    next result _ =>
      have still : (noteJob services (.called job.serial sessionEnd)).table.job slot = some job := held
      have application : Names (fun cancel => ∀ kind : TransferKind, cancel ≠ some kind.cancel)
          (noteJob services (.called job.serial sessionEnd)).table ⟨slot, job.serial⟩ :=
        ⟨sound.bound slot job held, fun other is _ => by
          rw [Option.some.inj (is.symm.trans still)]
          exact application_of_cancel callback⟩
      exact first.trans (setTable_moves (finish_unowned (sound.move noted) (current_self still) application result))

theorem marked_move (held : table.job slot = some job) (deferred : Bool) :
    TableMove serving own table own (table.write slot (job.marked deferred) []) :=
  .written own held rfl rfl rfl (fun _ => rfl) (fun _ waits => Bool.or_eq_true_iff.mpr (.inl waits))
    fun _ member => absurd member List.not_mem_nil

theorem handleJobCancel_moves {frame : DecodedFrame} {finishing : Nat → Option EspErr}
    (sound : TableSound (owners (updateInProgress services) services) services.table)
    (named : NamesUpdate services) :
    Moves serving (updateInProgress services) services
      (updateInProgress (handleJobCancel services frame finishing).1) (handleJobCancel services frame finishing).1 := by
  rw [handleJobCancel]
  split
  next => exact (Handles.refl _ services).toMoves
  split
  next => exact (Handles.refl _ services).toMoves
  next slot _ =>
    split
    next => exact (Handles.refl _ services).toMoves
    next job held =>
      dsimp only
      split
      next running =>
        have marked : TableMove serving (owners (updateInProgress services) services) services.table
            (owners (updateInProgress services) services) (services.table.write slot (job.marked false) []) :=
          marked_move held false
        have first : Moves serving (updateInProgress services) services (updateInProgress services)
            (setTable services (services.table.write slot (job.marked false) [])) := setTable_moves marked
        have is : (services.table.write slot (job.marked false) []).job slot = some (job.marked false) :=
          JobTable.job_write_same _ _ held
        have later : TableSound (owners (updateInProgress services) (setTable services _))
            (setTable services (services.table.write slot (job.marked false) [])).table := sound.move marked
        refine first.trans (runCallback_moves later (first.names named) is ?_)
        -- a running job of the update is the one that the update owns
        intro callback handle names
        have owned := (sound.move marked).only .update slot _ is running callback
        have same : handle = ⟨slot, (job.marked false).serial⟩ := by
          rw [owners] at owned
          split at owned
          next => exact Option.some.inj (names.symm.trans owned)
          next => contradiction
        rw [same]
        exact current_self is
      next => exact (Handles.refl _ services).toMoves

def pendingCallback (services : Services) : Option JobCancel :=
  ((pendingSlot services.table).bind services.table.job).bind Job.cancel

def OnlyEnds (before after : JobTable) : Prop :=
  ∀ slot job, after.job slot = some job → job.info.state = .running →
    ∃ old, before.job slot = some old ∧ old.info.state = .running ∧ job.serial = old.serial

theorem OnlyEnds.refl (table : JobTable) : OnlyEnds table table := fun _ job held running => ⟨job, held, running, rfl⟩

theorem OnlyEnds.trans {first middle last : JobTable} (left : OnlyEnds first middle) (right : OnlyEnds middle last) :
    OnlyEnds first last := by
  intro slot job held running
  obtain ⟨between, found, runs, number⟩ := right slot job held running
  obtain ⟨old, was, ran, serial⟩ := left slot between found runs
  exact ⟨old, was, ran, number.trans serial⟩

theorem OnlyEnds.write {old new : Job} {notes : List JobNote} (held : table.job slot = some old)
    (serial : new.serial = old.serial) (running : new.info.state = .running → old.info.state = .running) :
    OnlyEnds table (table.write slot new notes) := by
  intro place job is runs
  rcases JobTable.job_write_cases is with ⟨rfl, rfl⟩ | ⟨_, kept⟩
  · exact ⟨old, held, running runs, serial⟩
  · exact ⟨job, kept, runs, rfl⟩

theorem OnlyEnds.finish (table : JobTable) (handle : JobHandle) (result : EspErr) :
    OnlyEnds table (jobFinish table handle result).1 := by
  rcases jobFinish_cases table handle result with ⟨same, _⟩ | ⟨job, held, running, finished⟩
  · rw [same]
    exact .refl table
  · rw [finished]
    exact .write held rfl fun _ => running

theorem OnlyEnds.finishThrough (table : JobTable) (job : Option JobHandle) (result : EspErr) :
    OnlyEnds table (finishThrough table job result) := by
  cases job with
  | none => exact .refl table
  | some handle => exact .finish table handle result

theorem jobCancel_onlyEnds (services : Services) : OnlyEnds services.table (jobCancel services).table ∧
    (jobCancel services).update.job = services.update.job := by
  obtain ⟨table, _, job, _, _, _⟩ := @backendAbort_shape services EspErr.invalidState .cancelled rfl
  refine ⟨?_, job⟩
  rw [jobCancel, finishUpdateJob, table]
  exact .finishThrough _ _ _

theorem runCallback_onlyEnds (services : Services) (slot : Nat) (job : Job) (sessionEnd : Bool)
    (finishing : Nat → Option EspErr) :
    OnlyEnds services.table (runCallback services slot job sessionEnd finishing).table ∧
    (runCallback services slot job sessionEnd finishing).update.job = services.update.job := by
  rw [runCallback]
  split
  next => exact ⟨.refl _, rfl⟩
  next => exact ⟨fun _ job held running => ⟨job, held, running, rfl⟩, rfl⟩
  next => exact jobCancel_onlyEnds (noteJob services _)
  split
  next => exact ⟨fun _ job held running => ⟨job, held, running, rfl⟩, rfl⟩
  next => exact ⟨.finish (noteJob services _).table _ _, rfl⟩

theorem UpdateCurrent.onlyEnds {before after : Services} (current : UpdateCurrent before)
    (ends : OnlyEnds before.table after.table) (job : after.update.job = before.update.job) : UpdateCurrent after := by
  intro handle names found held running
  obtain ⟨old, was, ran, number⟩ := ends handle.slot found held running
  exact number.trans (current handle (job ▸ names) old was ran)

theorem serveCancel_onlyEnds (services : Services) (finishing : Nat → Option EspErr) :
    OnlyEnds services.table (serveCancel services finishing).table ∧
    (serveCancel services finishing).update.job = services.update.job := by
  rw [serveCancel]
  split
  next => exact ⟨.refl _, rfl⟩
  next slot _ =>
    split
    next => exact ⟨.refl _, rfl⟩
    next job held =>
      obtain ⟨ends, same⟩ := runCallback_onlyEnds
        (setTable services (services.table.write slot { job with cancelPending := false } [])) slot
        { job with cancelPending := false } false finishing
      have served : OnlyEnds services.table (services.table.write slot { job with cancelPending := false } []) :=
        .write held rfl id
      exact ⟨served.trans ends, same⟩

theorem serveCancel_moves {finishing : Nat → Option EspErr}
    (sound : TableSound (owners (updateInProgress services) services) services.table)
    (named : NamesUpdate services)
    (current : pendingCallback services = some .systemJobCancel → UpdateCurrent services) :
    Moves true (updateInProgress services) services (updateInProgress (serveCancel services finishing))
      (serveCancel services finishing) := by
  rw [serveCancel]
  split
  next => exact (Handles.refl _ services).toMoves
  next slot pending =>
    split
    next => exact (Handles.refl _ services).toMoves
    next job held =>
      have callback : pendingCallback services = job.cancel := by
        rw [pendingCallback, pending, Option.bind_some, held, Option.bind_some]
      have served : TableMove true (owners (updateInProgress services) services) services.table
          (owners (updateInProgress services) services)
          (services.table.write slot { job with cancelPending := false } []) :=
        .written _ held rfl rfl rfl id nofun fun _ member => absurd member List.not_mem_nil
      have first : Moves true (updateInProgress services) services (updateInProgress services)
          (setTable services (services.table.write slot { job with cancelPending := false } [])) :=
        setTable_moves served
      have later : TableSound (owners (updateInProgress services) (setTable services _))
          (setTable services (services.table.write slot { job with cancelPending := false } [])).table :=
        sound.move served
      refine first.trans (runCallback_moves later (first.names named) (JobTable.job_write_same _ _ held) ?_)
      intro system handle names found is running
      rcases JobTable.job_write_cases is with ⟨here, rfl⟩ | ⟨_, kept⟩
      · exact current (callback.trans system) handle names job (here ▸ held) running
      · exact current (callback.trans system) handle names found kept running

/-- A pass that is about to run `job_cancel`. -/
def runsJobCancel (services : Services) : Bool :=
  services.updateCancel || pendingCallback services = some .systemJobCancel

theorem pollUpdateCancel_moves
    (sound : TableSound (owners (updateInProgress services) services) services.table)
    (named : NamesUpdate services) (current : UpdateCurrent services) :
    Moves serving (updateInProgress services) services (updateInProgress (pollUpdateCancel services))
      (pollUpdateCancel services) := by
  rw [pollUpdateCancel]
  split
  next =>
    have cleared : Moves serving (updateInProgress services) services (updateInProgress services)
        { services with updateCancel := false } := ⟨.refl _ _, id, id⟩
    exact cleared.trans (@jobCancel_handles serving { services with updateCancel := false } sound named current).toMoves
  next => exact (Handles.refl _ services).toMoves

end callbacks

/-! The session end. Its loop visits each slot once; what it does there is one equation. -/

section sessionEnd
variable {serving : Bool} (finishing : Nat → Option EspErr)

def calledNotes (job : Job) : List JobNote := if job.cancel.isSome then [.called job.serial true] else []

def endNotes (job : Job) : List JobNote :=
  calledNotes job ++ [.acted job.serial job.serial, .ended job.serial .cancelled]

theorem note_write (table : JobTable) (slot : Nat) (first second : Job) (notes called more : List JobNote) :
    ((table.write slot first notes).note called).write slot second more =
      table.write slot second (notes ++ called ++ more) := by
  rw [JobTable.write, JobTable.note, JobTable.write, JobTable.write, Slots.put, Slots.put, Slots.put, List.set_set,
    List.append_assoc, List.append_assoc, List.append_assoc]

theorem write_write (table : JobTable) (slot : Nat) (first second : Job) (notes more : List JobNote) :
    (table.write slot first notes).write slot second more = table.write slot second (notes ++ more) := by
  rw [JobTable.write, JobTable.write, JobTable.write, Slots.put, Slots.put, Slots.put, List.set_set, List.append_assoc]

theorem jobFinish_running (held : table.job slot = some job) (running : job.info.state = .running) (result : EspErr) :
    (jobFinish table ⟨slot, job.serial⟩ result).1 = table.write slot (job.finished result)
      [.acted job.serial job.serial, .ended job.serial (job.info.outcome result)] := by
  rw [jobFinish, held]
  dsimp only
  rw [if_neg (not_not.mpr running)]

theorem jobFinish_over {slot serial : Nat} (held : table.job slot = some job) (isOver : job.info.state.terminal = true)
    (result : EspErr) :
    (jobFinish table ⟨slot, serial⟩ result).1 = table := by
  rw [jobFinish, held]
  dsimp only
  rw [if_pos]
  intro running
  rw [running] at isOver
  contradiction

/-- The callback at the session end: it is noted, and may already end its job. -/
theorem runCallback_ending {services : Services} (held : services.table.job slot = some job)
    (running : job.info.state = .running) (requested : job.info.cancelRequested = true)
    (idle : updateInProgress services = false) (unnamed : services.update.job = none) :
    ((runCallback services slot job true finishing).table = services.table.note (calledNotes job) ∨
      ∃ result, (runCallback services slot job true finishing).table =
        (services.table.note (calledNotes job)).write slot (job.finished result)
          [.acted job.serial job.serial, .ended job.serial .cancelled]) ∧
    (runCallback services slot job true finishing).ota = services.ota ∧
    (runCallback services slot job true finishing).update = services.update := by
  rw [runCallback, calledNotes]
  split
  next none =>
    refine ⟨.inl ?_, rfl, rfl⟩
    rw [none, Option.isSome_none, if_neg (by decide), JobTable.note, List.append_nil]
  next callback => exact ⟨.inl (by rw [callback]; rfl), rfl, rfl⟩
  next callback =>
    have still : jobCancel (noteJob services (.called job.serial true)) = noteJob services (.called job.serial true) := by
      have none : (noteJob services (.called job.serial true)).update.job = none := unnamed
      rw [jobCancel, @backendAbort_idle (noteJob services _) idle, finishUpdateJob, none]
      rfl
    rw [still]
    exact ⟨.inl (by rw [callback]; rfl), rfl, rfl⟩
  next userCtx callback =>
    split
    next => exact ⟨.inl (by rw [callback]; rfl), rfl, rfl⟩
    next result _ =>
      refine ⟨.inr ⟨result, ?_⟩, rfl, rfl⟩
      have is : (noteJob services (.called job.serial true)).table.job slot = some job := held
      have cancelled : job.info.outcome result = .cancelled := if_pos requested
      rw [callback, Option.isSome_some, if_pos rfl, ← cancelled]
      exact jobFinish_running is running result

/-- One slot: the callback, and one end, by the callback itself or after it. -/
theorem endSlot_running {services : Services} (held : services.table.job slot = some job)
    (running : job.info.state = .running) (idle : updateInProgress services = false)
    (unnamed : services.update.job = none) :
    (∃ result, (endSlot finishing services slot).table =
      services.table.write slot (job.ending.finished result) (endNotes job)) ∧
    (endSlot finishing services slot).ota = services.ota ∧
    (endSlot finishing services slot).update = services.update := by
  have is : (setTable services (services.table.write slot job.ending [])).table.job slot = some job.ending :=
    JobTable.job_write_same _ _ held
  obtain ⟨tables, ota, update⟩ := runCallback_ending finishing is running rfl idle unnamed
  have ended : endSlot finishing services slot =
      setTable (runCallback (setTable services (services.table.write slot job.ending [])) slot job.ending true finishing)
        (jobFinish (runCallback (setTable services (services.table.write slot job.ending [])) slot job.ending true
          finishing).table ⟨slot, job.ending.serial⟩ EspErr.invalidState).1 := by
    rw [endSlot, held]
    exact if_pos running
  rw [ended]
  refine ⟨?_, ota, update⟩
  rcases tables with noted | ⟨result, isOver⟩
  · refine ⟨EspErr.invalidState, ?_⟩
    have still : ((services.table.write slot job.ending []).note (calledNotes job.ending)).job slot = some job.ending := is
    rw [noted]
    show (jobFinish ((services.table.write slot job.ending []).note (calledNotes job.ending)) _ _).1 = _
    rw [jobFinish_running still running, note_write]
    rfl
  · refine ⟨result, ?_⟩
    have still : (((services.table.write slot job.ending []).note (calledNotes job.ending)).write slot
        (job.ending.finished result) [.acted job.ending.serial job.ending.serial, .ended job.ending.serial .cancelled]).job
        slot = some (job.ending.finished result) := JobTable.job_write_same _ _ is
    rw [isOver]
    show (jobFinish (((services.table.write slot job.ending []).note (calledNotes job.ending)).write slot _ _) _ _).1 = _
    rw [jobFinish_over still (outcome_terminal job.ending.info result), note_write]
    rfl

theorem endSlot_over {services : Services}
    (isOver : ∀ job, services.table.job slot = some job → job.info.state ≠ .running) :
    endSlot finishing services slot = services := by
  rw [endSlot]
  split
  next => rfl
  next job held => rw [if_neg (isOver job held)]

def slotNotes (content : Option Job) : List JobNote :=
  match content with
  | none => []
  | some job => if job.info.state = .running then endNotes job else []

structure Visited (slots : List Nat) (before after : Services) : Prop where
  notes : after.table.notes = before.table.notes ++ slots.flatMap fun slot => slotNotes (before.table.job slot)
  others : ∀ slot, slot ∉ slots → after.table.job slot = before.table.job slot
  isOver : ∀ slot ∈ slots, ∀ job, after.table.job slot = some job → job.info.state ≠ .running
  length : after.table.slots.length = before.table.slots.length
  ota : after.ota = before.ota
  update : after.update = before.update

theorem endSlot_visited {services : Services} (slot : Nat) (idle : updateInProgress services = false)
    (unnamed : services.update.job = none) : Visited [slot] services (endSlot finishing services slot) := by
  by_cases runs : ∃ job, services.table.job slot = some job ∧ job.info.state = .running
  · obtain ⟨job, held, running⟩ := runs
    obtain ⟨⟨result, written⟩, ota, update⟩ := endSlot_running finishing held running idle unnamed
    refine ⟨?_, ?_, ?_, ?_, ota, update⟩
    · rw [written, List.flatMap_singleton, held, slotNotes, if_pos running]
      rfl
    · intro other elsewhere
      rw [written]
      exact JobTable.job_write_other _ _ fun same => elsewhere (List.mem_singleton.mpr same)
    · intro other here found is
      cases List.mem_singleton.mp here
      rw [written, JobTable.job_write_same _ _ held] at is
      cases is
      intro running
      have isOver := outcome_terminal job.ending.info result
      rw [show (job.ending.finished result).info.state = job.ending.info.outcome result from rfl] at running
      rw [running] at isOver
      contradiction
    · rw [written]
      exact Slots.length_put _ _ _
  · have isOver : ∀ job, services.table.job slot = some job → job.info.state ≠ .running :=
      fun job held running => runs ⟨job, held, running⟩
    have same := endSlot_over finishing isOver
    rw [same]
    refine ⟨?_, fun _ _ => rfl, ?_, rfl, rfl, rfl⟩
    · rw [List.flatMap_singleton]
      cases held : services.table.job slot with
      | none => exact (List.append_nil _).symm
      | some job =>
        rw [slotNotes, if_neg (isOver job held), List.append_nil]
    · intro other here job held
      cases List.mem_singleton.mp here
      exact isOver job held

/-- The loop over slots: each is dealt with once, the others are left alone. -/
theorem endSlots_visited {services : Services} {slots : List Nat} (once : slots.Nodup)
    (idle : updateInProgress services = false) (unnamed : services.update.job = none) :
    Visited slots services (slots.foldl (endSlot finishing) services) := by
  induction slots generalizing services with
  | nil => exact ⟨(List.append_nil _).symm, fun _ _ => rfl, fun _ none => absurd none List.not_mem_nil, rfl, rfl, rfl⟩
  | cons slot rest ih =>
    obtain ⟨new, once⟩ := List.nodup_cons.mp once
    have first := endSlot_visited finishing slot idle unnamed
    have later := @ih (endSlot finishing services slot) once
      (by rw [updateInProgress, first.update]; exact idle) (by rw [first.update]; exact unnamed)
    rw [List.foldl_cons]
    refine ⟨?_, ?_, ?_, later.length.trans first.length, later.ota.trans first.ota, later.update.trans first.update⟩
    · have same : rest.flatMap (fun slot' => slotNotes ((endSlot finishing services slot).table.job slot')) =
          rest.flatMap fun slot' => slotNotes (services.table.job slot') := by
        rw [List.flatMap_def, List.flatMap_def]
        congr 1
        refine List.map_congr_left fun other member => ?_
        rw [first.others other fun here => new (List.mem_singleton.mp here ▸ member)]
      rw [later.notes, first.notes, same, List.flatMap_singleton, List.flatMap_cons, List.append_assoc]
    · intro other elsewhere
      rw [List.mem_cons, not_or] at elsewhere
      rw [later.others other elsewhere.2, first.others other fun here => elsewhere.1 (List.mem_singleton.mp here)]
    · intro other here job held
      rcases List.mem_cons.mp here with rfl | member
      · rw [later.others other new] at held
        exact first.isOver other (List.mem_singleton.mpr rfl) job held
      · exact later.isOver other member job held

/-- The loop as moves of the table: whatever a transfer still owned, it loses. -/
theorem endSlots_move {services : Services} {slots : List Nat} (sound : TableSound own services.table)
    (idle : updateInProgress services = false) (unnamed : services.update.job = none) :
    ∃ later, TableMove serving own services.table later (slots.foldl (endSlot finishing) services).table := by
  induction slots generalizing services own with
  | nil => exact ⟨own, .refl _ _⟩
  | cons slot rest ih =>
    have visited := endSlot_visited finishing slot idle unnamed
    have first : ∃ later, TableMove serving own services.table later (endSlot finishing services slot).table := by
      by_cases runs : ∃ job, services.table.job slot = some job ∧ job.info.state = .running
      · obtain ⟨job, held, running⟩ := runs
        obtain ⟨⟨result, written⟩, _, _⟩ := endSlot_running finishing held running idle unnamed
        refine ⟨own.drop ⟨slot, job.serial⟩, ?_⟩
        have called : TableMove serving own services.table own (services.table.write slot job.ending (calledNotes job)) := by
          refine .written own held rfl rfl rfl (fun _ => rfl) (fun _ => id) fun note member => ?_
          rw [calledNotes] at member
          split at member
          next =>
            cases List.mem_singleton.mp member
            trivial
          next => exact absurd member List.not_mem_nil
        have ended : TableMove serving own (services.table.write slot job.ending (calledNotes job))
            (own.drop ⟨slot, job.serial⟩) _ := .finished own result
          (JobTable.job_write_same job.ending (calledNotes job) held) rfl running
        rw [write_write, show job.ending.info.outcome result = .cancelled from if_pos rfl] at ended
        rw [written]
        exact called.trans ended
      · rw [endSlot_over finishing fun job held running => runs ⟨job, held, running⟩]
        exact ⟨own, .refl _ _⟩
    obtain ⟨middle, move⟩ := first
    rw [List.foldl_cons]
    obtain ⟨later, more⟩ := ih (sound.move move) (by rw [updateInProgress, visited.update]; exact idle)
      (by rw [visited.update]; exact unnamed)
    exact ⟨later, move.trans more⟩

end sessionEnd

/-! The whole session end. -/

section whole
variable {serving : Bool} {services : Services} (finishing : Nat → Option EspErr)

theorem updateSessionEnd_shape (services : Services) :
    (updateSessionEnd services).table = services.table ∧ (updateSessionEnd services).ota = services.ota ∧
    (updateSessionEnd services).update.job = none ∧ updateInProgress (updateSessionEnd services) = false ∧
    SameFlags services (updateSessionEnd services) ∧ (Published services → Published (updateSessionEnd services)) := by
  obtain ⟨table, ota, job, idle, flags, published⟩ :=
    @backendAbort_shape services EspErr.invalidState .cancelled rfl
  exact ⟨table, ota, rfl, idle, ⟨flags.1, flags.2, flags.3⟩, published⟩

theorem otaAbort_inactive (inactive : services.ota.active = false) (result : EspErr) :
    otaAbort services result = services := by
  rw [otaAbort, if_neg (Bool.eq_false_iff.mp inactive)]

theorem TableSound.unowned_of_over (sound : TableSound own table)
    (isOver : ∀ slot job, table.job slot = some job → job.info.state ≠ .running) : own = fun _ => none := by
  funext kind
  cases owned : own kind with
  | none => rfl
  | some handle =>
    obtain ⟨job, held, _, running, _⟩ := sound.held kind handle owned
    exact absurd running (isOver handle.slot job held)

theorem otaAbort_idle (services : Services) (result : EspErr) : (otaAbort services result).ota.active = false := by
  rw [otaAbort]
  split
  next => rfl
  next inactive => exact Bool.eq_false_iff.mpr inactive

structure Ended (services : Services) : Prop where
  ota : services.ota.active = false
  update : updateInProgress services = false
  unnamed : services.update.job = none
  isOver : ∀ slot job, services.table.job slot = some job → job.info.state ≠ .running

theorem sessionEndNow_visited (services : Services) :
    Visited (List.range (otaAbort (updateSessionEnd services) EspErr.invalidState).table.slots.length)
      (otaAbort (updateSessionEnd services) EspErr.invalidState) (sessionEndNow services finishing) := by
  obtain ⟨_, _, unnamed, idle, _, _⟩ := updateSessionEnd_shape services
  have update := otaAbort_update (updateSessionEnd services) EspErr.invalidState
  exact endSlots_visited finishing List.nodup_range (by rw [updateInProgress, update]; exact idle)
    (by rw [update]; exact unnamed)

theorem sessionEndNow_ended (services : Services) : Ended (sessionEndNow services finishing) := by
  obtain ⟨table, ota, unnamed, idle, flags, published⟩ := updateSessionEnd_shape services
  have update := otaAbort_update (updateSessionEnd services) EspErr.invalidState
  have visited := sessionEndNow_visited finishing services
  refine ⟨?_, ?_, ?_, ?_⟩
  · rw [visited.ota]
    exact otaAbort_idle _ _
  · rw [updateInProgress, visited.update, update]
    exact idle
  · rw [visited.update, update]
    exact unnamed
  · intro slot job held
    have inside := Slots.inside_of_get held
    rw [visited.length] at inside
    exact visited.isOver slot (List.mem_range.mpr inside) job held

theorem sessionEndNow_published (published : Published services) : Published (sessionEndNow services finishing) := by
  obtain ⟨table, ota, unnamed, idle, flags, shown⟩ := updateSessionEnd_shape services
  have update := otaAbort_update (updateSessionEnd services) EspErr.invalidState
  have visited := sessionEndNow_visited finishing services
  rw [Published, visited.update, update]
  exact shown published

theorem sessionEndNow_moves (sound : TableSound (owners (updateInProgress services) services) services.table) :
    Moves serving (updateInProgress services) services (updateInProgress (sessionEndNow services finishing))
      (sessionEndNow services finishing) := by
  have ended := sessionEndNow_ended finishing services
  refine ⟨?_, sessionEndNow_published finishing, fun _ => .none ended.unnamed⟩
  obtain ⟨table, ota, unnamed, idle, _, _⟩ := updateSessionEnd_shape services
  have update := otaAbort_update (updateSessionEnd services) EspErr.invalidState
  have aborted : ∃ own, TableMove serving (owners (updateInProgress services) services) services.table own
      (otaAbort (updateSessionEnd services) EspErr.invalidState).table := by
    rw [otaAbort]
    split
    next active =>
      rw [ota] at active
      have finished : TableMove serving (owners (updateInProgress services) services) services.table
          (Function.update (owners (updateInProgress services) services) .ota none)
          (finishThrough services.table services.ota.job EspErr.invalidState) :=
        finishThrough_move sound (owners_of_active _ active) EspErr.invalidState
      rw [← table, ← ota] at finished
      rw [← table]
      exact ⟨_, finished⟩
    rw [table]
    exact ⟨_, .refl _ _⟩
  obtain ⟨own, first⟩ := aborted
  obtain ⟨later, loop⟩ := @endSlots_move _ serving finishing _
    (List.range (otaAbort (updateSessionEnd services) EspErr.invalidState).table.slots.length)
    (sound.move first) (by rw [updateInProgress, update]; exact idle) (by rw [update]; exact unnamed)
  have none : owners (updateInProgress (sessionEndNow services finishing)) (sessionEndNow services finishing) =
      fun _ => none := by
    funext kind
    cases kind
    · exact if_neg (Bool.eq_false_iff.mp ended.ota)
    · exact if_neg (Bool.eq_false_iff.mp ended.update)
  have unowned : later = fun _ => Option.none := (sound.move (first.trans loop)).unowned_of_over ended.isOver
  rw [none, ← unowned]
  exact first.trans loop

/-! A pass of the settling loop, in the order of the code. -/

def taken (services : Services) : Services := { services with abandoned := false, otaCancel := false }

def polledServices (services : Services) (finishing : Nat → Option EspErr) : Services :=
  if services.updateCancel then pollUpdateCancel (serveCancel (taken services) finishing)
  else serveCancel (taken services) finishing

def abortedServices (services : Services) (finishing : Nat → Option EspErr) : Services :=
  if services.otaCancel then otaAbort (polledServices services finishing) EspErr.invalidState
  else polledServices services finishing

theorem settleServices_eq (services : Services) (finishing : Nat → Option EspErr) :
    settleServices services finishing =
      if services.abandoned then sessionEndNow (abortedServices services finishing) finishing
      else abortedServices services finishing := rfl

/-- What a pass does after the deferred cancel, where `job_cancel` finds its own handle if it runs. -/
theorem abortedServices_moves
    (sound : TableSound (owners (updateInProgress (serveCancel (taken services) finishing)) (serveCancel (taken services) finishing))
      (serveCancel (taken services) finishing).table)
    (named : NamesUpdate (serveCancel (taken services) finishing))
    (current : runsJobCancel services = true → UpdateCurrent services) :
    Moves serving (updateInProgress (serveCancel (taken services) finishing)) (serveCancel (taken services) finishing)
      (updateInProgress (abortedServices services finishing)) (abortedServices services finishing) := by
  have polled : Moves serving (updateInProgress (serveCancel (taken services) finishing)) (serveCancel (taken services) finishing)
      (updateInProgress (polledServices services finishing)) (polledServices services finishing) := by
    rw [polledServices]
    split
    next asked =>
      obtain ⟨ends, job⟩ := serveCancel_onlyEnds (taken services) finishing
      have before : UpdateCurrent (taken services) := current (by rw [runsJobCancel, asked, Bool.true_or])
      exact pollUpdateCancel_moves sound named (before.onlyEnds ends job)
    next => exact (Handles.refl _ _).toMoves
  have aborted : Moves serving (updateInProgress (polledServices services finishing)) (polledServices services finishing)
      (updateInProgress (abortedServices services finishing)) (abortedServices services finishing) := by
    rw [abortedServices]
    split
    next => exact (Handles.of_ota (otaAbort_update _ _) (otaAbort_handles (sound.move polled.move) _)).toMoves
    next => exact (Handles.refl _ _).toMoves
  exact polled.trans aborted

theorem settleServices_moves (sound : TableSound (owners (updateInProgress services) services) services.table)
    (named : NamesUpdate services) (current : runsJobCancel services = true → UpdateCurrent services) :
    Moves true (updateInProgress services) services (updateInProgress (settleServices services finishing))
      (settleServices services finishing) := by
  have cleared : Moves true (updateInProgress services) services (updateInProgress (taken services)) (taken services) :=
    ⟨.refl _ _, id, id⟩
  have takenSound := sound.move cleared.move
  have served := @serveCancel_moves (taken services) finishing takenSound (cleared.names named) fun callback => by
    have pending : pendingCallback services = some .systemJobCancel := callback
    exact current (by rw [runsJobCancel, pending, decide_eq_true rfl, Bool.or_true])
  have aborted : Moves true (updateInProgress (serveCancel (taken services) finishing)) (serveCancel (taken services) finishing)
      (updateInProgress (abortedServices services finishing)) (abortedServices services finishing) :=
    abortedServices_moves finishing (takenSound.move served.move) (served.names (cleared.names named)) current
  have before := (cleared.trans served).trans aborted
  rw [settleServices_eq]
  split
  next => exact before.trans (sessionEndNow_moves finishing (sound.move before.move))
  next => exact before

end whole

end EspIris.Device.Jobs
