import EspIris.Device.ServiceRuns

/-! What can happen to the job table in one step, said once. A transfer owns the handle of its job
while the job runs; every handler of the OTA transfer and of the system update, and every cancel
callback, is a sequence of a few moves of the table that respect who owns what. -/

namespace EspIris.Device.Jobs

inductive TransferKind
  | ota
  | update
  deriving DecidableEq, Repr

def TransferKind.cancel : TransferKind → JobCancel
  | .ota => .otaJobCancel
  | .update => .systemJobCancel

theorem TransferKind.cancel_injective {kind other : TransferKind} (same : some kind.cancel = some other.cancel) :
    kind = other := by
  cases kind <;> cases other <;> first | rfl | cases same

abbrev Owners := TransferKind → Option JobHandle

def Owners.drop (own : Owners) (handle : JobHandle) : Owners :=
  fun kind => if own kind = some handle then none else own kind

def Owners.add (own : Owners) (cancel : Option JobCancel) (handle : JobHandle) : Owners :=
  fun kind => if cancel = some kind.cancel then some handle else own kind

def JobNote.harmless : JobNote → Prop
  | .acted through serial => through = serial
  | .ended _ _ => False
  | .called _ _ => True

/-- One change of the table, or several. Only a pass that serves the deferred cancels takes the mark
of one from its job. -/
inductive TableMove (serving : Bool) : Owners → JobTable → Owners → JobTable → Prop
  | refl (own : Owners) (table : JobTable) : TableMove serving own table own table
  | noted (own : Owners) (table : JobTable) (note : JobNote) (harmless : note.harmless) :
      TableMove serving own table own (table.note [note])
  | written (own : Owners) {table : JobTable} {slot : Nat} {old new : Job} {notes : List JobNote}
      (held : table.job slot = some old) (serial : new.serial = old.serial) (cancel : new.cancel = old.cancel)
      (state : new.info.state = old.info.state)
      (requested : old.info.cancelRequested = true → new.info.cancelRequested = true)
      (pending : serving = false → old.cancelPending = true → new.cancelPending = true)
      (harmless : ∀ note ∈ notes, note.harmless) :
      TableMove serving own table own (table.write slot new notes)
  | finished (own : Owners) {table : JobTable} {handle : JobHandle} {job : Job} (result : EspErr)
      (held : table.job handle.slot = some job) (same : job.serial = handle.serial)
      (running : job.info.state = .running) :
      TableMove serving own table (own.drop handle) (table.write handle.slot (job.finished result)
        [.acted handle.serial job.serial, .ended job.serial (job.info.outcome result)])
  | created (own : Owners) {table after : JobTable} {kind : UInt16} {cancel : Option JobCancel} {handle : JobHandle}
      (makes : jobCreate table kind cancel = (after, .ok handle))
      (free : ∀ transfer : TransferKind, cancel = some transfer.cancel → own transfer = none) :
      TableMove serving own table (own.add cancel handle) after
  | trans {own middle last : Owners} {table between after : JobTable} (first : TableMove serving own table middle between)
      (second : TableMove serving middle between last after) : TableMove serving own table last after

/-- What every table keeps: the numbers tell jobs apart, a transfer owns a running job exactly when
one with its callback runs, and no call through a handle met the job of another creation. -/
structure TableSound (own : Owners) (table : JobTable) : Prop where
  bound : ∀ slot job, table.job slot = some job → job.serial < table.created
  distinct : ∀ slot other job another, table.job slot = some job → table.job other = some another →
    job.serial = another.serial → slot = other
  held : ∀ kind handle, own kind = some handle →
    ∃ job, table.job handle.slot = some job ∧ job.serial = handle.serial ∧ job.info.state = .running ∧
      job.cancel = some kind.cancel
  only : ∀ kind slot job, table.job slot = some job → job.info.state = .running → job.cancel = some kind.cancel →
    own kind = some ⟨slot, job.serial⟩
  acted : ∀ through serial, .acted through serial ∈ table.notes → through = serial
  ended : ∀ serial state, .ended serial state ∈ table.notes → serial < table.created
  fresh : ∀ slot job state, table.job slot = some job → job.info.state = .running →
    .ended job.serial state ∉ table.notes

theorem JobTable.job_initial (maxJobs slot : Nat) : (JobTable.initial maxJobs).job slot = none := by
  rw [JobTable.job, JobTable.initial, Slots.get, List.getElem?_replicate]
  split <;> rfl

theorem TableSound.initial (maxJobs : Nat) : TableSound (fun _ => none) (.initial maxJobs) where
  bound := fun slot job held => by
    rw [JobTable.job_initial] at held
    contradiction
  distinct := fun slot other job another held => by
    rw [JobTable.job_initial] at held
    contradiction
  held := fun kind handle owned => by contradiction
  only := fun kind slot job held => by
    rw [JobTable.job_initial] at held
    contradiction
  acted := fun through serial noted => absurd noted List.not_mem_nil
  ended := fun serial state noted => absurd noted List.not_mem_nil
  fresh := fun slot job state held => by
    rw [JobTable.job_initial] at held
    contradiction

section sound
variable {serving : Bool} {own : Owners} {table : JobTable}

section sound
variable (sound : TableSound own table)
include sound

theorem TableSound.noted {note : JobNote} (harmless : note.harmless) :
    TableSound own (table.note [note]) where
  bound := sound.bound
  distinct := sound.distinct
  held := sound.held
  only := sound.only
  acted := by
    intro through serial noted
    rcases List.mem_append.mp noted with old | new
    · exact sound.acted through serial old
    · cases List.mem_singleton.mp new
      exact harmless
  ended := by
    intro serial state noted
    rcases List.mem_append.mp noted with old | new
    · exact sound.ended serial state old
    · cases List.mem_singleton.mp new
      exact harmless.elim
  fresh := by
    intro slot job state held running noted
    rcases List.mem_append.mp noted with old | new
    · exact sound.fresh slot job state held running old
    · cases List.mem_singleton.mp new
      exact harmless.elim

theorem TableSound.written {slot : Nat} {old new : Job} {notes : List JobNote} (is : table.job slot = some old)
    (serial : new.serial = old.serial) (cancel : new.cancel = old.cancel) (state : new.info.state = old.info.state)
    (harmless : ∀ note ∈ notes, note.harmless) :
    TableSound own (table.write slot new notes) where
  bound := by
    intro place job held
    rcases JobTable.job_write_cases held with ⟨rfl, rfl⟩ | ⟨_, kept⟩
    · exact serial ▸ sound.bound place old is
    · exact sound.bound place job kept
  distinct := by
    intro place other job another held found same
    rcases JobTable.job_write_cases held with ⟨rfl, rfl⟩ | ⟨_, kept⟩
    · rcases JobTable.job_write_cases found with ⟨rfl, rfl⟩ | ⟨_, stays⟩
      · rfl
      · exact sound.distinct place other old another is stays (serial ▸ same)
    · rcases JobTable.job_write_cases found with ⟨rfl, rfl⟩ | ⟨_, stays⟩
      · exact sound.distinct place other job old kept is (same.trans serial)
      · exact sound.distinct place other job another kept stays same
  held := by
    intro kind handle owned
    obtain ⟨job, held, number, running, callback⟩ := sound.held kind handle owned
    by_cases here : handle.slot = slot
    · rw [here] at held ⊢
      cases held.symm.trans is
      exact ⟨new, JobTable.job_write_same new notes is, serial.trans number, state.trans running,
        cancel.trans callback⟩
    · exact ⟨job, (JobTable.job_write_other new notes here).trans held, number, running, callback⟩
  only := by
    intro kind place job held running callback
    rcases JobTable.job_write_cases held with ⟨rfl, rfl⟩ | ⟨_, kept⟩
    · rw [sound.only kind place old is (state.symm.trans running) (cancel.symm.trans callback), serial]
    · exact sound.only kind place job kept running callback
  acted := by
    intro through number noted
    rcases List.mem_append.mp noted with earlier | later
    · exact sound.acted through number earlier
    · exact harmless _ later
  ended := by
    intro number outcome noted
    rcases List.mem_append.mp noted with earlier | later
    · exact sound.ended number outcome earlier
    · exact (harmless _ later).elim
  fresh := by
    intro place job outcome held running noted
    rcases List.mem_append.mp noted with earlier | later
    · rcases JobTable.job_write_cases held with ⟨rfl, rfl⟩ | ⟨_, kept⟩
      · exact sound.fresh place old outcome is (state.symm.trans running) (serial ▸ earlier)
      · exact sound.fresh place job outcome kept running earlier
    · exact (harmless _ later).elim

theorem TableSound.finished {handle : JobHandle} {old : Job} {result : EspErr} (is : table.job handle.slot = some old)
    (same : old.serial = handle.serial) :
    TableSound (own.drop handle) (table.write handle.slot (old.finished result)
      [.acted handle.serial old.serial, .ended old.serial (old.info.outcome result)]) where
  bound := by
    intro place job held
    rcases JobTable.job_write_cases held with ⟨rfl, rfl⟩ | ⟨_, kept⟩
    · exact sound.bound _ old is
    · exact sound.bound place job kept
  distinct := by
    intro place other job another held found equal
    rcases JobTable.job_write_cases held with ⟨rfl, rfl⟩ | ⟨_, kept⟩
    · rcases JobTable.job_write_cases found with ⟨rfl, rfl⟩ | ⟨_, stays⟩
      · rfl
      · exact sound.distinct _ other old another is stays equal
    · rcases JobTable.job_write_cases found with ⟨rfl, rfl⟩ | ⟨_, stays⟩
      · exact sound.distinct place _ job old kept is equal
      · exact sound.distinct place other job another kept stays equal
  held := by
    intro kind other owned
    rw [Owners.drop] at owned
    split at owned
    next => contradiction
    next different =>
      obtain ⟨job, held, number, runs, callback⟩ := sound.held kind other owned
      have elsewhere : other.slot ≠ handle.slot := by
        intro here
        rw [here, is] at held
        cases held
        apply different
        rw [owned]
        obtain ⟨otherSlot, otherSerial⟩ := other
        obtain ⟨slot, number'⟩ := handle
        simp only at here number same
        rw [here, ← number, same]
      exact ⟨job, (JobTable.job_write_other _ _ elsewhere).trans held, number, runs, callback⟩
  only := by
    intro kind place job held runs callback
    rcases JobTable.job_write_cases held with ⟨rfl, rfl⟩ | ⟨elsewhere, kept⟩
    · have isOver := outcome_terminal old.info result
      rw [show (old.finished result).info.state = old.info.outcome result from rfl] at runs
      rw [runs] at isOver
      contradiction
    · have owned := sound.only kind place job kept runs callback
      rw [Owners.drop, if_neg, owned]
      intro dropped
      rw [owned] at dropped
      exact elsewhere (congrArg JobHandle.slot (Option.some.inj dropped))
  acted := by
    intro through number noted
    rcases List.mem_append.mp noted with earlier | later
    · exact sound.acted through number earlier
    · rcases List.mem_cons.mp later with first | last
      · cases first
        exact same.symm
      · exact absurd (List.mem_singleton.mp last) nofun
  ended := by
    intro number outcome noted
    rcases List.mem_append.mp noted with earlier | later
    · exact sound.ended number outcome earlier
    · rcases List.mem_cons.mp later with first | last
      · contradiction
      · cases List.mem_singleton.mp last
        exact sound.bound _ old is
  fresh := by
    intro place job outcome held runs noted
    rcases JobTable.job_write_cases held with ⟨rfl, rfl⟩ | ⟨elsewhere, kept⟩
    · have isOver := outcome_terminal old.info result
      rw [show (old.finished result).info.state = old.info.outcome result from rfl] at runs
      rw [runs] at isOver
      contradiction
    · rcases List.mem_append.mp noted with earlier | later
      · exact sound.fresh place job outcome kept runs earlier
      · rcases List.mem_cons.mp later with first | last
        · contradiction
        · have number : job.serial = old.serial := by
            injection List.mem_singleton.mp last
          exact elsewhere (sound.distinct place _ job old kept is number)

theorem TableSound.created {after : JobTable} {kind : UInt16} {cancel : Option JobCancel} {handle : JobHandle}
    (makes : jobCreate table kind cancel = (after, .ok handle))
    (free : ∀ transfer : TransferKind, cancel = some transfer.cancel → own transfer = none) :
    TableSound (own.add cancel handle) after := by
  rcases jobCreate_cases table kind cancel with ⟨code, refused⟩ | ⟨slot, inside, vacant, created⟩
  · rw [refused] at makes
    cases makes
  · rw [created] at makes
    cases makes
    have idle : ∀ job, table.job slot = some job → job.info.state ≠ .running := by
      intro job held runs
      rw [held] at vacant
      have isOver : job.info.state.terminal = true := vacant
      rw [runs] at isOver
      contradiction
    refine ⟨?_, ?_, ?_, ?_, sound.acted, ?_, ?_⟩
    · intro place job held
      rcases Slots.get_put_cases held with ⟨_, rfl⟩ | ⟨_, kept⟩
      · exact Nat.lt_succ_self _
      · exact Nat.lt_succ_of_lt (sound.bound place job kept)
    · intro place other job another held found equal
      rcases Slots.get_put_cases held with ⟨rfl, rfl⟩ | ⟨_, kept⟩
      · rcases Slots.get_put_cases found with ⟨rfl, rfl⟩ | ⟨_, stays⟩
        · rfl
        · exact absurd equal.symm (Nat.ne_of_lt (sound.bound other another stays))
      · rcases Slots.get_put_cases found with ⟨rfl, rfl⟩ | ⟨_, stays⟩
        · exact absurd equal (Nat.ne_of_lt (sound.bound place job kept))
        · exact sound.distinct place other job another kept stays equal
    · intro owner other owned
      rw [Owners.add] at owned
      split at owned
      next callback =>
        cases owned
        exact ⟨freshJob table kind cancel, Slots.get_put_same _ inside, rfl, rfl, callback⟩
      obtain ⟨job, held, number, runs, callback⟩ := sound.held owner other owned
      have elsewhere : other.slot ≠ slot := fun here => idle job (here ▸ held) runs
      exact ⟨job, (Slots.get_put_other _ _ elsewhere).trans held, number, runs, callback⟩
    · intro owner place job held runs callback
      rcases Slots.get_put_cases held with ⟨rfl, rfl⟩ | ⟨_, kept⟩
      · have made : cancel = some owner.cancel := callback
        rw [Owners.add, if_pos made]
        rfl
      · have owned := sound.only owner place job kept runs callback
        rw [Owners.add]
        split
        next made =>
          rw [free owner made] at owned
          contradiction
        next => exact owned
    · intro serial state noted
      exact Nat.lt_succ_of_lt (sound.ended serial state noted)
    · intro place job state held runs noted
      rcases Slots.get_put_cases held with ⟨rfl, rfl⟩ | ⟨_, kept⟩
      · exact absurd (sound.ended _ state noted) (Nat.lt_irrefl _)
      · exact sound.fresh place job state kept runs noted

theorem TableSound.move {after : Owners} {changed : JobTable} (move : TableMove serving own table after changed) :
    TableSound after changed := by
  induction move with
  | refl => exact sound
  | noted own table note harmless => exact sound.noted harmless
  | written own held serial cancel state requested pending harmless => exact sound.written held serial cancel state harmless
  | finished own result held same running => exact sound.finished held same
  | created own makes free => exact sound.created makes free
  | trans first second ihFirst ihSecond => exact ihSecond (ihFirst sound)

end sound

structure Succeeds (serving : Bool) (old new : Job) : Prop where
  serial : new.serial = old.serial
  cancel : new.cancel = old.cancel
  running : new.info.state = .running → old.info.state = .running
  requested : old.info.cancelRequested = true → new.info.cancelRequested = true
  pending : serving = false → old.cancelPending = true → new.cancelPending = true

theorem Succeeds.refl (job : Job) : Succeeds serving job job := ⟨rfl, rfl, id, id, fun _ => id⟩

theorem Succeeds.trans {first middle last : Job} (left : Succeeds serving first middle)
    (right : Succeeds serving middle last) : Succeeds serving first last :=
  ⟨right.serial.trans left.serial, right.cancel.trans left.cancel, fun runs => left.running (right.running runs),
    fun asked => right.requested (left.requested asked), fun still waits => right.pending still (left.pending still waits)⟩

theorem Succeeds.finished {job : Job} (running : job.info.state = .running) (result : EspErr) :
    Succeeds serving job (job.finished result) := ⟨rfl, rfl, fun _ => running, id, fun _ => id⟩

/-- The job in a slot is one that was there, or has a number that was not given before. -/
theorem TableMove.keeps {after : Owners} {changed : JobTable} (move : TableMove serving own table after changed) :
    table.created ≤ changed.created ∧ ∀ slot job, changed.job slot = some job →
      table.created ≤ job.serial ∨ ∃ old, table.job slot = some old ∧ Succeeds serving old job := by
  induction move with
  | refl | noted => exact ⟨le_refl _, fun slot job held => .inr ⟨job, held, .refl job⟩⟩
  | written own is serial cancel state requested pending =>
    refine ⟨le_refl _, fun place job held => ?_⟩
    rcases JobTable.job_write_cases held with ⟨rfl, rfl⟩ | ⟨_, kept⟩
    · exact .inr ⟨_, is, serial, cancel, fun runs => state.symm.trans runs, requested, pending⟩
    · exact .inr ⟨job, kept, .refl job⟩
  | finished own result is _ running =>
    refine ⟨le_refl _, fun place job held => ?_⟩
    rcases JobTable.job_write_cases held with ⟨rfl, rfl⟩ | ⟨_, kept⟩
    · exact .inr ⟨_, is, .finished running result⟩
    · exact .inr ⟨job, kept, .refl job⟩
  | @created own table after kind cancel handle makes free =>
    rcases jobCreate_cases table kind cancel with ⟨code, refused⟩ | ⟨slot, inside, vacant, created⟩
    · rw [refused] at makes
      cases makes
    · rw [created] at makes
      cases makes
      refine ⟨Nat.le_succ _, fun place job held => ?_⟩
      rcases Slots.get_put_cases held with ⟨_, rfl⟩ | ⟨_, kept⟩
      · exact .inl (le_refl _)
      · exact .inr ⟨job, kept, .refl job⟩
  | trans first second ihFirst ihSecond =>
    refine ⟨ihFirst.1.trans ihSecond.1, fun slot job held => ?_⟩
    rcases ihSecond.2 slot job held with new | ⟨middle, found, later⟩
    · exact .inl (ihFirst.1.trans new)
    · rcases ihFirst.2 slot middle found with new | ⟨old, was, earlier⟩
      · exact .inl (later.serial ▸ new)
      · exact .inr ⟨old, was, earlier.trans later⟩

def Names (kind : Option JobCancel → Prop) (table : JobTable) (handle : JobHandle) : Prop :=
  handle.serial < table.created ∧
    ∀ job, table.job handle.slot = some job → job.serial = handle.serial → kind job.cancel

theorem Names.move {kind : Option JobCancel → Prop} {handle : JobHandle} {after : Owners} {changed : JobTable}
    (named : Names kind table handle) (move : TableMove serving own table after changed) : Names kind changed handle := by
  obtain ⟨grows, kept⟩ := move.keeps
  refine ⟨lt_of_lt_of_le named.1 grows, fun found held number => ?_⟩
  rcases kept handle.slot found held with new | ⟨old, was, succeeds⟩
  · exact absurd (number ▸ new) (Nat.not_le.mpr named.1)
  · exact succeeds.cancel ▸ named.2 old was (succeeds.serial.symm.trans number)

end sound

/-! What the calls of the table are as moves. -/

section calls
variable {serving : Bool} {own : Owners} {table : JobTable} {handle : JobHandle}

def Current (table : JobTable) (handle : JobHandle) : Prop :=
  ∀ job, table.job handle.slot = some job → job.info.state = .running → job.serial = handle.serial

theorem TableSound.current {kind : TransferKind} (sound : TableSound own table) (owned : own kind = some handle) :
    Current table handle := by
  intro job held _
  obtain ⟨other, found, number, _, _⟩ := sound.held kind handle owned
  cases held.symm.trans found
  exact number

theorem jobUpdate_move (current : Current table handle) (progressPermille : UInt16) :
    TableMove serving own table own (jobUpdate table handle progressPermille).1 := by
  rcases jobUpdate_cases table handle progressPermille with same | ⟨job, held, running, updated⟩
  · rw [same]
    exact .refl own table
  · rw [updated]
    refine .written own held rfl rfl rfl id (fun _ => id) fun note member => ?_
    cases List.mem_singleton.mp member
    exact (current job held running).symm

/-- Ending a job through a handle that is its own takes it from its owner. -/
theorem jobFinish_move (current : Current table handle) (result : EspErr) :
    TableMove serving own table own (jobFinish table handle result).1 ∨
    TableMove serving own table (own.drop handle) (jobFinish table handle result).1 := by
  rcases jobFinish_cases table handle result with ⟨same, _⟩ | ⟨job, held, running, finished⟩
  · rw [same]
    exact .inl (.refl own table)
  · rw [finished]
    exact .inr (.finished own result held (current job held running) running)

/-- An owner has a running job, so a finish through its handle goes through. -/
theorem TableSound.finish_move {kind : TransferKind} (sound : TableSound own table) (owned : own kind = some handle)
    (result : EspErr) : TableMove serving own table (own.drop handle) (jobFinish table handle result).1 := by
  obtain ⟨job, held, number, running, _⟩ := sound.held kind handle owned
  rcases jobFinish_cases table handle result with ⟨_, isOver⟩ | ⟨other, found, runs, finished⟩
  · exact absurd running (isOver job held)
  · rw [finished]
    cases held.symm.trans found
    exact .finished own result held number running

theorem TableSound.drop_eq {kind : TransferKind} (sound : TableSound own table) (owned : own kind = some handle) :
    own.drop handle = Function.update own kind none := by
  funext other
  rw [Owners.drop]
  by_cases same : other = kind
  · subst same
    rw [if_pos owned, Function.update_self]
  · rw [Function.update_of_ne same, if_neg]
    intro shared
    obtain ⟨job, held, _, _, callback⟩ := sound.held kind handle owned
    obtain ⟨another, found, _, _, called⟩ := sound.held other handle shared
    cases held.symm.trans found
    exact same (TransferKind.cancel_injective (called.symm.trans callback))

theorem TableSound.unowned (sound : TableSound own table)
    (named : Names (fun cancel => ∀ kind : TransferKind, cancel ≠ some kind.cancel) table handle) :
    own.drop handle = own := by
  funext kind
  rw [Owners.drop, if_neg]
  intro owned
  obtain ⟨job, held, number, _, callback⟩ := sound.held kind handle owned
  exact named.2 job held number kind callback

theorem Owners.add_transfer (own : Owners) (kind : TransferKind) (handle : JobHandle) :
    own.add (some kind.cancel) handle = Function.update own kind (some handle) := by
  funext other
  rw [Owners.add]
  by_cases same : other = kind
  · subst same
    rw [if_pos rfl, Function.update_self]
  · rw [Function.update_of_ne same, if_neg]
    exact fun shared => same (TransferKind.cancel_injective shared).symm

theorem Owners.add_application (own : Owners) (userCtx : Option Nat) (handle : JobHandle) :
    own.add (userCtx.map .application) handle = own := by
  funext kind
  rw [Owners.add, if_neg]
  cases userCtx <;> cases kind <;> nofun

end calls

end EspIris.Device.Jobs
