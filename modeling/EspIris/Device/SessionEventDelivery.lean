import EspIris.Device.SessionEventRuns

/-! What is scheduled in a session is sent in it: every frame that comes first answers another schedule, and the
protocol task alone gets to the frame from any state in which it is owed. -/

namespace EspIris.Device.SessionEvents
open Machine

/-- The types that `schedule_session_events` has not come to. -/
def Point.rest : Point → List UInt8
  | .scheduling rest => rest
  | _ => []

def EventTask.owes (task : EventTask) : Finset UInt8 :=
  eventOrder.toFinset.filter fun type =>
    (task.pendingEvents type = true ∨ type ∈ task.point.rest) ∧ task.point ≠ .clearing type

def EventTask.ahead (task : EventTask) : Nat := task.owes.card + if task.point = .serving then 1 else 0

structure Waiting (session : Nat) (type : UInt8) (task : EventTask) : Prop where
  ready : task.sessionState = .ready
  current : task.sessions = session
  owed : task.pendingEvents type = true ∨ type ∈ task.point.rest ∧ task.wants type = true
  apart : task.point ≠ .clearing type
  listed : type ∈ eventOrder

def Ended (session : Nat) (task : EventTask) : Prop :=
  session < task.sessions ∨ task.sessions = session ∧ task.sessionState = .disconnected

def TaskEvent.calls : TaskEvent → Bool
  | .schedule _ => true
  | _ => false

def TaskEvent.own : TaskEvent → Bool
  | .flushed | .output false | .served false false | .advance => true
  | _ => false

theorem mem_owes {task : EventTask} {type : UInt8} : type ∈ task.owes ↔
    type ∈ eventOrder ∧ (task.pendingEvents type = true ∨ type ∈ task.point.rest) ∧ task.point ≠ .clearing type := by
  unfold EventTask.owes
  rw [Finset.mem_filter, List.mem_toFinset]

theorem Waiting.mem_owes {session : Nat} {type : UInt8} {task : EventTask} (waiting : Waiting session type task) :
    type ∈ task.owes :=
  SessionEvents.mem_owes.mpr ⟨waiting.listed, waiting.owed.imp_right And.left, waiting.apart⟩

theorem ahead_le (task : EventTask) : task.ahead ≤ 9 := by
  have owes : task.owes.card ≤ 8 := (Finset.card_filter_le _ _).trans (by decide)
  unfold EventTask.ahead
  split <;> omega

section steps
variable {session : Nat} {type : UInt8} {task after : EventTask}

/-- A step that does not give the services their turn, and owes nothing new. -/
theorem ahead_mono (owes : after.owes ⊆ task.owes) (serving : after.point = .serving → task.point = .serving) :
    after.ahead ≤ task.ahead := by
  have cards := Finset.card_le_card owes
  unfold EventTask.ahead
  split
  next here =>
    rw [if_pos (serving here)]
    omega
  next => omega

inductive Continues (session : Nat) (type : UInt8) (task after : EventTask) (calls : Nat) : Prop
  | ended (gone : Ended session after)
  | built (more : List EventFrame) (frames : after.frames = task.frames ++ more) (sent : ⟨session, type⟩ ∈ more)
  | waits (more : List EventFrame) (frames : after.frames = task.frames ++ more) (waiting : Waiting session type after)
      (bound : more.length + after.ahead ≤ task.ahead + calls)

section waiting
variable (waiting : Waiting session type task)
include waiting

theorem Waiting.silent (state : after.sessionState = task.sessionState) (sessions : after.sessions = task.sessions)
    (frames : after.frames = task.frames)
    (owed : after.pendingEvents type = true ∨ type ∈ after.point.rest ∧ after.wants type = true)
    (apart : after.point ≠ .clearing type) (owes : after.owes ⊆ task.owes)
    (serving : after.point = .serving → task.point = .serving) : Continues session type task after 0 := by
  refine .waits [] (by rw [frames, List.append_nil]) ?_ ?_
  · exact ⟨state.trans waiting.ready, sessions.trans waiting.current, owed, apart, waiting.listed⟩
  · have mono := ahead_mono owes serving
    rw [List.length_nil]
    omega

theorem Waiting.still (state : after.sessionState = task.sessionState) (sessions : after.sessions = task.sessions)
    (frames : after.frames = task.frames) (pending : after.pendingEvents = task.pendingEvents)
    (point : after.point = task.point) (wants : task.wants type = true → after.wants type = true) :
    Continues session type task after 0 := by
  refine waiting.silent state sessions frames ?_ (by rw [point]; exact waiting.apart) ?_ fun here =>
    point.symm.trans here
  · rw [pending, point]
    exact waiting.owed.imp_right fun both => ⟨both.1, wants both.2⟩
  · unfold EventTask.owes
    rw [pending, point]

theorem Waiting.owed_here (rest : task.point.rest = []) :
    task.pendingEvents type = true := by
  obtain pending | ⟨member, -⟩ := waiting.owed
  · exact pending
  · rw [rest] at member
    contradiction

theorem Waiting.helloAck (newSession authenticated : Bool) :
    Continues session type task (task.helloAck newSession authenticated) 0 := by
  have same : Continues session type task task 0 := waiting.still rfl rfl rfl rfl rfl id
  unfold EventTask.helloAck
  split
  · split
    · refine .ended (.inr ⟨waiting.current, ?_⟩)
      rw [EventTask.endSession, waiting.ready]
      rfl
    · exact same
  · rw [if_pos waiting.ready]
    exact same

/-- The task only moves within `pump_link`, with the same events owed. -/
theorem Waiting.moves (rest : task.point.rest = []) (calm : ∀ other, task.point ≠ .clearing other) {point : Point}
    (next : point.rest = []) (apart : ∀ other, point ≠ .clearing other) (serving : point ≠ .serving) :
    Continues session type task { task with point := point } 0 := by
  refine waiting.silent rfl rfl rfl (.inl (waiting.owed_here rest)) (apart type) ?_ fun here => absurd here serving
  intro other member
  obtain ⟨listed, owed, -⟩ := SessionEvents.mem_owes.mp member
  refine SessionEvents.mem_owes.mpr ⟨listed, .inl ?_, calm other⟩
  obtain pending | more := owed
  · exact pending
  · rw [show Point.rest _ = [] from next] at more
    contradiction

theorem Waiting.output (idle : task.point = .idle) (helloDue : Bool) :
    Continues session type task (task.output helloDue) 0 := by
  have rest : task.point.rest = [] := by rw [idle]; rfl
  unfold EventTask.output
  split
  · exact waiting.still rfl rfl rfl rfl rfl id
  · rw [if_neg (not_not_intro waiting.ready)]
    have found : (nextPending task.pendingEvents).isSome := by
      unfold nextPending
      rw [List.find?_isSome]
      exact ⟨type, waiting.listed, waiting.owed_here rest⟩
    rw [if_pos found]
    exact waiting.moves rest (by rw [idle]; nofun) rfl nofun nofun

theorem Waiting.served (serving : task.point = .serving) (job other : Bool) :
    Continues session type task
      { (if job then task.build jobUpdate else { task with transmitting := other }) with point := .idle } 0 := by
  have rest : task.point.rest = [] := by rw [serving]; rfl
  split
  next =>
    refine .waits [⟨task.sessions, jobUpdate⟩] rfl ?_ ?_
    · exact ⟨waiting.ready, waiting.current, .inl (waiting.owed_here rest), nofun, waiting.listed⟩
    · have fewer : EventTask.owes { task.build jobUpdate with point := .idle } ⊆ task.owes := by
        intro other member
        obtain ⟨listed, pending | more, -⟩ := SessionEvents.mem_owes.mp member
        · exact SessionEvents.mem_owes.mpr ⟨listed, .inl pending, by rw [serving]; nofun⟩
        · contradiction
      have cards := Finset.card_le_card fewer
      unfold EventTask.ahead
      rw [if_pos serving, if_neg nofun, List.length_singleton]
      omega
  refine waiting.silent rfl rfl rfl (.inl (waiting.owed_here rest)) nofun ?_ nofun
  intro other member
  obtain ⟨listed, pending | more, -⟩ := SessionEvents.mem_owes.mp member
  · exact SessionEvents.mem_owes.mpr ⟨listed, .inl pending, by rw [serving]; nofun⟩
  · contradiction

theorem Waiting.set (other : UInt8) :
    Continues session type task (task.set other) 1 := by
  refine .waits [] (List.append_nil _).symm ?_ ?_
  · refine ⟨waiting.ready, waiting.current, ?_, waiting.apart, waiting.listed⟩
    obtain pending | scheduled := waiting.owed
    · left
      rw [set_pending, pending, Bool.or_true]
    · exact .inr scheduled
  · have more : (task.set other).owes ⊆ insert other task.owes := by
      intro found member
      obtain ⟨listed, owed, apart⟩ := SessionEvents.mem_owes.mp member
      rw [Finset.mem_insert]
      by_cases same : found = other
      · exact .inl same
      · refine .inr (SessionEvents.mem_owes.mpr ⟨listed, ?_, apart⟩)
        rw [set_pending, decide_eq_false same, Bool.false_or] at owed
        exact owed
    have cards := (Finset.card_le_card more).trans (Finset.card_insert_le _ _)
    unfold EventTask.ahead
    rw [show (task.set other).point = task.point from rfl, List.length_nil]
    omega

theorem Waiting.schedules {first : UInt8} {rest : List UInt8} (scheduling : task.point = .scheduling (first :: rest)) :
    Continues session type task
      { (if task.wants first then task.set first else task) with point := .scheduling rest } 0 := by
  have members : task.point.rest = first :: rest := by rw [scheduling]; rfl
  have calm : ∀ other, task.point ≠ .clearing other := by rw [scheduling]; nofun
  have owed := waiting.owed
  rw [members] at owed
  split
  next wanted =>
    refine waiting.silent rfl rfl rfl ?_ nofun ?_ nofun
    · obtain pending | ⟨member, wants⟩ := owed
      · left
        change (task.set first).pendingEvents type = true
        rw [set_pending, pending, Bool.or_true]
      · rcases List.mem_cons.mp member with rfl | later
        · left
          change (task.set type).pendingEvents type = true
          rw [set_pending, decide_eq_true rfl, Bool.true_or]
        · exact .inr ⟨later, wants⟩
    · intro other member
      obtain ⟨listed, owed, -⟩ := SessionEvents.mem_owes.mp member
      refine SessionEvents.mem_owes.mpr ⟨listed, ?_, calm other⟩
      rw [members]
      obtain pending | later := owed
      · change (task.set first).pendingEvents other = true at pending
        rw [set_pending, Bool.or_eq_true, decide_eq_true_eq] at pending
        obtain rfl | old := pending
        · exact .inr List.mem_cons_self
        · exact .inl old
      · exact .inr (List.mem_cons_of_mem _ later)
  next unwanted =>
    refine waiting.silent rfl rfl rfl ?_ nofun ?_ nofun
    · obtain pending | ⟨member, wants⟩ := owed
      · exact .inl pending
      · rcases List.mem_cons.mp member with rfl | later
        · exact absurd wants unwanted
        · exact .inr ⟨later, wants⟩
    · intro other member
      obtain ⟨listed, owed, -⟩ := SessionEvents.mem_owes.mp member
      refine SessionEvents.mem_owes.mpr ⟨listed, ?_, calm other⟩
      rw [members]
      exact owed.imp_right (List.mem_cons_of_mem _)

end waiting

theorem Waiting.builds (sound : Sound task) (waiting : Waiting session type task) {next : UInt8}
    (building : task.point = .building next) :
    Continues session type task { task.build next with point := .clearing next } 0 := by
  have rest : task.point.rest = [] := by rw [building]; rfl
  by_cases same : type = next
  · subst same
    refine .built [⟨task.sessions, type⟩] rfl ?_
    rw [waiting.current, List.mem_singleton]
  · refine .waits [⟨task.sessions, next⟩] rfl ?_ ?_
    · refine ⟨waiting.ready, waiting.current, .inl (waiting.owed_here rest), ?_, waiting.listed⟩
      intro here
      exact same (Point.clearing.inj here).symm
    · obtain ⟨pending, listed⟩ := sound.holds next (by rw [building]; rfl)
      have owed : next ∈ task.owes := SessionEvents.mem_owes.mpr ⟨listed, .inl pending, by rw [building]; nofun⟩
      -- the type whose bit is about to be cleared is owed no longer
      have fewer : EventTask.owes { task.build next with point := .clearing next } ⊆ task.owes.erase next := by
        intro other member
        obtain ⟨listed, pending | more, apart⟩ := SessionEvents.mem_owes.mp member
        · refine Finset.mem_erase.mpr ⟨?_, SessionEvents.mem_owes.mpr ⟨listed, .inl pending, by rw [building]; nofun⟩⟩
          rintro rfl
          exact apart rfl
        · contradiction
      have cards := Finset.card_le_card fewer
      have erased := Finset.card_erase_lt_of_mem owed
      unfold EventTask.ahead
      rw [if_neg nofun, List.length_singleton]
      omega

theorem Waiting.clears (waiting : Waiting session type task) {last : UInt8} (clearing : task.point = .clearing last) :
    Continues session type task { task.clear last with point := .idle } 0 := by
  have rest : task.point.rest = [] := by rw [clearing]; rfl
  have other : type ≠ last := by
    rintro rfl
    exact waiting.apart clearing
  refine waiting.silent rfl rfl rfl (.inl ?_) nofun ?_ nofun
  · change (task.clear last).pendingEvents type = true
    rw [clear_pending, decide_eq_true other, Bool.true_and]
    exact waiting.owed_here rest
  · intro found member
    obtain ⟨listed, pending | more, -⟩ := SessionEvents.mem_owes.mp member
    · change (task.clear last).pendingEvents found = true at pending
      rw [clear_pending, Bool.and_eq_true, decide_eq_true_eq] at pending
      refine SessionEvents.mem_owes.mpr ⟨listed, .inl pending.2, ?_⟩
      intro same
      rw [clearing] at same
      exact pending.1 (Point.clearing.inj same).symm
    · contradiction

theorem Waiting.advance (sound : Sound task) (waiting : Waiting session type task)
    (step : task.advance = some after) : Continues session type task after 0 := by
  have ready := waiting.ready
  unfold EventTask.advance at step
  split at step
  next here =>
    rw [sound.ended true here] at ready
    contradiction
  next here =>
    rw [sound.ended false here] at ready
    contradiction
  next here =>
    rw [sound.begun here] at ready
    contradiction
  next here =>
    cases step
    exact waiting.moves (by rw [here]; rfl) (by rw [here]; nofun) rfl nofun nofun
  next here =>
    cases step
    exact waiting.schedules here
  next here =>
    cases step
    exact waiting.moves (by rw [here]; rfl) (by rw [here]; nofun) rfl nofun nofun
  next here =>
    cases step
    exact waiting.builds sound here
  next here =>
    cases step
    exact waiting.clears here
  next => contradiction
  next => contradiction

theorem wants_healthy (wanted : task.wants type = true) :
    EventTask.wants { task with healthy := true } type = true := by
  unfold EventTask.wants at wanted ⊢
  split_ifs at wanted ⊢
  all_goals
    first
      | exact wanted
      | rfl

theorem Waiting.next (sound : Sound task) (waiting : Waiting session type task) {event : TaskEvent}
    (step : next task event = some after) : Continues session type task after (if event.calls then 1 else 0) := by
  have ready := waiting.ready
  cases event with
  | connected =>
    obtain ⟨idle, ⟨⟩⟩ := Option.ite_none_right_eq_some.mp step
    have refused : irisSessionTransition task.sessionState .linkUp = none := by
      rw [ready]
      rfl
    unfold EventTask.beginSession
    rw [refused]
    exact waiting.moves (by rw [idle]; rfl) (by rw [idle]; nofun) rfl nofun nofun
  | disconnected =>
    obtain ⟨_, ⟨⟩⟩ := Option.ite_none_right_eq_some.mp step
    refine .ended (.inr ⟨waiting.current, ?_⟩)
    rw [EventTask.endSession, ready]
    rfl
  | helloAck newSession authenticated =>
    obtain ⟨_, ⟨⟩⟩ := Option.ite_none_right_eq_some.mp step
    exact waiting.helloAck newSession authenticated
  | reply =>
    obtain ⟨_, ⟨⟩⟩ := Option.ite_none_right_eq_some.mp step
    exact waiting.still rfl rfl rfl rfl rfl id
  | flushed =>
    obtain ⟨_, ⟨⟩⟩ := Option.ite_none_right_eq_some.mp step
    exact waiting.still rfl rfl rfl rfl rfl id
  | output helloDue =>
    obtain ⟨⟨idle, _⟩, ⟨⟩⟩ := Option.ite_none_right_eq_some.mp step
    exact waiting.output idle helloDue
  | served job other =>
    obtain ⟨serving, ⟨⟩⟩ := Option.ite_none_right_eq_some.mp step
    exact waiting.served serving job other
  | advance => exact waiting.advance sound step
  | markHealthy =>
    cases step
    exact waiting.still rfl rfl rfl rfl rfl wants_healthy
  | schedule notice =>
    cases step
    exact waiting.set notice.type

structure Grows (task after : EventTask) : Prop where
  frames : task.frames <+: after.frames
  sessions : task.sessions ≤ after.sessions
  down : after.sessions = task.sessions → task.sessionState = .disconnected → after.sessionState = .disconnected

theorem Grows.of_same (frames : after.frames = task.frames) (sessions : after.sessions = task.sessions)
    (state : after.sessionState = task.sessionState) : Grows task after where
  frames := by rw [frames]
  sessions := sessions.ge
  down := fun _ here => state.trans here

theorem Grows.trans {last : EventTask} (first : Grows task after) (second : Grows after last) : Grows task last where
  frames := first.frames.trans second.frames
  sessions := first.sessions.trans second.sessions
  down := by
    intro same here
    have below := first.sessions
    have above := second.sessions
    exact second.down (by omega) (first.down (by omega) here)

theorem Ended.grows (ended : Ended session task) (grows : Grows task after) : Ended session after := by
  have le := grows.sessions
  obtain above | ⟨rfl, here⟩ := ended
  · exact .inl (above.trans_le le)
  · obtain more | same := le.lt_or_eq
    · exact .inl more
    · exact .inr ⟨same.symm, grows.down same.symm here⟩

theorem beginSession_grows (task : EventTask) : Grows task task.beginSession := by
  unfold EventTask.beginSession
  split
  · exact .of_same rfl rfl rfl
  · exact ⟨List.prefix_rfl, Nat.le_succ _, fun same => absurd same (Nat.succ_ne_self _)⟩

theorem endSession_grows (task : EventTask) (again : Bool) : Grows task (task.endSession again) where
  frames := List.prefix_rfl
  sessions := le_rfl
  down := by
    intro _ here
    unfold EventTask.endSession
    rw [here]
    rfl

theorem helloAck_grows (task : EventTask) (newSession authenticated : Bool) :
    Grows task (task.helloAck newSession authenticated) := by
  unfold EventTask.helloAck
  split
  · split
    · exact endSession_grows task true
    · exact .of_same rfl rfl rfl
  · split
    · exact .of_same rfl rfl rfl
    · split
      · split
        next => exact .of_same rfl rfl rfl
        next accepted =>
          refine ⟨List.prefix_rfl, le_rfl, ?_⟩
          intro _ here
          rw [(authenticated_some accepted).1] at here
          contradiction
      · exact .of_same rfl rfl rfl

theorem advance_grows (step : task.advance = some after) : Grows task after := by
  unfold EventTask.advance at step
  split at step
  case h_1 =>
    cases step
    have wiped : Grows task task.wipe := .of_same rfl rfl rfl
    exact wiped.trans (beginSession_grows task.wipe)
  case h_5 =>
    cases step
    split <;> exact .of_same rfl rfl rfl
  case h_7 =>
    cases step
    exact ⟨List.prefix_append _ _, le_rfl, fun _ here => here⟩
  all_goals
    cases step
    try exact .of_same rfl rfl rfl

theorem next_grows {event : TaskEvent} (step : next task event = some after) : Grows task after := by
  cases event with
  | connected =>
    obtain ⟨_, ⟨⟩⟩ := Option.ite_none_right_eq_some.mp step
    exact beginSession_grows task
  | disconnected =>
    obtain ⟨_, ⟨⟩⟩ := Option.ite_none_right_eq_some.mp step
    exact endSession_grows task false
  | helloAck newSession authenticated =>
    obtain ⟨_, ⟨⟩⟩ := Option.ite_none_right_eq_some.mp step
    exact helloAck_grows task newSession authenticated
  | reply =>
    obtain ⟨_, ⟨⟩⟩ := Option.ite_none_right_eq_some.mp step
    exact .of_same rfl rfl rfl
  | flushed =>
    obtain ⟨_, ⟨⟩⟩ := Option.ite_none_right_eq_some.mp step
    exact .of_same rfl rfl rfl
  | output helloDue =>
    obtain ⟨_, ⟨⟩⟩ := Option.ite_none_right_eq_some.mp step
    unfold EventTask.output
    split_ifs <;> exact .of_same rfl rfl rfl
  | served job other =>
    obtain ⟨_, ⟨⟩⟩ := Option.ite_none_right_eq_some.mp step
    split
    · exact ⟨List.prefix_append _ _, le_rfl, fun _ here => here⟩
    · exact .of_same rfl rfl rfl
  | advance => exact advance_grows step
  | markHealthy =>
    cases step
    exact .of_same rfl rfl rfl
  | schedule notice =>
    cases step
    exact .of_same rfl rfl rfl

end steps

section runs
variable {session : Nat} {type : UInt8} {called last : EventTask} {later : List TaskEvent}

/-- Over a whole run a frame that is owed is built, still owed, or lost with its session. -/
theorem Waiting.run (run : Run events called later last) (sound : Sound called)
    (waiting : Waiting session type called) :
    Continues session type called last (later.countP TaskEvent.calls) := by
  induction run with
  | refl => exact .waits [] (List.append_nil _).symm waiting (by rw [List.length_nil]; omega)
  | @snoc before after earlier event run step ih =>
    have here := sound_invariant.run run sound
    have grows := next_grows step
    rw [List.countP_append, List.countP_singleton]
    cases ih with
    | ended gone => exact .ended (gone.grows grows)
    | built more frames sent =>
      obtain ⟨rest, new⟩ := grows.frames
      refine .built (more ++ rest) ?_ (List.mem_append_left _ sent)
      rw [← new, frames, List.append_assoc]
    | waits more frames still bound =>
      cases still.next here step with
      | ended gone => exact .ended gone
      | built rest new sent =>
        refine .built (more ++ rest) ?_ (List.mem_append_right _ sent)
        rw [new, frames, List.append_assoc]
      | waits rest new waits next =>
        refine .waits (more ++ rest) ?_ waits ?_
        · rw [new, frames, List.append_assoc]
        · rw [List.length_append]
          omega

def EventTask.stage (task : EventTask) : Nat :=
  match task.point with
  | .idle => if task.transmitting then 4 else 3
  | .picking => 2
  | .building _ => 1
  | .clearing _ => 5
  | .serving => 5
  | .scheduling rest => 5 + rest.length
  | .beginning | .ending _ => 0

theorem Waiting.proceeds {task : EventTask} (sound : Sound task) (waiting : Waiting session type task) :
    ∃ event after, event.own = true ∧ SessionEvents.next task event = some after ∧ after.sessions = task.sessions ∧
      after.sessionState = .ready ∧
      (after.stage < task.stage ∨ task.frames.length < after.frames.length ∧ after.stage ≤ 5) := by
  have ready := waiting.ready
  cases place : task.point with
  | ending again =>
    rw [sound.ended again place] at ready
    contradiction
  | beginning =>
    rw [sound.begun place] at ready
    contradiction
  | idle =>
    cases sending : task.transmitting with
    | true =>
      refine ⟨.flushed, _, rfl, if_pos place, rfl, ready, .inl ?_⟩
      simp [EventTask.stage, place, sending]
    | false =>
      have up : task.sessionState ≠ .disconnected := by
        rw [ready]
        decide
      have found : (nextPending task.pendingEvents).isSome := by
        unfold nextPending
        rw [List.find?_isSome]
        exact ⟨type, waiting.listed, waiting.owed_here (by rw [place]; rfl)⟩
      refine ⟨.output false, { task with point := .picking }, rfl, ?_, rfl, ready, .inl ?_⟩
      · refine (if_pos ⟨place, sending, up⟩).trans ?_
        unfold EventTask.output
        rw [if_neg Bool.false_ne_true, if_neg (not_not_intro ready), if_pos found]
      · simp [EventTask.stage, place, sending]
  | scheduling rest =>
    cases rest with
    | nil =>
      refine ⟨.advance, { task with point := .idle }, rfl, ?_, rfl, ready, .inl ?_⟩
      · simp [SessionEvents.next, EventTask.advance, place]
      · simp only [EventTask.stage, place]
        split <;> simp
    | cons first rest =>
      refine ⟨.advance, { (if task.wants first then task.set first else task) with point := .scheduling rest }, rfl,
        ?_, ?_, ?_, .inl ?_⟩
      · simp [SessionEvents.next, EventTask.advance, place]
      · split <;> rfl
      · split <;> exact ready
      · simp [EventTask.stage, place]
  | picking =>
    refine ⟨.advance, { task with point := .building ((nextPending task.pendingEvents).getD 0) }, rfl, ?_, rfl, ready,
      .inl ?_⟩
    · simp [SessionEvents.next, EventTask.advance, place]
    · simp [EventTask.stage, place]
  | building first =>
    refine ⟨.advance, { task.build first with point := .clearing first }, rfl, ?_, rfl, ready, .inr ⟨?_, ?_⟩⟩
    · simp [SessionEvents.next, EventTask.advance, place]
    · simp [EventTask.build]
    · simp [EventTask.stage]
  | clearing first =>
    refine ⟨.advance, { task.clear first with point := .idle }, rfl, ?_, rfl, ready, .inl ?_⟩
    · simp [SessionEvents.next, EventTask.advance, place]
    · simp only [EventTask.stage, place]
      split <;> simp
  | serving =>
    refine ⟨.served false false, _, rfl, if_pos place, rfl, ready, .inl ?_⟩
    simp [EventTask.stage, place]

theorem Waiting.delivered (sound : Sound called) (waiting : Waiting session type called) :
    ∃ own final more, (∀ event ∈ own, event.own = true) ∧ Run events called own final ∧
      final.frames = called.frames ++ more ∧ ⟨session, type⟩ ∈ more := by
  obtain ⟨own, final, chosen, run, more, frames, sent⟩ : ∃ own final, (∀ event ∈ own, event.own = true) ∧
      Run events called own final ∧ ∃ more, final.frames = called.frames ++ more ∧ ⟨session, type⟩ ∈ more := by
    refine reaches_of_rank (fun task => Sound task ∧ ∃ more, task.frames = called.frames ++ more ∧
        (⟨session, type⟩ ∈ more ∨ Waiting session type task)) _ _
      (fun task =>
        if ⟨session, type⟩ ∈ task.frames.drop called.frames.length then 0 else 20 * task.ahead + task.stage + 1)
      ?_ called ⟨sound, [], (List.append_nil _).symm, .inr waiting⟩
    rintro task ⟨sound, more, frames, sent | waiting⟩ missed
    · exact absurd ⟨more, frames, sent⟩ missed
    have missing : ⟨session, type⟩ ∉ task.frames.drop called.frames.length := by
      rw [frames, List.drop_left]
      exact fun sent => missed ⟨more, frames, sent⟩
    obtain ⟨event, after, own, step, sessions, ready, closer⟩ := waiting.proceeds sound
    have quiet : event.calls = false := by
      cases event with
      | schedule => contradiction
      | _ => rfl
    have continues := waiting.next sound step
    rw [quiet, if_neg Bool.false_ne_true] at continues
    cases continues with
    | ended gone =>
      obtain above | ⟨_, down⟩ := gone
      · rw [sessions, waiting.current] at above
        exact absurd above (lt_irrefl _)
      · rw [ready] at down
        contradiction
    | built new same sent =>
      have all : after.frames = called.frames ++ (more ++ new) := by rw [same, frames, List.append_assoc]
      have there : ⟨session, type⟩ ∈ more ++ new := List.mem_append_right _ sent
      refine ⟨event, after, own, step, ⟨sound.next step, more ++ new, all, .inl there⟩, ?_⟩
      rw [if_neg missing, all, List.drop_left, if_pos there]
      exact Nat.succ_pos _
    | waits new same waits bound =>
      refine ⟨event, after, own, step, ⟨sound.next step, more ++ new, ?_, .inr waits⟩, ?_⟩
      · rw [same, frames, List.append_assoc]
      · rw [same, List.length_append] at closer
        rw [if_neg missing]
        split
        · exact Nat.succ_pos _
        · omega
  exact ⟨own, final, more, chosen, run, frames, sent⟩

/-- What a call of `schedule_event` promises the session: its frame comes behind at most the eight other types, a job
update and the answers to later calls, and the protocol task alone gets there. -/
def Delivers (session : Nat) (type : UInt8) (called : EventTask) : Prop :=
  ∀ later last, Run events called later last →
    Ended session last ∨ ∃ more, last.frames = called.frames ++ more ∧
      (⟨session, type⟩ ∈ more ∨ more.length ≤ 8 + later.countP TaskEvent.calls ∧
        ∃ own final rest, (∀ event ∈ own, event.own = true) ∧ Run events last own final ∧
          final.frames = last.frames ++ rest ∧ ⟨session, type⟩ ∈ rest)

theorem Waiting.delivers (sound : Sound called) (waiting : Waiting session type called) :
    Delivers session type called := by
  intro later last run
  have here := sound_invariant.run run sound
  cases waiting.run run sound with
  | ended gone => exact .inl gone
  | built more frames sent => exact .inr ⟨more, frames, .inl sent⟩
  | waits more frames still bound =>
    refine .inr ⟨more, frames, .inr ⟨?_, still.delivered here⟩⟩
    have owed := Finset.card_pos.mpr ⟨type, still.mem_owes⟩
    have most := ahead_le called
    have ahead : last.owes.card ≤ last.ahead := Nat.le_add_right _ _
    omega

end runs

section lost
variable {session : Nat} {type : UInt8} {task after : EventTask}

structure Free (session : Nat) (type : UInt8) (task : EventTask) : Prop where
  ready : task.sessionState = .ready
  pending : task.pendingEvents type = false
  rest : type ∉ task.point.rest
  apart : task.point.concerns ≠ some type

theorem Free.of_pending (free : Free session type task) {point : Point} (rest : point.rest = [])
    (apart : point.concerns ≠ some type) : Free session type { task with point := point } := by
  refine ⟨free.ready, free.pending, ?_, apart⟩
  rw [show Point.rest _ = [] from rest]
  exact List.not_mem_nil

theorem Free.schedules (free : Free session type task) {first : UInt8} {rest : List UInt8}
    (scheduling : task.point = .scheduling (first :: rest)) :
    Free session type { (if task.wants first then task.set first else task) with point := .scheduling rest } := by
  have apart := free.rest
  rw [scheduling] at apart
  have different : type ≠ first := List.ne_of_not_mem_cons apart
  have later : type ∉ rest := List.not_mem_of_not_mem_cons apart
  split
  · refine ⟨free.ready, ?_, later, nofun⟩
    change (task.set first).pendingEvents type = false
    rw [set_pending, decide_eq_false different, Bool.false_or]
    exact free.pending
  · exact ⟨free.ready, free.pending, later, nofun⟩

theorem Free.clears (free : Free session type task) (last : UInt8) :
    Free session type { task.clear last with point := .idle } := by
  refine ⟨free.ready, ?_, List.not_mem_nil, nofun⟩
  change (task.clear last).pendingEvents type = false
  rw [clear_pending, free.pending, Bool.and_false]

theorem Free.advance (sound : Sound task) (free : Free session type task) (step : task.advance = some after) :
    Free session type after ∧ ∃ more, after.frames = task.frames ++ more ∧ ⟨session, type⟩ ∉ more := by
  have ready := free.ready
  have silent : task.frames = task.frames ++ [] ∧ (⟨session, type⟩ : EventFrame) ∉ [] :=
    ⟨(List.append_nil _).symm, List.not_mem_nil⟩
  unfold EventTask.advance at step
  split at step
  next here =>
    rw [sound.ended true here] at ready
    contradiction
  next here =>
    rw [sound.ended false here] at ready
    contradiction
  next here =>
    rw [sound.begun here] at ready
    contradiction
  next here =>
    cases step
    exact ⟨free.of_pending rfl nofun, [], silent⟩
  next here =>
    cases step
    refine ⟨free.schedules here, [], ?_, silent.2⟩
    split <;> exact silent.1
  next here =>
    cases step
    refine ⟨free.of_pending rfl ?_, [], silent⟩
    obtain ⟨first, found⟩ := Option.isSome_iff_exists.mp (sound.picks here)
    have pending := List.find?_some found
    rw [found, Option.getD_some]
    rintro ⟨⟩
    rw [free.pending] at pending
    contradiction
  next first here =>
    have apart := free.apart
    rw [here] at apart
    cases step
    refine ⟨⟨free.ready, free.pending, List.not_mem_nil, apart⟩, [⟨task.sessions, first⟩], rfl, ?_⟩
    intro member
    cases List.mem_singleton.mp member
    exact apart rfl
  next last here =>
    cases step
    exact ⟨free.clears last, [], silent⟩
  next => contradiction
  next => contradiction

theorem Free.next (sound : Sound task) (free : Free session type task) {event : TaskEvent} (own : event.own = true)
    (step : next task event = some after) :
    Free session type after ∧ ∃ more, after.frames = task.frames ++ more ∧ ⟨session, type⟩ ∉ more := by
  have silent : task.frames = task.frames ++ [] ∧ (⟨session, type⟩ : EventFrame) ∉ [] :=
    ⟨(List.append_nil _).symm, List.not_mem_nil⟩
  unfold TaskEvent.own at own
  split at own
  case h_1 =>
    obtain ⟨_, ⟨⟩⟩ := Option.ite_none_right_eq_some.mp step
    exact ⟨⟨free.ready, free.pending, free.rest, free.apart⟩, [], silent⟩
  case h_2 =>
    obtain ⟨_, ⟨⟩⟩ := Option.ite_none_right_eq_some.mp step
    unfold EventTask.output
    rw [if_neg Bool.false_ne_true, if_neg (not_not_intro free.ready)]
    split
    · exact ⟨free.of_pending rfl nofun, [], silent⟩
    · exact ⟨free.of_pending rfl nofun, [], silent⟩
  case h_3 =>
    obtain ⟨_, ⟨⟩⟩ := Option.ite_none_right_eq_some.mp step
    exact ⟨⟨free.ready, free.pending, List.not_mem_nil, nofun⟩, [], silent⟩
  case h_4 => exact free.advance sound step
  case h_5 => contradiction

theorem Free.run {events' : List TaskEvent} (run : Run events task events' after)
    (own : ∀ event ∈ events', event.own = true) (sound : Sound task) (free : Free session type task) :
    Free session type after ∧ ∃ more, after.frames = task.frames ++ more ∧ ⟨session, type⟩ ∉ more := by
  induction run with
  | refl => exact ⟨free, [], (List.append_nil _).symm, List.not_mem_nil⟩
  | @snoc before after earlier event run step ih =>
    obtain ⟨here, more, frames, none'⟩ := ih fun other member => own other (List.mem_append_left _ member)
    have last := own event (List.mem_append_right _ (List.mem_singleton_self _))
    obtain ⟨kept, rest, new, empty⟩ := here.next (sound_invariant.run run sound) last step
    refine ⟨kept, more ++ rest, by rw [new, frames, List.append_assoc], ?_⟩
    intro member
    rcases List.mem_append.mp member with old | later
    · exact none' old
    · exact empty later

/-- Between the frame and the end of `queue_event` a call of `schedule_event` is forgotten. -/
theorem not_delivers (sound : Sound task) (after : Sound (task.set type)) (clearing : task.point = .clearing type) :
    ¬ Delivers task.sessions type (task.set type) := by
  intro delivers
  have ready := sound.working (by rw [clearing]; rfl)
  have free : Free task.sessions type { (task.set type).clear type with point := .idle } := by
    refine ⟨ready, ?_, List.not_mem_nil, nofun⟩
    change ((task.set type).clear type).pendingEvents type = false
    rw [clear_pending, decide_eq_false (not_not_intro rfl), Bool.false_and]
  have step : next (task.set type) .advance = some { (task.set type).clear type with point := .idle } := by
    change EventTask.advance _ = _
    unfold EventTask.advance
    rw [show (task.set type).point = .clearing type from clearing]
  obtain gone | ⟨more, frames, sent⟩ := delivers [.advance] _ (Run.single step)
  · obtain above | ⟨_, down⟩ := gone
    · exact lt_irrefl _ above
    · exact SessionState.noConfusion (ready.symm.trans down)
  · have nothing : more = [] := List.self_eq_append_right.mp frames
    subst nothing
    obtain sent | ⟨_, own, final, rest, chosen, run, new, sent⟩ := sent
    · contradiction
    · obtain ⟨_, built, same, none'⟩ := free.run run chosen (after.next step)
      rw [same] at new
      rw [List.append_cancel_left new] at none'
      exact none' sent

end lost

/-- A call of `schedule_event`, by an application or by the protocol task for its session. -/
inductive Schedules (task : EventTask) : TaskEvent → UInt8 → Prop
  | notice (notice : Notice) : Schedules task (.schedule notice) notice.type
  | session {type : UInt8} {rest : List UInt8} (here : task.point = .scheduling (type :: rest))
      (wanted : task.wants type = true) : Schedules task .advance type

theorem Schedules.listed {task : EventTask} {event : TaskEvent} {type : UInt8} (sound : Sound task)
    (schedules : Schedules task event type) : type ∈ eventOrder := by
  cases schedules with
  | notice notice => cases notice <;> decide
  | session here wanted =>
    have member : type ∈ sessionTypes := (sound.suffix _ here).subset List.mem_cons_self
    exact (show sessionTypes ⊆ eventOrder by decide) member

/-- The call counts, unless the bit of its type is about to be cleared. -/
theorem Schedules.waiting {task called : EventTask} {event : TaskEvent} {type : UInt8} (sound : Sound task)
    (schedules : Schedules task event type) (ready : task.sessionState = .ready)
    (step : next task event = some called) (apart : task.point ≠ .clearing type) :
    Waiting task.sessions type called := by
  have listed := schedules.listed sound
  cases schedules with
  | notice notice =>
    cases step
    refine ⟨ready, rfl, .inl ?_, apart, listed⟩
    rw [set_pending, decide_eq_true rfl, Bool.true_or]
  | @session _ rest here wanted =>
    have scheduled : some { task.set type with point := .scheduling rest } = some called := by
      rw [← step]
      change _ = task.advance
      unfold EventTask.advance
      rw [here]
      dsimp only
      rw [if_pos wanted]
    cases scheduled
    refine ⟨ready, rfl, .inl ?_, nofun, listed⟩
    change (task.set type).pendingEvents type = true
    rw [set_pending, decide_eq_true rfl, Bool.true_or]

/-- BOOT and LINK_READY have been sent, or they are pending and their bits are not about to be cleared. -/
theorem Progress.first_two {boot link : Bool} {types : List UInt8} {point : Point}
    (progress : Progress boot link types point) :
    (EventType.boot ∈ types ∨ (boot = true ∨ EventType.boot ∈ point.rest) ∧ point ≠ .clearing EventType.boot) ∧
    (EventType.linkReady ∈ types ∨
      (link = true ∨ EventType.linkReady ∈ point.rest) ∧ point ≠ .clearing EventType.linkReady) := by
  cases progress with
  | scheduling first second => exact ⟨.inr ⟨first, nofun⟩, .inr ⟨second, nofun⟩⟩
  | waiting stands =>
    have calm : ∀ type, point ≠ .clearing type := by
      rintro type rfl
      simp at stands
    exact ⟨.inr ⟨.inl rfl, calm _⟩, .inr ⟨.inl rfl, calm _⟩⟩
  | booting => exact ⟨.inl List.mem_cons_self, .inr ⟨.inl rfl, by decide⟩⟩
  | booted stands =>
    have calm : ∀ type, point ≠ .clearing type := by
      rintro type rfl
      simp at stands
    exact ⟨.inl List.mem_cons_self, .inr ⟨.inl rfl, calm _⟩⟩
  | linking | linked => exact ⟨.inl List.mem_cons_self, .inl (List.mem_cons_of_mem _ List.mem_cons_self)⟩

theorem Sound.first_two {task : EventTask} (sound : Sound task) (ready : task.sessionState = .ready) :
    ∀ type ∈ [EventType.boot, EventType.linkReady],
      type ∈ task.typesOf task.sessions ∨ Waiting task.sessions type task := by
  obtain ⟨boot, link⟩ := (sound.progress ready).first_two
  rw [List.forall_mem_cons, List.forall_mem_singleton]
  constructor
  · refine boot.imp_right fun ⟨owed, apart⟩ => ?_
    exact ⟨ready, rfl, owed.imp_right fun rest => ⟨rest, rfl⟩, apart, by decide⟩
  · refine link.imp_right fun ⟨owed, apart⟩ => ?_
    exact ⟨ready, rfl, owed.imp_right fun rest => ⟨rest, rfl⟩, apart, by decide⟩

/-- In every session BOOT comes first and LINK_READY second, once each; and a call of `schedule_event` in a READY
session is answered if and only if it does not fall between the frame of its type and the end of `queue_event`. -/
theorem session_events_delivered {task : EventTask} (reached : Reachable events task) :
    (∀ session, Opening (task.typesOf session)) ∧
    (task.sessionState = .ready → ∀ type ∈ [EventType.boot, EventType.linkReady],
      type ∈ task.typesOf task.sessions ∨ Delivers task.sessions type task) ∧
    ∀ type event called, Schedules task event type → task.sessionState = .ready → next task event = some called →
      (Delivers task.sessions type called ↔ task.point ≠ .clearing type) := by
  have sound := sound_invariant.reachable reached
  refine ⟨sound.opening, ?_, ?_⟩
  · intro ready type member
    exact (sound.first_two ready type member).imp_right fun waiting => waiting.delivers sound
  · intro type event called schedules ready step
    have after := sound.next step
    constructor
    · intro delivers clearing
      cases schedules with
      | notice notice =>
        cases step
        exact not_delivers sound after clearing delivers
      | session here =>
        rw [here] at clearing
        contradiction
    · intro apart
      exact (schedules.waiting sound ready step apart).delivers after

def healthySent : List TaskEvent :=
  [.connected, .advance, .helloAck false true, .advance, .advance, .advance, .advance, .advance, .advance, .advance,
    .output false, .advance, .advance, .advance, .flushed, .output false, .advance, .advance, .advance, .flushed,
    .schedule .healthy, .output false, .advance, .advance]

/-- A planned restart is announced while the bit of a HEALTHY event is about to be cleared. -/
theorem session_events_delivered_healthy : ∃ task called, task.sessionState = .ready ∧
    task.point = .clearing EventType.healthy ∧ next task (.schedule .plannedRestart) = some called ∧
    Opening (task.typesOf task.sessions) ∧ Delivers task.sessions EventType.plannedRestart called := by
  obtain ⟨task, run, checked⟩ : ∃ task, Run events (.initial false false false false) healthySent task ∧
      decide (task.sessionState = .ready ∧ task.point = .clearing EventType.healthy) = true :=
    Run.of_check (by decide +kernel)
  obtain ⟨ready, clearing⟩ := of_decide_eq_true checked
  have reached : Reachable events task := ⟨_, _, ⟨false, false, false, false, rfl⟩, run⟩
  obtain ⟨opening, _, delivered⟩ := session_events_delivered reached
  refine ⟨task, task.set EventType.plannedRestart, ready, clearing, rfl, opening task.sessions, ?_⟩
  refine (delivered _ _ _ (.notice .plannedRestart) ready rfl).mpr ?_
  rw [clearing]
  decide

/-- The application turns healthy again at that moment, and no frame says so. -/
theorem second_healthy_lost : ∃ task called, Reachable events task ∧ task.sessionState = .ready ∧
    next task (.schedule .healthy) = some called ∧ ¬ Delivers task.sessions EventType.healthy called := by
  obtain ⟨task, run, checked⟩ : ∃ task, Run events (.initial false false false false) healthySent task ∧
      decide (task.sessionState = .ready ∧ task.point = .clearing EventType.healthy) = true :=
    Run.of_check (by decide +kernel)
  obtain ⟨ready, clearing⟩ := of_decide_eq_true checked
  have reached : Reachable events task := ⟨_, _, ⟨false, false, false, false, rfl⟩, run⟩
  have sound := sound_invariant.reachable reached
  have step : next task (.schedule .healthy) = some (task.set EventType.healthy) := rfl
  exact ⟨task, _, reached, ready, step, not_delivers sound (sound.next step) clearing⟩

end EspIris.Device.SessionEvents
