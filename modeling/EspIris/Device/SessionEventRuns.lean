import EspIris.Device.SessionEvents
import Mathlib.Data.Finset.Card

/-! The events of a session over whole runs: BOOT and LINK_READY come first and once each, and what is scheduled in a
session is sent in it, unless the bit is set between the frame of its type and the end of `queue_event`. -/

namespace EspIris.Device.SessionEvents
open Machine

theorem linkUp_some {current state : SessionState} (allowed : irisSessionTransition current .linkUp = some state) :
    state = .negotiating := by
  change (if current = .disconnected then some SessionState.negotiating else none) = some state at allowed
  split at allowed
  · exact (Option.some.inj allowed).symm
  · contradiction

theorem authenticated_some {current state : SessionState}
    (allowed : irisSessionTransition current .authenticated = some state) :
    current = .negotiating ∧ state = .ready := by
  change (if current = .negotiating then some SessionState.ready else none) = some state at allowed
  split at allowed
  next negotiating => exact ⟨negotiating, (Option.some.inj allowed).symm⟩
  next => contradiction

def EventTask.typesOf (task : EventTask) (session : Nat) : List UInt8 :=
  (task.frames.filter fun frame => frame.session = session).map EventFrame.type

theorem typesOf_build (task : EventTask) (type : UInt8) (session : Nat) :
    (task.build type).typesOf session =
      if task.sessions = session then task.typesOf session ++ [type] else task.typesOf session := by
  unfold EventTask.typesOf EventTask.build
  rw [List.filter_append, List.map_append]
  split
  next same =>
    subst same
    simp
  next other => simp [other]

def Opening (types : List UInt8) : Prop :=
  types = [] ∨ types = [EventType.boot] ∨ ∃ rest, types = EventType.boot :: EventType.linkReady :: rest ∧
    EventType.boot ∉ rest ∧ EventType.linkReady ∉ rest

def Point.concerns : Point → Option UInt8
  | .building type | .clearing type => some type
  | _ => none

inductive Progress : Bool → Bool → List UInt8 → Point → Prop
  | scheduling {boot ready : Bool} {rest : List UInt8} (first : boot = true ∨ EventType.boot ∈ rest)
      (second : ready = true ∨ EventType.linkReady ∈ rest) : Progress boot ready [] (.scheduling rest)
  | waiting {point : Point} (stands : point = .idle ∨ point = .picking ∨ point = .building EventType.boot) :
      Progress true true [] point
  | booting : Progress true true [EventType.boot] (.clearing EventType.boot)
  | booted {point : Point} (stands : point = .idle ∨ point = .picking ∨ point = .building EventType.linkReady) :
      Progress false true [EventType.boot] point
  | linking : Progress false true [EventType.boot, EventType.linkReady] (.clearing EventType.linkReady)
  | linked {rest : List UInt8} {point : Point} (boot : EventType.boot ∉ rest) (ready : EventType.linkReady ∉ rest)
      (later : ∀ types, point ≠ .scheduling types)
      (calm : ∀ type, point.concerns = some type → type ≠ EventType.boot ∧ type ≠ EventType.linkReady) :
      Progress false false (EventType.boot :: EventType.linkReady :: rest) point

theorem Progress.opening {boot ready : Bool} {types : List UInt8} {point : Point}
    (progress : Progress boot ready types point) : Opening types := by
  cases progress with
  | scheduling => exact .inl rfl
  | waiting => exact .inl rfl
  | booting => exact .inr (.inl rfl)
  | booted => exact .inr (.inl rfl)
  | linking => exact .inr (.inr ⟨[], rfl, List.not_mem_nil, List.not_mem_nil⟩)
  | linked boot ready => exact .inr (.inr ⟨_, rfl, boot, ready⟩)

section moves
variable {boot link : Bool} {types : List UInt8} {type : UInt8}

theorem Progress.picks (progress : Progress boot link types .idle) : Progress boot link types .picking := by
  cases progress with
  | waiting => exact .waiting (.inr (.inl rfl))
  | booted => exact .booted (.inr (.inl rfl))
  | linked boot ready later calm => exact .linked boot ready nofun nofun

theorem Progress.scheduled (progress : Progress boot link types (.scheduling [])) : Progress boot link types .idle := by
  cases progress with
  | scheduling first second =>
    simp only [List.not_mem_nil, or_false] at first second
    subst first second
    exact .waiting (.inl rfl)
  | waiting stands => simp at stands
  | booted stands => simp at stands
  | linked boot ready later calm => exact .linked boot ready nofun nofun

theorem Progress.append {rest : List UInt8} {point : Point} (boot : EventType.boot ∉ rest)
    (ready : EventType.linkReady ∉ rest) (other : type ≠ EventType.boot) (another : type ≠ EventType.linkReady)
    (later : ∀ types, point ≠ .scheduling types)
    (calm : ∀ type, point.concerns = some type → type ≠ EventType.boot ∧ type ≠ EventType.linkReady) :
    Progress false false (EventType.boot :: EventType.linkReady :: (rest ++ [type])) point := by
  refine .linked ?_ ?_ later calm
  · intro member
    rcases List.mem_append.mp member with old | new
    · exact boot old
    · exact other (List.mem_singleton.mp new).symm
  · intro member
    rcases List.mem_append.mp member with old | new
    · exact ready old
    · exact another (List.mem_singleton.mp new).symm

theorem Progress.builds (progress : Progress boot link types (.building type)) :
    Progress boot link (types ++ [type]) (.clearing type) := by
  cases progress with
  | waiting stands =>
    have same : type = EventType.boot := by simpa using stands
    subst same
    exact .booting
  | booted stands =>
    have same : type = EventType.linkReady := by simpa using stands
    subst same
    exact .linking
  | linked boot ready later calm =>
    obtain ⟨other, another⟩ := calm type rfl
    exact .append boot ready other another nofun fun found same => calm found same

theorem Progress.clears (progress : Progress boot link types (.clearing type)) :
    Progress (decide (EventType.boot ≠ type) && boot) (decide (EventType.linkReady ≠ type) && link) types .idle := by
  cases progress with
  | waiting stands => simp at stands
  | booting => exact .booted (.inl rfl)
  | booted stands => simp at stands
  | linking => exact .linked List.not_mem_nil List.not_mem_nil nofun nofun
  | linked boot ready later calm =>
    rw [Bool.and_false, Bool.and_false]
    exact .linked boot ready nofun nofun

theorem Progress.served (progress : Progress boot link types .serving) : Progress boot link types .idle := by
  cases progress with
  | waiting stands => simp at stands
  | booted stands => simp at stands
  | linked boot ready later calm => exact .linked boot ready nofun nofun

theorem Progress.reports (progress : Progress boot link types .serving) (other : type ≠ EventType.boot)
    (another : type ≠ EventType.linkReady) : Progress boot link (types ++ [type]) .idle := by
  cases progress with
  | waiting stands => simp at stands
  | booted stands => simp at stands
  | linked boot ready later calm => exact .append boot ready other another nofun nofun

end moves

def Point.inReady : Point → Bool
  | .scheduling _ | .picking | .building _ | .clearing _ | .serving => true
  | _ => false

structure Sound (task : EventTask) : Prop where
  progress : task.sessionState = .ready →
    Progress (task.pendingEvents EventType.boot) (task.pendingEvents EventType.linkReady)
      (task.typesOf task.sessions) task.point
  working : task.point.inReady = true → task.sessionState = .ready
  ended : ∀ again, task.point = .ending again → task.sessionState = .disconnected
  begun : task.point = .beginning → task.sessionState = .negotiating
  fresh : task.sessionState = .negotiating → task.typesOf task.sessions = []
  opening : ∀ session, Opening (task.typesOf session)
  later : ∀ session, task.sessions < session → task.typesOf session = []
  picks : task.point = .picking → (nextPending task.pendingEvents).isSome
  holds : ∀ type, task.point.concerns = some type → task.pendingEvents type = true ∧ type ∈ eventOrder
  suffix : ∀ rest, task.point = .scheduling rest → rest <:+ sessionTypes

theorem sound_initial (crash dump loop healthy : Bool) : Sound (.initial crash dump loop healthy) := by
  constructor
  case opening =>
    intro _
    exact .inl rfl
  all_goals
    intros
    first
      | contradiction
      | rfl

section steps
variable {task after : EventTask} (sound : Sound task)

include sound in
/-- A step that leaves the sessions and their frames alone, and the bits of the first two events. -/
theorem Sound.quiet (state : after.sessionState = task.sessionState) (sessions : after.sessions = task.sessions)
    (frames : after.frames = task.frames)
    (progress : after.sessionState = .ready →
      Progress (after.pendingEvents EventType.boot) (after.pendingEvents EventType.linkReady)
        (task.typesOf task.sessions) after.point)
    (working : after.point.inReady = true → after.sessionState = .ready)
    (ended : ∀ again, after.point = .ending again → after.sessionState = .disconnected)
    (begun : after.point = .beginning → after.sessionState = .negotiating)
    (picks : after.point = .picking → (nextPending after.pendingEvents).isSome)
    (holds : ∀ type, after.point.concerns = some type → after.pendingEvents type = true ∧ type ∈ eventOrder)
    (suffix : ∀ rest, after.point = .scheduling rest → rest <:+ sessionTypes) : Sound after := by
  have types : after.typesOf = task.typesOf := by
    funext session
    unfold EventTask.typesOf
    rw [frames]
  constructor
  case progress =>
    rw [types, sessions]
    exact progress
  case working => exact working
  case ended => exact ended
  case begun => exact begun
  case fresh =>
    rw [types, sessions, state]
    exact sound.fresh
  case opening =>
    rw [types]
    exact sound.opening
  case later =>
    rw [types, sessions]
    exact sound.later
  case picks => exact picks
  case holds => exact holds
  case suffix => exact suffix

include sound in
/-- At rest in a READY session the first two events are still to come, or have been sent. -/
theorem Sound.at_rest {point : Point} (ready : task.sessionState = .ready) (idle : task.point = .idle)
    (stands : point = .idle ∨ point = .serving ∧ nextPending task.pendingEvents = none) :
    Progress (task.pendingEvents EventType.boot) (task.pendingEvents EventType.linkReady)
      (task.typesOf task.sessions) point := by
  have progress := sound.progress ready
  rw [idle] at progress
  obtain rfl | ⟨rfl, none'⟩ := stands
  · exact progress
  have empty := List.find?_eq_none.mp none'
  revert progress
  generalize bootBit : task.pendingEvents EventType.boot = boot
  generalize readyBit : task.pendingEvents EventType.linkReady = link
  generalize task.typesOf task.sessions = types
  intro progress
  cases progress with
  | waiting => exact absurd bootBit (empty EventType.boot (by decide))
  | booted => exact absurd readyBit (empty EventType.linkReady (by decide))
  | linked boot ready later calm => exact .linked boot ready nofun nofun

include sound in
theorem Sound.beginSession (idle : task.point = .idle ∨ task.sessionState = .disconnected) :
    Sound task.beginSession := by
  unfold EventTask.beginSession
  split
  next refused =>
    obtain idle | disconnected := idle
    · refine sound.quiet rfl rfl rfl ?_ nofun nofun nofun nofun nofun nofun
      exact fun ready => sound.at_rest ready idle (.inl rfl)
    · rw [disconnected] at refused
      contradiction
  next state begun =>
    have negotiating := linkUp_some begun
    subst negotiating
    have none' : task.typesOf (task.sessions + 1) = [] := sound.later _ (Nat.lt_succ_self _)
    refine ⟨nofun, nofun, nofun, fun _ => rfl, fun _ => none', sound.opening, ?_, nofun, nofun, nofun⟩
    intro session above
    exact sound.later session (Nat.lt_of_succ_lt above)

include sound in
theorem Sound.endSession (again : Bool) : Sound (task.endSession again) := by
  refine ⟨nofun, nofun, fun _ _ => rfl, nofun, nofun, sound.opening, sound.later, nofun, nofun, nofun⟩

include sound in
theorem Sound.wipe (down : task.sessionState ≠ .ready) (point : Point)
    (stands : point = .idle ∨ point = task.point ∧ ∃ again, point = .ending again) :
    Sound { task.wipe with point := point } := by
  have ended : ∀ again, point = .ending again → task.sessionState = .disconnected := by
    intro again here
    obtain rfl | ⟨same, -⟩ := stands
    · contradiction
    · exact sound.ended again (same.symm.trans here)
  obtain rfl | ⟨-, again, rfl⟩ := stands
  · exact sound.quiet rfl rfl rfl (fun ready => absurd ready down) nofun ended nofun nofun nofun nofun
  · exact sound.quiet rfl rfl rfl (fun ready => absurd ready down) nofun ended nofun nofun nofun nofun

include sound in
theorem Sound.helloAck (newSession authenticated : Bool) :
    Sound (task.helloAck newSession authenticated) := by
  unfold EventTask.helloAck
  split
  · split
    · exact sound.endSession true
    · exact sound
  · split
    · exact sound
    · split
      · split
        next => exact sound
        next state accepted =>
          obtain ⟨negotiating, rfl⟩ := authenticated_some accepted
          have none' := sound.fresh negotiating
          refine ⟨?_, fun _ => rfl, nofun, nofun, nofun, sound.opening, sound.later, nofun, nofun, ?_⟩
          · intro _
            change Progress _ _ (task.typesOf task.sessions) _
            rw [none']
            exact .scheduling (.inr (by decide)) (.inr (by decide))
          · intro rest same
            cases same
            exact List.suffix_refl _
      · exact sound

include sound in
theorem Sound.output (idle : task.point = .idle) (helloDue : Bool) : Sound (task.output helloDue) := by
  unfold EventTask.output
  split
  · exact sound.quiet rfl rfl rfl sound.progress sound.working sound.ended sound.begun sound.picks sound.holds
      sound.suffix
  · split
    · exact sound
    next ready =>
      have ready' : task.sessionState = .ready := by simpa using ready
      split
      next some' =>
        refine sound.quiet rfl rfl rfl ?_ (fun _ => ready') nofun nofun (fun _ => some') nofun nofun
        intro _
        have progress := sound.progress ready'
        rw [idle] at progress
        -- the task stands where it did, with a look at the pending events behind it
        exact progress.picks
      next none' =>
        refine sound.quiet rfl rfl rfl ?_ (fun _ => ready') nofun nofun nofun nofun nofun
        intro _
        exact sound.at_rest ready' idle (.inr ⟨rfl, by simpa using none'⟩)

include sound in
/-- A frame is built; what is left to show is how the current session proceeds. -/
theorem Sound.built {type : UInt8} {point : Point} (ready : task.sessionState = .ready)
    (progress : Progress (task.pendingEvents EventType.boot) (task.pendingEvents EventType.linkReady)
      (task.typesOf task.sessions ++ [type]) point)
    (working : ∀ again, point ≠ .ending again) (begun : point ≠ .beginning) (picks : point ≠ .picking)
    (holds : ∀ type, point.concerns = some type → task.pendingEvents type = true ∧ type ∈ eventOrder)
    (suffix : ∀ rest, point ≠ .scheduling rest) : Sound { task.build type with point := point } := by
  have types : ∀ session, EventTask.typesOf { task.build type with point := point } session =
      if task.sessions = session then task.typesOf session ++ [type] else task.typesOf session :=
    typesOf_build task type
  constructor
  case progress =>
    intro _
    change Progress _ _ (EventTask.typesOf _ task.sessions) _
    rw [types, if_pos rfl]
    exact progress
  case working => exact fun _ => ready
  case ended => exact fun again here => absurd here (working again)
  case begun => exact fun here => absurd here begun
  case fresh =>
    intro negotiating
    rw [show task.sessionState = .negotiating from negotiating] at ready
    contradiction
  case opening =>
    intro session
    rw [types]
    split
    next same =>
      subst same
      exact progress.opening
    next => exact sound.opening session
  case later =>
    intro session above
    have apart : task.sessions ≠ session := Nat.ne_of_lt above
    rw [types, if_neg apart]
    exact sound.later session above
  case picks => exact fun here => absurd here picks
  case holds => exact holds
  case suffix => exact fun rest here => absurd here (suffix rest)

theorem set_pending (type other : UInt8) :
    (task.set type).pendingEvents other = (decide (other = type) || task.pendingEvents other) := rfl

theorem clear_pending (type other : UInt8) :
    (task.clear type).pendingEvents other = (decide (other ≠ type) && task.pendingEvents other) := rfl

theorem nextPending_set (type : UInt8) (some' : (nextPending task.pendingEvents).isSome) :
    (nextPending (task.set type).pendingEvents).isSome := by
  unfold nextPending at some' ⊢
  rw [List.find?_isSome] at some' ⊢
  obtain ⟨other, member, pending⟩ := some'
  refine ⟨other, member, ?_⟩
  rw [set_pending, pending, Bool.or_true]

include sound in
theorem Sound.set {type : UInt8} (boot : EventType.boot ≠ type) (ready : EventType.linkReady ≠ type) :
    Sound (task.set type) := by
  refine sound.quiet rfl rfl rfl ?progress ?working ?ended ?begun ?picks ?holds ?suffix
  case progress =>
    intro here
    rw [set_pending, set_pending, decide_eq_false boot, decide_eq_false ready]
    exact sound.progress here
  case working => exact sound.working
  case ended => exact sound.ended
  case begun => exact sound.begun
  case picks => exact fun here => nextPending_set type (sound.picks here)
  case holds =>
    intro other concerns
    obtain ⟨pending, member⟩ := sound.holds other concerns
    refine ⟨?_, member⟩
    rw [set_pending, pending, Bool.or_true]
  case suffix => exact sound.suffix

include sound in
theorem Sound.scheduled (scheduling : task.point = .scheduling []) : Sound { task with point := .idle } := by
  refine sound.quiet rfl rfl rfl ?_ nofun nofun nofun nofun nofun nofun
  intro ready
  have progress := sound.progress ready
  rw [scheduling] at progress
  exact progress.scheduled

include sound in
theorem Sound.schedules {type : UInt8} {rest : List UInt8} (scheduling : task.point = .scheduling (type :: rest)) :
    Sound { (if task.wants type then task.set type else task) with point := .scheduling rest } := by
  have ready := sound.working (by rw [scheduling]; rfl)
  have progress := sound.progress ready
  rw [scheduling] at progress
  have grows : ∀ other, task.pendingEvents other = true ∨ other ∈ type :: rest →
      (other = EventType.boot ∨ other = EventType.linkReady) →
      (if task.wants type then task.set type else task).pendingEvents other = true ∨ other ∈ rest := by
    intro other pending first
    obtain pending | member := pending
    · left
      split
      · rw [set_pending, pending, Bool.or_true]
      · exact pending
    · rcases List.mem_cons.mp member with same | later
      · subst same
        left
        have wanted : task.wants other = true := by
          obtain rfl | rfl := first
          · rfl
          · rfl
        rw [if_pos wanted, set_pending, decide_eq_true rfl, Bool.true_or]
      · exact .inr later
  have state : (if task.wants type then task.set type else task).sessionState = task.sessionState := by
    split <;> rfl
  have sessions : (if task.wants type then task.set type else task).sessions = task.sessions := by
    split <;> rfl
  have frames : (if task.wants type then task.set type else task).frames = task.frames := by
    split <;> rfl
  refine sound.quiet state sessions frames ?_ (fun _ => state.trans ready) nofun nofun nofun nofun ?_
  · intro _
    generalize (if task.wants type then task.set type else task) = set at grows
    revert progress
    generalize boots : task.pendingEvents EventType.boot = boot
    generalize links : task.pendingEvents EventType.linkReady = link
    generalize task.typesOf task.sessions = types
    intro progress
    cases progress with
    | scheduling first second =>
      apply Progress.scheduling
      · exact grows _ (by rw [boots]; exact first) (.inl rfl)
      · exact grows _ (by rw [links]; exact second) (.inr rfl)
    | waiting stands => simp at stands
    | booted stands => simp at stands
    | linked boot ready later calm => exact absurd rfl (later _)
  · intro others same
    cases same
    exact (List.suffix_cons type rest).trans (sound.suffix _ scheduling)

include sound in
theorem Sound.picked (picking : task.point = .picking) :
    Sound { task with point := .building ((nextPending task.pendingEvents).getD 0) } := by
  have ready := sound.working (by rw [picking]; rfl)
  have progress := sound.progress ready
  rw [picking] at progress
  obtain ⟨type, found⟩ := Option.isSome_iff_exists.mp (sound.picks picking)
  have pending := List.find?_some found
  have member := List.mem_of_find?_eq_some found
  rw [found, Option.getD_some]
  refine sound.quiet rfl rfl rfl ?_ (fun _ => ready) nofun nofun nofun ?_ nofun
  · intro _
    change Progress (task.pendingEvents EventType.boot) (task.pendingEvents EventType.linkReady)
      (task.typesOf task.sessions) (.building type)
    unfold nextPending eventOrder at found
    rw [List.find?_cons, List.find?_cons] at found
    revert progress found
    generalize boots : task.pendingEvents EventType.boot = boot
    generalize links : task.pendingEvents EventType.linkReady = link
    generalize task.typesOf task.sessions = types
    intro progress found
    cases progress with
    | waiting =>
      cases found
      exact .waiting (.inr (.inr rfl))
    | booted =>
      cases found
      exact .booted (.inr (.inr rfl))
    | linked first second later calm =>
      refine .linked first second nofun ?_
      rintro _ ⟨⟩
      constructor
      · rintro rfl
        exact Bool.false_ne_true (boots.symm.trans pending)
      · rintro rfl
        exact Bool.false_ne_true (links.symm.trans pending)
  · rintro _ ⟨⟩
    exact ⟨pending, member⟩

include sound in
theorem Sound.builds {type : UInt8} (building : task.point = .building type) :
    Sound { task.build type with point := .clearing type } := by
  have ready := sound.working (by rw [building]; rfl)
  have progress := sound.progress ready
  have holds := sound.holds type (by rw [building]; rfl)
  rw [building] at progress
  refine sound.built ready progress.builds nofun nofun nofun ?_ nofun
  rintro _ ⟨⟩
  exact holds

include sound in
theorem Sound.clears {type : UInt8} (clearing : task.point = .clearing type) :
    Sound { task.clear type with point := .idle } := by
  have ready := sound.working (by rw [clearing]; rfl)
  have progress := sound.progress ready
  rw [clearing] at progress
  refine sound.quiet rfl rfl rfl ?_ nofun nofun nofun nofun nofun nofun
  exact fun _ => progress.clears

include sound in
/-- The services had their turn: nothing was pending, so both of the first events are behind. -/
theorem Sound.served (serving : task.point = .serving) (job other : Bool) :
    Sound { (if job then task.build jobUpdate else { task with transmitting := other }) with point := .idle } := by
  have ready := sound.working (by rw [serving]; rfl)
  have progress := sound.progress ready
  rw [serving] at progress
  split
  next =>
    have more : Progress _ _ (_ ++ [jobUpdate]) _ := progress.reports (by decide) (by decide)
    exact sound.built ready more nofun nofun nofun nofun nofun
  refine sound.quiet rfl rfl rfl ?_ nofun nofun nofun nofun nofun nofun
  exact fun _ => progress.served

include sound in
theorem Sound.advance (step : task.advance = some after) : Sound after := by
  unfold EventTask.advance at step
  split at step
  next here =>
    cases step
    have disconnected := sound.ended true here
    have wiped := sound.wipe (by rw [disconnected]; decide) task.point (.inr ⟨rfl, true, here⟩)
    exact wiped.beginSession (.inr disconnected)
  next here =>
    cases step
    exact sound.wipe (by rw [sound.ended false here]; decide) .idle (.inl rfl)
  next here =>
    cases step
    exact sound.wipe (by rw [sound.begun here]; decide) .idle (.inl rfl)
  next here =>
    cases step
    exact sound.scheduled here
  next here =>
    cases step
    exact sound.schedules here
  next here =>
    cases step
    exact sound.picked here
  next here =>
    cases step
    exact sound.builds here
  next here =>
    cases step
    exact sound.clears here
  next => contradiction
  next => contradiction

include sound in
theorem Sound.flushes (transmitting : Bool) : Sound { task with transmitting } :=
  sound.quiet rfl rfl rfl sound.progress sound.working sound.ended sound.begun sound.picks sound.holds sound.suffix

include sound in
theorem Sound.markHealthy : Sound { task with healthy := true } :=
  sound.quiet rfl rfl rfl sound.progress sound.working sound.ended sound.begun sound.picks sound.holds sound.suffix

include sound in
theorem Sound.next {event : TaskEvent} (step : next task event = some after) : Sound after := by
  cases event with
  | connected =>
    obtain ⟨idle, ⟨⟩⟩ := Option.ite_none_right_eq_some.mp step
    exact sound.beginSession (.inl idle)
  | disconnected =>
    obtain ⟨_, ⟨⟩⟩ := Option.ite_none_right_eq_some.mp step
    exact sound.endSession false
  | helloAck newSession authenticated =>
    obtain ⟨_, ⟨⟩⟩ := Option.ite_none_right_eq_some.mp step
    exact sound.helloAck newSession authenticated
  | reply =>
    obtain ⟨_, ⟨⟩⟩ := Option.ite_none_right_eq_some.mp step
    exact sound.flushes true
  | flushed =>
    obtain ⟨_, ⟨⟩⟩ := Option.ite_none_right_eq_some.mp step
    exact sound.flushes false
  | output helloDue =>
    obtain ⟨⟨idle, _⟩, ⟨⟩⟩ := Option.ite_none_right_eq_some.mp step
    exact sound.output idle helloDue
  | served job other =>
    obtain ⟨serving, ⟨⟩⟩ := Option.ite_none_right_eq_some.mp step
    exact sound.served serving job other
  | advance => exact sound.advance step
  | markHealthy =>
    cases step
    exact sound.markHealthy
  | schedule notice =>
    cases step
    cases notice with
    | healthy => exact sound.set (by decide) (by decide)
    | plannedRestart => exact sound.set (by decide) (by decide)

end steps

theorem sound_invariant : Invariant events Sound where
  start := by
    rintro _ ⟨crash, dump, loop, healthy, rfl⟩
    exact sound_initial crash dump loop healthy
  step := fun _ _ _ sound step => sound.next step

end EspIris.Device.SessionEvents
