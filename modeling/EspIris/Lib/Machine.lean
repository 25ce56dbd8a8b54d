import Mathlib.Tactic.Common

/-! Labelled transition systems. An event carries every choice its environment makes, so
a system is a set of starts and a step relation, and nothing is assumed of determinism.
The rules below are the only inductions over runs the development needs. -/

namespace EspIris.Machine

structure System (State Event : Type) where
  start : State → Prop
  step : State → Event → State → Prop

variable {State Event : Type}

/-- A system whose next state is computed; a missing result means the event is not enabled. -/
def System.ofPartial (start : State → Prop) (next : State → Event → Option State) :
    System State Event where
  start := start
  step := fun before event after => next before event = some after

/-- The same system, every step of which meets a condition on the state before it. -/
def System.guarded (system : System State Event) (allowed : State → Event → Prop) :
    System State Event where
  start := system.start
  step := fun before event after => allowed before event ∧ system.step before event after

inductive Run (system : System State Event) : State → List Event → State → Prop
  | refl (state : State) : Run system state [] state
  | snoc {first before after : State} {events : List Event} {event : Event}
      (earlier : Run system first events before) (last : system.step before event after) :
      Run system first (events ++ [event]) after

theorem Run.single {system : System State Event} {before after : State} {event : Event}
    (step : system.step before event after) : Run system before [event] after :=
  Run.snoc (.refl before) step

theorem Run.trans {system : System State Event} {first middle last : State}
    {events more : List Event} (left : Run system first events middle)
    (right : Run system middle more last) : Run system first (events ++ more) last := by
  induction right with
  | refl => simpa using left
  | snoc _ step ih =>
    rw [← List.append_assoc]
    exact Run.snoc ih step

theorem Run.cons {system : System State Event} {first middle last : State} {event : Event}
    {events : List Event} (step : system.step first event middle)
    (rest : Run system middle events last) : Run system first (event :: events) last :=
  Run.trans (Run.single step) rest

/-- Dropping a guard keeps every run. -/
theorem Run.unguarded {system : System State Event} {allowed : State → Event → Prop}
    {first last : State} {events : List Event}
    (run : Run (system.guarded allowed) first events last) : Run system first events last := by
  induction run with
  | refl => exact .refl _
  | snoc _ step ih => exact .snoc ih step.2

/-- Events that compute to a state are a run to it. -/
theorem Run.of_computed {start : State → Prop} {next : State → Event → Option State} {first last : State}
    {events : List Event} (computed : events.foldlM next first = some last) :
    Run (.ofPartial start next) first events last := by
  induction events generalizing first with
  | nil =>
    cases computed
    exact .refl _
  | cons event events ih =>
    rw [List.foldlM_cons] at computed
    obtain ⟨middle, step, rest⟩ := Option.bind_eq_some_iff.mp computed
    exact Run.cons step (ih rest)

/-- A check of the state that events compute to shows a reachable state that passes it. -/
theorem Run.of_check {start : State → Prop} {next : State → Event → Option State} {first : State}
    {events : List Event} {check : State → Bool}
    (passes : (events.foldlM next first).any check = true) :
    ∃ last, Run (.ofPartial start next) first events last ∧ check last = true := by
  obtain ⟨last, computed, checked⟩ := (Option.any_eq_true check _).mp passes
  exact ⟨last, .of_computed computed, checked⟩

/-- The same for a run that keeps a guard. -/
theorem Run.of_guarded_check {start : State → Prop} {next : State → Event → Option State}
    {allowed : State → Event → Prop} [∀ state event, Decidable (allowed state event)] {first : State}
    {events : List Event} {check : State → Bool}
    (passes : (events.foldlM (fun state event => if allowed state event then next state event else none) first).any
      check = true) :
    ∃ last, Run ((System.ofPartial start next).guarded allowed) first events last ∧ check last = true := by
  obtain ⟨last, computed, checked⟩ := (Option.any_eq_true check _).mp passes
  refine ⟨last, ?_, checked⟩
  clear passes
  induction events generalizing first with
  | nil =>
    cases computed
    exact .refl _
  | cons event events ih =>
    rw [List.foldlM_cons] at computed
    obtain ⟨middle, step, rest⟩ := Option.bind_eq_some_iff.mp computed
    split at step
    next permitted => exact Run.cons ⟨permitted, step⟩ (ih rest)
    next => contradiction

/-- Where no event is enabled every run has ended. -/
theorem Run.stuck {system : System State Event} {first last : State} {events : List Event}
    (run : Run system first events last) (stuck : ∀ event after, ¬ system.step first event after) :
    last = first := by
  induction run with
  | refl => rfl
  | snoc _ step ih =>
    subst ih
    exact absurd step (stuck _ _)

def Reachable (system : System State Event) (state : State) : Prop :=
  ∃ initial events, system.start initial ∧ Run system initial events state

theorem Reachable.of_start {system : System State Event} {state : State}
    (initial : system.start state) : Reachable system state :=
  ⟨state, [], initial, .refl state⟩

theorem Reachable.step {system : System State Event} {before after : State} {event : Event}
    (reached : Reachable system before) (step : system.step before event after) :
    Reachable system after := by
  obtain ⟨initial, events, start, run⟩ := reached
  exact ⟨initial, events ++ [event], start, run.snoc step⟩

theorem Reachable.run {system : System State Event} {before after : State} {events : List Event}
    (reached : Reachable system before) (run : Run system before events after) :
    Reachable system after := by
  obtain ⟨initial, earlier, start, first⟩ := reached
  exact ⟨initial, earlier ++ events, start, first.trans run⟩

theorem Reachable.unguarded {system : System State Event} {allowed : State → Event → Prop}
    {state : State} (reached : Reachable (system.guarded allowed) state) :
    Reachable system state := by
  obtain ⟨initial, events, start, run⟩ := reached
  exact ⟨initial, events, start, run.unguarded⟩

/-- A property of every start that every step keeps. -/
structure Invariant (system : System State Event) (property : State → Prop) : Prop where
  start : ∀ state, system.start state → property state
  step : ∀ before event after, property before → system.step before event after → property after

/-- An invariant can be proved over another one. -/
theorem Invariant.over {system : System State Event} {lower upper : State → Prop} (base : Invariant system lower)
    (start : ∀ state, system.start state → upper state)
    (step : ∀ before event after, lower before → upper before → system.step before event after → upper after) :
    Invariant system fun state => lower state ∧ upper state where
  start := fun state initial => ⟨base.start state initial, start state initial⟩
  step := fun before event after both moves =>
    ⟨base.step before event after both.1 moves, step before event after both.1 both.2 moves⟩

theorem Invariant.guarded {system : System State Event} {property : State → Prop} (allowed : State → Event → Prop)
    (invariant : Invariant system property) : Invariant (system.guarded allowed) property where
  start := invariant.start
  step := fun before event after holds moves => invariant.step before event after holds moves.2

theorem Invariant.run {system : System State Event} {property : State → Prop}
    (invariant : Invariant system property) {first last : State} {events : List Event}
    (run : Run system first events last) (holds : property first) : property last := by
  induction run with
  | refl => exact holds
  | snoc _ step ih => exact invariant.step _ _ _ ih step

theorem Invariant.reachable {system : System State Event} {property : State → Prop}
    (invariant : Invariant system property) {state : State} (reached : Reachable system state) :
    property state := by
  obtain ⟨initial, events, start, run⟩ := reached
  exact invariant.run run (invariant.start initial start)

/-- The same system with a record of its run, which sees every step and decides none. -/
def System.recorded {Record : Type} (system : System State Event) (empty : Record)
    (note : Record → State → Event → State → Record) : System (State × Record) Event where
  start := fun both => system.start both.1 ∧ both.2 = empty
  step := fun before event after =>
    system.step before.1 event after.1 ∧ after.2 = note before.2 before.1 event after.1

/-- A computed system with a record of its run is computed. -/
theorem System.recorded_ofPartial {Record : Type} (start : State → Prop) (next : State → Event → Option State)
    (empty : Record) (note : Record → State → Event → State → Record) :
    (System.ofPartial start next).recorded empty note =
      .ofPartial (fun both => start both.1 ∧ both.2 = empty) fun both event =>
        (next both.1 event).map fun after => (after, note both.2 both.1 event after) := by
  simp only [System.recorded, System.ofPartial, System.mk.injEq, true_and]
  funext before event after
  rw [eq_iff_iff, Option.map_eq_some_iff]
  constructor
  · rintro ⟨step, noted⟩
    exact ⟨after.1, step, Prod.ext rfl noted.symm⟩
  · rintro ⟨_, step, rfl⟩
    exact ⟨step, rfl⟩

/-- Every run has its record. -/
theorem Reachable.recorded {Record : Type} {system : System State Event} {state : State} (empty : Record)
    (note : Record → State → Event → State → Record) (reached : Reachable system state) :
    ∃ record, Reachable (system.recorded empty note) (state, record) := by
  obtain ⟨initial, events, start, run⟩ := reached
  induction run with
  | refl => exact ⟨empty, .of_start ⟨start, rfl⟩⟩
  | @snoc before after events event earlier last ih =>
    obtain ⟨record, reached⟩ := ih
    exact ⟨note record before event after, reached.step ⟨last, rfl⟩⟩

/-- While the goal is not met some step lowers the rank and keeps the invariant, so a finite
run reaches the goal. `chosen` restricts which events may be used for it. -/
theorem reaches_of_rank {system : System State Event} (property goal : State → Prop)
    (chosen : Event → Prop) (rank : State → Nat)
    (progress : ∀ state, property state → ¬ goal state →
      ∃ event next, chosen event ∧ system.step state event next ∧ property next ∧
        rank next < rank state)
    (state : State) (holds : property state) :
    ∃ events last, (∀ event ∈ events, chosen event) ∧ Run system state events last ∧ goal last := by
  induction measured : rank state using Nat.strongRecOn generalizing state with
  | ind bound ih =>
    by_cases done : goal state
    · exact ⟨[], state, by simp, .refl state, done⟩
    · obtain ⟨event, next, use, step, kept, lower⟩ := progress state holds done
      obtain ⟨events, last, uses, run, met⟩ := ih (rank next) (measured ▸ lower) next kept rfl
      refine ⟨event :: events, last, ?_, Run.cons step run, met⟩
      intro other member
      rcases List.mem_cons.mp member with rfl | later
      · exact use
      · exact uses other later

end EspIris.Machine
