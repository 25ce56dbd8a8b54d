import Mathlib.Data.List.Basic
import Mathlib.Tactic.Common

/-! Scripts of steps that may fail, stopped between two steps and started again; and stages of such scripts
with a version that says which of them are done. -/

namespace EspIris.Replay

variable {State Step Error : Type}

section scripts
variable (exec : Step → State → Except Error State)

/-- The steps in order, up to the first that fails. -/
def play : List Step → State → Except Error State
  | [], state => .ok state
  | step :: steps, state => (exec step state).bind (play steps)

/-- What is left when the script stops after so many steps. -/
def stopped : List Step → Nat → State → State
  | step :: steps, count + 1, state =>
    match exec step state with
    | .ok next => stopped steps count next
    | .error _ => state
  | _, _, state => state

/-- A fact that no step takes back. -/
def Lasting (fact : State → Prop) : Prop :=
  ∀ step before after, exec step before = .ok after → fact before → fact after

/-- Once it has been executed, a step changes nothing any more. -/
def Settles (step : Step) : Prop :=
  ∃ settled : State → Prop, Lasting exec settled ∧ (∀ before after, exec step before = .ok after → settled after) ∧
    ∀ state, settled state → exec step state = .ok state

/-- Once it has been executed, a step fails for good. -/
def Spends (step : Step) : Prop :=
  ∃ spent : State → Prop, Lasting exec spent ∧ (∀ before after, exec step before = .ok after → spent after) ∧
    ∀ state, spent state → ∃ error, exec step state = .error error

variable {exec} {steps more : List Step} {step : Step} {before middle after : State}

theorem play_cons (played : play exec (step :: steps) before = .ok after) :
    ∃ next, exec step before = .ok next ∧ play exec steps next = .ok after := by
  unfold play at played
  cases first : exec step before with
  | error error =>
    rw [first] at played
    cases played
  | ok next =>
    rw [first] at played
    exact ⟨next, rfl, played⟩

theorem play_append : play exec (steps ++ more) before = (play exec steps before).bind (play exec more) := by
  induction steps generalizing before with
  | nil => rfl
  | cons step steps ih =>
    rw [List.cons_append, play, play]
    cases exec step before with
    | error error => rfl
    | ok next => exact ih

theorem play_append_ok : play exec (steps ++ more) before = .ok after ↔
    ∃ middle, play exec steps before = .ok middle ∧ play exec more middle = .ok after := by
  rw [play_append]
  cases play exec steps before with
  | error error => exact iff_of_false (fun is => by cases is) fun ⟨_, is, _⟩ => by cases is
  | ok middle =>
    constructor
    · exact fun rest => ⟨middle, rfl, rest⟩
    · rintro ⟨other, same, rest⟩
      cases same
      exact rest

/-- Where the whole script succeeds, a stop leaves what its first steps made. -/
theorem play_take_stopped (whole : play exec steps before = .ok after) (count : Nat) :
    play exec (steps.take count) before = .ok (stopped exec steps count before) := by
  induction steps generalizing before count with
  | nil =>
    rw [List.take_nil]
    cases count <;> rfl
  | cons step steps ih =>
    cases count with
    | zero => rfl
    | succ count =>
      obtain ⟨next, first, rest⟩ := play_cons whole
      rw [List.take_succ_cons, play, stopped, first]
      exact ih rest count

theorem Lasting.play {fact : State → Prop} (lasting : Lasting exec fact) (played : play exec steps before = .ok after)
    (here : fact before) : fact after := by
  induction steps generalizing before with
  | nil =>
    cases played
    exact here
  | cons step steps ih =>
    obtain ⟨next, first, rest⟩ := play_cons played
    exact ih rest (lasting step before next first here)

/-- A script of settled steps changes nothing when it is played again. -/
theorem play_settled (settles : ∀ step ∈ steps, Settles exec step) (played : play exec steps before = .ok after) :
    play exec steps after = .ok after := by
  induction steps generalizing before with
  | nil => rfl
  | cons step steps ih =>
    obtain ⟨next, first, rest⟩ := play_cons played
    obtain ⟨settled, lasting, makes, stays⟩ := settles step List.mem_cons_self
    have still := stays after (lasting.play rest (makes before next first))
    rw [play, still]
    exact ih (fun other member => settles other (List.mem_cons_of_mem step member)) rest

/-- Played again from wherever it stopped, such a script comes to the same end. -/
theorem play_resumed (settles : ∀ step ∈ steps, Settles exec step) {count : Nat}
    (cut : play exec (steps.take count) before = .ok middle) (whole : play exec steps before = .ok after) :
    play exec steps middle = .ok after := by
  rw [← List.take_append_drop count steps, play_append_ok] at whole ⊢
  obtain ⟨reached, first, rest⟩ := whole
  rw [cut] at first
  cases first
  exact ⟨middle, play_settled (fun step member => settles step (List.mem_of_mem_take member)) cut, rest⟩

/-- A script whose first step can be executed only once fails when it is played again. -/
theorem play_spent (spends : Spends exec step) {count : Nat}
    (cut : play exec ((step :: steps).take (count + 1)) before = .ok middle) (more : List Step) :
    ∃ error, play exec (step :: more) middle = .error error := by
  obtain ⟨spent, lasting, makes, fails⟩ := spends
  rw [List.take_succ_cons] at cut
  obtain ⟨next, first, rest⟩ := play_cons cut
  obtain ⟨error, failed⟩ := fails middle (lasting.play rest (makes before next first))
  refine ⟨error, ?_⟩
  rw [play, failed]
  rfl

end scripts

/-- A script and the version that the state has after it. -/
structure Stage (Step : Type) where
  version : Int
  steps : List Step

section stages
variable (exec : Step → State → Except Error State) (version : State → Int) (set : Int → Step)

/-- The steps of a stage, the last of which sets the version. -/
def Stage.script (stage : Stage Step) : List Step := stage.steps ++ [set stage.version]

/-- The stages that come after a version. -/
def plan (stages : List (Stage Step)) (current : Int) : List Step :=
  (stages.filter fun stage => current < stage.version).flatMap (Stage.script set)

/-- Steps that leave the version alone, except those that set it, and of which some can be executed only
once; a stage has only such or none of them. -/
structure Staged (once : Step → Bool) (stages : List (Stage Step)) : Prop where
  sets : ∀ number before after, exec (set number) before = .ok after → version after = number
  keeps : ∀ stage ∈ stages, ∀ step ∈ stage.steps, ∀ before after, exec step before = .ok after →
    version after = version before
  settles : ∀ stage ∈ stages, ∀ step ∈ stage.steps, once step = false → Settles exec step
  spends : ∀ stage ∈ stages, ∀ step ∈ stage.steps, once step = true → Spends exec step
  repeats : ∀ number, once (set number) = false
  uniform : ∀ stage ∈ stages, (∀ step ∈ stage.steps, once step = false) ∨ ∀ step ∈ stage.steps, once step = true
  ascending : stages.Pairwise fun early late => early.version < late.version

variable {exec version set} {once : Step → Bool} {stage : Stage Step} {stages : List (Stage Step)}
  {before middle after : State}

theorem Staged.tail (staged : Staged exec version set once (stage :: stages)) : Staged exec version set once stages where
  sets := staged.sets
  keeps := fun other member => staged.keeps other (List.mem_cons_of_mem stage member)
  settles := fun other member => staged.settles other (List.mem_cons_of_mem stage member)
  spends := fun other member => staged.spends other (List.mem_cons_of_mem stage member)
  repeats := staged.repeats
  uniform := fun other member => staged.uniform other (List.mem_cons_of_mem stage member)
  ascending := (List.pairwise_cons.mp staged.ascending).2

theorem plan_done {current : Int} (done : stage.version ≤ current) : plan set (stage :: stages) current = plan set stages current := by
  rw [plan, List.filter_cons_of_neg]
  · rfl
  · rw [decide_eq_true_eq]
    omega

section staged
variable (staged : Staged exec version set once (stage :: stages))
include staged

/-- Before a stage that is due, all the later ones are. -/
theorem plan_due {current : Int} (due : current < stage.version) :
    plan set (stage :: stages) current = stage.script set ++ plan set stages stage.version := by
  have later : ∀ bound, bound ≤ stage.version → stages.filter (fun other => bound < other.version) = stages := by
    intro bound below
    rw [List.filter_eq_self]
    intro other member
    have above := (List.pairwise_cons.mp staged.ascending).1 other member
    rw [decide_eq_true_eq]
    omega
  rw [plan, List.filter_cons, if_pos (decide_eq_true due), List.flatMap_cons, plan, later current (by omega),
    later stage.version (Int.le_refl _)]

/-- The steps of a stage leave the version as it is. -/
theorem Staged.kept {steps : List Step} (part : steps ⊆ stage.steps) (played : play exec steps before = .ok after) :
    version after = version before := by
  induction steps generalizing before with
  | nil =>
    cases played
    rfl
  | cons step steps ih =>
    obtain ⟨next, first, rest⟩ := play_cons played
    rw [ih (fun other member => part (List.mem_cons_of_mem step member)) rest]
    exact staged.keeps stage List.mem_cons_self step (part List.mem_cons_self) before next first

theorem Staged.script_version (played : play exec (stage.script set) before = .ok after) :
    version after = stage.version := by
  obtain ⟨ended, _, last⟩ := play_append_ok.mp played
  obtain ⟨numbered, sets, done⟩ := play_cons last
  cases done
  exact staged.sets stage.version ended after sets

/-- A stop beyond the steps of a stage: its version is set, and what follows is its first steps. -/
theorem Staged.stage_over {count : Nat} {later : List Step} (beyond : stage.steps.length < count)
    (cut : play exec ((stage.steps ++ ([set stage.version] ++ later)).take count) before = .ok after) :
    ∃ numbered, version numbered = stage.version ∧ play exec (stage.script set) before = .ok numbered ∧ ∃ rest,
      count = stage.steps.length + 1 + rest ∧ play exec (later.take rest) numbered = .ok after := by
  obtain ⟨rest, rfl⟩ : ∃ rest, count = stage.steps.length + 1 + rest := ⟨count - (stage.steps.length + 1), by omega⟩
  rw [Nat.add_assoc, List.take_length_add_append, Nat.add_comm 1 rest, List.singleton_append, List.take_succ_cons,
    play_append_ok] at cut
  obtain ⟨ended, first, second⟩ := cut
  obtain ⟨numbered, sets, remains⟩ := play_cons second
  have script : play exec (stage.script set) before = .ok numbered := by
    refine play_append_ok.mpr ⟨ended, first, ?_⟩
    rw [play, sets]
    rfl
  exact ⟨numbered, staged.script_version script, script, rest, rfl, remains⟩

end staged

section staged
variable (staged : Staged exec version set once stages)
include staged

/-- However far a plan comes, the version does not go down. -/
theorem Staged.version_le {count : Nat}
    (cut : play exec ((plan set stages (version before)).take count) before = .ok after) :
    version before ≤ version after := by
  induction stages generalizing before count with
  | nil =>
    rw [plan, List.filter_nil, List.flatMap_nil, List.take_nil] at cut
    cases cut
    exact Int.le_refl _
  | cons stage stages ih =>
    rcases Int.lt_or_le (version before) stage.version with due | done
    · rw [plan_due staged due, Stage.script, List.append_assoc] at cut
      rcases Nat.lt_or_ge stage.steps.length count with beyond | inside
      · obtain ⟨numbered, number, _, rest, _, remains⟩ := staged.stage_over beyond cut
        rw [← number] at remains
        have further := ih staged.tail remains
        omega
      · rw [List.take_append_of_le_length inside] at cut
        exact Int.le_of_eq (staged.kept (List.take_subset count stage.steps) cut).symm
    · rw [plan_done done] at cut
      exact ih staged.tail cut

theorem Staged.version_le_end (whole : play exec (plan set stages (version before)) before = .ok after) :
    version before ≤ version after :=
  staged.version_le ((congrArg (fun steps => play exec steps before) List.take_length).trans whole)

/-- It never goes beyond the last stage. -/
theorem Staged.le_version {count : Nat} {bound : Int}
    (cut : play exec ((plan set stages (version before)).take count) before = .ok after) (low : version before ≤ bound)
    (bounded : ∀ stage ∈ stages, stage.version ≤ bound) : version after ≤ bound := by
  induction stages generalizing before count with
  | nil =>
    rw [plan, List.filter_nil, List.flatMap_nil, List.take_nil] at cut
    cases cut
    exact low
  | cons stage stages ih =>
    have later : ∀ other ∈ stages, other.version ≤ bound := fun other member =>
      bounded other (List.mem_cons_of_mem stage member)
    rcases Int.lt_or_le (version before) stage.version with due | done
    · rw [plan_due staged due, Stage.script, List.append_assoc] at cut
      rcases Nat.lt_or_ge stage.steps.length count with beyond | inside
      · obtain ⟨numbered, number, _, rest, _, remains⟩ := staged.stage_over beyond cut
        rw [← number] at remains
        refine ih staged.tail remains ?_ later
        rw [number]
        exact bounded stage List.mem_cons_self
      · rw [List.take_append_of_le_length inside] at cut
        rw [staged.kept (List.take_subset count stage.steps) cut]
        exact low
    · rw [plan_done done] at cut
      exact ih staged.tail cut low later

theorem Staged.le_version_end {bound : Int} (whole : play exec (plan set stages (version before)) before = .ok after)
    (low : version before ≤ bound) (bounded : ∀ stage ∈ stages, stage.version ≤ bound) : version after ≤ bound :=
  staged.le_version ((congrArg (fun steps => play exec steps before) List.take_length).trans whole) low bounded

/-- Played to its end, a plan has done every stage. -/
theorem Staged.version_end (whole : play exec (plan set stages (version before)) before = .ok after) :
    ∀ stage ∈ stages, stage.version ≤ version after := by
  induction stages generalizing before with
  | nil =>
    intro stage member
    cases member
  | cons stage stages ih =>
    have reached := staged.version_le_end whole
    rcases Int.lt_or_le (version before) stage.version with due | done
    · rw [plan_due staged due] at whole
      obtain ⟨numbered, first, rest⟩ := play_append_ok.mp whole
      have number := staged.script_version first
      rw [← number] at rest
      intro other member
      rcases List.mem_cons.mp member with rfl | later
      · have further : version numbered ≤ version after := staged.tail.version_le_end rest
        omega
      · exact ih staged.tail rest other later
    · rw [plan_done done] at whole
      intro other member
      rcases List.mem_cons.mp member with rfl | later
      · omega
      · exact ih staged.tail whole other later

/-- Started again, a plan comes to the same end exactly where the last step before the stop can be executed
more than once. -/
theorem resumed_iff {count : Nat} (whole : play exec (plan set stages (version before)) before = .ok after)
    (cut : play exec ((plan set stages (version before)).take count) before = .ok middle) :
    play exec (plan set stages (version middle)) middle = .ok after ↔
      ∀ last, ((plan set stages (version before)).take count).getLast? = some last → once last = false := by
  induction stages generalizing before count with
  | nil =>
    rw [plan, List.filter_nil, List.flatMap_nil] at whole cut
    rw [List.take_nil] at cut
    cases whole
    cases cut
    refine iff_of_true rfl fun last none => ?_
    rw [plan, List.filter_nil, List.flatMap_nil, List.take_nil] at none
    cases none
  | cons stage stages ih =>
    rcases Int.lt_or_le (version before) stage.version with due | done
    · have planned := plan_due staged due
      rw [Stage.script, List.append_assoc] at planned
      rw [planned] at whole cut ⊢
      rcases Nat.lt_or_ge stage.steps.length count with beyond | inside
      · -- The stage is over: what is left is a plan of the later ones.
        obtain ⟨numbered, number, first, rest, rfl, later⟩ := staged.stage_over beyond cut
        rw [← List.append_assoc] at whole
        obtain ⟨again, same, remains⟩ := play_append_ok.mp whole
        rw [Stage.script] at first
        rw [first] at same
        cases same
        rw [← number] at later remains ⊢
        rw [Nat.add_assoc, List.take_length_add_append, Nat.add_comm 1 rest, List.singleton_append, List.take_succ_cons]
        have higher := staged.tail.version_le later
        rw [number] at higher
        rw [plan_done higher, ih staged.tail remains later]
        constructor
        · intro repeats last is
          rw [List.getLast?_append, List.getLast?_cons] at is
          cases tail : ((plan set stages (version numbered)).take rest).getLast? with
          | none =>
            rw [tail] at is
            cases is
            exact staged.repeats _
          | some other =>
            rw [tail] at is
            cases is
            exact repeats other tail
        · intro repeats last is
          refine repeats last ?_
          rw [List.getLast?_append, List.getLast?_cons, is]
          rfl
      · -- The stop is inside the stage, which is played again.
        rw [List.take_append_of_le_length inside] at cut ⊢
        have same := staged.kept (List.take_subset count stage.steps) cut
        rw [same, planned]
        cases count with
        | zero =>
          cases cut
          exact iff_of_true whole fun last none => by cases none
        | succ count =>
          rcases staged.uniform stage List.mem_cons_self with repeats | single
          · refine iff_of_true ?_ fun last is => ?_
            · obtain ⟨ended, first, rest⟩ := play_append_ok.mp whole
              have settles : ∀ step ∈ stage.steps, Settles exec step := fun step member =>
                staged.settles stage List.mem_cons_self step member (repeats step member)
              exact play_append_ok.mpr ⟨ended, play_resumed settles cut first, rest⟩
            · exact repeats last (List.mem_of_mem_take (List.mem_of_getLast? is))
          · cases steps : stage.steps with
            | nil =>
              rw [steps] at inside
              cases inside
            | cons step others =>
              rw [steps] at cut single
              have spends := staged.spends stage List.mem_cons_self step (steps ▸ List.mem_cons_self)
                (single step List.mem_cons_self)
              obtain ⟨error, failed⟩ := play_spent spends cut (others ++ ([set stage.version] ++ plan set stages stage.version))
              refine iff_of_false (fun is => ?_) fun repeats => ?_
              · rw [List.cons_append, failed] at is
                cases is
              · obtain ⟨last, is⟩ : ∃ last, ((step :: others).take (count + 1)).getLast? = some last := by
                  rw [List.take_succ_cons, List.getLast?_cons]
                  exact ⟨_, rfl⟩
                have twice := single last (List.mem_of_mem_take (List.mem_of_getLast? is))
                rw [repeats last is] at twice
                cases twice
    · rw [plan_done done] at whole cut ⊢
      have higher := staged.tail.version_le cut
      rw [plan_done (by omega)]
      exact ih staged.tail whole cut

end staged

end stages

end EspIris.Replay
