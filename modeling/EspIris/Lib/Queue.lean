import Mathlib.Tactic.Common

/-! A bounded first-in first-out queue. Its producers drop the oldest item when it is full,
and its one consumer takes what is there or times out. -/

namespace EspIris.Queue

variable {Item : Type}

def put (limit : Nat) (queue : List Item) (item : Item) : List Item :=
  (if queue.length ≥ limit then queue.drop 1 else queue) ++ [item]

inductive Turn (Item : Type)
  | publish (item : Item)
  | take

/-- The items the consumer takes, in order. A take from an empty queue times out. -/
def received (limit : Nat) : List Item → List (Turn Item) → List Item
  | _, [] => []
  | queue, .publish item :: turns => received limit (put limit queue item) turns
  | [], .take :: turns => received limit [] turns
  | item :: queue, .take :: turns => item :: received limit queue turns

def published : List (Turn Item) → List Item
  | [] => []
  | .publish item :: turns => item :: published turns
  | .take :: turns => published turns

theorem mem_put {limit : Nat} {queue : List Item} {item found : Item} (member : found ∈ put limit queue item) :
    found ∈ queue ∨ found = item := by
  unfold put at member
  rcases List.mem_append.mp member with old | new
  · left
    split at old
    next => exact List.mem_of_mem_drop old
    next => exact old
  · exact .inr (List.mem_singleton.mp new)

theorem put_append (limit : Nat) (old fresh : List Item) (item : Item) :
    ∃ kept later, put limit (old ++ fresh) item = kept ++ later ∧ kept.Sublist old ∧
      later.Sublist (fresh ++ [item]) := by
  unfold put
  split
  · cases old with
    | nil =>
      refine ⟨[], fresh.drop 1 ++ [item], rfl, List.Sublist.refl _, ?_⟩
      exact (List.drop_sublist 1 fresh).append (List.Sublist.refl _)
    | cons first old =>
      refine ⟨old, fresh ++ [item], ?_, List.sublist_cons_self first old, List.Sublist.refl _⟩
      simp
  · exact ⟨old, fresh ++ [item], by simp, List.Sublist.refl _, List.Sublist.refl _⟩

theorem received_append (limit : Nat) (turns : List (Turn Item)) (old fresh : List Item) :
    ∃ kept later, received limit (old ++ fresh) turns = kept ++ later ∧ kept.Sublist old ∧
      later.Sublist (fresh ++ published turns) := by
  induction turns generalizing old fresh with
  | nil => exact ⟨[], [], rfl, List.nil_sublist _, List.nil_sublist _⟩
  | cons turn turns ih =>
    cases turn with
    | publish item =>
      obtain ⟨left, right, after, fromOld, fromFresh⟩ := put_append limit old fresh item
      obtain ⟨kept, later, taken, keptOld, laterFresh⟩ := ih left right
      refine ⟨kept, later, ?_, keptOld.trans fromOld, laterFresh.trans ?_⟩
      · simp only [received, after, taken]
      · have moved := fromFresh.append (List.Sublist.refl (published turns))
        rwa [List.append_assoc] at moved
    | take =>
      cases old with
      | cons first old =>
        obtain ⟨kept, later, taken, keptOld, laterFresh⟩ := ih old fresh
        exact ⟨first :: kept, later, by simp [received, taken], keptOld.cons_cons first, laterFresh⟩
      | nil =>
        cases fresh with
        | nil =>
          obtain ⟨kept, later, taken, keptOld, laterFresh⟩ := ih [] []
          exact ⟨kept, later, by simpa [received] using taken, keptOld, laterFresh⟩
        | cons first fresh =>
          obtain ⟨kept, later, taken, keptOld, laterFresh⟩ := ih [] fresh
          have none : kept = [] := List.sublist_nil.mp keptOld
          subst none
          exact ⟨[], first :: later, by simpa [received] using taken, List.nil_sublist _,
            laterFresh.cons_cons first⟩

/-- What the queue held at first is taken before anything published later. -/
theorem received_ordered (limit : Nat) (queue : List Item) (turns : List (Turn Item)) :
    ∃ kept later, received limit queue turns = kept ++ later ∧ kept.Sublist queue ∧
      later.Sublist (published turns) := by
  have ordered := received_append limit turns queue []
  simpa using ordered

end EspIris.Queue
