import Mathlib.Data.List.Forall2
import Mathlib.Data.List.Induction
import Mathlib.Tactic.Common

/-! Pieces that cover a line in order, and pieces of many lines of one length, cut one line after another. -/

namespace EspIris.Tiling

section tiles
variable {Item : Type} (start size : Item → Nat)

/-- The items cover everything from `first` to `last`, in order, without gap or overlap. -/
def Tiles : Nat → List Item → Nat → Prop
  | first, [], last => first = last
  | first, item :: items, last => start item = first ∧ 0 < size item ∧ Tiles (first + size item) items last

variable {start size} {first middle last : Nat} {items taken : List Item}

theorem Tiles.le (tiles : Tiles start size first items last) : first ≤ last := by
  induction items generalizing first with
  | nil => exact Nat.le_of_eq tiles
  | cons item items ih => exact Nat.le_trans (Nat.le_add_right _ _) (ih tiles.2.2)

/-- No item starts before the first. -/
theorem Tiles.after (tiles : Tiles start size first items last) : ∀ item ∈ items, first ≤ start item := by
  induction items generalizing first with
  | nil =>
    intro item member
    cases member
  | cons item items ih =>
    obtain ⟨starts, _, rest⟩ := tiles
    intro other member
    rcases List.mem_cons.mp member with rfl | later
    · exact Nat.le_of_eq starts.symm
    · exact Nat.le_trans (Nat.le_add_right _ _) (ih rest other later)

theorem Tiles.snoc (tiles : Tiles start size first items last) {item : Item} (starts : start item = last)
    (positive : 0 < size item) : Tiles start size first (items ++ [item]) (last + size item) := by
  induction items generalizing first with
  | nil =>
    cases tiles
    exact ⟨starts, positive, rfl⟩
  | cons head items ih => exact ⟨tiles.1, tiles.2.1, ih tiles.2.2⟩

theorem Tiles.rest {left right : List Item} (tiles : Tiles start size first (left ++ right) last)
    (covers : Tiles start size first left middle) : Tiles start size middle right last := by
  induction left generalizing first with
  | nil =>
    cases covers
    exact tiles
  | cons item left ih => exact ih tiles.2.2 covers.2.2

theorem Tiles.eq_nil (tiles : Tiles start size first items last) (nothing : last ≤ first) : items = [] := by
  cases items with
  | nil => rfl
  | cons item items =>
    have further := tiles.2.2.le
    have positive := tiles.2.1
    omega

/-- Only the last item reaches the end. -/
theorem Tiles.last_iff {item : Item} {before rest : List Item}
    (tiles : Tiles start size first (before ++ item :: rest) last) : start item + size item = last ↔ rest = [] := by
  induction before generalizing first with
  | nil =>
    obtain ⟨starts, positive, more⟩ := tiles
    rw [starts]
    constructor
    · intro reaches
      exact more.eq_nil (Nat.le_of_eq reaches.symm)
    · intro none
      rw [none] at more
      exact more
  | cons head before ih => exact ih tiles.2.2

/-- Items picked out of a tiling that cover a part of it from its start are its first ones. -/
theorem Tiles.isPrefix (tiles : Tiles start size first items last) (part : taken.Sublist items)
    (covers : Tiles start size first taken middle) : taken <+: items := by
  induction items generalizing first taken with
  | nil =>
    cases List.sublist_nil.mp part
    exact List.nil_prefix
  | cons item items ih =>
    cases taken with
    | nil => exact List.nil_prefix
    | cons head taken =>
      cases part with
      | cons _ skipped =>
        -- Past the first item nothing starts where the tiling does.
        have beyond := tiles.2.2.after head (skipped.subset List.mem_cons_self)
        have positive := tiles.2.1
        have starts := covers.1
        omega
      | cons_cons _ kept => exact List.prefix_cons_inj item |>.mpr (ih tiles.2.2 kept covers.2.2)

/-- When they cover all of it they are all of its items. -/
theorem Tiles.whole (tiles : Tiles start size first items last) (part : taken.Sublist items)
    (covers : Tiles start size first taken middle) (far : last ≤ middle) : taken = items := by
  obtain ⟨rest, rfl⟩ := tiles.isPrefix part covers
  rw [(tiles.rest covers).eq_nil far, List.append_nil]

/-- The same pieces, as another line shows them. -/
theorem Tiles.shifted {Other : Type} {otherStart otherSize : Other → Nat} {others : List Other} {shift : Nat}
    (tiles : Tiles start size first items last)
    (each : List.Forall₂ (fun item other => otherStart other = shift + start item ∧ otherSize other = size item) items
      others) : Tiles otherStart otherSize (shift + first) others (shift + last) := by
  induction each generalizing first with
  | nil => exact congrArg (shift + ·) tiles
  | cons same rest ih =>
    obtain ⟨starts, positive, tiles⟩ := tiles
    refine ⟨by rw [same.1, starts], by rw [same.2]; exact positive, ?_⟩
    rw [same.2, Nat.add_assoc]
    exact ih tiles

end tiles

section frames
variable {Item : Type} (frame start size : Item → Nat) (length : Nat)

/-- Where the next piece starts. -/
structure Place where
  frame : Nat
  reached : Nat
  deriving DecidableEq, Repr

/-- The place after a piece, if that is the next one. -/
def place (before : Place) (item : Item) : Option Place :=
  if frame item = before.frame ∧ start item = before.reached ∧ 0 < size item ∧ before.reached + size item ≤ length then
    some (if before.reached + size item = length then ⟨before.frame + 1, 0⟩ else ⟨before.frame, before.reached + size item⟩)
  else none

/-- Lines that are cut one after the other. -/
def cut (items : List Item) : Option Place := items.foldlM (place frame start size length) ⟨0, 0⟩

/-- How much of a line has been cut when the next piece starts at a place. -/
def covered (place : Place) (index : Nat) : Nat :=
  if index < place.frame then length else if index = place.frame then place.reached else 0

variable {frame start size length} {items more : List Item} {reached : Place}

theorem cut_nil : cut frame start size length [] = some ⟨0, 0⟩ := rfl

theorem cut_snoc (item : Item) : cut frame start size length (items ++ [item]) =
    (cut frame start size length items).bind fun before => place frame start size length before item := by
  unfold cut
  rw [List.foldlM_append]
  cases items.foldlM (place frame start size length) ⟨0, 0⟩ with
  | none => rfl
  | some before => exact bind_pure (place frame start size length before item)

/-- What has been cut up to any piece was in order too. -/
theorem cut_append (cutting : cut frame start size length (items ++ more) = some reached) :
    ∃ before, cut frame start size length items = some before := by
  rw [cut, List.foldlM_append] at cutting
  obtain ⟨before, first, _⟩ := Option.bind_eq_some_iff.mp cutting
  exact ⟨before, first⟩

/-- The pieces of each line tile it as far as it has been cut. -/
theorem cut_tiles (positive : 0 < length) (cutting : cut frame start size length items = some reached) :
    reached.reached < length ∧
      ∀ index, Tiles start size 0 (items.filter fun item => frame item = index) (covered length reached index) := by
  induction items using List.reverseRecOn generalizing reached with
  | nil =>
    cases cutting
    refine ⟨positive, fun index => ?_⟩
    show 0 = covered length ⟨0, 0⟩ index
    unfold covered
    split
    next below => exact absurd below (Nat.not_lt_zero _)
    next => split <;> rfl
  | append_singleton items item ih =>
    rw [cut_snoc] at cutting
    obtain ⟨before, first, next⟩ := Option.bind_eq_some_iff.mp cutting
    obtain ⟨short, tiles⟩ := ih first
    unfold place at next
    split at next
    next fits =>
      obtain ⟨here, starts, some, inside⟩ := fits
      have moved := Option.some.inj next
      have grown : ∀ index, covered length reached index =
          if index = before.frame then before.reached + size item else covered length before index := by
        intro index
        unfold covered
        split at moved
        next => subst moved; dsimp only; split_ifs <;> omega
        next => subst moved; dsimp only; split_ifs <;> omega
      constructor
      · split at moved
        next => rw [← moved]; exact positive
        next partly =>
          rw [← moved]
          dsimp only
          omega
      · intro index
        rw [List.filter_append, grown]
        by_cases same : index = before.frame
        · have kept : [item].filter (fun item => frame item = index) = [item] := by
            rw [List.filter_eq_self]
            intro other member
            rw [List.mem_singleton.mp member]
            exact decide_eq_true (here.trans same.symm)
          have earlier := tiles index
          have under : covered length before index = before.reached := by
            rw [covered, if_neg (by omega), if_pos same]
          rw [under] at earlier
          rw [kept, if_pos same]
          exact earlier.snoc starts some
        · have left : [item].filter (fun item => frame item = index) = [] := by
            rw [List.filter_eq_nil_iff]
            intro other member
            rw [List.mem_singleton.mp member, decide_eq_true_eq]
            exact fun is => same (is.symm.trans here)
          rw [left, List.append_nil, if_neg same]
          exact tiles index
    next => cases next

end frames

end EspIris.Tiling
