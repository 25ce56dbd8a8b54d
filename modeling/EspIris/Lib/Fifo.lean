import Mathlib.Algebra.BigOperators.Group.List.Basic
import Mathlib.Algebra.GroupWithZero.Nat
import Mathlib.Tactic.Common

/-! A first-in first-out queue of items of different weights, bounded by their total. Room is made by
dropping whole items, oldest first, and no more of them than it takes. -/

namespace EspIris.Fifo
variable {Item : Type} (weight : Item → Nat)

def total (queue : List Item) : Nat := (queue.map weight).sum

/-- Drop oldest items until the room that is needed is there. -/
def makeRoom (capacity needed : Nat) : List Item → List Item
  | [] => []
  | first :: queue =>
    if capacity - total weight (first :: queue) < needed then makeRoom capacity needed queue else first :: queue

@[simp] theorem total_nil : total weight [] = 0 := rfl

@[simp] theorem total_cons (first : Item) (queue : List Item) :
    total weight (first :: queue) = weight first + total weight queue := by simp [total]

@[simp] theorem total_append (left right : List Item) :
    total weight (left ++ right) = total weight left + total weight right := by simp [total]

theorem total_le_of_suffix {left right : List Item} (suffix : left <:+ right) : total weight left ≤ total weight right := by
  obtain ⟨earlier, rfl⟩ := suffix
  rw [total_append]
  exact Nat.le_add_left _ _

/-- What is dropped is the oldest part of the queue. -/
theorem makeRoom_suffix (capacity needed : Nat) (queue : List Item) : makeRoom weight capacity needed queue <:+ queue := by
  induction queue with
  | nil => exact List.suffix_rfl
  | cons first queue ih =>
    unfold makeRoom
    split
    next => exact ih.trans (List.suffix_cons first queue)
    next => exact List.suffix_rfl

/-- The room is there once nothing is left to drop, if not earlier. -/
theorem makeRoom_room {capacity needed : Nat} (fits : needed ≤ capacity) (queue : List Item) :
    needed ≤ capacity - total weight (makeRoom weight capacity needed queue) := by
  induction queue with
  | nil => exact fits
  | cons first queue ih =>
    unfold makeRoom
    split
    next => exact ih
    next room => exact Nat.le_of_not_lt room

end EspIris.Fifo
