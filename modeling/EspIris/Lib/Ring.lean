import Mathlib.Data.List.Rotate
import Mathlib.Tactic.Common

/-! A ring of cells. What stands from an offset on is the list of the cells rotated to it, so a block
that runs around the end is a prefix of the rotated list. -/

namespace EspIris.Ring
variable {α : Type}

/-- Copy a block out, in two pieces where it runs around the end. -/
def copyOut (cells : List α) (offset length : Nat) : List α :=
  let first := min length (cells.length - offset)
  (cells.drop offset).take first ++ cells.take (length - first)

/-- Copy a block in, in two pieces where it runs around the end. -/
def copyIn (cells : List α) (offset : Nat) (block : List α) : List α :=
  let first := min block.length (cells.length - offset)
  let placed := cells.take offset ++ block.take first ++ cells.drop (offset + first)
  block.drop first ++ placed.drop (block.length - first)

/-- The `length` cells from `offset` on. -/
def region (cells : List α) (offset length : Nat) : List α := (cells.rotate offset).take length

theorem copyOut_eq {cells : List α} {offset length : Nat} (inside : offset ≤ cells.length)
    (fits : length ≤ cells.length) : copyOut cells offset length = region cells offset length := by
  unfold copyOut region
  dsimp only
  have rest : (cells.drop offset).length = cells.length - offset := List.length_drop
  rw [List.rotate_eq_drop_append_take inside, List.take_append, rest, List.take_take]
  rcases Nat.le_total length (cells.length - offset) with short | long
  · rw [Nat.min_eq_left short, Nat.sub_self, Nat.sub_eq_zero_of_le short, Nat.zero_min]
  · rw [Nat.min_eq_right long, List.take_of_length_le rest.le, List.take_of_length_le (rest.le.trans long),
      Nat.min_eq_left (by omega)]

theorem copyIn_length {cells block : List α} {offset : Nat} (inside : offset ≤ cells.length)
    (fits : block.length ≤ cells.length) : (copyIn cells offset block).length = cells.length := by
  unfold copyIn
  simp only [List.length_append, List.length_drop, List.length_take]
  omega

/-- A block that was copied in comes first from there on, and what it did not reach follows it. -/
theorem copyIn_rotate {cells block : List α} {offset : Nat} (inside : offset ≤ cells.length)
    (fits : block.length ≤ cells.length) :
    (copyIn cells offset block).rotate offset = block ++ (cells.rotate offset).drop block.length := by
  have same := copyIn_length inside fits
  rw [List.rotate_eq_drop_append_take (same ▸ inside), List.rotate_eq_drop_append_take inside]
  unfold copyIn
  dsimp only
  rcases Nat.le_total block.length (cells.length - offset) with short | long
  · have start : (cells.take offset).length = offset := List.length_take_of_le inside
    rw [Nat.min_eq_left short, List.drop_length, List.take_length, Nat.sub_self, List.nil_append, List.drop_zero,
      List.append_assoc, List.drop_left' start, List.take_left' start,
      List.drop_append_of_le_length (by rw [List.length_drop]; exact short), List.drop_drop, List.append_assoc]
  · have start : (cells.take offset).length = offset := List.length_take_of_le inside
    have reaches : (block.take (cells.length - offset)).length = cells.length - offset := List.length_take_of_le long
    have wraps : (block.drop (cells.length - offset)).length = block.length - (cells.length - offset) := List.length_drop
    have beyond : cells.drop (offset + (cells.length - offset)) = [] := List.drop_eq_nil_of_le (by omega)
    have wrapped : block.length - (cells.length - offset) ≤ offset := by omega
    have past : cells.drop (offset + block.length) = [] := List.drop_eq_nil_of_le (by omega)
    rw [Nat.min_eq_right long, beyond, List.append_nil]
    have inside : block.length - (cells.length - offset) ≤ (cells.take offset).length := by
      rw [start]
      exact wrapped
    rw [List.drop_append_of_le_length inside, ← List.append_assoc]
    have front : (block.drop (cells.length - offset) ++
        (cells.take offset).drop (block.length - (cells.length - offset))).length = offset := by
      rw [List.length_append, wraps, List.length_drop, start]
      omega
    rw [List.drop_left' front, List.take_left' front, List.drop_append, List.length_drop, ← List.append_assoc,
      List.take_append_drop, List.drop_drop, past, List.nil_append]

theorem region_mod (cells : List α) (offset length : Nat) :
    region cells (offset % cells.length) length = region cells offset length := by
  unfold region
  rw [List.rotate_mod]

/-- The first part of a region. -/
theorem region_take {cells : List α} {offset length count : Nat} (fits : count ≤ length) :
    (region cells offset length).take count = region cells offset count := by
  unfold region
  rw [List.take_take, Nat.min_eq_left fits]

/-- The part of a region that is left when its start moves on. -/
theorem region_advance {cells : List α} {offset length count : Nat} (inside : length ≤ cells.length) (fits : count ≤ length) :
    region cells (offset + count) (length - count) = (region cells offset length).drop count := by
  unfold region
  have whole : count ≤ (cells.rotate offset).length := by
    rw [List.length_rotate]
    omega
  rw [← List.rotate_rotate, List.rotate_eq_drop_append_take whole, List.drop_take,
    List.take_append_of_le_length]
  rw [List.length_drop, List.length_rotate]
  omega

/-- A block that is written where a region ends is appended to it. -/
theorem region_copyIn {cells block : List α} {start length write : Nat} (inside : write < cells.length)
    (ends : (start + length) % cells.length = write) (fits : length + block.length ≤ cells.length) :
    region (copyIn cells write block) start (length + block.length) = region cells start length ++ block := by
  have small : block.length ≤ cells.length := by omega
  have size : (copyIn cells write block).length = cells.length := copyIn_length inside.le small
  have whole : length ≤ (cells.rotate start).length := by
    rw [List.length_rotate]
    omega
  have written : cells.rotate write = (cells.rotate start).drop length ++ (cells.rotate start).take length := by
    rw [← ends, List.rotate_mod, ← List.rotate_rotate, List.rotate_eq_drop_append_take whole]
  have back : (copyIn cells write block).rotate start =
      ((copyIn cells write block).rotate write).rotate (cells.length - length) := by
    have around : start + length + (cells.length - length) = start + cells.length := by omega
    have turn : (write + (cells.length - length)) % cells.length = start % cells.length := by
      rw [← ends, Nat.mod_add_mod, around, Nat.add_mod_right]
    rw [List.rotate_rotate, ← List.rotate_mod _ (write + _), size, turn, ← size, List.rotate_mod]
  have room : block.length ≤ ((cells.rotate start).drop length).length := by
    rw [List.length_drop, List.length_rotate]
    omega
  have gap : (block ++ ((cells.rotate start).drop length).drop block.length).length = cells.length - length := by
    rw [List.length_append, List.length_drop, List.length_drop, List.length_rotate]
    omega
  have turned : (copyIn cells write block).rotate start =
      (cells.rotate start).take length ++ (block ++ ((cells.rotate start).drop length).drop block.length) := by
    rw [back, copyIn_rotate inside.le small, written, List.drop_append_of_le_length room, ← List.append_assoc, ← gap,
      List.rotate_append_length_eq]
  unfold region
  rw [turned, ← List.append_assoc, List.take_left']
  rw [List.length_append, List.length_take_of_le whole]

end EspIris.Ring
