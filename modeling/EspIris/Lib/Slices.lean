import Mathlib.Algebra.Order.Group.Nat
import Mathlib.Tactic.Common

/-! Writing into a list in place: the assignment of a slice, bytes written over others, and a buffer that blocks of one
size fill one after the other. -/

namespace EspIris.Slices

variable {Element Item : Type}

/-- The assignment to a slice; the elements from `start` to `stop` give way to the new ones. -/
def assign (data : List Element) (start stop : Nat) (elements : List Element) : List Element :=
  data.take start ++ elements ++ data.drop stop

/-- Elements written over as many others. -/
def overwrite (data : List Element) (offset : Nat) (elements : List Element) : List Element :=
  assign data offset (offset + elements.length) elements

section overwrite
variable {data elements : List Element} {offset : Nat}

theorem overwrite_length (room : offset + elements.length ≤ data.length) :
    (overwrite data offset elements).length = data.length := by
  unfold overwrite assign
  rw [List.length_append, List.length_append, List.length_take, List.length_drop]
  omega

theorem overwrite_take (room : offset + elements.length ≤ data.length) :
    (overwrite data offset elements).take (offset + elements.length) = data.take offset ++ elements := by
  unfold overwrite assign
  refine List.take_left' ?_
  rw [List.length_append, List.length_take]
  omega

theorem overwrite_drop {past : Nat} (room : offset + elements.length ≤ data.length)
    (behind : offset + elements.length ≤ past) : (overwrite data offset elements).drop past = data.drop past := by
  obtain ⟨more, rfl⟩ := Nat.exists_eq_add_of_le behind
  have written : (data.take offset ++ elements).length = offset + elements.length := by
    rw [List.length_append, List.length_take]
    omega
  unfold overwrite assign
  rw [← List.drop_drop (i := more), List.drop_left' written, List.drop_drop]

theorem overwrite_nil (data : List Element) (offset : Nat) : overwrite data offset [] = data := by
  unfold overwrite assign
  rw [List.append_nil, List.length_nil, Nat.add_zero, List.take_append_drop]

/-- Two writes behind each other are one. -/
theorem overwrite_overwrite {first second : List Element}
    (room : offset + first.length + second.length ≤ data.length) :
    overwrite (overwrite data offset first) (offset + first.length) second =
      overwrite data offset (first ++ second) := by
  have inner : offset + first.length ≤ data.length := by omega
  change (overwrite data offset first).take (offset + first.length) ++ second ++
    (overwrite data offset first).drop (offset + first.length + second.length) = _
  rw [overwrite_take inner, overwrite_drop inner (Nat.le_add_right _ _)]
  unfold overwrite assign
  rw [List.length_append, Nat.add_assoc, ← List.append_assoc (data.take offset)]

end overwrite

/-- The assignment behind what has been written takes as much of the rest away as it adds. -/
theorem assign_next (written rest elements : List Element) (size : Nat) :
    assign (written ++ rest) written.length (written.length + size) elements =
      written ++ elements ++ rest.drop size := by
  unfold assign
  rw [List.take_left, ← List.drop_drop, List.drop_left]

/-- Steps that each fill the next block fill the buffer with all blocks in order. -/
theorem foldlM_fills {Error : Type} {step : List Element × Nat → Item → Except Error (List Element × Nat)}
    {block : Item → List Element} {size : Nat} {items : List Item}
    (fills : ∀ item ∈ items, ∀ written rest, size ≤ rest.length → step (written ++ rest, written.length) item =
      .ok (written ++ block item ++ rest.drop size, written.length + size))
    (sizes : ∀ item ∈ items, (block item).length = size) (written rest : List Element)
    (room : items.length * size ≤ rest.length) :
    items.foldlM step (written ++ rest, written.length) = .ok
      (written ++ items.flatMap block ++ rest.drop (items.length * size), written.length + items.length * size) := by
  induction items generalizing written rest with
  | nil => simp [pure, Except.pure]
  | cons item items ih =>
    rw [List.length_cons, Nat.succ_mul] at room
    obtain ⟨fill, fills⟩ := List.forall_mem_cons.mp fills
    obtain ⟨fit, sizes⟩ := List.forall_mem_cons.mp sizes
    have here : (written ++ block item).length = written.length + size := by
      rw [List.length_append, fit]
    rw [List.foldlM_cons, fill written rest (by omega), ← here]
    change items.foldlM step (written ++ block item ++ rest.drop size, (written ++ block item).length) = _
    rw [ih fills sizes (written ++ block item) (rest.drop size) (by rw [List.length_drop]; omega)]
    rw [here, List.drop_drop, List.flatMap_cons, List.length_cons, Nat.succ_mul, Nat.add_comm (items.length * size),
      Nat.add_assoc, List.append_assoc written]

section range_blocks
variable {block : Nat → List Element} {size count : Nat}

theorem range_blocks_length (sizes : ∀ index < count, (block index).length = size) :
    ((List.range count).flatMap block).length = count * size := by
  induction count with
  | zero => simp
  | succ count ih =>
    rw [List.range_succ, List.flatMap_append, List.length_append, List.flatMap_singleton, Nat.succ_mul,
      ih fun index below => sizes index (Nat.lt_succ_of_lt below), sizes count (Nat.lt_succ_self count)]

/-- A block is found where the blocks before it end. -/
theorem block_of_range (sizes : ∀ index < count, (block index).length = size) {index : Nat} (below : index < count) :
    (((List.range count).flatMap block).drop (index * size)).take size = block index := by
  induction count with
  | zero => omega
  | succ count ih =>
    have shorter : ∀ index < count, (block index).length = size :=
      fun index below => sizes index (Nat.lt_succ_of_lt below)
    have before := range_blocks_length shorter
    rw [List.range_succ, List.flatMap_append, List.flatMap_singleton]
    rcases Nat.lt_succ_iff_lt_or_eq.mp below with inside | rfl
    · have fits : index * size + size ≤ count * size := by
        rw [← Nat.succ_mul]
        exact Nat.mul_le_mul_right size inside
      rw [List.drop_append_of_le_length (by omega), List.take_append_of_le_length (by rw [List.length_drop]; omega)]
      exact ih shorter inside
    · rw [List.drop_left' before, ← sizes index below, List.take_length]

end range_blocks

/-- A slice of a slice. -/
theorem slice_slice (data : List Element) {start size offset length : Nat} (inside : offset + length ≤ size) :
    (((data.drop start).take size).drop offset).take length = (data.drop (start + offset)).take length := by
  rw [List.drop_take, List.take_take, List.drop_drop, Nat.min_eq_left (by omega)]

/-- Elements are their slices in order. -/
theorem flatMap_slices {data : List Element} {size count : Nat} (whole : data.length = count * size) :
    ((List.range count).flatMap fun index => (data.drop (index * size)).take size) = data := by
  suffices prefixes : ∀ some ≤ count,
      ((List.range some).flatMap fun index => (data.drop (index * size)).take size) = data.take (some * size) by
    rw [prefixes count le_rfl, ← whole, List.take_length]
  intro some within
  induction some with
  | zero => simp
  | succ some ih =>
    rw [List.range_succ, List.flatMap_append, List.flatMap_singleton, ih (Nat.le_of_succ_le within), Nat.succ_mul,
      List.take_add]

end EspIris.Slices
