import Mathlib.Data.List.Induction
import Mathlib.Tactic.Common

/-! Frames in a stream of symbols: a delimiter ends each, empty ones are nothing, and one that
outgrows its limit is dropped up to the next delimiter. -/

namespace EspIris.Framing

/-- What a receiver keeps between two symbols. -/
structure Receiver (α : Type) where
  held : List α
  discarding : Bool

variable {α : Type}

def Receiver.empty : Receiver α := ⟨[], false⟩

variable [DecidableEq α] (limit : Nat) (delimiter : α)

/-- One symbol, and the frame it completes. -/
def take (receiver : Receiver α) (value : α) : Receiver α × Option (List α) :=
  if value = delimiter then
    (.empty, if receiver.discarding ∨ receiver.held = [] then none else some receiver.held)
  else if receiver.discarding then (receiver, none)
  else if receiver.held.length ≥ limit then (⟨[], true⟩, none)
  else (⟨receiver.held ++ [value], false⟩, none)

/-- A whole stream in one go. -/
def receive (receiver : Receiver α) : List α → Receiver α × List (List α)
  | [] => (receiver, [])
  | value :: stream =>
    let taken := take limit delimiter receiver value
    let rest := receive taken.1 stream
    (rest.1, taken.2.toList ++ rest.2)

/-- The frames of a stream do not depend on how it is cut. -/
theorem receive_append (receiver : Receiver α) (first second : List α) :
    receive limit delimiter receiver (first ++ second) =
      let before := receive limit delimiter receiver first
      let after := receive limit delimiter before.1 second
      (after.1, before.2 ++ after.2) := by
  induction first generalizing receiver with
  | nil => rfl
  | cons value first ih => simp only [List.cons_append, receive, ih, List.append_assoc]

theorem receive_snoc (receiver : Receiver α) (stream : List α) (value : α) :
    receive limit delimiter receiver (stream ++ [value]) =
      let before := receive limit delimiter receiver stream
      let taken := take limit delimiter before.1 value
      (taken.1, before.2 ++ taken.2.toList) := by
  rw [receive_append]
  simp only [receive, List.append_nil]

/-- Symbols of a frame pile up. -/
theorem receive_held (before frame : List α) (noDelimiter : delimiter ∉ frame)
    (short : (before ++ frame).length ≤ limit) :
    receive limit delimiter ⟨before, false⟩ frame = (⟨before ++ frame, false⟩, []) := by
  induction frame generalizing before with
  | nil => simp [receive]
  | cons value frame ih =>
    obtain ⟨other, rest⟩ := not_or.mp (List.mem_cons.not.mp noDelimiter)
    have room : ¬ before.length ≥ limit := by
      simp only [List.length_append, List.length_cons] at short
      omega
    have taken : take limit delimiter ⟨before, false⟩ value = (⟨before ++ [value], false⟩, none) := by
      unfold take
      rw [if_neg (Ne.symm other), if_neg (by simp), if_neg room]
    simp only [receive, taken]
    rw [ih (before ++ [value]) rest (by simpa using short)]
    simp

theorem receive_frame (frame : List α) (filled : frame ≠ []) (noDelimiter : delimiter ∉ frame)
    (short : frame.length ≤ limit) :
    receive limit delimiter .empty (frame ++ [delimiter]) = (.empty, [frame]) := by
  have held := receive_held limit delimiter [] frame noDelimiter (by simpa using short)
  rw [receive_snoc, Receiver.empty, held]
  simp [take, filled, Receiver.empty]

/-- What follows the last delimiter of a stream. -/
def unfinished (stream : List α) : List α :=
  (stream.splitOn delimiter).getLast?.getD []

/-- The frames of a stream: what stands before its delimiters, if it is neither empty nor too long. -/
def segments (stream : List α) : List (List α) :=
  (stream.splitOn delimiter).dropLast.filter fun piece => decide (piece ≠ [] ∧ piece.length ≤ limit)

theorem splitOn_pieces (stream : List α) :
    stream.splitOn delimiter = (stream.splitOn delimiter).dropLast ++ [unfinished delimiter stream] := by
  have some := List.splitOn_ne_nil delimiter stream
  rw [unfinished, List.getLast?_eq_some_getLast some, Option.getD_some, List.dropLast_concat_getLast some]

theorem splitOn_delimiter (stream : List α) :
    (stream ++ [delimiter]).splitOn delimiter = stream.splitOn delimiter ++ [[]] := by
  rw [List.splitOn_append_cons_self, List.splitOn_nil]

theorem splitOn_other (stream : List α) {value : α} (other : value ≠ delimiter) :
    (stream ++ [value]).splitOn delimiter =
      (stream.splitOn delimiter).dropLast ++ [unfinished delimiter stream ++ [value]] := by
  have separate : ∀ symbol, (symbol == delimiter) = decide (symbol = delimiter) := fun _ => rfl
  unfold unfinished
  induction stream with
  | nil => simp [List.splitOn_cons_eq_if_modifyHead, separate, other]
  | cons symbol stream ih =>
    simp only [List.cons_append, List.splitOn_cons_eq_if_modifyHead, ih]
    have some := List.splitOn_ne_nil delimiter stream
    generalize stream.splitOn delimiter = pieces at some
    cases pieces with
    | nil => contradiction
    | cons piece pieces => cases pieces <;> split <;> simp

theorem unfinished_delimiter (stream : List α) : unfinished delimiter (stream ++ [delimiter]) = [] := by
  simp [unfinished, splitOn_delimiter]

theorem unfinished_other (stream : List α) {value : α} (other : value ≠ delimiter) :
    unfinished delimiter (stream ++ [value]) = unfinished delimiter stream ++ [value] := by
  simp [unfinished, splitOn_other delimiter stream other]

theorem segments_delimiter (stream : List α) :
    segments limit delimiter (stream ++ [delimiter]) = segments limit delimiter stream ++
      if unfinished delimiter stream ≠ [] ∧ (unfinished delimiter stream).length ≤ limit then
        [unfinished delimiter stream]
      else [] := by
  unfold segments
  rw [splitOn_delimiter, List.dropLast_concat]
  conv_lhs => rw [splitOn_pieces delimiter stream]
  rw [List.filter_append]
  congr 1
  split <;> simp_all

theorem segments_other (stream : List α) {value : α} (other : value ≠ delimiter) :
    segments limit delimiter (stream ++ [value]) = segments limit delimiter stream := by
  unfold segments
  rw [splitOn_other delimiter stream other, List.dropLast_concat]

/-- What a receiver keeps of an unfinished frame. -/
def Receiver.over (limit : Nat) (rest : List α) : Receiver α where
  held := if rest.length ≤ limit then rest else []
  discarding := decide (limit < rest.length)

theorem take_delimiter (rest : List α) :
    take limit delimiter (.over limit rest) delimiter =
      (.empty, if rest ≠ [] ∧ rest.length ≤ limit then some rest else none) := by
  unfold take
  rw [if_pos rfl]
  by_cases short : rest.length ≤ limit
  · simp [Receiver.over, short, Nat.not_lt.mpr short]
  · simp [Receiver.over, short, Nat.lt_of_not_le short]

theorem take_other (rest : List α) {value : α} (other : value ≠ delimiter) :
    take limit delimiter (.over limit rest) value = (.over limit (rest ++ [value]), none) := by
  unfold take
  rw [if_neg other]
  by_cases long : limit < rest.length
  · have isOver : limit < rest.length + 1 := Nat.lt_succ_of_lt long
    simp [Receiver.over, long, isOver, Nat.not_le.mpr long, Nat.not_le.mpr isOver]
  · have short : rest.length ≤ limit := Nat.not_lt.mp long
    by_cases full : limit ≤ rest.length
    · have isOver : limit < rest.length + 1 := Nat.lt_succ_of_le full
      simp [Receiver.over, short, long, full, isOver, Nat.not_le.mpr isOver]
    · have room : rest.length + 1 ≤ limit := Nat.lt_of_not_le full
      simp [Receiver.over, short, long, full, room, Nat.not_lt.mpr room]

/-- A receiver takes exactly the frames of the stream. -/
theorem receive_segments (stream : List α) :
    receive limit delimiter .empty stream =
      (.over limit (unfinished delimiter stream), segments limit delimiter stream) := by
  induction stream using List.reverseRecOn with
  | nil => simp [receive, Receiver.over, Receiver.empty, unfinished, segments]
  | append_singleton stream value ih =>
    rw [receive_snoc, ih]
    dsimp only
    by_cases ends : value = delimiter
    · rw [ends, take_delimiter, unfinished_delimiter, segments_delimiter]
      congr 1
      split <;> rfl
    · rw [take_other limit delimiter _ ends, unfinished_other delimiter stream ends, segments_other limit delimiter _ ends,
        Option.toList_none, List.append_nil]

/-- After a delimiter a frame is received whatever came before. -/
theorem segments_after_delimiter (garbage frame : List α) (filled : frame ≠ []) (noDelimiter : delimiter ∉ frame)
    (short : frame.length ≤ limit) :
    segments limit delimiter (garbage ++ [delimiter] ++ (frame ++ [delimiter])) =
      segments limit delimiter (garbage ++ [delimiter]) ++ [frame] := by
  have rest : receive limit delimiter .empty (garbage ++ [delimiter]) =
      (.empty, segments limit delimiter (garbage ++ [delimiter])) := by
    rw [receive_segments, unfinished_delimiter]
    rfl
  have whole := receive_append limit delimiter .empty (garbage ++ [delimiter]) (frame ++ [delimiter])
  rw [rest] at whole
  dsimp only at whole
  rw [receive_frame limit delimiter frame filled noDelimiter short, receive_segments] at whole
  exact (Prod.mk.inj whole).2

end EspIris.Framing
