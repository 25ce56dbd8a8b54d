import Mathlib.Data.List.Pairwise
import Mathlib.Tactic.Common

/-! A stream over a numbered log, with a marker where something may be missing. An entry of the stream is a
row or, as `none`, the marker. -/

namespace EspIris.MarkedStream
variable {Row : Type} (key : Row → Nat)

/-- A marker stands in the place of the row: behind every earlier one and before every later one. -/
def Marked (stream : List (Option Row)) (row : Row) : Prop :=
  ∃ before after, stream = before ++ none :: after ∧
    (∀ other, some other ∈ before → key other < key row) ∧ ∀ other, some other ∈ after → key row < key other

/-- The stream has the wanted rows of the log in their order, or a marker for each. -/
structure Covers (wanted : Row → Prop) (log : List Row) (stream : List (Option Row)) : Prop where
  increasing : (stream.filterMap id).Pairwise (key · < key ·)
  known : ∀ row, some row ∈ stream → row ∈ log ∧ wanted row
  complete : ∀ row ∈ log, wanted row → some row ∈ stream ∨ Marked key stream row

variable {key} {wanted : Row → Prop} {log : List Row} {stream arrived rest : List (Option Row)} {row : Row}

theorem Marked.append (marked : Marked key stream row) (more : List (Option Row))
    (later : ∀ other, some other ∈ more → key row < key other) : Marked key (stream ++ more) row := by
  obtain ⟨before, after, rfl, earlier, behind⟩ := marked
  refine ⟨before, after ++ more, by rw [List.append_assoc, List.cons_append], earlier, fun other member => ?_⟩
  rcases List.mem_append.mp member with old | new
  · exact behind other old
  · exact later other new

/-- A history with what waits behind it, and perhaps a marker before them. -/
theorem Covers.start {history : List Row} {waiting : List (Option Row)} {gap : Bool}
    (increasing : (history ++ waiting.filterMap id).Pairwise (key · < key ·))
    (known : ∀ row, row ∈ history ∨ some row ∈ waiting → row ∈ log ∧ wanted row)
    (holds : ∀ row ∈ log, wanted row → row ∈ history ∨ some row ∈ waiting ∨
      gap = true ∧ ∀ other, other ∈ history ∨ some other ∈ waiting → key row < key other) :
    Covers key wanted log ((if gap then [none] else []) ++ (history.map some ++ waiting)) := by
  have inside : ∀ other, some other ∈ history.map some ++ waiting ↔ other ∈ history ∨ some other ∈ waiting := by
    intro other
    rw [List.mem_append, List.mem_map]
    simp
  have among : ∀ other, some other ∈ (if gap then [none] else []) ++ (history.map some ++ waiting) ↔
      other ∈ history ∨ some other ∈ waiting := by
    intro other
    rw [List.mem_append, inside]
    cases gap <;> simp
  refine ⟨?_, fun row member => known row ((among row).mp member), fun row member wants => ?_⟩
  · rw [List.filterMap_append, List.filterMap_append, List.filterMap_map]
    cases gap <;> simpa using increasing
  · rcases holds row member wants with here | waits | ⟨rfl, older⟩
    · exact .inl ((among row).mpr (.inl here))
    · exact .inl ((among row).mpr (.inr waits))
    · exact .inr ⟨[], history.map some ++ waiting, rfl, fun other none => absurd none List.not_mem_nil,
        fun other later => older other ((inside other).mp later)⟩

/-- A row that nobody waits for changes nothing. -/
theorem Covers.skip (covers : Covers key wanted log stream) (unwanted : ¬ wanted row) :
    Covers key wanted (log ++ [row]) stream where
  increasing := covers.increasing
  known := fun other member => ⟨List.mem_append_left _ (covers.known other member).1, (covers.known other member).2⟩
  complete := by
    intro other member wants
    rcases List.mem_append.mp member with old | new
    · exact covers.complete other old wants
    · cases List.mem_singleton.mp new
      exact absurd wants unwanted

/-- The newest row goes to the end of the stream. -/
theorem Covers.push (covers : Covers key wanted log stream) (newest : ∀ other ∈ log, key other < key row)
    (wants : wanted row) : Covers key wanted (log ++ [row]) (stream ++ [some row]) where
  increasing := by
    rw [List.filterMap_append, List.pairwise_append]
    refine ⟨covers.increasing, List.pairwise_singleton _ _, fun other member last isLast => ?_⟩
    cases List.mem_singleton.mp isLast
    obtain ⟨_, inside, rfl⟩ := List.mem_filterMap.mp member
    exact newest other (covers.known other inside).1
  known := by
    intro other member
    rcases List.mem_append.mp member with old | new
    · exact ⟨List.mem_append_left _ (covers.known other old).1, (covers.known other old).2⟩
    · cases List.mem_singleton.mp new
      exact ⟨List.mem_append_right _ (List.mem_singleton_self _), wants⟩
  complete := by
    intro other member wantsOther
    rcases List.mem_append.mp member with old | new
    · rcases covers.complete other old wantsOther with held | marked
      · exact .inl (List.mem_append_left _ held)
      · refine .inr (marked.append _ fun last isLast => ?_)
        cases List.mem_singleton.mp isLast
        exact newest other old
    · cases List.mem_singleton.mp new
      exact .inl (List.mem_append_right _ (List.mem_singleton_self _))

/-- A marker at the end stands for the newest row. -/
theorem Covers.mark (covers : Covers key wanted log stream) (newest : ∀ other ∈ log, key other < key row) :
    Covers key wanted (log ++ [row]) (stream ++ [none]) where
  increasing := by
    rw [List.filterMap_append]
    simpa using covers.increasing
  known := by
    intro other member
    rcases List.mem_append.mp member with old | new
    · exact ⟨List.mem_append_left _ (covers.known other old).1, (covers.known other old).2⟩
    · exact absurd (List.mem_singleton.mp new) (Option.some_ne_none _)
  complete := by
    intro other member wantsOther
    rcases List.mem_append.mp member with old | new
    · rcases covers.complete other old wantsOther with held | marked
      · exact .inl (List.mem_append_left _ held)
      · exact .inr (marked.append _ fun last isLast => absurd (List.mem_singleton.mp isLast) (Option.some_ne_none _))
    · cases List.mem_singleton.mp new
      refine .inr ⟨stream, [], rfl, fun earlier held => newest earlier (covers.known earlier held).1, ?_⟩
      exact fun later held => absurd held (List.not_mem_nil)

/-- What has come so far is ordered and wanted. -/
theorem Covers.received (covers : Covers key wanted log (arrived ++ rest)) :
    (arrived.filterMap id).Pairwise (key · < key ·) ∧ ∀ row, some row ∈ arrived → row ∈ log ∧ wanted row := by
  have increasing := covers.increasing
  rw [List.filterMap_append, List.pairwise_append] at increasing
  exact ⟨increasing.1, fun row held => covers.known row (List.mem_append_left _ held)⟩

/-- A row that is not among what has come is not behind it: where a later row has come, the marker has. -/
theorem Covers.passed (covers : Covers key wanted log (arrived ++ rest)) {later : Row} (known : row ∈ log)
    (wants : wanted row) (held : some later ∈ arrived) (behind : key row < key later) :
    some row ∈ arrived ∨ Marked key arrived row := by
  have increasing := covers.increasing
  rw [List.filterMap_append, List.pairwise_append] at increasing
  rcases covers.complete row known wants with inside | ⟨before, after, same, earlier, afterwards⟩
  · rcases List.mem_append.mp inside with here | coming
    · exact .inl here
    · have ahead := increasing.2.2 later (List.mem_filterMap.mpr ⟨_, held, rfl⟩) row (List.mem_filterMap.mpr ⟨_, coming, rfl⟩)
      exact absurd ahead (Nat.lt_asymm behind)
  · right
    rcases List.append_eq_append_iff.mp same with ⟨between, split, tail⟩ | ⟨between, split, tail⟩
    · have early := earlier later (split ▸ List.mem_append_left _ held)
      exact absurd early (Nat.lt_asymm behind)
    · cases between with
      | nil =>
        rw [List.append_nil] at split
        have early := earlier later (split ▸ held)
        exact absurd early (Nat.lt_asymm behind)
      | cons first between =>
        rw [List.cons_append, List.cons.injEq] at tail
        obtain ⟨rfl, rfl⟩ := tail
        exact ⟨before, between, split, earlier, fun other member => afterwards other (List.mem_append_left _ member)⟩

end EspIris.MarkedStream
