import Mathlib.Data.List.Forall2

/-! A mailbox with room for one item: a put replaces what waits there, and a take hands it on. -/

namespace EspIris.Latest

variable {Item Output : Type}

/-- What went into a mailbox, and what came out of it. -/
structure Log (Item Output : Type) where
  accepted : List Item
  emitted : List Output

def Log.empty : Log Item Output := ⟨[], []⟩

def Log.accept (log : Log Item Output) (item : Item) : Log Item Output :=
  { log with accepted := log.accepted ++ [item] }

def Log.emit (log : Log Item Output) (output : Output) : Log Item Output :=
  { log with emitted := log.emitted ++ [output] }

section carried
variable (carries : Item → Output → Prop)

/-- The outputs carry items in the order in which they came, each once at most; the waiting one is the last. -/
def Carried (log : Log Item Output) (waiting : Option Item) : Prop :=
  ∃ earlier chosen, log.accepted = earlier ++ waiting.toList ∧ chosen.Sublist earlier ∧
    List.Forall₂ carries chosen log.emitted

variable {carries} {log : Log Item Output} {waiting : Option Item}

theorem Carried.empty : Carried carries (.empty : Log Item Output) none := ⟨[], [], rfl, .slnil, .nil⟩

theorem Carried.forget (carried : Carried carries log waiting) : Carried carries log none := by
  obtain ⟨earlier, chosen, accepted, part, each⟩ := carried
  refine ⟨log.accepted, chosen, (List.append_nil _).symm, ?_, each⟩
  rw [accepted]
  exact part.trans (List.sublist_append_left _ _)

theorem Carried.accept (carried : Carried carries log waiting) (item : Item) :
    Carried carries (log.accept item) (some item) := by
  obtain ⟨earlier, chosen, accepted, part, each⟩ := carried.forget
  rw [Option.toList_none, List.append_nil] at accepted
  refine ⟨log.accepted, chosen, rfl, ?_, each⟩
  rwa [accepted]

theorem Carried.emit {item : Item} {output : Output} (carried : Carried carries log (some item))
    (carry : carries item output) : Carried carries (log.emit output) none := by
  obtain ⟨earlier, chosen, accepted, part, each⟩ := carried
  refine ⟨log.accepted, chosen ++ [item], (List.append_nil _).symm, ?_, ?_⟩
  · rw [accepted]
    exact part.append (.refl _)
  · exact List.rel_append each (.cons carry .nil)

theorem Carried.once (carried : Carried carries log waiting) :
    ∃ chosen, chosen.Sublist log.accepted ∧ List.Forall₂ carries chosen log.emitted := by
  obtain ⟨earlier, chosen, accepted, part, each⟩ := carried
  refine ⟨chosen, ?_, each⟩
  rw [accepted]
  exact part.trans (List.sublist_append_left _ _)

variable (carries) in
/-- Nothing is replaced: every item but the waiting one was handed on, in order. -/
def Passed (log : Log Item Output) (waiting : Option Item) : Prop :=
  ∃ earlier, log.accepted = earlier ++ waiting.toList ∧ List.Forall₂ carries earlier log.emitted

theorem Passed.empty : Passed carries (.empty : Log Item Output) none := ⟨[], rfl, .nil⟩

theorem Passed.accept (passed : Passed carries log none) (item : Item) : Passed carries (log.accept item) (some item) := by
  obtain ⟨earlier, accepted, each⟩ := passed
  rw [Option.toList_none, List.append_nil] at accepted
  refine ⟨log.accepted, rfl, ?_⟩
  rwa [accepted]

theorem Passed.emit {item : Item} {output : Output} (passed : Passed carries log (some item)) (carry : carries item output) :
    Passed carries (log.emit output) none := by
  obtain ⟨earlier, accepted, each⟩ := passed
  refine ⟨earlier ++ [item], ?_, List.rel_append each (.cons carry .nil)⟩
  rw [Option.toList_none, List.append_nil]
  exact accepted

/-- What was handed on, beside what went in first. -/
theorem Passed.inOrder (passed : Passed carries log waiting) :
    List.Forall₂ carries (log.accepted.take log.emitted.length) log.emitted := by
  obtain ⟨earlier, accepted, each⟩ := passed
  rw [accepted, ← each.length_eq, List.take_left]
  exact each

end carried

/-- Every item that came was handed on, or replaced, or waits. -/
def Accounted (log : Log Item Output) (replaced : Nat) (waiting : Bool) : Prop :=
  log.accepted.length = log.emitted.length + replaced + waiting.toNat

section accounted
variable {log : Log Item Output} {replaced : Nat}

theorem Accounted.empty : Accounted (.empty : Log Item Output) 0 false := rfl

theorem Accounted.first (accounted : Accounted log replaced false) (item : Item) :
    Accounted (log.accept item) replaced true := by
  unfold Accounted Log.accept at *
  rw [List.length_append, accounted]
  rfl

theorem Accounted.replace (accounted : Accounted log replaced true) (item : Item) :
    Accounted (log.accept item) (replaced + 1) true := by
  unfold Accounted Log.accept at *
  rw [List.length_append, accounted]
  rfl

theorem Accounted.emit (accounted : Accounted log replaced true) (output : Output) :
    Accounted (log.emit output) replaced false := by
  unfold Accounted Log.emit at *
  rw [List.length_append, accounted, Bool.toNat_true, Bool.toNat_false, List.length_singleton]
  omega

end accounted

end EspIris.Latest
