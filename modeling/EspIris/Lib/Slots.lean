import Mathlib.Tactic.Common

/-! A table of slots, each of which is empty or holds a value. A place of the table is reused, so
an index says nothing of which value it once held. -/

namespace EspIris.Slots
variable {α : Type}

/-- What a slot holds; there is nothing outside the table. -/
def get (slots : List (Option α)) (slot : Nat) : Option α := (slots[slot]?).join

def put (slots : List (Option α)) (slot : Nat) (value : α) : List (Option α) := slots.set slot (some value)

/-- The first slot whose content may be overwritten. -/
def find (vacant : Option α → Bool) (slots : List (Option α)) : Option Nat := slots.findIdx? vacant

theorem inside_of_get {slots : List (Option α)} {slot : Nat} {value : α} (held : get slots slot = some value) :
    slot < slots.length := by
  rw [get, Option.join_eq_some_iff] at held
  exact (List.getElem?_eq_some_iff.mp held).1

@[simp] theorem length_put (slots : List (Option α)) (slot : Nat) (value : α) :
    (put slots slot value).length = slots.length := List.length_set

theorem get_put_same {slots : List (Option α)} {slot : Nat} (value : α) (inside : slot < slots.length) :
    get (put slots slot value) slot = some value := by
  rw [get, put, List.getElem?_set_self inside]
  rfl

theorem get_put_other (slots : List (Option α)) {slot other : Nat} (value : α) (different : other ≠ slot) :
    get (put slots slot value) other = get slots other := by
  rw [get, put, List.getElem?_set_ne different.symm]
  rfl

/-- After a write a slot holds what was written there, or what it held. -/
theorem get_put_cases {slots : List (Option α)} {slot other : Nat} {value found : α}
    (held : get (put slots slot value) other = some found) :
    (other = slot ∧ found = value) ∨ (other ≠ slot ∧ get slots other = some found) := by
  by_cases same : other = slot
  · subst same
    have inside := inside_of_get held
    rw [length_put] at inside
    rw [get_put_same value inside] at held
    exact .inl ⟨rfl, (Option.some.inj held).symm⟩
  · rw [get_put_other slots value same] at held
    exact .inr ⟨same, held⟩

theorem find_vacant {vacant : Option α → Bool} {slots : List (Option α)} {slot : Nat}
    (found : find vacant slots = some slot) : slot < slots.length ∧ vacant (get slots slot) = true := by
  rw [find, List.findIdx?_eq_some_iff_getElem] at found
  obtain ⟨inside, empty, _⟩ := found
  refine ⟨inside, ?_⟩
  rw [get, List.getElem?_eq_getElem inside]
  exact empty

end EspIris.Slots
