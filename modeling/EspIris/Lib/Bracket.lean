import Mathlib.Tactic.Common

/-! Calls that open, use and close one resource. A log of calls is in order when nothing is opened
twice, and nothing is used or closed that is not open. -/

namespace EspIris.Bracket

/-- What a call does to the resource; an attempt is an opening that failed. -/
inductive Use
  | opens
  | attempts
  | uses
  | closes
  deriving DecidableEq, Repr

/-- Whether the resource is open after a call, if the call is in order. -/
def Use.after : Use → Bool → Option Bool
  | .opens, false => some true
  | .attempts, false => some false
  | .uses, true => some true
  | .closes, true => some false
  | _, _ => none

section calls
variable {Call : Type} (use : Call → Option Use)

def move (held : Bool) (call : Call) : Option Bool :=
  match use call with
  | none => some held
  | some done => done.after held

/-- Whether the resource is open after a log of calls, if all of them are in order. -/
def ledger (held : Bool) (calls : List Call) : Option Bool := calls.foldlM (move use) held

def count (kind : Use) (calls : List Call) : Nat := calls.countP fun call => use call = some kind

variable {use} {held last : Bool} {calls : List Call}

theorem ledger_cons (call : Call) : ledger use held (call :: calls) = (move use held call).bind (ledger use · calls) :=
  List.foldlM_cons

theorem ledger_append (left right : List Call) :
    ledger use held (left ++ right) = (ledger use held left).bind (ledger use · right) :=
  List.foldlM_append

/-- An opening more than there are closings is one that is still open. -/
theorem ledger_counts (ordered : ledger use held calls = some last) :
    held.toNat + count use .opens calls = last.toNat + count use .closes calls := by
  induction calls generalizing held with
  | nil =>
    cases ordered
    rfl
  | cons call calls ih =>
    rw [ledger_cons] at ordered
    obtain ⟨middle, moved, rest⟩ := Option.bind_eq_some_iff.mp ordered
    have counted := ih rest
    unfold move at moved
    unfold count at counted ⊢
    rw [List.countP_cons, List.countP_cons]
    cases does : use call with
    | none =>
      rw [does] at moved
      cases moved
      simpa using counted
    | some kind =>
      rw [does] at moved
      cases kind <;> cases held <;> simp [Use.after] at moved <;> subst moved <;> simp at counted ⊢ <;> omega

/-- Between an opening and the next one, or the next attempt at one, there is exactly one closing. -/
theorem one_close {before between rest : List Call} {first next : Call}
    (ordered : ledger use held (before ++ first :: (between ++ next :: rest)) = some last)
    (opened : use first = some .opens) (again : use next = some .opens ∨ use next = some .attempts)
    (alone : count use .opens between = 0) : count use .closes between = 1 := by
  rw [ledger_append] at ordered
  obtain ⟨start, _, ordered⟩ := Option.bind_eq_some_iff.mp ordered
  rw [ledger_cons] at ordered
  obtain ⟨middle, moved, ordered⟩ := Option.bind_eq_some_iff.mp ordered
  have isOpen : middle = true := by
    rw [move, opened] at moved
    cases start <;> simp [Use.after] at moved
    exact moved
  rw [ledger_append] at ordered
  obtain ⟨closed, inside, ordered⟩ := Option.bind_eq_some_iff.mp ordered
  rw [ledger_cons] at ordered
  obtain ⟨_, moved, _⟩ := Option.bind_eq_some_iff.mp ordered
  have isClosed : closed = false := by
    unfold move at moved
    rcases again with again | again <;> rw [again] at moved <;> cases closed <;> simp [Use.after] at moved ⊢
  have counted := ledger_counts inside
  rw [isOpen, isClosed, alone] at counted
  simpa using counted.symm

end calls

end EspIris.Bracket
