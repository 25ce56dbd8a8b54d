import Mathlib.Algebra.Group.Nat.Defs
import Mathlib.Data.List.Chain
import Mathlib.Tactic.Common

/-! Serial numbers of 32 bits: a number is newer than another when it lies less than half a turn
ahead. Numbers that are each newer than the one before them unroll to an increasing counter. -/

namespace EspIris.Serial

def newer (last next : UInt32) : Bool := !(next - last = 0 || next - last ≥ 0x80000000)

/-- Counters that increase by less than half a turn. -/
def Steps (counters : List Nat) : Prop :=
  counters.IsChain fun earlier later => earlier < later ∧ later < earlier + 2 ^ 31

/-- Numbers that are the low bits of such counters. -/
def Unrolls (numbers : List UInt32) : Prop := ∃ counters, Steps counters ∧ numbers = counters.map UInt32.ofNat

theorem newer_iff (last next : UInt32) : newer last next = true ↔ 0 < (next - last).toNat ∧ (next - last).toNat < 2 ^ 31 := by
  have zero : next - last = 0 ↔ (next - last).toNat = 0 := by rw [← UInt32.toNat_inj]; rfl
  have half : next - last ≥ 0x80000000 ↔ 2 ^ 31 ≤ (next - last).toNat := by rw [ge_iff_le, UInt32.le_iff_toNat_le]; rfl
  simp only [newer, Bool.not_eq_true', Bool.or_eq_false_iff, decide_eq_false_iff_not, zero, half]
  omega

theorem ofNat_sub (earlier ahead : Nat) : UInt32.ofNat (earlier + ahead) - UInt32.ofNat earlier = UInt32.ofNat ahead := by
  rw [UInt32.ofNat_add, UInt32.add_comm, UInt32.add_sub_cancel]

/-- A counter that is less than half a turn ahead shows as newer. -/
theorem newer_ofNat {earlier later : Nat} (ahead : earlier < later) (near : later < earlier + 2 ^ 31) :
    newer (UInt32.ofNat earlier) (UInt32.ofNat later) = true := by
  obtain ⟨distance, rfl⟩ := Nat.exists_eq_add_of_lt ahead
  rw [newer_iff, Nat.add_assoc, ofNat_sub, UInt32.toNat_ofNat', Nat.mod_eq_of_lt (by omega)]
  omega

theorem Unrolls.nil : Unrolls [] := ⟨[], .nil, rfl⟩

/-- A number that is newer than the last one goes on with the counter. -/
theorem Unrolls.snoc {numbers : List UInt32} {next : UInt32} (unrolls : Unrolls numbers)
    (ahead : ∀ last, numbers.getLast? = some last → newer last next = true) : Unrolls (numbers ++ [next]) := by
  obtain ⟨counters, steps, rfl⟩ := unrolls
  cases last : counters.getLast? with
  | none =>
    rw [List.getLast?_eq_none_iff.mp last]
    exact ⟨[next.toNat], .singleton _, by simp⟩
  | some counter =>
    have step := (newer_iff _ _).mp (ahead (UInt32.ofNat counter) (by rw [List.getLast?_map, last]; rfl))
    generalize distance : next - UInt32.ofNat counter = ahead at step
    have reached : UInt32.ofNat (counter + ahead.toNat) = next := by
      rw [UInt32.ofNat_add, UInt32.ofNat_toNat, ← distance, UInt32.add_comm, UInt32.sub_add_cancel]
    refine ⟨counters ++ [counter + ahead.toNat], ?_, by rw [List.map_append, List.map_singleton, reached]⟩
    refine List.IsChain.append steps (.singleton _) ?_
    intro before isLast after isNext
    rw [last] at isLast
    cases isLast
    cases isNext
    omega

/-- Numbers that are each newer than the one before. -/
def Fresh (numbers : List UInt32) : Prop := numbers.IsChain fun last next => newer last next = true

theorem Fresh.nil : Fresh [] := List.IsChain.nil

theorem fresh_snoc {numbers : List UInt32} {next : UInt32} :
    Fresh (numbers ++ [next]) ↔
      Fresh numbers ∧ ∀ last, numbers.getLast? = some last → newer last next = true := by
  unfold Fresh
  rw [List.isChain_append]
  constructor
  · intro ⟨earlier, _, ahead⟩
    exact ⟨earlier, fun last isLast => ahead last isLast next rfl⟩
  · intro ⟨earlier, ahead⟩
    refine ⟨earlier, .singleton _, ?_⟩
    intro last isLast other isNext
    cases isNext
    exact ahead last isLast

theorem Fresh.unrolls {numbers : List UInt32} (fresh : Fresh numbers) : Unrolls numbers := by
  induction numbers using List.reverseRecOn with
  | nil => exact .nil
  | append_singleton numbers next ih =>
    obtain ⟨earlier, ahead⟩ := fresh_snoc.mp fresh
    exact (ih earlier).snoc ahead

/-- How far the last number lies ahead of the first, turns included. -/
def turn : List UInt32 → Nat
  | first :: second :: rest => (second - first).toNat + turn (second :: rest)
  | _ => 0

/-- Within one turn every number after the first lies ahead of it. -/
theorem Fresh.ahead {first : UInt32} {rest : List UInt32} (fresh : Fresh (first :: rest))
    (within : turn (first :: rest) < 2 ^ 32) : ∀ number ∈ rest, 0 < (number - first).toNat ∧
      (number - first).toNat ≤ turn (first :: rest) := by
  induction rest generalizing first with
  | nil => simp
  | cons second rest ih =>
    intro number inside
    have step := (newer_iff _ _).mp (List.isChain_cons_cons.mp fresh).1
    rw [turn] at within ⊢
    rcases List.mem_cons.mp inside with rfl | later
    · exact ⟨step.1, Nat.le_add_right _ _⟩
    · have further := ih (List.isChain_cons_cons.mp fresh).2 (by omega) number later
      have sum : number - first = (number - second) + (second - first) := by
        rw [← UInt32.toBitVec_inj, UInt32.toBitVec_add, UInt32.toBitVec_sub, UInt32.toBitVec_sub, UInt32.toBitVec_sub]
        bv_omega
      rw [sum, UInt32.toNat_add, Nat.mod_eq_of_lt (by omega)]
      omega

/-- Within one turn no number comes twice. -/
theorem Fresh.nodup {numbers : List UInt32} (fresh : Fresh numbers) (within : turn numbers < 2 ^ 32) :
    numbers.Nodup := by
  induction numbers with
  | nil => exact List.nodup_nil
  | cons first rest ih =>
    refine List.nodup_cons.mpr ⟨?_, ?_⟩
    · intro again
      have ahead := (fresh.ahead within first again).1
      rw [UInt32.sub_self] at ahead
      exact Nat.lt_irrefl _ ahead
    · cases rest with
      | nil => exact List.nodup_nil
      | cons second rest =>
        rw [turn] at within
        exact ih (List.isChain_cons_cons.mp fresh).2 (by omega)

/-- Each number is less than half a turn ahead of the one before it. -/
def Near (numbers : List Nat) : Prop := numbers.IsChain fun earlier later => later < earlier + 2 ^ 31

theorem Near.steps {numbers : List Nat} (near : Near numbers) (ordered : numbers.Pairwise (· < ·)) : Steps numbers := by
  induction numbers with
  | nil => exact List.IsChain.nil
  | cons first rest ih =>
    cases rest with
    | nil => exact List.IsChain.singleton _
    | cons second rest =>
      obtain ⟨close, nears⟩ := List.isChain_cons_cons.mp near
      obtain ⟨before, pairs⟩ := List.pairwise_cons.mp ordered
      exact List.isChain_cons_cons.mpr ⟨⟨before second List.mem_cons_self, close⟩, ih nears pairs⟩

/-- What a check against the last number sees of a counter that steps. -/
theorem Steps.not_stale {last next : Nat} {rest : List Nat} (steps : Steps (last :: next :: rest)) :
    (UInt32.ofNat next - UInt32.ofNat last = 0 || UInt32.ofNat next - UInt32.ofNat last ≥ 0x80000000) = false := by
  have step := (List.isChain_cons_cons.mp steps).1
  have ahead := newer_ofNat step.1 step.2
  rw [newer, Bool.not_eq_true'] at ahead
  exact ahead

theorem Steps.of_append {earlier : List Nat} {next : Nat} {rest : List Nat} (steps : Steps (earlier ++ next :: rest)) :
    Steps (next :: rest) := (List.isChain_append.mp steps).2.1

end EspIris.Serial
