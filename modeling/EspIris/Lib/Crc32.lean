import Mathlib.Tactic.Common

/-! The reflected CRC-32 register. One byte can be shifted in bit by bit or through a table
of 256 entries; the register ends in the same value because one shift is linear over xor. -/

namespace EspIris.Crc32

def polynomial : BitVec 32 := 0xedb88320#32

def shift (register : BitVec 32) : BitVec 32 :=
  if register.getLsbD 0 then (register >>> 1) ^^^ polynomial else register >>> 1

def shifts : Nat → BitVec 32 → BitVec 32
  | 0, register => register
  | count + 1, register => shifts count (shift register)

theorem shift_xor (left right : BitVec 32) : shift (left ^^^ right) = shift left ^^^ shift right := by
  simp only [shift, BitVec.getLsbD_xor, BitVec.ushiftRight_xor_distrib]
  cases left.getLsbD 0 <;> cases right.getLsbD 0 <;> simp only [Bool.xor_true, Bool.xor_false,
    Bool.not_true, Bool.not_false, Bool.false_eq_true, ↓reduceIte]
  · rw [BitVec.xor_assoc]
  · rw [BitVec.xor_assoc, BitVec.xor_assoc, BitVec.xor_comm _ polynomial]
  · have cancel : polynomial ^^^ polynomial = 0#32 := BitVec.xor_self
    rw [BitVec.xor_comm (right >>> 1) polynomial, BitVec.xor_assoc,
      ← BitVec.xor_assoc polynomial, cancel, BitVec.zero_xor]

theorem shifts_xor (count : Nat) (left right : BitVec 32) :
    shifts count (left ^^^ right) = shifts count left ^^^ shifts count right := by
  induction count generalizing left right with
  | zero => rfl
  | succ count ih => rw [shifts, shift_xor, ih, shifts, shifts]

/-- While the low bits are clear no feedback happens, so shifting is a plain right shift. -/
theorem shifts_of_low_clear (count : Nat) (register : BitVec 32)
    (clear : ∀ bit, bit < count → register.getLsbD bit = false) :
    shifts count register = register >>> count := by
  induction count generalizing register with
  | zero => simp [shifts]
  | succ count ih =>
    have first : register.getLsbD 0 = false := clear 0 (by omega)
    have rest : ∀ bit, bit < count → (register >>> 1).getLsbD bit = false := by
      intro bit small
      rw [BitVec.getLsbD_ushiftRight]
      exact clear (1 + bit) (by omega)
    rw [shifts, shift, first]
    simp only [Bool.false_eq_true, ↓reduceIte]
    rw [ih _ rest, ← BitVec.shiftRight_add, Nat.add_comm]

/-- The register after one byte, bit by bit. -/
def bitwiseByte (register : BitVec 32) (byte : BitVec 8) : BitVec 32 :=
  shifts 8 (register ^^^ byte.setWidth 32)

def tableEntry (index : BitVec 8) : BitVec 32 := shifts 8 (index.setWidth 32)

/-- The register after one byte, by table. -/
def tableByte (register : BitVec 32) (byte : BitVec 8) : BitVec 32 :=
  tableEntry ((register ^^^ byte.setWidth 32).setWidth 8) ^^^ (register >>> 8)

theorem low_byte_split (word : BitVec 32) :
    word = (word.setWidth 8).setWidth 32 ^^^ ((word >>> 8) <<< 8) := by
  apply BitVec.eq_of_getLsbD_eq
  intro bit bound
  simp only [BitVec.getLsbD_xor, BitVec.getLsbD_setWidth, BitVec.getLsbD_shiftLeft,
    BitVec.getLsbD_ushiftRight, bound, decide_true, Bool.true_and]
  by_cases low : bit < 8
  · simp [low]
  · have back : 8 + (bit - 8) = bit := by omega
    simp [low, back]

theorem high_bits_of_byte (register : BitVec 32) (byte : BitVec 8) :
    (register ^^^ byte.setWidth 32) >>> 8 = register >>> 8 := by
  apply BitVec.eq_of_getLsbD_eq
  intro bit bound
  simp [BitVec.getLsbD_ushiftRight, BitVec.getLsbD_xor, BitVec.getLsbD_setWidth]

theorem shifts_of_shifted (register : BitVec 32) :
    shifts 8 ((register >>> 8) <<< 8) = register >>> 8 := by
  rw [shifts_of_low_clear]
  · apply BitVec.eq_of_getLsbD_eq
    intro bit bound
    simp only [BitVec.getLsbD_ushiftRight, BitVec.getLsbD_shiftLeft]
    by_cases inside : 8 + bit < 32
    · simp [inside]
    · simp [inside, BitVec.getLsbD_of_ge register (8 + bit) (by omega)]
  · intro bit small
    simp [BitVec.getLsbD_shiftLeft, small]

theorem bitwiseByte_eq_tableByte (register : BitVec 32) (byte : BitVec 8) :
    bitwiseByte register byte = tableByte register byte := by
  unfold bitwiseByte tableByte tableEntry
  conv_lhs => rw [low_byte_split (register ^^^ byte.setWidth 32)]
  rw [shifts_xor, shifts_of_shifted, high_bits_of_byte]

end EspIris.Crc32
