import Mathlib.Order.Nat
import Mathlib.Tactic.Common
import Mathlib.Tactic.Ring

/-! Little-endian fields of byte strings, as natural numbers and as machine words. -/

namespace EspIris.Bytes

def littleEndian : Nat → Nat → List UInt8
  | 0, _ => []
  | width + 1, value => UInt8.ofNat value :: littleEndian width (value / 256)

def ofLittleEndian : List UInt8 → Nat
  | [] => 0
  | byte :: rest => byte.toNat + 256 * ofLittleEndian rest

@[simp] theorem littleEndian_length (width value : Nat) : (littleEndian width value).length = width := by
  induction width generalizing value with
  | zero => rfl
  | succ width ih => simp [littleEndian, ih]

theorem ofLittleEndian_littleEndian (width value : Nat) (fits : value < 256 ^ width) :
    ofLittleEndian (littleEndian width value) = value := by
  induction width generalizing value with
  | zero =>
    have zero : value = 0 := by simpa using fits
    simp [littleEndian, ofLittleEndian, zero]
  | succ width ih =>
    have smaller : value / 256 < 256 ^ width := by
      rw [Nat.div_lt_iff_lt_mul (by decide)]
      rwa [pow_succ] at fits
    rw [littleEndian, ofLittleEndian, ih _ smaller, UInt8.toNat_ofNat']
    omega

theorem littleEndian_ofLittleEndian (bytes : List UInt8) :
    littleEndian bytes.length (ofLittleEndian bytes) = bytes := by
  induction bytes with
  | nil => rfl
  | cons byte rest ih =>
    have small := byte.toNat_lt
    have later : (byte.toNat + 256 * ofLittleEndian rest) / 256 = ofLittleEndian rest := by omega
    have here : UInt8.ofNat (byte.toNat + 256 * ofLittleEndian rest) = byte := by
      rw [← UInt8.toNat_inj, UInt8.toNat_ofNat']
      omega
    rw [List.length_cons, ofLittleEndian, littleEndian, later, here, ih]

theorem ofLittleEndian_lt (bytes : List UInt8) : ofLittleEndian bytes < 256 ^ bytes.length := by
  induction bytes with
  | nil => simp [ofLittleEndian]
  | cons byte rest ih =>
    have small := byte.toNat_lt
    rw [ofLittleEndian, List.length_cons, pow_succ]
    omega

/-- The field of `width` bytes at `offset`, zero past the end. -/
def field (bytes : List UInt8) (offset width : Nat) : Nat :=
  ofLittleEndian ((bytes.drop offset).take width)

theorem field_lt (bytes : List UInt8) (offset width : Nat) : field bytes offset width < 256 ^ width := by
  have bound := ofLittleEndian_lt ((bytes.drop offset).take width)
  have short : ((bytes.drop offset).take width).length ≤ width := List.length_take_le _ _
  exact bound.trans_le (Nat.pow_le_pow_right (by decide) short)

theorem field_skip (left rest : List UInt8) (offset width : Nat) (past : left.length ≤ offset) :
    field (left ++ rest) offset width = field rest (offset - left.length) width := by
  unfold field
  rw [List.drop_append, List.drop_eq_nil_of_le past, List.nil_append]

theorem field_inside (left rest : List UInt8) (offset width : Nat) (inside : offset + width ≤ left.length) :
    field (left ++ rest) offset width = field left offset width := by
  unfold field
  rw [List.drop_append_of_le_length (by omega), List.take_append_of_le_length]
  rw [List.length_drop]
  omega

theorem field_littleEndian (width value : Nat) (rest : List UInt8) (fits : value < 256 ^ width) :
    field (littleEndian width value ++ rest) 0 width = value := by
  unfold field
  rw [List.drop_zero, List.take_left' (littleEndian_length width value),
    ofLittleEndian_littleEndian width value fits]

/-- A number behind as many bytes as its offset says. -/
theorem field_behind {left rest : List UInt8} {offset width value : Nat} (behind : left.length = offset)
    (fits : value < 256 ^ width) : field (left ++ (littleEndian width value ++ rest)) offset width = value := by
  rw [field_skip _ _ _ _ behind.le, behind, Nat.sub_self, field_littleEndian width value rest fits]

def byteAt (bytes : List UInt8) (offset : Nat) : UInt8 := bytes.getD offset 0

theorem byteAt_append {left : List UInt8} (rest : List UInt8) {offset : Nat} (inside : offset < left.length) :
    byteAt (left ++ rest) offset = byteAt left offset := by
  unfold byteAt
  rw [List.getD_eq_getElem?_getD, List.getD_eq_getElem?_getD, List.getElem?_append_left inside]

theorem field_one (bytes : List UInt8) (offset : Nat) :
    field bytes offset 1 = (byteAt bytes offset).toNat := by
  unfold field byteAt
  rw [List.getD_eq_getElem?_getD, ← List.head?_drop]
  cases bytes.drop offset with
  | nil => simp [ofLittleEndian]
  | cons byte rest => simp [ofLittleEndian]

theorem field_succ (bytes : List UInt8) (offset width : Nat) :
    field bytes offset (width + 1) = (byteAt bytes offset).toNat + 256 * field bytes (offset + 1) width := by
  unfold field byteAt
  rw [List.getD_eq_getElem?_getD, ← List.head?_drop, ← List.tail_drop]
  cases bytes.drop offset with
  | nil => simp [ofLittleEndian]
  | cons byte rest => simp [ofLittleEndian]

theorem field_add (bytes : List UInt8) (offset low high : Nat) :
    field bytes offset (low + high) = field bytes offset low + 256 ^ low * field bytes (offset + low) high := by
  induction low generalizing offset with
  | zero => simp [field, ofLittleEndian]
  | succ low ih =>
    rw [Nat.add_right_comm, field_succ, field_succ, ih, pow_succ, Nat.add_right_comm offset, Nat.add_assoc offset]
    ring

theorem set_take_next (left : List UInt8) (old value : UInt8) (rest : List UInt8) :
    ((left ++ old :: rest).set left.length value).take (left.length + 1) = left ++ [value] := by
  have written : (left ++ old :: rest).set left.length value = left ++ [value] ++ rest := by simp
  rw [written]
  exact List.take_left' (by simp)

theorem or_shiftLeft (low high bits : Nat) (small : low < 2 ^ bits) :
    low ||| (high <<< bits) = low + high * 2 ^ bits := by
  rw [Nat.or_comm, ← Nat.shiftLeft_add_eq_or_of_lt small, Nat.shiftLeft_eq, Nat.add_comm]

end EspIris.Bytes
