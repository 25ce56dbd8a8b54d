import Mathlib.Order.Nat
import Mathlib.Tactic.Common

/-! Consistent overhead byte stuffing. A message is cut at its zero bytes into blocks of at
most 254 bytes; every block is preceded by its length plus one, so the encoding has no zero. -/

namespace EspIris.Cobs

/-- A complete block of 254 bytes stands for no zero byte after it. -/
def fullBlock : Nat := 254

def blockCode (block : List UInt8) : UInt8 := UInt8.ofNat (block.length + 1)

/-- Encode the rest of a message while `block` collects the bytes since the last cut. -/
def encodeFrom (block : List UInt8) : List UInt8 → List UInt8
  | [] => blockCode block :: block
  | value :: rest =>
    if value = 0 then blockCode block :: block ++ encodeFrom [] rest
    else if (block ++ [value]).length = fullBlock then
      blockCode (block ++ [value]) :: (block ++ [value]) ++ encodeFrom [] rest
    else encodeFrom (block ++ [value]) rest

def encode (message : List UInt8) : List UInt8 := encodeFrom [] message

/-- A zero is restored after every short block but the last. -/
def separator (code : UInt8) (rest : List UInt8) : List UInt8 :=
  if code ≠ 255 ∧ rest ≠ [] then [0] else []

def decode : List UInt8 → Option (List UInt8)
  | [] => some []
  | code :: rest =>
    if code = 0 then none
    else if code.toNat - 1 > rest.length then none
    else (decode (rest.drop (code.toNat - 1))).map fun tail =>
      rest.take (code.toNat - 1) ++ separator code (rest.drop (code.toNat - 1)) ++ tail
  termination_by encoded => encoded.length
  decreasing_by
    rw [List.length_drop, List.length_cons]
    omega

theorem decode_nil : decode [] = some [] := by rw [decode]

theorem decode_cons (code : UInt8) (rest : List UInt8) :
    decode (code :: rest) =
      if code = 0 then none
      else if code.toNat - 1 > rest.length then none
      else (decode (rest.drop (code.toNat - 1))).map fun tail =>
        rest.take (code.toNat - 1) ++ separator code (rest.drop (code.toNat - 1)) ++ tail := by
  rw [decode]

theorem blockCode_toNat (block : List UInt8) (short : block.length ≤ fullBlock) :
    (blockCode block).toNat = block.length + 1 := by
  unfold blockCode fullBlock at *
  rw [UInt8.toNat_ofNat']
  exact Nat.mod_eq_of_lt (by omega)

theorem blockCode_ne_zero (block : List UInt8) (short : block.length ≤ fullBlock) :
    blockCode block ≠ 0 := by
  intro zero
  have value := blockCode_toNat block short
  rw [zero] at value
  simp at value

theorem blockCode_eq_full (block : List UInt8) (short : block.length ≤ fullBlock) :
    blockCode block = 255 ↔ block.length = fullBlock := by
  have value := blockCode_toNat block short
  rw [← UInt8.toNat_inj, value]
  simp [fullBlock]

theorem encodeFrom_zero (block rest : List UInt8) :
    encodeFrom block (0 :: rest) = blockCode block :: block ++ encodeFrom [] rest := by
  simp [encodeFrom]

theorem encodeFrom_full (block rest : List UInt8) (value : UInt8) (nonzero : value ≠ 0)
    (full : (block ++ [value]).length = fullBlock) :
    encodeFrom block (value :: rest) =
      blockCode (block ++ [value]) :: (block ++ [value]) ++ encodeFrom [] rest := by
  rw [encodeFrom, if_neg nonzero, if_pos full]

theorem encodeFrom_open (block rest : List UInt8) (value : UInt8) (nonzero : value ≠ 0)
    (room : (block ++ [value]).length ≠ fullBlock) :
    encodeFrom block (value :: rest) = encodeFrom (block ++ [value]) rest := by
  rw [encodeFrom, if_neg nonzero, if_neg room]

theorem encodeFrom_ne_nil (block message : List UInt8) : encodeFrom block message ≠ [] := by
  induction message generalizing block with
  | nil => simp [encodeFrom]
  | cons value rest ih =>
    simp only [encodeFrom]
    split
    · simp
    · split
      · simp
      · exact ih _

/-- One block at the front of an encoding decodes on its own. -/
theorem decode_block (block tail : List UInt8) (short : block.length ≤ fullBlock) :
    decode (blockCode block :: block ++ tail) =
      (decode tail).map fun rest => block ++ separator (blockCode block) tail ++ rest := by
  have size : (blockCode block).toNat - 1 = block.length := by
    rw [blockCode_toNat block short]
    omega
  have fits : ¬ block.length > (block ++ tail).length := by simp
  rw [List.cons_append, decode_cons, if_neg (blockCode_ne_zero block short), size, if_neg fits]
  simp

/-- The induction follows the encoder: `block` is what the current block already holds. -/
theorem decode_encodeFrom (block message : List UInt8) (short : block.length < fullBlock) :
    decode (encodeFrom block message) = some (block ++ message) := by
  induction message generalizing block with
  | nil =>
    have single := decode_block block [] short.le
    simpa [encodeFrom, decode_nil, separator] using single
  | cons value rest ih =>
    have emptyShort : ([] : List UInt8).length < fullBlock := by decide
    simp only [encodeFrom]
    split
    next zero =>
      have restored : separator (blockCode block) (encodeFrom [] rest) = [0] := by
        have notFull : blockCode block ≠ 255 := by
          rw [ne_eq, blockCode_eq_full block short.le]
          omega
        simp [separator, notFull, encodeFrom_ne_nil]
      rw [decode_block block _ short.le, ih [] emptyShort, restored]
      simp [zero]
    next nonzero =>
      split
      next full =>
        have closed : separator (blockCode (block ++ [value])) (encodeFrom [] rest) = [] := by
          have code : blockCode (block ++ [value]) = 255 := (blockCode_eq_full _ full.le).mpr full
          simp only [separator, code]
          simp
        rw [decode_block _ _ full.le, ih [] emptyShort, closed]
        simp
      next room =>
        have still : (block ++ [value]).length < fullBlock := by
          simp only [List.length_append, List.length_singleton] at room ⊢
          omega
        rw [ih _ still]
        simp

theorem decode_encode (message : List UInt8) : decode (encode message) = some message :=
  decode_encodeFrom [] message (by decide)

theorem encodeFrom_no_zero (block message : List UInt8) (short : block.length < fullBlock)
    (clean : 0 ∉ block) : 0 ∉ encodeFrom block message := by
  induction message generalizing block with
  | nil =>
    simp only [encodeFrom, List.mem_cons, not_or]
    exact ⟨(blockCode_ne_zero block short.le).symm, clean⟩
  | cons value rest ih =>
    have tailClean : 0 ∉ encodeFrom [] rest := ih [] (by decide) (by simp)
    simp only [encodeFrom]
    split
    · simp only [List.cons_append, List.mem_cons, List.mem_append, not_or]
      exact ⟨(blockCode_ne_zero block short.le).symm, clean, tailClean⟩
    next nonzero =>
      have grownClean : 0 ∉ block ++ [value] := by
        simp only [List.mem_append, List.mem_singleton, not_or]
        exact ⟨clean, fun same => nonzero same.symm⟩
      split
      next full =>
        simp only [List.cons_append, List.mem_cons, List.mem_append (s := block ++ [value]), not_or]
        exact ⟨(blockCode_ne_zero _ full.le).symm, grownClean, tailClean⟩
      next room =>
        have still : (block ++ [value]).length < fullBlock := by
          simp only [List.length_append, List.length_singleton] at room ⊢
          omega
        exact ih _ still grownClean

theorem encode_no_zero (message : List UInt8) : 0 ∉ encode message :=
  encodeFrom_no_zero [] message (by decide) (by simp)

/-- One byte of overhead, and one more for every complete block. -/
theorem encodeFrom_length (block message : List UInt8) (short : block.length < fullBlock) :
    (encodeFrom block message).length ≤
      1 + (block.length + message.length) + (block.length + message.length) / fullBlock := by
  induction message generalizing block with
  | nil =>
    simp only [encodeFrom, List.length_cons, List.length_nil, Nat.add_zero]
    exact (Nat.add_comm _ _).le.trans (Nat.le_add_right _ _)
  | cons value rest ih =>
    have tail := ih [] (by decide)
    simp only [List.length_nil, Nat.zero_add] at tail
    simp only [fullBlock] at short ih tail ⊢
    simp only [encodeFrom]
    split
    · simp only [List.length_append, List.length_cons]
      omega
    · split
      next full =>
        simp only [List.length_append, List.length_cons, List.length_nil, Nat.zero_add, fullBlock]
          at full ⊢
        omega
      next room =>
        simp only [List.length_append, List.length_cons, List.length_nil, Nat.zero_add, fullBlock]
          at room
        have grown := ih (block ++ [value]) (by simp; omega)
        simp only [List.length_append, List.length_cons, List.length_nil, Nat.zero_add] at grown ⊢
        have same : block.length + 1 + rest.length = block.length + (rest.length + 1) := by omega
        rw [same] at grown
        exact grown

theorem encodeFrom_length_ge (block message : List UInt8) :
    block.length + 1 ≤ (encodeFrom block message).length := by
  induction message generalizing block with
  | nil => simp [encodeFrom]
  | cons value rest ih =>
    simp only [encodeFrom]
    split
    · simp only [List.length_append, List.length_cons]
      omega
    · have grown := ih (block ++ [value])
      simp only [List.length_append, List.length_cons, List.length_nil] at grown
      split
      · simp only [List.length_append, List.length_cons]
        omega
      · omega

theorem encode_length (message : List UInt8) :
    (encode message).length ≤ 1 + message.length + message.length / fullBlock := by
  have bound := encodeFrom_length [] message (by decide)
  simpa only [encode, List.length_nil, Nat.zero_add] using bound

end EspIris.Cobs
