import EspIris.Device.FilePaths
import Mathlib.Data.List.Basic

/-! `valid_utf8` accepts what is the UTF-8 encoding of a list of Unicode scalar values without control characters, and
it reads no byte past the size it is given. -/

namespace EspIris.Device.Files

def readContinuation (memory : Nat → UInt8) : Nat → UInt32 → Nat → Option UInt32 × List Nat
  | 0, codepoint, _ => (some codepoint, [])
  | count + 1, codepoint, offset =>
    let next := memory offset
    if next &&& 0xc0 ≠ 0x80 then (none, [offset])
    else
      let later := readContinuation memory count ((codepoint <<< 6) ||| (next &&& 0x3f).toUInt32) (offset + 1)
      (later.1, offset :: later.2)

/-- The loop of `valid_utf8` on memory, with the offsets that it reads. -/
def readUtf8 (memory : Nat → UInt8) (size : Nat) : Nat → Nat → Bool × List Nat
  | 0, _ => (false, [])
  | fuel + 1, offset =>
    if offset < size then
      let first := memory offset
      if first < 0x80 then
        if first = 0 ∨ first < 0x20 ∨ first = 0x7f then (false, [offset])
        else
          let later := readUtf8 memory size fuel (offset + 1)
          (later.1, offset :: later.2)
      else
        match leadByte first with
        | none => (false, [offset])
        | some (continuation, bits) =>
          if continuation > size - (offset + 1) then (false, [offset])
          else
            let inner := readContinuation memory continuation bits (offset + 1)
            match inner.1 with
            | none => (false, offset :: inner.2)
            | some codepoint =>
              if (continuation = 2 ∧ codepoint < 0x800) ∨ (continuation = 3 ∧ codepoint < 0x10000) ∨
                  codepoint > 0x10ffff ∨ (codepoint ≥ 0xd800 ∧ codepoint ≤ 0xdfff) then (false, offset :: inner.2)
              else
                let later := readUtf8 memory size fuel (offset + 1 + continuation)
                (later.1, offset :: (inner.2 ++ later.2))
    else (true, [])

def validUtf8At (memory : Nat → UInt8) (size : Nat) : Bool × List Nat := readUtf8 memory size (size + 1) 0

def bytesAt (memory : Nat → UInt8) (offset count : Nat) : List UInt8 := (List.range' offset count).map memory

theorem bytesAt_succ (memory : Nat → UInt8) (offset count : Nat) :
    bytesAt memory offset (count + 1) = memory offset :: bytesAt memory (offset + 1) count := by
  rw [bytesAt, List.range'_succ, List.map_cons, bytesAt]

@[simp] theorem bytesAt_length (memory : Nat → UInt8) (offset count : Nat) :
    (bytesAt memory offset count).length = count := by
  rw [bytesAt, List.length_map, List.length_range']

theorem readContinuation_eq (memory : Nat → UInt8) (count more : Nat) (codepoint : UInt32) (offset : Nat) :
    continuationBytes count codepoint (bytesAt memory offset (count + more)) =
      (readContinuation memory count codepoint offset).1.map fun codepoint =>
        (codepoint, bytesAt memory (offset + count) more) := by
  induction count generalizing codepoint offset with
  | zero => rw [Nat.zero_add, Nat.add_zero]; rfl
  | succ count ih =>
    rw [Nat.add_right_comm, bytesAt_succ]
    unfold continuationBytes readContinuation
    dsimp only
    split
    · rfl
    · rw [ih, Nat.add_assoc offset 1 count, Nat.add_comm 1 count]

theorem continuationBytes_short (count : Nat) (codepoint : UInt32) (bytes : List UInt8) (short : bytes.length < count) :
    continuationBytes count codepoint bytes = none := by
  induction count generalizing codepoint bytes with
  | zero => exact absurd short (Nat.not_lt_zero _)
  | succ count ih =>
    cases bytes with
    | nil => rfl
    | cons next rest =>
      unfold continuationBytes
      split
      · rfl
      · exact ih _ _ (Nat.lt_of_succ_lt_succ short)

theorem continuationBytes_length {count : Nat} {codepoint result : UInt32} {bytes rest : List UInt8}
    (continues : continuationBytes count codepoint bytes = some (result, rest)) : rest.length ≤ bytes.length := by
  induction count generalizing codepoint bytes with
  | zero =>
    cases continues
    exact le_rfl
  | succ count ih =>
    cases bytes with
    | nil => contradiction
    | cons next later =>
      unfold continuationBytes at continues
      split at continues
      · contradiction
      · exact (ih continues).trans (Nat.le_succ _)

theorem readContinuation_reads (memory : Nat → UInt8) (count : Nat) (codepoint : UInt32) (offset : Nat) :
    ∀ read ∈ (readContinuation memory count codepoint offset).2, read < offset + count := by
  induction count generalizing codepoint offset with
  | zero => exact fun read member => absurd member List.not_mem_nil
  | succ count ih =>
    unfold readContinuation
    dsimp only
    split
    · intro read member
      rw [List.mem_singleton.mp member]
      omega
    · intro read member
      rcases List.mem_cons.mp member with rfl | later
      · omega
      · have below := ih _ _ read later
        omega

/-- The loop over memory decides as the one over the bytes of that memory. -/
theorem readUtf8_eq (memory : Nat → UInt8) (size fuel turns offset : Nat) (inside : offset ≤ size)
    (enough : size < fuel + offset) (most : size - offset ≤ turns) :
    (readUtf8 memory size fuel offset).1 = validUtf8Loop turns (bytesAt memory offset (size - offset)) ∧
      ∀ read ∈ (readUtf8 memory size fuel offset).2, read < size := by
  induction fuel generalizing offset turns with
  | zero => omega
  | succ fuel ih =>
    unfold readUtf8
    split
    next below =>
      obtain ⟨turns, rfl⟩ : ∃ fewer, turns = fewer + 1 := ⟨turns - 1, by omega⟩
      have left : size - offset = size - (offset + 1) + 1 := by omega
      have here : ∀ read ∈ [offset], read < size := by
        intro read member
        rwa [List.mem_singleton.mp member]
      rw [left, bytesAt_succ]
      unfold validUtf8Loop
      dsimp only
      split
      · split
        · exact ⟨rfl, here⟩
        · obtain ⟨same, reads⟩ := ih turns (offset + 1) below (by omega) (by omega)
          exact ⟨same, List.forall_mem_cons.mpr ⟨below, reads⟩⟩
      · rcases leadByte (memory offset) with _ | ⟨count, bits⟩
        · exact ⟨rfl, here⟩
        · dsimp only
          split
          next short =>
            rw [continuationBytes_short count bits _ (by rw [bytesAt_length]; omega)]
            exact ⟨rfl, here⟩
          next fits =>
            have whole : size - (offset + 1) = count + (size - (offset + 1 + count)) := by omega
            have inner : ∀ read ∈ (readContinuation memory count bits (offset + 1)).2, read < size := by
              intro read member
              have below := readContinuation_reads memory count bits (offset + 1) read member
              omega
            rw [whole, readContinuation_eq]
            cases decoded : (readContinuation memory count bits (offset + 1)).1 with
            | none => exact ⟨rfl, List.forall_mem_cons.mpr ⟨below, inner⟩⟩
            | some codepoint =>
              dsimp only [Option.map_some]
              split
              · exact ⟨rfl, List.forall_mem_cons.mpr ⟨below, inner⟩⟩
              · obtain ⟨same, reads⟩ := ih turns (offset + 1 + count) (by omega) (by omega) (by omega)
                refine ⟨same, List.forall_mem_cons.mpr ⟨below, ?_⟩⟩
                exact List.forall_mem_append.mpr ⟨inner, reads⟩
    next past =>
      rw [Nat.sub_eq_zero_of_le (Nat.le_of_not_lt past)]
      refine ⟨?_, fun read member => absurd member List.not_mem_nil⟩
      cases turns <;> rfl

theorem validUtf8At_eq (memory : Nat → UInt8) (size : Nat) :
    (validUtf8At memory size).1 = validUtf8 (bytesAt memory 0 size) ∧
      ∀ read ∈ (validUtf8At memory size).2, read < size := by
  have same := readUtf8_eq memory size (size + 1) size 0 (Nat.zero_le _) (by omega) (by omega)
  rw [Nat.sub_zero] at same
  rw [validUtf8, bytesAt_length]
  exact same

/-- The two top bits of a byte that continues a sequence, as its range. -/
theorem continuation_iff (next : UInt8) : next &&& 0xc0 = 0x80 ↔ 0x80 ≤ next.toNat ∧ next.toNat < 0xc0 := by
  have all : ∀ value : Fin 256, UInt8.ofNat value.val &&& 0xc0 = 0x80 ↔ 0x80 ≤ value.val ∧ value.val < 0xc0 := by
    decide +kernel
  have here := all ⟨next.toNat, next.toNat_lt⟩
  rwa [UInt8.ofNat_toNat] at here

theorem low_toNat (byte mask : UInt8) (bits : Nat) (small : mask.toNat = 2 ^ bits - 1) :
    (byte &&& mask).toUInt32.toNat = byte.toNat % 2 ^ bits := by
  rw [UInt8.toNat_toUInt32, UInt8.toNat_and, small, Nat.and_two_pow_sub_one_eq_mod]

def continued (value : Nat) (tail : List UInt8) : Nat :=
  tail.foldl (fun value next => value * 64 + next.toNat % 64) value

theorem codepoint_step (codepoint : UInt32) (next : UInt8) (small : codepoint.toNat < 2 ^ 26) :
    ((codepoint <<< 6) ||| (next &&& 0x3f).toUInt32).toNat = codepoint.toNat * 64 + next.toNat % 64 := by
  have low := low_toNat next 0x3f 6 rfl
  rw [UInt32.toNat_or, low, UInt32.toNat_shiftLeft, show (6 : UInt32).toNat % 32 = 6 from rfl,
    Nat.mod_eq_of_lt (by rw [Nat.shiftLeft_eq]; omega), Nat.or_comm,
    Bytes.or_shiftLeft _ _ _ (Nat.mod_lt _ (by decide))]
  omega

/-- The inner loop takes bytes that continue a sequence, and adds up what they carry. -/
theorem continuationBytes_iff (count : Nat) (codepoint result : UInt32) (bytes rest : List UInt8)
    (small : (codepoint.toNat + 1) * 64 ^ count ≤ 2 ^ 32) :
    continuationBytes count codepoint bytes = some (result, rest) ↔
      ∃ tail, bytes = tail ++ rest ∧ tail.length = count ∧
        (∀ next ∈ tail, 0x80 ≤ next.toNat ∧ next.toNat < 0xc0) ∧ result.toNat = continued codepoint.toNat tail := by
  induction count generalizing codepoint bytes with
  | zero =>
    constructor
    · rintro ⟨⟩
      exact ⟨[], rfl, rfl, by simp, rfl⟩
    · rintro ⟨tail, rfl, empty, _, same⟩
      rw [List.length_eq_zero_iff.mp empty] at same ⊢
      rw [UInt32.toNat_inj.mp same]
      rfl
  | succ count ih =>
    have power : 0 < 64 ^ count := Nat.pow_pos (by decide)
    have room : (codepoint.toNat + 1) * 64 ≤ 2 ^ 32 := by
      refine le_trans ?_ small
      rw [Nat.pow_succ, Nat.mul_comm (64 ^ count), ← Nat.mul_assoc]
      exact Nat.le_mul_of_pos_right _ power
    cases bytes with
    | nil =>
      constructor
      · rintro ⟨⟩
      · rintro ⟨tail, empty, length, _⟩
        rw [(List.append_eq_nil_iff.mp empty.symm).1] at length
        contradiction
    | cons next later =>
      have step := codepoint_step codepoint next (by omega)
      have smaller : (((codepoint <<< 6) ||| (next &&& 0x3f).toUInt32).toNat + 1) * 64 ^ count ≤ 2 ^ 32 := by
        rw [step]
        refine le_trans ?_ small
        rw [Nat.pow_succ, Nat.mul_comm (64 ^ count), ← Nat.mul_assoc]
        exact Nat.mul_le_mul_right _ (by omega)
      have deeper := ih _ later smaller
      rw [step] at deeper
      unfold continuationBytes
      split
      next wrong =>
        constructor
        · rintro ⟨⟩
        · rintro ⟨tail, split, length, continues, _⟩
          cases tail with
          | nil => contradiction
          | cons first tail =>
            obtain ⟨rfl, _⟩ := List.cons.inj split
            exact absurd ((continuation_iff next).mpr (continues next List.mem_cons_self)) wrong
      next right =>
        have continues := (continuation_iff next).mp (not_not.mp right)
        rw [deeper]
        constructor
        · rintro ⟨tail, rfl, length, all, same⟩
          exact ⟨next :: tail, rfl, congrArg Nat.succ length, List.forall_mem_cons.mpr ⟨continues, all⟩, same⟩
        · rintro ⟨tail, split, length, all, same⟩
          cases tail with
          | nil => contradiction
          | cons first tail =>
            obtain ⟨rfl, rfl⟩ := List.cons.inj split
            exact ⟨tail, rfl, Nat.succ.inj length, (List.forall_mem_cons.mp all).2, same⟩

theorem leadByte_iff (first : UInt8) (count : Nat) (bits : UInt32) :
    leadByte first = some (count, bits) ↔
      (count = 1 ∧ 0xc2 ≤ first.toNat ∧ first.toNat ≤ 0xdf ∧ bits.toNat = first.toNat - 0xc0) ∨
      (count = 2 ∧ 0xe0 ≤ first.toNat ∧ first.toNat ≤ 0xef ∧ bits.toNat = first.toNat - 0xe0) ∨
      (count = 3 ∧ 0xf0 ≤ first.toNat ∧ first.toNat ≤ 0xf4 ∧ bits.toNat = first.toNat - 0xf0) := by
  have five := low_toNat first 0x1f 5 rfl
  have four := low_toNat first 0x0f 4 rfl
  have three := low_toNat first 0x07 3 rfl
  unfold leadByte
  simp only [UInt8.le_iff_toNat_le, UInt8.reduceToNat]
  split_ifs with two threes fours
  · rw [Option.some_inj, Prod.mk_inj, ← UInt32.toNat_inj, five]
    omega
  · rw [Option.some_inj, Prod.mk_inj, ← UInt32.toNat_inj, four]
    omega
  · rw [Option.some_inj, Prod.mk_inj, ← UInt32.toNat_inj, three]
    omega
  · constructor
    · rintro ⟨⟩
    · omega

def Refused (continuation : Nat) (codepoint : UInt32) : Prop :=
  (continuation = 2 ∧ codepoint < 0x800) ∨ (continuation = 3 ∧ codepoint < 0x10000) ∨
    codepoint > 0x10ffff ∨ (codepoint ≥ 0xd800 ∧ codepoint ≤ 0xdfff)

theorem refused_iff (continuation : Nat) (codepoint : UInt32) : Refused continuation codepoint ↔
    (continuation = 2 ∧ codepoint.toNat < 0x800) ∨ (continuation = 3 ∧ codepoint.toNat < 0x10000) ∨
      0x10ffff < codepoint.toNat ∨ (0xd800 ≤ codepoint.toNat ∧ codepoint.toNat ≤ 0xdfff) := by
  unfold Refused
  simp only [UInt32.lt_iff_toNat_lt, UInt32.le_iff_toNat_le, GT.gt, GE.ge, UInt32.reduceToNat]

def Decodes (first : UInt8) (bytes rest : List UInt8) : Prop :=
  ∃ count bits codepoint, leadByte first = some (count, bits) ∧
    continuationBytes count bits bytes = some (codepoint, rest) ∧ ¬ Refused count codepoint

theorem encodeChar_low (char : Char) (low : char.val.toNat ≤ 0x7f) :
    String.utf8EncodeChar char = [UInt8.ofNat char.val.toNat] := if_pos low

theorem byte_eq {byte : UInt8} {value : Nat} (same : byte.toNat = value) : byte = UInt8.ofNat value := by
  rw [← same, UInt8.ofNat_toNat]

theorem Decodes.encoded {first : UInt8} {bytes rest : List UInt8} (decodes : Decodes first bytes rest) :
    ∃ char : Char, 0x80 ≤ char.val.toNat ∧ first :: bytes = String.utf8EncodeChar char ++ rest := by
  obtain ⟨count, bits, codepoint, lead, continues, accepted⟩ := decodes
  rw [refused_iff] at accepted
  have kinds := (leadByte_iff first count bits).mp lead
  have small : (bits.toNat + 1) * 64 ^ count ≤ 2 ^ 32 := by
    rcases kinds with ⟨rfl, _, _, same⟩ | ⟨rfl, _, _, same⟩ | ⟨rfl, _, _, same⟩ <;> omega
  obtain ⟨tail, rfl, length, all, same⟩ := (continuationBytes_iff count bits codepoint bytes rest small).mp continues
  have scalar : codepoint.isValidChar := by
    unfold UInt32.isValidChar Nat.isValidChar
    omega
  rcases kinds with ⟨rfl, low, high, carried⟩ | ⟨rfl, low, high, carried⟩ | ⟨rfl, low, high, carried⟩
  · obtain ⟨second, rfl⟩ := List.length_eq_one_iff.mp length
    rw [List.forall_mem_singleton] at all
    simp only [continued, List.foldl_cons, List.foldl_nil] at same
    refine ⟨⟨codepoint, scalar⟩, by dsimp only; omega, ?_⟩
    have heads : first = UInt8.ofNat (codepoint.toNat / 64 % 0x20 + 0xc0) := byte_eq (by omega)
    have seconds : second = UInt8.ofNat (codepoint.toNat % 0x40 + 0x80) := byte_eq (by omega)
    unfold String.utf8EncodeChar
    dsimp only
    rw [if_neg (by omega), if_pos (by omega), ← heads, ← seconds]
    rfl
  · obtain ⟨second, third, rfl⟩ := List.length_eq_two.mp length
    rw [List.forall_mem_cons, List.forall_mem_singleton] at all
    simp only [continued, List.foldl_cons, List.foldl_nil] at same
    refine ⟨⟨codepoint, scalar⟩, by dsimp only; omega, ?_⟩
    have heads : first = UInt8.ofNat (codepoint.toNat / 4096 % 0x10 + 0xe0) := byte_eq (by omega)
    have seconds : second = UInt8.ofNat (codepoint.toNat / 64 % 0x40 + 0x80) := byte_eq (by omega)
    have thirds : third = UInt8.ofNat (codepoint.toNat % 0x40 + 0x80) := byte_eq (by omega)
    unfold String.utf8EncodeChar
    dsimp only
    rw [if_neg (by omega), if_neg (by omega), if_pos (by omega), ← heads, ← seconds, ← thirds]
    rfl
  · obtain ⟨second, third, fourth, rfl⟩ := List.length_eq_three.mp length
    rw [List.forall_mem_cons, List.forall_mem_cons, List.forall_mem_singleton] at all
    simp only [continued, List.foldl_cons, List.foldl_nil] at same
    refine ⟨⟨codepoint, scalar⟩, by dsimp only; omega, ?_⟩
    have heads : first = UInt8.ofNat (codepoint.toNat / 262144 % 0x08 + 0xf0) := byte_eq (by omega)
    have seconds : second = UInt8.ofNat (codepoint.toNat / 4096 % 0x40 + 0x80) := byte_eq (by omega)
    have thirds : third = UInt8.ofNat (codepoint.toNat / 64 % 0x40 + 0x80) := byte_eq (by omega)
    have fourths : fourth = UInt8.ofNat (codepoint.toNat % 0x40 + 0x80) := byte_eq (by omega)
    unfold String.utf8EncodeChar
    dsimp only
    rw [if_neg (by omega), if_neg (by omega), if_neg (by omega), ← heads, ← seconds, ← thirds, ← fourths]
    rfl

theorem toNat_ofNat_of_lt {value : Nat} (small : value < 256) : (UInt8.ofNat value).toNat = value := by
  rw [UInt8.toNat_ofNat', Nat.mod_eq_of_lt small]

theorem wide_toNat {value : Nat} (small : value < 2 ^ 32) : (UInt32.ofNat value).toNat = value :=
  UInt32.toNat_ofNat_of_lt small

theorem decodes_of_tail (char : Char) {first : UInt8} {count : Nat} {tail rest : List UInt8} {bits : UInt32}
    (lead : leadByte first = some (count, bits)) (length : tail.length = count)
    (small : (bits.toNat + 1) * 64 ^ count ≤ 2 ^ 32)
    (continues : ∀ next ∈ tail, 0x80 ≤ next.toNat ∧ next.toNat < 0xc0)
    (value : char.val.toNat = continued bits.toNat tail)
    (shortest : (count = 2 → 0x800 ≤ char.val.toNat) ∧ (count = 3 → 0x10000 ≤ char.val.toNat)) :
    Decodes first (tail ++ rest) rest := by
  refine ⟨count, bits, char.val, lead, ?_, ?_⟩
  · exact (continuationBytes_iff count bits char.val _ rest small).mpr ⟨tail, rfl, length, continues, value⟩
  · have valid := char.valid
    unfold UInt32.isValidChar Nat.isValidChar at valid
    rw [refused_iff]
    omega

theorem encodeChar_decodes (char : Char) (high : 0x80 ≤ char.val.toNat) (rest : List UInt8) :
    ∃ first tail, String.utf8EncodeChar char = first :: tail ∧ Decodes first (tail ++ rest) rest ∧
      ∀ byte ∈ first :: tail, 0x80 ≤ byte.toNat := by
  have valid := char.valid
  unfold UInt32.isValidChar Nat.isValidChar at valid
  unfold String.utf8EncodeChar
  dsimp only
  rw [if_neg (by omega)]
  split
  next two =>
    have head : (UInt8.ofNat (char.val.toNat / 64 % 0x20 + 0xc0)).toNat = char.val.toNat / 64 + 0xc0 := by
      rw [toNat_ofNat_of_lt (by omega)]
      omega
    have second : (UInt8.ofNat (char.val.toNat % 0x40 + 0x80)).toNat = char.val.toNat % 0x40 + 0x80 :=
      toNat_ofNat_of_lt (by omega)
    have bits : (UInt32.ofNat (char.val.toNat / 64)).toNat = char.val.toNat / 64 := wide_toNat (by omega)
    have lead := (leadByte_iff _ 1 (UInt32.ofNat (char.val.toNat / 64))).mpr (by rw [head, bits]; omega)
    refine ⟨_, _, rfl, decodes_of_tail char lead rfl ?_ ?_ ?_ ?_, ?_⟩
    · omega
    · rw [List.forall_mem_singleton]
      omega
    · simp only [continued, List.foldl_cons, List.foldl_nil, bits, second]
      omega
    · omega
    · rw [List.forall_mem_cons, List.forall_mem_singleton]
      omega
  next more =>
    split
    next three =>
      have head : (UInt8.ofNat (char.val.toNat / 4096 % 0x10 + 0xe0)).toNat = char.val.toNat / 4096 + 0xe0 := by
        rw [toNat_ofNat_of_lt (by omega)]
        omega
      have second : (UInt8.ofNat (char.val.toNat / 64 % 0x40 + 0x80)).toNat = char.val.toNat / 64 % 0x40 + 0x80 :=
        toNat_ofNat_of_lt (by omega)
      have third : (UInt8.ofNat (char.val.toNat % 0x40 + 0x80)).toNat = char.val.toNat % 0x40 + 0x80 :=
        toNat_ofNat_of_lt (by omega)
      have bits : (UInt32.ofNat (char.val.toNat / 4096)).toNat = char.val.toNat / 4096 :=
        wide_toNat (by omega)
      have lead := (leadByte_iff _ 2 (UInt32.ofNat (char.val.toNat / 4096))).mpr (by rw [head, bits]; omega)
      refine ⟨_, _, rfl, decodes_of_tail char lead rfl ?_ ?_ ?_ ?_, ?_⟩
      · omega
      · rw [List.forall_mem_cons, List.forall_mem_singleton]
        omega
      · simp only [continued, List.foldl_cons, List.foldl_nil, bits, second, third]
        omega
      · omega
      · rw [List.forall_mem_cons, List.forall_mem_cons, List.forall_mem_singleton]
        omega
    next four =>
      have head : (UInt8.ofNat (char.val.toNat / 262144 % 0x08 + 0xf0)).toNat = char.val.toNat / 262144 + 0xf0 := by
        rw [toNat_ofNat_of_lt (by omega)]
        omega
      have second : (UInt8.ofNat (char.val.toNat / 4096 % 0x40 + 0x80)).toNat = char.val.toNat / 4096 % 0x40 + 0x80 :=
        toNat_ofNat_of_lt (by omega)
      have third : (UInt8.ofNat (char.val.toNat / 64 % 0x40 + 0x80)).toNat = char.val.toNat / 64 % 0x40 + 0x80 :=
        toNat_ofNat_of_lt (by omega)
      have fourth : (UInt8.ofNat (char.val.toNat % 0x40 + 0x80)).toNat = char.val.toNat % 0x40 + 0x80 :=
        toNat_ofNat_of_lt (by omega)
      have bits : (UInt32.ofNat (char.val.toNat / 262144)).toNat = char.val.toNat / 262144 :=
        wide_toNat (by omega)
      have lead := (leadByte_iff _ 3 (UInt32.ofNat (char.val.toNat / 262144))).mpr (by rw [head, bits]; omega)
      refine ⟨_, _, rfl, decodes_of_tail char lead rfl ?_ ?_ ?_ ?_, ?_⟩
      · omega
      · rw [List.forall_mem_cons, List.forall_mem_cons, List.forall_mem_singleton]
        omega
      · simp only [continued, List.foldl_cons, List.foldl_nil, bits, second, third, fourth]
        omega
      · omega
      · rw [List.forall_mem_cons, List.forall_mem_cons, List.forall_mem_cons, List.forall_mem_singleton]
        omega

def Printable (bytes : List UInt8) : Prop :=
  (∃ text : List Char, bytes = text.flatMap String.utf8EncodeChar) ∧
    ∀ byte ∈ bytes, 0x20 ≤ byte.toNat ∧ byte.toNat ≠ 0x7f

theorem Printable.nil : Printable [] := ⟨⟨[], rfl⟩, fun _ member => absurd member List.not_mem_nil⟩

theorem printable_low {first : UInt8} (low : first.toNat < 0x80) (rest : List UInt8) :
    Printable (first :: rest) ↔ (0x20 ≤ first.toNat ∧ first.toNat ≠ 0x7f) ∧ Printable rest := by
  unfold Printable
  rw [List.forall_mem_cons]
  constructor
  · rintro ⟨⟨text, same⟩, here, later⟩
    refine ⟨here, ?_, later⟩
    cases text with
    | nil => contradiction
    | cons char text =>
      rw [List.flatMap_cons] at same
      by_cases small : char.val.toNat ≤ 0x7f
      · rw [encodeChar_low char small] at same
        exact ⟨text, (List.cons.inj same).2⟩
      · obtain ⟨head, tail, encoded, _, high⟩ := encodeChar_decodes char (by omega) []
        rw [encoded] at same
        have head' := high head List.mem_cons_self
        rw [← (List.cons.inj same).1] at head'
        omega
  · rintro ⟨here, ⟨text, rfl⟩, later⟩
    refine ⟨⟨Char.ofNat first.toNat :: text, ?_⟩, here, later⟩
    have valid : first.toNat.isValidChar := .inl (by omega)
    have value : (Char.ofNat first.toNat).val.toNat = first.toNat := by
      rw [Char.ofNat, dif_pos valid]
      rfl
    rw [List.flatMap_cons, encodeChar_low _ (by omega), value, UInt8.ofNat_toNat]
    rfl

/-- A byte from 0x80 on starts a character that is decoded in one turn. -/
theorem printable_high {first : UInt8} (high : 0x80 ≤ first.toNat) (bytes : List UInt8) :
    Printable (first :: bytes) ↔ ∃ rest, Decodes first bytes rest ∧ Printable rest := by
  constructor
  · rintro ⟨⟨text, same⟩, all⟩
    cases text with
    | nil => contradiction
    | cons char text =>
      rw [List.flatMap_cons] at same
      have large : 0x80 ≤ char.val.toNat := by
        by_contra small
        rw [encodeChar_low char (by omega)] at same
        rw [(List.cons.inj same).1, toNat_ofNat_of_lt (by omega)] at high
        omega
      obtain ⟨head, tail, encoded, decodes, _⟩ := encodeChar_decodes char large (text.flatMap String.utf8EncodeChar)
      rw [encoded] at same
      obtain ⟨rfl, rfl⟩ := List.cons.inj same
      refine ⟨_, decodes, ⟨text, rfl⟩, ?_⟩
      intro byte member
      exact all byte (List.mem_cons_of_mem _ (List.mem_append_right _ member))
  · rintro ⟨rest, decodes, ⟨text, rfl⟩, all⟩
    obtain ⟨char, large, same⟩ := decodes.encoded
    obtain ⟨head, tail, encoded, _, highs⟩ := encodeChar_decodes char large []
    rw [same]
    refine ⟨⟨char :: text, rfl⟩, ?_⟩
    rw [List.forall_mem_append]
    refine ⟨?_, all⟩
    intro byte member
    rw [encoded] at member
    have large := highs byte member
    omega

theorem validUtf8Loop_iff (fuel : Nat) (bytes : List UInt8) (enough : bytes.length ≤ fuel) :
    validUtf8Loop fuel bytes = true ↔ Printable bytes := by
  induction fuel generalizing bytes with
  | zero =>
    rw [List.length_eq_zero_iff.mp (Nat.le_zero.mp enough)]
    exact iff_of_true rfl .nil
  | succ fuel ih =>
    cases bytes with
    | nil => exact iff_of_true rfl .nil
    | cons first bytes =>
      rw [List.length_cons] at enough
      unfold validUtf8Loop
      split
      next low =>
        rw [UInt8.lt_iff_toNat_lt] at low
        rw [printable_low low, ← ih bytes (by omega)]
        simp only [UInt8.lt_iff_toNat_lt, ← UInt8.toNat_inj, UInt8.reduceToNat]
        split
        next control => exact iff_of_false Bool.false_ne_true (by omega)
        next plain => exact (and_iff_right (by omega)).symm
      next high =>
        rw [UInt8.lt_iff_toNat_lt, Nat.not_lt] at high
        rw [printable_high high]
        rcases lead : leadByte first with _ | ⟨count, bits⟩
        · refine iff_of_false Bool.false_ne_true ?_
          rintro ⟨rest, ⟨count, bits, codepoint, taken, _⟩, _⟩
          rw [lead] at taken
          contradiction
        · dsimp only
          rcases continues : continuationBytes count bits bytes with _ | ⟨codepoint, rest⟩
          · refine iff_of_false Bool.false_ne_true ?_
            rintro ⟨rest, ⟨count, bits, codepoint, taken, followed, _⟩, _⟩
            rw [lead] at taken
            cases taken
            rw [continues] at followed
            contradiction
          · have shorter := continuationBytes_length continues
            have decides : (∃ rest, Decodes first bytes rest ∧ Printable rest) ↔
                ¬ Refused count codepoint ∧ Printable rest := by
              constructor
              · rintro ⟨other, ⟨_, _, _, taken, followed, accepted⟩, printable⟩
                rw [lead] at taken
                cases taken
                rw [continues] at followed
                cases followed
                exact ⟨accepted, printable⟩
              · rintro ⟨accepted, printable⟩
                exact ⟨rest, ⟨count, bits, codepoint, lead, continues, accepted⟩, printable⟩
            rw [decides, ← ih rest (by omega)]
            dsimp only
            split
            next refused => exact iff_of_false Bool.false_ne_true fun both => both.1 refused
            next accepted => exact (and_iff_right accepted).symm

theorem validUtf8_iff (bytes : List UInt8) : validUtf8 bytes = true ↔ Printable bytes :=
  validUtf8Loop_iff bytes.length bytes le_rfl

/-- `valid_utf8` accepts exactly the UTF-8 encodings of scalar values without control characters, and reads no byte
past the size. -/
theorem valid_utf8_exact (memory : Nat → UInt8) (size : Nat) :
    ((validUtf8At memory size).1 = true ↔
      (∃ text : List Char, bytesAt memory 0 size = text.flatMap String.utf8EncodeChar) ∧
        ∀ byte ∈ bytesAt memory 0 size, 0x20 ≤ byte.toNat ∧ byte.toNat ≠ 0x7f) ∧
      ∀ read ∈ (validUtf8At memory size).2, read < size := by
  obtain ⟨same, reads⟩ := validUtf8At_eq memory size
  refine ⟨?_, reads⟩
  rw [same]
  exact validUtf8_iff _

end EspIris.Device.Files
