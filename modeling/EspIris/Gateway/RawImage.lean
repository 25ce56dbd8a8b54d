import EspIris.Lib.Slices
import Mathlib.Data.List.Basic
import Mathlib.Data.Nat.Bitwise

/-! The conversion of raw screen payloads to rows of red, green and blue: `_raw_rgb` of the gateway. -/

namespace EspIris.Gateway.RawImage
open Slices

inductive ImageError
  | valueError (text : String)
  | indexError
deriving DecidableEq, Repr

structure Description where
  width : Option Int
  height : Option Int
  format : Option Int
  stride : Option Int
deriving DecidableEq, Repr

def rgb565 : Int := 1

def rgb888 : Int := 2

namespace Description
variable (description : Description)

def pixelWidth : Int := description.width.getD 0
def pixelHeight : Int := description.height.getD 0
def pixelFormat : Int := description.format.getD 0

def bytesPerPixel : Int :=
  if description.pixelFormat = rgb565 then 2 else if description.pixelFormat = rgb888 then 3 else 0

def rowSize : Int := description.pixelWidth * description.bytesPerPixel

def rowStride : Int :=
  let given := description.stride.getD 0
  if given ≠ 0 then given else description.rowSize

end Description

/-- `bytes` of small numbers. -/
def bytesOf (values : List Nat) : Except ImageError (List UInt8) :=
  if values.all (· < 256) then .ok (values.map UInt8.ofNat)
  else .error (.valueError "bytes must be in range(0, 256)")

def byteAt (row : List UInt8) (index : Nat) : Except ImageError Nat :=
  match row[index]? with
  | some byte => .ok byte.toNat
  | none => .error .indexError

def convert565 (row : List UInt8) (canvas : List UInt8 × Nat) (x : Nat) : Except ImageError (List UInt8 × Nat) := do
  let low ← byteAt row (x * 2)
  let high ← byteAt row (x * 2 + 1)
  let value := low ||| high <<< 8
  let red := value >>> 11 &&& 0x1f
  let green := value >>> 5 &&& 0x3f
  let blue := value &&& 0x1f
  let pixel ← bytesOf [red <<< 3 ||| red >>> 2, green <<< 2 ||| green >>> 4, blue <<< 3 ||| blue >>> 2]
  pure (assign canvas.1 canvas.2 (canvas.2 + 3) pixel, canvas.2 + 3)

def convertRow (description : Description) (data : List UInt8) (canvas : List UInt8 × Nat) (y : Nat) :
    Except ImageError (List UInt8 × Nat) :=
  let width := description.pixelWidth.toNat
  let row := (data.drop (y * description.rowStride.toNat)).take description.rowSize.toNat
  if description.pixelFormat = rgb565 then (List.range width).foldlM (convert565 row) canvas
  else
    let size := width * 3
    .ok (assign canvas.1 canvas.2 (canvas.2 + size) row, canvas.2 + size)

def rawRgb (description : Description) (data : List UInt8) : Except ImageError (Int × Int × List UInt8) :=
  let width := description.pixelWidth
  let height := description.pixelHeight
  if width ≤ 0 ∨ height ≤ 0 ∨ description.bytesPerPixel = 0 then
    .error (.valueError "unsupported or empty raw image description")
  else if description.rowStride < description.rowSize ∨ data.length ≠ description.rowStride * height then
    .error (.valueError "raw image size does not match width, height, and stride")
  else do
    let canvas ← (List.range height.toNat).foldlM (convertRow description data)
      (List.replicate (width.toNat * height.toNat * 3) 0, 0)
    pure (width, height, canvas.1)

/-- A pixel of 16 bits holds five bits of red, six of green and five of blue, each repeated from the top to fill a byte;
one of 24 bits is as it is. -/
def expand : List UInt8 → List UInt8
  | [low, high] =>
    let red := high.toNat / 8
    let green := high.toNat % 8 * 8 + low.toNat / 32
    let blue := low.toNat % 32
    [UInt8.ofNat (red * 8 + red / 4), UInt8.ofNat (green * 4 + green / 16), UInt8.ofNat (blue * 8 + blue / 4)]
  | pixel => pixel

def sourcePixel (description : Description) (data : List UInt8) (x y : Nat) : List UInt8 :=
  (data.drop (y * description.rowStride.toNat + x * description.bytesPerPixel.toNat)).take
    description.bytesPerPixel.toNat

def picture (description : Description) (data : List UInt8) : List UInt8 :=
  (List.range description.pixelHeight.toNat).flatMap fun y =>
    (List.range description.pixelWidth.toNat).flatMap fun x => expand (sourcePixel description data x y)

structure Fits (description : Description) (data : List UInt8) : Prop where
  width : 0 < description.pixelWidth
  height : 0 < description.pixelHeight
  format : description.pixelFormat = rgb565 ∨ description.pixelFormat = rgb888
  stride : description.rowSize ≤ description.rowStride
  payload : (data.length : Int) = description.rowStride * description.pixelHeight

theorem bytesPerPixel_eq_zero {description : Description} : description.bytesPerPixel = 0 ↔
    ¬ (description.pixelFormat = rgb565 ∨ description.pixelFormat = rgb888) := by
  unfold Description.bytesPerPixel
  split
  next wide => simp [wide]
  next narrow =>
    split
    next full => simp [full]
    next other => simp [narrow, other]

theorem rawRgb_refuses {description : Description} {data : List UInt8} (misfit : ¬ Fits description data) :
    ∃ text, rawRgb description data = .error (.valueError text) := by
  by_cases described : description.pixelWidth ≤ 0 ∨ description.pixelHeight ≤ 0 ∨ description.bytesPerPixel = 0
  · exact ⟨_, if_pos described⟩
  · by_cases long : description.rowStride < description.rowSize ∨
        (data.length : Int) ≠ description.rowStride * description.pixelHeight
    · exact ⟨_, (if_neg described).trans (if_pos long)⟩
    · simp only [not_or, not_not] at described long
      refine absurd ⟨Int.not_le.mp described.1, Int.not_le.mp described.2.1, ?_, Int.not_lt.mp long.1, long.2⟩ misfit
      exact Decidable.not_not.mp (mt bytesPerPixel_eq_zero.mpr described.2.2)

section pixels
variable {low high : Nat}

theorem repeat_five {bits : Nat} (small : bits < 32) : bits <<< 3 ||| bits >>> 2 = bits * 8 + bits / 4 := by
  rw [Nat.shiftRight_eq_div_pow, ← Nat.shiftLeft_add_eq_or_of_lt (by omega), Nat.shiftLeft_eq]

theorem repeat_six {bits : Nat} (small : bits < 64) : bits <<< 2 ||| bits >>> 4 = bits * 4 + bits / 16 := by
  rw [Nat.shiftRight_eq_div_pow, ← Nat.shiftLeft_add_eq_or_of_lt (by omega), Nat.shiftLeft_eq]

theorem two_bytes (small : low < 256) : low ||| high <<< 8 = high * 256 + low := by
  rw [Nat.lor_comm, ← Nat.shiftLeft_add_eq_or_of_lt small, Nat.shiftLeft_eq]

theorem bits_of_bytes (lowSmall : low < 256) (highSmall : high < 256) :
    (low ||| high <<< 8) >>> 11 &&& 0x1f = high / 8 ∧
      (low ||| high <<< 8) >>> 5 &&& 0x3f = high % 8 * 8 + low / 32 ∧ (low ||| high <<< 8) &&& 0x1f = low % 32 := by
  have five : ∀ bits, bits &&& 0x1f = bits % 32 := fun bits => Nat.and_two_pow_sub_one_eq_mod bits 5
  have six : ∀ bits, bits &&& 0x3f = bits % 64 := fun bits => Nat.and_two_pow_sub_one_eq_mod bits 6
  rw [two_bytes lowSmall, five, six, five, Nat.shiftRight_eq_div_pow, Nat.shiftRight_eq_div_pow]
  refine ⟨?_, ?_, ?_⟩ <;> omega

end pixels

theorem bytesOf_small {values : List Nat} (small : ∀ value ∈ values, value < 256) :
    bytesOf values = .ok (values.map UInt8.ofNat) := by
  unfold bytesOf
  rw [if_pos (List.all_eq_true.mpr fun value member => decide_eq_true (small value member))]

theorem convert565_adds {row : List UInt8} {x : Nat} (inside : x * 2 + 2 ≤ row.length) (written rest : List UInt8) :
    convert565 row (written ++ rest, written.length) x =
      .ok (written ++ expand ((row.drop (x * 2)).take 2) ++ rest.drop 3, written.length + 3) := by
  have first : x * 2 < row.length := by omega
  have second : x * 2 + 1 < row.length := by omega
  have slice : (row.drop (x * 2)).take 2 = [row[x * 2], row[x * 2 + 1]] := by
    rw [List.drop_eq_getElem_cons first, List.drop_eq_getElem_cons second]
    rfl
  have low := row[x * 2].toNat_lt
  have high := row[x * 2 + 1].toNat_lt
  obtain ⟨red, green, blue⟩ := bits_of_bytes low high
  unfold convert565 byteAt
  rw [List.getElem?_eq_getElem first, List.getElem?_eq_getElem second, slice]
  simp only [bind, Except.bind]
  rw [red, green, blue, repeat_five (by omega), repeat_six (by omega), repeat_five (by omega), bytesOf_small (by
    simp only [List.mem_cons, List.not_mem_nil, or_false]
    omega)]
  change Except.ok (assign (written ++ rest) written.length (written.length + 3) _, _) = _
  rw [assign_next]
  rfl

theorem expand_length {pixel : List UInt8} (size : pixel.length = 2 ∨ pixel.length = 3) :
    (expand pixel).length = 3 := by
  rcases size with two | three
  · obtain ⟨low, high, rfl⟩ := List.length_eq_two.mp two
    rfl
  · obtain ⟨red, green, blue, rfl⟩ := List.length_eq_three.mp three
    rfl

namespace Fits
variable {description : Description} {data : List UInt8}

section fits
variable (fits : Fits description data)
include fits

theorem depth : description.pixelFormat = rgb565 ∧ description.bytesPerPixel = 2 ∨
    description.pixelFormat ≠ rgb565 ∧ description.bytesPerPixel = 3 := by
  unfold Description.bytesPerPixel
  rcases fits.format with half | full
  · exact .inl ⟨half, if_pos half⟩
  · have other : description.pixelFormat ≠ rgb565 := by
      rw [full]
      decide
    exact .inr ⟨other, by rw [if_neg other, if_pos full]⟩

theorem bytesPerPixel_nonneg : 0 ≤ description.bytesPerPixel := by
  rcases fits.depth with ⟨-, depth⟩ | ⟨-, depth⟩ <;> rw [depth] <;> decide

theorem rowSize_nonneg : 0 ≤ description.rowSize :=
  Int.mul_nonneg (le_of_lt fits.width) fits.bytesPerPixel_nonneg

theorem rowSize_toNat :
    description.rowSize.toNat = description.pixelWidth.toNat * description.bytesPerPixel.toNat :=
  Int.toNat_mul (le_of_lt fits.width) fits.bytesPerPixel_nonneg

theorem data_length :
    data.length = description.pixelHeight.toNat * description.rowStride.toNat := by
  rw [Nat.mul_comm, ← Int.toNat_mul (fits.rowSize_nonneg.trans fits.stride) (le_of_lt fits.height), ← fits.payload,
    Int.toNat_natCast]

theorem row_inside {y : Nat} (below : y < description.pixelHeight.toNat) :
    y * description.rowStride.toNat + description.rowSize.toNat ≤ data.length := by
  have stride : description.rowSize.toNat ≤ description.rowStride.toNat := Int.toNat_le_toNat fits.stride
  have rows : (y + 1) * description.rowStride.toNat ≤ data.length := by
    rw [fits.data_length]
    exact Nat.mul_le_mul_right _ below
  rw [Nat.succ_mul] at rows
  omega

theorem pixel_inside {x : Nat} (left : x < description.pixelWidth.toNat) :
    x * description.bytesPerPixel.toNat + description.bytesPerPixel.toNat ≤ description.rowSize.toNat := by
  rw [fits.rowSize_toNat, ← Nat.succ_mul]
  exact Nat.mul_le_mul_right _ left

theorem sourcePixel_length {x y : Nat} (left : x < description.pixelWidth.toNat)
    (below : y < description.pixelHeight.toNat) :
    (sourcePixel description data x y).length = description.bytesPerPixel.toNat := by
  have row := fits.row_inside below
  have pixel := fits.pixel_inside left
  unfold sourcePixel
  rw [List.length_take_of_le]
  rw [List.length_drop]
  omega

theorem pixel_length {x y : Nat} (left : x < description.pixelWidth.toNat) (below : y < description.pixelHeight.toNat) :
    (expand (sourcePixel description data x y)).length = 3 := by
  refine expand_length ?_
  rw [fits.sourcePixel_length left below]
  rcases fits.depth with ⟨-, depth⟩ | ⟨-, depth⟩ <;> rw [depth] <;> decide

end fits

end Fits

def sourceRow (description : Description) (data : List UInt8) (y : Nat) : List UInt8 :=
  (data.drop (y * description.rowStride.toNat)).take description.rowSize.toNat

def pictureRow (description : Description) (data : List UInt8) (y : Nat) : List UInt8 :=
  (List.range description.pixelWidth.toNat).flatMap fun x => expand (sourcePixel description data x y)

section rows
variable {description : Description} {data : List UInt8} {y : Nat}

theorem sourceRow_length (fits : Fits description data) (below : y < description.pixelHeight.toNat) :
    (sourceRow description data y).length = description.rowSize.toNat := by
  have row := fits.row_inside below
  unfold sourceRow
  rw [List.length_take_of_le]
  rw [List.length_drop]
  omega

theorem sourceRow_pixel (fits : Fits description data) {x : Nat} (left : x < description.pixelWidth.toNat) :
    ((sourceRow description data y).drop (x * description.bytesPerPixel.toNat)).take
      description.bytesPerPixel.toNat = sourcePixel description data x y :=
  slice_slice data (fits.pixel_inside left)

theorem pictureRow_length (fits : Fits description data) (below : y < description.pixelHeight.toNat) :
    (pictureRow description data y).length = description.pixelWidth.toNat * 3 :=
  range_blocks_length fun _ left => fits.pixel_length left below

theorem convertRow_adds (fits : Fits description data) (below : y < description.pixelHeight.toNat)
    (written rest : List UInt8) (room : description.pixelWidth.toNat * 3 ≤ rest.length) :
    convertRow description data (written ++ rest, written.length) y =
      .ok (written ++ pictureRow description data y ++ rest.drop (description.pixelWidth.toNat * 3),
        written.length + description.pixelWidth.toNat * 3) := by
  have row := sourceRow_length fits below
  unfold convertRow
  change (if description.pixelFormat = rgb565 then (List.range description.pixelWidth.toNat).foldlM
    (convert565 (sourceRow description data y)) _ else Except.ok (assign _ _ _ (sourceRow description data y), _)) = _
  rcases fits.depth with ⟨half, depth⟩ | ⟨full, depth⟩
  · rw [if_pos half]
    have pixels : ∀ x ∈ List.range description.pixelWidth.toNat, ∀ written rest : List UInt8, 3 ≤ rest.length →
        convert565 (sourceRow description data y) (written ++ rest, written.length) x =
          .ok (written ++ expand (sourcePixel description data x y) ++ rest.drop 3, written.length + 3) := by
      intro x member written rest _
      have left := List.mem_range.mp member
      have inside := fits.pixel_inside left
      have source := sourceRow_pixel (y := y) fits left
      rw [depth] at inside source
      rw [← source]
      exact convert565_adds (inside.trans row.ge) written rest
    have sizes : ∀ x ∈ List.range description.pixelWidth.toNat,
        (expand (sourcePixel description data x y)).length = 3 :=
      fun x member => fits.pixel_length (List.mem_range.mp member) below
    have filled := foldlM_fills pixels sizes written rest (by rwa [List.length_range])
    rw [List.length_range] at filled
    exact filled
  · rw [if_neg full]
    have whole : pictureRow description data y = sourceRow description data y := by
      have size : (sourceRow description data y).length = description.pixelWidth.toNat * 3 := by
        rw [row, fits.rowSize_toNat, depth]
        rfl
      rw [← flatMap_slices size]
      unfold pictureRow
      refine List.flatMap_congr fun x member => ?_
      have left := List.mem_range.mp member
      have source := sourceRow_pixel (y := y) fits left
      have pixel := fits.sourcePixel_length left below
      rw [depth] at source pixel
      obtain ⟨red, green, blue, three⟩ := List.length_eq_three.mp pixel
      change expand (sourcePixel description data x y) = ((sourceRow description data y).drop (x * 3)).take 3
      change ((sourceRow description data y).drop (x * 3)).take 3 = _ at source
      rw [source, three]
      rfl
    dsimp only
    rw [assign_next, whole]

end rows

theorem rawRgb_picture {description : Description} {data : List UInt8} (fits : Fits description data) :
    rawRgb description data = .ok (description.pixelWidth, description.pixelHeight, picture description data) := by
  have described : ¬ (description.pixelWidth ≤ 0 ∨ description.pixelHeight ≤ 0 ∨ description.bytesPerPixel = 0) := by
    rw [bytesPerPixel_eq_zero, not_or, not_or, Decidable.not_not]
    exact ⟨Int.not_le.mpr fits.width, Int.not_le.mpr fits.height, fits.format⟩
  have long : ¬ (description.rowStride < description.rowSize ∨
      (data.length : Int) ≠ description.rowStride * description.pixelHeight) := by
    rw [not_or, Decidable.not_not]
    exact ⟨Int.not_lt.mpr fits.stride, fits.payload⟩
  have pixels : description.pixelWidth.toNat * description.pixelHeight.toNat * 3 =
      (List.range description.pixelHeight.toNat).length * (description.pixelWidth.toNat * 3) := by
    rw [List.length_range, Nat.mul_comm description.pixelWidth.toNat, Nat.mul_assoc]
  have filled := foldlM_fills (fun y member => convertRow_adds fits (List.mem_range.mp member))
    (fun y member => pictureRow_length fits (List.mem_range.mp member)) []
    (List.replicate (description.pixelWidth.toNat * description.pixelHeight.toNat * 3) 0)
    (by rw [List.length_replicate, pixels])
  have finished : (List.range description.pixelHeight.toNat).foldlM (convertRow description data)
      (List.replicate (description.pixelWidth.toNat * description.pixelHeight.toNat * 3) 0, 0) =
      .ok (picture description data, 0 + (List.range description.pixelHeight.toNat).length *
        (description.pixelWidth.toNat * 3)) := by
    refine filled.trans ?_
    rw [List.drop_of_length_le (by rw [List.length_replicate, pixels]), List.append_nil]
    rfl
  unfold rawRgb
  dsimp only
  rw [if_neg described, if_neg long, finished]
  rfl

theorem picture_length {description : Description} {data : List UInt8} (fits : Fits description data) :
    (picture description data).length = description.pixelHeight.toNat * (description.pixelWidth.toNat * 3) :=
  range_blocks_length fun _ below => pictureRow_length fits below

/-- Each pixel of the picture is the expansion of its bytes in the payload. -/
theorem picture_pixel {description : Description} {data : List UInt8} (fits : Fits description data) {x y : Nat}
    (left : x < description.pixelWidth.toNat) (below : y < description.pixelHeight.toNat) :
    ((picture description data).drop (3 * (y * description.pixelWidth.toNat + x))).take 3 =
      expand (sourcePixel description data x y) := by
  have row : ((picture description data).drop (y * (description.pixelWidth.toNat * 3))).take
      (description.pixelWidth.toNat * 3) = pictureRow description data y :=
    block_of_range (fun _ below => pictureRow_length fits below) below
  have pixel : ((pictureRow description data y).drop (x * 3)).take 3 = expand (sourcePixel description data x y) :=
    block_of_range (fun _ left => fits.pixel_length left below) left
  have start : 3 * (y * description.pixelWidth.toNat + x) = y * (description.pixelWidth.toNat * 3) + x * 3 := by
    rw [Nat.mul_add, Nat.mul_comm 3, Nat.mul_assoc, Nat.mul_comm 3]
  have inside : x * 3 + 3 ≤ description.pixelWidth.toNat * 3 := by omega
  rw [start, ← slice_slice _ inside, row, pixel]

structure SamePixels (description : Description) (data other : List UInt8) : Prop where
  length : other.length = data.length
  shown : ∀ position, position % description.rowStride.toNat < description.rowSize.toNat →
    other[position]? = data[position]?

theorem SamePixels.sourcePixel {description : Description} {data other : List UInt8}
    (same : SamePixels description data other) (fits : Fits description data) {x y : Nat}
    (left : x < description.pixelWidth.toNat) :
    sourcePixel description other x y = sourcePixel description data x y := by
  have pixel := fits.pixel_inside left
  have stride : description.rowSize.toNat ≤ description.rowStride.toNat := Int.toNat_le_toNat fits.stride
  refine List.ext_getElem? fun index => ?_
  unfold RawImage.sourcePixel
  rw [List.getElem?_take, List.getElem?_take]
  split
  next inside =>
    rw [List.getElem?_drop, List.getElem?_drop, Nat.add_assoc]
    refine same.shown _ ?_
    rw [Nat.mul_comm, Nat.mul_add_mod, Nat.mod_eq_of_lt (by omega)]
    omega
  next past => rfl

theorem SamePixels.fits {description : Description} {data other : List UInt8}
    (same : SamePixels description data other) (fits : Fits description data) : Fits description other :=
  { fits with payload := by rw [same.length, fits.payload] }

theorem rawRgb_padding {description : Description} {data other : List UInt8}
    (same : SamePixels description data other) (fits : Fits description data) :
    rawRgb description other = rawRgb description data := by
  have pictures : picture description other = picture description data := by
    refine List.flatMap_congr fun y _ => List.flatMap_congr fun x member => ?_
    rw [same.sourcePixel fits (List.mem_range.mp member)]
  rw [rawRgb_picture fits, rawRgb_picture (same.fits fits), pictures]

/-- The conversion takes exactly the payloads that the described rows fit. Its output has three bytes for each pixel, the
expansion of the bytes of that pixel, and is the same for every padding. -/
theorem raw_conversion (description : Description) (data : List UInt8) :
    (Fits description data → ∃ rgb,
      rawRgb description data = .ok (description.pixelWidth, description.pixelHeight, rgb) ∧
      (rgb.length : Int) = 3 * description.pixelWidth * description.pixelHeight ∧
      (∀ x y, x < description.pixelWidth.toNat → y < description.pixelHeight.toNat →
        (rgb.drop (3 * (y * description.pixelWidth.toNat + x))).take 3 = expand (sourcePixel description data x y)) ∧
      ∀ other, SamePixels description data other →
        rawRgb description other = .ok (description.pixelWidth, description.pixelHeight, rgb)) ∧
    (¬ Fits description data → ∃ text, rawRgb description data = .error (.valueError text)) := by
  refine ⟨?_, rawRgb_refuses⟩
  intro fits
  refine ⟨picture description data, rawRgb_picture fits, ?_, ?_, ?_⟩
  · have width := Int.toNat_of_nonneg (le_of_lt fits.width)
    have height := Int.toNat_of_nonneg (le_of_lt fits.height)
    rw [picture_length fits]
    push_cast
    rw [width, height, Int.mul_comm 3, Int.mul_comm description.pixelHeight]
  · intro x y left below
    exact picture_pixel fits left below
  · intro other same
    rw [rawRgb_padding same fits, rawRgb_picture fits]

/-- Two rows of one pixel of 16 bits, with a byte of padding each. -/
theorem raw_conversion_padded :
    ∃ rgb, rawRgb ⟨some 1, some 2, some 1, some 3⟩ [0xe0, 0x07, 9, 0x1f, 0xf8, 9] = .ok (1, 2, rgb) ∧
      rgb.length = 6 ∧ rgb.take 3 = [0, 255, 0] ∧ (rgb.drop 3).take 3 = [255, 0, 255] := by
  have fits : Fits ⟨some 1, some 2, some 1, some 3⟩ [0xe0, 0x07, 9, 0x1f, 0xf8, 9] :=
    ⟨by decide, by decide, by decide, by decide, by decide⟩
  obtain ⟨rgb, converted, length, pixels, -⟩ := (raw_conversion _ _).1 fits
  exact ⟨rgb, converted, Int.ofNat_inj.mp length, pixels 0 0 (by decide) (by decide), pixels 0 1 (by decide) (by decide)⟩

end EspIris.Gateway.RawImage
