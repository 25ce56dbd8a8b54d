import EspIris.Device.MediaSlots
import EspIris.Lib.Latest
import EspIris.Lib.Tiling

/-! A pull mirror cuts the frames of the backend into tiles of whole rows, one read a tile. -/

namespace EspIris.Device.Media
open Codec Codec.Device Jobs Bytes Machine Latest Tiling
variable {outputs : List MediaOutput} {state : MediaState} {index : Fin 3} {answer : ReadAnswer} {event : MediaEvent}
variable {now : Nat}

structure Rows where
  frame : Nat
  offset : Nat
  bytes : List UInt8
  deriving DecidableEq, Repr

def Rows.row (stride : Nat) (rows : Rows) : Nat := rows.offset / stride

def Rows.count (stride : Nat) (rows : Rows) : Nat := rows.bytes.length / stride

/-- The current stream of a slot: its description, the frames that were read whole, the reads that gave
tiles, and the payloads that were put out. -/
structure PullLog where
  description : MediaDesc
  frames : Nat
  log : Log Rows (List UInt8)

def PullLog.empty : PullLog := ⟨.zero, 0, .empty⟩

def PullLog.stride (log : PullLog) : Nat := log.description.stride.toNat

def PullLog.height (log : PullLog) : Nat := log.description.height.toNat

def PullLog.read (log : PullLog) (slot after : MediaSlot) (answer : ReadAnswer) : PullLog where
  description := log.description
  frames := if after.offset = 0 then log.frames + 1 else log.frames
  log := log.log.accept ⟨log.frames, slot.offset.toNat, answer.bytes.take answer.size⟩

def notePull (logs : Fin 3 → PullLog) (before : MediaRun) (event : MediaEvent) (after : MediaRun) : Fin 3 → PullLog :=
  match event with
  | .frame _ _ =>
    match after.world.point with
    | .starting index _ _ =>
      Function.update logs index ⟨(slotOf after.world.services index).frameDescription, 0, .empty⟩
    | _ => logs
  | .look answer _ =>
    match before.world.point with
    | .looking index =>
      let slot := slotOf before.world.services index
      let left := slotOf after.world.services index
      if slot.pending = false ∧ left.pending = true then
        Function.update logs index ((logs index).read slot left answer)
      else logs
    | _ => logs
  | .copy _ =>
    match before.world.point with
    | .checked index _ =>
      if (slotOf before.world.services index).pull then
        Function.update logs index { logs index with
          log := (dataOf (after.outputs.drop before.outputs.length)).foldl Log.emit (logs index).log }
      else logs
    | _ => logs
  | _ => logs

def pullSystem (config : MediaConfig) : System (MediaRun × (Fin 3 → PullLog)) MediaEvent :=
  (mediaSystem config).recorded (fun _ => .empty) notePull

structure TileCarries (description : MediaDesc) (rows : Rows) (payload : List UInt8) : Prop where
  made : ∃ now dropped, payload = dataPayload now (UInt32.ofNat (1 + rows.frame)) dropped 0
    (UInt16.ofNat rows.bytes.length) { description with
      y := description.y + UInt16.ofNat (rows.row description.stride.toNat)
      height := UInt16.ofNat (rows.count description.stride.toNat) } rows.bytes
  below : description.y.toNat + rows.row description.stride.toNat < 2 ^ 16
  offset : rows.offset = description.stride.toNat * rows.row description.stride.toNat
  length : rows.bytes.length = description.stride.toNat * rows.count description.stride.toNat
  small : rows.bytes.length < 2 ^ 16

def tileId (payload : List UInt8) : Nat := field payload 8 4

def tileY (payload : List UInt8) : Nat := field payload 22 2

def tileHeight (payload : List UInt8) : Nat := field payload 26 2

def PullLog.tiles (log : PullLog) (frame : Nat) : List (List UInt8) :=
  log.log.emitted.filter fun payload => tileId payload = (1 + frame) % 2 ^ 32

/-- The tiles of each frame id cover the rows of the frame in order: all of them for the frames up to a
place, and the first ones for the frame that is cut there. Each carries what was read for its rows. -/
structure PullIntegrity (log : PullLog) : Prop where
  partitioned : ∃ place : Place, place.reached ≤ log.height ∧ ∀ frame, frame < 2 ^ 32 →
    Tiles tileY tileHeight log.description.y.toNat (log.tiles frame)
      (log.description.y.toNat + covered log.height place frame)
  carried : List.Forall₂ (TileCarries log.description) (log.log.accepted.take log.log.emitted.length) log.log.emitted

/-- Whether `prepare_pull_screen` makes a tile of a read. -/
def placesTile (config : MediaConfig) (state : MediaState) (slot : MediaSlot) (answer : ReadAnswer) (now : Nat) : Bool :=
  pullDue config state slot now && answer.code = EspErr.ok && answer.size ≠ 0 && answer.size ≤ pullSize config slot &&
    answer.size % slot.frameDescription.stride.toNat = 0

/-- The backend writes what it reports, and a tile that is made starts above row 2¹⁶, in one of the first 2³²
frames of its stream. -/
def PullsWell (config : MediaConfig) (noted : MediaRun × (Fin 3 → PullLog)) : MediaEvent → Prop
  | .look answer now =>
    match noted.1.world.point, noted.1.world.services with
    | .looking index, some state =>
      let slot := state.media index
      placesTile config state slot answer now = true →
        answer.size ≤ answer.bytes.length ∧
        slot.frameDescription.y.toNat + slot.offset.toNat / slot.frameDescription.stride.toNat < 2 ^ 16 ∧
        (noted.2 index).frames < 2 ^ 32
    | _, _ => True
  | _ => True

def Pulls (slot : MediaSlot) : Prop := slot.active = true ∧ slot.pull = true

structure HoldsRows (slot : MediaSlot) (rows : Rows) : Prop where
  description : slot.description = { slot.frameDescription with
    y := slot.frameDescription.y + UInt16.ofNat (rows.row slot.frameDescription.stride.toNat)
    height := UInt16.ofNat (rows.count slot.frameDescription.stride.toNat) }
  frameId : slot.frameId = UInt32.ofNat (1 + rows.frame)
  flags : slot.flags = 0
  size : slot.size = rows.bytes.length
  data : ∀ data, slot.data = some data → data.take slot.size = rows.bytes
  below : slot.frameDescription.y.toNat + rows.row slot.frameDescription.stride.toNat < 2 ^ 16
  offset : rows.offset = slot.frameDescription.stride.toNat * rows.row slot.frameDescription.stride.toNat
  length : rows.bytes.length = slot.frameDescription.stride.toNat * rows.count slot.frameDescription.stride.toNat

def PullLog.place (log : PullLog) : Option Place :=
  cut Rows.frame (Rows.row log.stride) (Rows.count log.stride) log.height log.log.accepted

structure Pulling (slot : MediaSlot) (log : PullLog) (waiting : Option Rows) : Prop where
  description : log.description = slot.frameDescription
  stride : 0 < log.stride
  height : 0 < log.height
  total : slot.totalSize.toNat = log.stride * log.height
  place : ∃ row, slot.offset.toNat = log.stride * row ∧ log.place = some ⟨log.frames, row⟩
  frameId : slot.pullFrameId = UInt32.ofNat (1 + log.frames)
  pending : slot.pending = waiting.isSome
  holds : ∀ rows, waiting = some rows → HoldsRows slot rows

structure PullSlot (config : MediaConfig) (slot : MediaSlot) (log : PullLog) : Prop where
  size : slot.size ≤ config.latestBytes
  idle : slot.active = false → slot.pending = false
  placed : ∃ place, log.place = some place
  bounded : ∀ rows ∈ log.log.accepted, rows.frame < 2 ^ 32
  tall : log.log.accepted ≠ [] → 0 < log.height
  passed : ∃ waiting, Passed (TileCarries log.description) log.log waiting ∧ (Pulls slot → Pulling slot log waiting)

section slots
variable {config : MediaConfig} {slot after : MediaSlot} {log : PullLog}

/-- A slot that is not, or no longer, pulled keeps what its log says of the past. -/
theorem PullSlot.unpulled (sound : PullSlot config slot log) (size : after.size ≤ config.latestBytes)
    (idle : after.active = false → after.pending = false) (unpulled : ¬ Pulls after) : PullSlot config after log where
  size := size
  idle := idle
  placed := sound.placed
  bounded := sound.bounded
  tall := sound.tall
  passed := by
    obtain ⟨waiting, passed, _⟩ := sound.passed
    exact ⟨waiting, passed, fun pulls => absurd pulls unpulled⟩

theorem PullSlot.kept (sound : PullSlot config slot log) (kept : Kept slot after) : PullSlot config after log := by
  rcases kept with same | ⟨inactive, _, quiet, size⟩
  · rw [same]
    exact sound
  · refine sound.unpulled (by rw [size]; exact Nat.zero_le _) (fun _ => quiet) fun pulls => ?_
    exact absurd (pulls.1.symm.trans inactive) Bool.noConfusion

theorem PullSlot.begun (size : slot.size ≤ config.latestBytes) (active : slot.active = true)
    (quiet : slot.pending = false) (begun : slot.pull = false ∨ Begun config slot) :
    PullSlot config slot ⟨slot.frameDescription, 0, .empty⟩ where
  size := size
  idle := fun inactive => absurd (active.symm.trans inactive) Bool.noConfusion
  placed := ⟨_, cut_nil⟩
  bounded := by
    intro rows member
    cases member
  tall := fun some => absurd rfl some
  passed := by
    refine ⟨none, .empty, fun pulls => ?_⟩
    rcases begun with push | begun
    · exact absurd (pulls.2.symm.trans push) Bool.noConfusion
    · have positive : ∀ {value : UInt32}, value ≠ 0 → 0 < value.toNat := by
        intro value some
        exact Nat.pos_of_ne_zero fun zero => some (UInt32.toNat_inj.mp zero)
      have tall : 0 < slot.frameDescription.height.toNat :=
        Nat.pos_of_ne_zero fun zero => begun.height (UInt16.toNat_inj.mp zero)
      refine ⟨rfl, positive begun.stride, tall, begun.total, ⟨0, ?_, rfl⟩, begun.frameId, quiet, fun rows none => by cases none⟩
      rw [begun.offset]
      rfl

/-- Neither the credit nor the count of drops is part of what a slot holds. -/
theorem PullSlot.adjusted (sound : PullSlot config slot log) (credit dropped : UInt32) :
    PullSlot config { slot with credit := credit, dropped := dropped } log where
  size := sound.size
  idle := sound.idle
  placed := sound.placed
  bounded := sound.bounded
  tall := sound.tall
  passed := by
    obtain ⟨waiting, passed, pulling⟩ := sound.passed
    refine ⟨waiting, passed, fun pulls => ?_⟩
    obtain ⟨description, stride, height, total, place, frameId, pending, holds⟩ := pulling pulls
    refine ⟨description, stride, height, total, place, frameId, pending, fun rows same => ?_⟩
    have held := holds rows same
    exact ⟨held.description, held.frameId, held.flags, held.size, held.data, held.below, held.offset, held.length⟩

/-- A read gives a tile, or leaves at most other bytes in the buffer while nothing is pending. -/
theorem preparePullScreen_cases (state : MediaState) (slot : MediaSlot) (answer : ReadAnswer) (now : Nat) :
    placesTile config state slot answer now = true ∧ (preparePullScreen config state slot answer now).1 = placeTile slot answer now ∨
      placesTile config state slot answer now = false ∧
        ((preparePullScreen config state slot answer now).1 = slot ∨
          slot.pending = false ∧ ∃ data, (preparePullScreen config state slot answer now).1 = { slot with data := data }) := by
  unfold preparePullScreen placesTile
  split
  next undue =>
    rw [undue]
    exact .inr ⟨rfl, .inl rfl⟩
  next due =>
    have isDue := Bool.of_not_eq_false due
    rw [isDue]
    dsimp only
    split
    next bad =>
      refine .inr ⟨?_, .inr ⟨?_, _, rfl⟩⟩
      · simp only [Bool.true_and, Bool.and_eq_false_iff, decide_eq_false_iff_not, not_not, Nat.not_le]
        rcases bad with code | size | size | rows
        · exact .inl (.inl (.inl code))
        · exact .inl (.inl (.inr size))
        · exact .inl (.inr size)
        · exact .inr rows
      · unfold pullDue at isDue
        simp only [Bool.and_eq_true, Bool.not_eq_true'] at isDue
        exact isDue.1.1.1.1.1.1.2
    next good =>
      simp only [not_or, not_not, Nat.not_lt] at good
      refine .inl ⟨?_, rfl⟩
      simp only [Bool.true_and, Bool.and_eq_true, decide_eq_true_eq]
      exact ⟨⟨⟨good.1, good.2.1⟩, good.2.2.1⟩, good.2.2.2⟩

/-- A read that failed may have written to the buffer, which holds nothing then. -/
theorem PullSlot.written (sound : PullSlot config slot log) (quiet : slot.pending = false) (data : Option (List UInt8)) :
    PullSlot config { slot with data := data } log where
  size := sound.size
  idle := fun _ => quiet
  placed := sound.placed
  bounded := sound.bounded
  tall := sound.tall
  passed := by
    obtain ⟨waiting, passed, pulling⟩ := sound.passed
    refine ⟨waiting, passed, fun pulls => ?_⟩
    obtain ⟨description, stride, height, total, place, frameId, pending, _⟩ := pulling pulls
    refine ⟨description, stride, height, total, place, frameId, pending, fun rows same => ?_⟩
    rw [same, quiet] at pending
    cases pending

structure Placeable (config : MediaConfig) (slot : MediaSlot) (answer : ReadAnswer) : Prop where
  pulls : Pulls slot
  quiet : slot.pending = false
  nonempty : answer.size ≠ 0
  fits : answer.size ≤ config.latestBytes
  inside : answer.size ≤ (slot.totalSize - slot.offset).toNat
  rows : answer.size % slot.frameDescription.stride.toNat = 0

theorem placesTile_placeable (places : placesTile config state slot answer now = true) :
    Placeable config slot answer := by
  unfold placesTile pullDue at places
  simp only [Bool.and_eq_true, Bool.not_eq_true', decide_eq_true_eq] at places
  have fits : answer.size ≤ pullSize config slot := places.1.2
  refine ⟨⟨places.1.1.1.1.1.1.1.1.1.1.1.1, places.1.1.1.1.1.1.1.1.1.1.1.2⟩, places.1.1.1.1.1.1.1.1.1.1.2, places.1.1.2, ?_, ?_, places.2⟩
  · exact fits.trans ((Nat.min_le_left _ _).trans (Nat.div_mul_le_self _ _))
  · exact fits.trans (Nat.min_le_right _ _)

structure Advance (slot : MediaSlot) (log : PullLog) (answer : ReadAnswer) (row count : Nat) : Prop where
  offset : slot.offset.toNat = log.stride * row
  place : log.place = some ⟨log.frames, row⟩
  size : answer.size = log.stride * count
  nonempty : 0 < count
  inside : row + count ≤ log.height
  next : (slot.offset + UInt32.ofNat answer.size).toNat = log.stride * (row + count)
  whole : slot.offset + UInt32.ofNat answer.size = slot.totalSize ↔ row + count = log.height

theorem Pulling.advance {waiting : Option Rows} (pulling : Pulling slot log waiting)
    (placeable : Placeable config slot answer) : ∃ row count, Advance slot log answer row count := by
  obtain ⟨row, offset, place⟩ := pulling.place
  have aligned := placeable.rows
  rw [← pulling.description] at aligned
  obtain ⟨count, size⟩ := Nat.dvd_of_mod_eq_zero aligned
  have short : row < log.height := (cut_tiles pulling.height place).1
  have bound := slot.totalSize.toNat_lt
  have before : log.stride * row < log.stride * log.height := Nat.mul_lt_mul_of_pos_left short pulling.stride
  have ordered : slot.offset ≤ slot.totalSize := by
    rw [UInt32.le_iff_toNat_le, offset, pulling.total]
    exact before.le
  have left : answer.size ≤ log.stride * log.height - log.stride * row := by
    have inside := placeable.inside
    rwa [UInt32.toNat_sub_of_le _ _ ordered, offset, pulling.total] at inside
  have sized : answer.size = log.stride * count := size
  have inside : row + count ≤ log.height := by
    have scaled : log.stride * (row + count) ≤ log.stride * log.height := by
      rw [Nat.mul_add]
      omega
    exact Nat.le_of_mul_le_mul_left scaled pulling.stride
  have next : (slot.offset + UInt32.ofNat answer.size).toNat = log.stride * (row + count) := by
    have value : (UInt32.ofNat answer.size).toNat = answer.size := UInt32.toNat_ofNat_of_lt' (by
      have total := pulling.total
      show answer.size < 2 ^ 32
      omega)
    rw [UInt32.toNat_add, value, offset, Nat.mul_add, ← sized, Nat.mod_eq_of_lt]
    have total := pulling.total
    omega
  refine ⟨row, count, offset, place, sized, ?_, inside, next, ?_⟩
  · rcases Nat.eq_zero_or_pos count with none | some
    · exact absurd (by rw [sized, none, Nat.mul_zero]) placeable.nonempty
    · exact some
  · rw [← UInt32.toNat_inj, next, pulling.total]
    exact ⟨Nat.eq_of_mul_eq_mul_left pulling.stride, congrArg _⟩

/-- A frame that is under way is one of the first 2³² too, since a tile of it has been read. -/
theorem Advance.cuts {row count : Nat} (advance : Advance slot log answer row count) (stride : 0 < log.stride)
    (whole : answer.size ≤ answer.bytes.length) (after : MediaSlot)
    (moved : after.offset = 0 ↔ row + count = log.height) :
    (log.read slot after answer).place =
      some ⟨(log.read slot after answer).frames, if row + count = log.height then 0 else row + count⟩ := by
  have starts : Rows.row log.stride ⟨log.frames, slot.offset.toNat, answer.bytes.take answer.size⟩ = row := by
    rw [Rows.row, advance.offset, Nat.mul_div_cancel_left _ stride]
  have covers : Rows.count log.stride ⟨log.frames, slot.offset.toNat, answer.bytes.take answer.size⟩ = count := by
    rw [Rows.count, List.length_take, Nat.min_eq_left whole, advance.size, Nat.mul_div_cancel_left _ stride]
  have fits : Tiling.place Rows.frame (Rows.row log.stride) (Rows.count log.stride) log.height ⟨log.frames, row⟩
      ⟨log.frames, slot.offset.toNat, answer.bytes.take answer.size⟩ =
      some (if row + count = log.height then ⟨log.frames + 1, 0⟩ else ⟨log.frames, row + count⟩) := by
    rw [Tiling.place, starts, covers, if_pos ⟨rfl, rfl, advance.nonempty, advance.inside⟩]
  have extended : (log.read slot after answer).place =
      log.place.bind fun before => Tiling.place Rows.frame (Rows.row log.stride) (Rows.count log.stride) log.height before
        ⟨log.frames, slot.offset.toNat, answer.bytes.take answer.size⟩ := cut_snoc _
  rw [extended, advance.place, Option.bind_some, fits, PullLog.read]
  dsimp only
  by_cases complete : row + count = log.height
  · rw [if_pos complete, if_pos complete, if_pos (moved.mpr complete)]
  · rw [if_neg complete, if_neg complete, if_neg fun zero => complete (moved.mp zero)]

theorem PullSlot.read (sound : PullSlot config slot log) (placeable : Placeable config slot answer)
    (whole : answer.size ≤ answer.bytes.length)
    (below : slot.frameDescription.y.toNat + slot.offset.toNat / slot.frameDescription.stride.toNat < 2 ^ 16)
    (frames : log.frames < 2 ^ 32) :
    PullSlot config (placeTile slot answer now) (log.read slot (placeTile slot answer now) answer) := by
  obtain ⟨waiting, passed, pulling⟩ := sound.passed
  have under := pulling placeable.pulls
  obtain ⟨row, count, advance⟩ := under.advance placeable
  have idle : waiting = none := by
    have quiet := under.pending
    rw [placeable.quiet] at quiet
    exact Option.isSome_eq_false_iff.mp quiet.symm |> Option.isNone_iff_eq_none.mp
  have moved : (placeTile slot answer now).offset = 0 ↔ row + count = log.height := by
    unfold placeTile
    dsimp only
    split
    next complete => exact ⟨fun _ => advance.whole.mp complete, fun _ => rfl⟩
    next partly =>
      refine ⟨fun zero => ?_, fun complete => absurd (advance.whole.mpr complete) partly⟩
      have next := advance.next
      rw [zero] at next
      have positive : 0 < log.stride * (row + count) := Nat.mul_pos under.stride (by have least := advance.nonempty; omega)
      have none : (0 : UInt32).toNat = 0 := rfl
      omega
  have cuts := advance.cuts under.stride whole (placeTile slot answer now) moved
  have taken : (answer.bytes.take answer.size).length = answer.size := by
    rw [List.length_take, Nat.min_eq_left whole]
  subst idle
  constructor
  case size => exact placeable.fits
  case idle => exact fun inactive => absurd (placeable.pulls.1.symm.trans inactive) Bool.noConfusion
  case placed => exact ⟨_, cuts⟩
  case bounded =>
    intro rows member
    rcases List.mem_append.mp member with old | new
    · exact sound.bounded rows old
    · rw [List.mem_singleton.mp new]
      exact frames
  case tall => exact fun _ => under.height
  case passed =>
    refine ⟨some ⟨log.frames, slot.offset.toNat, answer.bytes.take answer.size⟩, passed.accept _, fun _ => ?_⟩
    constructor
    case description => exact under.description
    case stride => exact under.stride
    case height => exact under.height
    case total => exact under.total
    case place =>
      refine ⟨_, ?_, cuts⟩
      by_cases complete : row + count = log.height
      · rw [moved.mpr complete, if_pos complete]
        rfl
      · have partly : ¬ slot.offset + UInt32.ofNat answer.size = slot.totalSize := fun is => complete (advance.whole.mp is)
        rw [if_neg complete]
        unfold placeTile
        dsimp only
        rw [if_neg partly]
        exact advance.next
    case frameId =>
      unfold PullLog.read
      dsimp only
      by_cases complete : row + count = log.height
      · rw [if_pos (moved.mpr complete)]
        unfold placeTile
        dsimp only
        rw [if_pos (advance.whole.mpr complete), under.frameId]
        exact (UInt32.ofNat_add (1 + log.frames) 1).symm
      · rw [if_neg fun zero => complete (moved.mp zero)]
        unfold placeTile
        dsimp only
        rw [if_neg fun is => complete (advance.whole.mp is)]
        exact under.frameId
    case pending => rfl
    case holds =>
      intro rows same
      cases same
      have row_is : Rows.row slot.frameDescription.stride.toNat
          ⟨log.frames, slot.offset.toNat, answer.bytes.take answer.size⟩ =
          slot.offset.toNat / slot.frameDescription.stride.toNat := rfl
      have stride_is : slot.frameDescription.stride.toNat = log.stride := by rw [PullLog.stride, under.description]
      constructor
      case description =>
        unfold placeTile tileDescription
        dsimp only
        rw [row_is, Rows.count, taken]
      case frameId => exact under.frameId
      case flags => rfl
      case size => exact taken.symm
      case data =>
        intro data present
        obtain ⟨old, _, filled⟩ := Option.map_eq_some_iff.mp present
        rw [← filled]
        exact List.take_append_of_le_length whole
      case below => exact below
      case offset =>
        show slot.offset.toNat = slot.frameDescription.stride.toNat * (slot.offset.toNat / slot.frameDescription.stride.toNat)
        rw [stride_is, advance.offset, Nat.mul_div_cancel_left _ under.stride]
      case length =>
        show (answer.bytes.take answer.size).length = slot.frameDescription.stride.toNat *
          ((answer.bytes.take answer.size).length / slot.frameDescription.stride.toNat)
        rw [taken, stride_is, advance.size, Nat.mul_div_cancel_left _ under.stride]

theorem HoldsRows.carried {rows : Rows} {data : List UInt8} (holds : HoldsRows slot rows) (present : slot.data = some data)
    (described : log.description = slot.frameDescription) (index : Fin 3) (rxWire : Vector UInt8 maxWireFrameSize)
    (small : slot.size ≤ config.latestBytes) :
    TileCarries log.description rows (copySlot slot index data rxWire.toList (dataHeaderSize + slot.size)).2.payload := by
  obtain ⟨body, payload, _, whole⟩ := copySlot_payload index data rxWire small
  have range := config.range
  have bytes := holds.data data present
  have size := holds.size
  have filled : (data.take slot.size).length = slot.size := by rw [bytes, size]
  rw [described]
  refine ⟨⟨slot.monotonicUs, slot.dropped, ?_⟩, holds.below, holds.offset, holds.length, ?_⟩
  · rw [payload, whole filled, bytes, dataHeader, holds.frameId, holds.flags, size, holds.description]
    rfl
  · rw [← size]
    omega

end slots

/-- What holds of the slots and of the point at which the task stands: a pull mirror changes at no other
task's hands, so that what was read of it before a copy is still so. -/
structure PullSound (config : MediaConfig) (noted : MediaRun × (Fin 3 → PullLog)) : Prop where
  slots : ∀ index, PullSlot config (slotOf noted.1.world.services index) (noted.2 index)
  starting : ∀ index stage header, noted.1.world.point = .starting index stage header →
    Pulls (slotOf noted.1.world.services index) → (slotOf noted.1.world.services index).pending = false
  sized : ∀ index payloadSize, noted.1.world.point = .sized index payloadSize ∨ noted.1.world.point = .checked index payloadSize →
    (slotOf noted.1.world.services index).pull = true →
      payloadSize = dataHeaderSize + (slotOf noted.1.world.services index).size
  checked : ∀ index payloadSize, noted.1.world.point = .checked index payloadSize →
    (slotOf noted.1.world.services index).pull = true →
      (slotOf noted.1.world.services index).active = true ∧ (slotOf noted.1.world.services index).pending = true

section steps
variable {config : MediaConfig} {run : MediaRun} {logs : Fin 3 → PullLog}

theorem PullSound.keeping (sound : PullSound config (run, logs)) {services : Option MediaState}
    (kept : ∀ index, Kept (slotOf run.world.services index) (slotOf services index)) :
    PullSound config (⟨⟨services, run.world.point⟩, outputs⟩, logs) where
  slots := fun index => (sound.slots index).kept (kept index)
  starting := by
    intro index stage header point pulls
    rcases kept index with same | empty
    · exact (congrArg MediaSlot.pending same).trans (sound.starting index stage header point (same ▸ pulls))
    · exact empty.2.2.1
  sized := by
    intro index payloadSize point pull
    rcases kept index with same | empty
    · rw [sound.sized index payloadSize point (same ▸ pull)]
      exact congrArg (fun slot => dataHeaderSize + slot.size) same.symm
    · exact absurd (pull.symm.trans empty.2.1) Bool.noConfusion
  checked := by
    intro index payloadSize point pull
    rcases kept index with same | empty
    · have before := sound.checked index payloadSize point (same ▸ pull)
      show (slotOf services index).active = true ∧ (slotOf services index).pending = true
      rw [same]
      exact before
    · exact absurd (pull.symm.trans empty.2.1) Bool.noConfusion

theorem PullSound.settled {services : Option MediaState} {point : MediaPoint} (quiet : point.quiet = true)
    (sizes : ∀ index payloadSize, point ≠ .sized index payloadSize)
    (slots : ∀ index, PullSlot config (slotOf services index) (logs index)) :
    PullSound config (⟨⟨services, point⟩, outputs⟩, logs) where
  slots := slots
  starting := by
    intro index stage header same
    cases same
    cases quiet
  sized := by
    intro index payloadSize same
    rcases same with same | same
    · exact absurd same (sizes index payloadSize)
    · cases same
      cases quiet
  checked := by
    intro index payloadSize same
    cases same
    cases quiet

theorem PullSound.changed (sound : PullSound config (run, logs)) (there : run.world.services = some state)
    {slot : MediaSlot} {log : PullLog} (here : PullSlot config slot log) (other : Fin 3) :
    PullSlot config ((state.setSlot index slot).media other) (Function.update logs index log other) := by
  have before := sound.slots other
  rw [there] at before
  by_cases same : other = index
  · subst same
    rw [setSlot_same, Function.update_self]
    exact here
  · rw [setSlot_other state same, Function.update_of_ne same]
    exact before

theorem PullSound.adjusted (sound : PullSound config (run, logs)) (there : run.world.services = some state)
    {slot : MediaSlot} (here : PullSlot config slot (logs index)) (other : Fin 3) :
    PullSlot config ((state.setSlot index slot).media other) (logs other) := by
  have changed : PullSlot config ((state.setSlot index slot).media other) (Function.update logs index (logs index) other) :=
    sound.changed there here other
  rwa [Function.update_eq_self] at changed

theorem PullSound.started (sound : PullSound config (run, logs))
    (found : ∀ other, state.media other = slotOf run.world.services other) {slot : MediaSlot}
    (idle : (state.media index).active = false) (size : slot.size = (state.media index).size)
    (active : slot.active = true) (pending : slot.pending = (state.media index).pending)
    (begun : slot.pull = false ∨ Begun config slot) (header : WireHeader) :
    PullSound config (⟨⟨some (state.setSlot index slot), .starting index .pending header⟩, outputs⟩,
      Function.update logs index ⟨slot.frameDescription, 0, .empty⟩) := by
  have before : ∀ other, PullSlot config (state.media other) (logs other) := by
    intro other
    rw [found]
    exact sound.slots other
  have quiet : slot.pending = false := pending.trans ((before index).idle idle)
  constructor
  case slots =>
    intro other
    show PullSlot config ((state.setSlot index slot).media other) (Function.update logs index _ other)
    by_cases here : other = index
    · subst here
      rw [setSlot_same, Function.update_self]
      exact .begun (size ▸ (before other).size) active quiet begun
    · rw [setSlot_other state here, Function.update_of_ne here]
      exact before other
  case starting =>
    intro other stage header same _
    cases same
    exact (congrArg MediaSlot.pending (setSlot_same state index slot)).trans quiet
  case sized =>
    intro other payloadSize same
    rcases same with same | same <;> cases same
  case checked =>
    intro other payloadSize same
    cases same

theorem submitSlot_pushed {slot : MediaSlot} {submission : Submission} (stored : (submitSlot slot submission).2 = EspErr.ok) :
    (submitSlot slot submission).1.active = true ∧ (submitSlot slot submission).1.pull = false ∧
      (submitSlot slot submission).1.size = submission.bytes.length := by
  unfold submitSlot at stored ⊢
  split
  next missing =>
    rw [missing] at stored
    cases stored
  next data present =>
    rw [present] at stored
    dsimp only at stored
    split
    next refused =>
      rw [if_pos refused] at stored
      cases stored
    next pushed =>
      simp only [not_or, Bool.not_eq_false, Bool.not_eq_true] at pushed
      exact ⟨pushed.1, pushed.2, rfl⟩

section sound
variable (sound : PullSound config (run, logs))
include sound

theorem PullSound.submitted {state : MediaState} (there : run.world.services = some state) {index : Fin 3}
    {channel : UInt8} {submission : Submission} (taken : Taken config state index channel submission)
    {outputs : List MediaOutput} :
    PullSound config (⟨⟨some (state.setSlot index (submitSlot (state.media index) submission).1), run.world.point⟩, outputs⟩,
      logs) := by
  have before := sound.slots index
  rw [there] at before
  have slot : PullSlot config (state.media index) (logs index) := before
  obtain ⟨active, push, size⟩ := submitSlot_pushed taken.stored
  have after : PullSlot config (submitSlot (state.media index) submission).1 (logs index) := by
    refine slot.unpulled (by rw [size]; exact taken.small) (fun inactive => ?_) fun pulls => ?_
    · exact absurd (active.symm.trans inactive) Bool.noConfusion
    · exact absurd (pulls.2.symm.trans push) Bool.noConfusion
  -- Nothing is said of the slot any more, and the others are as they were.
  have pulled : ∀ other, ((state.setSlot index (submitSlot (state.media index) submission).1).media other).pull = true →
      (state.setSlot index (submitSlot (state.media index) submission).1).media other = slotOf run.world.services other := by
    intro other pull
    by_cases here : other = index
    · subst here
      rw [setSlot_same, push] at pull
      cases pull
    · rw [setSlot_other state here, there]
      rfl
  constructor
  case slots => exact sound.adjusted there after
  case starting =>
    intro other stage header point pulls
    have same := pulled other pulls.2
    exact (congrArg MediaSlot.pending same).trans (sound.starting other stage header point (same ▸ pulls))
  case sized =>
    intro other payloadSize point pull
    have same := pulled other pull
    rw [sound.sized other payloadSize point (same ▸ pull)]
    exact congrArg (fun slot => dataHeaderSize + slot.size) same.symm
  case checked =>
    intro other payloadSize point pull
    have same := pulled other pull
    have before := sound.checked other payloadSize point (same ▸ pull)
    show ((state.setSlot index _).media other).active = true ∧ ((state.setSlot index _).media other).pending = true
    rw [same]
    exact before

theorem PullSound.settledStart {stage : StartStage} {header : WireHeader} (there : run.world.services = some state)
    (point : run.world.point = .starting index stage header) :
    PullSound config (⟨⟨(settleStart state index stage header).services, (settleStart state index stage header).point⟩,
      outputs⟩, logs) := by
  have before := sound.slots index
  rw [there] at before
  have slot : PullSlot config (state.media index) (logs index) := before
  have quiet : Pulls (state.media index) → (state.media index).pending = false := by
    intro pulls
    have waiting := sound.starting index stage header point
    rw [there] at waiting
    exact waiting pulls
  cases stage with
  | pending =>
    have after : PullSlot config { state.media index with pending := false } (logs index) := by
      by_cases pulls : Pulls (state.media index)
      · have same : { state.media index with pending := false } = state.media index := by
          rw [← quiet pulls]
        rw [same]
        exact slot
      · exact slot.unpulled slot.size (fun _ => rfl) pulls
    constructor
    case slots => exact sound.adjusted there after
    case starting =>
      intro other stage header same _
      cases same
      exact congrArg MediaSlot.pending (setSlot_same state index { state.media index with pending := false })
    case sized =>
      intro other payloadSize same
      rcases same with same | same <;> cases same
    case checked =>
      intro other payloadSize same
      cases same
  | dropped =>
    constructor
    case slots => exact sound.adjusted there (slot.adjusted (state.media index).credit 0)
    case starting =>
      intro other stage header same pulls
      cases same
      have left : slotOf (settleStart state index .dropped header).services index = { state.media index with dropped := 0 } :=
        setSlot_same state index { state.media index with dropped := 0 }
      have still : Pulls (state.media index) := by
        have kept : Pulls { state.media index with dropped := 0 } := left ▸ pulls
        exact kept
      exact (congrArg MediaSlot.pending left).trans (quiet still)
    case sized =>
      intro other payloadSize same
      rcases same with same | same <;> cases same
    case checked =>
      intro other payloadSize same
      cases same
  | credit =>
    have slots : ∀ other, PullSlot config (slotOf (settleStart state index .credit header).services other) (logs other) :=
      sound.adjusted there (slot.adjusted 0 (state.media index).dropped)
    exact .settled rfl (by intro _ _ same; cases same) slots

theorem PullSound.looked {state : MediaState} {index : Fin 3} {answer : ReadAnswer} {now : Nat}
    (there : run.world.services = some state) (point : run.world.point = .looking index)
    (well : PullsWell config (run, logs) (.look answer now)) {outputs : List MediaOutput} :
    PullSound config (⟨⟨(lookSlot config state index answer now).services, (lookSlot config state index answer now).point⟩,
      outputs⟩, notePull logs run (.look answer now)
        ⟨⟨(lookSlot config state index answer now).services, (lookSlot config state index answer now).point⟩, outputs⟩) := by
  have before := sound.slots index
  rw [there] at before
  have slot : PullSlot config (state.media index) (logs index) := before
  obtain ⟨prepared, made⟩ : ∃ prepared, prepared = if index = 0 then preparePullScreen config state (state.media 0) answer now
    else (state.media index, []) := ⟨_, rfl⟩
  have looked : lookSlot config state index answer now =
      ⟨some (state.setSlot index prepared.1), .sized index (dataHeaderSize + prepared.1.size), prepared.2⟩ := by
    rw [lookSlot, made]
  have pointed : ∀ after logs, (∀ other, PullSlot config ((state.setSlot index prepared.1).media other) (logs other)) →
      after = (⟨⟨some (state.setSlot index prepared.1), .sized index (dataHeaderSize + prepared.1.size)⟩, outputs⟩ : MediaRun) →
      PullSound config (after, logs) := by
    intro after logs slots same
    subst same
    constructor
    case slots => exact slots
    case starting =>
      intro other stage header same
      cases same
    case sized =>
      intro other payloadSize same _
      rcases same with same | same
      · cases same
        exact congrArg (fun slot => dataHeaderSize + slot.size) (setSlot_same state index prepared.1).symm
      · cases same
    case checked =>
      intro other payloadSize same
      cases same
  have here : slotOf (some state) index = state.media index := rfl
  have left : slotOf (some (state.setSlot index prepared.1)) index = prepared.1 := setSlot_same state index prepared.1
  unfold notePull
  dsimp only
  rw [looked, point, there]
  dsimp only
  rw [left, here]
  refine pointed _ _ ?_ rfl
  -- The slot is read, or left with other bytes in its buffer, or left alone.
  have outcome : (placesTile config state (state.media index) answer now = true ∧
        prepared.1 = placeTile (state.media index) answer now) ∨
      prepared.1 = state.media index ∨
      (state.media index).pending = false ∧ ∃ data, prepared.1 = { state.media index with data := data } := by
    by_cases first : index = 0
    · rw [made, if_pos first, first]
      rcases preparePullScreen_cases state (state.media 0) answer now with placed | ⟨_, kept⟩
      · exact .inl placed
      · exact .inr kept
    · rw [made, if_neg first]
      exact .inr (.inl rfl)
  rcases outcome with ⟨places, placed⟩ | same | ⟨quiet, data, written⟩
  · have placeable := placesTile_placeable places
    unfold PullsWell at well
    dsimp only at well
    rw [point, there] at well
    obtain ⟨whole, below, frames⟩ := well places
    rw [placed, if_pos ⟨placeable.quiet, rfl⟩]
    exact sound.changed there (slot.read placeable whole below frames)
  · have unread : ¬ ((state.media index).pending = false ∧ (state.media index).pending = true) :=
      fun both => Bool.noConfusion (both.1.symm.trans both.2)
    rw [same, if_neg unread]
    exact sound.adjusted there slot
  · have unread : ¬ ((state.media index).pending = false ∧ (state.media index).pending = true) :=
      fun both => Bool.noConfusion (both.1.symm.trans both.2)
    rw [written, if_neg unread]
    exact sound.adjusted there (slot.written quiet data)

theorem PullSound.copied {payloadSize : Nat} {data : List UInt8} (there : run.world.services = some state)
    (point : run.world.point = .checked index payloadSize) (present : (state.media index).data = some data)
    (rxWire : Vector UInt8 maxWireFrameSize) {copied : MediaSlot × Reply}
    (made : copied = copySlot (state.media index) index data rxWire.toList payloadSize) :
    PullSound config (⟨⟨some (state.setSlot index copied.1), .resting⟩, outputs⟩,
      if (state.media index).pull then
        Function.update logs index { logs index with log := (logs index).log.emit copied.2.payload }
      else logs) := by
  have before := sound.slots index
  rw [there] at before
  have slot : PullSlot config (state.media index) (logs index) := before
  refine .settled rfl (by intro _ _ same; cases same) fun other => ?_
  show PullSlot config ((state.setSlot index copied.1).media other) _
  cases pull : (state.media index).pull with
  | true =>
    have size := sound.sized index payloadSize (.inr point)
    have checked := sound.checked index payloadSize point
    rw [there] at size checked
    obtain ⟨active, pending⟩ := checked pull
    have read : payloadSize = dataHeaderSize + (state.media index).size := size pull
    subst read
    obtain ⟨waiting, passed, pulling⟩ := slot.passed
    have under := pulling ⟨active, pull⟩
    obtain ⟨rows, waits⟩ := Option.isSome_iff_exists.mp (under.pending.symm.trans pending)
    have carries := (under.holds rows waits).carried present under.description index rxWire slot.size
    rw [← made] at carries
    rw [waits] at passed
    have emitted := passed.emit carries
    rw [if_pos rfl]
    refine sound.changed there ?_ other
    rw [made] at emitted ⊢
    refine ⟨slot.size, fun _ => rfl, slot.placed, slot.bounded, slot.tall, none, emitted, fun _ => ?_⟩
    exact ⟨under.description, under.stride, under.height, under.total, under.place, under.frameId, rfl,
      fun rows none => by cases none⟩
  | false =>
    rw [if_neg Bool.false_ne_true]
    have unpulled : ¬ Pulls copied.1 := by
      rw [made]
      exact fun pulls => Bool.noConfusion (pulls.2.symm.trans pull)
    refine sound.adjusted there (slot.unpulled ?_ ?_ unpulled) other
    · rw [made]
      exact slot.size
    · rw [made]
      exact fun _ => rfl

end sound

theorem notePull_call (call : event.isCall = true) (after : MediaRun) :
    notePull logs run event after = logs := by
  cases event with
  | frame | credit | settle | poll | look | check | copy | endSession | endSlot => cases call
  | _ => rfl

theorem notePull_passed (passes : event.passes = true) {after : MediaRun} (quiet : after.world.point.quiet = true) :
    notePull logs run event after = logs := by
  cases event with
  | frame frame answers =>
    unfold notePull
    dsimp only
    split
    next point =>
      rw [point] at quiet
      cases quiet
    next => rfl
  | look | copy => cases passes
  | _ => rfl

theorem PullSound.step (sound : PullSound config (run, logs)) {move : MediaMove}
    (well : PullsWell config (run, logs) event) (moved : SlotsMoved config run.world event move) :
    PullSound config (⟨⟨move.services, move.point⟩, run.outputs ++ move.outputs⟩,
      notePull logs run event ⟨⟨move.services, move.point⟩, run.outputs ++ move.outputs⟩) := by
  cases moved with
  | called call refused kept held =>
    rw [notePull_call call]
    exact sound.keeping kept
  | submitted there named accepted taken => exact sound.submitted there taken
  | @passed _ after passes settled between silent kept =>
    rw [notePull_passed passes (between_quiet between)]
    refine .settled (between_quiet between) (fun index payloadSize same => ?_) fun index => (sound.slots index).kept (kept index)
    rw [same] at between
    cases between
  | started resting found idle size active pending begun frame answers silent =>
    unfold notePull
    dsimp only [slotOf]
    rw [setSlot_same]
    exact sound.started found idle size active pending begun frame.header
  | @credited state index there resting channel amount credit =>
    have before := sound.slots index
    rw [there] at before
    have slot : PullSlot config (state.media index) (logs index) := before
    exact .settled rfl (by intro _ _ same; cases same) (sound.adjusted there (slot.adjusted credit (state.media index).dropped))
  | uncredited resting channel amount => exact .settled rfl (by intro _ _ same; cases same) sound.slots
  | settled there point => exact sound.settledStart there point
  | looked there point answer now => exact sound.looked there point well
  | @checked state index payloadSize there point sends =>
    unfold sendable at sends
    simp only [Bool.and_eq_true] at sends
    have slots := sound.slots
    have sizes := sound.sized index payloadSize (.inl point)
    rw [there] at slots sizes
    constructor
    case slots => exact slots
    case starting =>
      intro other stage header same
      cases same
    case sized =>
      intro other size same
      rcases same with same | same
      · cases same
      · cases same
        exact sizes
    case checked =>
      intro other size same _
      cases same
      exact ⟨sends.1.1.1, sends.1.1.2⟩
  | @copied state index payloadSize data there point present rxWire =>
    unfold notePull
    dsimp only
    rw [point, there]
    dsimp only [MediaMove.done, slotOf]
    rw [List.drop_left]
    exact sound.copied there point present rxWire rfl

end steps

section tiles
variable {log : PullLog} {rows : Rows} {payload : List UInt8}

theorem TileCarries.shows {description : MediaDesc} (carries : TileCarries description rows payload) :
    tileId payload = (1 + rows.frame) % 2 ^ 32 ∧
      tileY payload = description.y.toNat + rows.row description.stride.toNat ∧
      tileHeight payload = rows.count description.stride.toNat := by
  obtain ⟨now, dropped, made⟩ := carries.made
  subst made
  have unpacked := dataPayload_unpacked now (UInt32.ofNat (1 + rows.frame)) dropped 0 (UInt16.ofNat rows.bytes.length)
    { description with
      y := description.y + UInt16.ofNat (rows.row description.stride.toNat)
      height := UInt16.ofNat (rows.count description.stride.toNat) } rows.bytes
  have below := carries.below
  have small := carries.small
  refine ⟨unpacked.frameId.trans UInt32.toNat_ofNat', unpacked.y.trans ?_, unpacked.height.trans ?_⟩
  · have fits : rows.row description.stride.toNat < 2 ^ 16 := by omega
    have value : (UInt16.ofNat (rows.row description.stride.toNat)).toNat = rows.row description.stride.toNat :=
      UInt16.toNat_ofNat_of_lt' fits
    show (description.y + UInt16.ofNat (rows.row description.stride.toNat)).toNat = _
    rw [UInt16.toNat_add, value, Nat.mod_eq_of_lt below]
  · refine UInt16.toNat_ofNat_of_lt' (Nat.lt_of_le_of_lt ?_ small)
    exact Nat.div_le_self _ _

theorem PullSlot.integrity {config : MediaConfig} {slot : MediaSlot} (sound : PullSlot config slot log) : PullIntegrity log := by
  obtain ⟨waiting, passed, _⟩ := sound.passed
  refine ⟨?_, passed.inOrder⟩
  obtain ⟨earlier, accepted, each⟩ := passed
  obtain ⟨place, placed⟩ := sound.placed
  have cutting : cut Rows.frame (Rows.row log.stride) (Rows.count log.stride) log.height (earlier ++ waiting.toList) =
      some place := accepted ▸ placed
  obtain ⟨before, first⟩ := cut_append cutting
  by_cases none : log.log.accepted = []
  · have empty : earlier = [] := List.append_eq_nil_iff.mp (accepted.symm.trans none) |>.1
    have silent : log.log.emitted = [] := by
      rw [empty] at each
      exact List.forall₂_nil_left_iff.mp each
    refine ⟨⟨0, 0⟩, Nat.zero_le _, fun frame _ => ?_⟩
    have nothing : log.tiles frame = [] := by rw [PullLog.tiles, silent]; rfl
    have reached : covered log.height ⟨0, 0⟩ frame = 0 := by
      unfold covered
      split
      next below => exact absurd below (Nat.not_lt_zero _)
      next => split <;> rfl
    rw [nothing, reached]
    rfl
  · obtain ⟨short, tiles⟩ := cut_tiles (sound.tall none) first
    refine ⟨before, short.le, fun frame small => ?_⟩
    have bounded : ∀ rows ∈ earlier, rows.frame < 2 ^ 32 := by
      intro rows member
      exact sound.bounded rows (by rw [accepted]; exact List.mem_append_left _ member)
    have both := (List.forall₂_and_left earlier log.log.emitted).mpr ⟨bounded, each⟩
    have shown := List.Forall₂.imp (fun rows payload (is : rows.frame < 2 ^ 32 ∧ TileCarries log.description rows payload) =>
      And.intro is.1 is.2.shows) both
    have filtered := List.rel_filter (p := fun rows : Rows => rows.frame = frame)
      (q := fun payload => tileId payload = (1 + frame) % 2 ^ 32) (fun rows payload is => by
        obtain ⟨inside, id, _⟩ := is
        simp only [decide_eq_true_eq, id]
        omega) shown
    exact (tiles frame).shifted (List.Forall₂.imp (fun rows payload is => is.2.2) filtered)

end tiles

section runs
variable {config : MediaConfig}

theorem PullSlot.zero : PullSlot config .zero .empty where
  size := Nat.zero_le _
  idle := fun _ => rfl
  placed := ⟨_, cut_nil⟩
  bounded := by
    intro rows member
    cases member
  tall := fun some => absurd rfl some
  passed := ⟨none, .empty, fun pulls => Bool.noConfusion pulls.1⟩

theorem PullSound.initial : PullSound config (⟨.initial, []⟩, fun _ => .empty) where
  slots := fun _ => .zero
  starting := by
    intro index stage header same
    cases same
  sized := by
    intro index payloadSize same
    rcases same with same | same <;> cases same
  checked := by
    intro index payloadSize same
    cases same

theorem pullSound_invariant : Invariant ((pullSystem config).guarded (PullsWell config)) (PullSound config) where
  start := by
    rintro ⟨run, logs⟩ ⟨started, empty⟩
    cases started
    cases empty
    exact .initial
  step := by
    rintro ⟨run, logs⟩ event ⟨after, more⟩ sound ⟨well, step, noted⟩
    obtain ⟨move, stepped, rfl⟩ := mediaSystem_stepped step
    obtain rfl : more = notePull logs run event ⟨⟨move.services, move.point⟩, run.outputs ++ move.outputs⟩ := noted
    exact sound.step well (stepped_moved stepped)

/-- Where every tile starts above row 2¹⁶, in one of the first 2³² frames of its stream, and the backend
writes what it reports, the tiles of each frame cover its rows in order and carry their bytes. -/
theorem pull_integrity {noted : MediaRun × (Fin 3 → PullLog)}
    (reached : Reachable ((pullSystem config).guarded (PullsWell config)) noted) (index : Fin 3) :
    PullIntegrity (noted.2 index) :=
  ((pullSound_invariant.reachable reached).slots index).integrity

end runs

instance (config : MediaConfig) (noted : MediaRun × (Fin 3 → PullLog)) (event : MediaEvent) :
    Decidable (PullsWell config noted event) := by
  unfold PullsWell
  repeat' (first | infer_instance | split)

end EspIris.Device.Media
