import EspIris.Device.MediaPull
import EspIris.Gateway.ScreenFrame

/-! A pull mirror from the backend of the device to a frame that the hub returns: tiles may be lost in the
queue between them, and the hub may come to the stream at any tile. -/

namespace EspIris.Link
open Codec.Host (Frame)
open Bytes Tiling Machine
open Gateway (MediaEvent FrameDescription DeviceSession handleMedia decodeMediaDescription nextCompleteScreenFrame ofStream
  assembledData)
open Device.Media (MediaAnswers MediaConfig MediaDesc MediaRun PullIntegrity PullLog PullsWell mediaDescEncode pullSystem
  screenRequest smallestConfig tileId)

def Heard (payload : List UInt8) (event : MediaEvent) : Prop :=
  ∃ session frame, frame.payload = payload ∧ .media event ∈ (handleMedia session frame).effects

section heard
variable {payload : List UInt8} {event : MediaEvent}

theorem Heard.fields (heard : Heard payload event) : event.frameId = field payload 8 4 ∧
    event.description = [field payload 20 2, field payload 22 2, field payload 24 2, field payload 26 2,
      field payload 28 4, field payload 32 2, field payload 34 2] := by
  obtain ⟨session, frame, rfl, sent⟩ := heard
  unfold handleMedia at sent
  dsimp only at sent
  split at sent
  next => cases sent
  split at sent
  next => cases sent
  rcases List.mem_cons.mp sent with same | granted
  · cases same
    exact ⟨rfl, rfl⟩
  · split at granted
    next =>
      unfold Gateway.grantMediaCredit Gateway.sendCredit at granted
      simp only [List.mem_cons, reduceCtorEq, List.not_mem_nil, or_self] at granted
    next => cases granted

theorem Heard.frameId (heard : Heard payload event) : event.frameId = tileId payload := heard.fields.1

theorem Heard.y (heard : Heard payload event) : Gateway.tileY event = Device.Media.tileY payload := by
  unfold Gateway.tileY
  rw [heard.fields.2]
  rfl

theorem Heard.height (heard : Heard payload event) : Gateway.tileHeight event = Device.Media.tileHeight payload := by
  unfold Gateway.tileHeight
  rw [heard.fields.2]
  rfl

/-- The description that the host reads is the one that the device sent. -/
theorem decodeMediaDescription_encode (description : MediaDesc) (more : List UInt8) :
    decodeMediaDescription (mediaDescEncode description ++ more) = .ok ⟨description.x.toNat, description.y.toNat,
      description.width.toNat, description.height.toNat, description.stride.toNat, description.format.toNat,
      description.quality.toNat⟩ := by
  have unpacked := Device.Media.dataPayload_unpacked 0 0 0 0 0 description more
  have moved : ∀ offset width, field (mediaDescEncode description ++ more) offset width =
      field (Device.Media.dataPayload 0 0 0 0 0 description more) (20 + offset) width := by
    intro offset width
    unfold Device.Media.dataPayload
    rw [List.append_assoc]
    refine ((field_skip _ _ _ _ (Nat.le_add_right 20 offset)).trans ?_).symm
    exact congrArg (field _ · width) (Nat.add_sub_cancel_left 20 offset)
  have long : ¬ (mediaDescEncode description ++ more).length < 16 := by
    rw [List.length_append]
    exact Nat.not_lt.mpr (Nat.le_add_right 16 more.length)
  unfold decodeMediaDescription
  rw [if_neg long, moved, moved, moved, moved, moved, moved, moved]
  rw [unpacked.x, unpacked.y, unpacked.width, unpacked.height, unpacked.stride, unpacked.format, unpacked.quality]

theorem heard_tiles {emitted : List (List UInt8)} {events : List MediaEvent} (heard : List.Forall₂ Heard emitted events)
    {frameId first last : Nat} (tiles : Tiles Device.Media.tileY Device.Media.tileHeight first
      (emitted.filter fun payload => tileId payload = frameId) last) :
    Tiles Gateway.tileY Gateway.tileHeight first (events.filter fun event => event.frameId = frameId) last := by
  have filtered := List.rel_filter (p := fun payload => tileId payload = frameId)
    (q := fun event : MediaEvent => event.frameId = frameId) (fun payload event is => by
      simp only [decide_eq_true_eq, is.frameId]) heard
  have shown := List.Forall₂.imp (fun payload event (is : Heard payload event) =>
    And.intro (is.y.trans (Nat.zero_add _).symm) is.height) filtered
  have shifted := tiles.shifted shown
  rwa [Nat.zero_add, Nat.zero_add] at shifted

end heard

/-- The tiles of a mirror cover its frames, and a raw frame that the hub puts together from those that reach
it is all the tiles of one of them. -/
structure MirrorIntegrity (log : PullLog) : Prop where
  tiled : PullIntegrity log
  whole : ∀ full more events queue streamId data,
    decodeMediaDescription (mediaDescEncode log.description ++ more) = .ok full →
    List.Forall₂ Heard log.log.emitted events → (queue.filter (ofStream streamId)).Sublist events →
    nextCompleteScreenFrame full streamId queue = .frame data →
    ∃ frameId, data = assembledData (events.filter fun event => event.frameId = frameId) ∧
      Tiles Gateway.tileY Gateway.tileHeight full.y (events.filter fun event => event.frameId = frameId)
        (full.y + full.height) ∧
      data.length = full.stride * full.height

theorem covered_le {height : Nat} {place : Place} (inside : place.reached ≤ height) (frame : Nat) :
    covered height place frame ≤ height := by
  unfold covered
  split
  next => exact le_rfl
  split
  next => exact inside
  next => exact Nat.zero_le _

theorem MirrorIntegrity.ofTiled {log : PullLog} (tiled : PullIntegrity log) : MirrorIntegrity log where
  tiled := tiled
  whole := by
    intro full more events queue streamId data described heard lost returned
    rw [decodeMediaDescription_encode] at described
    obtain rfl := Except.ok.inj described
    refine Gateway.nextCompleteScreenFrame_whole (fun frameId => ?_) lost returned
    obtain ⟨place, inside, partitioned⟩ := tiled.partitioned
    by_cases small : frameId < 2 ^ 32
    · -- The ids wrap: id 0 is that of the last of the 2³² frames.
      have id : (1 + (frameId + (2 ^ 32 - 1)) % 2 ^ 32) % 2 ^ 32 = frameId := by omega
      have tiles := partitioned ((frameId + (2 ^ 32 - 1)) % 2 ^ 32) (Nat.mod_lt _ (by decide))
      unfold PullLog.tiles at tiles
      rw [id] at tiles
      exact ⟨_, Nat.add_le_add_left (covered_le inside _) _, heard_tiles heard tiles⟩
    · have none : (log.log.emitted.filter fun payload => tileId payload = frameId) = [] := by
        rw [List.filter_eq_nil_iff]
        intro payload _ is
        have bound := field_lt payload 8 4
        exact small (of_decide_eq_true is ▸ bound)
      refine ⟨log.description.y.toNat, Nat.le_add_right _ _, heard_tiles heard ?_⟩
      rw [none]
      rfl

def twoRows (y : UInt16) : MediaAnswers where
  allocated := true
  buffer := some (List.replicate 256 0)
  begins := ⟨EspErr.ok, ⟨0, y, 100, 2, 200, Device.Media.pixelFormatRgb565, 0⟩, 400⟩
  reads := ⟨EspErr.ok, [], 0⟩
  held := false

def pulledRow (value : UInt8) : List Device.Media.MediaEvent :=
  [.poll, .look ⟨EspErr.ok, List.replicate 200 value, 200⟩ 0, .check, .copy (.replicate _ 0)]

def pulledFrame (y : UInt16) : List Device.Media.MediaEvent :=
  [.register ⟨1, true⟩ true,
    .frame (screenRequest MediaType.mirrorStart (List.replicate 16 0 ++ [10, 0, 0, 0])) (twoRows y), .settle,
    .settle, .settle, .credit Channel.screen 1000] ++ pulledRow 1 ++ pulledRow 2

section runs
variable {config : MediaConfig}

/-- Where every tile starts above row 2¹⁶, in one of the first 2³² frames of its stream, and the backend
writes what it reports, the mirror is whole, whatever tiles the host lost. -/
theorem mirror_integrity {noted : MediaRun × (Fin 3 → PullLog)}
    (reached : Reachable ((pullSystem config).guarded (PullsWell config)) noted) (index : Fin 3) :
    MirrorIntegrity (noted.2 index) :=
  .ofTiled (Device.Media.pull_integrity reached index)

/-- A frame in two tiles. -/
theorem mirror_integrity_two : ∃ noted : MediaRun × (Fin 3 → PullLog), MirrorIntegrity (noted.2 0) ∧ (noted.2 0).log.emitted.length = 2 ∧
    (noted.2 0).frames = 1 := by
  obtain ⟨noted, run, checked⟩ : ∃ noted, Run ((pullSystem smallestConfig).guarded (PullsWell smallestConfig))
      (⟨.initial, []⟩, fun _ => .empty) (pulledFrame 0) noted ∧
      decide ((noted.2 0).log.emitted.length = 2 ∧ (noted.2 0).frames = 1) = true := by
    unfold pullSystem Device.Media.mediaSystem
    rw [System.recorded_ofPartial]
    exact Run.of_guarded_check (by decide +kernel)
  have start : (pullSystem smallestConfig).start (⟨.initial, []⟩, fun _ => .empty) := ⟨rfl, rfl⟩
  exact ⟨noted, mirror_integrity ⟨_, _, start, run⟩ 0, of_decide_eq_true checked⟩

/-- The second row of a frame that begins in the last row is sent as row 0. -/
theorem mirror_row_wraps : ¬ ∀ noted, Reachable (pullSystem smallestConfig) noted → ∀ index, MirrorIntegrity (noted.2 index) := by
  intro integrity
  obtain ⟨noted, run, checked⟩ : ∃ noted, Run (pullSystem smallestConfig) (⟨.initial, []⟩, fun _ => .empty)
      (pulledFrame 65535) noted ∧
      decide ((noted.2 0).description.y = 65535 ∧ ((noted.2 0).tiles 0).map Device.Media.tileY = [65535, 0]) = true := by
    unfold pullSystem Device.Media.mediaSystem
    rw [System.recorded_ofPartial]
    exact Run.of_check (by decide +kernel)
  obtain ⟨first, rows⟩ := of_decide_eq_true checked
  have start : (pullSystem smallestConfig).start (⟨.initial, []⟩, fun _ => .empty) := ⟨rfl, rfl⟩
  obtain ⟨place, _, partitioned⟩ := (integrity noted ⟨_, _, start, run⟩ 0).tiled.partitioned
  have tiles := partitioned 0 (by decide)
  obtain ⟨last, member, low⟩ : ∃ payload ∈ (noted.2 0).tiles 0, Device.Media.tileY payload = 0 := by
    refine List.mem_map.mp ?_
    rw [rows]
    exact List.mem_cons_of_mem _ List.mem_cons_self
  have after := tiles.after last member
  rw [low, first] at after
  exact absurd after (by decide)

end runs

end EspIris.Link
