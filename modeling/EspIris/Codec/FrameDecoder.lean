import EspIris.Codec.Agreement
import EspIris.Lib.Framing

/-! The stream decoder of the gateway, `FrameDecoder` of `protocol.py`. However its input is cut,
it decodes the segments between the delimiters and counts those that it drops. -/

namespace EspIris.Codec.Host
open Framing

/-- `FrameDecoder`. -/
structure FrameDecoder where
  encoded : List UInt8
  discarding : Bool
  invalidFrames : Nat

def FrameDecoder.new : FrameDecoder := ⟨[], false, 0⟩

/-- One turn of the loop of `feed`, with the frame it appends. -/
def feedByte (decoder : FrameDecoder) (value : UInt8) : FrameDecoder × List Frame :=
  if value = 0 then
    if decoder.discarding then ({ decoder with discarding := false, encoded := [] }, [])
    else if decoder.encoded = [] then (decoder, [])
    else
      match decodeFrame decoder.encoded with
      | .ok frame => ({ decoder with encoded := [] }, [frame])
      | .error _ => ({ decoder with invalidFrames := decoder.invalidFrames + 1, encoded := [] }, [])
  else if decoder.discarding then (decoder, [])
  else if decoder.encoded.length ≥ maxWireFrame - 1 then (⟨[], true, decoder.invalidFrames + 1⟩, [])
  else ({ decoder with encoded := decoder.encoded ++ [value] }, [])

def feed (decoder : FrameDecoder) : List UInt8 → FrameDecoder × List Frame
  | [] => (decoder, [])
  | value :: data =>
    let fed := feedByte decoder value
    let rest := feed fed.1 data
    (rest.1, fed.2 ++ rest.2)

/-- Calls of `feed` one after the other. -/
def feedAll (decoder : FrameDecoder) : List (List UInt8) → FrameDecoder × List Frame
  | [] => (decoder, [])
  | data :: chunks =>
    let fed := feed decoder data
    let rest := feedAll fed.1 chunks
    (rest.1, fed.2 ++ rest.2)

theorem feed_append (decoder : FrameDecoder) (first second : List UInt8) :
    feed decoder (first ++ second) =
      ((feed (feed decoder first).1 second).1, (feed decoder first).2 ++ (feed (feed decoder first).1 second).2) := by
  induction first generalizing decoder with
  | nil => rfl
  | cons value first ih => simp only [List.cons_append, feed, ih, List.append_assoc]

theorem feedAll_flatten (decoder : FrameDecoder) (chunks : List (List UInt8)) :
    feedAll decoder chunks = feed decoder chunks.flatten := by
  induction chunks generalizing decoder with
  | nil => rfl
  | cons data chunks ih => rw [List.flatten_cons, feed_append, feedAll, ih]

def segmentLimit : Nat := maxWireFrame - 1

def segmentFrame (segment : List UInt8) : Option Frame := (decodeFrame segment).toOption

def invalidSegments (stream : List UInt8) : Nat :=
  (stream.splitOn 0).countP (fun segment => decide (segmentLimit < segment.length)) +
    (segments segmentLimit 0 stream).countP fun segment => (segmentFrame segment).isNone

def FrameDecoder.after (stream : List UInt8) : FrameDecoder where
  encoded := (Receiver.over segmentLimit (unfinished 0 stream)).held
  discarding := (Receiver.over segmentLimit (unfinished 0 stream)).discarding
  invalidFrames := invalidSegments stream

theorem invalidSegments_delimiter (stream : List UInt8) :
    invalidSegments (stream ++ [0]) = invalidSegments stream +
      if unfinished 0 stream ≠ [] ∧ (unfinished 0 stream).length ≤ segmentLimit ∧
        (segmentFrame (unfinished 0 stream)).isNone then 1 else 0 := by
  unfold invalidSegments
  rw [splitOn_delimiter, segments_delimiter, List.countP_append, List.countP_append]
  have nothing : List.countP (fun segment : List UInt8 => decide (segmentLimit < segment.length)) [[]] = 0 := rfl
  rw [nothing]
  by_cases kept : unfinished 0 stream ≠ [] ∧ (unfinished 0 stream).length ≤ segmentLimit
  · by_cases rejected : (segmentFrame (unfinished 0 stream)).isNone
    · simp only [kept, rejected, List.countP_singleton, and_self, ne_eq, not_false_eq_true, if_true]
      omega
    · simp only [kept, rejected, List.countP_singleton, and_false, ne_eq, not_false_eq_true, and_self, if_true,
        Bool.false_eq_true, if_false]
      omega
  · rw [if_neg kept, if_neg fun all => kept ⟨all.1, all.2.1⟩, List.countP_nil]
    omega

theorem invalidSegments_other (stream : List UInt8) {value : UInt8} (other : value ≠ 0) :
    invalidSegments (stream ++ [value]) =
      invalidSegments stream + if (unfinished 0 stream).length = segmentLimit then 1 else 0 := by
  have grown : (unfinished 0 stream ++ [value]).length = (unfinished 0 stream).length + 1 := by simp
  have pieces := splitOn_pieces 0 stream
  unfold invalidSegments
  rw [segments_other segmentLimit 0 stream other, splitOn_other 0 stream other]
  conv_rhs => rw [pieces]
  simp only [List.countP_append, List.countP_singleton, grown, decide_eq_true_eq]
  grind

theorem feedByte_after (stream : List UInt8) (value : UInt8) :
    (feedByte (.after stream) value).1 = .after (stream ++ [value]) ∧
      (segments segmentLimit 0 (stream ++ [value])).filterMap segmentFrame =
        (segments segmentLimit 0 stream).filterMap segmentFrame ++ (feedByte (.after stream) value).2 := by
  unfold feedByte
  by_cases zero : value = 0
  · rw [if_pos zero, zero, segments_delimiter, List.filterMap_append]
    unfold FrameDecoder.after
    rw [invalidSegments_delimiter, unfinished_delimiter]
    by_cases short : (unfinished 0 stream).length ≤ segmentLimit
    · by_cases empty : unfinished 0 stream = []
      · simp [Receiver.over, empty]
      · cases decoded : decodeFrame (unfinished 0 stream) <;>
          simp [Receiver.over, short, empty, decoded, segmentFrame, Except.toOption, Nat.not_lt.mpr short]
    · simp [Receiver.over, short, Nat.lt_of_not_le short]
  · rw [if_neg zero, segments_other segmentLimit 0 stream zero]
    unfold FrameDecoder.after
    rw [invalidSegments_other stream zero, unfinished_other 0 stream zero]
    have limit : maxWireFrame - 1 = segmentLimit := rfl
    rw [limit]
    by_cases long : segmentLimit < (unfinished 0 stream).length
    · have isOver : segmentLimit < (unfinished 0 stream).length + 1 := Nat.lt_succ_of_lt long
      simp [Receiver.over, long, isOver, Nat.not_le.mpr long, Nat.not_le.mpr isOver, Nat.ne_of_gt long]
    · have short : (unfinished 0 stream).length ≤ segmentLimit := Nat.not_lt.mp long
      by_cases full : (unfinished 0 stream).length = segmentLimit
      · simp [Receiver.over, full]
      · have room : (unfinished 0 stream).length < segmentLimit := Nat.lt_of_le_of_ne short full
        simp [Receiver.over, short, full, long, Nat.not_lt.mpr room, Nat.not_le.mpr room]

/-- The decoder holds what is unfinished, has counted what it dropped, and has decoded the rest. -/
theorem feed_segments (stream : List UInt8) :
    feed .new stream = (.after stream, (segments segmentLimit 0 stream).filterMap segmentFrame) := by
  induction stream using List.reverseRecOn with
  | nil => rfl
  | append_singleton stream value ih =>
    obtain ⟨decoder, frames⟩ := feedByte_after stream value
    rw [feed_append, ih]
    simp only [feed, decoder, frames, List.append_nil]

theorem wireUint_ok {name : String} {value : Int} {bits result : Nat} (ok : wireUint name value bits = .ok result) :
    value = result ∧ result < 2 ^ bits := by
  unfold wireUint at ok
  split at ok
  next range =>
    cases ok
    have nonnegative := Int.toNat_of_nonneg range.1
    refine ⟨nonnegative.symm, ?_⟩
    have bounded := range.2
    rw [← nonnegative] at bounded
    exact_mod_cast bounded
  next => contradiction

theorem bind_ok {α β : Type} {first : Except ProtocolError α} {next : α → Except ProtocolError β} {result : β}
    (ok : (first >>= next) = .ok result) : ∃ value, first = .ok value ∧ next value = .ok result := by
  cases first with
  | error reason => contradiction
  | ok value => exact ⟨value, rfl, ok⟩

theorem unless_thrown {α : Type} {condition : Prop} [Decidable condition] {reason : ProtocolError}
    {next : PUnit → Except ProtocolError α} {result : α}
    (ok : (if condition then throw reason >>= next else next ⟨⟩) = .ok result) :
    ¬ condition ∧ next ⟨⟩ = .ok result := by
  split at ok
  · contradiction
  next fails => exact ⟨fails, ok⟩

theorem encodeFrame_hostFrame {frame : Frame} {wire : List UInt8} (encoded : encodeFrame frame = .ok wire) :
    ∃ header payload, frame = hostFrame header payload ∧ header.channel < Channel.count ∧
      payload.length ≤ maxPayloadSize := by
  unfold encodeFrame at encoded
  obtain ⟨short, encoded⟩ := unless_thrown encoded
  obtain ⟨channel, channelOk, encoded⟩ := bind_ok encoded
  obtain ⟨known, encoded⟩ := unless_thrown encoded
  obtain ⟨type, typeOk, encoded⟩ := bind_ok encoded
  obtain ⟨flags, flagsOk, encoded⟩ := bind_ok encoded
  obtain ⟨sessionId, sessionOk, encoded⟩ := bind_ok encoded
  obtain ⟨requestId, requestOk, encoded⟩ := bind_ok encoded
  obtain ⟨streamId, streamOk, encoded⟩ := bind_ok encoded
  obtain ⟨sequence, sequenceOk, -⟩ := bind_ok encoded
  clear encoded
  have byte (value : Nat) (fits : value < 2 ^ 8) : (UInt8.ofNat value).toNat = value :=
    (UInt8.toNat_ofNat' ..).trans (Nat.mod_eq_of_lt fits)
  have word (value : Nat) (fits : value < 2 ^ 32) : (UInt32.ofNat value).toNat = value :=
    (UInt32.toNat_ofNat' ..).trans (Nat.mod_eq_of_lt fits)
  have half : (UInt16.ofNat flags).toNat = flags :=
    (UInt16.toNat_ofNat' ..).trans (Nat.mod_eq_of_lt (wireUint_ok flagsOk).2)
  refine ⟨⟨UInt8.ofNat channel, UInt8.ofNat type, UInt16.ofNat flags, UInt32.ofNat sessionId, UInt32.ofNat requestId,
    UInt32.ofNat streamId, UInt32.ofNat sequence, 0⟩, frame.payload, ?_, ?_, Nat.not_lt.mp short⟩
  · rw [hostFrame, byte _ (wireUint_ok channelOk).2, byte _ (wireUint_ok typeOk).2, half,
      word _ (wireUint_ok sessionOk).2, word _ (wireUint_ok requestOk).2, word _ (wireUint_ok streamOk).2,
      word _ (wireUint_ok sequenceOk).2, ← (wireUint_ok channelOk).1, ← (wireUint_ok typeOk).1,
      ← (wireUint_ok flagsOk).1, ← (wireUint_ok sessionOk).1, ← (wireUint_ok requestOk).1, ← (wireUint_ok streamOk).1,
      ← (wireUint_ok sequenceOk).1]
  · rw [UInt8.lt_iff_toNat_lt, byte _ (wireUint_ok channelOk).2]
    exact Nat.lt_succ_of_le (Nat.not_lt.mp known)

/-- What is encoded is one segment with its delimiter, and decodes to the frame. -/
theorem encodeFrame_segment {frame : Frame} {wire : List UInt8} (encoded : encodeFrame frame = .ok wire) :
    ∃ segment, wire = segment ++ [0] ∧ segment ≠ [] ∧ 0 ∉ segment ∧ segment.length ≤ segmentLimit ∧
      decodeFrame segment = .ok frame := by
  obtain ⟨header, payload, rfl, channel, short⟩ := encodeFrame_hostFrame encoded
  have trip := roundTrip (List.replicate maxWireFrameSize 0) header payload (List.length_replicate ▸ le_refl _) channel
    short
  have same := trip.hostEncodes.symm.trans encoded
  refine ⟨_, (Except.ok.inj same).symm, Cobs.encodeFrom_ne_nil [] _, trip.noZero, ?_, trip.hostDecodes⟩
  have bounded := trip.bounded
  rw [List.length_append, List.length_singleton] at bounded
  exact Nat.le_sub_of_add_le bounded

/-- A valid frame after a delimiter is delivered, whatever came before it. -/
theorem feedAll_resynchronises {chunks : List (List UInt8)} {garbage wire : List UInt8} {frame : Frame}
    (encoded : encodeFrame frame = .ok wire) (arrives : chunks.flatten = garbage ++ [0] ++ wire) :
    (feedAll .new chunks).2 = (feed .new (garbage ++ [0])).2 ++ [frame] := by
  obtain ⟨segment, rfl, filled, noZero, short, decodes⟩ := encodeFrame_segment encoded
  rw [feedAll_flatten, arrives, feed_segments, feed_segments,
    segments_after_delimiter segmentLimit 0 garbage segment filled noZero short]
  simp [segmentFrame, decodes, Except.toOption]

end EspIris.Codec.Host
