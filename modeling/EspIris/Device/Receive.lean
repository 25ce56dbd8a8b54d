import EspIris.Device.Session
import EspIris.Lib.Framing

/-! `feed_rx` as a receiver of delimited frames: what the receive buffer holds is the frame
received so far, and a completed one is decoded from it alone. -/

namespace EspIris.Device
open Codec.Device Framing

def rxLimit : Nat := maxWireFrameSize - 1

def decodeWire (encoded : List UInt8) : Option DecodedFrame :=
  (irisFrameDecodeInPlace encoded encoded.length).2.toOption

def wireFrames (stream : List UInt8) : List DecodedFrame :=
  (receive rxLimit 0 .empty stream).2.filterMap decodeWire

def wireRest (stream : List UInt8) : Receiver UInt8 := (receive rxLimit 0 .empty stream).1

theorem wireFrames_snoc (stream : List UInt8) (value : UInt8) :
    wireFrames (stream ++ [value]) =
      wireFrames stream ++ ((take rxLimit 0 (wireRest stream) value).2.bind decodeWire).toList := by
  simp only [wireFrames, wireRest, receive_snoc, List.filterMap_append]
  cases (take rxLimit 0 (receive rxLimit 0 .empty stream).1 value).2 with
  | none => rfl
  | some frame => cases decoded : decodeWire frame <;> simp [decoded]

theorem wireRest_snoc (stream : List UInt8) (value : UInt8) :
    wireRest (stream ++ [value]) = (take rxLimit 0 (wireRest stream) value).1 := by
  simp only [wireRest, receive_snoc]

def received (runtime : Runtime) : Receiver UInt8 :=
  ⟨runtime.rxWire.take runtime.rxWireLength, runtime.rxDiscarding⟩

structure RxRoom (runtime : Runtime) : Prop where
  buffer : maxWireFrameSize ≤ runtime.rxWire.length
  short : runtime.rxWireLength ≤ rxLimit
  dropping : runtime.rxDiscarding = true → runtime.rxWireLength = 0

theorem RxRoom.held_length {runtime : Runtime} (room : RxRoom runtime) :
    (received runtime).held.length = runtime.rxWireLength := by
  have buffer := room.buffer
  have short := room.short
  unfold rxLimit at short
  simp only [received, List.length_take]
  omega

theorem receiveByte_shape (runtime : Runtime) (value : UInt8) :
    ∃ rxWire rxWireLength rxDiscarding invalidFrames, (receiveByte runtime value).1 =
      { runtime with
        rxWire := rxWire
        rxWireLength := rxWireLength
        rxDiscarding := rxDiscarding
        invalidFrames := invalidFrames } := by
  unfold receiveByte
  split
  · split
    · exact ⟨_, _, _, _, rfl⟩
    split
    · exact ⟨_, _, _, _, rfl⟩
    · exact ⟨_, _, _, _, rfl⟩
  split
  · exact ⟨_, _, _, _, rfl⟩
  split
  · exact ⟨_, _, _, _, rfl⟩
  · exact ⟨_, _, _, _, rfl⟩

theorem receiveByte_none {runtime : Runtime} {value : UInt8} (room : RxRoom runtime)
    (nothing : (receiveByte runtime value).2 = none) :
    RxRoom (receiveByte runtime value).1 ∧
      take rxLimit 0 (received runtime) value = (received (receiveByte runtime value).1, none) := by
  have heldLength := room.held_length
  obtain ⟨buffer, short, dropping⟩ := room
  unfold receiveByte at nothing ⊢
  unfold take
  rw [heldLength]
  by_cases zero : value = 0
  · rw [if_pos zero] at nothing ⊢
    rw [if_pos zero]
    split
    next drops =>
      refine ⟨⟨buffer, Nat.zero_le _, fun _ => rfl⟩, ?_⟩
      simp [received, drops, Receiver.empty]
    next keeps =>
      rw [if_neg keeps] at nothing
      split
      next none =>
        refine ⟨⟨buffer, short, dropping⟩, ?_⟩
        simp [received, none, keeps, Receiver.empty]
      next some => simp [some] at nothing
  · rw [if_neg zero, if_neg zero]
    split
    next drops =>
      refine ⟨⟨buffer, short, dropping⟩, ?_⟩
      simp [received, drops]
    next keeps =>
      have limit : rxLimit = maxWireFrameSize - 1 := rfl
      have same : (received runtime).discarding = runtime.rxDiscarding := rfl
      rw [same, if_neg keeps, limit]
      split
      next full =>
        refine ⟨⟨buffer, Nat.zero_le _, fun _ => rfl⟩, ?_⟩
        simp [received]
      next fits =>
        have bounded : runtime.rxWireLength < runtime.rxWire.length := by
          unfold rxLimit at short
          omega
        refine ⟨⟨by simpa using buffer, by unfold rxLimit; dsimp only; omega, fun drops => absurd drops keeps⟩, ?_⟩
        simp only [received, Prod.mk.injEq, Receiver.mk.injEq, and_true]
        refine ⟨?_, by simpa using keeps⟩
        rw [List.take_add_one, List.take_set_of_le (le_refl _), List.getElem?_set_self bounded]
        rfl

theorem receiveByte_some {runtime : Runtime} {value : UInt8} {result : Except EspErr DecodedFrame}
    (room : RxRoom runtime) (completes : (receiveByte runtime value).2 = some result) :
    ∃ rxWire, (receiveByte runtime value).1 = { runtime with rxWire := rxWire } ∧
      maxWireFrameSize ≤ rxWire.length ∧ runtime.rxDiscarding = false ∧
      take rxLimit 0 (received runtime) value = (.empty, some (received runtime).held) ∧
      result.toOption = decodeWire (received runtime).held := by
  have heldLength := room.held_length
  obtain ⟨buffer, short, dropping⟩ := room
  unfold receiveByte at completes ⊢
  by_cases zero : value = 0
  · rw [if_pos zero] at completes ⊢
    split at completes
    · contradiction
    next keeps =>
      split at completes
      · contradiction
      next some =>
        rw [if_neg keeps, if_neg some]
        cases completes
        have alone := Codec.device_decodes_alone (received runtime).held (runtime.rxWire.drop runtime.rxWireLength)
        rw [heldLength] at alone
        have whole : (received runtime).held ++ runtime.rxWire.drop runtime.rxWireLength = runtime.rxWire :=
          List.take_append_drop _ _
        rw [whole] at alone
        have filled : (received runtime).held ≠ [] := by
          rw [← List.length_pos_iff, heldLength]
          omega
        refine ⟨_, rfl, ?_, by simpa using keeps, ?_, ?_⟩
        · rw [irisFrameDecodeInPlace_length]
          exact buffer
        · have stopped : (received runtime).discarding = false := by simpa [received] using keeps
          simp [take, zero, stopped, filled]
        · rw [alone, decodeWire, heldLength]
  · rw [if_neg zero] at completes
    split at completes
    · contradiction
    split at completes <;> contradiction

end EspIris.Device
