import EspIris.Gateway.Hub
import EspIris.Lib.Tiling

/-! `_next_complete_screen_frame` of the hub: a frame is put together from the tiles that a queue brings,
and a tile that was lost makes it wait for the next one that starts a frame. -/

namespace EspIris.Gateway
open Tiling Bytes

structure FrameDescription where
  x : Nat
  y : Nat
  width : Nat
  height : Nat
  stride : Nat
  format : Nat
  quality : Nat
  deriving DecidableEq, Repr

def FrameDescription.ofValues (values : List Nat) : FrameDescription where
  x := values.getD 0 0
  y := values.getD 1 0
  width := values.getD 2 0
  height := values.getD 3 0
  stride := values.getD 4 0
  format := values.getD 5 0
  quality := values.getD 6 0

def decodeMediaDescription (payload : List UInt8) : Except Raised FrameDescription :=
  if payload.length < 16 then .error (.protocol "short media description")
  else .ok ⟨field payload 0 2, field payload 2 2, field payload 4 2, field payload 6 2, field payload 8 4,
    field payload 12 2, field payload 14 2⟩

def rawMediaFormats : List Nat := [1, 2]
def encodedMediaFormats : List Nat := [3, 4]

/-- The local variables of `receive`. -/
structure Assembly where
  frameId : Option Nat
  nextY : Nat
  data : List UInt8
  deriving DecidableEq, Repr

/-- How `_next_complete_screen_frame` ends; it may also wait until its time is over. -/
inductive Assembled
  | waiting
  | invalid (message : String)
  | encoded (tile : FrameDescription) (payload : List UInt8)
  | frame (data : List UInt8)
  deriving DecidableEq, Repr

section receive
variable (full : FrameDescription) (streamId : Option Int)

def ofStream (event : MediaEvent) : Bool := streamId.all fun stream => stream = event.streamId

/-- A turn of the loop of `receive`. -/
def receiveTile (assembly : Assembly) (event : MediaEvent) : Except Assembled Assembly :=
  if ofStream streamId event = false then .ok assembly
  else
    let tile := FrameDescription.ofValues event.description
    if tile.format ∈ encodedMediaFormats then
      if event.data = [] then .ok assembly else .error (.encoded tile event.data)
    else if tile.format ≠ full.format then .ok assembly
    else
      let begun := if tile.y = full.y then ⟨some event.frameId, full.y, []⟩ else assembly
      if begun.frameId ≠ some event.frameId ∨ tile.y ≠ begun.nextY then .ok begun
      else if tile.x ≠ full.x ∨ tile.width ≠ full.width ∨ tile.stride ≠ full.stride ∨ tile.height = 0 ∨
          event.data.length ≠ full.stride * tile.height then
        .error (.invalid "screen mirror tile does not match the frame description")
      else
        let data := begun.data ++ event.data
        let nextY := begun.nextY + tile.height
        if nextY = full.y + full.height then
          if data.length ≠ full.stride * full.height then .error (.invalid "assembled screen frame has an invalid size")
          else .error (.frame data)
        else if nextY > full.y + full.height then
          .error (.invalid "screen mirror tile exceeds the frame boundary")
        else .ok ⟨begun.frameId, nextY, data⟩

/-- `receive`, on what the queue brings before the time is over. -/
def receive : Assembly → List MediaEvent → Assembled
  | _, [] => .waiting
  | assembly, event :: queue =>
    match receiveTile full streamId assembly event with
    | .error ended => ended
    | .ok next => receive next queue

def nextCompleteScreenFrame (queue : List MediaEvent) : Assembled :=
  if full.format ∉ rawMediaFormats ++ encodedMediaFormats then
    .invalid ("unsupported screen mirror format: " ++ toString full.format)
  else if full.width = 0 ∨ full.height = 0 ∨ full.format ∈ rawMediaFormats ∧ full.stride = 0 then
    .invalid "screen mirror has an empty frame description"
  else receive full streamId ⟨none, full.y, []⟩ queue

end receive

def tileY (event : MediaEvent) : Nat := (FrameDescription.ofValues event.description).y

def tileHeight (event : MediaEvent) : Nat := (FrameDescription.ofValues event.description).height

def assembledData (tiles : List MediaEvent) : List UInt8 := tiles.flatMap MediaEvent.data

structure Picked (full : FrameDescription) (came : List MediaEvent) (frameId reached : Nat) (tiles : List MediaEvent) : Prop where
  part : tiles.Sublist came
  same : ∀ tile ∈ tiles, tile.frameId = frameId
  covers : Tiles tileY tileHeight full.y tiles reached

def Assembling (full : FrameDescription) (came : List MediaEvent) (assembly : Assembly) : Prop :=
  ∀ frameId, assembly.frameId = some frameId →
    ∃ tiles, Picked full came frameId assembly.nextY tiles ∧ assembly.data = assembledData tiles

section assembling
variable {full : FrameDescription} {streamId : Option Int} {came : List MediaEvent} {assembly next : Assembly} {event : MediaEvent}

theorem Picked.more {frameId reached : Nat} {tiles : List MediaEvent} (picked : Picked full came frameId reached tiles)
    (more : List MediaEvent) : Picked full (came ++ more) frameId reached tiles :=
  ⟨picked.part.trans (List.sublist_append_left came more), picked.same, picked.covers⟩

theorem Picked.snoc {frameId reached : Nat} {tiles : List MediaEvent} (picked : Picked full came frameId reached tiles)
    (same : event.frameId = frameId) (starts : tileY event = reached) (positive : tileHeight event ≠ 0) :
    Picked full (came ++ [event]) frameId (reached + tileHeight event) (tiles ++ [event]) where
  part := picked.part.append (.refl _)
  same := by
    intro tile member
    rcases List.mem_append.mp member with old | new
    · exact picked.same tile old
    · rw [List.mem_singleton.mp new]
      exact same
  covers := picked.covers.snoc starts (Nat.pos_of_ne_zero positive)

theorem Assembling.more (assembling : Assembling full came assembly) (more : List MediaEvent) :
    Assembling full (came ++ more) assembly := by
  intro frameId here
  obtain ⟨tiles, picked, data⟩ := assembling frameId here
  exact ⟨tiles, picked.more more, data⟩

theorem Assembling.begun (assembling : Assembling full came assembly) :
    Assembling full came (if tileY event = full.y then ⟨some event.frameId, full.y, []⟩ else assembly) := by
  split
  next =>
    intro frameId here
    refine ⟨[], ⟨List.nil_sublist came, ?_, rfl⟩, rfl⟩
    intro tile none
    cases none
  next => exact assembling

def Turned (full : FrameDescription) (came : List MediaEvent) : Except Assembled Assembly → Prop
  | .ok next => Assembling full came next
  | .error (.frame data) => ∃ frameId tiles, Picked full came frameId (full.y + full.height) tiles ∧
      data = assembledData tiles ∧ data.length = full.stride * full.height
  | .error _ => True

theorem receiveTile_turned (assembling : Assembling full came assembly) :
    Turned full (came ++ [event].filter (ofStream streamId)) (receiveTile full streamId assembly event) := by
  unfold receiveTile
  split
  next => exact assembling.more _
  next passes =>
    have heard : [event].filter (ofStream streamId) = [event] := by
      rw [List.filter_eq_self]
      intro other member
      rw [List.mem_singleton.mp member]
      exact Bool.of_not_eq_false passes
    rw [heard]
    have begun : Assembling full came _ := @Assembling.begun full came assembly event assembling
    unfold tileY at begun
    dsimp only
    generalize (if (FrameDescription.ofValues event.description).y = full.y then
      (⟨some event.frameId, full.y, []⟩ : Assembly) else assembly) = started at begun ⊢
    split
    next =>
      split
      next => exact assembling.more _
      next => trivial
    split
    next => exact assembling.more _
    split
    next => exact begun.more _
    next placed =>
      simp only [not_or, not_not] at placed
      obtain ⟨tiles, picked, data⟩ := begun event.frameId placed.1
      split
      next => trivial
      next fits =>
        simp only [not_or, not_not] at fits
        have grown := picked.snoc rfl placed.2 fits.2.2.2.1
        have joined : assembledData (tiles ++ [event]) = assembledData tiles ++ event.data := by
          unfold assembledData
          rw [List.flatMap_append, List.flatMap_singleton]
        split
        next whole =>
          split
          next => trivial
          next size =>
            refine ⟨event.frameId, tiles ++ [event], ?_, ?_, not_not.mp size⟩
            · rw [← whole]
              exact grown
            · rw [data, joined]
        split
        next => trivial
        intro frameId here
        have same : event.frameId = frameId := Option.some.inj (placed.1.symm.trans here)
        subst same
        exact ⟨tiles ++ [event], grown, by rw [data, joined]⟩

/-- A frame that is returned is put together from tiles of one frame id, in the order of their rows. -/
theorem receive_frame {queue : List MediaEvent} {data : List UInt8} (assembling : Assembling full came assembly)
    (returned : receive full streamId assembly queue = .frame data) :
    ∃ frameId tiles, Picked full (came ++ queue.filter (ofStream streamId)) frameId (full.y + full.height) tiles ∧
      data = assembledData tiles ∧ data.length = full.stride * full.height := by
  induction queue generalizing came assembly with
  | nil => cases returned
  | cons event queue ih =>
    have turn := @receiveTile_turned full streamId came assembly event assembling
    have grows : came ++ (event :: queue).filter (ofStream streamId) =
        came ++ [event].filter (ofStream streamId) ++ queue.filter (ofStream streamId) := by
      rw [List.append_assoc, ← List.filter_append, List.singleton_append]
    unfold receive at returned
    rw [grows]
    cases outcome : receiveTile full streamId assembly event with
    | ok next =>
      rw [outcome] at turn returned
      exact ih turn returned
    | error ended =>
      rw [outcome] at turn returned
      dsimp only at returned
      subst returned
      obtain ⟨frameId, tiles, picked, bytes⟩ := turn
      exact ⟨frameId, tiles, picked.more _, bytes⟩

/-- Where the tiles of each frame id cover its rows in order, as far as they go, a frame that is returned has
all the tiles of one id, whatever was lost before the queue. -/
theorem nextCompleteScreenFrame_whole {events queue : List MediaEvent} {data : List UInt8}
    (frames : ∀ frameId, ∃ reached, reached ≤ full.y + full.height ∧
      Tiles tileY tileHeight full.y (events.filter fun event => event.frameId = frameId) reached)
    (lost : (queue.filter (ofStream streamId)).Sublist events)
    (returned : nextCompleteScreenFrame full streamId queue = .frame data) :
    ∃ frameId, data = assembledData (events.filter fun event => event.frameId = frameId) ∧
      Tiles tileY tileHeight full.y (events.filter fun event => event.frameId = frameId) (full.y + full.height) ∧
      data.length = full.stride * full.height := by
  unfold nextCompleteScreenFrame at returned
  split at returned
  next => cases returned
  split at returned
  next => cases returned
  have start : Assembling full [] ⟨none, full.y, []⟩ := by
    intro frameId none
    cases none
  obtain ⟨frameId, tiles, picked, bytes, size⟩ := receive_frame start returned
  obtain ⟨reached, inside, cover⟩ := frames frameId
  have part : tiles.Sublist (events.filter fun event => event.frameId = frameId) := by
    have filtered := (picked.part.trans lost).filter fun event : MediaEvent => event.frameId = frameId
    rwa [List.filter_eq_self.mpr fun tile member => decide_eq_true (picked.same tile member)] at filtered
  have whole := cover.whole part picked.covers inside
  refine ⟨frameId, ?_, ?_, size⟩
  · rw [← whole]
    exact bytes
  · rw [← whole]
    exact picked.covers

end assembling

end EspIris.Gateway
