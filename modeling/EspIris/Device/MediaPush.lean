import EspIris.Device.MediaSlots
import EspIris.Lib.Latest

/-! What the application submits to a media channel, and what of it is put out. A submission that comes
between the reading of the size of the pending frame and the copy of it is copied instead. -/

namespace EspIris.Device.Media
open Codec Codec.Device Jobs Bytes Machine Latest
variable {state : MediaState} {index : Fin 3} {submission : Submission} {point : MediaPoint} {event : MediaEvent}

def MediaPoint.startsAt (point : MediaPoint) (index : Fin 3) (stage : StartStage) : Bool :=
  match point with
  | .starting other now _ => other = index && now = stage
  | _ => false

abbrev PushLog := Log Submission (List UInt8)

section record
variable (config : MediaConfig)

def notePush (logs : Fin 3 → PushLog) (before : MediaRun) (event : MediaEvent) (after : MediaRun) : Fin 3 → PushLog :=
  match event with
  | .submit channel submission =>
    match slotIndex channel with
    | none => logs
    | some index =>
      if submitAccepted config before.world.services channel submission then
        Function.update logs index ((logs index).accept submission)
      else logs
  | .frame _ _ =>
    match after.world.point with
    | .starting index _ _ => Function.update logs index .empty
    | _ => logs
  | .copy _ =>
    match before.world.point with
    | .checked index _ =>
      if (slotOf before.world.services index).pull then logs
      else
        Function.update logs index
          ((dataOf (after.outputs.drop before.outputs.length)).foldl Log.emit (logs index))
    | _ => logs
  | _ => logs

def pushSystem : System (MediaRun × (Fin 3 → PushLog)) MediaEvent :=
  (mediaSystem config).recorded (fun _ => .empty) (notePush config)

end record

def Carries (submission : Submission) (payload : List UInt8) : Prop :=
  ∃ dropped, payload = dataPayload submission.now submission.frameId dropped submission.flags
    (UInt16.ofNat submission.bytes.length) submission.description submission.bytes

def streamDrops (point : MediaPoint) (index : Fin 3) (slot : MediaSlot) : Nat :=
  if point.startsAt index .pending || point.startsAt index .dropped then 0 else slot.dropped.toNat

def Pushes (slot : MediaSlot) : Prop := slot.active = true ∧ slot.pull = false

structure PushIntegrity (noted : MediaRun × (Fin 3 → PushLog)) : Prop where
  sized : ∀ index reply, .data index reply ∈ noted.1.outputs →
    reply.payload.length = dataHeaderSize + (irisGetLe16 reply.payload 18).toNat
  once : ∀ index, ∃ chosen, chosen.Sublist (noted.2 index).accepted ∧
    List.Forall₂ Carries chosen (noted.2 index).emitted
  counted : ∀ index, Pushes (slotOf noted.1.world.services index) →
    Accounted (noted.2 index) (streamDrops noted.1.world.point index (slotOf noted.1.world.services index))
      (slotOf noted.1.world.services index).pending

def TakenWell (point : MediaPoint) (index : Fin 3) (slot : MediaSlot) : Prop :=
  point.startsAt index .pending = false ∧
    (slot.pending = true → point.startsAt index .dropped = false ∧ slot.dropped ≠ 0xffffffff)

/-- No submission of another size comes between the reading of the size and the copy, and none while its
stream is being set up. -/
def PushesWell (config : MediaConfig) (run : MediaRun) : MediaEvent → Prop
  | .submit channel submission =>
    match slotIndex channel with
    | none => True
    | some index => submitAccepted config run.world.services channel submission = true →
        TakenWell run.world.point index (slotOf run.world.services index)
  | .copy _ =>
    match run.world.point with
    | .checked index payloadSize => payloadSize = dataHeaderSize + (slotOf run.world.services index).size
    | _ => True
  | _ => True

structure Holds (slot : MediaSlot) (submission : Submission) : Prop where
  description : slot.description = submission.description
  frameId : slot.frameId = submission.frameId
  flags : slot.flags = submission.flags
  monotonicUs : slot.monotonicUs = submission.now
  size : slot.size = submission.bytes.length
  data : ∀ data, slot.data = some data → data.take slot.size = submission.bytes

structure SlotSound (config : MediaConfig) (drops : Nat) (slot : MediaSlot) (log : PushLog) : Prop where
  size : slot.size ≤ config.latestBytes
  idle : slot.active = false → slot.pending = false
  carried : ∃ waiting, Carried Carries log waiting ∧
    (Pushes slot → slot.pending = true → ∃ submission, waiting = some submission ∧ Holds slot submission)
  counted : Pushes slot → Accounted log drops slot.pending

section slots
variable {config : MediaConfig} {drops later : Nat} {slot after : MediaSlot} {log : PushLog}

theorem SlotSound.zero (log : PushLog) (once : Carried Carries log none) : SlotSound config drops .zero log where
  size := Nat.zero_le _
  idle := fun _ => rfl
  carried := ⟨none, once, fun pushes => Bool.noConfusion pushes.1⟩
  counted := fun pushes => Bool.noConfusion pushes.1

theorem SlotSound.once (sound : SlotSound config drops slot log) : Carried Carries log none := by
  obtain ⟨waiting, carried, _⟩ := sound.carried
  exact carried.forget

/-- A slot that is not, or no longer, pushed to keeps what its log says of the past. -/
theorem SlotSound.unpushed (sound : SlotSound config drops slot log) (size : after.size ≤ config.latestBytes)
    (idle : after.active = false → after.pending = false) (unpushed : ¬ Pushes after) : SlotSound config later after log where
  size := size
  idle := idle
  carried := ⟨none, sound.once, fun pushes => absurd pushes unpushed⟩
  counted := fun pushes => absurd pushes unpushed

theorem SlotSound.begun (size : slot.size ≤ config.latestBytes) (active : slot.active = true)
    (quiet : slot.pending = false) : SlotSound config 0 slot .empty where
  size := size
  idle := fun inactive => absurd (active.symm.trans inactive) Bool.noConfusion
  carried := ⟨none, .empty, fun _ waits => absurd (quiet.symm.trans waits) Bool.noConfusion⟩
  counted := fun _ => quiet ▸ .empty

theorem preparePullScreen_sound (sound : SlotSound config drops slot log) (answer : ReadAnswer) (now : Nat) :
    SlotSound config drops (preparePullScreen config state slot answer now).1 log := by
  unfold preparePullScreen
  split
  next => exact sound
  next due =>
    have active : slot.active = true := by
      unfold pullDue at due
      simp only [Bool.not_eq_false, Bool.and_eq_true] at due
      exact due.1.1.1.1.1.1.1.1
    have pull : slot.pull = true := by
      unfold pullDue at due
      simp only [Bool.not_eq_false, Bool.and_eq_true] at due
      exact due.1.1.1.1.1.1.1.2
    have unpushed : ∀ after : MediaSlot, after.pull = slot.pull → ¬ Pushes after := by
      intro after same pushes
      rw [Pushes, same, pull] at pushes
      exact Bool.noConfusion pushes.2
    dsimp only
    split
    next => exact sound.unpushed sound.size sound.idle (unpushed _ rfl)
    next placed =>
      simp only [not_or, not_not] at placed
      have room : pullSize config slot ≤ config.latestBytes := (Nat.min_le_left _ _).trans (Nat.div_mul_le_self _ _)
      refine sound.unpushed ?_ (fun inactive => absurd (active.symm.trans inactive) Bool.noConfusion) (unpushed _ rfl)
      show answer.size ≤ config.latestBytes
      omega

theorem preparePullScreen_dropped (answer : ReadAnswer) (now : Nat) :
    (preparePullScreen config state slot answer now).1.dropped = slot.dropped := by
  unfold preparePullScreen
  split
  next => rfl
  dsimp only
  split <;> rfl

theorem submitSlot_sound (sound : SlotSound config drops slot log)
    (small : submission.bytes.length ≤ config.latestBytes) (taken : (submitSlot slot submission).2 = EspErr.ok)
    (counts : Accounted log drops slot.pending → Accounted (log.accept submission) later true) :
    SlotSound config later (submitSlot slot submission).1 (log.accept submission) := by
  unfold submitSlot at taken ⊢
  split
  next missing =>
    rw [missing] at taken
    cases taken
  next data present =>
    rw [present] at taken
    dsimp only at taken
    split
    next refused =>
      rw [if_pos refused] at taken
      cases taken
    next pushed =>
      simp only [not_or, Bool.not_eq_false, Bool.not_eq_true] at pushed
      have pushes : Pushes slot := pushed
      constructor
      case size => exact small
      case idle => exact fun inactive => absurd (pushes.1.symm.trans inactive) Bool.noConfusion
      case carried =>
        refine ⟨some submission, sound.once.accept submission, fun _ _ => ⟨submission, rfl, rfl, rfl, rfl, rfl, rfl, ?_⟩⟩
        intro now same
        cases same
        exact List.take_left
      case counted => exact fun _ => counts (sound.counted pushes)

/-- Neither the credit nor the count of drops is part of what a slot holds. -/
theorem SlotSound.adjusted (sound : SlotSound config drops slot log) (credit dropped : UInt32) :
    SlotSound config drops { slot with credit := credit, dropped := dropped } log where
  size := sound.size
  idle := sound.idle
  carried := by
    obtain ⟨waiting, carried, holds⟩ := sound.carried
    refine ⟨waiting, carried, fun pushes waits => ?_⟩
    obtain ⟨submission, same, held⟩ := holds pushes waits
    exact ⟨submission, same, held.description, held.frameId, held.flags, held.monotonicUs, held.size, held.data⟩
  counted := sound.counted

theorem Holds.carried {data : List UInt8} (holds : Holds slot submission) (present : slot.data = some data)
    (index : Fin 3) (rxWire : Vector UInt8 maxWireFrameSize) (small : slot.size ≤ config.latestBytes) :
    Carries submission (copySlot slot index data rxWire.toList (dataHeaderSize + slot.size)).2.payload := by
  obtain ⟨body, payload, _, whole⟩ := copySlot_payload index data rxWire small
  have bytes := holds.data data present
  have filled : (data.take slot.size).length = slot.size := by rw [bytes, holds.size]
  refine ⟨slot.dropped, ?_⟩
  rw [payload, whole filled, bytes, dataHeader, holds.monotonicUs, holds.frameId, holds.flags, holds.size,
    holds.description]
  rfl

end slots

structure PushSound (config : MediaConfig) (noted : MediaRun × (Fin 3 → PushLog)) : Prop where
  slots : ∀ index, SlotSound config (streamDrops noted.1.world.point index (slotOf noted.1.world.services index))
    (slotOf noted.1.world.services index) (noted.2 index)
  starting : ∀ index header, noted.1.world.point = .starting index .pending header →
    (slotOf noted.1.world.services index).pending = false
  checked : ∀ index payloadSize, noted.1.world.point = .checked index payloadSize →
    (slotOf noted.1.world.services index).pending = true ∧ (slotOf noted.1.world.services index).data.isSome = true
  sized : ∀ index reply, .data index reply ∈ noted.1.outputs →
    reply.payload.length = dataHeaderSize + (irisGetLe16 reply.payload 18).toNat

theorem SlotSound.kept {config : MediaConfig} {drops later : Nat} {slot after : MediaSlot} {log : PushLog}
    (sound : SlotSound config drops slot log) (kept : Kept slot after) (counts : after = slot → later = drops) :
    SlotSound config later after log := by
  rcases kept with same | ⟨inactive, _, quiet, size⟩
  · rw [counts same, same]
    exact sound
  · refine sound.unpushed (by rw [size]; exact Nat.zero_le _) (fun _ => quiet) fun pushes => ?_
    exact absurd (pushes.1.symm.trans inactive) Bool.noConfusion

theorem streamDrops_apart (slot : MediaSlot) (apart : ∀ stage header, point ≠ .starting index stage header) :
    streamDrops point index slot = slot.dropped.toNat := by
  have none : ∀ stage, point.startsAt index stage = false := by
    intro stage
    unfold MediaPoint.startsAt
    split
    next other now header =>
      have elsewhere : other ≠ index := fun same => apart now header (by rw [same])
      rw [decide_eq_false elsewhere]
      rfl
    next => rfl
  rw [streamDrops, none, none]
  rfl

section steps
variable {config : MediaConfig} {run : MediaRun} {logs : Fin 3 → PushLog}

section sound
variable (sound : PushSound config (run, logs))
include sound

/-- A call of the application, which keeps every slot that has a buffer. -/
theorem PushSound.keeping {services : Option MediaState}
    (kept : ∀ index, Kept (slotOf run.world.services index) (slotOf services index))
    (held : ∀ index, Held (slotOf run.world.services index) (slotOf services index)) :
    PushSound config (⟨⟨services, run.world.point⟩, run.outputs ++ []⟩, logs) where
  slots := fun index => (sound.slots index).kept (kept index) fun same => by
    show streamDrops run.world.point index (slotOf services index) = _
    rw [same]
  starting := by
    intro index header point
    rcases kept index with same | empty
    · exact (congrArg MediaSlot.pending same).trans (sound.starting index header point)
    · exact empty.2.2.1
  checked := by
    intro index payloadSize point
    have before := sound.checked index payloadSize point
    show (slotOf services index).pending = true ∧ (slotOf services index).data.isSome = true
    rw [held index before.2]
    exact before
  sized := by
    intro index reply member
    rw [List.append_nil] at member
    exact sound.sized index reply member

/-- A step of the task to such a point, with its slots sound, that puts out no data. -/
theorem PushSound.settled {services : Option MediaState} {outputs : List MediaOutput} (quiet : point.quiet = true)
    (noData : dataOf outputs = [])
    (slots : ∀ index, SlotSound config (slotOf services index).dropped.toNat (slotOf services index) (logs index)) :
    PushSound config (⟨⟨services, point⟩, run.outputs ++ outputs⟩, logs) where
  slots := by
    intro index
    have apart : streamDrops point index (slotOf services index) = (slotOf services index).dropped.toNat :=
      streamDrops_apart _ fun stage header same => by
        rw [same] at quiet
        cases quiet
    show SlotSound config (streamDrops point index (slotOf services index)) (slotOf services index) (logs index)
    rw [apart]
    exact slots index
  starting := by
    intro index header same
    cases same
    cases quiet
  checked := by
    intro index payloadSize same
    cases same
    cases quiet
  sized := by
    intro index reply member
    rcases List.mem_append.mp member with old | new
    · exact sound.sized index reply old
    · have data : reply.payload ∈ dataOf outputs := mem_dataOf.mpr ⟨_, _, new, rfl⟩
      rw [noData] at data
      cases data

theorem PushSound.apart (index : Fin 3) (apart : ∀ stage header, run.world.point ≠ .starting index stage header) :
    SlotSound config (slotOf run.world.services index).dropped.toNat (slotOf run.world.services index) (logs index) := by
  have slot := sound.slots index
  rwa [streamDrops_apart _ apart] at slot

theorem PushSound.resting (resting : run.world.point = .resting) (index : Fin 3) :
    SlotSound config (slotOf run.world.services index).dropped.toNat (slotOf run.world.services index) (logs index) :=
  sound.apart index fun stage header same => by
    rw [resting] at same
    cases same

theorem PushSound.started (resting : run.world.point = .resting)
    (found : ∀ other, state.media other = slotOf run.world.services other) {slot : MediaSlot}
    (idle : (state.media index).active = false) (size : slot.size = (state.media index).size)
    (active : slot.active = true) (pending : slot.pending = (state.media index).pending) (header : WireHeader)
    {outputs : List MediaOutput} (silent : dataOf outputs = []) :
    PushSound config (⟨⟨some (state.setSlot index slot), .starting index .pending header⟩, run.outputs ++ outputs⟩,
      Function.update logs index .empty) := by
  have before : ∀ other, SlotSound config (state.media other).dropped.toNat (state.media other) (logs other) := by
    intro other
    rw [found]
    exact sound.resting resting other
  have quiet : slot.pending = false := pending.trans ((before index).idle idle)
  constructor
  case slots =>
    intro other
    show SlotSound config (streamDrops (.starting index .pending header) other ((state.setSlot index slot).media other))
      ((state.setSlot index slot).media other) (Function.update logs index .empty other)
    by_cases here : other = index
    · subst here
      have fresh : streamDrops (.starting other .pending header) other slot = 0 := by
        rw [streamDrops, MediaPoint.startsAt, decide_eq_true rfl]
        rfl
      rw [setSlot_same, Function.update_self, fresh]
      exact .begun (size ▸ (before other).size) active quiet
    · have apart : streamDrops (.starting index .pending header) other (state.media other) =
          (state.media other).dropped.toNat := streamDrops_apart _ fun stage header same => by
        cases same
        exact here rfl
      rw [setSlot_other state here, Function.update_of_ne here, apart]
      exact before other
  case starting =>
    intro other header same
    cases same
    exact (congrArg MediaSlot.pending (setSlot_same state index slot)).trans quiet
  case checked =>
    intro other payloadSize same
    cases same
  case sized =>
    intro other reply member
    rcases List.mem_append.mp member with old | new
    · exact sound.sized other reply old
    · have data : reply.payload ∈ dataOf outputs := mem_dataOf.mpr ⟨_, _, new, rfl⟩
      rw [silent] at data
      cases data

end sound

theorem streamDrops_congr {slot after : MediaSlot} (same : after.dropped = slot.dropped) :
    streamDrops point index after = streamDrops point index slot := by
  rw [streamDrops, same, streamDrops]

theorem streamDrops_stored {slot : MediaSlot} {log : PushLog} (well : TakenWell point index slot)
    (stored : (submitSlot slot submission).2 = EspErr.ok)
    (accounted : Accounted log (streamDrops point index slot) slot.pending) :
    Accounted (log.accept submission) (streamDrops point index (submitSlot slot submission).1) true := by
  have dropped := (submitSlot_stored stored).2.2
  cases waits : slot.pending with
  | false =>
    rw [waits, if_neg Bool.false_ne_true] at dropped
    rw [waits] at accounted
    rw [streamDrops_congr dropped]
    exact accounted.first submission
  | true =>
    obtain ⟨undropped, below⟩ := well.2 waits
    rw [waits, if_pos rfl] at dropped
    have apart : ∀ other : MediaSlot, streamDrops point index other = other.dropped.toNat := by
      intro other
      rw [streamDrops, well.1, undropped]
      rfl
    have next : (submitSlot slot submission).1.dropped.toNat = slot.dropped.toNat + 1 := by
      have bound := slot.dropped.toNat_lt
      have least : slot.dropped.toNat ≠ 0xffffffff := fun full => below (UInt32.toNat_inj.mp full)
      rw [dropped, UInt32.toNat_add, UInt32.toNat_one, Nat.mod_eq_of_lt]
      omega
    rw [apart, next, ← apart]
    rw [waits] at accounted
    exact accounted.replace submission

theorem PushSound.submitted (sound : PushSound config (run, logs)) (there : run.world.services = some state)
    {channel : UInt8} (taken : Taken config state index channel submission)
    (well : TakenWell run.world.point index (slotOf run.world.services index)) :
    PushSound config (⟨⟨some (state.setSlot index (submitSlot (state.media index) submission).1), run.world.point⟩,
      run.outputs ++ []⟩, Function.update logs index ((logs index).accept submission)) := by
  have before : ∀ index, slotOf run.world.services index = state.media index := by
    intro index
    rw [there]
    rfl
  rw [before] at well
  have stored := submitSlot_stored taken.stored
  constructor
  case slots =>
    intro other
    have slot := sound.slots other
    rw [before] at slot
    show SlotSound config (streamDrops run.world.point other ((state.setSlot index _).media other))
      ((state.setSlot index _).media other) (Function.update logs index _ other)
    by_cases here : other = index
    · subst here
      rw [setSlot_same, Function.update_self]
      exact submitSlot_sound slot taken.small taken.stored fun accounted => streamDrops_stored well taken.stored accounted
    · rw [setSlot_other state here, Function.update_of_ne here]
      exact slot
  case starting =>
    intro other header point
    by_cases here : other = index
    · subst here
      have apart := well.1
      have standing : run.world.point = .starting other .pending header := point
      rw [standing, MediaPoint.startsAt, decide_eq_true rfl] at apart
      cases apart
    · have quiet := sound.starting other header point
      rw [before] at quiet
      exact (congrArg MediaSlot.pending (setSlot_other state here _)).trans quiet
  case checked =>
    intro other payloadSize point
    show ((state.setSlot index _).media other).pending = true ∧ ((state.setSlot index _).media other).data.isSome = true
    by_cases here : other = index
    · subst here
      rw [setSlot_same]
      exact ⟨stored.1, stored.2.1⟩
    · have kept := sound.checked other payloadSize point
      rw [before] at kept
      rw [setSlot_other state here]
      exact kept
  case sized =>
    intro other reply member
    rw [List.append_nil] at member
    exact sound.sized other reply member

theorem PushSound.settledStart (sound : PushSound config (run, logs)) {stage : StartStage} {header : WireHeader}
    (there : run.world.services = some state) (point : run.world.point = .starting index stage header) :
    PushSound config (⟨⟨(settleStart state index stage header).services, (settleStart state index stage header).point⟩,
      run.outputs ++ (settleStart state index stage header).outputs⟩, logs) := by
  have slots := sound.slots
  rw [point, there] at slots
  have dropsOther : ∀ other stage, other ≠ index → ∀ slot : MediaSlot,
      streamDrops (.starting index stage header) other slot = slot.dropped.toNat := by
    intro other stage elsewhere slot
    refine streamDrops_apart _ fun now header same => ?_
    cases same
    exact elsewhere rfl
  -- The new slot is sound at the next point, and the others do not see that it moves.
  have moved : ∀ (slot : MediaSlot) (next : MediaPoint),
      SlotSound config (streamDrops next index slot) slot (logs index) →
      (∀ other, other ≠ index → ∀ slot : MediaSlot, streamDrops next other slot = slot.dropped.toNat) → ∀ other,
      SlotSound config (streamDrops next other ((state.setSlot index slot).media other))
        ((state.setSlot index slot).media other) (logs other) := by
    intro slot next here apart other
    by_cases same : other = index
    · subst same
      rwa [setSlot_same]
    · have kept := slots other
      rw [dropsOther other stage same] at kept
      rw [setSlot_other state same, apart other same]
      exact kept
  have slot := slots index
  cases stage with
  | pending =>
    have quiet := sound.starting index header point
    rw [there] at quiet
    have same : { state.media index with pending := false } = state.media index := by
      have waiting : (state.media index).pending = false := quiet
      rw [← waiting]
    constructor
    case slots =>
      refine moved _ (.starting index .dropped header) ?_ fun other elsewhere => dropsOther other .dropped elsewhere
      rw [same]
      have dropsHere : streamDrops (.starting index .dropped header) index (state.media index) =
          streamDrops (.starting index .pending header) index (state.media index) := by
        simp [streamDrops, MediaPoint.startsAt]
      rw [dropsHere]
      exact slot
    case starting =>
      intro other header same
      cases same
    case checked =>
      intro other payloadSize same
      cases same
    case sized =>
      intro other reply member
      exact sound.sized other reply ((List.append_nil run.outputs) ▸ member)
  | dropped =>
    constructor
    case slots =>
      refine moved _ (.starting index .credit header) ?_ fun other elsewhere => dropsOther other .credit elsewhere
      have before : streamDrops (.starting index .dropped header) index (state.media index) = 0 := by
        simp [streamDrops, MediaPoint.startsAt]
      have after : streamDrops (.starting index .credit header) index { state.media index with dropped := 0 } = 0 := by
        simp [streamDrops, MediaPoint.startsAt]
      have held : SlotSound config (streamDrops (.starting index .dropped header) index (state.media index))
        (state.media index) (logs index) := slot
      rw [before] at held
      rw [after]
      exact held.adjusted _ 0
    case starting =>
      intro other header same
      cases same
    case checked =>
      intro other payloadSize same
      cases same
    case sized =>
      intro other reply member
      exact sound.sized other reply ((List.append_nil run.outputs) ▸ member)
  | credit =>
    refine sound.settled rfl rfl ?_
    refine moved _ .resting ?_ fun other _ slot => streamDrops_apart slot fun now header same => by cases same
    have before : streamDrops (.starting index .credit header) index (state.media index) =
        (state.media index).dropped.toNat := by
      simp [streamDrops, MediaPoint.startsAt]
    have held : SlotSound config (streamDrops (.starting index .credit header) index (state.media index))
      (state.media index) (logs index) := slot
    rw [before] at held
    exact held.adjusted 0 _

theorem PushSound.copied (sound : PushSound config (run, logs)) {state : MediaState} {index : Fin 3} {data : List UInt8}
    (there : run.world.services = some state)
    (point : run.world.point = .checked index (dataHeaderSize + (state.media index).size))
    (present : (state.media index).data = some data) (rxWire : Vector UInt8 maxWireFrameSize) {copied : MediaSlot × Reply}
    (made : copied = copySlot (state.media index) index data rxWire.toList (dataHeaderSize + (state.media index).size)) :
    PushSound config (⟨⟨some (state.setSlot index copied.1), .resting⟩, run.outputs ++ [.data index copied.2]⟩,
      if (state.media index).pull then logs else Function.update logs index ((logs index).emit copied.2.payload)) := by
  have slots : ∀ other, SlotSound config (state.media other).dropped.toNat (state.media other) (logs other) := by
    intro other
    have slot := sound.apart other fun stage header same => by
      rw [point] at same
      cases same
    rwa [there] at slot
  have pending : (state.media index).pending = true := by
    have kept := (sound.checked index _ point).1
    rwa [there] at kept
  have active : (state.media index).active = true := by
    by_contra inactive
    have quiet := (slots index).idle (Bool.eq_false_of_not_eq_true inactive)
    rw [pending] at quiet
    cases quiet
  have slot := slots index
  constructor
  case slots =>
    intro other
    show SlotSound config ((state.setSlot index copied.1).media other).dropped.toNat
      ((state.setSlot index copied.1).media other)
      ((if (state.media index).pull then logs else Function.update logs index ((logs index).emit copied.2.payload)) other)
    by_cases here : other = index
    · subst here
      rw [setSlot_same]
      cases pull : (state.media other).pull with
      | true =>
        rw [if_pos rfl, made]
        exact slot.unpushed slot.size (fun _ => rfl) fun pushes => absurd (pull.symm.trans pushes.2) Bool.noConfusion
      | false =>
        rw [if_neg Bool.false_ne_true, Function.update_self]
        obtain ⟨waiting, carried, holds⟩ := slot.carried
        obtain ⟨submission, same, held⟩ := holds ⟨active, pull⟩ pending
        rw [same] at carried
        have counted := slot.counted ⟨active, pull⟩
        rw [pending] at counted
        rw [made]
        refine ⟨slot.size, fun _ => rfl, ⟨none, ?_, fun _ waits => Bool.noConfusion waits⟩, fun _ => counted.emit _⟩
        exact carried.emit (held.carried present other rxWire slot.size)
    · rw [setSlot_other state here]
      split
      next => exact slots other
      rw [Function.update_of_ne here]
      exact slots other
  case starting =>
    intro other header same
    cases same
  case checked =>
    intro other payloadSize same
    cases same
  case sized =>
    intro other reply member
    rcases List.mem_append.mp member with old | new
    · exact sound.sized other reply old
    · cases List.mem_singleton.mp new
      obtain ⟨body, payload, length, _⟩ := copySlot_payload index data rxWire slot.size
      rw [made, payload, List.length_append, dataHeader_length, length, dataHeader_size body slot.size]

theorem notePush_call {event : MediaEvent} (call : event.isCall = true)
    (refused : ∀ channel submission, event = .submit channel submission →
      submitAccepted config run.world.services channel submission = false) (after : MediaRun) :
    notePush config logs run event after = logs := by
  cases event with
  | submit channel submission =>
    unfold notePush
    dsimp only
    split
    next => rfl
    rw [refused channel submission rfl]
    rfl
  | frame | credit | settle | poll | look | check | copy | endSession | endSlot => cases call
  | _ => rfl

theorem notePush_passed (passes : event.passes = true) {after : MediaRun} (quiet : after.world.point.quiet = true) :
    notePush config logs run event after = logs := by
  cases event with
  | frame frame answers =>
    unfold notePush
    dsimp only
    split
    next point =>
      rw [point] at quiet
      cases quiet
    next => rfl
  | submit | copy => cases passes
  | _ => rfl

theorem PushSound.step (sound : PushSound config (run, logs)) {move : MediaMove} (well : PushesWell config run event)
    (moved : SlotsMoved config run.world event move) :
    PushSound config (⟨⟨move.services, move.point⟩, run.outputs ++ move.outputs⟩,
      notePush config logs run event ⟨⟨move.services, move.point⟩, run.outputs ++ move.outputs⟩) := by
  have apart : ∀ {point : MediaPoint}, run.world.point = point → (∀ index stage header, point ≠ .starting index stage header) →
      ∀ {state : MediaState}, run.world.services = some state → ∀ other,
        SlotSound config (state.media other).dropped.toNat (state.media other) (logs other) := by
    intro point here elsewhere state there other
    have slot := sound.apart other fun stage header same => elsewhere other stage header (here.symm.trans same)
    rwa [there] at slot
  cases moved with
  | called call refused kept held =>
    rw [notePush_call call refused]
    exact sound.keeping kept held
  | @submitted state index there channel submission named accepted taken =>
    unfold PushesWell at well
    unfold notePush
    dsimp only at well ⊢
    rw [named] at well ⊢
    dsimp only at well ⊢
    rw [if_pos accepted]
    exact sound.submitted there taken (well accepted)
  | passed passes settled between silent kept =>
    rw [notePush_passed passes (between_quiet between)]
    refine sound.settled (between_quiet between) silent fun index => ?_
    exact (sound.apart index (settled index)).kept (kept index) fun same => congrArg (fun slot => slot.dropped.toNat) same
  | started resting found idle size active pending begun frame answers silent =>
    exact sound.started resting found idle size active pending frame.header silent
  | @credited state index there resting channel amount credit =>
    refine sound.settled rfl rfl fun other => ?_
    have slot := apart resting (by intro _ _ _ same; cases same) there other
    show SlotSound config ((state.setSlot index _).media other).dropped.toNat ((state.setSlot index _).media other) _
    rw [setSlot_media]
    split
    next here =>
      subst here
      exact slot.adjusted _ _
    next => exact slot
  | uncredited resting channel amount => exact sound.settled rfl rfl (sound.resting resting)
  | settled there point => exact sound.settledStart there point
  | @looked state index there point answer now =>
    have slots := apart point (by intro _ _ _ same; cases same) there
    refine sound.settled rfl (lookSlot_silent answer now) fun other => ?_
    unfold lookSlot
    show SlotSound config ((state.setSlot index _).media other).dropped.toNat ((state.setSlot index _).media other) _
    rw [setSlot_media]
    split
    next here =>
      subst here
      split
      next first =>
        rw [← first, preparePullScreen_dropped]
        exact preparePullScreen_sound (slots other) answer now
      next => exact slots other
    next => exact slots other
  | @checked state index payloadSize there point sends =>
    unfold sendable at sends
    simp only [Bool.and_eq_true] at sends
    constructor
    case slots => exact apart point (by intro _ _ _ same; cases same) there
    case starting =>
      intro other header same
      cases same
    case checked =>
      intro other size same
      cases same
      exact ⟨sends.1.1.2, sends.1.2⟩
    case sized =>
      intro other reply member
      exact sound.sized other reply ((List.append_nil run.outputs) ▸ member)
  | @copied state index payloadSize data there point present rxWire =>
    unfold PushesWell at well
    unfold notePush
    dsimp only at well ⊢
    rw [point, there] at well
    have read : payloadSize = dataHeaderSize + (state.media index).size := well
    subst read
    rw [point, there]
    dsimp only [MediaMove.done]
    rw [List.drop_left]
    exact sound.copied there point present rxWire rfl

end steps

section runs
variable {config : MediaConfig}

theorem PushSound.initial : PushSound config (⟨.initial, []⟩, fun _ => .empty) where
  slots := fun _ => .zero .empty .empty
  starting := by
    intro index header same
    cases same
  checked := by
    intro index payloadSize same
    cases same
  sized := by
    intro index reply member
    cases member

theorem pushSound_invariant : Invariant
    ((pushSystem config).guarded fun noted event => PushesWell config noted.1 event) (PushSound config) where
  start := by
    rintro ⟨run, logs⟩ ⟨started, empty⟩
    cases started
    cases empty
    exact .initial
  step := by
    rintro ⟨run, logs⟩ event ⟨after, more⟩ sound ⟨well, step, noted⟩
    obtain ⟨move, stepped, rfl⟩ := mediaSystem_stepped step
    obtain rfl : more = notePush config logs run event ⟨⟨move.services, move.point⟩, run.outputs ++ move.outputs⟩ := noted
    exact sound.step well (stepped_moved stepped)

/-- Where no submission of another size comes between the reading of the size and the copy, and none while
its stream is being set up, what is put out are submissions, and every one that was taken is accounted for. -/
theorem media_push_integrity {noted : MediaRun × (Fin 3 → PushLog)}
    (reached : Reachable ((pushSystem config).guarded fun noted event => PushesWell config noted.1 event) noted) :
    PushIntegrity noted := by
  have sound := pushSound_invariant.reachable reached
  exact ⟨sound.sized, fun index => (sound.slots index).once.once, fun index => (sound.slots index).counted⟩

end runs

instance (point : MediaPoint) (index : Fin 3) (slot : MediaSlot) : Decidable (TakenWell point index slot) := by
  unfold TakenWell
  infer_instance

instance (config : MediaConfig) (run : MediaRun) (event : MediaEvent) : Decidable (PushesWell config run event) := by
  unfold PushesWell
  repeat' (first | infer_instance | split)

def pushedFrame (size : Nat) : MediaEvent := .submit Channel.screen ⟨.zero, 1, 0, List.replicate size 7, 0⟩

def pushStream : List MediaEvent :=
  [.frame (screenRequest MediaType.mirrorStart (List.replicate 16 0 ++ [10, 0, 0, 0])) (beginsWith 4), .settle, .settle,
    .settle, .acquire, .credit Channel.screen 1000]

def polledAround (between : List MediaEvent) : List MediaEvent :=
  [.poll, .look ⟨EspErr.ok, [], 0⟩ 0] ++ between ++ [.check, .copy (.replicate maxWireFrameSize 0)]

/-- A larger frame that replaces the one whose size was read is sent with the size of the first. -/
theorem push_frame_cut : ¬ ∀ noted, Reachable (pushSystem smallestConfig) noted → PushIntegrity noted := by
  intro integrity
  obtain ⟨noted, run, checked⟩ : ∃ noted, Run (pushSystem smallestConfig) (⟨.initial, []⟩, fun _ => .empty)
      (pushStream ++ [pushedFrame 10] ++ polledAround [pushedFrame 20]) noted ∧
      ((dataOf noted.1.outputs).any fun payload => payload.length ≠ dataHeaderSize + (irisGetLe16 payload 18).toNat) =
        true := by
    unfold pushSystem mediaSystem
    rw [System.recorded_ofPartial]
    exact Run.of_check (by decide +kernel)
  obtain ⟨payload, member, cut⟩ := List.any_eq_true.mp checked
  obtain ⟨index, reply, sent, rfl⟩ := mem_dataOf.mp member
  have start : (pushSystem smallestConfig).start (⟨.initial, []⟩, fun _ => .empty) := ⟨rfl, rfl⟩
  exact of_decide_eq_true cut ((integrity noted ⟨_, _, start, run⟩).sized index reply sent)

/-- Two frames are pushed, and the second is put out in place of the first. -/
theorem media_push_integrity_replaced : ∃ noted, PushIntegrity noted ∧ (noted.2 0).accepted.length = 2 ∧
    (noted.2 0).emitted.length = 1 := by
  obtain ⟨noted, run, checked⟩ : ∃ noted,
      Run ((pushSystem smallestConfig).guarded fun noted event => PushesWell smallestConfig noted.1 event)
        (⟨.initial, []⟩, fun _ => .empty) (pushStream ++ [pushedFrame 10, pushedFrame 20] ++ polledAround []) noted ∧
      decide ((noted.2 0).accepted.length = 2 ∧ (noted.2 0).emitted.length = 1) = true := by
    unfold pushSystem mediaSystem
    rw [System.recorded_ofPartial]
    exact Run.of_guarded_check (by decide +kernel)
  have start : (pushSystem smallestConfig).start (⟨.initial, []⟩, fun _ => .empty) := ⟨rfl, rfl⟩
  exact ⟨noted, media_push_integrity ⟨_, _, start, run⟩, of_decide_eq_true checked⟩

end EspIris.Device.Media
