import EspIris.Gateway.SerialLink
import Mathlib.Data.List.Sublists

/-! The port gets whole frames in the order of the write lock, as long as nobody is granted the
lock while a call that its sender left still runs, and no call of `serial.write` stops half way. -/

namespace EspIris.Gateway
open Codec.Host (Frame encodeFrame)
open Machine

def SerialWrite.sent (write : SerialWrite) : List UInt8 := write.data.take write.taken

def SerialWrite.settled (write : SerialWrite) : Prop :=
  write.awaited = false ∧ (write.taken = write.data.length ∨ (write.taken = 0 ∧ write.stage = .over))

structure Framed (writes : List SerialWrite) (stream : List UInt8) : Prop where
  stream : stream = (writes.map SerialWrite.sent).flatten
  bound : ∀ write ∈ writes, write.taken ≤ write.data.length
  queued : ∀ write ∈ writes, write.stage = .queued → write.awaited ∧ write.taken = 0
  isOver : ∀ write ∈ writes, write.stage = .over → write.taken = 0 ∨ write.taken = write.data.length
  earlier : ∀ number write, writes[number]? = some write → number + 1 < writes.length → write.settled

theorem map_set_same {α β : Type} {list : List α} {number : Nat} {old new : α} (f : α → β) (is : list[number]? = some old)
    (same : f new = f old) : (list.set number new).map f = list.map f := by
  obtain ⟨inside, rfl⟩ := List.getElem?_eq_some_iff.mp is
  rw [List.map_set, same, ← List.getElem_map f, List.set_getElem_self]
  rwa [List.length_map]

theorem set_cases {α : Type} {list : List α} {number other : Nat} {new found : α}
    (is : (list.set number new)[other]? = some found) :
    (other = number ∧ found = new) ∨ (other ≠ number ∧ list[other]? = some found) := by
  rw [List.getElem?_set] at is
  split at is
  next same =>
    split at is
    · exact .inl ⟨same.symm, (Option.some.inj is).symm⟩
    · contradiction
  next different => exact .inr ⟨fun same => different same.symm, is⟩

section framed
variable {writes : List SerialWrite} {stream : List UInt8} {number : Nat} {write new : SerialWrite}

theorem set_data (is : writes[number]? = some write) (data : new.data = write.data) :
    (writes.set number new).map (fun write => some write.data) = writes.map fun write => some write.data :=
  map_set_same _ is (congrArg some data)

theorem Framed.set (framed : Framed writes stream) (is : writes[number]? = some write) (data : new.data = write.data)
    (taken : new.taken = write.taken) (begun : new.stage ≠ .queued)
    (fits : new.stage = .over → new.taken = 0 ∨ new.taken = new.data.length) (settled : write.settled → new.settled) :
    Framed (writes.set number new) stream where
  stream := by
    rw [map_set_same SerialWrite.sent is (by rw [SerialWrite.sent, SerialWrite.sent, data, taken])]
    exact framed.stream
  bound := by
    intro other member
    rcases List.mem_or_eq_of_mem_set member with old | rfl
    · exact framed.bound other old
    · rw [data, taken]
      exact framed.bound write (List.mem_of_getElem? is)
  queued := by
    intro other member queued
    rcases List.mem_or_eq_of_mem_set member with old | rfl
    · exact framed.queued other old queued
    · exact absurd queued begun
  isOver := by
    intro other member isOver
    rcases List.mem_or_eq_of_mem_set member with old | rfl
    · exact framed.isOver other old isOver
    · exact fits isOver
  earlier := by
    intro place other isOther before
    rw [List.length_set] at before
    rcases set_cases isOther with ⟨rfl, rfl⟩ | ⟨_, old⟩
    · exact settled (framed.earlier place write is before)
    · exact framed.earlier place other old before

theorem Framed.last (framed : Framed writes stream) (is : writes[number]? = some write)
    (unsettled : ¬ write.settled) : number + 1 = writes.length := by
  obtain ⟨inside, _⟩ := List.getElem?_eq_some_iff.mp is
  by_contra different
  exact unsettled (framed.earlier number write is (by omega))

theorem set_last {α : Type} {list : List α} {number : Nat} {old : α} (is : list[number]? = some old)
    (last : number + 1 = list.length) (new : α) :
    list = list.take number ++ [old] ∧ list.set number new = list.take number ++ [new] := by
  obtain ⟨inside, rfl⟩ := List.getElem?_eq_some_iff.mp is
  have none : list.drop (number + 1) = [] := List.drop_eq_nil_of_le (Nat.le_of_eq last.symm)
  constructor
  · rw [List.take_append_getElem inside, last, List.take_length]
  · rw [List.set_eq_take_append_cons_drop, if_pos inside, none]

theorem Framed.put (framed : Framed writes stream) (is : writes[number]? = some write) (running : write.stage = .running)
    {byte : UInt8} (next : write.data[write.taken]? = some byte) :
    Framed (writes.set number { write with taken := write.taken + 1 }) (stream ++ [byte]) := by
  obtain ⟨inside, isByte⟩ := List.getElem?_eq_some_iff.mp next
  have unsettled : ¬ write.settled := by
    rintro ⟨_, whole | ⟨_, isOver⟩⟩
    · omega
    · rw [running] at isOver
      contradiction
  have last := framed.last is unsettled
  obtain ⟨before, after⟩ := set_last is last { write with taken := write.taken + 1 }
  constructor
  · have grows : SerialWrite.sent { write with taken := write.taken + 1 } = write.sent ++ [byte] := by
      rw [SerialWrite.sent, SerialWrite.sent, ← isByte, List.take_append_getElem inside]
    have was := framed.stream
    rw [before, List.map_append, List.flatten_append] at was
    rw [after, List.map_append, List.flatten_append, was, List.append_assoc]
    simp only [List.map_cons, List.map_nil, List.flatten_cons, List.flatten_nil, List.append_nil, grows]
  · intro other member
    rcases List.mem_or_eq_of_mem_set member with old | rfl
    · exact framed.bound other old
    · exact inside
  · intro other member queued
    rcases List.mem_or_eq_of_mem_set member with old | rfl
    · exact framed.queued other old queued
    · rw [running] at queued
      contradiction
  · intro other member isOver
    rcases List.mem_or_eq_of_mem_set member with old | rfl
    · exact framed.isOver other old isOver
    · rw [running] at isOver
      contradiction
  · intro place other isOther earlier
    rw [List.length_set] at earlier
    rcases set_cases isOther with ⟨rfl, _⟩ | ⟨_, old⟩
    · omega
    · exact framed.earlier place other old earlier

theorem Framed.leave (framed : Framed writes stream) : Framed (writes.map SerialWrite.leave) stream where
  stream := by
    rw [List.map_map]
    exact framed.stream
  bound := by
    intro other member
    obtain ⟨old, isOld, rfl⟩ := List.mem_map.mp member
    exact framed.bound old isOld
  queued := by
    intro other member queued
    obtain ⟨old, isOld, rfl⟩ := List.mem_map.mp member
    simp only [SerialWrite.leave] at queued
    split at queued
    · contradiction
    next begun => exact absurd queued begun
  isOver := by
    intro other member isOver
    obtain ⟨old, isOld, rfl⟩ := List.mem_map.mp member
    simp only [SerialWrite.leave] at isOver
    split at isOver
    next queued => exact .inl (framed.queued old isOld queued).2
    next => exact framed.isOver old isOld isOver
  earlier := by
    intro place other isOther earlier
    rw [List.length_map] at earlier
    rw [List.getElem?_map] at isOther
    obtain ⟨old, isOld, rfl⟩ := Option.map_eq_some_iff.mp isOther
    obtain ⟨_, whole | ⟨nothing, isOver⟩⟩ := framed.earlier place old isOld earlier
    · exact ⟨rfl, .inl whole⟩
    · refine ⟨rfl, .inr ⟨nothing, ?_⟩⟩
      simp only [SerialWrite.leave, isOver]
      split <;> rfl

theorem Framed.append (framed : Framed writes stream) (settled : ∀ write ∈ writes, write.settled) (data : List UInt8)
    (closing : Bool) : Framed (writes ++ [⟨data, 0, if closing then .over else .queued, true⟩]) stream where
  stream := by
    rw [List.map_append, List.flatten_append, ← framed.stream]
    exact (List.append_nil stream).symm
  bound := by
    intro other member
    rcases List.mem_append.mp member with old | new
    · exact framed.bound other old
    · cases List.mem_singleton.mp new
      exact Nat.zero_le _
  queued := by
    intro other member queued
    rcases List.mem_append.mp member with old | new
    · exact framed.queued other old queued
    · cases List.mem_singleton.mp new
      exact ⟨rfl, rfl⟩
  isOver := by
    intro other member isOver
    rcases List.mem_append.mp member with old | new
    · exact framed.isOver other old isOver
    · cases List.mem_singleton.mp new
      exact .inl rfl
  earlier := by
    intro place other isOther earlier
    rw [List.length_append, List.length_singleton] at earlier
    rw [List.getElem?_append_left (by omega)] at isOther
    exact settled other (List.mem_of_getElem? isOther)

/-- Calls that are there as a whole or not at all make a stream of whole frames. -/
theorem whole_frames (ends : ∀ write ∈ writes, write.taken = 0 ∨ write.taken = write.data.length) :
    ∃ whole : List (List UInt8), whole.Sublist (writes.map SerialWrite.data) ∧
      (writes.map SerialWrite.sent).flatten = whole.flatten := by
  induction writes with
  | nil => exact ⟨[], .slnil, rfl⟩
  | cons write writes ih =>
    obtain ⟨whole, among, same⟩ := ih fun other member => ends other (List.mem_cons_of_mem _ member)
    rcases ends write List.mem_cons_self with nothing | all
    · refine ⟨whole, among.cons _, ?_⟩
      rw [List.map_cons, List.flatten_cons, same, SerialWrite.sent, nothing, List.take_zero, List.nil_append]
    · refine ⟨write.data :: whole, among.cons_cons _, ?_⟩
      rw [List.map_cons, List.flatten_cons, same, SerialWrite.sent, all, List.take_length, List.flatten_cons]

def CutFrames (frames : List (List UInt8)) (stream : List UInt8) : Prop :=
  ∃ (whole : List (List UInt8)) (part : List UInt8), whole.Sublist frames.dropLast ∧
    part <+: frames.getLast?.getD [] ∧ stream = whole.flatten ++ part

theorem Framed.cut (framed : Framed writes stream) : CutFrames (writes.map SerialWrite.data) stream := by
  rcases List.eq_nil_or_concat writes with rfl | ⟨earlier, last, is⟩
  · exact ⟨[], [], .slnil, List.prefix_rfl, framed.stream⟩
  · rw [List.concat_eq_append] at is
    subst is
    have ends : ∀ write ∈ earlier, write.taken = 0 ∨ write.taken = write.data.length := by
      intro write member
      obtain ⟨number, is⟩ := List.mem_iff_getElem?.mp member
      obtain ⟨inside, _⟩ := List.getElem?_eq_some_iff.mp is
      have there : (earlier ++ [last])[number]? = some write := (List.getElem?_append_left inside).trans is
      obtain ⟨_, whole | ⟨nothing, _⟩⟩ := framed.earlier number write there (by simpa using inside)
      · exact .inr whole
      · exact .inl nothing
    obtain ⟨whole, among, same⟩ := whole_frames ends
    refine ⟨whole, last.sent, ?_, ?_, ?_⟩
    · rw [List.map_append, List.map_singleton, List.dropLast_concat]
      exact among
    · rw [List.map_append, List.map_singleton, List.getLast?_concat]
      exact List.take_prefix _ _
    · rw [framed.stream, List.map_append, List.flatten_append, same]
      simp only [List.map_singleton, List.flatten_cons, List.flatten_nil, List.append_nil]

end framed

/-- The calls of `write` are the frames that were handed over, and whoever is awaited holds the lock. -/
structure Framing (link : SerialLink) : Prop extends Framed link.writes link.stream where
  frames : link.session.wire.map (fun sent => (encodeFrame sent.frame).toOption) =
    link.writes.map fun write => some write.data
  awaited : ∀ write ∈ link.writes, write.awaited → link.session.writer.isSome

/-- Nobody is granted the write lock while a call whose sender left has bytes to write, and no
call of `serial.write` raises between its bytes. -/
def WritesApart (link : SerialLink) : SerialEvent → Prop
  | .host (.turn _) => ∀ write ∈ link.writes, write.stage = .running → write.taken = write.data.length
  | .raised number _ => ∀ write ∈ link.writes[number]?, write.taken = 0 ∨ write.taken = write.data.length
  | _ => True

instance (link : SerialLink) (event : SerialEvent) : Decidable (WritesApart link event) := by
  unfold WritesApart
  split <;> infer_instance

theorem Framing.session {link : SerialLink} (framing : Framing link) {session : HostState}
    (wire : session.wire = link.session.wire) (awaited : ∀ write ∈ link.writes, write.awaited → session.writer.isSome) :
    Framing { link with session := session } :=
  { framing.toFramed with
    frames := wire ▸ framing.frames
    awaited := awaited }

theorem Framing.leave {link : SerialLink} (framing : Framing link) : Framing link.leave ∧
    ∀ write ∈ link.leave.writes, write.awaited = false := by
  have left : ∀ write ∈ link.leave.writes, write.awaited = false := by
    intro write member
    obtain ⟨old, _, rfl⟩ := List.mem_map.mp member
    rfl
  refine ⟨{ framing.toFramed.leave with frames := ?_, awaited := fun write member awaits => ?_ }, left⟩
  · rw [SerialLink.leave, List.map_map]
    exact framing.frames
  · rw [left write member] at awaits
    contradiction

theorem Framing.followed {link : SerialLink} (framing : Framing link) {session : HostState}
    (wire : session.wire = link.session.wire) : Framing (link.follow session) := by
  unfold SerialLink.follow
  rw [wire, List.drop_length]
  dsimp only
  split
  next =>
    obtain ⟨left, none⟩ := framing.leave
    refine left.session wire fun write member awaits => ?_
    rw [none write member] at awaits
    contradiction
  next stays =>
    refine framing.session wire fun write member awaits => ?_
    have holds := framing.awaited write member awaits
    by_cases same : session.writer = link.session.writer
    · rw [same]
      exact holds
    · exact absurd ⟨holds, same⟩ stays

theorem Framing.handed {link : SerialLink} (framing : Framing link) {session : HostState}
    (hands : HandsOver link.session session)
    (apart : ∀ write ∈ link.writes, write.stage = .running → write.taken = write.data.length) :
    Framing (link.follow session) := by
  obtain ⟨free, holds, sent, data, encodes, wire⟩ := hands
  have unawaited : ∀ write ∈ link.writes, write.awaited = false := by
    intro write member
    refine Bool.eq_false_iff.mpr fun awaits => ?_
    have holder := framing.awaited write member awaits
    rw [free] at holder
    contradiction
  have settled : ∀ write ∈ link.writes, write.settled := by
    intro write member
    refine ⟨unawaited write member, ?_⟩
    cases stage : write.stage with
    | queued =>
      have awaits := (framing.queued write member stage).1
      rw [unawaited write member] at awaits
      contradiction
    | running => exact .inl (apart write member stage)
    | _ =>
      rcases framing.isOver write member stage with nothing | all
      · exact .inr ⟨nothing, rfl⟩
      · exact .inl all
  unfold SerialLink.follow
  rw [wire, List.drop_left]
  dsimp only
  rw [if_neg (by rw [free]; exact fun both => absurd both.1 Bool.false_ne_true), encodes]
  refine { framing.toFramed.append settled data link.closing with frames := ?_, awaited := ?_ }
  · simp only [SerialLink.write, wire, List.map_append, framing.frames, List.map_singleton, encodes]
    rfl
  · intro _ _ _
    exact holds

theorem Framing.answered {link : SerialLink} (framing : Framing link) {number : Nat} {write : SerialWrite}
    {session : HostState} {answers : HostState → Sender → Option HostState}
    (is : link.writes[number]? = some write) (ends : write.taken = 0 ∨ write.taken = write.data.length)
    (answer : link.answer write answers = some session)
    (keeps : ∀ sender after, answers link.session sender = some after → after.wire = link.session.wire) :
    Framing { link.setWrite number { write with stage := .over, awaited := false } with session := session } := by
  have set : Framed (link.writes.set number { write with stage := .over, awaited := false }) link.stream := by
    refine framing.toFramed.set is rfl rfl nofun (fun _ => ends) fun _ => ⟨rfl, ?_⟩
    exact ends.symm.imp_right fun nothing => ⟨nothing, rfl⟩
  have frames : link.session.wire.map (fun sent => (encodeFrame sent.frame).toOption) =
      (link.writes.set number { write with stage := .over, awaited := false }).map fun write => some write.data := by
    refine framing.frames.trans (set_data is ?_).symm
    rfl
  have isOver (other : SerialWrite) (member : other ∈ link.writes.set number { write with stage := .over, awaited := false })
      (awaits : other.awaited) : other ∈ link.writes := by
    rcases List.mem_or_eq_of_mem_set member with old | rfl
    · exact old
    · contradiction
  unfold SerialLink.answer at answer
  split at answer
  next awaited =>
    obtain ⟨sender, _, gets⟩ := Option.bind_eq_some_iff.mp answer
    have same := keeps sender session gets
    refine { set with frames := same ▸ frames, awaited := fun other member awaits => ?_ }
    -- the call that was awaited is the last one, and no other is awaited
    have last := framing.last is fun settled => by rw [settled.1] at awaited; contradiction
    obtain ⟨place, isOther⟩ := List.mem_iff_getElem?.mp member
    rcases set_cases isOther with ⟨_, rfl⟩ | ⟨different, old⟩
    · contradiction
    · obtain ⟨inside, _⟩ := List.getElem?_eq_some_iff.mp old
      have settled := framing.earlier place other old (by omega)
      rw [settled.1] at awaits
      contradiction
  cases answer
  exact { set with
    frames := frames
    awaited := fun other member awaits => framing.awaited other (isOver other member awaits) awaits }

section link
variable (hmac : List UInt8 → List UInt8 → List UInt8)

theorem framing_step {before after : SerialLink} {event : SerialEvent} (framing : Framing before)
    (apart : WritesApart before event) (step : serialNext hmac before event = some after) : Framing after := by
  cases event with
  | host event =>
    have follows (moves : (hostNext hmac before.session event).map before.follow = some after) : Framing after := by
      obtain ⟨session, goes, rfl⟩ := Option.map_eq_some_iff.mp moves
      rcases hostNext_wire hmac goes with same | ⟨⟨sender, rfl⟩, hands⟩
      · exact framing.followed same
      · exact framing.handed hands apart
    cases event with
    | written _ => contradiction
    | failed _ _ => contradiction
    | _ => exact follows step
  | pick number =>
    obtain ⟨write, is, picks⟩ := Option.bind_eq_some_iff.mp step
    rw [Option.ite_none_right_eq_some] at picks
    obtain ⟨queued, picks⟩ := picks
    cases picks
    have set : Framed (before.writes.set number { write with stage := .running }) before.stream := by
      refine framing.toFramed.set is rfl rfl nofun nofun fun settled => ⟨settled.1, settled.2.imp_right ?_⟩
      rintro ⟨_, isOver⟩
      rw [queued] at isOver
      contradiction
    refine { set with frames := ?_, awaited := fun other member awaits => ?_ }
    · refine framing.frames.trans (set_data is ?_).symm
      rfl
    · rcases List.mem_or_eq_of_mem_set member with old | rfl
      · exact framing.awaited other old awaits
      · exact framing.awaited write (List.mem_of_getElem? is) awaits
  | put number =>
    obtain ⟨write, is, puts⟩ := Option.bind_eq_some_iff.mp step
    rw [Option.ite_none_right_eq_some] at puts
    obtain ⟨running, puts⟩ := puts
    obtain ⟨byte, next, rfl⟩ := Option.map_eq_some_iff.mp puts
    refine { framing.toFramed.put is running next with frames := ?_, awaited := fun other member awaits => ?_ }
    · refine framing.frames.trans (set_data is ?_).symm
      rfl
    · rcases List.mem_or_eq_of_mem_set member with old | rfl
      · exact framing.awaited other old awaits
      · exact framing.awaited write (List.mem_of_getElem? is) awaits
  | returned number =>
    obtain ⟨write, is, returns⟩ := Option.bind_eq_some_iff.mp step
    rw [Option.ite_none_right_eq_some] at returns
    obtain ⟨⟨_, all⟩, returns⟩ := returns
    obtain ⟨session, answer, rfl⟩ := Option.map_eq_some_iff.mp returns
    exact framing.answered is (.inr all) answer fun _ _ => written_wire
  | raised number raised =>
    obtain ⟨write, is, raises⟩ := Option.bind_eq_some_iff.mp step
    rw [Option.ite_none_right_eq_some] at raises
    obtain ⟨_, raises⟩ := raises
    obtain ⟨session, answer, rfl⟩ := Option.map_eq_some_iff.mp raises
    exact framing.answered is (apart write is) answer fun _ _ => failed_wire
  | interruptReader raised =>
    rw [serialNext, Option.ite_none_right_eq_some] at step
    obtain ⟨_, interrupts⟩ := step
    obtain ⟨session, goes, rfl⟩ := Option.map_eq_some_iff.mp interrupts
    exact framing.followed (failed_wire goes)
  | close =>
    cases step
    exact { framing with }

theorem framing_invariant : Invariant ((serialLink hmac).guarded WritesApart) Framing where
  start := by
    rintro _ ⟨endpoint, pairingToken, rfl⟩
    exact ⟨⟨rfl, nofun, nofun, nofun, nofun⟩, rfl, nofun⟩
  step := fun before event after framing step => framing_step hmac framing step.1 step.2

/-- The port gets the frames in the order in which their senders got the write lock, each as a
whole or not at all, and the last of them cut where its worker is; without a call that is not over
it has whole frames only. -/
theorem serial_writes_framed {link : SerialLink} (reached : Reachable ((serialLink hmac).guarded WritesApart) link) :
    ∃ frames : List (List UInt8),
      link.session.wire.map (fun sent => (encodeFrame sent.frame).toOption) = frames.map some ∧
      CutFrames frames link.stream ∧
      ((∀ write ∈ link.writes, write.stage = .over) →
        ∃ whole : List (List UInt8), whole.Sublist frames ∧ link.stream = whole.flatten) := by
  have framing := (framing_invariant hmac).reachable reached
  refine ⟨link.writes.map SerialWrite.data, ?_, framing.toFramed.cut, fun isOver => ?_⟩
  · rw [List.map_map]
    exact framing.frames
  · obtain ⟨whole, among, same⟩ := whole_frames fun write member => framing.isOver write member (isOver write member)
    exact ⟨whole, among, framing.stream.trans same⟩

end link

def portTakes (number length : Nat) : List SerialEvent :=
  [.host (.perform none), .host (.turn .reader), .pick number] ++ List.replicate length (.put number) ++ [.returned number]

def grantsWait : List SerialEvent :=
  [.host (.frame (plainHello 7 0 1) [])] ++ portTakes 0 38 ++ portTakes 1 46 ++
    List.replicate 3 (.host (.perform none)) ++ [.host (.grant 6 1024), .host (.grant 6 1024), .host (.turn (.task 0))]

def grantWritten : List SerialEvent :=
  grantsWait ++ [.host (.cancel 0), .host (.turn (.task 1)), .pick 3] ++ List.replicate 46 (.put 3) ++ [.returned 3]

theorem serial_writes_framed_grant : ∃ link, Reachable ((serialLink fun _ _ => []).guarded WritesApart) link ∧
    link.session.wire.length = 4 ∧ link.stream.length = 130 ∧ ∃ frames : List (List UInt8),
      link.session.wire.map (fun sent => (encodeFrame sent.frame).toOption) = frames.map some ∧
        ∃ whole : List (List UInt8), whole.Sublist frames ∧ link.stream = whole.flatten := by
  obtain ⟨link, run, check⟩ : ∃ link, Run ((serialLink fun _ _ => []).guarded WritesApart)
      ⟨.initial "usb" none, false, [], []⟩ grantWritten link ∧
      (link.session.wire.length = 4 && link.stream.length = 130 &&
        link.writes.all fun write => write.stage = .over) = true := Run.of_guarded_check (by decide +kernel)
  simp only [Bool.and_eq_true, decide_eq_true_eq, List.all_eq_true] at check
  have reached : Reachable ((serialLink fun _ _ => []).guarded WritesApart) link :=
    ⟨_, grantWritten, ⟨"usb", none, rfl⟩, run⟩
  obtain ⟨frames, are, _, atRest⟩ := serial_writes_framed (fun _ _ => []) reached
  exact ⟨link, reached, check.1.1, check.1.2, frames, are, atRest check.2⟩

/-- Every way to cut the stream that `CutFrames` allows is tried. -/
def triesCut (frames : List (List UInt8)) (stream : List UInt8) : Bool :=
  frames.dropLast.sublists.any fun whole =>
    whole.flatten.isPrefixOf stream && (stream.drop whole.flatten.length).isPrefixOf (frames.getLast?.getD [])

theorem CutFrames.tried {frames : List (List UInt8)} {stream : List UInt8} (cut : CutFrames frames stream) :
    triesCut frames stream = true := by
  obtain ⟨whole, part, among, isPart, rfl⟩ := cut
  refine List.any_eq_true.mpr ⟨whole, List.mem_sublists.mpr among, ?_⟩
  rw [Bool.and_eq_true, List.isPrefixOf_iff_prefix, List.isPrefixOf_iff_prefix, List.drop_left]
  exact ⟨List.prefix_append _ _, isPart⟩

def cancelledGrant : List SerialEvent :=
  grantsWait ++ [.pick 2, .put 2, .host (.cancel 0), .host (.turn (.task 1)), .pick 3, .put 3, .put 2]

/-- The first grant is cancelled while a worker has written one byte of it: the second one gets the
lock, and the port gets its first byte before the rest of the first. -/
theorem cancelled_write_interleaves : ∃ link, Reachable (serialLink fun _ _ => []) link ∧
    ∀ frames : List (List UInt8), link.session.wire.map (fun sent => (encodeFrame sent.frame).toOption) = frames.map some →
      ¬ CutFrames frames link.stream := by
  obtain ⟨link, run, check⟩ : ∃ link, Run (serialLink fun _ _ => []) ⟨.initial "usb" none, false, [], []⟩ cancelledGrant
      link ∧
      (link.session.wire.map (fun sent => (encodeFrame sent.frame).toOption) =
          link.writes.map (fun write => some write.data) &&
        ! triesCut (link.writes.map SerialWrite.data) link.stream) = true := Run.of_check (by decide +kernel)
  rw [Bool.and_eq_true, decide_eq_true_eq, Bool.not_eq_true'] at check
  refine ⟨link, ⟨_, cancelledGrant, ⟨"usb", none, rfl⟩, run⟩, fun frames are cut => ?_⟩
  have same : frames.map some = (link.writes.map SerialWrite.data).map some := by
    rw [← are, check.1, List.map_map]
    rfl
  rw [(List.map_injective_iff.mpr (Option.some_injective _)) same] at cut
  rw [cut.tried] at check
  exact absurd check.2 nofun

end EspIris.Gateway
