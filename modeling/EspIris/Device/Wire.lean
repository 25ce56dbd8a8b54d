import EspIris.Device.Sends

/-! The wire behind the transmit slot: what goes out in a session is whole frames, each with the
next number of its channel, and at most one prefix of another. -/

namespace EspIris.Device
open Codec.Device Machine

/-- The bytes handed to the transport since the link came up: in earlier sessions, and in the
session that began last. -/
structure WireRecord where
  earlier : List UInt8
  session : List UInt8

def WireRecord.note (record : WireRecord) (before : DeviceState) (_ : DeviceEvent) (after : DeviceState) : WireRecord :=
  (after.log.drop before.log.length).foldl (fun record observation =>
    match observation with
    | .begun _ _ => if before.phase = .poll then ⟨[], []⟩ else ⟨record.earlier ++ record.session, []⟩
    | .wrote _ count =>
      { record with
        session := record.session ++ (before.runtime.txWire.drop before.runtime.txWireOffset).take count }
    | _ => record) record

def Observation.transmits : Observation → Bool
  | .begun _ _ | .wrote _ _ => true
  | _ => false

theorem WireRecord.note_silent {record : WireRecord} {before after : DeviceState} {event : DeviceEvent}
    (more : List Observation) (log : after.log = before.log ++ more)
    (others : ∀ other ∈ more, other.transmits = false) : record.note before event after = record := by
  unfold WireRecord.note
  rw [log, List.drop_left]
  clear log
  induction more with
  | nil => rfl
  | cons other more ih =>
    have unrelated := others other List.mem_cons_self
    have rest := ih fun one inside => others one (List.mem_cons_of_mem _ inside)
    rw [List.foldl_cons]
    cases other <;> first | contradiction | exact rest

def onChannel (frames : List SentFrame) (channel : UInt8) : Nat :=
  frames.countP fun frame => frame.header.channel = channel

inductive Numbered (session : UInt32) : List SentFrame → Prop
  | nil : Numbered session []
  | snoc {frames : List SentFrame} {frame : SentFrame} (earlier : Numbered session frames)
      (own : frame.header.sessionId = session)
      (number : frame.header.sequence = UInt32.ofNat (onChannel frames frame.header.channel) + 1) :
      Numbered session (frames ++ [frame])

def wireBytes (frames : List SentFrame) : List UInt8 := frames.flatMap SentFrame.wire

theorem wireBytes_snoc (frames : List SentFrame) (frame : SentFrame) :
    wireBytes (frames ++ [frame]) = wireBytes frames ++ frame.wire := by
  simp [wireBytes]

structure OnWire (runtime : Runtime) (sent : List UInt8) (frames : List SentFrame) (slot : Option SentFrame) : Prop where
  numbered : Numbered runtime.sessionId (frames ++ slot.toList)
  counted : ∀ channel, runtime.sequence channel = UInt32.ofNat (onChannel (frames ++ slot.toList) channel)
  held : runtime.txWire = (slot.map SentFrame.wire).getD []
  unsent : slot.isSome = true → runtime.txWireOffset < runtime.txWire.length
  bytes : sent = wireBytes frames ++ runtime.txWire.take runtime.txWireOffset

def WholeFrames (sent : List UInt8) : Prop :=
  ∃ session frames cut, sent = wireBytes frames ++ cut ∧ Numbered session frames ∧
    (cut = [] ∨ ∃ next, cut <+: next.wire ∧ Numbered session (frames ++ [next]))

def EarlierSessions (sent : List UInt8) : Prop :=
  ∃ sessions : List (List SentFrame), (∀ frames ∈ sessions, ∃ session, Numbered session frames) ∧
    sent = wireBytes sessions.flatten

theorem EarlierSessions.nil : EarlierSessions [] := ⟨[], by simp, rfl⟩

theorem EarlierSessions.snoc {sent : List UInt8} {session : UInt32} {frames : List SentFrame}
    (earlier : EarlierSessions sent) (numbered : Numbered session frames) :
    EarlierSessions (sent ++ wireBytes frames) := by
  obtain ⟨sessions, all, rfl⟩ := earlier
  refine ⟨sessions ++ [frames], ?_, by simp [wireBytes]⟩
  intro other inside
  rcases List.mem_append.mp inside with before | last
  · exact all other before
  · rw [List.mem_singleton.mp last]
    exact ⟨session, numbered⟩

theorem OnWire.whole {runtime : Runtime} {sent : List UInt8} {frames : List SentFrame} {slot : Option SentFrame}
    (wire : OnWire runtime sent frames slot) : WholeFrames sent := by
  obtain ⟨numbered, counted, held, unsent, bytes⟩ := wire
  cases slot with
  | none =>
    refine ⟨runtime.sessionId, frames, [], ?_, ?_, .inl rfl⟩
    · rw [bytes, held]
      simp
    · simpa using numbered
  | some next =>
    have earlier : Numbered runtime.sessionId frames := by
      generalize all : frames ++ (some next).toList = together at numbered
      cases numbered with
      | nil => simp at all
      | snoc earlier own number =>
        obtain ⟨rfl, -⟩ := List.append_inj' all rfl
        exact earlier
    refine ⟨runtime.sessionId, frames, _, bytes, earlier, .inr ⟨next, ?_, numbered⟩⟩
    rw [held]
    exact List.take_prefix _ _

theorem OnWire.empty {runtime : Runtime} (sequence : runtime.sequence = fun _ => 0) (free : runtime.txWire = []) :
    OnWire runtime [] [] none := by
  refine ⟨.nil, ?_, free, ?_, ?_⟩
  · intro channel
    rw [sequence]
    rfl
  · intro some
    contradiction
  · rw [free, List.take_nil]
    rfl

theorem OnWire.fills {before after : Runtime} {sent : List UInt8} {frames : List SentFrame} {slot : Option SentFrame}
    (wire : OnWire before sent frames slot) (fills : Fills before after) :
    ∃ slot, OnWire after sent frames slot := by
  obtain ⟨numbered, counted, held, unsent, bytes⟩ := wire
  cases fills with
  | kept session txWire offset sequence =>
    refine ⟨slot, session ▸ numbered, sequence ▸ counted, txWire ▸ held, ?_, ?_⟩
    · rw [txWire, offset]
      exact unsent
    · rw [txWire, offset]
      exact bytes
  | queued frame free session own number txWire offset sequence =>
    have none : slot = none := by
      cases slot with
      | none => rfl
      | some other => exact absurd (held.symm.trans free) other.wire_ne_nil
    subst none
    simp only [Option.toList_none, List.append_nil] at numbered counted
    refine ⟨some frame, ?_, ?_, txWire, ?_, ?_⟩
    · rw [session]
      exact .snoc numbered own (number.trans (by rw [counted]))
    · intro channel
      have grows : onChannel (frames ++ [frame]) channel =
          onChannel frames channel + if frame.header.channel = channel then 1 else 0 := by
        simp [onChannel, List.countP_append, List.countP_singleton]
      rw [sequence, nextSequence, Option.toList_some, grows]
      by_cases same : channel = frame.header.channel
      · rw [if_pos same, if_pos same.symm, ← same, counted, UInt32.ofNat_add]
        rfl
      · rw [if_neg same, if_neg (Ne.symm same), counted, Nat.add_zero]
    · intro _
      rw [offset, txWire]
      exact List.length_pos_iff.mpr frame.wire_ne_nil
    · rw [bytes, free, offset, List.take_nil, List.take_zero]

inductive Flushes (before : Runtime) : Runtime → List Observation → Prop
  | nothing : Flushes before before []
  | part (connection : Option Nat) (count : Nat) (some : 0 < count)
      (left : before.txWireOffset + count < before.txWire.length) :
      Flushes before { before with txWireOffset := before.txWireOffset + count } [.wrote connection count]
  | whole (connection : Option Nat) (count : Nat) (some : 0 < count)
      (all : before.txWireOffset + count = before.txWire.length) :
      Flushes before { before with txWire := [], txWireOffset := 0, txFrames := before.txFrames + 1 }
        [.wrote connection count]

theorem irisTransportWrite_le (manager : TransportManager) (write : LinkWrite) (length : Nat) :
    (irisTransportWrite manager write length).2 ≤ length := by
  unfold irisTransportWrite cdcWrite tcpTransportWrite
  split
  · exact Nat.zero_le _
  · split
    · dsimp only
      split
      · exact Nat.min_le_right _ _
      · exact Nat.zero_le _
    · exact Nat.zero_le _
  · dsimp only
    split
    · exact Nat.zero_le _
    · split
      · exact Nat.min_le_right _ _
      · exact Nat.zero_le _
      · exact Nat.zero_le _
  · split
    · dsimp only
      split
      · exact (Nat.min_le_right _ _).trans (Nat.min_le_left _ _)
      · exact Nat.zero_le _
    · exact Nat.zero_le _

theorem flushTx_flushes (device : DeviceState) (sent : LinkWrite)
    (unsent : device.runtime.txWire ≠ [] → device.runtime.txWireOffset < device.runtime.txWire.length) :
    ∃ runtime transport more, Flushes device.runtime runtime more ∧
      (flushTx device sent).1 =
        { device with runtime := runtime, transport := transport, log := device.log ++ more } := by
  have bound := irisTransportWrite_le device.transport sent
    (device.runtime.txWire.drop device.runtime.txWireOffset).length
  unfold flushTx
  split
  · exact ⟨_, _, [], .nothing, by rw [List.append_nil]⟩
  next filled =>
    have inside := unsent filled
    dsimp only
    split
    · exact ⟨_, _, [], .nothing, by rw [List.append_nil]⟩
    next some =>
      have positive := Nat.pos_of_ne_zero some
      generalize (irisTransportWrite device.transport sent _).2 = count at bound positive ⊢
      rw [List.length_drop] at bound
      split
      next all => exact ⟨_, _, _, .whole _ _ positive all, rfl⟩
      next more =>
        refine ⟨_, _, _, .part _ _ positive ?_, rfl⟩
        omega

theorem OnWire.flushes {before after : Runtime} {sent : List UInt8} {frames : List SentFrame} {slot : Option SentFrame}
    {more : List Observation} (wire : OnWire before sent frames slot) (flushes : Flushes before after more) :
    (more = [] ∧ after = before) ∨ ∃ connection count frames slot, more = [.wrote connection count] ∧
      OnWire after (sent ++ (before.txWire.drop before.txWireOffset).take count) frames slot := by
  obtain ⟨numbered, counted, held, unsent, bytes⟩ := wire
  cases flushes with
  | nothing => exact .inl ⟨rfl, rfl⟩
  | part connection count some left =>
    refine .inr ⟨connection, count, frames, slot, rfl, numbered, counted, held, fun _ => left, ?_⟩
    rw [bytes, List.append_assoc, ← List.take_add]
  | whole connection count some all =>
    have filled : slot.isSome = true := by
      cases slot with
      | some _ => rfl
      | none =>
        rw [held] at all
        simp at all
        omega
    obtain ⟨frame, rfl⟩ := Option.isSome_iff_exists.mp filled
    refine .inr ⟨connection, count, frames ++ [frame], none, rfl, ?_, ?_, rfl, ?_, ?_⟩
    · simpa using numbered
    · simpa using counted
    · intro none
      contradiction
    · have rest : before.txWire.take before.txWireOffset ++ (before.txWire.drop before.txWireOffset).take count =
          frame.wire := by
        rw [← List.take_add, all, List.take_length, held]
        rfl
      rw [bytes, List.append_assoc, rest, wireBytes_snoc, List.take_nil, List.append_nil]

end EspIris.Device
