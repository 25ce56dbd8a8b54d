import EspIris.Device.PumpOutput
import EspIris.Device.SessionFlags

/-! The pump between link and sessions, over every run: what is read is fed once and in order, the
slot keeps its frame until the last byte, and the wire carries whole frames in order. -/

namespace EspIris.Device
open Codec.Device Machine

def KeepsSlot (before after : DeviceState) : Prop :=
  after.runtime.txWire = before.runtime.txWire ∧ before.runtime.txWireOffset ≤ after.runtime.txWireOffset ∨
    after.runtime.txWire = [] ∧ ∃ connection count, .wrote connection count ∈ after.log.drop before.log.length ∧
      before.runtime.txWireOffset + count = before.runtime.txWire.length

theorem Fills.keepsSlot {before after : DeviceState} (fills : Fills before.runtime after.runtime)
    (filled : before.runtime.txWire ≠ []) : KeepsSlot before after := by
  cases fills with
  | kept _ txWire txWireOffset _ => exact .inl ⟨txWire, txWireOffset.ge⟩
  | queued _ free => exact absurd free filled

theorem Pumped.keepsSlot {before after : DeviceState} (pumped : Pumped before after)
    (filled : before.runtime.txWire ≠ []) : KeepsSlot before after := by
  obtain ⟨runtime, wrote, more, flushes, same, log, others⟩ := pumped.wires
  cases flushes with
  | nothing => exact same.fills.keepsSlot filled
  | part connection count some left =>
    refine .inl ⟨same.txWire, ?_⟩
    rw [same.txWireOffset]
    exact Nat.le_add_right _ _
  | whole connection count some all =>
    refine .inr ⟨same.txWire, connection, count, ?_, all⟩
    rw [log, List.drop_left]
    exact List.mem_append_left _ (List.mem_singleton_self _)

def DownFree (device : DeviceState) : Prop := device.runtime.linkConnected = false → device.runtime.txWire = []

section task
variable (config : Config)

theorem TaskMoves.linked {before after : DeviceState} {choices : Choices} (agree : FlagsAgree before)
    (moves : TaskMoves config before choices after) (online : before.phase.offline = false) :
    after.runtime.linkConnected = true := by
  have resting : before.phase ≠ .poll := fun phase => by rw [phase] at online; cases online
  have up := agree.resting resting
  cases moves with
  | connected _ phase | lost _ phase | still _ phase => exact absurd phase resting
  | ended phase =>
    rw [phase] at online
    contradiction
  | pumped _ _ _ _ _ _ _ _ same => exact same.linkConnected.trans up
  | fed feed phase _ feeds =>
    cases feeds with
    | finished runtime same => exact same.linkConnected.trans up
    | kept value later next runtime same => exact same.linkConnected.trans up
    | completed value frame later runtime _ first handled =>
      have linked := first.linkConnected.trans up
      cases handled with
      | kept _ same => exact same.linkConnected.trans linked
      | served _ _ _ _ same => exact same.linkConnected.trans linked
      | accepted _ _ _ _ _ _ _ linkConnected => exact linkConnected
      | leaving _ same =>
        rw [leaveServices_eq]
        exact same.linkConnected.trans linked
  | done _ _ _ _ same => exact same.linkConnected.trans up
  | reopened feed phase begun runtime more begins same =>
    subst begins
    exact same.linkConnected.trans (startSession_opened config (resetSession before) choices rfl).1.linkConnected
  | produced _ _ _ _ _ same => exact same.linkConnected.trans up
  | drains => exact up
  | filled _ _ _ _ same => exact same.linkConnected.trans up
  | finished _ _ _ _ _ _ _ same => exact same.linkConnected.trans up

theorem TaskMoves.downFree {before after : DeviceState} {choices : Choices} (agree : FlagsAgree before)
    (free : DownFree before) (moves : TaskMoves config before choices after) : DownFree after := by
  by_cases online : before.phase.offline = false
  · intro down
    exact absurd (down.symm.trans (moves.linked config agree online)) Bool.false_ne_true
  cases moves with
  | connected transport phase reports polled next goes =>
    intro down
    cases polled with
    | connected _ idle =>
      have closed := agree.closed (by rw [phase]; simp) idle
      have opened := (startSession_opened config { before with transport := transport } choices closed).1
      exact absurd (down.symm.trans opened.linkConnected) Bool.false_ne_true
  | lost transport phase =>
    rw [leaveServices_eq]
    exact free
  | still => exact free
  | ended => exact fun _ => rfl
  | pumped _ phase | fed _ phase | done _ phase | reopened _ phase | produced _ _ phase | drains _ _ phase
  | filled _ _ phase | finished _ _ phase => simp [phase, Phase.offline] at online

theorem deviceNext_downFree {device after : DeviceState} {event : DeviceEvent} {record : WireRecord}
    (agree : FlagsAgree device) (transmits : Transmits device record) (free : DownFree device)
    (step : deviceNext config device event = some after) : DownFree after := by
  cases deviceNext_step config step with
  | task choices _ _ => exact (taskStep_moves config device choices agree.reported).downFree config agree free
  | call choices result inside moved =>
    intro down
    have before : device.runtime.linkConnected = false := (callStep_untouched moved).linkConnected.symm.trans down
    have phase : device.phase = .poll := by
      by_contra resting
      exact absurd (before.symm.trans (agree.resting resting)) Bool.false_ne_true
    have calls := transmits.calls
    rw [phase] at calls
    exact absurd calls inside
  | schedule type =>
    intro down
    have empty := free ((scheduleEvent_untouched device.runtime type).linkConnected.symm.trans down)
    dsimp only
    unfold scheduleEvent
    split <;> exact empty
  | worker _ _ _ | line _ | facts _ _ _ _ => exact free

theorem pollLink_keepsSlot {device : DeviceState} {choices : Choices} (agree : FlagsAgree device)
    (free : DownFree device) (phase : device.phase = .poll) (filled : device.runtime.txWire ≠ []) :
    KeepsSlot device (pollLink config device choices) := by
  have up : device.runtime.linkConnected = true := by
    by_contra down
    exact filled (free (Bool.eq_false_of_not_eq_true down))
  have running : device.phase ≠ .ending := by rw [phase]; simp
  have polled := irisTransportPoll_polled config choices.link agree.reported
  unfold pollLink
  dsimp only
  generalize irisTransportPoll config device.transport choices.link = result at polled ⊢
  cases polled with
  | connected _ idle => exact absurd idle ((agree.owned running).mpr up)
  | disconnected =>
    dsimp only
    rw [leaveServices_eq]
    exact .inl ⟨rfl, le_refl _⟩
  | quiet => exact .inl ⟨rfl, le_refl _⟩

theorem taskStep_keepsSlot {device : DeviceState} {choices : Choices} {record : WireRecord} (agree : FlagsAgree device)
    (transmits : Transmits device record) (free : DownFree device) (filled : device.runtime.txWire ≠ [])
    (running : device.phase ≠ .ending) : KeepsSlot device (taskStep config device choices) := by
  have slot := transmits.free
  unfold taskStep
  split
  next phase => exact pollLink_keepsSlot config agree free phase filled
  next phase => exact absurd phase running
  next burst phase => exact (pumpLink_pumped burst choices transmits.unsent).keepsSlot filled
  next feed phase =>
    rw [phase] at slot
    exact absurd slot filled
  next feed phase =>
    refine .inl ?_
    unfold frameDone
    dsimp only
    rw [if_pos filled]
    unfold finishFeed
    dsimp only
    split <;> exact ⟨rfl, le_refl _⟩
  next feed phase =>
    rw [phase] at slot
    exact absurd slot filled
  next burst progressed phase =>
    unfold produceFrame
    dsimp only
    rw [if_pos filled]
    exact .inl ⟨rfl, le_refl _⟩
  next burst progressed phase =>
    unfold drainedFrame
    rw [if_pos filled]
    exact .inl ⟨rfl, le_refl _⟩
  next burst progressed phase => exact (finishPump_pumped burst progressed choices transmits.unsent).keepsSlot filled

theorem deviceNext_keepsSlot {device after : DeviceState} {event : DeviceEvent} {record : WireRecord}
    (agree : FlagsAgree device) (transmits : Transmits device record) (free : DownFree device)
    (serves : Serves event) (step : deviceNext config device event = some after)
    (filled : device.runtime.txWire ≠ []) (running : device.phase ≠ .ending) : KeepsSlot device after := by
  cases deviceNext_step config step with
  | task choices _ _ => exact taskStep_keepsSlot config agree transmits free filled running
  | call choices result _ moved =>
    have fills := (callStep_fills transmits.completion serves.call moved).1
    exact fills.keepsSlot filled
  | schedule type => exact (scheduleEvent_fills device.runtime type).keepsSlot filled
  | worker _ _ _ | line _ | facts _ _ _ _ => exact .inl ⟨rfl, le_refl _⟩

def recordedDevice : System (DeviceState × WireRecord) DeviceEvent :=
  ((device config).guarded PumpRuns).recorded ⟨[], []⟩ WireRecord.note

structure PumpHolds (both : DeviceState × WireRecord) : Prop where
  agree : FlagsAgree both.1
  parked : Parked both.1
  transmits : Transmits both.1 both.2
  free : DownFree both.1

theorem device_pumps : Invariant (recordedDevice config) PumpHolds where
  start := by
    rintro ⟨state, record⟩ ⟨start, rfl⟩
    have agree := (device_flagsAgree config).start state start
    have parked := (device_parked config).start state start
    obtain ⟨deviceId, bootId, rfl⟩ := start
    refine ⟨agree, parked, ⟨fun _ none => (by cases none), rfl, trivial, .nil, .inr ⟨rfl, rfl, rfl, ?_⟩⟩, fun _ => rfl⟩
    exact ⟨0, [], [], rfl, .nil, .inl rfl⟩
  step := by
    rintro ⟨before, record⟩ event ⟨after, later⟩ ⟨agree, parked, transmits, free⟩ ⟨⟨runs, step⟩, noted⟩
    obtain rfl : later = record.note before event after := noted
    exact ⟨(deviceNext_moves config step agree.reported).agrees config agree,
      deviceNext_parked config parked (fun _ => runs.draws) step, deviceNext_transmits config transmits runs.serves step,
      deviceNext_downFree config agree transmits free step⟩

/-- What the pump promises: bytes are fed once and in order, the slot keeps its frame while the
session lasts, and the wire carries whole frames, numbered by channel and session, with at most
one prefix behind them. -/
structure PumpSafe (state : DeviceState) (record : WireRecord) : Prop where
  fed : (sessionRecord state.log).read = (sessionRecord state.log).fed ++ unread state
  parked : state.runtime.rxPendingOffset ≤ state.runtime.rxPending.length
  slot : ∀ event after, PumpRuns state event → deviceNext config state event = some after →
    state.runtime.txWire ≠ [] → state.phase ≠ .ending → KeepsSlot state after
  earlier : EarlierSessions record.earlier
  session : WholeFrames record.session

theorem pump_safe (state : DeviceState) (record : WireRecord)
    (reached : Reachable (recordedDevice config) (state, record)) : PumpSafe config state record := by
  have ⟨agree, parked, transmits, free⟩ := (device_pumps config).reachable reached
  refine ⟨parked.split, parked.bound, ?_, transmits.earlier, ?_⟩
  · intro event after runs step filled running
    exact deviceNext_keepsSlot config agree transmits free runs.serves step filled running
  · rcases transmits.wire with ⟨frames, slot, wire⟩ | silent
    · exact wire.whole
    · exact silent.whole

end task

def helloRun : List DeviceEvent :=
  [.task Choices.quiet.accepting, .task Choices.quiet, .task Choices.quiet,
    .task { Choices.quiet with sent := .accepted 5 }]

def fiveSent (state : DeviceState) : Bool := state.runtime.txWire ≠ [] ∧ state.runtime.txWireOffset = 5

theorem pump_safe_in_hello :
    ∃ state record, Reachable (recordedDevice tcpOnly) (state, record) ∧
      (state.runtime.txWire ≠ [] ∧ state.runtime.txWireOffset = 5) ∧ PumpSafe tcpOnly state record := by
  obtain ⟨state, run, isPartly⟩ : ∃ state, Run ((device tcpOnly).guarded PumpRuns) (DeviceState.initial [] 0)
      helloRun state ∧ fiveSent state = true := Run.of_guarded_check (by decide +kernel)
  have reached : Reachable ((device tcpOnly).guarded PumpRuns) state := ⟨_, helloRun, ⟨[], 0, rfl⟩, run⟩
  obtain ⟨record, recorded⟩ := reached.recorded ⟨[], []⟩ WireRecord.note
  exact ⟨state, record, recorded, of_decide_eq_true isPartly, pump_safe tcpOnly state record recorded⟩

end EspIris.Device
