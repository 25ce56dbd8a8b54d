import EspIris.Device.SessionSteps

/-! In every reachable state the flags of the session, the phase of the protocol task and the
transport manager say the same about the session. -/

namespace EspIris.Device
open Machine

structure FlagsAgree (device : DeviceState) : Prop where
  linkConnected : device.runtime.linkConnected = decide (device.runtime.sessionState ≠ .disconnected)
  helloAcked : device.runtime.helloAcked = decide (device.runtime.sessionState = .ready)
  reported : Reported device.transport
  owned : device.phase ≠ .ending → (device.transport.active ≠ none ↔ device.runtime.linkConnected = true)
  released : device.phase = .ending → device.transport.active = none
  resting : device.phase ≠ .poll → device.runtime.linkConnected = true
  uncommitted : device.transport.active = none → device.transport.committed = false
  committed : device.transport.committed = true → device.runtime.helloAcked = true

theorem FlagsAgree.closed {device : DeviceState} (agree : FlagsAgree device) (phase : device.phase ≠ .ending)
    (idle : device.transport.active = none) : device.runtime.sessionState = .disconnected := by
  have down : device.runtime.linkConnected = false := by
    by_contra up
    exact (agree.owned phase).mpr (Bool.eq_true_of_not_eq_false up) idle
  rw [agree.linkConnected] at down
  simpa using down

theorem FlagsAgree.stays {before after : DeviceState} (agree : FlagsAgree before)
    (same : SameSession before.runtime after.runtime) (reported : Reported after.transport)
    (active : after.transport.active = before.transport.active)
    (committed : after.transport.committed = before.transport.committed)
    (ending : after.phase = .ending ↔ before.phase = .ending)
    (poll : after.phase ≠ .poll → before.runtime.linkConnected = true) : FlagsAgree after where
  linkConnected := by rw [same.linkConnected, same.sessionState]; exact agree.linkConnected
  helloAcked := by rw [same.helloAcked, same.sessionState]; exact agree.helloAcked
  reported := reported
  owned := fun phase => by
    rw [active, same.linkConnected]
    exact agree.owned fun was => phase (ending.mpr was)
  released := fun phase => active.trans (agree.released (ending.mp phase))
  resting := fun phase => same.linkConnected.trans (poll phase)
  uncommitted := fun idle => committed.trans (agree.uncommitted (active.symm.trans idle))
  committed := fun held => same.helloAcked.trans (agree.committed (committed.symm.trans held))

section task
variable (config : Config)

theorem startSession_agrees (device : DeviceState) (choices : Choices) (phase : Phase)
    (closed : device.runtime.sessionState = .disconnected) (reported : Reported device.transport)
    (active : device.transport.active ≠ none) (uncommitted : device.transport.committed = false)
    (goes : phase ≠ .ending) :
    FlagsAgree { startSession config device choices with phase := phase } ∧
      (startSession config device choices).runtime.linkConnected = true := by
  obtain ⟨runtime, opened, ⟨-, shape⟩ | ⟨-, shape⟩⟩ := startSession_cases config device choices closed
  all_goals
    rw [shape]
    refine ⟨⟨?_, ?_, reported, fun _ => ?_, fun ending => absurd ending goes, fun _ => opened.linkConnected,
      fun idle => absurd idle active, fun held => ?_⟩, opened.linkConnected⟩
    · rw [opened.linkConnected, opened.sessionState]
      rfl
    · rw [opened.helloAcked, opened.sessionState]
      rfl
    · exact iff_of_true active opened.linkConnected
    · exact absurd (uncommitted.symm.trans held) Bool.false_ne_true

theorem Handled.agrees {before after : DeviceState} {feed : Feed} {link : LinkInput} (agree : FlagsAgree before)
    (phase : before.phase = .feeding feed) {later : Feed} (handled : Handled config before later link after) :
    FlagsAgree after := by
  have up : before.runtime.linkConnected = true := agree.resting (by rw [phase]; simp)
  have running : before.phase ≠ .ending := by rw [phase]; simp
  cases handled with
  | kept runtime same =>
    exact agree.stays same.toSameSession agree.reported rfl rfl (by simp [phase]) fun _ => up
  | served frame runtime mailbox issued same =>
    exact agree.stays same.toSameSession agree.reported rfl rfl (by simp [phase]) fun _ => up
  | accepted frame runtime psaSucceeds accepts waits session ready linkConnected helloAcked =>
    obtain ⟨reported, active, -⟩ := irisTransportCommit_cases config before.transport link agree.reported
    have owned : before.transport.active ≠ none := (agree.owned running).mpr up
    refine ⟨?_, ?_, reported, fun _ => ?_, fun ending => (by cases ending), fun _ => linkConnected, fun idle => ?_,
      fun _ => helloAcked⟩
    · rw [linkConnected, ready]
      rfl
    · rw [helloAcked, ready]
      rfl
    · exact iff_of_true (active.trans_ne owned) linkConnected
    · exact absurd (active.symm.trans idle) owned
  | leaving runtime same =>
    rw [leaveServices_eq]
    exact agree.stays same.toSameSession agree.reported rfl rfl (by simp [phase]) fun _ => up

theorem TaskMoves.agrees {before after : DeviceState} {choices : Choices} (agree : FlagsAgree before)
    (moves : TaskMoves config before choices after) : FlagsAgree after := by
  cases moves with
  | connected transport phase reports polled next goes =>
    cases polled with
    | connected _ idle active committed reported =>
      have closed := agree.closed (by rw [phase]; simp) idle
      exact (startSession_agrees config { before with transport := transport } choices next closed reported active
        committed (by rw [goes]; split <;> simp)).1
  | lost transport phase polled =>
    rw [leaveServices_eq]
    cases polled with
    | disconnected _ owned cleared committed reported =>
      have up : before.runtime.linkConnected = true := (agree.owned (by rw [phase]; simp)).mp owned
      exact ⟨agree.linkConnected, agree.helloAcked, reported, fun running => absurd rfl running, fun _ => cleared,
        fun _ => up, fun _ => committed, fun held => absurd (committed.symm.trans held) Bool.false_ne_true⟩
  | still transport phase polled next goes =>
    cases polled with
    | quiet _ active committed reported client =>
      refine agree.stays ⟨rfl, rfl, rfl, rfl⟩ reported active committed ?_ fun running => ?_
      · rw [goes, phase]
        split <;> simp
      · by_contra down
        exact running (goes.trans (if_neg down))
  | ended phase =>
    have idle := agree.released phase
    have committed := agree.uncommitted idle
    exact ⟨rfl, rfl, agree.reported, fun _ => iff_of_false (not_not.mpr idle) Bool.false_ne_true,
      fun ending => (by cases ending), fun other => absurd rfl other, fun _ => committed,
      fun held => absurd (committed.symm.trans held) Bool.false_ne_true⟩
  | pumped burst phase runtime transport rxFrom next wrote reads same closes writes receives goes =>
    obtain ⟨active, committed⟩ := closes.owner
    refine agree.stays same (agree.reported.closes closes) active committed ?_
      fun _ => agree.resting (by rw [phase]; simp)
    cases next <;> simp_all [PumpsTo]
  | fed feed phase _ feeds =>
    have up : before.runtime.linkConnected = true := agree.resting (by rw [phase]; simp)
    cases feeds with
    | finished runtime same =>
      exact agree.stays same.toSameSession agree.reported rfl rfl (by simp [phase]) fun _ => up
    | kept value later next runtime same goes =>
      refine agree.stays same.toSameSession agree.reported rfl rfl ?_ fun _ => up
      rcases goes with rfl | rfl <;> simp [phase]
    | completed value frame later runtime _ same handled =>
      have fed : FlagsAgree { before with
          runtime := runtime
          log := before.log ++ [.fed before.rxFrom value, .frame frame] } :=
        agree.stays same.toSameSession agree.reported rfl rfl Iff.rfl fun _ => up
      exact handled.agrees config fed phase
  | done feed phase runtime next same goes =>
    refine agree.stays same.toSameSession agree.reported rfl rfl ?_ fun _ => agree.resting (by rw [phase]; simp)
    rcases goes with rfl | rfl <;> simp [phase]
  | reopened feed phase begun runtime more begins same hellos =>
    subst begins
    have up : before.runtime.linkConnected = true := agree.resting (by rw [phase]; simp)
    have owned : before.transport.active ≠ none := (agree.owned (by rw [phase]; simp)).mpr up
    obtain ⟨active, tcp, renewed⟩ := irisTransportRenewClaim_cases config before.transport choices.link.now
    have reported := agree.reported.same tcp active
    have held : (irisTransportRenewClaim config before.transport choices.link.now).active ≠ none := active.trans_ne owned
    obtain ⟨opening, opened, ⟨-, shape⟩ | ⟨-, shape⟩⟩ := startSession_cases config (resetSession before) choices rfl
    all_goals
      rw [shape] at same ⊢
      have linked := same.linkConnected.trans opened.linkConnected
      have state := same.sessionState.trans opened.sessionState
      refine ⟨?_, ?_, reported, fun _ => iff_of_true held linked, fun ending => (by cases ending), fun _ => linked,
        fun idle => absurd idle held, fun committed => ?_⟩
      · rw [linked, state]
        rfl
      · rw [state]
        exact same.helloAcked.trans opened.helloAcked
      · exact absurd ((renewed owned).symm.trans committed) Bool.false_ne_true
  | produced burst progressed phase runtime more same hellos =>
    exact agree.stays same.toSameSession agree.reported rfl rfl (by simp [phase])
      fun _ => agree.resting (by rw [phase]; simp)
  | drains burst progressed phase ready =>
    exact agree.stays ⟨rfl, rfl, rfl, rfl⟩ agree.reported rfl rfl (by simp [phase])
      fun _ => agree.resting (by rw [phase]; simp)
  | filled burst progressed phase runtime same =>
    exact agree.stays same.toSameSession agree.reported rfl rfl (by simp [phase])
      fun _ => agree.resting (by rw [phase]; simp)
  | finished burst progressed phase runtime transport next wrote same closes writes goes =>
    obtain ⟨active, committed⟩ := closes.owner
    refine agree.stays same.toSameSession (agree.reported.closes closes) active committed ?_
      fun _ => agree.resting (by rw [phase]; simp)
    rcases goes with rfl | ⟨_, rfl⟩ <;> simp [phase]

theorem DeviceMoves.agrees {before after : DeviceState} {event : DeviceEvent} (agree : FlagsAgree before)
    (moves : DeviceMoves config before event after) : FlagsAgree after := by
  have stays (mailbox : Mailbox) (runtime : Runtime) (log : List Observation) (same : SameInput before.runtime runtime) :
      FlagsAgree { before with mailbox := mailbox, runtime := runtime, log := log } :=
    agree.stays same.toSameSession agree.reported rfl rfl Iff.rfl agree.resting
  cases moves with
  | task choices _ admissible outside moves => exact moves.agrees config agree
  | call choices mailbox runtime traces same step => exact stays mailbox runtime _ same
  | worker input mailbox traces step => exact stays mailbox before.runtime _ (.refl _)
  | line hostOpen => exact agree.stays ⟨rfl, rfl, rfl, rfl⟩ (agree.reported.same rfl rfl) rfl rfl Iff.rfl agree.resting
  | facts event runtime same => exact stays before.mailbox runtime before.log same

theorem device_flagsAgree : Invariant (device config) FlagsAgree where
  start := by
    rintro state ⟨deviceId, bootId, rfl⟩
    exact ⟨rfl, rfl, .reset rfl rfl rfl (by simp [DeviceState.initial, TransportManager.initial]),
      fun _ => iff_of_false (by simp [DeviceState.initial, TransportManager.initial]) Bool.false_ne_true,
      fun ending => (by cases ending), fun other => absurd rfl other, fun _ => rfl,
      fun held => (by cases held)⟩
  step := fun _ _ _ agree step => (deviceNext_moves config step agree.reported).agrees config agree

end task

end EspIris.Device
