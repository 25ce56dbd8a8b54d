import EspIris.Device.SessionFlags

/-! In a build with TCP pairing every session publishes a challenge of its own, as long as no session
opens while the executor is busy. -/

namespace EspIris.Device
open Codec.Device Machine

/-- The challenge that was drawn for the last session, those it published or judged a proof by,
and those of the sessions before it. -/
structure ChallengeRecord where
  drawn : Option (List UInt8)
  shown : List (List UInt8)
  earlier : List (List UInt8)

def Observation.shown : Observation → Option (List UInt8)
  | .hello challenge => challenge
  | .authenticated _ _ challenge _ => some challenge
  | _ => none

def Observation.begins : Observation → Bool
  | .begun _ _ => true
  | _ => false

def ChallengeRecord.note (record : ChallengeRecord) : Observation → ChallengeRecord
  | .begun _ drawn => ⟨drawn, [], record.earlier ++ record.shown⟩
  | observation => { record with shown := record.shown ++ observation.shown.toList }

def challengeRecord (log : List Observation) : ChallengeRecord := log.foldl ChallengeRecord.note ⟨none, [], []⟩

theorem challengeRecord_snoc (log : List Observation) (observation : Observation) :
    challengeRecord (log ++ [observation]) = (challengeRecord log).note observation := by
  simp [challengeRecord, List.foldl_append]

theorem ChallengeRecord.note_shown (record : ChallengeRecord) {observation : Observation}
    (goesOn : observation.begins = false) :
    record.note observation = { record with shown := record.shown ++ observation.shown.toList } := by
  cases observation with
  | begun => contradiction
  | _ => rfl

theorem challengeRecord_append (log : List Observation) {more : List Observation} (goesOn : ∀ other ∈ more, other.begins = false) :
    challengeRecord (log ++ more) = { challengeRecord log with
      shown := (challengeRecord log).shown ++ more.filterMap Observation.shown } := by
  induction more generalizing log with
  | nil => simp
  | cons first more ih =>
    have head := goesOn first (by simp)
    have tail := ih (log ++ [first]) fun other inside => goesOn other (List.mem_cons_of_mem _ inside)
    rw [List.append_assoc, List.singleton_append] at tail
    rw [tail, challengeRecord_snoc, ChallengeRecord.note_shown _ head]
    cases shown : first.shown <;> simp [shown]

/-- All that was ever shown was drawn, the last session showed only the challenge drawn for it,
and while the session is open that is the challenge the services keep. -/
structure Fresh (device : DeviceState) : Prop where
  told : ∀ challenge ∈ (challengeRecord device.log).earlier ++ (challengeRecord device.log).shown,
    challenge ∈ device.drawn
  shown : ∀ challenge ∈ (challengeRecord device.log).shown, (challengeRecord device.log).drawn = some challenge ∧
    challenge ∉ (challengeRecord device.log).earlier
  kept : device.runtime.linkConnected = true → (challengeRecord device.log).drawn = some device.challenge ∧
    device.challenge ∈ device.drawn ∧ device.challenge ∉ (challengeRecord device.log).earlier

def Observation.Discreet (device : DeviceState) (observation : Observation) : Prop :=
  observation.begins = false ∧
    ∀ challenge, observation.shown = some challenge →
      device.runtime.linkConnected = true ∧ challenge = device.challenge

theorem Fresh.stays {before after : DeviceState} (fresh : Fresh before) {more : List Observation}
    (log : after.log = before.log ++ more) (discreet : ∀ other ∈ more, other.Discreet before)
    (challenge : after.challenge = before.challenge) (drawn : after.drawn = before.drawn)
    (link : after.runtime.linkConnected = true → before.runtime.linkConnected = true) : Fresh after := by
  have record := challengeRecord_append before.log fun other inside => (discreet other inside).1
  have known : ∀ one ∈ more.filterMap Observation.shown, before.runtime.linkConnected = true ∧
      one = before.challenge := by
    intro one inside
    obtain ⟨other, isIn, shows⟩ := List.mem_filterMap.mp inside
    exact (discreet other isIn).2 one shows
  refine ⟨fun one inside => ?_, fun one inside => ?_, fun up => ?_⟩
  · rw [log, record] at inside
    rw [drawn]
    rw [← List.append_assoc] at inside
    rcases List.mem_append.mp inside with old | new
    · exact fresh.told one old
    · obtain ⟨up, rfl⟩ := known one new
      exact (fresh.kept up).2.1
  · rw [log, record] at inside ⊢
    rcases List.mem_append.mp inside with old | new
    · exact fresh.shown one old
    · obtain ⟨up, rfl⟩ := known one new
      exact ⟨(fresh.kept up).1, (fresh.kept up).2.2⟩
  · rw [log, record, challenge, drawn]
    exact fresh.kept (link up)

def opensSession (config : Config) (device : DeviceState) (choices : Choices) : Bool :=
  match device.phase with
  | .poll => (irisTransportPoll config device.transport choices.link).2 = .connected
  | .reopening _ => true
  | _ => false

def BusyBegin (config : Config) (device : DeviceState) (choices : Choices) : Prop :=
  device.mailbox.call = .idle ∧ opensSession config device choices = true ∧ executorBusy device.mailbox = true

def NoBusyBegin (config : Config) (device : DeviceState) : DeviceEvent → Prop
  | .task choices => ¬ BusyBegin config device choices
  | _ => True

instance (config : Config) (device : DeviceState) (choices : Choices) : Decidable (BusyBegin config device choices) :=
  inferInstanceAs (Decidable (_ ∧ _ ∧ _))

instance (config : Config) (device : DeviceState) : (event : DeviceEvent) → Decidable (NoBusyBegin config device event)
  | .task choices => inferInstanceAs (Decidable (¬ BusyBegin config device choices))
  | .worker _ => isTrue trivial
  | .line _ => isTrue trivial
  | .schedule _ => isTrue trivial
  | .facts _ _ _ _ => isTrue trivial

theorem executor_discreet (device : DeviceState) (traces : List Trace) :
    ∀ other ∈ traces.map Observation.executor, other.Discreet device := by
  intro other inside
  obtain ⟨trace, -, rfl⟩ := List.mem_map.mp inside
  exact ⟨rfl, fun challenge shows => (by cases shows)⟩

theorem discreet_of_silent (device : DeviceState) {more : List Observation}
    (silent : ∀ other ∈ more, other.begins = false ∧ other.shown = none) : ∀ other ∈ more, other.Discreet device :=
  fun other inside => ⟨(silent other inside).1, fun challenge shows => by rw [(silent other inside).2] at shows; cases shows⟩

theorem writes_silent {transport : TransportManager} {wrote : List Observation} (writes : Writes transport wrote) :
    ∀ other ∈ wrote, other.begins = false ∧ other.shown = none := by
  rcases writes with rfl | ⟨⟨count, rfl⟩, -⟩ <;> simp [Observation.begins, Observation.shown]

theorem receives_silent {device : DeviceState} {runtime : Runtime} {rxFrom : Option Nat} {reads : List Observation}
    (receives : Receives device runtime rxFrom reads) :
    ∀ other ∈ reads, other.begins = false ∧ other.shown = none := by
  rcases receives with ⟨rfl, -⟩ | ⟨⟨bytes, rfl⟩, -⟩ <;> simp [Observation.begins, Observation.shown]

section task
variable (config : Config)

theorem hellos_discreet {device sender : DeviceState} {more : List Observation}
    (hellos : more = [] ∨ more = [.hello (published config sender)]) (same : sender.challenge = device.challenge)
    (up : device.runtime.linkConnected = true) : ∀ other ∈ more, other.Discreet device := by
  rcases hellos with rfl | rfl
  · simp
  · intro other inside
    rw [List.mem_singleton.mp inside]
    refine ⟨rfl, fun challenge shows => ⟨up, ?_⟩⟩
    simp only [Observation.shown, published, irisServicesAuthChallenge] at shows
    split at shows
    · exact (Option.some.inj shows).symm.trans same
    · cases shows

theorem Handled.fresh {before after : DeviceState} (fresh : Fresh before) {later : Feed} {link : LinkInput}
    (up : before.runtime.linkConnected = true) (handled : Handled config before later link after) : Fresh after := by
  cases handled with
  | kept runtime same => exact fresh.stays (List.append_nil _).symm (by simp) rfl rfl fun _ => up
  | served frame runtime mailbox issued same =>
    refine fresh.stays rfl (discreet_of_silent before ?_) rfl rfl fun _ => up
    simp [Observation.begins, Observation.shown]
  | accepted frame runtime psaSucceeds accepts waits session ready =>
    refine fresh.stays rfl (fun other inside => ?_) rfl rfl fun _ => up
    simp only [List.mem_cons, List.not_mem_nil, or_false] at inside
    rcases inside with rfl | rfl
    · exact ⟨rfl, fun challenge shows => ⟨up, (Option.some.inj shows).symm⟩⟩
    · exact ⟨rfl, fun challenge shows => (by cases shows)⟩
  | leaving runtime same =>
    rw [leaveServices_eq]
    exact fresh.stays rfl (executor_discreet before _) rfl rfl fun _ => up

/-- A session that opens while the executor is idle draws its challenge. -/
theorem startSession_fresh_challenge {device : DeviceState} {choices : Choices} (fresh : Fresh device)
    (paired : config.pairing ≠ none) (idle : executorBusy device.mailbox = false)
    (unseen : choices.random ∉ device.drawn) (closed : device.runtime.sessionState = .disconnected) :
    Fresh (startSession config device choices) ∧ (startSession config device choices).runtime.linkConnected = true := by
  obtain ⟨runtime, opened, ⟨skipped, -⟩ | ⟨-, shape⟩⟩ := startSession_cases config device choices closed
  · rcases skipped with busy | unpaired
    · exact absurd (idle.symm.trans busy) Bool.false_ne_true
    · exact absurd unpaired paired
  rw [shape]
  have record := challengeRecord_snoc device.log (.begun choices.session (some choices.random))
  refine ⟨⟨fun one inside => ?_, fun one inside => ?_, fun _ => ?_⟩, opened.linkConnected⟩
  · rw [record] at inside
    refine List.mem_cons_of_mem _ (fresh.told one ?_)
    simpa [ChallengeRecord.note] using inside
  · rw [record] at inside
    cases inside
  · rw [record]
    exact ⟨rfl, List.mem_cons_self, fun seen => unseen (fresh.told _ seen)⟩

theorem TaskMoves.fresh {before after : DeviceState} {choices : Choices} (agree : FlagsAgree before)
    (fresh : Fresh before) (paired : config.pairing ≠ none) (outside : before.mailbox.call = .idle)
    (unseen : choices.random ∉ before.drawn) (allowed : NoBusyBegin config before (.task choices))
    (moves : TaskMoves config before choices after) : Fresh after := by
  have up (away : before.phase ≠ .poll) : before.runtime.linkConnected = true := agree.resting away
  have idle (opens : opensSession config before choices = true) : executorBusy before.mailbox = false := by
    by_contra busy
    exact allowed ⟨outside, opens, Bool.eq_true_of_not_eq_false busy⟩
  cases moves with
  | connected transport phase reports polled next goes =>
    cases polled with
    | connected _ released active committed reported =>
      have begun : Fresh { before with transport := transport } := ⟨fresh.told, fresh.shown, fresh.kept⟩
      obtain ⟨told, shown, kept⟩ := (startSession_fresh_challenge config begun paired
        (idle (by simp [opensSession, phase, reports])) unseen (agree.closed (by rw [phase]; simp) released)).1
      exact ⟨told, shown, kept⟩
  | lost transport phase polled =>
    rw [leaveServices_eq]
    exact fresh.stays rfl (executor_discreet before _) rfl rfl id
  | still transport phase polled next goes => exact fresh.stays (List.append_nil _).symm (by simp) rfl rfl id
  | ended phase =>
    refine fresh.stays rfl (discreet_of_silent before ?_) rfl rfl fun linked => (by cases linked)
    simp [Observation.begins, Observation.shown]
  | pumped burst phase runtime transport rxFrom next wrote reads same closes writes receives goes =>
    refine fresh.stays rfl (discreet_of_silent before fun other inside => ?_) rfl rfl fun _ => up (by rw [phase]; simp)
    exact (List.mem_append.mp inside).elim (writes_silent writes other) (receives_silent receives other)
  | fed feed phase _ feeds =>
    have linked := up (by rw [phase]; simp)
    have silent (value : UInt8) : ∀ other ∈ [Observation.fed before.rxFrom value],
        other.begins = false ∧ other.shown = none := by simp [Observation.begins, Observation.shown]
    cases feeds with
    | finished runtime same => exact fresh.stays (List.append_nil _).symm (by simp) rfl rfl fun _ => linked
    | kept value later next runtime same goes =>
      exact fresh.stays rfl (discreet_of_silent before (silent value)) rfl rfl fun _ => linked
    | completed value frame later runtime _ same handled =>
      have fed : Fresh { before with
          runtime := runtime
          log := before.log ++ [.fed before.rxFrom value, .frame frame] } := by
        refine fresh.stays rfl (discreet_of_silent before ?_) rfl rfl fun _ => linked
        simp [Observation.begins, Observation.shown]
      exact handled.fresh config fed (same.linkConnected.trans linked)
  | done feed phase runtime next same goes =>
    exact fresh.stays (List.append_nil _).symm (by simp) rfl rfl fun _ => up (by rw [phase]; simp)
  | reopened feed phase begun runtime more begins same hellos =>
    subst begins
    have reset : Fresh (resetSession before) := by
      refine fresh.stays rfl (discreet_of_silent before ?_) rfl rfl fun linked => (by cases linked)
      simp [Observation.begins, Observation.shown]
    obtain ⟨begun, linked⟩ := startSession_fresh_challenge config reset paired
      (idle (by simp [opensSession, phase])) unseen rfl
    exact begun.stays rfl (hellos_discreet config hellos rfl linked) rfl rfl fun _ => linked
  | produced burst progressed phase runtime more same hellos =>
    have linked := up (by rw [phase]; simp)
    exact fresh.stays rfl (hellos_discreet config hellos rfl linked) rfl rfl fun _ => linked
  | drains burst progressed phase ready => exact fresh.stays (List.append_nil _).symm (by simp) rfl rfl id
  | filled burst progressed phase runtime same =>
    exact fresh.stays (List.append_nil _).symm (by simp) rfl rfl fun _ => up (by rw [phase]; simp)
  | finished burst progressed phase runtime transport next wrote same closes writes goes =>
    exact fresh.stays rfl (discreet_of_silent before (writes_silent writes)) rfl rfl fun _ => up (by rw [phase]; simp)

theorem DeviceMoves.fresh {before after : DeviceState} {event : DeviceEvent} (agree : FlagsAgree before)
    (fresh : Fresh before) (paired : config.pairing ≠ none) (allowed : NoBusyBegin config before event)
    (moves : DeviceMoves config before event after) : Fresh after := by
  cases moves with
  | task choices _ admissible outside moves =>
    exact moves.fresh config agree fresh paired outside admissible.fresh allowed
  | call choices mailbox runtime traces same step =>
    exact fresh.stays rfl (executor_discreet before _) rfl rfl fun up => same.linkConnected.symm.trans up
  | worker input mailbox traces step =>
    refine fresh.stays (List.append_assoc _ _ _) (fun other inside => ?_) rfl rfl id
    rcases List.mem_append.mp inside with picked | traced
    · split at picked
      · rw [List.mem_singleton.mp picked]
        exact ⟨rfl, fun challenge shows => (by cases shows)⟩
      · cases picked
    · exact executor_discreet before traces other traced
  | line hostOpen => exact fresh.stays (List.append_nil _).symm (by simp) rfl rfl id
  | facts event runtime same =>
    exact fresh.stays (List.append_nil _).symm (by simp) rfl rfl fun up => same.linkConnected.symm.trans up

theorem device_fresh (paired : config.pairing ≠ none) : Invariant ((device config).guarded (NoBusyBegin config))
    fun state => FlagsAgree state ∧ Fresh state :=
  ((device_flagsAgree config).guarded (NoBusyBegin config)).over
    (by
      rintro state ⟨deviceId, bootId, rfl⟩
      exact ⟨fun one inside => (by cases inside), fun one inside => (by cases inside), fun up => (by cases up)⟩)
    (by
      rintro before event after agree fresh ⟨allowed, step⟩
      exact (deviceNext_moves config step agree.reported).fresh config agree fresh paired allowed)

end task

/-- The challenges that the last session published or judged a proof by are the one drawn for it,
which no session before it showed. -/
def OwnChallenge (state : DeviceState) : Prop :=
  ∀ challenge ∈ (challengeRecord state.log).shown, (challengeRecord state.log).drawn = some challenge ∧
    challenge ∉ (challengeRecord state.log).earlier

/-- Every session has a challenge of its own, in every run in which none opens while the executor
is busy. -/
theorem session_challenge_fresh (config : Config) (paired : config.pairing ≠ none) (state : DeviceState)
    (reached : Reachable ((device config).guarded (NoBusyBegin config)) state) : OwnChallenge state :=
  ((device_fresh config paired).reachable reached).2.shown

/-- What HMAC-SHA-256 gives, under a token of zeros, for the proof of session 7 on the first drawn
challenge with a nonce of zeros. -/
def sessionProof : List UInt8 :=
  [0x35, 0x3d, 0x74, 0xc3, 0x37, 0x6a, 0xd1, 0xb7, 0xb7, 0x97, 0x9f, 0xfb, 0x47, 0x95, 0xa2, 0xff,
    0x4d, 0xa1, 0x0a, 0x01, 0xc5, 0xbf, 0x70, 0xea, 0xcc, 0xb3, 0x32, 0xc2, 0x05, 0x57, 0x33, 0x54]

def tcpPaired : Config := { tcpOnly with
  pairing := some (List.replicate 32 0)
  hmac := fun _ _ => sessionProof }

def paired : DeviceState := DeviceState.initial (List.replicate 16 0) 0

def Choices.later : Choices := { Choices.quiet with random := List.replicate authChallengeBytes 2, session := 8 }

def provenAck (flags : UInt16) (sequence : UInt32) : List UInt8 :=
  hostWire Channel.control ControlType.helloAck flags sequence (List.replicate authNonceBytes 0 ++ sessionProof)

def pairedRun : List DeviceEvent :=
  [.task Choices.quiet.accepting] ++ List.replicate 3 (.task Choices.later) ++
    [.task (Choices.later.reading (provenAck 0 1))] ++
    List.replicate (provenAck 0 1).length (.task Choices.later)

def twoShown (state : DeviceState) : Bool := (challengeRecord state.log).shown.length = 2

theorem session_challenge_fresh_when_ready :
    ∃ state, Reachable ((device tcpPaired).guarded (NoBusyBegin tcpPaired)) state ∧
      (challengeRecord state.log).shown.length = 2 ∧ OwnChallenge state := by
  obtain ⟨state, run, both⟩ : ∃ state, Run ((device tcpPaired).guarded (NoBusyBegin tcpPaired)) paired pairedRun
      state ∧ twoShown state = true := Run.of_guarded_check (by decide +kernel)
  have reached : Reachable ((device tcpPaired).guarded (NoBusyBegin tcpPaired)) state :=
    ⟨_, pairedRun, ⟨List.replicate 16 0, 0, rfl⟩, run⟩
  exact ⟨state, reached, of_decide_eq_true both,
    session_challenge_fresh tcpPaired (by simp [tcpPaired]) state reached⟩

def busyReopenRun : List DeviceEvent :=
  let both := hostWire Channel.control ControlType.request 0 2 [1] ++ provenAck Flag.newSession 3
  pairedRun ++ List.replicate 3 (.task Choices.later) ++ [.task (Choices.later.reading both)] ++
    List.replicate (both.length + 7) (.task Choices.later)

def shownTwice (state : DeviceState) : Bool :=
  (challengeRecord state.log).shown.contains (List.replicate authChallengeBytes 1) &&
    (challengeRecord state.log).earlier.contains (List.replicate authChallengeBytes 1)

/-- The new session publishes the challenge of the one before it. -/
theorem challenge_published_twice :
    ∃ state, Reachable (device tcpPaired) state ∧ ¬ OwnChallenge state ∧
      ∃ challenge ∈ (challengeRecord state.log).shown, challenge ∈ (challengeRecord state.log).earlier := by
  obtain ⟨state, run, both⟩ : ∃ state, Run (device tcpPaired) paired busyReopenRun state ∧ shownTwice state = true :=
    Run.of_check (by decide +kernel)
  rw [shownTwice, Bool.and_eq_true, List.contains_iff_mem, List.contains_iff_mem] at both
  obtain ⟨shown, earlier⟩ := both
  exact ⟨state, ⟨_, busyReopenRun, ⟨List.replicate 16 0, 0, rfl⟩, run⟩,
    fun own => (own _ shown).2 earlier, _, shown, earlier⟩

end EspIris.Device
