import EspIris.Gateway.Sends

/-! Responses that come after their request has ended. On a channel that carries only responses
such a frame falls through every arm; the media channels also carry pushed tiles. -/

namespace EspIris.Gateway
open Codec.Host (Frame)
open Machine
variable {before after : HostState} {state : HostState} {event : HostEvent} {sender : Sender}

def Answers (request : Request) (frame : Frame) : Prop :=
  (frame.channel = request.channel ∧ isHello frame = false ∧ isAuthResult frame = false) ∨
    (frame.channel = Channel.control.toNat ∧ frame.type = ControlType.error.toNat)

structure Late (state : HostState) (request : Request) (frame : Frame) : Prop where
  expired : (frame.requestId, request) ∈ state.expired
  answers : Answers request frame
  session : frame.sessionId = sessionIdOf state.session
  inOrder : (acceptSequence state.session frame).isSome

/-- Nothing comes of a frame: nothing is raised or pushed, no request gets an answer, and of the
session only the last sequence number changes. -/
structure Ignores (state : HostState) (handled : Handled) : Prop where
  raises : handled.raises = none
  effects : ∀ effect ∈ handled.effects, ∃ future outcome,
    effect = .resolve future outcome ∧ state.resolve future outcome = state
  session : ∃ last, handled.session = { state.session with lastRxSequence := last }

/-- Where a late response is harmless: the id is that of a request that got its answer and only
has to end, or of none, and the channel is not one of media. -/
def Harmless (state : HostState) (frame : Frame) : Prop :=
  match state.session.pending frame.requestId with
  | some future => ∀ task, state.tasks future = some task → task.outcome.isSome
  | none => isMediaChannel frame.channel = false

structure Served (state : HostState) : Prop where
  tasks : ∀ number task request, state.tasks number = some task → task.request = some request →
    request.channel ∈ requestChannels
  begun : ∀ number task requestId, state.tasks number = some task → task.requestId = some requestId →
    requestId ≠ 0 ∧ state.session.ready = true
  expired : ∀ entry ∈ state.expired, entry.1 ≠ 0 ∧ entry.2.channel ∈ requestChannels ∧ state.session.ready = true

theorem nextRequestId_ne_zero (requestId : Nat) : nextRequestId requestId ≠ 0 := by
  unfold nextRequestId
  dsimp only
  split <;> omega

theorem expired_turn (turned : before.turn sender = some after) :
    after.expired = before.expired := by
  have handed {sent : HostState} {outgoing : Outgoing} {drawn : Nat}
      (is : before.handOver sender outgoing drawn = some sent) : sent.expired = before.expired := by
    rw [(handOver_eq is).2]
    rfl
  unfold HostState.turn at turned
  split at turned
  · contradiction
  cases sender with
  | task number =>
    dsimp only at turned
    split at turned
    next task is =>
      split at turned
      next outgoing phase =>
        split at turned
        next sent sends =>
          have same := handed sends
          cases turned
          exact same
        cases turned
        rfl
      next => contradiction
    next => contradiction
  | reader =>
    dsimp only at turned
    split at turned
    next outgoing rest raises is =>
      split at turned
      next sent sends =>
        have same := handed sends
        cases turned
        exact same
      cases turned
      rfl
    next => contradiction

theorem expired_written (wrote : before.written sender = some after) :
    after.expired = before.expired := by
  unfold HostState.written at wrote
  split at wrote
  · contradiction
  cases sender with
  | task number =>
    dsimp only at wrote
    split at wrote
    · split at wrote
      · contradiction
      split at wrote <;> (cases wrote; rfl)
    · contradiction
  | reader =>
    dsimp only at wrote
    split at wrote
    · cases wrote
      rfl
    · contradiction

theorem expired_failed {raised : Raised} (failed : before.failed sender raised = some after) :
    after.expired = before.expired := by
  unfold HostState.failed at failed
  split at failed
  · contradiction
  cases sender with
  | task number =>
    obtain ⟨task, _, rfl⟩ := Option.map_eq_some_iff.mp failed
    rfl
  | reader =>
    cases failed
    rfl

theorem expired_effect (state : HostState) (effect : Effect) : (state.effect effect).expired = state.expired := by
  cases effect with
  | resolve future outcome =>
    unfold HostState.effect
    dsimp only
    unfold HostState.resolve
    split
    · split <;> rfl
    · rfl
  | _ => rfl

theorem expired_perform {raised : Option Raised} (performed : before.perform raised = some after) :
    after.expired = before.expired := by
  unfold HostState.perform at performed
  split at performed
  next => cases performed; rfl
  next => cases performed; rfl
  next => cases performed; rfl
  next effect rest raises _ is =>
    split at performed
    · cases performed
      rfl
    · cases performed
      exact expired_effect before effect
  next => contradiction

/-- Only a task that is cancelled, or whose wait times out, leaves its request unanswered. -/
theorem expired_step (hmac : List UInt8 → List UInt8 → List UInt8) (moves : hostNext hmac before event = some after) :
    after.expired = before.expired ∨ ∃ number task, before.tasks number = some task ∧
      after.expired = before.expire task := by
  cases event with
  | cancel number =>
    obtain ⟨task, is, rfl⟩ := Option.map_eq_some_iff.mp moves
    exact .inr ⟨number, task, is, rfl⟩
  | turn sender => exact .inl (expired_turn moves)
  | written sender => exact .inl (expired_written moves)
  | failed sender raised => exact .inl (expired_failed moves)
  | perform raised => exact .inl (expired_perform moves)
  | close =>
    cases moves
    exact .inl rfl
  | frame frame nonce =>
    unfold hostNext HostState.takeFrame at moves
    dsimp only at moves
    split at moves
    · cases moves
      exact .inl rfl
    · contradiction
  | begin number =>
    unfold hostNext at moves
    dsimp only at moves
    split at moves
    · split at moves
      · split at moves
        · cases moves
          exact .inl rfl
        · contradiction
      · contradiction
    · contradiction
  | request request | batch request | grant channel amount =>
    unfold hostNext at moves
    dsimp only at moves
    split at moves
    · cases moves
      exact .inl rfl
    · contradiction
  | lock number | finish number =>
    unfold hostNext at moves
    dsimp only at moves
    split at moves
    · split at moves
      · cases moves
        exact .inl rfl
      · contradiction
    · contradiction

theorem Served.calm (served : Served before) (calm : Calm before after)
    (expired : ∀ entry ∈ after.expired, entry.1 ≠ 0 ∧ entry.2.channel ∈ requestChannels ∧ after.session.ready = true) :
    Served after where
  tasks := by
    intro number task request is asks
    cases calm.tasks number task is with
    | new waits unanswered listed credits => exact listed request asks
    | kept old was same requestId drawn sends locks => exact served.tasks number old request was (same ▸ asks)
  begun := by
    intro number task requestId is id
    cases calm.tasks number task is with
    | new waits unanswered listed credits =>
      rw [unanswered] at id
      contradiction
    | kept old was request same drawn sends locks =>
      obtain ⟨nonzero, ready⟩ := served.begun number old requestId was (same ▸ id)
      exact ⟨nonzero, calm.stays ready⟩
  expired := expired

theorem Does.stays (does : Does before event after) (ready : before.session.ready = true) :
    after.session.ready = true := by
  cases does with
  | calm calm => exact calm.stays ready
  | begins number task request is readying asks isReady result =>
    rw [result]
    exact isReady
  | hands sender outgoing drawn hands =>
    rw [hands.session]
    exact ready
  | misses sender outgoing drawn waits calm => exact calm.stays ready
  | greets frame nonce hello taken is reads greets => exact (greets.core.ready.trans greets.takes.ready).trans ready

theorem expire_cases {task : Task} {entry : Int × Request} (inside : entry ∈ state.expire task) :
    entry ∈ state.expired ∨ ∃ requestId request, task.requestId = some requestId ∧ task.request = some request ∧
      entry = ((requestId : Int), request) := by
  unfold HostState.expire at inside
  split at inside
  next requestId request isId asks _ =>
    rcases List.mem_append.mp inside with earlier | last
    · exact .inl earlier
    · exact .inr ⟨requestId, request, isId, asks, List.mem_singleton.mp last⟩
  next => exact .inl inside

theorem Served.step (hmac : List UInt8 → List UInt8 → List UInt8) (served : Served before)
    (fits : before.reader.Fits before.session) (moves : hostNext hmac before event = some after) : Served after := by
  have does := does_step hmac fits moves
  have expired : ∀ entry ∈ after.expired, entry.1 ≠ 0 ∧ entry.2.channel ∈ requestChannels ∧
      after.session.ready = true := by
    intro entry inside
    have earlier (was : entry ∈ before.expired) : entry.1 ≠ 0 ∧ entry.2.channel ∈ requestChannels ∧
        after.session.ready = true := by
      obtain ⟨nonzero, listed, ready⟩ := served.expired entry was
      exact ⟨nonzero, listed, does.stays ready⟩
    rcases expired_step hmac moves with same | ⟨number, task, is, grown⟩
    · exact earlier (same ▸ inside)
    · rw [grown] at inside
      rcases expire_cases inside with was | ⟨requestId, request, isId, asks, rfl⟩
      · exact earlier was
      · obtain ⟨nonzero, ready⟩ := served.begun number task requestId is isId
        exact ⟨Int.natCast_ne_zero.mpr nonzero, served.tasks number task request is asks, does.stays ready⟩
  cases does with
  | calm calm => exact served.calm calm expired
  | begins number task request is readying asks ready result =>
    subst result
    refine ⟨?_, ?_, expired⟩
    · intro other rest asked isRest asks'
      by_cases here : other = number
      · simp only [HostState.begin, HostState.setTask_tasks, if_pos here] at isRest
        cases isRest
        exact served.tasks number task asked is asks'
      · simp only [HostState.begin, HostState.setTask_tasks, if_neg here] at isRest
        exact served.tasks other rest asked isRest asks'
    · intro other rest requestId isRest isId
      by_cases here : other = number
      · simp only [HostState.begin, HostState.setTask_tasks, if_pos here] at isRest
        cases isRest
        cases isId
        exact ⟨nextRequestId_ne_zero _, ready⟩
      · simp only [HostState.begin, HostState.setTask_tasks, if_neg here] at isRest
        exact served.begun other rest requestId isRest isId
  | hands sender outgoing drawn hands =>
    refine ⟨?_, ?_, expired⟩
    · intro number task request is asks
      obtain ⟨old, was, same, _⟩ := hands.tasks number task is
      exact served.tasks number old request was (same ▸ asks)
    · intro number task requestId is isId
      obtain ⟨old, was, _, same, _⟩ := hands.tasks number task is
      obtain ⟨nonzero, ready⟩ := served.begun number old requestId was (same ▸ isId)
      refine ⟨nonzero, ?_⟩
      rw [hands.session]
      exact ready
  | misses sender outgoing drawn waits calm =>
    have numbered : Served (before.number outgoing).1 := ⟨served.tasks, served.begun, served.expired⟩
    exact numbered.calm calm expired
  | greets frame nonce hello taken is reads greets =>
    have ready : after.session.ready = before.session.ready := greets.core.ready.trans greets.takes.ready
    refine ⟨?_, ?_, expired⟩
    · rw [greets.tasks]
      exact served.tasks
    · rw [greets.tasks, ready]
      exact served.begun

theorem served_invariant (hmac : List UInt8 → List UInt8 → List UInt8) :
    Invariant ((host hmac).guarded SteadyCapability) fun state => Addressed state ∧ Served state := by
  refine (addressed_invariant hmac).over ?_ ?_
  · rintro state ⟨endpoint, pairingToken, rfl⟩
    refine ⟨?_, ?_, fun entry inside => absurd inside List.not_mem_nil⟩
    · intro number task request is
      cases is
    · intro number task requestId is
      cases is
  · rintro before event after addressed served ⟨_, moves⟩
    exact served.step hmac addressed.reader moves

theorem listed_channels {channel : Int} (listed : channel ∈ requestChannels) :
    channel ≠ Channel.log.toNat ∧ channel ≠ Channel.event.toNat := by
  revert channel
  decide

theorem resolve_eq_iff (state : HostState) (future : Nat) (outcome : Except Raised Frame) :
    state.resolve future outcome = state ↔ ∀ task, state.tasks future = some task → task.outcome.isSome := by
  unfold HostState.resolve
  split
  next task is =>
    split
    next done =>
      refine ⟨fun _ other isOther => ?_, fun _ => rfl⟩
      cases is.symm.trans isOther
      exact done
    next waits =>
      constructor
      · intro same other isOther
        cases is.symm.trans isOther
        have answered := congrFun (congrArg HostState.tasks same) future
        rw [HostState.setTask_tasks, if_pos rfl, is] at answered
        have outcomes := congrArg Task.outcome (Option.some.inj answered)
        rw [← outcomes]
        rfl
      · intro done
        exact absurd (done task is) waits
  next gone =>
    refine ⟨fun _ other isOther => ?_, fun _ => rfl⟩
    rw [isOther] at gone
    contradiction

theorem handleMedia_acts (state : HostState) (session : DeviceSession) (frame : Frame) :
    ¬ Ignores state (handleMedia session frame) := by
  intro ignores
  have quiet := ignores.raises
  have effects := ignores.effects
  revert quiet effects
  unfold handleMedia
  dsimp only
  split
  · exact fun raises => by cases raises
  split
  · exact fun raises => by cases raises
  intro _ effects
  obtain ⟨future, outcome, tile, _⟩ := effects _ List.mem_cons_self
  cases tile

theorem ignores_iff_harmless (hmac : List UInt8 → List UInt8 → List UInt8) (nonce : List UInt8)
    (addressed : Addressed state) (served : Served state) {request : Request} {frame : Frame}
    (late : Late state request frame) :
    Ignores state (handleFrame hmac nonce state.session frame) ↔ Harmless state frame := by
  obtain ⟨nonzero, listed, ready⟩ := served.expired _ late.expired
  obtain ⟨info, isInfo⟩ := Option.isSome_iff_exists.mp (addressed.known ready)
  have settled : state.session.reopenSessionId = none := by
    cases asked : state.session.reopenSessionId with
    | none => rfl
    | some old => exact absurd ready (Bool.eq_false_iff.mp (addressed.asked old asked).1)
  have kind : isHello frame = false ∧ isAuthResult frame = false ∧ frame.channel ≠ Channel.log.toNat ∧
      frame.channel ≠ Channel.event.toNat := by
    rcases late.answers with ⟨channel, noHello, noResult⟩ | ⟨channel, type⟩
    · rw [channel]
      exact ⟨noHello, noResult, listed_channels listed⟩
    · rw [isHello, isAuthResult, channel, type]
      decide
  obtain ⟨noHello, noResult, noLog, noEvent⟩ := kind
  have own : ¬ state.session.info.all (fun info => frame.sessionId ≠ info.sessionId) = true := by
    have session := late.session
    rw [sessionIdOf, isInfo] at session
    rw [isInfo]
    simpa using session
  obtain ⟨noted, accepted⟩ := Option.isSome_iff_exists.mp late.inOrder
  have same := acceptSequence_noted accepted
  have pending : noted.pending = state.session.pending := by rw [same]
  rw [handleFrame, if_neg (Bool.eq_false_iff.mp noHello), if_neg (not_not.mpr settled), if_neg own, accepted]
  dsimp only
  rw [dispatchFrame, if_neg (Bool.eq_false_iff.mp noResult), if_neg nonzero, pending, Harmless]
  cases state.session.pending frame.requestId with
  | some future =>
    dsimp only
    rw [← resolve_eq_iff state future (responseOutcome frame)]
    constructor
    · intro ignores
      obtain ⟨other, outcome, resolves, unchanged⟩ := ignores.effects _ (List.mem_singleton.mpr rfl)
      cases resolves
      exact unchanged
    · intro unchanged
      refine ⟨rfl, ?_, ⟨_, same⟩⟩
      intro effect inside
      rw [List.mem_singleton.mp inside]
      exact ⟨future, responseOutcome frame, rfl, unchanged⟩
  | none =>
    dsimp only
    rw [if_neg (fun log => noLog log.1), if_neg noEvent]
    split
    next media =>
      rw [media]
      exact iff_of_false (handleMedia_acts state noted frame) Bool.noConfusion
    next other =>
      refine iff_of_true ⟨rfl, ?_, ⟨_, same⟩⟩ (Bool.eq_false_iff.mpr other)
      exact fun effect inside => absurd inside List.not_mem_nil

/-- In every run, a late response is ignored exactly where it is harmless. -/
theorem late_response_ignored_iff (hmac : List UInt8 → List UInt8 → List UInt8) (nonce : List UInt8)
    {state : HostState} (reached : Reachable ((host hmac).guarded SteadyCapability) state) {request : Request}
    {frame : Frame} (late : Late state request frame) :
    Ignores state (handleFrame hmac nonce state.session frame) ↔ Harmless state frame := by
  obtain ⟨addressed, served⟩ := (served_invariant hmac).reachable reached
  exact ignores_iff_harmless hmac nonce addressed served late

def readySession : List HostEvent :=
  [.frame (plainHello 7 0 1) [], .perform none, .turn .reader, .written .reader, .perform none, .turn .reader,
    .written .reader] ++ List.replicate 4 (.perform none)

def abandoned (request : Request) (locks : Bool) : List HostEvent :=
  [.request request] ++ (if locks then [.lock 0] else []) ++
    [.begin 0, .turn (.task 0), .written (.task 0), .cancel 0]

def response (channel type : UInt8) (payload : List UInt8) : Frame where
  channel := channel.toNat
  type := type.toNat
  flags := Flag.response.toNat
  sessionId := 7
  requestId := 1
  streamId := 0
  sequence := 1
  payload := payload

def statusRequest : Request := ⟨Channel.control.toNat, ControlType.statusRequest.toNat, [], 0⟩

def statusResponse : Frame := response Channel.control ControlType.statusResponse []

/-- The `MediaType.OPEN` of `screenshot`. -/
def screenshotRequest : Request := ⟨Channel.screen.toNat, MediaType.opening.toNat, List.replicate 16 0, 0⟩

def openedResponse : Frame := response Channel.screen MediaType.opened (List.replicate 20 0)

def isLate (request : Request) (frame : Frame) (state : HostState) : Bool :=
  state.expired = [(frame.requestId, request)] && frame.sessionId = sessionIdOf state.session &&
    (acceptSequence state.session frame).isSome

theorem Late.of_isLate {request : Request} {frame : Frame} (isLate : isLate request frame state = true)
    (answers : Answers request frame) : Late state request frame := by
  simp only [EspIris.Gateway.isLate, Bool.and_eq_true, decide_eq_true_eq] at isLate
  exact ⟨isLate.1.1 ▸ List.mem_singleton.mpr rfl, answers, isLate.1.2, isLate.2⟩

def lateStatus (state : HostState) : Bool :=
  isLate statusRequest statusResponse state && (state.session.pending statusResponse.requestId).isNone

theorem late_status_response_ignored :
    ∃ state, Reachable ((host fun _ _ => []).guarded SteadyCapability) state ∧ Late state statusRequest statusResponse ∧
      Ignores state (handleFrame (fun _ _ => []) [] state.session statusResponse) := by
  obtain ⟨state, run, checked⟩ : ∃ state, Run ((host fun _ _ => []).guarded SteadyCapability) (.initial "usb" none)
      (readySession ++ abandoned statusRequest false) state ∧ lateStatus state = true :=
    Run.of_guarded_check (by decide +kernel)
  obtain ⟨isLate, unused⟩ := Bool.and_eq_true_iff.mp checked
  have reached : Reachable ((host fun _ _ => []).guarded SteadyCapability) state := ⟨_, _, ⟨"usb", none, rfl⟩, run⟩
  have isResponse : Late state statusRequest statusResponse :=
    .of_isLate isLate (.inl ⟨rfl, by decide, by decide⟩)
  refine ⟨state, reached, isResponse, (late_response_ignored_iff _ [] reached isResponse).mpr ?_⟩
  rw [Harmless, Option.isNone_iff_eq_none.mp unused]
  rfl

def steadyNext (state : HostState) (event : HostEvent) : Option HostState :=
  if SteadyCapability state event then hostNext (fun _ _ => []) state event else none

def isClosed (state : HostState) : Bool := state.session.state = .closed

def lateOpened (state : HostState) : Bool :=
  isLate screenshotRequest openedResponse state && state.session.state = .ready &&
    (handleFrame (fun _ _ => []) [] state.session openedResponse).raises.isSome &&
    ([HostEvent.frame openedResponse [], .perform none].foldlM steadyNext state).any isClosed

/-- A screenshot that is cancelled while the device opens it: the OPENED that comes then raises
from the frame handler, and the reader ends the session. -/
theorem late_opened_ends_session :
    ∃ state, Reachable ((host fun _ _ => []).guarded SteadyCapability) state ∧
      Late state screenshotRequest openedResponse ∧ state.session.state = .ready ∧
      ¬ Ignores state (handleFrame (fun _ _ => []) [] state.session openedResponse) ∧
      ∃ ended, Run ((host fun _ _ => []).guarded SteadyCapability) state
        [.frame openedResponse [], .perform none] ended ∧ ended.session.state = .closed := by
  obtain ⟨state, run, checked⟩ : ∃ state, Run ((host fun _ _ => []).guarded SteadyCapability) (.initial "usb" none)
      (readySession ++ abandoned screenshotRequest true) state ∧ lateOpened state = true :=
    Run.of_guarded_check (by decide +kernel)
  simp only [lateOpened, Bool.and_eq_true] at checked
  obtain ⟨⟨⟨isLate, ready⟩, raises⟩, ends⟩ := checked
  refine ⟨state, ⟨_, _, ⟨"usb", none, rfl⟩, run⟩, .of_isLate isLate (.inl ⟨rfl, by decide, by decide⟩),
    of_decide_eq_true ready, ?_, ?_⟩
  · intro ignores
    rw [ignores.raises] at raises
    exact Bool.false_ne_true raises
  · obtain ⟨ended, run, closed⟩ : ∃ ended, Run ((host fun _ _ => []).guarded SteadyCapability) state
        [.frame openedResponse [], .perform none] ended ∧ isClosed ended = true := Run.of_guarded_check ends
    exact ⟨ended, run, of_decide_eq_true closed⟩

end EspIris.Gateway
