import EspIris.Codec.Agreement
import EspIris.Device.Replay
import EspIris.Gateway.RequestSteps

/-! The order in which frames reach the link: each channel's numbers and the request ids of the
RPCs increase within a session, whoever waits for the locks and whoever gives up. -/

namespace EspIris.Gateway
open Codec.Host (Frame encodeFrame)
open Machine
variable {before after : HostState} {state : HostState} {outgoing : Outgoing} {taken : DeviceSession}
variable {sender : Sender} {hello : DeviceInfo} {drawn : Nat}

/-- Which session the frames are addressed to. A new session is asked for before the first one is
ready, so only acknowledgements can carry the old id. -/
structure Addressed (state : HostState) : Prop where
  strangers : state.session.info = none → state.wire = [] ∧ state.session.ready = false ∧
    state.session.reopenSessionId = none ∧ state.session.reopenRequested = false
  asked : ∀ old, state.session.reopenSessionId = some old → state.session.ready = false ∧
    (∃ info, state.session.info = some info ∧ info.sessionId = old) ∧ ∀ sent ∈ state.wire, sent.frame.sessionId = old
  capable : ∀ info, state.session.info = some info →
    state.session.reopenRequested = info.capabilities.testBit Capability.sessionReopen
  tasks : ∀ number task outgoing, state.tasks number = some task → task.phase = .sending outgoing →
    state.session.ready = true ∧ outgoing.sessionId = sessionIdOf state.session
  reader : state.reader.Fits state.session

theorem Addressed.known (addressed : Addressed state) (ready : state.session.ready = true) :
    state.session.info.isSome := by
  cases info : state.session.info with
  | none => exact absurd ready (Bool.eq_false_iff.mp (addressed.strangers info).2.1)
  | some info => rfl

theorem Addressed.waits (addressed : Addressed state) (waits : Waits state sender outgoing drawn) :
    outgoing.sessionId = sessionIdOf state.session ∧ state.session.info.isSome := by
  cases waits with
  | task is phase =>
    obtain ⟨ready, session⟩ := addressed.tasks _ _ _ is phase
    exact ⟨session, addressed.known ready⟩
  | reader is =>
    have fits := addressed.reader
    rw [is] at fits
    exact ⟨fits.2.1, fits.1⟩

theorem Addressed.calm (addressed : Addressed before) (calm : Calm before after) :
    Addressed after where
  strangers := by
    intro unknown
    rw [calm.info] at unknown
    obtain ⟨nothing, waiting, quiet, unasked⟩ := addressed.strangers unknown
    refine ⟨calm.wire.trans nothing, ?_, calm.reopenSessionId.trans quiet, calm.reopenRequested.trans unasked⟩
    refine Bool.eq_false_iff.mpr ?_
    intro ready
    rcases calm.opens ready with already | ⟨known, _⟩
    · exact Bool.eq_false_iff.mp waiting already
    · rw [unknown] at known
      exact Bool.false_ne_true known
  asked := by
    intro old reopen
    rw [calm.reopenSessionId] at reopen
    obtain ⟨waiting, info, addresses⟩ := addressed.asked old reopen
    refine ⟨?_, calm.info ▸ info, calm.wire ▸ addresses⟩
    refine Bool.eq_false_iff.mpr ?_
    intro ready
    rcases calm.opens ready with already | ⟨_, settled⟩
    · exact Bool.eq_false_iff.mp waiting already
    · rw [reopen] at settled
      contradiction
  capable := by
    intro info isThat
    rw [calm.reopenRequested]
    exact addressed.capable info (calm.info ▸ isThat)
  tasks := by
    intro number task outgoing is sends
    rw [sessionIdOf_eq calm.info]
    cases calm.tasks number task is with
    | new waits unanswered asks credits =>
      obtain ⟨ready, _, channel, amount, rfl⟩ := credits outgoing sends
      exact ⟨calm.stays ready, rfl⟩
    | kept old was request requestId drawn before locks =>
      obtain ⟨ready, session⟩ := addressed.tasks number old outgoing was (before outgoing sends)
      exact ⟨calm.stays ready, session⟩
  reader := calm.reader

theorem Addressed.number (addressed : Addressed state) (outgoing : Outgoing) :
    Addressed (state.number outgoing).1 :=
  ⟨addressed.strangers, addressed.asked, addressed.capable, addressed.tasks, addressed.reader.over rfl rfl⟩

theorem Addressed.begin (addressed : Addressed state) (number : Nat) (task : Task) (request : Request)
    (ready : state.session.ready = true) : Addressed (state.begin number task request) where
  strangers := addressed.strangers
  asked := addressed.asked
  capable := addressed.capable
  tasks := by
    intro other rest outgoing isRest sends
    by_cases here : other = number
    · simp only [HostState.begin, HostState.setTask_tasks, if_pos here] at isRest
      cases isRest
      cases sends
      exact ⟨ready, rfl⟩
    · simp only [HostState.begin, HostState.setTask_tasks, if_neg here] at isRest
      exact addressed.tasks other rest outgoing isRest sends
  reader := addressed.reader.over rfl rfl

theorem Addressed.hands (addressed : Addressed before) (hands : Hands before after sender outgoing drawn) :
    Addressed after := by
  obtain ⟨session, known⟩ := addressed.waits hands.waits
  have info : after.session.info = before.session.info := by rw [hands.session]; rfl
  have ready : after.session.ready = before.session.ready := by rw [hands.session]; rfl
  have reopen : after.session.reopenSessionId = before.session.reopenSessionId := by rw [hands.session]; rfl
  constructor
  · intro unknown
    rw [← info, unknown] at known
    exact absurd known Bool.false_ne_true
  · intro old isOld
    rw [reopen] at isOld
    obtain ⟨waiting, ⟨current, isCurrent, same⟩, addresses⟩ := addressed.asked old isOld
    refine ⟨ready.trans waiting, ⟨current, info.trans isCurrent, same⟩, ?_⟩
    intro sent inside
    rw [hands.wire] at inside
    rcases List.mem_append.mp inside with earlier | last
    · exact addresses sent earlier
    · rw [List.mem_singleton.mp last]
      refine session.trans ?_
      rw [sessionIdOf, isCurrent]
      exact same
  · intro current isCurrent
    rw [hands.session]
    exact addressed.capable current (info ▸ isCurrent)
  · intro number task other is sends
    obtain ⟨old, was, _, _, _, before, _⟩ := hands.tasks number task is
    rw [ready, sessionIdOf_eq info]
    exact addressed.tasks number old other was (before other sends).1
  · exact hands.reader

theorem reopens_iff (session : DeviceSession) (hello : DeviceInfo) :
    reopens session hello = true ↔ ∃ old, session.reopenSessionId = some old ∧ hello.sessionId ≠ old := by
  rw [reopens, Option.any_eq_true]
  simp only [decide_eq_true_eq]

/-- What a HELLO that is taken can be: the first one, the answer to the request for a new session,
or one that comes again. -/
inductive Greeting (before after : HostState) (hello : DeviceInfo) : Prop
  | first (unknown : before.session.info = none)
      (reopen : ∀ old, after.session.reopenSessionId = some old → hello.sessionId = old)
      (sequence : after.session.sequence = before.session.sequence) (numbered : after.numbered = before.numbered)
  | moved (old : Int) (asked : before.session.reopenSessionId = some old) (other : hello.sessionId ≠ old)
      (settled : after.session.reopenSessionId = none) (sequence : after.session.sequence = fun _ => 0)
      (numbered : after.numbered = fun _ => 0)
  | again (current : DeviceInfo) (was : before.session.info = some current) (same : hello.sessionId = current.sessionId)
      (reopen : after.session.reopenSessionId = before.session.reopenSessionId)
      (sequence : after.session.sequence = before.session.sequence) (numbered : after.numbered = before.numbered)

theorem Addressed.greeting {before after : HostState} {hello : DeviceInfo} {taken : DeviceSession}
    (addressed : Addressed before) (greets : Greets before after hello taken)
    (steady : ∀ current, before.session.info = some current → hello.capabilities.testBit Capability.sessionReopen =
      current.capabilities.testBit Capability.sessionReopen) : Greeting before after hello := by
  have takes := greets.takes
  have reopening := greets.core.reopenSessionId.trans takes.reopening
  have numbered (same : startsOver before.session after.session = false) : after.numbered = before.numbered := by
    rw [greets.numbered, same]
    rfl
  cases isThat : before.session.info with
  | none =>
    obtain ⟨_, _, quiet, unasked⟩ := addressed.strangers isThat
    rcases takes.moves with ⟨_, ⟨current, known, _⟩, _⟩ | ⟨repeated, sequence, _⟩
    · rw [isThat] at known
      contradiction
    · refine .first isThat ?_ (greets.core.sequence.trans sequence) (numbered ?_)
      · intro old isOld
        rw [reopening, repeated, quiet] at isOld
        split at isOld
        · exact Option.some.inj isOld
        · contradiction
      · rw [startsOver, quiet]
        rfl
  | some current =>
    -- the device advertises what it did, so no new session is asked for a second time
    have once : ¬ (hello.capabilities.testBit Capability.sessionReopen = true ∧ before.session.reopenRequested = false) := by
      rw [steady current isThat, addressed.capable current isThat]
      rintro ⟨capable, unasked⟩
      exact Bool.false_ne_true (unasked.symm.trans capable)
    rw [if_neg once] at reopening
    rcases takes.moves with ⟨opens, _, sequence⟩ | ⟨repeated, sequence, same⟩
    · obtain ⟨old, asked, other⟩ := (reopens_iff _ _).mp opens
      rw [if_pos opens] at reopening
      refine .moved old asked other reopening (greets.core.sequence.trans sequence) ?_
      rw [greets.numbered, startsOver, asked, reopening]
      rfl
    · rw [repeated] at reopening
      refine .again current isThat (same current isThat).2.symm reopening (greets.core.sequence.trans sequence)
        (numbered ?_)
      rw [startsOver, reopening]
      cases before.session.reopenSessionId <;> rfl

theorem Addressed.greets {before after : HostState} {hello : DeviceInfo} {taken : DeviceSession}
    (addressed : Addressed before) (greets : Greets before after hello taken)
    (steady : ∀ current, before.session.info = some current → hello.capabilities.testBit Capability.sessionReopen =
      current.capabilities.testBit Capability.sessionReopen) : Addressed after := by
  have info : after.session.info = some hello := greets.core.info.trans greets.takes.info
  have ready : after.session.ready = before.session.ready := greets.core.ready.trans greets.takes.ready
  have requested := greets.core.reopenRequested.trans greets.takes.requested
  have greeting := addressed.greeting greets steady
  constructor
  · intro unknown
    rw [info] at unknown
    contradiction
  · intro old isOld
    rw [greets.wire, ready, info]
    cases greeting with
    | first unknown reopen sequence numbered =>
      obtain ⟨nothing, waiting, _, _⟩ := addressed.strangers unknown
      exact ⟨waiting, ⟨hello, rfl, reopen old isOld⟩, by simp [nothing]⟩
    | moved before asked other settled sequence numbered =>
      rw [settled] at isOld
      contradiction
    | again current was same reopen sequence numbered =>
      obtain ⟨waiting, ⟨known, isKnown, addresses⟩, earlier⟩ := addressed.asked old (reopen ▸ isOld)
      rw [was] at isKnown
      cases isKnown
      exact ⟨waiting, ⟨hello, rfl, same.trans addresses⟩, earlier⟩
  · intro other isOther
    rw [info] at isOther
    cases isOther
    rw [requested]
    cases isThat : before.session.info with
    | none => rw [(addressed.strangers isThat).2.2.2, Bool.false_or]
    | some current => rw [addressed.capable current isThat, steady current isThat, Bool.or_self]
  · intro number task outgoing is sends
    rw [greets.tasks] at is
    obtain ⟨isReady, session⟩ := addressed.tasks number task outgoing is sends
    refine ⟨ready.trans isReady, session.trans ?_⟩
    rw [sessionIdOf, sessionIdOf, info]
    cases greeting with
    | first unknown reopen sequence numbered =>
      exact absurd isReady (Bool.eq_false_iff.mp (addressed.strangers unknown).2.1)
    | moved old asked other settled sequence numbered =>
      exact absurd isReady (Bool.eq_false_iff.mp (addressed.asked old asked).1)
    | again current was same reopen sequence numbered =>
      rw [was]
      exact same.symm
  · exact greets.reader

section host
variable (hmac : List UInt8 → List UInt8 → List UInt8)

theorem addressed_invariant : Invariant ((host hmac).guarded SteadyCapability) Addressed where
  start := by
    rintro state ⟨endpoint, pairingToken, rfl⟩
    refine ⟨fun _ => ⟨rfl, rfl, rfl, rfl⟩, ?_, ?_, ?_, trivial⟩
    · intro old reopen
      cases reopen
    · intro info isThat
      cases isThat
    · intro number task outgoing is
      cases is
  step := by
    rintro before event after addressed ⟨steady, moves⟩
    cases does_step hmac addressed.reader moves with
    | calm calm => exact addressed.calm calm
    | begins number task request is readying asks ready result =>
      rw [result]
      exact addressed.begin number task request ready
    | hands sender outgoing drawn hands => exact addressed.hands hands
    | misses sender outgoing drawn waits calm => exact (addressed.number outgoing).calm calm
    | greets frame nonce hello taken is reads greets =>
      subst is
      exact addressed.greets greets fun current known => steady current hello known reads

end host

/-- The numbers of the frames: each is the low half of a counter that its channel counts through,
from the start of the session on. -/
structure Numbered (state : HostState) : Prop where
  counters : ∀ channel, state.session.sequence channel = state.numbered channel % 2 ^ 32
  current : ∀ sent ∈ state.wire, sent.frame.sessionId = sessionIdOf state.session →
    sent.number ≤ state.numbered sent.frame.channel
  sequences : ∀ sent ∈ state.wire, sent.frame.sequence = (sent.number % 2 ^ 32 : Nat)
  ordered : state.wire.Pairwise fun earlier later => earlier.frame.sessionId = later.frame.sessionId →
    earlier.frame.channel = later.frame.channel → earlier.number < later.number
  encoded : ∀ sent ∈ state.wire, ∃ bytes, encodeFrame sent.frame = .ok bytes

theorem Numbered.same (numbered : Numbered before) (info : after.session.info = before.session.info)
    (sequence : after.session.sequence = before.session.sequence) (wire : after.wire = before.wire)
    (counted : after.numbered = before.numbered) : Numbered after where
  counters := by
    intro channel
    rw [sequence, counted]
    exact numbered.counters channel
  current := by
    rw [wire, counted, sessionIdOf_eq info]
    exact numbered.current
  sequences := wire ▸ numbered.sequences
  ordered := wire ▸ numbered.ordered
  encoded := wire ▸ numbered.encoded

theorem Numbered.number (numbered : Numbered state) (outgoing : Outgoing) :
    Numbered (state.number outgoing).1 where
  counters := by
    intro channel
    dsimp only [HostState.number]
    by_cases here : channel = outgoing.channel
    · rw [if_pos here, if_pos here, here, numbered.counters, Nat.mod_add_mod]
    · rw [if_neg here, if_neg here]
      exact numbered.counters channel
  current := by
    intro sent inside session
    have before := numbered.current sent inside session
    dsimp only [HostState.number]
    split
    · exact Nat.le_succ_of_le before
    · exact before
  sequences := numbered.sequences
  ordered := numbered.ordered
  encoded := numbered.encoded

theorem Numbered.hands (numbered : Numbered before) (addressed : Addressed before)
    (hands : Hands before after sender outgoing drawn) :
    Numbered after := by
  have counted := numbered.number outgoing
  obtain ⟨session, _⟩ := addressed.waits hands.waits
  have isNext : after.numbered outgoing.channel = before.numbered outgoing.channel + 1 := by
    rw [hands.numbered, number_counts]
  have sessionId : sessionIdOf after.session = sessionIdOf before.session :=
    sessionIdOf_eq (by rw [hands.session]; rfl)
  constructor
  · intro channel
    rw [hands.session, hands.numbered]
    exact counted.counters channel
  · intro sent inside own
    rw [hands.wire] at inside
    rcases List.mem_append.mp inside with earlier | last
    · rw [hands.numbered]
      exact counted.current sent earlier (own.trans sessionId)
    · rw [List.mem_singleton.mp last]
      exact isNext.symm.le
  · intro sent inside
    rw [hands.wire] at inside
    rcases List.mem_append.mp inside with earlier | last
    · exact numbered.sequences sent earlier
    · rw [List.mem_singleton.mp last]
      dsimp only [HostState.number, outgoingFrame]
      rw [numbered.counters, Nat.mod_add_mod]
  · rw [hands.wire, List.pairwise_append]
    refine ⟨numbered.ordered, List.pairwise_singleton _ _, ?_⟩
    intro earlier isEarlier later isLater own channel
    rw [List.mem_singleton.mp isLater] at own channel ⊢
    have bound := numbered.current earlier isEarlier (own.trans session)
    rw [channel] at bound
    exact Nat.lt_succ_of_le bound
  · intro sent inside
    rw [hands.wire] at inside
    rcases List.mem_append.mp inside with earlier | last
    · exact numbered.encoded sent earlier
    · rw [List.mem_singleton.mp last]
      exact hands.encodes

theorem Numbered.greets (numbered : Numbered before) (addressed : Addressed before)
    (greets : Greets before after hello taken) (greeting : Greeting before after hello) : Numbered after := by
  have info : after.session.info = some hello := greets.core.info.trans greets.takes.info
  have restarted (counters : ∀ channel, after.session.sequence channel = after.numbered channel % 2 ^ 32)
      (current : ∀ sent ∈ after.wire, sent.frame.sessionId = hello.sessionId →
        sent.number ≤ after.numbered sent.frame.channel) : Numbered after := by
    refine ⟨counters, ?_, greets.wire ▸ numbered.sequences, greets.wire ▸ numbered.ordered,
      greets.wire ▸ numbered.encoded⟩
    rw [sessionIdOf, info]
    exact current
  cases greeting with
  | first unknown reopen sequence counted =>
    refine restarted (by rw [sequence, counted]; exact numbered.counters) ?_
    rw [greets.wire, (addressed.strangers unknown).1]
    exact fun sent inside => absurd inside List.not_mem_nil
  | moved old asked other settled sequence counted =>
    refine restarted (fun channel => by simp [sequence, counted]) ?_
    -- what was sent until now is addressed to the session before
    intro sent inside own
    rw [greets.wire] at inside
    exact absurd (own.symm.trans ((addressed.asked old asked).2.2 sent inside)) other
  | again current was same reopen sequence counted =>
    refine restarted (by rw [sequence, counted]; exact numbered.counters) ?_
    rw [greets.wire, counted, same]
    intro sent inside own
    refine numbered.current sent inside (own.trans ?_)
    rw [sessionIdOf, was]
    rfl

section host
variable (hmac : List UInt8 → List UInt8 → List UInt8)

theorem numbered_invariant :
    Invariant ((host hmac).guarded SteadyCapability) fun state => Addressed state ∧ Numbered state := by
  refine (addressed_invariant hmac).over ?_ ?_
  · rintro state ⟨endpoint, pairingToken, rfl⟩
    exact ⟨fun _ => rfl, fun sent inside => absurd inside List.not_mem_nil,
      fun sent inside => absurd inside List.not_mem_nil, .nil, fun sent inside => absurd inside List.not_mem_nil⟩
  · rintro before event after addressed numbered ⟨steady, moves⟩
    cases does_step hmac addressed.reader moves with
    | calm calm => exact numbered.same calm.info calm.sequence calm.wire calm.numbered
    | begins number task request is readying asks ready result =>
      rw [result]
      exact numbered.same rfl rfl rfl rfl
    | hands sender outgoing drawn hands => exact numbered.hands addressed hands
    | misses sender outgoing drawn waits calm =>
      exact (numbered.number outgoing).same calm.info calm.sequence calm.wire calm.numbered
    | greets frame nonce hello taken is reads greets =>
      subst is
      exact numbered.greets addressed greets
        (addressed.greeting greets fun current known => steady current hello known reads)

end host

/-- The ids of the requests: an RPC holds the request lock from before it draws its id until its
task ends, so no other RPC draws one or is sent in between. -/
structure Drawn (state : HostState) : Prop where
  counter : state.session.requestId = state.drawn % 2 ^ 32
  holder : ∀ number task, state.tasks number = some task → task.isRpc = true → task.phase ≠ .locking →
    state.requester = some number
  tasks : ∀ number task outgoing, state.tasks number = some task → task.phase = .sending outgoing →
    asksRpc outgoing.channel outgoing.type = true → task.isRpc = true ∧ task.drawn ≤ state.drawn ∧
    outgoing.requestId = (task.drawn % 2 ^ 32 : Nat) ∧ task.drawn % 2 ^ 32 ≠ 0 ∧
    ∀ sent ∈ state.wire, asksRpc sent.frame.channel sent.frame.type = true → sent.drawn < task.drawn
  below : ∀ sent ∈ state.wire, asksRpc sent.frame.channel sent.frame.type = true → sent.drawn ≤ state.drawn
  requestIds : ∀ sent ∈ state.wire, asksRpc sent.frame.channel sent.frame.type = true →
    sent.frame.requestId = (sent.drawn % 2 ^ 32 : Nat) ∧ sent.drawn % 2 ^ 32 ≠ 0
  ordered : state.wire.Pairwise fun earlier later => asksRpc earlier.frame.channel earlier.frame.type = true →
    asksRpc later.frame.channel later.frame.type = true → earlier.drawn < later.drawn

theorem lt_nextDrawn (drawn : Nat) : drawn < nextDrawn drawn := by
  unfold nextDrawn
  split <;> omega

theorem nextDrawn_ne_zero (drawn : Nat) : nextDrawn drawn % 2 ^ 32 ≠ 0 := by
  unfold nextDrawn
  split <;> omega

theorem nextRequestId_eq (drawn : Nat) : nextRequestId (drawn % 2 ^ 32) = nextDrawn drawn % 2 ^ 32 := by
  unfold nextRequestId nextDrawn
  dsimp only
  rw [Nat.mod_add_mod]
  split <;> omega

theorem Drawn.calm (drawn : Drawn before) (calm : Calm before after) : Drawn after where
  counter := by
    rw [calm.requestId, calm.drawn]
    exact drawn.counter
  holder := by
    intro number task is isRpc begun
    cases calm.tasks number task is with
    | new waits unanswered asks credits =>
      rcases waits with locking | other
      · exact absurd locking begun
      · exact absurd isRpc (Bool.eq_false_iff.mp other)
    | kept old was request requestId same sends locks =>
      rcases locks begun with now | ⟨held, keeps⟩
      · exact now
      · rw [Task.isRpc, request] at isRpc
        exact keeps (drawn.holder number old was isRpc held)
  tasks := by
    intro number task outgoing is sends isRpc
    cases calm.tasks number task is with
    | new waits unanswered asks credits =>
      obtain ⟨_, _, channel, amount, rfl⟩ := credits outgoing sends
      exact absurd isRpc (Bool.eq_false_iff.mp (not_rpc_of_reply ⟨rfl, .inr rfl⟩))
    | kept old was request requestId same before locks =>
      rw [calm.wire, calm.drawn, same, Task.isRpc, request]
      exact drawn.tasks number old outgoing was (before outgoing sends) isRpc
  below := by
    rw [calm.wire, calm.drawn]
    exact drawn.below
  requestIds := calm.wire ▸ drawn.requestIds
  ordered := calm.wire ▸ drawn.ordered

theorem Drawn.number (drawn : Drawn state) (outgoing : Outgoing) :
    Drawn (state.number outgoing).1 :=
  ⟨drawn.counter, drawn.holder, drawn.tasks, drawn.below, drawn.requestIds, drawn.ordered⟩

theorem Drawn.begin (drawn : Drawn state) {number : Nat} {task : Task} {request : Request}
    (is : state.tasks number = some task) (readying : task.phase = .readying) (asks : task.request = some request) :
    Drawn (state.begin number task request) where
  counter := by
    dsimp only [HostState.begin]
    rw [drawn.counter, nextRequestId_eq]
  holder := by
    intro other rest isRest isRpc begun
    by_cases here : other = number
    · simp only [HostState.begin, HostState.setTask_tasks, if_pos here] at isRest
      cases isRest
      rw [here]
      exact drawn.holder number task is isRpc (by rw [readying]; exact TaskPhase.noConfusion)
    · simp only [HostState.begin, HostState.setTask_tasks, if_neg here] at isRest
      exact drawn.holder other rest isRest isRpc begun
  tasks := by
    intro other rest outgoing isRest sends isRpc
    by_cases here : other = number
    · simp only [HostState.begin, HostState.setTask_tasks, if_pos here] at isRest
      cases isRest
      cases sends
      refine ⟨?_, le_refl _, ?_, nextDrawn_ne_zero _, ?_⟩
      · rw [Task.isRpc, asks]
        exact isRpc
      · dsimp only [requestFrame]
        rw [drawn.counter, nextRequestId_eq]
      · intro sent inside isSent
        exact Nat.lt_of_le_of_lt (drawn.below sent inside isSent) (lt_nextDrawn _)
    · simp only [HostState.begin, HostState.setTask_tasks, if_neg here] at isRest
      obtain ⟨isTask, bound, id, nonzero, ahead⟩ := drawn.tasks other rest outgoing isRest sends isRpc
      exact ⟨isTask, bound.trans (lt_nextDrawn _).le, id, nonzero, ahead⟩
  below := fun sent inside isRpc => (drawn.below sent inside isRpc).trans (lt_nextDrawn _).le
  requestIds := drawn.requestIds
  ordered := drawn.ordered

theorem Drawn.waits {number : Nat} (drawn : Drawn state) (fits : state.reader.Fits state.session)
    (waits : Waits state sender outgoing number) (isRpc : asksRpc outgoing.channel outgoing.type = true) :
    ∃ holder task, sender = .task holder ∧ state.tasks holder = some task ∧ task.phase = .sending outgoing ∧
      task.drawn = number ∧ task.isRpc = true := by
  cases waits with
  | task is phase => exact ⟨_, _, rfl, is, phase, rfl, (drawn.tasks _ _ _ is phase isRpc).1⟩
  | reader is =>
    rw [is] at fits
    exact absurd isRpc (Bool.eq_false_iff.mp (not_rpc_of_reply fits.2.2.1))

theorem Drawn.hands {number : Nat} (drawn : Drawn before) (fits : before.reader.Fits before.session)
    (hands : Hands before after sender outgoing number) : Drawn after := by
  have now (isRpc : asksRpc outgoing.channel outgoing.type = true) : number ≤ before.drawn ∧
      outgoing.requestId = (number % 2 ^ 32 : Nat) ∧ number % 2 ^ 32 ≠ 0 ∧
      ∀ sent ∈ before.wire, asksRpc sent.frame.channel sent.frame.type = true → sent.drawn < number := by
    obtain ⟨holder, task, _, is, phase, same, _⟩ := drawn.waits fits hands.waits isRpc
    rw [← same]
    exact (drawn.tasks holder task outgoing is phase isRpc).2
  constructor
  · rw [hands.session, hands.drawn]
    exact drawn.counter
  · intro other task is isRpc begun
    obtain ⟨old, was, request, _, _, _, locks⟩ := hands.tasks other task is
    rw [hands.requester]
    rw [Task.isRpc, request] at isRpc
    exact drawn.holder other old was isRpc (locks begun)
  · intro other task waiting is sends isRpc
    obtain ⟨old, was, request, _, same, before, _⟩ := hands.tasks other task is
    obtain ⟨sending, others⟩ := before waiting sends
    obtain ⟨isTask, bound, id, nonzero, ahead⟩ := drawn.tasks other old waiting was sending isRpc
    rw [hands.drawn, same, Task.isRpc, request]
    refine ⟨isTask, bound, id, nonzero, ?_⟩
    intro sent inside isSent
    rw [hands.wire] at inside
    rcases List.mem_append.mp inside with earlier | last
    · exact ahead sent earlier isSent
    · rw [List.mem_singleton.mp last] at isSent
      -- two RPCs would both hold the request lock
      obtain ⟨holder, task', isHolder, is', phase', _, isRpc'⟩ := drawn.waits fits hands.waits isSent
      have mine := drawn.holder other old was isTask (by rw [sending]; exact TaskPhase.noConfusion)
      have its := drawn.holder holder task' is' isRpc' (by rw [phase']; exact TaskPhase.noConfusion)
      rw [mine] at its
      cases its
      exact absurd isHolder others
  · intro sent inside isRpc
    rw [hands.wire] at inside
    rw [hands.drawn]
    rcases List.mem_append.mp inside with earlier | last
    · exact drawn.below sent earlier isRpc
    · rw [List.mem_singleton.mp last] at isRpc ⊢
      exact (now isRpc).1
  · intro sent inside isRpc
    rw [hands.wire] at inside
    rcases List.mem_append.mp inside with earlier | last
    · exact drawn.requestIds sent earlier isRpc
    · rw [List.mem_singleton.mp last] at isRpc ⊢
      exact ⟨(now isRpc).2.1, (now isRpc).2.2.1⟩
  · rw [hands.wire, List.pairwise_append]
    refine ⟨drawn.ordered, List.pairwise_singleton _ _, ?_⟩
    intro earlier isEarlier later isLater isRpc isNext
    rw [List.mem_singleton.mp isLater] at isNext ⊢
    exact (now isNext).2.2.2 earlier isEarlier isRpc

theorem Drawn.greets (drawn : Drawn before) (greets : Greets before after hello taken) : Drawn after where
  counter := by
    rw [greets.core.requestId, greets.takes.requestId, greets.drawn]
    exact drawn.counter
  holder := by
    rw [greets.tasks, greets.requester]
    exact drawn.holder
  tasks := by
    rw [greets.tasks, greets.wire, greets.drawn]
    exact drawn.tasks
  below := by
    rw [greets.wire, greets.drawn]
    exact drawn.below
  requestIds := greets.wire ▸ drawn.requestIds
  ordered := greets.wire ▸ drawn.ordered

theorem drawn_invariant (hmac : List UInt8 → List UInt8 → List UInt8) :
    Invariant ((host hmac).guarded SteadyCapability) fun state => (Addressed state ∧ Numbered state) ∧ Drawn state := by
  refine (numbered_invariant hmac).over ?_ ?_
  · rintro state ⟨endpoint, pairingToken, rfl⟩
    refine ⟨rfl, ?_, ?_, fun sent inside => absurd inside List.not_mem_nil,
      fun sent inside => absurd inside List.not_mem_nil, .nil⟩
    · intro number task is
      cases is
    · intro number task outgoing is
      cases is
  · rintro before event after ⟨addressed, _⟩ drawn ⟨_, moves⟩
    cases does_step hmac addressed.reader moves with
    | calm calm => exact drawn.calm calm
    | begins number task request is readying asks ready result =>
      rw [result]
      exact drawn.begin is readying asks
    | hands sender outgoing number hands => exact drawn.hands addressed.reader hands
    | misses sender outgoing number waits calm => exact (drawn.number outgoing).calm calm
    | greets frame nonce hello taken is reads greets => exact drawn.greets greets

end EspIris.Gateway
