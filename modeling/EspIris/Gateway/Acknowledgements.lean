import EspIris.Gateway.Sends

/-! What the host acknowledges with: while it waits for a new session every frame it sends is a
HELLO_ACK with the flag NEW_SESSION, and afterwards none carries the flag. -/

namespace EspIris.Gateway
open Codec.Host (Frame ProtocolError)
open Machine
variable {before after : HostState} {session : DeviceSession} {effects : List Effect} {event : HostEvent}
variable {sender : Sender}

def ackFlags (session : DeviceSession) : Int := if session.reopenSessionId ≠ none then Flag.newSession.toNat else 0

def isAck (channel type : Int) : Bool := channel = Channel.control.toNat && type = ControlType.helloAck.toNat

def Marked (session : DeviceSession) (channel type flags : Int) : Prop :=
  flags = ackFlags session ∧ (flags ≠ 0 → isAck channel type = true)

def Effect.Marked (session : DeviceSession) : Effect → Prop
  | .send channel type flags _ => Gateway.Marked session channel type flags
  | _ => True

def EffectsMarked (session : DeviceSession) (effects : List Effect) : Prop := ∀ effect ∈ effects, effect.Marked session

def Reader.Marked (session : DeviceSession) : Reader → Prop
  | .performing effects _ | .writing effects _ => EffectsMarked session effects
  | .sending outgoing rest _ =>
    Gateway.Marked session outgoing.channel outgoing.type outgoing.flags ∧ EffectsMarked session rest
  | _ => True

def Effect.acknowledges : Effect → Bool
  | .send channel type _ _ => isAck channel type
  | _ => false

def Reader.owes : Reader → Bool
  | .performing effects raises | .writing effects raises => effects.any Effect.acknowledges || raises.isSome
  | .sending outgoing rest raises =>
    isAck outgoing.channel outgoing.type || rest.any Effect.acknowledges || raises.isSome
  | .idle => false
  | .ended _ => true

def Reader.fails : Reader → Bool
  | .performing _ raises | .sending _ _ raises | .writing _ raises => raises.isSome
  | .idle => false
  | .ended _ => true

theorem ackFlags_over {before after : DeviceSession} (reopen : after.reopenSessionId = before.reopenSessionId) :
    ackFlags after = ackFlags before := by
  rw [ackFlags, ackFlags, reopen]

theorem EffectsMarked.over {before after : DeviceSession} (reopen : after.reopenSessionId = before.reopenSessionId)
    (marked : EffectsMarked before effects) :
    EffectsMarked after effects := by
  intro effect inside
  have was := marked effect inside
  cases effect with
  | send channel type flags payload => exact ⟨was.1.trans (ackFlags_over reopen).symm, was.2⟩
  | _ => trivial

theorem Reader.Marked.over {before after : DeviceSession} {reader : Reader}
    (reopen : after.reopenSessionId = before.reopenSessionId) (marked : reader.Marked before) : reader.Marked after := by
  cases reader with
  | performing effects raises => exact EffectsMarked.over reopen marked
  | sending outgoing rest raises =>
    obtain ⟨⟨flags, acks⟩, rests⟩ := marked
    exact ⟨⟨flags.trans (ackFlags_over reopen).symm, acks⟩, rests.over reopen⟩
  | writing rest raises => exact EffectsMarked.over reopen marked
  | idle => trivial
  | ended raised => trivial

theorem EffectsMarked.nil (session : DeviceSession) : EffectsMarked session [] :=
  fun _ inside => absurd inside List.not_mem_nil

theorem EffectsMarked.append {effects more : List Effect} (first : EffectsMarked session effects)
    (later : EffectsMarked session more) :
    EffectsMarked session (effects ++ more) := by
  intro effect inside
  rcases List.mem_append.mp inside with here | there
  · exact first effect here
  · exact later effect there

theorem sendCredit_marked (settled : session.reopenSessionId = none) (channel : Int) (amount : Nat) :
    (sendCredit channel amount).Marked session := by
  refine ⟨?_, fun flagged => absurd rfl flagged⟩
  rw [ackFlags, if_neg (not_not.mpr settled)]

theorem quiet_marked {session : DeviceSession} {effects : List Effect} (settled : session.reopenSessionId = none)
    (quiet : ∀ channel type flags payload, .send channel type flags payload ∈ effects →
      ∃ granted amount, Effect.send channel type flags payload = sendCredit granted amount) :
    EffectsMarked session effects := by
  intro effect inside
  cases effect with
  | send channel type flags payload =>
    obtain ⟨granted, amount, is⟩ := quiet channel type flags payload inside
    rw [is]
    exact sendCredit_marked settled _ _
  | _ => trivial

section settled
variable (settled : session.reopenSessionId = none)
include settled

theorem completeReady_marked :
    EffectsMarked session (completeReady session).effects := by
  unfold completeReady
  split
  · exact .nil session
  split
  · exact .nil session
  split
  · exact .nil session
  · apply quiet_marked settled
    intro channel type flags payload inside
    dsimp only at inside
    split at inside
    · simp only [grantLogCredit, List.mem_append, List.mem_cons, List.not_mem_nil, or_false, reduceCtorEq] at inside
      exact ⟨_, _, inside⟩
    · simp at inside

theorem handleLog_marked (frame : Frame) :
    EffectsMarked session (handleLog session frame).effects := by
  unfold handleLog
  dsimp only
  split
  · exact .nil session
  split
  · exact .nil session
  apply quiet_marked settled
  intro channel type flags payload inside
  split at inside
  · simp only [grantLogCredit, List.mem_cons, List.not_mem_nil, or_false, false_or, reduceCtorEq] at inside
    exact ⟨_, _, inside⟩
  · simp at inside

theorem handleMedia_marked (frame : Frame) :
    EffectsMarked session (handleMedia session frame).effects := by
  unfold handleMedia
  dsimp only
  split
  · exact .nil session
  split
  · exact .nil session
  apply quiet_marked settled
  intro channel type flags payload inside
  dsimp only at inside
  split at inside
  · simp only [grantMediaCredit, List.mem_cons, List.not_mem_nil, or_false, false_or, reduceCtorEq] at inside
    exact ⟨_, _, inside⟩
  · simp at inside

theorem handleEvent_marked (frame : Frame) :
    EffectsMarked session (handleEvent session frame).effects := by
  unfold handleEvent
  apply quiet_marked settled
  intro channel type flags payload inside
  split at inside
  · split at inside <;> simp [Handled.raising] at inside
  · split at inside <;> simp [Handled.raising] at inside

theorem dispatchFrame_marked (frame : Frame) :
    EffectsMarked session (dispatchFrame session frame).effects := by
  unfold dispatchFrame
  split
  · split
    · exact .nil session
    · exact completeReady_marked settled
  split
  · intro effect inside
    rw [List.mem_singleton.mp inside]
    trivial
  split
  · exact handleLog_marked settled frame
  split
  · exact handleEvent_marked settled frame
  split
  · exact handleMedia_marked settled frame
  · exact .nil session

end settled

section handlers
variable (hmac : List UInt8 → List UInt8 → List UInt8) (nonce : List UInt8)

theorem helloAck_marked (session : DeviceSession) (payload : List UInt8) :
    EffectsMarked session [helloAck (ackFlags session) payload] := by
  intro effect inside
  rw [List.mem_singleton.mp inside]
  exact ⟨rfl, fun _ => rfl⟩

theorem acknowledge_marked (session : DeviceSession) (info : DeviceInfo) (fields : Fields) :
    EffectsMarked session (acknowledge hmac nonce session info fields).effects := by
  unfold acknowledge
  dsimp only
  split
  · refine (helloAck_marked session []).append ?_
    split
    · exact .nil session
    next settled => exact completeReady_marked (not_not.mp settled)
  split
  · exact .nil session
  split
  · exact .nil session
  split
  · apply EffectsMarked.append _ (.nil session)
    intro effect inside
    rw [List.mem_singleton.mp inside]
    trivial
  · exact (helloAck_marked session _).append (.nil session)

theorem owes_of_ack {raises : Option Raised} (flags : Int) (payload : List UInt8) :
    (Reader.performing (helloAck flags payload :: effects) raises).owes = true := by
  simp [Reader.owes, helloAck, Effect.acknowledges, isAck]

theorem owes_of_raises {raised : Raised} :
    (Reader.performing effects (some raised)).owes = true := by
  simp [Reader.owes]

theorem acknowledge_owes (session : DeviceSession) (info : DeviceInfo) (fields : Fields) :
    (Reader.performing (acknowledge hmac nonce session info fields).effects
      (acknowledge hmac nonce session info fields).raises).owes = true := by
  unfold acknowledge
  dsimp only
  split
  · exact owes_of_ack _ _
  split
  · exact owes_of_raises
  split
  · exact owes_of_raises
  split
  · exact owes_of_raises
  · exact owes_of_ack _ _

theorem handleFrame_marked (session : DeviceSession) (frame : Frame) :
    EffectsMarked (handleFrame hmac nonce session frame).session (handleFrame hmac nonce session frame).effects := by
  unfold handleFrame
  split
  next greets =>
    rcases handleHello_cases hmac nonce greets with ⟨message, refused⟩ | ⟨info, taken, fields, reads, accepted, is⟩
    · rw [refused]
      exact .nil session
    · rw [is]
      have known : taken.info.isSome := by rw [(takeInfo_takes accepted).info]; rfl
      have core := (acknowledge_keeps hmac nonce known info fields).core
      exact (acknowledge_marked hmac nonce taken info fields).over core.reopenSessionId
  split
  · exact .nil session
  next settled =>
    split
    · exact .nil session
    split
    · exact .nil session
    next noted accepted =>
      have still : noted.reopenSessionId = none :=
        (acceptSequence_core accepted).reopenSessionId.trans (not_not.mp settled)
      exact (dispatchFrame_marked still frame).over (dispatchFrame_keeps still frame).core.reopenSessionId

/-- A HELLO that reads and is of another device or session ends the session; any other that reads
is answered. -/
theorem handleFrame_hello (session : DeviceSession) {frame : Frame} (greets : isHello frame = true) :
    (handleFrame hmac nonce session frame).session = session ∧
        (∃ raised, (handleFrame hmac nonce session frame).raises = some raised) ∨
      ∃ info taken, helloOf session frame = some info ∧ Takes session info taken ∧
        SameCore taken (handleFrame hmac nonce session frame).session ∧
        (Reader.performing (handleFrame hmac nonce session frame).effects
          (handleFrame hmac nonce session frame).raises).owes = true := by
  rw [handleFrame, if_pos greets]
  rcases handleHello_cases hmac nonce greets with ⟨message, refused⟩ | ⟨info, taken, fields, reads, accepted, is⟩
  · rw [refused]
    exact .inl ⟨rfl, _, rfl⟩
  · have takes := takeInfo_takes accepted
    have known : taken.info.isSome := by rw [takes.info]; rfl
    rw [is]
    exact .inr ⟨info, taken, reads, takes, (acknowledge_keeps hmac nonce known info fields).core,
      acknowledge_owes hmac nonce taken info fields⟩

end handlers

inductive ReaderMoves (before after : HostState) : Prop
  | stays (reader : after.reader = before.reader)
  | ends (raised : Raised) (reader : after.reader = .ended raised)
  | finishes (was : before.reader = .performing [] none) (reader : after.reader = .idle)
  | performs (effect : Effect) (rest : List Effect) (raises : Option Raised)
      (was : before.reader = .performing (effect :: rest) raises) (quiet : effect.acknowledges = false)
      (reader : after.reader = .performing rest raises)
  | sends (channel type flags : Int) (payload : List UInt8) (rest : List Effect) (raises : Option Raised)
      (was : before.reader = .performing (.send channel type flags payload :: rest) raises)
      (reader : after.reader = .sending ⟨sessionIdOf before.session, channel, type, flags, 0, 0, payload⟩ rest raises)
  | hands (outgoing : Outgoing) (rest : List Effect) (raises : Option Raised)
      (was : before.reader = .sending outgoing rest raises) (reader : after.reader = .writing rest raises)
      (wire : ∃ number drawn, after.wire = before.wire ++ [⟨(before.number outgoing).2, number, drawn⟩])
  | writes (rest : List Effect) (raises : Option Raised) (was : before.reader = .writing rest raises)
      (reader : after.reader = .performing rest raises)

theorem turn_reader (turned : before.turn sender = some after) :
    ReaderMoves before after := by
  unfold HostState.turn at turned
  split at turned
  · contradiction
  cases sender with
  | task number =>
    dsimp only at turned
    split at turned
    next task is =>
      split at turned
      next outgoing phase =>
        split at turned
        next sent handed =>
          obtain ⟨_, rfl⟩ := handOver_eq handed
          cases turned
          exact .stays rfl
        cases turned
        exact .stays rfl
      next => contradiction
    next => contradiction
  | reader =>
    dsimp only at turned
    split at turned
    next outgoing rest raises is =>
      split at turned
      next sent handed =>
        obtain ⟨_, rfl⟩ := handOver_eq handed
        cases turned
        exact .hands outgoing rest raises is rfl ⟨_, _, rfl⟩
      cases turned
      exact .ends _ rfl
    next => contradiction

theorem written_reader (wrote : before.written sender = some after) :
    ReaderMoves before after := by
  unfold HostState.written at wrote
  split at wrote
  · contradiction
  cases sender with
  | task number =>
    dsimp only at wrote
    split at wrote
    · split at wrote
      · contradiction
      · split at wrote
        · cases wrote
          exact .stays rfl
        · cases wrote
          exact .stays rfl
    · contradiction
  | reader =>
    dsimp only at wrote
    split at wrote
    next rest raises is =>
      cases wrote
      exact .writes rest raises is rfl
    next => contradiction

theorem failed_reader {raised : Raised} (failed : before.failed sender raised = some after) :
    ReaderMoves before after := by
  unfold HostState.failed at failed
  split at failed
  · contradiction
  cases sender with
  | task number =>
    obtain ⟨task, _, rfl⟩ := Option.map_eq_some_iff.mp failed
    exact .stays rfl
  | reader =>
    cases failed
    exact .ends raised rfl

theorem perform_reader {raised : Option Raised} (performed : before.perform raised = some after) :
    ReaderMoves before after := by
  unfold HostState.perform at performed
  split at performed
  next is =>
    cases performed
    exact .finishes is rfl
  next raises is =>
    cases performed
    exact .ends raises rfl
  next channel type flags payload rest raises is =>
    cases performed
    exact .sends channel type flags payload rest raises is rfl
  next effect rest raises other is =>
    split at performed
    · cases performed
      exact .ends _ rfl
    · cases performed
      refine .performs effect rest raises is ?_ rfl
      cases effect with
      | send channel type flags payload => exact absurd rfl (other channel type flags payload)
      | _ => rfl
  next => contradiction

theorem reader_moves (hmac : List UInt8 → List UInt8 → List UInt8) (moves : hostNext hmac before event = some after)
    (other : ∀ frame nonce, event ≠ .frame frame nonce) :
    ReaderMoves before after := by
  cases event with
  | frame frame nonce => exact absurd rfl (other frame nonce)
  | turn sender => exact turn_reader moves
  | written sender => exact written_reader moves
  | failed sender raised => exact failed_reader moves
  | perform raised => exact perform_reader moves
  | cancel number =>
    obtain ⟨task, is, rfl⟩ := Option.map_eq_some_iff.mp moves
    exact .stays rfl
  | close =>
    cases moves
    exact .stays rfl
  | request request | batch request | grant channel amount =>
    unfold hostNext at moves
    dsimp only at moves
    split at moves
    · cases moves
      exact .stays rfl
    · contradiction
  | lock number | finish number =>
    unfold hostNext at moves
    dsimp only at moves
    split at moves
    · split at moves
      · cases moves
        exact .stays rfl
      · contradiction
    · contradiction
  | begin number =>
    unfold hostNext at moves
    dsimp only at moves
    split at moves
    · split at moves
      · split at moves
        · cases moves
          exact .stays rfl
        · contradiction
      · contradiction
    · contradiction

structure Flagged (state : HostState) : Prop where
  reader : state.reader.Marked state.session
  tasks : ∀ number task outgoing, state.tasks number = some task → task.phase = .sending outgoing → outgoing.flags = 0

theorem ReaderMoves.marked (moves : ReaderMoves before after)
    (reopen : after.session.reopenSessionId = before.session.reopenSessionId)
    (marked : before.reader.Marked before.session) : after.reader.Marked after.session := by
  cases moves with
  | stays reader =>
    rw [reader]
    exact marked.over reopen
  | ends raised reader =>
    rw [reader]
    trivial
  | finishes was reader =>
    rw [reader]
    trivial
  | performs effect rest raises was quiet reader =>
    rw [was] at marked
    rw [reader]
    exact EffectsMarked.over reopen fun other inside => marked other (List.mem_cons_of_mem _ inside)
  | sends channel type flags payload rest raises was reader =>
    rw [was] at marked
    rw [reader]
    have sending : (Reader.sending ⟨sessionIdOf before.session, channel, type, flags, 0, 0, payload⟩ rest raises).Marked
        before.session :=
      ⟨marked _ List.mem_cons_self, fun other inside => marked other (List.mem_cons_of_mem _ inside)⟩
    exact sending.over reopen
  | hands outgoing rest raises was reader wire =>
    rw [was] at marked
    rw [reader]
    exact EffectsMarked.over reopen marked.2
  | writes rest raises was reader =>
    rw [was] at marked
    rw [reader]
    exact EffectsMarked.over reopen marked

theorem ReaderMoves.fails (moves : ReaderMoves before after) (fails : before.reader.fails = true) :
    after.reader.fails = true := by
  cases moves with
  | stays reader => rwa [reader]
  | ends raised reader => rw [reader]; rfl
  | finishes was reader => rw [was] at fails; cases fails
  | performs effect rest raises was quiet reader | sends channel type flags payload rest raises was reader
  | hands outgoing rest raises was reader wire
  | writes rest raises was reader => rw [was] at fails; rw [reader]; exact fails

/-- A reader that owes an acknowledgement owes it until it hands one to the link. -/
theorem ReaderMoves.owes (moves : ReaderMoves before after) (owes : before.reader.owes = true)
    : after.reader.owes = true ∨
      ∃ outgoing rest raises number drawn, before.reader = .sending outgoing rest raises ∧
        isAck outgoing.channel outgoing.type = true ∧
        after.wire = before.wire ++ [⟨(before.number outgoing).2, number, drawn⟩] := by
  cases moves with
  | stays reader => exact .inl (reader ▸ owes)
  | ends raised reader => exact .inl (by rw [reader]; rfl)
  | finishes was reader => rw [was] at owes; cases owes
  | performs effect rest raises was quiet reader =>
    rw [was, Reader.owes, List.any_cons, quiet, Bool.false_or] at owes
    exact .inl (by rw [reader]; exact owes)
  | sends channel type flags payload rest raises was reader =>
    rw [was] at owes
    exact .inl (by rw [reader]; exact owes)
  | hands outgoing rest raises was reader wire =>
    rw [was, Reader.owes, Bool.or_assoc] at owes
    obtain ⟨number, drawn, wire⟩ := wire
    rcases Bool.or_eq_true_iff.mp owes with acks | later
    · exact .inr ⟨outgoing, rest, raises, number, drawn, was, acks, wire⟩
    · exact .inl (by rw [reader]; exact later)
  | writes rest raises was reader =>
    rw [was] at owes
    exact .inl (by rw [reader]; exact owes)

theorem flagged_step (hmac : List UInt8 → List UInt8 → List UInt8) (addressed : Addressed before)
    (flagged : Flagged before) (moves : hostNext hmac before event = some after) :
    Flagged after := by
  have tasks (number : Nat) (task : Task) (outgoing : Outgoing) (is : after.tasks number = some task)
      (sends : task.phase = .sending outgoing) : outgoing.flags = 0 := by
    have calm (middle : HostState) (was : ∀ number task outgoing, middle.tasks number = some task →
        task.phase = .sending outgoing → outgoing.flags = 0) (calm : Calm middle after) : outgoing.flags = 0 := by
      cases calm.tasks number task is with
      | new waits unanswered asks credits =>
        obtain ⟨_, _, channel, amount, rfl⟩ := credits outgoing sends
        rfl
      | kept old isOld request requestId drawn before locks => exact was number old outgoing isOld (before outgoing sends)
    cases does_step hmac addressed.reader moves with
    | calm still => exact calm before flagged.tasks still
    | misses sender other drawn waits still => exact calm (before.number other).1 flagged.tasks still
    | begins other begun request was readying asks ready result =>
      rw [result] at is
      by_cases here : number = other
      · simp only [HostState.begin, HostState.setTask_tasks, if_pos here] at is
        cases is
        cases sends
        rfl
      · simp only [HostState.begin, HostState.setTask_tasks, if_neg here] at is
        exact flagged.tasks number task outgoing is sends
    | hands sender other drawn hands =>
      obtain ⟨old, was, _, _, _, before, _⟩ := hands.tasks number task is
      exact flagged.tasks number old outgoing was (before outgoing sends).1
    | greets frame nonce hello taken is' reads greets =>
      rw [greets.tasks] at is
      exact flagged.tasks number task outgoing is sends
  refine ⟨?_, tasks⟩
  by_cases other : ∀ frame nonce, event ≠ .frame frame nonce
  · have reopen : after.session.reopenSessionId = before.session.reopenSessionId := by
      cases does_step hmac addressed.reader moves with
      | calm still => exact still.reopenSessionId
      | misses sender outgoing drawn waits still => exact still.reopenSessionId
      | begins number task request is readying asks ready result => rw [result]; rfl
      | hands sender outgoing drawn hands => rw [hands.session]; rfl
      | greets frame nonce hello taken is reads greets => exact absurd is (other frame nonce)
    exact (reader_moves hmac moves other).marked reopen flagged.reader
  · simp only [not_forall, not_not] at other
    obtain ⟨frame, nonce, rfl⟩ := other
    replace moves : before.takeFrame hmac frame nonce = some after := moves
    unfold HostState.takeFrame at moves
    split at moves
    · cases moves
      exact handleFrame_marked hmac nonce before.session frame
    · contradiction

theorem step_sends (hmac : List UInt8 → List UInt8 → List UInt8) (addressed : Addressed before)
    (flagged : Flagged before) (moves : hostNext hmac before event = some after)
    (other : ∀ frame nonce, event ≠ .frame frame nonce) :
    after.session.info = before.session.info ∧ after.session.reopenSessionId = before.session.reopenSessionId ∧
      (after.wire = before.wire ∨ ∃ outgoing number drawn,
        after.wire = before.wire ++ [⟨(before.number outgoing).2, number, drawn⟩] ∧
        outgoing.sessionId = sessionIdOf before.session ∧ before.session.info.isSome ∧
        (outgoing.flags = 0 ∧ before.session.ready = true ∨
          Marked before.session outgoing.channel outgoing.type outgoing.flags)) := by
  cases does_step hmac addressed.reader moves with
  | calm still
  | misses sender outgoing drawn waits still => exact ⟨still.info, still.reopenSessionId, .inl still.wire⟩
  | begins number task request is readying asks ready result =>
    rw [result]
    exact ⟨rfl, rfl, .inl rfl⟩
  | hands sender outgoing drawn hands =>
    obtain ⟨session, known⟩ := addressed.waits hands.waits
    rw [hands.session]
    refine ⟨rfl, rfl, .inr ⟨outgoing, _, _, hands.wire, session, known, ?_⟩⟩
    cases hands.waits with
    | task is phase => exact .inl ⟨flagged.tasks _ _ _ is phase, (addressed.tasks _ _ _ is phase).1⟩
    | reader is =>
      have marked := flagged.reader
      rw [is] at marked
      exact .inr marked.1
  | greets frame nonce hello taken is reads greets => exact absurd is (other frame nonce)

theorem helloOf_fields {frame : Frame} {info : DeviceInfo} (reads : helloOf session frame = some info)
    : isHello frame = true ∧ info.sessionId = frame.sessionId ∧
      ∃ fields, decodeTlv frame.payload = .ok fields ∧ info.capabilities = tlvU64 fields TlvTag.capabilities 0 := by
  unfold helloOf at reads
  split at reads
  next greets =>
    cases decoded : decodeTlv frame.payload with
    | error error => simp [decoded, bind, Except.bind, Except.toOption] at reads
    | ok fields =>
      simp only [decoded, bind, Except.bind] at reads
      cases built : helloInfo session.endpoint frame.sessionId fields with
      | error error => simp [built, Except.toOption] at reads
      | ok hello =>
        rw [built] at reads
        cases reads
        refine ⟨greets, ?_⟩
        unfold helloInfo at built
        simp only [bind, Except.bind, pure, Except.pure, throw, throwThe, MonadExceptOf.throw] at built
        repeat' split at built
        all_goals first
          | contradiction
          | skip
        all_goals
          cases built
          exact ⟨rfl, fields, rfl, rfl⟩
  next => contradiction

end EspIris.Gateway
