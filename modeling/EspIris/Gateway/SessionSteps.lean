import EspIris.Gateway.Requests

/-! What one frame can do to a session, and what its handler can then await. -/

namespace EspIris.Gateway
open Codec.Host (Frame ProtocolError)
variable {session : DeviceSession} {frame : Frame}

structure SameCore (before after : DeviceSession) : Prop where
  endpoint : after.endpoint = before.endpoint
  info : after.info = before.info
  pending : after.pending = before.pending
  requestId : after.requestId = before.requestId
  reopenSessionId : after.reopenSessionId = before.reopenSessionId
  reopenRequested : after.reopenRequested = before.reopenRequested
  sequence : after.sequence = before.sequence
  closed : after.closed = before.closed
  ready : after.ready = before.ready

theorem SameCore.refl (session : DeviceSession) : SameCore session session :=
  ⟨rfl, rfl, rfl, rfl, rfl, rfl, rfl, rfl, rfl⟩

theorem SameCore.trans {first second third : DeviceSession} (left : SameCore first second)
    (right : SameCore second third) : SameCore first third where
  endpoint := right.endpoint.trans left.endpoint
  info := right.info.trans left.info
  pending := right.pending.trans left.pending
  requestId := right.requestId.trans left.requestId
  reopenSessionId := right.reopenSessionId.trans left.reopenSessionId
  reopenRequested := right.reopenRequested.trans left.reopenRequested
  sequence := right.sequence.trans left.sequence
  closed := right.closed.trans left.closed
  ready := right.ready.trans left.ready

def repliesOnly (channel type : Int) : Prop :=
  channel = Channel.control.toNat ∧ (type = ControlType.helloAck.toNat ∨ type = ControlType.credit.toNat)

def Effect.Fits (session : DeviceSession) : Effect → Prop
  | .send channel type _ _ => repliesOnly channel type ∧ session.info.isSome
  | .announce => session.info.isSome ∧ session.reopenSessionId = none
  | _ => True

def EffectsFit (session : DeviceSession) (effects : List Effect) : Prop := ∀ effect ∈ effects, effect.Fits session

theorem Effect.Fits.same {before after : DeviceSession} {effect : Effect} (fits : effect.Fits before)
    (same : SameCore before after) : effect.Fits after := by
  cases effect with
  | send channel type flags payload => exact ⟨fits.1, same.info ▸ fits.2⟩
  | announce => exact ⟨same.info ▸ fits.1, same.reopenSessionId.trans fits.2⟩
  | _ => trivial

structure Keeps (session : DeviceSession) (handled : Handled) : Prop where
  core : SameCore session handled.session
  effects : session.info.isSome → EffectsFit session handled.effects

theorem Keeps.ignored (session : DeviceSession) : Keeps session (.ignored session) :=
  ⟨.refl session, fun _ _ none => absurd none List.not_mem_nil⟩

theorem Keeps.raising (session : DeviceSession) (raised : Raised) : Keeps session (.raising session raised) :=
  ⟨.refl session, fun _ _ none => absurd none List.not_mem_nil⟩

theorem Keeps.over {before session : DeviceSession} {handled : Handled} (same : SameCore before session)
    (keeps : Keeps session handled) : Keeps before handled := by
  refine ⟨same.trans keeps.core, ?_⟩
  intro known effect inside
  have fits := keeps.effects (same.info ▸ known) effect inside
  exact fits.same ⟨same.endpoint.symm, same.info.symm, same.pending.symm, same.requestId.symm,
    same.reopenSessionId.symm, same.reopenRequested.symm, same.sequence.symm, same.closed.symm, same.ready.symm⟩

theorem sendCredit_fits (known : session.info.isSome) (channel : Int) (amount : Nat) :
    (sendCredit channel amount).Fits session := ⟨⟨rfl, .inr rfl⟩, known⟩

theorem completeReady_keeps (settled : session.reopenSessionId = none) :
    Keeps session (completeReady session) := by
  unfold completeReady
  split
  · exact .ignored session
  split
  · exact .raising session _
  split
  · exact .raising session _
  next state moved =>
    refine ⟨⟨rfl, rfl, rfl, rfl, rfl, rfl, rfl, rfl, rfl⟩, ?_⟩
    intro known effect inside
    rcases List.mem_append.mp inside with granted | last
    · split at granted
      · rcases List.mem_cons.mp granted with rfl | noted
        · exact sendCredit_fits known _ _
        · rw [List.mem_singleton.mp noted]
          trivial
      · exact absurd granted List.not_mem_nil
    · rcases List.mem_cons.mp last with rfl | announced
      · trivial
      · rw [List.mem_singleton.mp announced]
        exact ⟨known, settled⟩

theorem handleLog_keeps (session : DeviceSession) (frame : Frame) : Keeps session (handleLog session frame) := by
  unfold handleLog
  dsimp only
  split
  · exact .raising session _
  split
  · exact .raising session _
  refine ⟨⟨rfl, rfl, rfl, rfl, rfl, rfl, rfl, rfl, rfl⟩, ?_⟩
  intro known effect inside
  rcases List.mem_cons.mp inside with rfl | granted
  · trivial
  split at granted
  · rcases List.mem_cons.mp granted with rfl | noted
    · exact sendCredit_fits known _ _
    · rw [List.mem_singleton.mp noted]
      trivial
  · exact absurd granted List.not_mem_nil

theorem handleEvent_keeps (session : DeviceSession) (frame : Frame) : Keeps session (handleEvent session frame) := by
  have one (event : HubEvent) : Keeps session ⟨session, [.event event], none⟩ := by
    refine ⟨.refl session, ?_⟩
    intro known effect inside
    rw [List.mem_singleton.mp inside]
    trivial
  unfold handleEvent
  split
  · split
    · exact .raising session _
    · exact one _
  · split
    · exact .raising session _
    · exact one _

theorem handleMedia_keeps (session : DeviceSession) (frame : Frame) : Keeps session (handleMedia session frame) := by
  unfold handleMedia
  dsimp only
  split
  · exact .raising session _
  split
  · exact .raising session _
  refine ⟨⟨rfl, rfl, rfl, rfl, rfl, rfl, rfl, rfl, rfl⟩, ?_⟩
  intro known effect inside
  rcases List.mem_cons.mp inside with rfl | granted
  · trivial
  split at granted
  · rcases List.mem_cons.mp granted with rfl | noted
    · exact sendCredit_fits known _ _
    · rw [List.mem_singleton.mp noted]
      trivial
  · exact absurd granted List.not_mem_nil

theorem dispatchFrame_keeps (settled : session.reopenSessionId = none) (frame : Frame) :
    Keeps session (dispatchFrame session frame) := by
  unfold dispatchFrame
  split
  · split
    · exact .raising session _
    · exact completeReady_keeps settled
  split
  · refine ⟨.refl session, ?_⟩
    intro known effect inside
    rw [List.mem_singleton.mp inside]
    trivial
  split
  · exact handleLog_keeps session frame
  split
  · exact handleEvent_keeps session frame
  split
  · exact handleMedia_keeps session frame
  · exact .ignored session

theorem acceptSequence_noted {session noted : DeviceSession} (accepted : acceptSequence session frame = some noted) :
    noted = { session with lastRxSequence := noted.lastRxSequence } := by
  unfold acceptSequence at accepted
  dsimp only at accepted
  split at accepted
  · cases accepted
    rfl
  · split at accepted
    · contradiction
    · cases accepted
      rfl

theorem acceptSequence_core {session noted : DeviceSession} (accepted : acceptSequence session frame = some noted) :
    SameCore session noted := by
  rw [acceptSequence_noted accepted]
  exact ⟨rfl, rfl, rfl, rfl, rfl, rfl, rfl, rfl, rfl⟩

structure Takes (session : DeviceSession) (hello : DeviceInfo) (taken : DeviceSession) : Prop where
  endpoint : taken.endpoint = session.endpoint
  info : taken.info = some hello
  pending : taken.pending = session.pending
  requestId : taken.requestId = session.requestId
  closed : taken.closed = session.closed
  ready : taken.ready = session.ready
  state : taken.state = session.state
  requested : taken.reopenRequested = (session.reopenRequested || hello.capabilities.testBit Capability.sessionReopen)
  /-- The HELLO is of the session that was asked for, or it repeats the one before. -/
  moves : (reopens session hello = true ∧ (∃ current, session.info = some current ∧
      current.deviceId = hello.deviceId ∧ current.bootId = hello.bootId) ∧ taken.sequence = fun _ => 0) ∨
    (reopens session hello = false ∧ taken.sequence = session.sequence ∧
      ∀ current, session.info = some current → current.deviceId = hello.deviceId ∧ current.sessionId = hello.sessionId)
  reopening : taken.reopenSessionId =
    if hello.capabilities.testBit Capability.sessionReopen = true ∧ session.reopenRequested = false then
      some hello.sessionId
    else if reopens session hello then none else session.reopenSessionId

theorem requested_of_quiet {requested capable : Bool} (quiet : ¬ (capable = true ∧ requested = false)) :
    requested = (requested || capable) := by
  cases requested <;> cases capable <;> simp_all

theorem takeInfo_takes {session taken : DeviceSession} {hello : DeviceInfo}
    (ok : takeInfo session hello = .ok taken) : Takes session hello taken := by
  unfold takeInfo at ok
  simp only [bind, Except.bind, pure, Except.pure, throw, throwThe, MonadExceptOf.throw] at ok
  split at ok
  next opens =>
    split at ok
    · contradiction
    next changed =>
      have known : ∃ current, session.info = some current ∧ current.deviceId = hello.deviceId ∧
          current.bootId = hello.bootId := by
        cases isThat : session.info with
        | none => simp [isThat] at changed
        | some current =>
          simp only [isThat, Option.all_some, decide_eq_true_eq, not_or, not_not] at changed
          exact ⟨current, rfl, changed⟩
      split at ok
      next asks =>
        cases ok
        exact ⟨rfl, rfl, rfl, rfl, rfl, rfl, rfl, by rw [asks.1, Bool.or_true], .inl ⟨opens, known, rfl⟩, (if_pos asks).symm⟩
      next quiet =>
        cases ok
        exact ⟨rfl, rfl, rfl, rfl, rfl, rfl, rfl, requested_of_quiet quiet, .inl ⟨opens, known, rfl⟩,
          by rw [if_neg quiet, if_pos opens]⟩
  next repeated =>
    split at ok
    · contradiction
    next changed =>
      have same : ∀ current, session.info = some current → current.deviceId = hello.deviceId ∧
          current.sessionId = hello.sessionId := by
        intro current isThat
        simpa [isThat] using changed
      have quietly : reopens session hello = false := Bool.eq_false_iff.mpr repeated
      split at ok
      next asks =>
        cases ok
        exact ⟨rfl, rfl, rfl, rfl, rfl, rfl, rfl, by rw [asks.1, Bool.or_true], .inr ⟨quietly, rfl, same⟩, (if_pos asks).symm⟩
      next quiet =>
        cases ok
        exact ⟨rfl, rfl, rfl, rfl, rfl, rfl, rfl, requested_of_quiet quiet, .inr ⟨quietly, rfl, same⟩,
          by rw [if_neg quiet, if_neg repeated]⟩

inductive Handles (session : DeviceSession) (frame : Frame) (handled : Handled) : Prop
  | hello (info : DeviceInfo) (taken : DeviceSession) (reads : helloOf session frame = some info)
      (accepted : takeInfo session info = .ok taken) (takes : Takes session info taken) (same : SameCore taken handled.session)
      (effects : EffectsFit handled.session handled.effects)
  | other (keeps : Keeps session handled) (settled : handled.effects ≠ [] → session.info.isSome)

section handlers
variable (hmac : List UInt8 → List UInt8 → List UInt8) (nonce : List UInt8)

theorem Keeps.after {handled : Handled} (keeps : Keeps session handled) {effects : List Effect}
    (fit : EffectsFit session effects) : Keeps session (handled.after effects) := by
  refine ⟨keeps.core, ?_⟩
  intro known effect inside
  rcases List.mem_append.mp inside with first | later
  · exact fit effect first
  · exact keeps.effects known effect later

theorem helloAck_fits (known : session.info.isSome) (flags : Int) (payload : List UInt8) :
    EffectsFit session [helloAck flags payload] := by
  intro effect inside
  rw [List.mem_singleton.mp inside]
  exact ⟨⟨rfl, .inl rfl⟩, known⟩

theorem acknowledge_keeps (known : session.info.isSome) (info : DeviceInfo) (fields : Fields) :
    Keeps session (acknowledge hmac nonce session info fields) := by
  unfold acknowledge
  dsimp only
  split
  · refine Keeps.after ?_ (helloAck_fits known _ _)
    split
    · exact .ignored session
    next settled => exact completeReady_keeps (not_not.mp settled)
  split
  · exact .raising session _
  split
  · exact .raising session _
  split
  · refine (Keeps.raising session _).after ?_
    intro effect inside
    rw [List.mem_singleton.mp inside]
    trivial
  · exact (Keeps.ignored session).after (helloAck_fits known _ _)

theorem handleHello_cases (greets : isHello frame = true) :
    (∃ message, handleHello hmac nonce session frame = .raising session (.protocol message)) ∨
      ∃ info taken fields, helloOf session frame = some info ∧ takeInfo session info = .ok taken ∧
        handleHello hmac nonce session frame = acknowledge hmac nonce taken info fields := by
  unfold handleHello
  dsimp only [bind, Except.bind, pure, Except.pure]
  cases decoded : decodeTlv frame.payload with
  | error error => exact .inl ⟨_, rfl⟩
  | ok fields =>
    dsimp only
    cases read : helloInfo session.endpoint frame.sessionId fields with
    | error error => exact .inl ⟨_, rfl⟩
    | ok info =>
      dsimp only
      cases accepted : takeInfo session info with
      | error error => exact .inl ⟨_, rfl⟩
      | ok taken =>
        refine .inr ⟨info, taken, fields, ?_, accepted, rfl⟩
        rw [helloOf, if_pos greets, decoded]
        dsimp only [bind, Except.bind]
        rw [read]
        rfl

theorem handleHello_handles (greets : isHello frame = true) :
    Handles session frame (handleHello hmac nonce session frame) := by
  rcases handleHello_cases hmac nonce greets with ⟨message, refused⟩ | ⟨info, taken, fields, reads, accepted, is⟩
  · rw [refused]
    exact .other (.raising session _) (fun some => absurd rfl some)
  · have takes := takeInfo_takes accepted
    have known : taken.info.isSome := by rw [takes.info]; rfl
    have keeps := acknowledge_keeps hmac nonce known info fields
    rw [is]
    refine .hello info taken reads accepted takes keeps.core ?_
    intro effect inside
    exact (keeps.effects known effect inside).same keeps.core

theorem handleFrame_handles (session : DeviceSession) (frame : Frame) :
    Handles session frame (handleFrame hmac nonce session frame) := by
  unfold handleFrame
  split
  next greets => exact handleHello_handles hmac nonce greets
  split
  · exact .other (.ignored session) (fun some => absurd rfl some)
  next settled =>
    split
    · exact .other (.ignored session) (fun some => absurd rfl some)
    next own =>
      split
      · exact .other (.ignored session) (fun some => absurd rfl some)
      next noted accepted =>
        have same := acceptSequence_core accepted
        have settled : noted.reopenSessionId = none := same.reopenSessionId.trans (not_not.mp settled)
        refine .other ((dispatchFrame_keeps settled frame).over same) ?_
        intro _
        cases info : session.info with
        | none => simp [info] at own
        | some current => rfl

end handlers

end EspIris.Gateway
