import EspIris.Gateway.Requests

/-! `SerialLink.write` under the sends of a session. The bytes of a frame go to the port from a
worker thread; the task that awaits the worker can be cancelled, and leaves both write locks then,
while the worker goes on. -/

namespace EspIris.Gateway
open Codec.Host (Frame encodeFrame)
open Machine

inductive WriteStage
  | queued
  | running
  | over
  deriving DecidableEq, Repr

/-- A call of `SerialLink.write`: how many of its bytes the port has taken, where its worker is,
and whether its sender still awaits it. -/
structure SerialWrite where
  data : List UInt8
  taken : Nat
  stage : WriteStage
  awaited : Bool
  deriving DecidableEq, Repr

/-- The session over its port: the calls of `write` in their order, and the bytes that the port
got. `closing` is also a port that is not open. -/
structure SerialLink where
  session : HostState
  closing : Bool
  writes : List SerialWrite
  stream : List UInt8

inductive SerialEvent
  | host (event : HostEvent)
  | pick (write : Nat)
  | put (write : Nat)
  | returned (write : Nat)
  | raised (write : Nat) (raised : Raised)
  | interruptReader (raised : Raised)
  | close

/-- The sender leaves `write` without its result: a call that no worker has picked is cancelled,
one that runs goes on. -/
def SerialWrite.leave (write : SerialWrite) : SerialWrite :=
  { write with
    awaited := false
    stage := if write.stage = .queued then .over else write.stage }

def SerialLink.leave (link : SerialLink) : SerialLink := { link with writes := link.writes.map SerialWrite.leave }

/-- `write` up to its await; it raises without a worker when the link is closing. -/
def SerialLink.write (link : SerialLink) (data : List UInt8) : SerialLink :=
  { link with writes := link.writes ++ [⟨data, 0, if link.closing then .over else .queued, true⟩] }

def SerialLink.follow (link : SerialLink) (session : HostState) : SerialLink :=
  let left := if link.session.writer.isSome ∧ session.writer ≠ link.session.writer then link.leave else link
  let written := match session.wire.drop link.session.wire.length with
    | [] => left
    | sent :: _ =>
      match encodeFrame sent.frame with
      | .ok data => left.write data
      | .error _ => left
  { written with session := session }

def SerialLink.setWrite (link : SerialLink) (number : Nat) (write : SerialWrite) : SerialLink :=
  { link with writes := link.writes.set number write }

def SerialLink.answer (link : SerialLink) (write : SerialWrite) (answers : HostState → Sender → Option HostState) :
    Option HostState :=
  if write.awaited then link.session.writer.bind (answers link.session) else some link.session

section link
variable (hmac : List UInt8 → List UInt8 → List UInt8)

def serialNext (link : SerialLink) : SerialEvent → Option SerialLink
  | .host event =>
    match event with
    | .written _ | .failed _ _ => none
    | event => (hostNext hmac link.session event).map link.follow
  | .pick number =>
    link.writes[number]?.bind fun write =>
      if write.stage = .queued then some (link.setWrite number { write with stage := .running }) else none
  | .put number =>
    link.writes[number]?.bind fun write =>
      if write.stage = .running then
        write.data[write.taken]?.map fun byte =>
          { link.setWrite number { write with taken := write.taken + 1 } with stream := link.stream ++ [byte] }
      else none
  | .returned number =>
    link.writes[number]?.bind fun write =>
      if write.stage = .running ∧ write.taken = write.data.length then
        (link.answer write HostState.written).map fun session =>
          { link.setWrite number { write with stage := .over, awaited := false } with session := session }
      else none
  | .raised number raised =>
    link.writes[number]?.bind fun write =>
      -- a call that was refused raises without a worker
      if write.stage = .running ∨ (write.stage = .over ∧ write.awaited) then
        (link.answer write fun session sender => session.failed sender raised).map fun session =>
          { link.setWrite number { write with stage := .over, awaited := false } with session := session }
      else none
  | .interruptReader raised =>
    if link.session.writer = some .reader then (link.session.failed .reader raised).map link.follow else none
  | .close => some { link with closing := true }

def serialLink : System SerialLink SerialEvent :=
  .ofPartial (fun link => ∃ endpoint pairingToken, link = ⟨.initial endpoint pairingToken, false, [], []⟩)
    (serialNext hmac)

end link

theorem effect_wire (state : HostState) (effect : Effect) : (state.effect effect).wire = state.wire := by
  cases effect with
  | resolve future outcome =>
    simp only [HostState.effect, HostState.resolve]
    split
    · split <;> rfl
    · rfl
  | _ => rfl

theorem written_wire {before after : HostState} {sender : Sender} (wrote : before.written sender = some after) :
    after.wire = before.wire := by
  unfold HostState.written at wrote
  split at wrote
  · contradiction
  cases sender with
  | task number =>
    dsimp only at wrote
    split at wrote
    · split at wrote
      · contradiction
      · split at wrote <;> cases wrote <;> rfl
    · contradiction
  | reader =>
    dsimp only at wrote
    split at wrote
    · cases wrote
      rfl
    · contradiction

theorem failed_wire {before after : HostState} {sender : Sender} {raised : Raised}
    (failed : before.failed sender raised = some after) : after.wire = before.wire := by
  unfold HostState.failed at failed
  split at failed
  · contradiction
  cases sender with
  | task number =>
    obtain ⟨task, _, rfl⟩ := Option.map_eq_some_iff.mp failed
    rfl
  | reader =>
    cases failed
    rfl

theorem perform_wire {before after : HostState} {raised : Option Raised} (performed : before.perform raised = some after) :
    after.wire = before.wire := by
  unfold HostState.perform at performed
  split at performed
  · cases performed
    rfl
  · cases performed
    rfl
  · cases performed
    rfl
  · split at performed
    · cases performed
      rfl
    · cases performed
      exact effect_wire before _
  · contradiction

def HandsOver (before after : HostState) : Prop :=
  before.writer = none ∧ after.writer.isSome ∧
    ∃ sent data, encodeFrame sent.frame = .ok data ∧ after.wire = before.wire ++ [sent]

theorem handOver_hands {before after : HostState} {sender : Sender} {outgoing : Outgoing} {drawn : Nat}
    (free : before.writer = none) (handed : before.handOver sender outgoing drawn = some after) : HandsOver before after := by
  unfold HostState.handOver at handed
  dsimp only at handed
  split at handed
  next data encodes =>
    cases handed
    exact ⟨free, rfl, _, data, encodes, rfl⟩
  next => contradiction

theorem turn_wire {before after : HostState} {sender : Sender} (turned : before.turn sender = some after) :
    after.wire = before.wire ∨ HandsOver before after := by
  unfold HostState.turn at turned
  split at turned
  next => contradiction
  next free =>
    rw [ne_eq, not_not] at free
    cases sender with
    | task number =>
      dsimp only at turned
      split at turned
      next task is =>
        split at turned
        next outgoing phase =>
          split at turned
          next sent handed =>
            cases turned
            obtain ⟨_, holds, hands⟩ := handOver_hands free handed
            exact .inr ⟨free, holds, hands⟩
          cases turned
          exact .inl rfl
        next => contradiction
      next => contradiction
    | reader =>
      dsimp only at turned
      split at turned
      next outgoing rest raises is =>
        split at turned
        next sent handed =>
          cases turned
          obtain ⟨_, holds, hands⟩ := handOver_hands free handed
          exact .inr ⟨free, holds, hands⟩
        cases turned
        exact .inl rfl
      next => contradiction

section link
variable (hmac : List UInt8 → List UInt8 → List UInt8)

/-- What a step of the session hands to the link: a frame in a turn, and nothing else. -/
theorem hostNext_wire {before after : HostState} {event : HostEvent} (step : hostNext hmac before event = some after) :
    after.wire = before.wire ∨ (∃ sender, event = .turn sender) ∧ HandsOver before after := by
  cases event with
  | request request =>
    rw [hostNext, Option.ite_none_right_eq_some] at step
    obtain ⟨_, step⟩ := step
    cases step
    exact .inl rfl
  | batch request =>
    rw [hostNext, Option.ite_none_right_eq_some] at step
    obtain ⟨_, step⟩ := step
    cases step
    exact .inl rfl
  | grant channel amount =>
    rw [hostNext, Option.ite_none_right_eq_some] at step
    obtain ⟨_, step⟩ := step
    cases step
    exact .inl rfl
  | lock number =>
    unfold hostNext at step
    dsimp only at step
    split at step
    · split at step
      · cases step
        exact .inl rfl
      · contradiction
    · contradiction
  | begin number =>
    unfold hostNext at step
    dsimp only at step
    split at step
    · split at step
      · split at step
        · cases step
          exact .inl rfl
        · contradiction
      · contradiction
    · contradiction
  | turn sender => exact (turn_wire step).imp_right fun hands => ⟨⟨sender, rfl⟩, hands⟩
  | written sender => exact .inl (written_wire step)
  | failed sender raised => exact .inl (failed_wire step)
  | finish number =>
    unfold hostNext at step
    dsimp only at step
    split at step
    · split at step
      · cases step
        exact .inl rfl
      · contradiction
    · contradiction
  | cancel number =>
    obtain ⟨task, is, rfl⟩ := Option.map_eq_some_iff.mp step
    exact .inl rfl
  | frame frame nonce =>
    rw [hostNext] at step
    unfold HostState.takeFrame at step
    split at step
    · cases step
      exact .inl rfl
    · contradiction
  | perform raised => exact .inl (perform_wire step)
  | close =>
    cases step
    exact .inl rfl

end link

end EspIris.Gateway
