import EspIris.Gateway.Hub
import EspIris.Lib.Machine

/-! `closed_loop_restart` over the events that the hub has of its device: those of the history, which a
new subscriber gets first, and those that come while it watches. -/

namespace EspIris.Gateway.Restart
open Machine (System Reachable Run Invariant)

structure ReadySession where
  serial : Nat
  bootId : Nat
  deriving DecidableEq, Repr

structure RestartResult where
  delayMs : Nat
  previousBootId : Option Nat
  bootId : Nat
  appVersion : Option String
  deriving DecidableEq, Repr

/-- The `await` where the coroutine stands; a request goes over the session it was made on. -/
inductive Phase
  | idle
  | asking (serial : Nat)
  | asked (previous : Option Nat)
  | requesting (previous : Option Nat) (serial : Nat)
  | watching (previous : Option Nat) (delayMs : Nat)
  | confirming (previous : Option Nat) (delayMs : Nat) (bootId : Nat)
  | restarted (result : RestartResult)
  | raised
  deriving DecidableEq, Repr

/-- What the hub has of the device, and the coroutine with its queue. `sent` and `readied` are a record: whether
the RESTART was sent, and the boots whose sessions became ready after it. -/
structure RestartWorld where
  deviceId : DeviceId
  lastBootId : Option Nat
  history : List HubEvent
  session : Option ReadySession
  serial : Nat
  phase : Phase
  queue : Option (List HubEvent)
  sent : Bool
  readied : List Nat
  deriving DecidableEq, Repr

inductive RestartEvent
  | ready (bootId : Nat) (sessionId : Int) (endpoint : String)
  /-- `_on_ready` raises in the event sink. -/
  | unready (bootId : Nat) (sessionId : Int) (endpoint : String)
  | lost (sessionId : Int) (endpoint : String)
  /-- Any other event of the device; `sunk` is whether the event sink let it pass. -/
  | publish (event : HubEvent) (sunk : Bool)
  | call
  | status
  | resume
  | send
  | answer (delayMs : Nat)
  | take
  | confirm (appVersion : Option String)
  /-- A timeout, an error or a cancellation. -/
  | raise
  deriving DecidableEq, Repr

/-- The event that `_on_ready` publishes. -/
def readyEvent (world : RestartWorld) (bootId : Nat) (sessionId : Int) (endpoint : String) : HubEvent where
  deviceId := some world.deviceId
  bootId := some bootId
  sessionId := some sessionId
  body := .connection
    (match world.lastBootId with
      | none => .connected
      | some previous => if previous = bootId then .reconnected else .rebooted) endpoint

def lostEvent (world : RestartWorld) (session : ReadySession) (sessionId : Int) (endpoint : String) : HubEvent where
  deviceId := some world.deviceId
  bootId := some session.bootId
  sessionId := some sessionId
  body := .connection .disconnected endpoint

/-- `_on_event`: the history has every event, a queue those that the sink let pass. -/
def RestartWorld.onEvent (world : RestartWorld) (event : HubEvent) (sunk : Bool) : RestartWorld :=
  { world with
    history := appendHistory world.history event
    queue := if sunk then world.queue.map (Queue.put queueLimit · event) else world.queue }

def isConnection (event : HubEvent) : Bool :=
  match event.body with
  | .connection _ _ => true
  | _ => false

def isEvidence (previous : Option Nat) (event : HubEvent) : Bool :=
  match event.body, event.bootId with
  | .connection .rebooted _, some bootId => some bootId != previous
  | _, _ => false

def RestartWorld.over (world : RestartWorld) (serial : Nat) : Bool :=
  world.session.any fun session => session.serial == serial

def nextRestart (world : RestartWorld) : RestartEvent → Option RestartWorld
  | .ready bootId sessionId endpoint =>
    -- a second session of the device is refused
    if world.session.isSome then none
    else
      some { world.onEvent (readyEvent world bootId sessionId endpoint) true with
             lastBootId := some bootId
             session := some { serial := world.serial, bootId }
             serial := world.serial + 1
             readied := if world.sent then world.readied ++ [bootId] else world.readied }
  | .unready bootId sessionId endpoint =>
    if world.session.isSome then none
    else
      some { world.onEvent (readyEvent world bootId sessionId endpoint) false with lastBootId := some bootId }
  | .lost sessionId endpoint =>
    world.session.map fun session =>
      { world.onEvent (lostEvent world session sessionId endpoint) true with session := none }
  | .publish event sunk => if isConnection event then none else some (world.onEvent event sunk)
  | .call =>
    match world.phase, world.session with
    | .idle, some session => some { world with phase := .asking session.serial }
    | .idle, none => some { world with phase := .raised }
    | _, _ => none
  | .status =>
    match world.phase, world.session with
    | .asking serial, some session =>
      if session.serial = serial then some { world with phase := .asked (some session.bootId) } else none
    | _, _ => none
  | .resume =>
    match world.phase, world.session with
    | .asked previous, some session =>
      some { world with phase := .requesting previous session.serial, queue := some world.history }
    | .asked _, none => some { world with phase := .raised }
    | _, _ => none
  | .send =>
    match world.phase with
    | .requesting _ serial => if world.over serial then some { world with sent := true } else none
    | _ => none
  | .answer delayMs =>
    match world.phase with
    | .requesting previous serial =>
      if world.sent ∧ world.over serial then some { world with phase := .watching previous delayMs } else none
    | _ => none
  | .take =>
    match world.phase, world.queue with
    | .watching previous delayMs, some (event :: rest) =>
      match isEvidence previous event, event.bootId with
      | true, some bootId => some { world with phase := .confirming previous delayMs bootId, queue := some rest }
      | _, _ => some { world with queue := some rest }
    | _, _ => none
  | .confirm appVersion =>
    match world.phase, world.session with
    | .confirming previous delayMs bootId, some _ =>
      some { world with
             phase := .restarted { delayMs, previousBootId := previous, bootId, appVersion }
             queue := none }
    | _, _ => none
  | .raise =>
    match world.phase with
    | .idle | .restarted _ | .raised => none
    | _ => some { world with phase := .raised, queue := none }

def restartSystem : System RestartWorld RestartEvent :=
  .ofPartial
    (fun world => world.phase = .idle ∧ world.queue = none ∧ world.sent = false ∧ world.readied = [] ∧
      world.history.length ≤ historyLimit ∧ ∀ session, world.session = some session → session.serial < world.serial)
    nextRestart

/-- The history that a subscriber gets holds no `rebooted` of another boot than the one that runs. -/
def NoStaleReboot (world : RestartWorld) : RestartEvent → Prop
  | .resume =>
    match world.phase with
    | .asked previous => ∀ event ∈ world.history, isEvidence previous event = false
    | _ => True
  | _ => True

def Backed (previous : Option Nat) (readied : List Nat) (items : List HubEvent) : Prop :=
  ∀ event ∈ items, isEvidence previous event = true → ∃ bootId ∈ readied, event.bootId = some bootId

def PhaseSound (world : RestartWorld) : Prop :=
  match world.phase with
  | .idle | .asking _ | .asked _ => world.sent = false
  | .requesting previous serial => serial < world.serial ∧ ∀ items, world.queue = some items →
      (world.sent = true → Backed previous world.readied items) ∧
      (world.sent = false → world.over serial = true → ∀ event ∈ items, isEvidence previous event = false)
  | .watching previous _ => world.sent = true ∧ ∀ items, world.queue = some items → Backed previous world.readied items
  | .confirming previous _ bootId => some bootId ≠ previous ∧ bootId ∈ world.readied
  | .restarted result => some result.bootId ≠ result.previousBootId ∧ result.bootId ∈ world.readied
  | .raised => True

structure RestartSound (world : RestartWorld) : Prop where
  serial : ∀ session, world.session = some session → session.serial < world.serial
  phase : PhaseSound world

variable {world : RestartWorld} {event : HubEvent} {previous : Option Nat} {readied : List Nat} {items : List HubEvent}

theorem isEvidence_boot (evidence : isEvidence previous event = true) :
    ∃ bootId, event.bootId = some bootId ∧ some bootId ≠ previous := by
  unfold isEvidence at evidence
  split at evidence
  next bootId _ found => exact ⟨bootId, found, bne_iff_ne.mp evidence⟩
  next => contradiction

theorem isEvidence_connection (other : isConnection event = false) : isEvidence previous event = false := by
  unfold isConnection at other
  unfold isEvidence
  split
  next body _ =>
    rw [body] at other
    contradiction
  next => rfl

theorem Backed.put (backed : Backed previous readied items) (limit : Nat)
    (new : isEvidence previous event = true → ∃ bootId ∈ readied, event.bootId = some bootId) :
    Backed previous readied (Queue.put limit items event) := by
  intro found member evidence
  rcases Queue.mem_put member with old | rfl
  · exact backed found old evidence
  · exact new evidence

theorem RestartSound.publish (sound : RestartSound world) (quiet : ∀ previous, isEvidence previous event = false)
    (sunk : Bool) : RestartSound (world.onEvent event sunk) where
  serial := sound.serial
  phase := by
    have phase := sound.phase
    have queued : ∀ items, (world.onEvent event sunk).queue = some items → ∃ before, world.queue = some before ∧
        ∀ found ∈ items, found ∈ before ∨ found = event := by
      intro items same
      cases sunk with
      | false => exact ⟨items, same, fun _ member => .inl member⟩
      | true =>
        obtain ⟨before, found, rfl⟩ := Option.map_eq_some_iff.mp same
        exact ⟨before, found, fun _ => Queue.mem_put⟩
    have same : (world.onEvent event sunk).phase = world.phase := rfl
    unfold PhaseSound at phase ⊢
    rw [same]
    cases point : world.phase with
    | requesting previous serial =>
      rw [point] at phase
      refine ⟨phase.1, fun items same => ?_⟩
      obtain ⟨before, found, among⟩ := queued items same
      obtain ⟨sent, unsent⟩ := phase.2 before found
      refine ⟨fun asked found member evidence => ?_, fun idle isOver found member => ?_⟩
      · rcases among found member with old | rfl
        · exact sent asked found old evidence
        · exact absurd ((quiet previous).symm.trans evidence) Bool.false_ne_true
      · rcases among found member with old | rfl
        · exact unsent idle isOver found old
        · exact quiet previous
    | watching previous =>
      rw [point] at phase
      refine ⟨phase.1, fun items same found member evidence => ?_⟩
      obtain ⟨before, known, among⟩ := queued items same
      rcases among found member with old | rfl
      · exact phase.2 before known found old evidence
      · exact absurd ((quiet previous).symm.trans evidence) Bool.false_ne_true
    | _ =>
      rw [point] at phase
      exact phase

theorem RestartSound.raise (sound : RestartSound world) (queue : Option (List HubEvent)) :
    RestartSound { world with phase := .raised, queue } := ⟨sound.serial, trivial⟩

theorem readyEvent_evidence {bootId : Nat} {sessionId : Int} {endpoint : String}
    (_ : isEvidence previous (readyEvent world bootId sessionId endpoint) = true) :
    ∃ other ∈ readied ++ [bootId], (readyEvent world bootId sessionId endpoint).bootId = some other :=
  ⟨bootId, List.mem_append_right _ (List.mem_singleton_self _), rfl⟩

theorem Backed.grow (backed : Backed previous readied items) (more : List Nat) :
    Backed previous (readied ++ more) items := by
  intro event member evidence
  obtain ⟨bootId, known, same⟩ := backed event member evidence
  exact ⟨bootId, List.mem_append_left _ known, same⟩

section sound
variable (sound : RestartSound world)
include sound

/-- A new session: whoever still waits for the old one is answered no more. -/
theorem RestartSound.ready (bootId : Nat) (sessionId : Int) (endpoint : String) :
    RestartSound
      { world.onEvent (readyEvent world bootId sessionId endpoint) true with
        lastBootId := some bootId
        session := some { serial := world.serial, bootId }
        serial := world.serial + 1
        readied := if world.sent then world.readied ++ [bootId] else world.readied } where
  serial := by
    rintro _ ⟨⟩
    exact Nat.lt_succ_self _
  phase := by
    have phase := sound.phase
    unfold PhaseSound at phase ⊢
    dsimp only [RestartWorld.onEvent]
    cases point : world.phase with
    | idle | asking | asked | raised =>
      rw [point] at phase
      exact phase
    | requesting previous serial =>
      rw [point] at phase
      refine ⟨Nat.lt_succ_of_lt phase.1, fun items same => ?_⟩
      obtain ⟨before, found, rfl⟩ := Option.map_eq_some_iff.mp same
      obtain ⟨sent, _⟩ := phase.2 before found
      refine ⟨fun asked => ?_, fun _ isOver => ?_⟩
      · rw [if_pos asked]
        exact ((sent asked).grow [bootId]).put _ readyEvent_evidence
      · have same : world.serial = serial := by simpa [RestartWorld.over] using isOver
        exact absurd same (Nat.ne_of_gt phase.1)
    | watching previous =>
      rw [point] at phase
      obtain ⟨sent, backed⟩ := phase
      refine ⟨sent, fun items same => ?_⟩
      obtain ⟨before, found, rfl⟩ := Option.map_eq_some_iff.mp same
      rw [if_pos sent]
      exact ((backed before found).grow [bootId]).put _ readyEvent_evidence
    | confirming previous delayMs boot =>
      rw [point] at phase
      refine ⟨phase.1, ?_⟩
      split
      next => exact List.mem_append_left _ phase.2
      next => exact phase.2
    | restarted result =>
      rw [point] at phase
      refine ⟨phase.1, ?_⟩
      split
      next => exact List.mem_append_left _ phase.2
      next => exact phase.2

/-- Without a session nobody is answered, so what a failed `_on_ready` leaves does not matter. -/
theorem RestartSound.unready (bootId : Nat) (sessionId : Int) (endpoint : String) :
    RestartSound
      { world.onEvent (readyEvent world bootId sessionId endpoint) false with lastBootId := some bootId } :=
  ⟨sound.serial, sound.phase⟩

theorem RestartSound.lost (session : ReadySession) (sessionId : Int) (endpoint : String) :
    RestartSound { world.onEvent (lostEvent world session sessionId endpoint) true with session := none } := by
  have sound : RestartSound (world.onEvent (lostEvent world session sessionId endpoint) true) :=
    sound.publish (fun _ => rfl) true
  refine ⟨nofun, ?_⟩
  have phase := sound.phase
  unfold PhaseSound at phase ⊢
  dsimp only [RestartWorld.onEvent] at phase ⊢
  cases point : world.phase with
  | requesting previous serial =>
    rw [point] at phase
    exact ⟨phase.1, fun items same => ⟨(phase.2 items same).1, fun _ isOver => absurd isOver Bool.false_ne_true⟩⟩
  | _ =>
    rw [point] at phase
    exact phase

theorem RestartSound.take {previous : Option Nat} {delayMs : Nat} {event : HubEvent} {rest : List HubEvent}
    {after : RestartWorld} (watching : world.phase = .watching previous delayMs)
    (queued : world.queue = some (event :: rest)) (took : nextRestart world .take = some after) :
    RestartSound after := by
  have phase := sound.phase
  unfold PhaseSound at phase
  rw [watching] at phase
  obtain ⟨sent, backed⟩ := phase
  have backed := backed _ queued
  dsimp only [nextRestart] at took
  rw [watching, queued] at took
  dsimp only at took
  split at took
  next bootId evidence found =>
    cases took
    refine ⟨sound.serial, ?_⟩
    obtain ⟨other, known, same⟩ := backed event List.mem_cons_self evidence
    obtain ⟨boot, here, changed⟩ := isEvidence_boot evidence
    cases Option.some.inj (found.symm.trans same)
    cases Option.some.inj (found.symm.trans here)
    exact ⟨changed, known⟩
  cases took
  refine ⟨sound.serial, ?_⟩
  unfold PhaseSound
  dsimp only
  refine ⟨sent, ?_⟩
  rintro _ ⟨⟩ found member evidence
  exact backed found (List.mem_cons_of_mem _ member) evidence

theorem RestartSound.asks {event : RestartEvent} {after : RestartWorld} (about : event = .call ∨ event = .status)
    (next : nextRestart world event = some after) : RestartSound after := by
  have phase := sound.phase
  unfold PhaseSound at phase
  rcases about with rfl | rfl
  · dsimp only [nextRestart] at next
    split at next
    next point _ =>
      cases next
      rw [point] at phase
      exact ⟨sound.serial, phase⟩
    next =>
      cases next
      exact ⟨sound.serial, trivial⟩
    next => contradiction
  · dsimp only [nextRestart] at next
    split at next
    next point _ =>
      split at next
      next =>
        cases next
        rw [point] at phase
        exact ⟨sound.serial, phase⟩
      next => contradiction
    next => contradiction

theorem RestartSound.resume (clean : NoStaleReboot world .resume) {after : RestartWorld}
    (next : nextRestart world .resume = some after) : RestartSound after := by
  have phase := sound.phase
  unfold PhaseSound at phase
  dsimp only [nextRestart, NoStaleReboot] at next clean
  split at next
  next previous session point held =>
    cases next
    rw [point] at phase clean
    refine ⟨sound.serial, sound.serial session held, ?_⟩
    rintro _ ⟨⟩
    exact ⟨fun sent => absurd (phase.symm.trans sent) Bool.false_ne_true, fun _ _ => clean⟩
  next =>
    cases next
    exact ⟨sound.serial, trivial⟩
  next => contradiction

/-- The request goes out over the session that was observed: nothing in the queue is evidence yet. -/
theorem RestartSound.send {after : RestartWorld} (next : nextRestart world .send = some after) :
    RestartSound after := by
  have phase := sound.phase
  unfold PhaseSound at phase
  dsimp only [nextRestart] at next
  split at next
  next previous serial point =>
    rw [point] at phase
    split at next
    next isOver =>
      cases next
      refine ⟨sound.serial, ?_⟩
      unfold PhaseSound
      dsimp only
      rw [point]
      refine ⟨phase.1, fun items queued => ⟨fun _ => ?_, fun unsent => absurd unsent.symm Bool.false_ne_true⟩⟩
      obtain ⟨sentBefore, unsentBefore⟩ := phase.2 items queued
      cases before : world.sent with
      | true => exact sentBefore before
      | false =>
        intro event member evidence
        exact absurd ((unsentBefore before isOver event member).symm.trans evidence) Bool.false_ne_true
    next => contradiction
  next => contradiction

theorem RestartSound.answer {delayMs : Nat} {after : RestartWorld}
    (next : nextRestart world (.answer delayMs) = some after) : RestartSound after := by
  have phase := sound.phase
  unfold PhaseSound at phase
  dsimp only [nextRestart] at next
  split at next
  next previous serial point =>
    rw [point] at phase
    split at next
    next both =>
      cases next
      exact ⟨sound.serial, both.1, fun items queued => (phase.2 items queued).1 both.1⟩
    next => contradiction
  next => contradiction

end sound

theorem restart_sound : Invariant (restartSystem.guarded NoStaleReboot) RestartSound where
  start := by
    rintro world ⟨idle, _, unsent, _, _, serial⟩
    refine ⟨serial, ?_⟩
    unfold PhaseSound
    rw [idle]
    exact unsent
  step := by
    rintro world event after sound ⟨clean, next⟩
    have next : nextRestart world event = some after := next
    cases event with
    | ready bootId sessionId endpoint =>
      dsimp only [nextRestart] at next
      split at next
      next => contradiction
      cases next
      exact sound.ready bootId sessionId endpoint
    | unready bootId sessionId endpoint =>
      dsimp only [nextRestart] at next
      split at next
      next => contradiction
      cases next
      exact sound.unready bootId sessionId endpoint
    | lost sessionId endpoint =>
      obtain ⟨session, _, rfl⟩ := Option.map_eq_some_iff.mp next
      exact sound.lost session sessionId endpoint
    | publish event sunk =>
      dsimp only [nextRestart] at next
      split at next
      next => contradiction
      next other =>
        cases next
        exact sound.publish (fun _ => isEvidence_connection (Bool.eq_false_iff.mpr other)) sunk
    | call => exact sound.asks (.inl rfl) next
    | status => exact sound.asks (.inr rfl) next
    | resume => exact sound.resume clean next
    | send => exact sound.send next
    | answer delayMs => exact sound.answer next
    | take =>
      have taken := next
      dsimp only [nextRestart] at next
      split at next
      next previous delayMs event rest watching queued => exact sound.take watching queued taken
      next => contradiction
    | confirm appVersion =>
      have phase := sound.phase
      unfold PhaseSound at phase
      dsimp only [nextRestart] at next
      split at next
      next point _ =>
        cases next
        rw [point] at phase
        exact ⟨sound.serial, phase⟩
      next => contradiction
    | raise =>
      dsimp only [nextRestart] at next
      split at next
      next => contradiction
      next => contradiction
      next => contradiction
      cases next
      exact sound.raise none

/-- What is returned is the boot of a session that became ready after the request was sent. -/
theorem restart_accepted {world : RestartWorld} {result : RestartResult}
    (reached : Reachable (restartSystem.guarded NoStaleReboot) world) (returned : world.phase = .restarted result) :
    some result.bootId ≠ result.previousBootId ∧ result.bootId ∈ world.readied := by
  have phase := (restart_sound.reachable reached).phase
  unfold PhaseSound at phase
  rw [returned] at phase
  exact phase

instance (world : RestartWorld) (event : RestartEvent) : Decidable (NoStaleReboot world event) := by
  unfold NoStaleReboot
  split
  · split <;> infer_instance
  · infer_instance

def connectionOf (state : ConnectionState) (bootId : Nat) : HubEvent :=
  ⟨some [1], some bootId, some 1, .connection state "endpoint"⟩

def third (history : List HubEvent) : RestartWorld where
  deviceId := [1]
  lastBootId := some 3
  history := history
  session := some ⟨0, 3⟩
  serial := 1
  phase := .idle
  queue := none
  sent := false
  readied := []

theorem third_start {history : List HubEvent} (bounded : history.length ≤ historyLimit) :
    restartSystem.start (third history) := by
  refine ⟨rfl, rfl, rfl, rfl, bounded, ?_⟩
  rintro _ ⟨⟩
  exact Nat.zero_lt_one

def fourthTaken : List RestartEvent :=
  [.call, .status, .resume, .send, .answer 100, .lost 1 "endpoint", .ready 4 2 "endpoint", .take, .take, .take,
    .confirm none]

theorem fourth_accepted : ∃ world : RestartWorld, world.phase = .restarted ⟨100, some 3, 4, none⟩ ∧ 4 ∈ world.readied := by
  have ended : ∃ world, Run (restartSystem.guarded NoStaleReboot) (third [connectionOf .connected 3]) fourthTaken world ∧
      decide (world.phase = .restarted ⟨100, some 3, 4, none⟩) = true := Run.of_guarded_check (by decide +kernel)
  obtain ⟨world, run, returned⟩ := ended
  have returned := of_decide_eq_true returned
  exact ⟨world, returned, (restart_accepted ⟨_, _, third_start (by decide), run⟩ returned).2⟩

def secondTaken : List RestartEvent := [.call, .status, .resume, .send, .answer 100, .take, .take, .confirm none]

/-- The `rebooted` of boot 2 in the history is taken for the restart of boot 3. -/
theorem earlier_reboot_accepted : ∃ world, Reachable restartSystem world ∧
    world.phase = .restarted ⟨100, some 3, 2, none⟩ ∧ world.readied = [] := by
  have ended : ∃ world, Run restartSystem
      (third [connectionOf .connected 1, connectionOf .rebooted 2, connectionOf .rebooted 3]) secondTaken world ∧
      decide (world.phase = .restarted ⟨100, some 3, 2, none⟩ ∧ world.readied = []) = true :=
    Run.of_check (by decide +kernel)
  obtain ⟨world, run, returned⟩ := ended
  exact ⟨world, ⟨_, _, third_start (by decide), run⟩, of_decide_eq_true returned⟩

end EspIris.Gateway.Restart
