import EspIris.Gateway.SessionSteps

/-! What one step can do to the tasks, the locks and the link: said once, for every property of
the runs. -/

namespace EspIris.Gateway
open Codec.Host (Frame encodeFrame)
variable {before after : HostState} {state : HostState} {sender : Sender} {request : Request}

@[simp] theorem HostState.setTask_tasks (state : HostState) (number other : Nat) (task : Option Task) :
    (state.setTask number task).tasks other = if other = number then task else state.tasks other := rfl

/-- A `ControlType.REQUEST`, whose ids the device requires to increase. -/
def asksRpc (channel type : Int) : Bool := channel = Channel.control.toNat && type = ControlType.request.toNat

def Task.isRpc (task : Task) : Bool := task.request.any fun request => asksRpc request.channel request.type

theorem not_rpc_of_type {channel type : Int} (other : type ≠ ControlType.request.toNat) : asksRpc channel type = false := by
  rw [asksRpc, decide_eq_false other, Bool.and_false]

theorem not_rpc_of_probe (probe : isProbe request = true) :
    asksRpc request.channel request.type = false := by
  refine not_rpc_of_type ?_
  intro isRequest
  rw [isProbe, isRequest] at probe
  simp [ControlType.request, ControlType.statusRequest, ControlType.ping, ControlType.timeSyncRequest] at probe

theorem not_rpc_of_otaData (data : isOtaData request = true) :
    asksRpc request.channel request.type = false := by
  have others : request.channel ≠ Channel.control.toNat := by
    intro isControl
    rw [isOtaData, isControl] at data
    simp [Channel.control, Channel.ota] at data
  rw [asksRpc, decide_eq_false others, Bool.false_and]

theorem listed_of_otaData (data : isOtaData request = true) : request.channel ∈ requestChannels := by
  have isOta : request.channel = Channel.ota.toNat := of_decide_eq_true (Bool.and_eq_true_iff.mp data).1
  rw [isOta]
  decide

theorem not_rpc_of_reply {channel type : Int} (replies : repliesOnly channel type) : asksRpc channel type = false := by
  refine not_rpc_of_type ?_
  rcases replies.2 with rfl | rfl <;> decide

def Reader.Fits (session : DeviceSession) : Reader → Prop
  | .performing effects _ => EffectsFit session effects
  | .sending outgoing rest _ =>
    session.info.isSome ∧ outgoing.sessionId = sessionIdOf session ∧ repliesOnly outgoing.channel outgoing.type ∧
      EffectsFit session rest
  | .writing rest _ => EffectsFit session rest
  | _ => True

inductive TaskFrom (before : HostState) (requester : Option Nat) (number : Nat) (task : Task) : Prop
  | new (waits : task.phase = .locking ∨ task.isRpc = false) (unanswered : task.requestId = none)
      (asks : ∀ request, task.request = some request → request.channel ∈ requestChannels)
      (credits : ∀ outgoing, task.phase = .sending outgoing → before.session.ready = true ∧ task.request = none ∧
        ∃ channel amount, outgoing = creditFrame before.session channel amount)
  | kept (old : Task) (was : before.tasks number = some old) (request : task.request = old.request)
      (requestId : task.requestId = old.requestId) (drawn : task.drawn = old.drawn)
      (sends : ∀ outgoing, task.phase = .sending outgoing → old.phase = .sending outgoing)
      (locks : task.phase ≠ .locking → requester = some number ∨
        (old.phase ≠ .locking ∧ (before.requester = some number → requester = some number)))

structure Calm (before after : HostState) : Prop where
  info : after.session.info = before.session.info
  reopenSessionId : after.session.reopenSessionId = before.session.reopenSessionId
  reopenRequested : after.session.reopenRequested = before.session.reopenRequested
  sequence : after.session.sequence = before.session.sequence
  requestId : after.session.requestId = before.session.requestId
  stays : before.session.ready = true → after.session.ready = true
  opens : after.session.ready = true →
    before.session.ready = true ∨ (before.session.info.isSome ∧ before.session.reopenSessionId = none)
  wire : after.wire = before.wire
  numbered : after.numbered = before.numbered
  drawn : after.drawn = before.drawn
  reader : after.reader.Fits after.session
  tasks : ∀ number task, after.tasks number = some task → TaskFrom before after.requester number task

inductive Waits (state : HostState) : Sender → Outgoing → Nat → Prop
  | task {number : Nat} {task : Task} {outgoing : Outgoing} (is : state.tasks number = some task)
      (phase : task.phase = .sending outgoing) : Waits state (.task number) outgoing task.drawn
  | reader {outgoing : Outgoing} {rest : List Effect} {raises : Option Raised}
      (is : state.reader = .sending outgoing rest raises) : Waits state .reader outgoing 0

structure Hands (before after : HostState) (sender : Sender) (outgoing : Outgoing) (drawn : Nat) : Prop where
  waits : Waits before sender outgoing drawn
  session : after.session = (before.number outgoing).1.session
  numbered : after.numbered = (before.number outgoing).1.numbered
  encodes : ∃ bytes, encodeFrame (before.number outgoing).2 = .ok bytes
  wire : after.wire = before.wire ++ [⟨(before.number outgoing).2, before.numbered outgoing.channel + 1, drawn⟩]
  drawn : after.drawn = before.drawn
  requester : after.requester = before.requester
  reader : after.reader.Fits after.session
  tasks : ∀ number task, after.tasks number = some task → ∃ old, before.tasks number = some old ∧
    task.request = old.request ∧ task.requestId = old.requestId ∧ task.drawn = old.drawn ∧
    (∀ other, task.phase = .sending other → old.phase = .sending other ∧ sender ≠ .task number) ∧
    (task.phase ≠ .locking → old.phase ≠ .locking)

structure Greets (before after : HostState) (hello : DeviceInfo) (taken : DeviceSession) : Prop where
  takes : Takes before.session hello taken
  core : SameCore taken after.session
  numbered : after.numbered = if startsOver before.session after.session then fun _ => 0 else before.numbered
  tasks : after.tasks = before.tasks
  requester : after.requester = before.requester
  wire : after.wire = before.wire
  drawn : after.drawn = before.drawn
  reader : after.reader.Fits after.session

inductive Does (before : HostState) (event : HostEvent) (after : HostState) : Prop
  | calm (calm : Calm before after)
  | begins (number : Nat) (task : Task) (request : Request) (is : before.tasks number = some task)
      (readying : task.phase = .readying) (asks : task.request = some request) (ready : before.session.ready = true)
      (result : after = before.begin number task request)
  | hands (sender : Sender) (outgoing : Outgoing) (drawn : Nat) (hands : Hands before after sender outgoing drawn)
  | misses (sender : Sender) (outgoing : Outgoing) (drawn : Nat) (waits : Waits before sender outgoing drawn)
      (calm : Calm (before.number outgoing).1 after)
  | greets (frame : Frame) (nonce : List UInt8) (hello : DeviceInfo) (taken : DeviceSession)
      (is : event = .frame frame nonce) (reads : helloOf before.session frame = some hello)
      (greets : Greets before after hello taken)

theorem sessionIdOf_eq {before after : DeviceSession} (info : after.info = before.info) :
    sessionIdOf after = sessionIdOf before := by
  rw [sessionIdOf, info, sessionIdOf]

theorem Effect.Fits.over {before after : DeviceSession} {effect : Effect} (info : after.info = before.info)
    (reopen : after.reopenSessionId = before.reopenSessionId) (fits : effect.Fits before) : effect.Fits after := by
  cases effect with
  | send channel type flags payload => exact ⟨fits.1, info ▸ fits.2⟩
  | announce => exact ⟨info ▸ fits.1, reopen.trans fits.2⟩
  | _ => trivial

theorem EffectsFit.over {before after : DeviceSession} {effects : List Effect} (info : after.info = before.info)
    (reopen : after.reopenSessionId = before.reopenSessionId) (fit : EffectsFit before effects) :
    EffectsFit after effects :=
  fun effect inside => (fit effect inside).over info reopen

theorem Reader.Fits.over {before after : DeviceSession} {reader : Reader} (info : after.info = before.info)
    (reopen : after.reopenSessionId = before.reopenSessionId) (fits : reader.Fits before) : reader.Fits after := by
  cases reader with
  | performing effects raises => exact EffectsFit.over info reopen fits
  | sending outgoing rest raises =>
    obtain ⟨known, session, replies, fit⟩ := fits
    exact ⟨info ▸ known, session.trans (sessionIdOf_eq info).symm, replies, fit.over info reopen⟩
  | writing rest raises => exact EffectsFit.over info reopen fits
  | idle => trivial
  | ended raised => trivial

theorem TaskFrom.same {requester : Option Nat} {number : Nat} {task : Task} (was : before.tasks number = some task)
    (keeps : before.requester = some number → requester = some number) :
    TaskFrom before requester number task :=
  .kept task was rfl rfl rfl (fun _ sends => sends) fun moved => .inr ⟨moved, keeps⟩

structure SameNumbers (before after : DeviceSession) : Prop where
  info : after.info = before.info
  reopenSessionId : after.reopenSessionId = before.reopenSessionId
  reopenRequested : after.reopenRequested = before.reopenRequested
  sequence : after.sequence = before.sequence
  requestId : after.requestId = before.requestId
  ready : after.ready = before.ready

theorem SameNumbers.refl (session : DeviceSession) : SameNumbers session session := ⟨rfl, rfl, rfl, rfl, rfl, rfl⟩

theorem SameCore.numbers {before after : DeviceSession} (same : SameCore before after) : SameNumbers before after :=
  ⟨same.info, same.reopenSessionId, same.reopenRequested, same.sequence, same.requestId, same.ready⟩

/-- What a step that leaves the link and the counters alone has to show. -/
theorem Calm.of_tasks (core : SameNumbers before.session after.session) (wire : after.wire = before.wire)
    (numbered : after.numbered = before.numbered) (drawn : after.drawn = before.drawn)
    (reader : after.reader.Fits after.session)
    (tasks : ∀ number task, after.tasks number = some task → TaskFrom before after.requester number task)
    : Calm before after where
  info := core.info
  reopenSessionId := core.reopenSessionId
  reopenRequested := core.reopenRequested
  sequence := core.sequence
  requestId := core.requestId
  stays := fun ready => core.ready.trans ready
  opens := fun ready => .inl (core.ready.symm.trans ready)
  wire := wire
  numbered := numbered
  drawn := drawn
  reader := reader
  tasks := tasks

theorem calm_start {state : HostState} (fits : state.reader.Fits state.session) (phase : TaskPhase)
    (request : Option Request) (waits : phase = .locking ∨ (⟨phase, request, none, 0, none⟩ : Task).isRpc = false)
    (asks : ∀ asked, request = some asked → asked.channel ∈ requestChannels)
    (credits : ∀ outgoing, phase = .sending outgoing → state.session.ready = true ∧ request = none ∧
      ∃ channel amount, outgoing = creditFrame state.session channel amount) : Calm state (state.start phase request) := by
  refine .of_tasks (.refl _) rfl rfl rfl fits ?_
  intro number task isTask
  by_cases here : number = state.started
  · rw [HostState.start, HostState.setTask_tasks, if_pos here] at isTask
    cases isTask
    exact .new waits rfl asks credits
  · rw [HostState.start, HostState.setTask_tasks, if_neg here] at isTask
    exact .same isTask id

theorem calm_drop (fits : state.reader.Fits state.session) (number : Nat) (task : Task) :
    Calm state (state.drop number task) := by
  refine .of_tasks ⟨rfl, rfl, rfl, rfl, rfl, rfl⟩ rfl rfl rfl (fits.over rfl rfl) ?_
  intro other rest isRest
  by_cases here : other = number
  · simp [HostState.drop, here] at isRest
  · simp only [HostState.drop, HostState.setTask_tasks, if_neg here] at isRest
    refine .same isRest ?_
    intro holds
    have others : state.requester ≠ some number := fun same => here (Option.some.inj (holds.symm.trans same))
    exact (if_neg others).trans holds

theorem failTask_same (task : Task) : (failTask task).request = task.request ∧ (failTask task).requestId = task.requestId ∧
    (failTask task).drawn = task.drawn ∧ (failTask task).phase = task.phase := by
  unfold failTask
  split <;> exact ⟨rfl, rfl, rfl, rfl⟩

theorem calm_close (fits : state.reader.Fits state.session) : Calm state state.close := by
  refine .of_tasks ⟨rfl, rfl, rfl, rfl, rfl, rfl⟩ rfl rfl rfl (fits.over rfl rfl) ?_
  intro number task isTask
  obtain ⟨old, was, rfl⟩ := Option.map_eq_some_iff.mp isTask
  obtain ⟨request, requestId, drawn, phase⟩ := failTask_same old
  exact .kept old was request requestId drawn (fun _ sends => phase.symm.trans sends)
    fun moved => .inr ⟨phase ▸ moved, id⟩

theorem calm_endReader (state : HostState) (raised : Raised) : Calm state (state.endReader raised) := by
  refine .of_tasks ⟨rfl, rfl, rfl, rfl, rfl, rfl⟩ rfl rfl rfl trivial ?_
  intro number task isTask
  obtain ⟨old, was, rfl⟩ := Option.map_eq_some_iff.mp isTask
  obtain ⟨request, requestId, drawn, phase⟩ := failTask_same old
  exact .kept old was request requestId drawn (fun _ sends => phase.symm.trans sends)
    fun moved => .inr ⟨phase ▸ moved, id⟩

theorem taskFrom_setTask {number : Nat} {old task : Task} (was : state.tasks number = some old)
    (request : task.request = old.request) (requestId : task.requestId = old.requestId) (drawn : task.drawn = old.drawn)
    (sends : ∀ outgoing, task.phase = .sending outgoing → old.phase = .sending outgoing)
    (locks : task.phase ≠ .locking → old.phase ≠ .locking) (other : Nat) (rest : Task)
    (isRest : (state.setTask number (some task)).tasks other = some rest) :
    TaskFrom state state.requester other rest := by
  by_cases here : other = number
  · rw [HostState.setTask_tasks, if_pos here] at isRest
    cases isRest
    subst here
    exact .kept old was request requestId drawn sends fun moved => .inr ⟨locks moved, id⟩
  · rw [HostState.setTask_tasks, if_neg here] at isRest
    exact .same isRest id

theorem number_counts (state : HostState) (outgoing : Outgoing) :
    (state.number outgoing).1.numbered outgoing.channel = state.numbered outgoing.channel + 1 := if_pos rfl

theorem handOver_eq {state sent : HostState} {outgoing : Outgoing} {drawn : Nat}
    (handed : state.handOver sender outgoing drawn = some sent) :
    (∃ bytes, encodeFrame (state.number outgoing).2 = .ok bytes) ∧
      sent = { (state.number outgoing).1 with
        writer := some sender
        wire := state.wire ++ [⟨(state.number outgoing).2, state.numbered outgoing.channel + 1, drawn⟩] } := by
  unfold HostState.handOver at handed
  dsimp only at handed
  rw [number_counts] at handed
  split at handed
  next bytes encodes =>
    cases handed
    exact ⟨⟨bytes, encodes⟩, rfl⟩
  next => contradiction

theorem does_turn (fits : before.reader.Fits before.session) (turned : before.turn sender = some after) :
    Does before (.turn sender) after := by
  unfold HostState.turn at turned
  split at turned
  · contradiction
  cases sender with
  | task number =>
    dsimp only at turned
    split at turned
    next task is =>
      split at turned
      next outgoing phase =>
        have waits : Waits before (.task number) outgoing task.drawn := .task is phase
        split at turned
        next sent handed =>
          obtain ⟨encodes, rfl⟩ := handOver_eq handed
          cases turned
          refine .hands (.task number) outgoing task.drawn ⟨waits, rfl, rfl, encodes, rfl, rfl, rfl, fits.over rfl rfl, ?_⟩
          · intro other rest isRest
            by_cases here : other = number
            · rw [HostState.setTask_tasks, if_pos here] at isRest
              cases isRest
              subst here
              refine ⟨task, is, rfl, rfl, rfl, ?_, ?_⟩
              · intro other sends
                cases sends
              · intro _ locking
                rw [phase] at locking
                cases locking
            · rw [HostState.setTask_tasks, if_neg here] at isRest
              refine ⟨rest, isRest, rfl, rfl, rfl, ?_, id⟩
              intro other sends
              refine ⟨sends, ?_⟩
              intro same
              cases same
              exact here rfl
        next refused =>
          cases turned
          have still : (before.number outgoing).1.reader.Fits (before.number outgoing).1.session := fits.over rfl rfl
          exact .misses (.task number) outgoing task.drawn waits (calm_drop still number task)
      next => contradiction
    next => contradiction
  | reader =>
    dsimp only at turned
    split at turned
    next outgoing rest raises is =>
      have waits : Waits before .reader outgoing 0 := .reader is
      split at turned
      next sent handed =>
        obtain ⟨encodes, rfl⟩ := handOver_eq handed
        cases turned
        rw [is] at fits
        refine .hands .reader outgoing 0 ⟨waits, rfl, rfl, encodes, rfl, rfl, rfl, fits.2.2.2.over rfl rfl, ?_⟩
        · intro number task isTask
          refine ⟨task, isTask, rfl, rfl, rfl, ?_, id⟩
          intro other sends
          refine ⟨sends, ?_⟩
          intro same
          cases same
      next refused =>
        cases turned
        exact .misses .reader outgoing 0 waits (calm_endReader _ _)
    next => contradiction

theorem calm_written (fits : before.reader.Fits before.session) (wrote : before.written sender = some after) :
    Calm before after := by
  unfold HostState.written at wrote
  split at wrote
  · contradiction
  cases sender with
  | task number =>
    dsimp only at wrote
    split at wrote
    next task is =>
      split at wrote
      · contradiction
      next writing =>
        split at wrote
        · cases wrote
          exact calm_drop fits number task
        · cases wrote
          refine .of_tasks (.refl _) rfl rfl rfl fits (taskFrom_setTask is rfl rfl rfl ?_ ?_)
          · intro outgoing sends
            cases sends
          · intro _ locking
            exact writing (fun isWriting => by rw [isWriting] at locking; cases locking)
    next => contradiction
  | reader =>
    dsimp only at wrote
    split at wrote
    next rest raises is =>
      cases wrote
      rw [is] at fits
      exact .of_tasks (.refl _) rfl rfl rfl fits fun number task isTask => .same isTask id
    next => contradiction

theorem calm_failed {raised : Raised} (fits : before.reader.Fits before.session)
    (failed : before.failed sender raised = some after) :
    Calm before after := by
  unfold HostState.failed at failed
  split at failed
  · contradiction
  cases sender with
  | task number =>
    obtain ⟨task, _, rfl⟩ := Option.map_eq_some_iff.mp failed
    exact calm_drop fits number task
  | reader =>
    cases failed
    exact calm_endReader before raised

theorem calm_effect {effect : Effect} {rest : List Effect} {raises : Option Raised}
    (fits : EffectsFit state.session (effect :: rest)) :
    Calm state { state.effect effect with reader := .performing rest raises } := by
  have rests : EffectsFit state.session rest := fun other inside => fits other (List.mem_cons_of_mem _ inside)
  have same : Calm state { state with reader := .performing rest raises } :=
    .of_tasks (.refl _) rfl rfl rfl rests fun number task isTask => .same isTask id
  have kept (session : DeviceSession) (numbers : SameNumbers state.session session) :
      Calm state { state with session := session, reader := .performing rest raises } :=
    .of_tasks numbers rfl rfl rfl (rests.over numbers.info numbers.reopenSessionId)
      fun number task isTask => .same isTask id
  cases effect with
  | logGranted amount => exact kept _ ⟨rfl, rfl, rfl, rfl, rfl, rfl⟩
  | mediaGranted channel amount => exact kept _ ⟨rfl, rfl, rfl, rfl, rfl, rfl⟩
  | announce =>
    have settled := fits .announce List.mem_cons_self
    exact {
      info := rfl
      reopenSessionId := rfl
      reopenRequested := rfl
      sequence := rfl
      requestId := rfl
      stays := fun _ => rfl
      opens := fun _ => .inr settled
      wire := rfl
      numbered := rfl
      drawn := rfl
      reader := rests.over rfl rfl
      tasks := fun number task isTask => .same isTask id }
  | resolve future outcome =>
    unfold HostState.effect
    dsimp only
    unfold HostState.resolve
    split
    next task is =>
      split
      · exact same
      · exact .of_tasks (.refl _) rfl rfl rfl rests (taskFrom_setTask is rfl rfl rfl (fun _ sends => sends) id)
    next => exact same
  | _ => exact same

theorem calm_perform {raised : Option Raised} (fits : before.reader.Fits before.session)
    (performed : before.perform raised = some after) : Calm before after := by
  have calm (reader : Reader) (fits : reader.Fits before.session) : Calm before { before with reader := reader } :=
    .of_tasks (.refl _) rfl rfl rfl fits fun number task isTask => .same isTask id
  unfold HostState.perform at performed
  split at performed
  next =>
    cases performed
    exact calm .idle trivial
  next raises _ =>
    cases performed
    exact calm_endReader before raises
  next channel type flags payload rest raises is =>
    cases performed
    rw [is] at fits
    obtain ⟨replies, known⟩ := fits (.send channel type flags payload) List.mem_cons_self
    exact calm (.sending _ rest raises)
      ⟨known, rfl, replies, fun other inside => fits other (List.mem_cons_of_mem _ inside)⟩
  next effect rest raises _ is =>
    rw [is] at fits
    split at performed
    · cases performed
      exact calm_endReader before _
    · cases performed
      exact calm_effect fits
  next => contradiction

theorem does_frame (hmac : List UInt8 → List UInt8 → List UInt8) {frame : Frame} {nonce : List UInt8}
    (taken : before.takeFrame hmac frame nonce = some after) :
    Does before (.frame frame nonce) after := by
  unfold HostState.takeFrame at taken
  split at taken
  next idle =>
    cases taken
    cases handleFrame_handles hmac nonce before.session frame with
    | hello hello taken reads accepted takes same effects =>
      exact .greets frame nonce hello taken rfl reads ⟨takes, same, rfl, rfl, rfl, rfl, rfl, effects⟩
    | other keeps settled =>
      refine .calm (.of_tasks keeps.core.numbers rfl ?_ rfl ?_ fun number task isTask => .same isTask id)
      · refine if_neg ?_
        rw [startsOver, keeps.core.reopenSessionId, Bool.not_eq_true]
        cases before.session.reopenSessionId <;> rfl
      · by_cases quiet : (handleFrame hmac nonce before.session frame).effects = []
        · intro effect inside
          rw [quiet] at inside
          exact absurd inside List.not_mem_nil
        · intro effect inside
          exact ((keeps.effects (settled quiet)) effect inside).same keeps.core
  next => contradiction

theorem does_step (hmac : List UInt8 → List UInt8 → List UInt8) {event : HostEvent}
    (fits : before.reader.Fits before.session) (moves : hostNext hmac before event = some after) :
    Does before event after := by
  have still (number : Nat) (task : Task) (isTask : before.tasks number = some task) :
      TaskFrom before before.requester number task := .same isTask id
  cases event with
  | request request =>
    unfold hostNext at moves
    dsimp only at moves
    split at moves
    next listed =>
      cases moves
      refine .calm (calm_start fits _ _ ?_ (fun asked same => Option.some.inj same ▸ listed) ?_)
      · split
        next probe => exact .inr (not_rpc_of_probe probe)
        next => exact .inl rfl
      · intro outgoing sends
        split at sends <;> cases sends
    · contradiction
  | batch request =>
    unfold hostNext at moves
    dsimp only at moves
    split at moves
    next data =>
      cases moves
      refine .calm (calm_start fits _ _ (.inr (not_rpc_of_otaData data)) ?_ fun outgoing sends => by cases sends)
      intro asked same
      cases same
      exact listed_of_otaData data
    · contradiction
  | grant channel amount =>
    unfold hostNext at moves
    dsimp only at moves
    split at moves
    next ready =>
      cases moves
      refine .calm (calm_start fits _ _ (.inr rfl) (fun asked same => by cases same) ?_)
      intro outgoing sends
      cases sends
      exact ⟨ready, rfl, channel, amount, rfl⟩
    · contradiction
  | lock number =>
    unfold hostNext at moves
    dsimp only at moves
    split at moves
    next task is =>
      split at moves
      next free =>
        cases moves
        refine .calm (.of_tasks (.refl _) rfl rfl rfl fits ?_)
        intro other rest isRest
        by_cases here : other = number
        · simp only [HostState.setTask_tasks, if_pos here] at isRest
          cases isRest
          subst here
          exact .kept task is rfl rfl rfl (fun outgoing sends => by cases sends) fun _ => .inl rfl
        · simp only [HostState.setTask_tasks, if_neg here] at isRest
          refine .same isRest ?_
          intro holds
          rw [free.2] at holds
          contradiction
      · contradiction
    next => contradiction
  | begin number =>
    unfold hostNext at moves
    dsimp only at moves
    split at moves
    next task is =>
      split at moves
      next request readying asks =>
        split at moves
        next ready =>
          cases moves
          exact .begins number task request is readying asks ready.1 rfl
        · contradiction
      next => contradiction
    next => contradiction
  | turn sender => exact does_turn fits moves
  | written sender => exact .calm (calm_written fits moves)
  | failed sender raised => exact .calm (calm_failed fits moves)
  | finish number =>
    unfold hostNext at moves
    dsimp only at moves
    split at moves
    next task is =>
      split at moves
      · cases moves
        exact .calm (calm_drop fits number task)
      · contradiction
    next => contradiction
  | cancel number =>
    obtain ⟨task, is, rfl⟩ := Option.map_eq_some_iff.mp moves
    have dropped := calm_drop fits number task
    exact .calm (.of_tasks ⟨rfl, rfl, rfl, rfl, rfl, rfl⟩ rfl rfl rfl dropped.reader dropped.tasks)
  | frame frame nonce => exact does_frame hmac moves
  | perform raised => exact .calm (calm_perform fits moves)
  | close =>
    cases moves
    exact .calm (calm_close fits)

end EspIris.Gateway
