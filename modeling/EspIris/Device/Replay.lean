import EspIris.Device.ProtocolTask
import EspIris.Device.Services
import EspIris.Lib.Serial

/-! Replay protection in one session: the frames of a host that is authenticated, the requests
they put into the executor, and the calls of the application that come between. The last number
of each channel is kept by the runtime, the last request id by the record of the services. -/

namespace EspIris.Device
open Machine Serial

/-- Where the one request of the executor stands; `cleaning` is what the last session left. -/
inductive WorkSlot
  | idle
  | queued (frame : DecodedFrame)
  | done
  | cleaning
  deriving DecidableEq, Repr

def WorkSlot.busy : WorkSlot → Bool
  | .idle => false
  | _ => true

/-- The ghosts are the accepted sequence numbers of each channel, and the ids of the requests
that passed the replay check, for which a handler was looked up. -/
structure ReplayState where
  runtime : Runtime
  services : Option ServiceState
  slot : WorkSlot
  accepted : UInt8 → List UInt32
  executed : List UInt32

structure FrameInput where
  submitted : Bool
  allocated : Bool
  planned : Bool
  media : MediaInput

inductive ReplayEvent
  | frame (frame : DecodedFrame) (input : FrameInput)
  | run (created : Bool) (job : Option Nat)
  | drain
  | cleaned
  | rpcRegister (entry : RpcEntry) (allocated : Bool)
  | rpcUnregister (serviceId methodId : UInt16)
  | screenRegister (userCtx : Nat) (allocated : Bool)
  | screenUnregister (userCtx : Nat)
  | jobCreate (slot : Nat) (allocated : Bool)
  | mediaCall

def isRestart (header : WireHeader) : Bool := header.channel = Channel.control && header.type = ControlType.restart

def isRpc (header : WireHeader) : Bool := header.channel = Channel.control && header.type = ControlType.request

section replay
variable (limits : ServiceLimits) (otaEnabled : Bool)

/-- `handle_frame` behind its checks, as far as the record and the executor go. -/
def serveServices (state : ReplayState) (frame : DecodedFrame) (input : FrameInput) : ReplayState :=
  if ownControl frame.header ∨ frame.header.channel = Channel.crash then state
  else
    match dispatchPath otaEnabled state.slot.busy frame.header with
    | .reserve => if input.submitted then { state with slot := .queued frame } else state
    | .inline =>
      { state with
        services :=
          if isRestart frame.header then handleRestart limits state.services frame input.allocated input.planned
          else handleMedia limits state.slot.busy state.services frame input.media }
    | _ => state

/-- `handle_frame` for an authenticated host. A HELLO_ACK is not numbered, and changes nothing
unless it asks for a new session. -/
def takeFrame (state : ReplayState) (frame : DecodedFrame) (input : FrameInput) : ReplayState :=
  if isHelloAck frame.header ∨ staleSequence state.runtime frame.header then state
  else
    serveServices limits otaEnabled
      { state with
        runtime := noteSequence state.runtime frame.header
        accepted := fun channel =>
          if channel = frame.header.channel then state.accepted channel ++ [frame.header.sequence]
          else state.accepted channel } frame input

/-- The handlers that `executor_run_one` calls. Those of updates may create the record and a job. -/
def runRequest (state : ReplayState) (frame : DecodedFrame) (created : Bool) (job : Option Nat) : ReplayState :=
  if isRpc frame.header then
    match handleRpc limits state.services frame with
    | (services, .refused _) => { state with services := services, slot := .done }
    | (services, _) =>
      { state with services := services, slot := .done, executed := state.executed ++ [frame.header.requestId] }
  else if frame.header.channel = Channel.control then { state with slot := .done }
  else
    let services := if created then createState limits state.services true else state.services
    { state with
      services := services.map fun record =>
        { record with jobs := job.elim record.jobs fun slot => record.jobs.set slot true }
      slot := .done }

def ServiceState.endSession (record : ServiceState) : ServiceState :=
  { record with captureActive := false, media := record.media.map fun _ => ⟨false, false, false⟩ }.beginSession

def replayNext (state : ReplayState) : ReplayEvent → Option ReplayState
  | .frame frame input => some (takeFrame limits otaEnabled state frame input)
  | .run created job =>
    match state.slot with
    | .queued frame => some (runRequest limits state frame created job)
    | _ => none
  | .drain => if state.slot = .done then some { state with slot := .idle } else none
  | .cleaned =>
    if state.slot = .cleaning then
      some { state with services := state.services.map ServiceState.endSession, slot := .idle }
    else none
  | .rpcRegister entry allocated =>
    some { state with services := (rpcRegister limits state.services entry allocated).1 }
  | .rpcUnregister serviceId methodId =>
    some { state with services := (rpcUnregister state.slot.busy state.services serviceId methodId).1 }
  | .screenRegister userCtx allocated =>
    some { state with services := (screenRegister limits state.services userCtx allocated).1 }
  | .screenUnregister userCtx =>
    some { state with services := (screenUnregister state.slot.busy state.services userCtx).1 }
  | .jobCreate slot allocated => some { state with services := jobCreate limits state.services slot allocated }
  | .mediaCall => some { state with services := mediaCall state.slot.busy state.services }

/-- A session that has just begun. While the executor is busy its begin leaves the record alone,
and the cleanup resets it. -/
structure Begun (state : ReplayState) : Prop where
  unseen : state.runtime.rxSequenceSeen = fun _ => false
  accepted : state.accepted = fun _ => []
  executed : state.executed = []
  slot : state.slot = .idle ∧ (∀ record, state.services = some record → record.rpcRequestSeen = false) ∨
    state.slot = .cleaning

def replay : System ReplayState ReplayEvent := .ofPartial Begun (replayNext limits otaEnabled)

end replay

def lastHolder (state : ReplayState) : ReplayEvent → Bool
  | .frame frame _ =>
    match mediaIndex frame.header.channel with
    | none => false
    | some index =>
      frame.header.type = MediaType.mirrorStop && staleSequence state.runtime frame.header = false &&
        state.services.any fun record => !(setStream record index ⟨false, false, false⟩).held
  | .rpcUnregister serviceId methodId =>
    state.services.any fun record => (removeRpc record serviceId methodId).any fun rest => !rest.held
  | .screenUnregister userCtx =>
    state.services.any fun record =>
      (removeScreen record userCtx).2 = EspErr.ok && !(removeScreen record userCtx).1.held
  | .mediaCall => state.services.any fun record => !record.held
  | _ => false

def withinTurn (state : ReplayState) : ReplayEvent → Bool
  | .run _ _ =>
    match state.slot, state.services with
    | .queued frame, some record =>
      !isRpc frame.header || staleRequest record frame.header.requestId ||
        turn (state.executed ++ [frame.header.requestId]) < 2 ^ 32
    | _, _ => true
  | _ => true

/-- Once a request was executed, the record is not freed while the session lasts, and the ids of
the session stay within one turn of the counter. -/
structure KeepsMark (state : ReplayState) (event : ReplayEvent) : Prop where
  held : state.executed = [] ∨ state.slot.busy = true ∨ lastHolder state event = false
  turn : withinTurn state event = true

instance (state : ReplayState) (event : ReplayEvent) : Decidable (KeepsMark state event) :=
  decidable_of_iff
    ((state.executed = [] ∨ state.slot.busy = true ∨ lastHolder state event = false) ∧ withinTurn state event = true)
    ⟨fun ⟨held, turn⟩ => ⟨held, turn⟩, fun ⟨held, turn⟩ => ⟨held, turn⟩⟩

def SameMark (before after : Option ServiceState) : Prop :=
  ∀ record, before = some record → ∃ later, after = some later ∧ later.rpcRequestSeen = record.rpcRequestSeen ∧
    later.lastRpcRequestId = record.lastRpcRequestId

theorem SameMark.refl (services : Option ServiceState) : SameMark services services :=
  fun record isThat => ⟨record, isThat, rfl, rfl⟩

theorem SameMark.trans {first second third : Option ServiceState} (left : SameMark first second)
    (right : SameMark second third) : SameMark first third := by
  intro record isThat
  obtain ⟨middle, isMiddle, seen, last⟩ := left record isThat
  obtain ⟨later, isLater, seen', last'⟩ := right middle isMiddle
  exact ⟨later, isLater, seen'.trans seen, last'.trans last⟩

theorem SameMark.map {services : Option ServiceState} {change : ServiceState → ServiceState}
    (seen : ∀ record, (change record).rpcRequestSeen = record.rpcRequestSeen)
    (last : ∀ record, (change record).lastRpcRequestId = record.lastRpcRequestId) :
    SameMark services (services.map change) := by
  intro record isThat
  rw [isThat]
  exact ⟨change record, rfl, seen record, last record⟩

theorem SameMark.some {before after : ServiceState} (seen : after.rpcRequestSeen = before.rpcRequestSeen)
    (last : after.lastRpcRequestId = before.lastRpcRequestId) : SameMark (some before) (some after) := by
  rintro record same
  cases same
  exact ⟨after, rfl, seen, last⟩

theorem maybeReleaseState_kept {busy : Bool} {record : ServiceState} (kept : busy = true ∨ record.held = true) :
    maybeReleaseState busy record = some record := by
  unfold maybeReleaseState
  rw [if_pos (by simpa using kept)]

section marks
variable (limits : ServiceLimits)

theorem createState_mark (services : Option ServiceState) (allocated : Bool) :
    SameMark services (createState limits services allocated) := by
  rintro record rfl
  exact ⟨record, rfl, rfl, rfl⟩

theorem addRpc_mark (record : ServiceState) (entry : RpcEntry) : SameMark (some record) (some (addRpc record entry).1) := by
  unfold addRpc
  split
  · exact .refl _
  split
  · exact SameMark.some rfl rfl
  · exact .refl _

theorem rpcRegister_mark (services : Option ServiceState) (entry : RpcEntry) (allocated : Bool) :
    SameMark services (rpcRegister limits services entry allocated).1 := by
  have created := createState_mark limits services allocated
  unfold rpcRegister
  split
  · exact .refl _
  split
  next none =>
    rw [none] at created
    exact created
  next record isThat =>
    rw [isThat] at created
    exact created.trans (addRpc_mark record entry)

theorem removeRpc_mark {record rest : ServiceState} {serviceId methodId : UInt16}
    (removed : removeRpc record serviceId methodId = some rest) : SameMark (some record) (some rest) := by
  obtain ⟨slot, -, rfl⟩ := Option.map_eq_some_iff.mp removed
  exact SameMark.some rfl rfl

theorem rpcUnregister_mark {busy : Bool} {services : Option ServiceState} {serviceId methodId : UInt16}
    (kept : busy = true ∨
      (services.any fun record => (removeRpc record serviceId methodId).any fun rest => !rest.held) = false) :
    SameMark services (rpcUnregister busy services serviceId methodId).1 := by
  unfold rpcUnregister
  split
  · exact .refl _
  cases services with
  | none => exact .refl _
  | some record =>
    dsimp only
    split
    · exact .refl _
    next rest removed =>
      have mark := removeRpc_mark removed
      dsimp only
      rw [maybeReleaseState_kept]
      · exact mark
      · simpa [removed] using kept

theorem screenRegister_mark (services : Option ServiceState) (userCtx : Nat) (allocated : Bool) :
    SameMark services (screenRegister limits services userCtx allocated).1 := by
  have created := createState_mark limits services allocated
  unfold screenRegister
  split
  next none =>
    rw [none] at created
    exact created
  next record isThat =>
    rw [isThat] at created
    refine created.trans ?_
    unfold addScreen
    split
    · exact .refl _
    · exact SameMark.some rfl rfl

theorem screenUnregister_mark {busy : Bool} {services : Option ServiceState} {userCtx : Nat}
    (kept : busy = true ∨ (services.any fun record =>
      (removeScreen record userCtx).2 = EspErr.ok && !(removeScreen record userCtx).1.held) = false) :
    SameMark services (screenUnregister busy services userCtx).1 := by
  cases services with
  | none => exact .refl _
  | some record =>
    unfold screenUnregister
    dsimp only
    split
    next ok =>
      dsimp only
      rw [maybeReleaseState_kept (by simpa [ok] using kept)]
      unfold removeScreen
      split
      · exact .refl _
      · exact SameMark.some rfl rfl
    · exact .refl _

theorem jobCreate_mark (services : Option ServiceState) (slot : Nat) (allocated : Bool) :
    SameMark services (jobCreate limits services slot allocated) :=
  (createState_mark limits services allocated).trans (.map (fun _ => rfl) (fun _ => rfl))

theorem mediaCall_mark {busy : Bool} {services : Option ServiceState}
    (kept : busy = true ∨ (services.any fun record => !record.held) = false) :
    SameMark services (mediaCall busy services) := by
  rintro record rfl
  refine ⟨record, ?_, rfl, rfl⟩
  exact maybeReleaseState_kept (by simpa using kept)

theorem handleRestart_mark (services : Option ServiceState) (frame : DecodedFrame) (allocated planned : Bool) :
    SameMark services (handleRestart limits services frame allocated planned) := by
  unfold handleRestart
  split
  · exact .refl _
  · refine (createState_mark limits services allocated).trans (.map ?_ ?_) <;> intro record <;> split <;> rfl

theorem startMirror_mark (record : ServiceState) (index : Nat) (frame : DecodedFrame) (input : MediaInput) :
    (startMirror record index frame input).rpcRequestSeen = record.rpcRequestSeen ∧
      (startMirror record index frame input).lastRpcRequestId = record.lastRpcRequestId := by
  unfold startMirror
  dsimp only
  split
  · exact ⟨rfl, rfl⟩
  split
  · exact ⟨rfl, rfl⟩
  split
  · split <;> exact ⟨rfl, rfl⟩
  · exact ⟨rfl, rfl⟩

theorem handleMedia_mark {busy : Bool} {services : Option ServiceState} {frame : DecodedFrame} {input : MediaInput}
    (kept : ∀ index record, mediaIndex frame.header.channel = some index → frame.header.type = MediaType.mirrorStop →
      services = some record → busy = true ∨ (setStream record index ⟨false, false, false⟩).held = true) :
    SameMark services (handleMedia limits busy services frame input) := by
  unfold handleMedia
  dsimp only
  split
  · exact .refl _
  next index isIndex =>
    split
    · exact .refl _
    split
    · exact (createState_mark limits services input.allocated).trans
        (.map (fun record => (startMirror_mark record index frame input).1)
          (fun record => (startMirror_mark record index frame input).2))
    rintro record rfl
    dsimp only [Option.bind_some]
    split
    · split <;> exact ⟨_, rfl, rfl, rfl⟩
    split
    · exact ⟨_, rfl, rfl, rfl⟩
    split
    next stop => exact ⟨_, maybeReleaseState_kept (kept index record isIndex stop rfl), rfl, rfl⟩
    · exact ⟨_, rfl, rfl, rfl⟩

theorem handleRpc_cases (services : Option ServiceState) (frame : DecodedFrame) :
    (∃ code, handleRpc limits services frame = (services, .refused code)) ∨
      ∃ record outcome, services = some record ∧ staleRequest record frame.header.requestId = false ∧
        (∀ code, outcome ≠ .refused code) ∧ handleRpc limits services frame =
          (some { record with lastRpcRequestId := frame.header.requestId, rpcRequestSeen := true }, outcome) := by
  unfold handleRpc
  dsimp only
  split
  · exact .inl ⟨_, rfl⟩
  split
  · exact .inl ⟨_, rfl⟩
  next record =>
    split
    · exact .inl ⟨_, rfl⟩
    next passes =>
      right
      have fresh : staleRequest record frame.header.requestId = false := by
        simp only [not_or, Bool.not_eq_true] at passes
        exact passes.2
      split
      next used _ => exact ⟨record, .called used.handler, rfl, fresh, fun code same => (by cases same), rfl⟩
      next => exact ⟨record, .missing, rfl, fresh, fun code same => (by cases same), rfl⟩

end marks

structure Marked (state : ReplayState) : Prop where
  sequences : ∀ channel, Fresh (state.accepted channel)
  noted : ∀ channel last, (state.accepted channel).getLast? = some last →
    state.runtime.rxSequenceSeen channel = true ∧ state.runtime.rxSequence channel = last
  requests : Fresh state.executed
  mark : ∀ last, state.executed.getLast? = some last →
    ∃ record, state.services = some record ∧ record.rpcRequestSeen = true ∧ record.lastRpcRequestId = last
  cleaning : state.slot = .cleaning → state.executed = []
  within : turn state.executed < 2 ^ 32

theorem Begun.marked {state : ReplayState} (begun : Begun state) : Marked state := by
  obtain ⟨unseen, accepted, executed, slot⟩ := begun
  refine ⟨?_, ?_, ?_, ?_, fun _ => executed, ?_⟩
  · intro channel
    rw [accepted]
    exact .nil
  · intro channel last isLast
    rw [accepted] at isLast
    cases isLast
  · rw [executed]
    exact .nil
  · intro last isLast
    rw [executed] at isLast
    cases isLast
  · rw [executed]
    decide

/-- A step that leaves the numbers alone keeps the marks while it keeps the record. -/
theorem Marked.same {before : ReplayState} (marked : Marked before) {services : Option ServiceState} {slot : WorkSlot}
    (mark : before.executed = [] ∨ SameMark before.services services) (slots : slot ≠ .cleaning) :
    Marked { before with services := services, slot := slot } := by
  obtain ⟨sequences, noted, requests, marks, cleaning, within⟩ := marked
  refine ⟨sequences, noted, requests, ?_, fun isThat => absurd isThat slots, within⟩
  intro last isLast
  rcases mark with none | same
  · rw [none] at isLast
    cases isLast
  · obtain ⟨record, isRecord, seen, isMark⟩ := marks last isLast
    obtain ⟨later, isLater, seen', last'⟩ := same record isRecord
    exact ⟨later, isLater, seen'.trans seen, last'.trans isMark⟩

theorem stale_newer (runtime : Runtime) (header : WireHeader) (last : UInt32)
    (seen : runtime.rxSequenceSeen header.channel = true) (noted : runtime.rxSequence header.channel = last)
    (fresh : staleSequence runtime header = false) : newer last header.sequence = true := by
  unfold staleSequence at fresh
  rw [seen, noted, Bool.true_and] at fresh
  unfold newer
  rw [fresh]
  rfl

theorem Marked.numbered {state : ReplayState} (marked : Marked state) {header : WireHeader}
    (fresh : staleSequence state.runtime header = false) :
    Marked { state with
      runtime := noteSequence state.runtime header
      accepted := fun channel =>
        if channel = header.channel then state.accepted channel ++ [header.sequence] else state.accepted channel } := by
  obtain ⟨sequences, noted, requests, mark, cleaning, within⟩ := marked
  refine ⟨?_, ?_, requests, mark, cleaning, within⟩
  · intro channel
    dsimp only
    split
    next same =>
      subst same
      refine fresh_snoc.mpr ⟨sequences header.channel, ?_⟩
      intro last isLast
      obtain ⟨seen, isNoted⟩ := noted header.channel last isLast
      exact stale_newer state.runtime header last seen isNoted fresh
    · exact sequences channel
  · intro channel last isLast
    dsimp only at isLast
    simp only [noteSequence]
    split at isLast
    next same =>
      rw [List.getLast?_concat] at isLast
      cases isLast
      simp [same]
    next other =>
      obtain ⟨seen, isNoted⟩ := noted channel last isLast
      simp [other, seen, isNoted]

section steps
variable (limits : ServiceLimits) (otaEnabled : Bool)

/-- A busy executor leaves no frame to the handlers of the protocol task but a query. -/
theorem dispatchPath_busy (header : WireHeader) : dispatchPath otaEnabled true header ≠ .inline := by
  unfold dispatchPath
  dsimp only
  split
  · simp
  rw [if_pos rfl]
  split
  · simp
  split
  · simp
  split
  · simp
  split
  · simp
  split <;> simp

theorem serveServices_marked {state : ReplayState} {frame : DecodedFrame} {input : FrameInput} (marked : Marked state)
    (kept : state.executed = [] ∨ ∀ index record, mediaIndex frame.header.channel = some index →
      frame.header.type = MediaType.mirrorStop → state.services = some record →
        state.slot.busy = true ∨ (setStream record index ⟨false, false, false⟩).held = true) :
    Marked (serveServices limits otaEnabled state frame input) := by
  unfold serveServices
  split
  · exact marked
  split
  next =>
    split
    · exact marked.same (.inr (.refl _)) (fun same => (by cases same))
    · exact marked
  next path =>
    have slots : state.slot ≠ .cleaning := by
      intro cleaning
      rw [cleaning] at path
      exact dispatchPath_busy otaEnabled frame.header path
    refine marked.same ?_ slots
    rcases kept with none | kept
    · exact .inl none
    right
    split
    · exact handleRestart_mark limits _ _ _ _
    · exact handleMedia_mark limits kept
  next => exact marked

theorem takeFrame_marked {state : ReplayState} {frame : DecodedFrame} {input : FrameInput} (marked : Marked state)
    (keeps : KeepsMark state (.frame frame input)) : Marked (takeFrame limits otaEnabled state frame input) := by
  unfold takeFrame
  split
  · exact marked
  next numbered =>
    simp only [not_or, Bool.not_eq_true] at numbered
    refine serveServices_marked limits otaEnabled (marked.numbered numbered.2) ?_
    rcases keeps.held with none | busy | holder
    · exact .inl none
    · exact .inr fun _ _ _ _ _ => .inl busy
    · right
      intro index record isIndex stop isRecord
      dsimp only at isRecord
      right
      simpa [lastHolder, isIndex, stop, numbered.2, isRecord] using holder

/-- A request that passes the check goes on with the ids of the session. -/
theorem runRequest_marked {state : ReplayState} {frame : DecodedFrame} {created : Bool} {job : Option Nat}
    (marked : Marked state) (slot : state.slot = .queued frame) (keeps : KeepsMark state (.run created job)) :
    Marked (runRequest limits state frame created job) := by
  have done : WorkSlot.done ≠ .cleaning := fun same => (by cases same)
  unfold runRequest
  split
  next rpc =>
    rcases handleRpc_cases limits state.services frame with
      ⟨code, refused⟩ | ⟨record, outcome, isRecord, fresh, accepted, moved⟩
    · rw [refused]
      exact marked.same (.inr (.refl _)) done
    · rw [moved]
      have turned : turn (state.executed ++ [frame.header.requestId]) < 2 ^ 32 := by
        simpa [withinTurn, slot, isRecord, fresh, rpc] using keeps.turn
      obtain ⟨sequences, noted, requests, mark, cleaning, within⟩ := marked
      have after : Marked { state with
          services := some { record with lastRpcRequestId := frame.header.requestId, rpcRequestSeen := true }
          slot := .done
          executed := state.executed ++ [frame.header.requestId] } := by
        refine ⟨sequences, noted, ?_, ?_, fun isThat => absurd isThat done, turned⟩
        · refine fresh_snoc.mpr ⟨requests, ?_⟩
          intro last isLast
          obtain ⟨marking, isMarking, seen, isMark⟩ := mark last isLast
          rw [isRecord] at isMarking
          cases isMarking
          unfold staleRequest at fresh
          rw [seen, isMark, Bool.true_and] at fresh
          unfold newer
          rw [fresh]
          rfl
        · intro last isLast
          rw [List.getLast?_concat] at isLast
          cases isLast
          exact ⟨_, rfl, rfl, rfl⟩
      cases outcome with
      | refused code => exact absurd rfl (accepted code)
      | missing => exact after
      | called handler => exact after
  split
  · exact marked.same (.inr (.refl _)) done
  · have made : SameMark state.services (if created then createState limits state.services true else state.services) := by
      split
      · exact createState_mark limits state.services true
      · exact .refl _
    exact marked.same (.inr (made.trans (.map (fun _ => rfl) (fun _ => rfl)))) done

theorem replayNext_marked {state after : ReplayState} {event : ReplayEvent} (marked : Marked state)
    (keeps : KeepsMark state event) (step : replayNext limits otaEnabled state event = some after) : Marked after := by
  have same {services : Option ServiceState} (mark : state.executed = [] ∨ SameMark state.services services) :
      Marked { state with services := services } := by
    by_cases cleaning : state.slot = .cleaning
    · obtain ⟨sequences, noted, requests, marks, none, within⟩ := marked
      refine ⟨sequences, noted, requests, ?_, none, within⟩
      intro last isLast
      dsimp only at isLast
      rw [none cleaning] at isLast
      cases isLast
    · exact marked.same mark cleaning
  have held (mark : state.slot.busy = true ∨ lastHolder state event = false → SameMark state.services after.services) :
      state.executed = [] ∨ SameMark state.services after.services := keeps.held.imp_right mark
  cases event with
  | frame frame input =>
    cases step
    exact takeFrame_marked limits otaEnabled marked keeps
  | run created job =>
    simp only [replayNext] at step
    split at step
    next frame slot =>
      cases step
      exact runRequest_marked limits marked slot keeps
    · contradiction
  | drain =>
    simp only [replayNext] at step
    split at step
    · cases step
      exact marked.same (.inr (.refl _)) (fun same => (by cases same))
    · contradiction
  | cleaned =>
    simp only [replayNext] at step
    split at step
    next cleaning =>
      cases step
      exact marked.same (.inl (marked.cleaning cleaning)) (fun same => (by cases same))
    · contradiction
  | rpcRegister entry allocated =>
    cases step
    exact same (.inr (rpcRegister_mark limits _ _ _))
  | rpcUnregister serviceId methodId =>
    cases step
    exact same (held rpcUnregister_mark)
  | screenRegister userCtx allocated =>
    cases step
    exact same (.inr (screenRegister_mark limits _ _ _))
  | screenUnregister userCtx =>
    cases step
    exact same (held screenUnregister_mark)
  | jobCreate slot allocated =>
    cases step
    exact same (.inr (jobCreate_mark limits _ _ _))
  | mediaCall =>
    cases step
    exact same (held mediaCall_mark)

theorem replay_marked : Invariant ((replay limits otaEnabled).guarded KeepsMark) Marked where
  start := fun _ begun => begun.marked
  step := fun _ _ _ marked moves => replayNext_marked limits otaEnabled marked moves.1 moves.2

end steps

structure ReplaySafe (state : ReplayState) : Prop where
  sequences : ∀ channel, Unrolls (state.accepted channel)
  requests : Unrolls state.executed
  once : state.executed.Nodup

/-- In a session that keeps its record no number is accepted and no request executed out of order,
and no request twice. -/
theorem replay_safe (limits : ServiceLimits) (otaEnabled : Bool) (state : ReplayState)
    (reached : Reachable ((replay limits otaEnabled).guarded KeepsMark) state) : ReplaySafe state := by
  have marked := (replay_marked limits otaEnabled).reachable reached
  exact ⟨fun channel => (marked.sequences channel).unrolls, marked.requests.unrolls,
    marked.requests.nodup marked.within⟩

def ReplayState.initial : ReplayState := ⟨.zero, none, .idle, fun _ => [], []⟩

theorem ReplayState.initial_begun : Begun .initial :=
  ⟨rfl, rfl, rfl, .inl ⟨rfl, fun _ none => (by cases none)⟩⟩

def defaultLimits : ServiceLimits := ⟨8, 4, 1024⟩

def rpcFrame (sequence requestId : UInt32) : DecodedFrame :=
  ⟨⟨Channel.control, ControlType.request, 0, 7, requestId, 0, sequence, 12⟩, [1, 0, 1, 0, 0, 0, 0, 0, 0, 0, 0, 0]⟩

def executeRpc (sequence requestId : UInt32) : List ReplayEvent :=
  [.frame (rpcFrame sequence requestId) ⟨true, true, true, ⟨true, true, true⟩⟩, .run false none, .drain]

/-- The second request comes twice. -/
def repeatedRequest : List ReplayEvent :=
  [.rpcRegister ⟨1, 1, 0⟩ true] ++ executeRpc 1 1 ++ executeRpc 2 2 ++ executeRpc 3 2

def eachOnce (state : ReplayState) : Bool := state.executed = [1, 2]

theorem replay_safe_two_requests :
    ∃ state, Reachable ((replay defaultLimits true).guarded KeepsMark) state ∧ state.executed = [1, 2] ∧
      ReplaySafe state := by
  obtain ⟨state, run, once⟩ : ∃ state, Run ((replay defaultLimits true).guarded KeepsMark) .initial repeatedRequest
      state ∧ eachOnce state = true := Run.of_guarded_check (by decide +kernel)
  have reached : Reachable ((replay defaultLimits true).guarded KeepsMark) state :=
    ⟨_, repeatedRequest, ReplayState.initial_begun, run⟩
  exact ⟨state, reached, of_decide_eq_true once, replay_safe defaultLimits true state reached⟩

def forgottenRequest : List ReplayEvent :=
  [.rpcRegister ⟨1, 1, 0⟩ true] ++ executeRpc 1 1 ++ [.rpcUnregister 1 1, .rpcRegister ⟨1, 1, 0⟩ true] ++ executeRpc 2 1

def executedAgain (state : ReplayState) : Bool := state.executed = [1, 1]

/-- The application unregisters its only method and registers it again: the record is freed in
mid-session, the last request id with it, and the same request is executed a second time. -/
theorem request_executed_again :
    ∃ state, Reachable (replay defaultLimits true) state ∧ ¬ ReplaySafe state ∧ ¬ Unrolls state.executed ∧
      state.executed = [1, 1] := by
  obtain ⟨state, run, isAgain⟩ : ∃ state, Run (replay defaultLimits true) .initial forgottenRequest state ∧
      executedAgain state = true := Run.of_check (by decide +kernel)
  have executed : state.executed = [1, 1] := of_decide_eq_true isAgain
  refine ⟨state, ⟨_, forgottenRequest, ReplayState.initial_begun, run⟩, ?_, ?_, executed⟩
  · intro safe
    have once := safe.once
    rw [executed] at once
    exact absurd once (by decide)
  · rw [executed]
    rintro ⟨counters, steps, same⟩
    have two : counters.length = 2 := by
      rw [← List.length_map, ← same]
      rfl
    obtain ⟨first, second, rfl⟩ := List.length_eq_two.mp two
    obtain ⟨ahead, near⟩ := (List.isChain_cons_cons.mp steps).1
    have newer := newer_ofNat ahead near
    simp only [List.map_cons, List.map_nil, List.cons.injEq, and_true] at same
    rw [← same.1, ← same.2] at newer
    exact absurd newer (by decide)

end EspIris.Device
