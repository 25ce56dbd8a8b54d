import EspIris.Device.HandleBalance

/-! The balance over whole runs of the services. Between the two parts of OTA END the transfer is still
active with its handles released, which is where `decided` stands. -/

namespace EspIris.Device.Jobs
open Codec.Device Bytes Machine

def Progress.decided : Progress → Bool
  | .otaDecided _ => true
  | _ => false

def WorkPoint.decided : WorkPoint → Bool
  | .continuing _ progress => progress.decided
  | _ => false

def Progress.Stands (progress : Progress) (services : Services) : Prop :=
  match progress with
  | .commitEntered => receives services = false
  | _ => True

def WorkPoint.Stands (point : WorkPoint) (services : Services) : Prop :=
  match point with
  | .continuing _ progress => progress.Stands services
  | _ => True

structure WorldBalanced (recorded : ServiceWorld × List HandleCall) : Prop where
  hash : Bracket.ledger (hashUse .ota) false recorded.2 =
    some (transfers recorded.1.point.decided recorded.1.services)
  handle : Bracket.ledger otaUse false recorded.2 = some (transfers recorded.1.point.decided recorded.1.services)
  update : Bracket.ledger (hashUse .update) false recorded.2 = some (receives recorded.1.services)
  kept : HashKept recorded.1.point.decided recorded.1.services
  stands : recorded.1.point.Stands recorded.1.services
  alone : recorded.1.worker = false → recorded.1.point = .resting ∧ recorded.1.stage = .idle

def FinishesOta (services : Services) (frame : DecodedFrame) (answers : OtaAnswers) : Prop :=
  frame.header.type = OtaType.finish → services.ota.active = true →
    services.ota.received = services.ota.totalSize ∧ answers.hashFinished = true

def FinishesDigest (world : ServiceWorld) : ServiceEvent → Prop
  | .work answers =>
    match world.point with
    | .handling frame =>
      if frame.header.channel = Channel.control then True
      else if frame.header.channel = Channel.systemUpdate then FinishesUpdate frame answers.backend
      else FinishesOta world.services frame answers.ota
    | _ => True
  | _ => True

/-- The calls on one handle are in order: nothing is used or closed that is not open, and between two
openings there is one closing. -/
structure InOrder (use : HandleCall → Option Bracket.Use) (calls : List HandleCall) : Prop where
  ordered : ∃ held, Bracket.ledger use false calls = some held
  once : ∀ before between rest first next, calls = before ++ first :: (between ++ next :: rest) →
    use first = some .opens → use next = some .opens ∨ use next = some .attempts →
      Bracket.count use .opens between = 0 → Bracket.count use .closes between = 1

structure CallsInOrder (calls : List HandleCall) : Prop where
  otaHash : InOrder (hashUse .ota) calls
  updateHash : InOrder (hashUse .update) calls
  otaHandle : InOrder otaUse calls

theorem InOrder.of_ledger {use : HandleCall → Option Bracket.Use} {calls : List HandleCall} {held : Bool}
    (ordered : Bracket.ledger use false calls = some held) : InOrder use calls where
  ordered := ⟨held, ordered⟩
  once := by
    intro before between rest first next split opened again alone
    subst split
    exact Bracket.one_close ordered opened again alone

section requests
variable {sha256 : List UInt8 → List UInt8} {config : ServiceConfig} {services : Services}

section frame
variable (frame : DecodedFrame)
include frame

theorem handleOta_balance (answers : OtaAnswers) (kept : HashKept false services)
    (finishes : FinishesOta services frame answers) :
    Balance false services (handleOtaCalls sha256 config services frame answers)
      (handleOta sha256 config services frame answers).2.decided (handleOta sha256 config services frame answers).1 := by
  unfold handleOtaCalls handleOta
  dsimp only
  split
  next => exact .same kept rfl rfl
  split
  next => exact otaBegin_balance config frame answers kept
  split
  next => exact .same kept rfl rfl
  next inactive =>
    have active := Bool.of_not_eq_false inactive
    split
    next =>
      have marked : Balance false services [] false
          { services with table := markThrough services.table services.ota.job } := .same kept rfl rfl
      exact marked.trans (otaAbort_balance marked.kept EspErr.invalidState)
    split
    next => exact otaData_balance config frame answers kept active
    split
    next ends =>
      obtain ⟨complete, finished⟩ := finishes ends active
      exact otaEnd_balance sha256 answers kept active complete finished rfl rfl
    next => exact .same kept rfl rfl

theorem handleOta_stands (answers : OtaAnswers) :
    (handleOta sha256 config services frame answers).2.Stands (handleOta sha256 config services frame answers).1 := by
  unfold handleOta
  dsimp only
  split
  next => trivial
  split
  next => trivial
  split
  next => trivial
  split
  next => trivial
  split
  next => trivial
  next => split <;> trivial

theorem handleBegin_stands (answers : BackendAnswers) :
    (handleBegin sha256 config services frame answers).2.decided = false ∧
      (handleBegin sha256 config services frame answers).2.Stands (handleBegin sha256 config services frame answers).1 := by
  unfold handleBegin
  dsimp only
  split
  next => exact ⟨rfl, trivial⟩
  split
  next => split <;> exact ⟨rfl, trivial⟩
  next => split <;> exact ⟨rfl, trivial⟩

theorem handleCommit_stands :
    (handleCommit services frame).2.decided = false ∧
      (handleCommit services frame).2.Stands (handleCommit services frame).1 := by
  unfold handleCommit
  dsimp only
  split
  next => exact ⟨rfl, trivial⟩
  next => exact ⟨rfl, rfl⟩

theorem handleUpdate_stands (answers : BackendAnswers) :
    (handleUpdate sha256 config services frame answers).2.decided = false ∧
      (handleUpdate sha256 config services frame answers).2.Stands
        (handleUpdate sha256 config services frame answers).1 := by
  unfold handleUpdate
  dsimp only
  split
  next => exact ⟨rfl, trivial⟩
  split
  next => exact handleBegin_stands frame answers
  split
  next => exact ⟨rfl, trivial⟩
  split
  next => exact ⟨rfl, trivial⟩
  split
  next => exact ⟨rfl, trivial⟩
  split
  next => exact handleCommit_stands frame
  next => split <;> exact ⟨rfl, trivial⟩

theorem handleRequest_balance (answers : WorkAnswers) (kept : HashKept false services)
    (finishes : if frame.header.channel = Channel.control then True
      else if frame.header.channel = Channel.systemUpdate then FinishesUpdate frame answers.backend
      else FinishesOta services frame answers.ota) :
    Balance false services (requestCalls sha256 config services frame answers)
        (handleRequest sha256 config services frame answers).2.decided
        (handleRequest sha256 config services frame answers).1 ∧
      (handleRequest sha256 config services frame answers).2.Stands
        (handleRequest sha256 config services frame answers).1 := by
  unfold requestCalls handleRequest
  by_cases control : frame.header.channel = Channel.control
  · rw [if_pos control, if_pos control]
    split
    next => exact ⟨.same kept rfl rfl, trivial⟩
    next => exact ⟨handleJobCancel_balance frame answers.finishing kept, trivial⟩
  · rw [if_neg control, if_neg control]
    rw [if_neg control] at finishes
    by_cases update : frame.header.channel = Channel.systemUpdate
    · rw [if_pos update, if_pos update]
      rw [if_pos update] at finishes
      split
      next => exact ⟨.same kept rfl rfl, trivial⟩
      obtain ⟨undecided, stands⟩ := @handleUpdate_stands sha256 config services frame answers.backend
      rw [undecided]
      exact ⟨handleUpdate_balance sha256 config frame answers.backend kept finishes, stands⟩
    · rw [if_neg update, if_neg update]
      rw [if_neg update] at finishes
      split
      next => exact ⟨handleOta_balance frame answers.ota kept finishes, handleOta_stands frame answers.ota⟩
      next => exact ⟨.same kept rfl rfl, trivial⟩

theorem continueRequest_balance (progress : Progress) (answers : WorkAnswers)
    (kept : HashKept progress.decided services) (stands : progress.Stands services) :
    Balance progress.decided services (continueCalls services progress)
        (continueRequest config services frame progress answers).2.decided
        (continueRequest config services frame progress answers).1 ∧
      (continueRequest config services frame progress answers).2.Stands
        (continueRequest config services frame progress answers).1 := by
  cases progress with
  | answered reply => exact ⟨.same kept rfl rfl, trivial⟩
  | otaDecided result =>
    have closed : transfers true services = false := by rw [transfers, Bool.not_true, Bool.and_false]
    have hashed : services.ota.hashActive = false := kept.ota.trans closed
    have silent : continueCalls services (.otaDecided result) = [] := if_neg (Bool.eq_false_iff.mp hashed)
    rw [silent]
    refine ⟨⟨?_, ?_, rfl, rfl, kept.update⟩, trivial⟩
    · exact congrArg some closed
    · exact congrArg some closed
  | updatePrepared => exact ⟨beginJob_balance config frame kept, trivial⟩
  | commitEntered => exact ⟨commitDecide_balance answers.backend kept stands, trivial⟩
  | commitDecided err => exact ⟨.same kept rfl rfl, trivial⟩

end frame

end requests

section steps
variable {sha256 : List UInt8 → List UInt8} {config : ServiceConfig} {world after : ServiceWorld} {calls more : List HandleCall}

theorem WorldBalanced.moved (balanced : WorldBalanced (world, calls))
    (balance : Balance world.point.decided world.services more after.point.decided after.services)
    (stands : after.point.Stands after.services)
    (alone : after.worker = false → after.point = .resting ∧ after.stage = .idle) :
    WorldBalanced (after, calls ++ more) where
  hash := by rw [Bracket.ledger_append, balanced.hash, Option.bind_some, balance.hash]
  handle := by rw [Bracket.ledger_append, balanced.handle, Option.bind_some, balance.handle]
  update := by rw [Bracket.ledger_append, balanced.update, Option.bind_some, balance.update]
  kept := balance.kept
  stands := stands
  alone := alone

theorem WorldBalanced.flagged (balanced : WorldBalanced (world, calls)) (ota : after.services.ota = world.services.ota)
    (update : after.services.update = world.services.update) (point : after.point = world.point)
    (worker : after.worker = false → world.worker = false ∧ (world.stage = .idle → after.stage = .idle)) :
    WorldBalanced (after, calls ++ []) := by
  refine balanced.moved ?_ ?_ fun alone => ?_
  · rw [point]
    exact .same balanced.kept ota update
  · have stands := balanced.stands
    rw [point]
    unfold WorkPoint.Stands at stands ⊢
    split
    next frame progress here =>
      rw [here] at stands
      unfold Progress.Stands at stands ⊢
      split
      next => rwa [receives, update]
      next => trivial
    next => trivial
  · obtain ⟨before, idle⟩ := worker alone
    obtain ⟨resting, was⟩ := balanced.alone before
    exact ⟨point.trans resting, idle was⟩

theorem afterPart_stands (world : ServiceWorld) (frame : DecodedFrame) (done : Services × Progress)
    (stands : done.2.Stands done.1) :
    (afterPart world frame done).services = done.1 ∧ (afterPart world frame done).point.decided = done.2.decided ∧
      (afterPart world frame done).point.Stands done.1 ∧ (afterPart world frame done).worker = world.worker := by
  obtain ⟨services, progress⟩ := done
  cases progress with
  | answered reply => exact ⟨rfl, rfl, trivial, rfl⟩
  | _ => exact ⟨rfl, rfl, stands, rfl⟩

theorem WorldBalanced.parted (balanced : WorldBalanced (world, calls)) (busy : world.point ≠ .resting)
    {frame : DecodedFrame} {done : Services × Progress}
    (balance : Balance world.point.decided world.services more done.2.decided done.1) (stands : done.2.Stands done.1)
    (services : after.services = (afterPart world frame done).services)
    (point : after.point = (afterPart world frame done).point)
    (worker : after.worker = (afterPart world frame done).worker) : WorldBalanced (after, calls ++ more) := by
  obtain ⟨left, decided, standing, still⟩ := afterPart_stands world frame done stands
  refine balanced.moved ?_ ?_ fun alone => ?_
  · rw [services, point, left, decided]
    exact balance
  · rw [services, point, left]
    exact standing
  · rw [worker, still] at alone
    exact absurd (balanced.alone alone).1 busy

theorem workStep_balanced {answers : WorkAnswers} (balanced : WorldBalanced (world, calls))
    (finishes : FinishesDigest world (.work answers)) (step : workStep sha256 config world answers = some after) :
    WorldBalanced (after, calls ++ eventCalls sha256 config world (.work answers)) := by
  unfold workStep at step
  unfold FinishesDigest at finishes
  unfold eventCalls
  have kept := balanced.kept
  have stands := balanced.stands
  dsimp only at step finishes kept stands ⊢
  cases here : world.point with
  | resting =>
    rw [here] at step
    cases step
  | settling cleaned =>
    rw [here] at step
    cases step
  | handling frame =>
    rw [here] at step finishes kept
    obtain ⟨balance, standing⟩ := @handleRequest_balance sha256 config world.services frame answers kept finishes
    have busy : world.point ≠ .resting := by
      rw [here]
      exact WorkPoint.noConfusion
    have decided : world.point.decided = false := by rw [here]; rfl
    rw [← decided] at balance
    cases step
    exact balanced.parted busy balance standing rfl rfl rfl
  | continuing frame progress =>
    rw [here] at step kept stands
    obtain ⟨balance, standing⟩ := @continueRequest_balance config world.services frame progress answers kept stands
    have busy : world.point ≠ .resting := by
      rw [here]
      exact WorkPoint.noConfusion
    have decided : world.point.decided = progress.decided := by rw [here]; rfl
    rw [← decided] at balance
    cases step
    exact balanced.parted busy balance standing rfl rfl rfl

theorem settleCalls_nil {services : Services} (finishing : Nat → Option EspErr) (kept : services.abandoned = false)
    (ota : services.otaCancel = false) (unpending : pendingSlot services.table = none)
    (update : services.updateCancel = false) : settleCalls services finishing = [] := by
  have unserved : serveCancelCalls (taken services) = [] := by
    rw [serveCancelCalls, show pendingSlot (taken services).table = none from unpending]
    rfl
  rw [settleCalls, unserved, update, ota, kept]
  rfl

section balanced
variable (balanced : WorldBalanced (world, calls))
include balanced

theorem settleStep_balanced {finishing : Nat → Option EspErr} (step : settleStep world finishing = some after) :
    WorldBalanced (after, calls ++ eventCalls sha256 config world (.settle finishing)) := by
  unfold settleStep at step
  unfold eventCalls
  have kept := balanced.kept
  dsimp only at step kept ⊢
  cases here : world.point with
  | resting =>
    rw [here] at step
    cases step
  | handling frame =>
    rw [here] at step
    cases step
  | continuing frame progress =>
    rw [here] at step
    cases step
  | settling cleaned =>
    rw [here] at step kept
    have busy : world.point ≠ .resting := by
      rw [here]
      exact WorkPoint.noConfusion
    have decided : world.point.decided = false := by rw [here]; rfl
    dsimp only at step ⊢
    split at step
    next none =>
      obtain ⟨live, ota, unpending, update⟩ := none
      rw [settleCalls_nil finishing live ota unpending update]
      cases step
      refine balanced.moved ?_ trivial fun alone => absurd (balanced.alone alone).1 busy
      rw [decided]
      exact .same kept rfl rfl
    cases step
    refine balanced.moved ?_ trivial fun alone => absurd (balanced.alone alone).1 busy
    rw [decided]
    exact settleServices_balance finishing kept

theorem dispatchStep_balanced {frame : DecodedFrame} {ensured : Bool}
    (step : dispatchStep config world frame ensured = some after) : WorldBalanced (after, calls ++ []) := by
  unfold dispatchStep at step
  split at step
  next => contradiction
  split at step
  next =>
    dsimp only at step
    split at step
    next =>
      cases step
      exact balanced.flagged rfl rfl rfl fun alone => Bool.noConfusion alone
    cases step
    exact balanced.flagged rfl rfl rfl fun alone => ⟨alone, id⟩
  next =>
    cases step
    exact balanced.flagged rfl rfl rfl fun alone => ⟨alone, id⟩
  next =>
    cases step
    exact balanced.flagged rfl rfl rfl fun alone => ⟨alone, id⟩
  cases step
  exact balanced.flagged rfl rfl rfl fun alone => ⟨alone, id⟩

theorem claim_balanced (step : serviceStep sha256 config world .claim = some after) :
    WorldBalanced (after, calls ++ []) := by
  have kept := balanced.kept
  unfold serviceStep at step
  dsimp only at step kept
  split at step
  next frame here queued _ =>
    rw [here] at kept
    have started : ∀ isOver : Bool, (if isOver = true then WorkPoint.settling false else .handling frame).decided = false ∧
        (if isOver = true then WorkPoint.settling false else .handling frame).Stands world.services := by
      intro isOver
      cases isOver <;> exact ⟨rfl, trivial⟩
    have decided : world.point.decided = false := by rw [here]; rfl
    have worker : world.worker = true := by
      by_contra none
      rw [(balanced.alone (Bool.eq_false_of_not_eq_true none)).2] at queued
      contradiction
    cases step
    obtain ⟨undecided, stands⟩ := started world.services.abandoned
    refine balanced.moved ?_ stands fun alone => absurd (worker.symm.trans alone) Bool.noConfusion
    rw [undecided, decided]
    exact .same kept rfl rfl
  next => contradiction

theorem sessionEndStep_balanced {finishing : Nat → Option EspErr} :
    WorldBalanced (sessionEndStep world finishing,
      calls ++ if world.worker = false then sessionEndCalls world.services finishing else []) := by
  unfold sessionEndStep
  by_cases none : world.worker = false
  · rw [if_pos none, if_pos none]
    have here : world.point = .resting := (balanced.alone none).1
    have decided : world.point.decided = false := by rw [here]; rfl
    have kept : HashKept world.point.decided world.services := balanced.kept
    rw [decided] at kept
    refine balanced.moved ?_ ?_ balanced.alone
    · show Balance world.point.decided _ _ world.point.decided _
      rw [decided]
      exact sessionEndNow_balance finishing kept
    · show world.point.Stands _
      rw [here]
      trivial
  · rw [if_neg none, if_neg none]
    exact balanced.flagged rfl rfl rfl fun alone => absurd alone none

theorem serviceStep_balanced {event : ServiceEvent} (finishes : FinishesDigest world event)
    (step : serviceStep sha256 config world event = some after) :
    WorldBalanced (after, calls ++ eventCalls sha256 config world event) := by
  cases event with
  | appCreate kind userCtx =>
    unfold serviceStep at step
    dsimp only at step
    split at step
    next =>
      cases step
      exact balanced.flagged rfl rfl rfl fun alone => ⟨alone, id⟩
    cases step
    exact balanced.flagged rfl rfl rfl fun alone => ⟨alone, id⟩
  | appUpdate handle progress =>
    rw [serviceStep, Option.ite_none_right_eq_some] at step
    obtain ⟨_, step⟩ := step
    cases step
    exact balanced.flagged rfl rfl rfl fun alone => ⟨alone, id⟩
  | appFinish handle result =>
    rw [serviceStep, Option.ite_none_right_eq_some] at step
    obtain ⟨_, step⟩ := step
    cases step
    exact balanced.flagged rfl rfl rfl fun alone => ⟨alone, id⟩
  | dispatch frame ensured => exact dispatchStep_balanced balanced step
  | answerBusy =>
    unfold serviceStep answerBusy at step
    obtain ⟨frame, _, rfl⟩ := Option.map_eq_some_iff.mp step
    obtain ⟨ota, update, _⟩ := @busyAnswer_shape config world frame
    exact balanced.flagged ota update rfl fun alone => ⟨alone, id⟩
  | claim => exact claim_balanced balanced step
  | work answers => exact workStep_balanced balanced finishes step
  | settle finishing => exact settleStep_balanced balanced step
  | drain =>
    rw [serviceStep, Option.ite_none_right_eq_some] at step
    obtain ⟨_, step⟩ := step
    cases step
    exact balanced.flagged rfl rfl rfl fun alone => ⟨alone, fun _ => rfl⟩
  | reap =>
    rw [serviceStep, Option.ite_none_right_eq_some] at step
    obtain ⟨⟨idle, here⟩, step⟩ := step
    cases step
    have kept : HashKept world.point.decided world.services := balanced.kept
    exact balanced.moved (.same kept rfl rfl) balanced.stands fun _ => ⟨here, idle⟩
  | sessionEnd finishing =>
    rw [serviceStep, Option.ite_none_right_eq_some] at step
    obtain ⟨_, step⟩ := step
    cases step
    exact sessionEndStep_balanced balanced

end balanced

end steps

section runs
variable {sha256 : List UInt8 → List UInt8} {config : ServiceConfig}

theorem WorldBalanced.initial (backendRegistered : Bool) : WorldBalanced (.initial config backendRegistered, []) where
  hash := rfl
  handle := rfl
  update := rfl
  kept := ⟨rfl, rfl⟩
  stands := trivial
  alone := fun _ => ⟨rfl, rfl⟩

theorem worldBalanced_invariant : Invariant
    ((handleSystem sha256 config).guarded fun recorded event => FinishesDigest recorded.1 event) WorldBalanced where
  start := by
    rintro ⟨world, calls⟩ ⟨⟨backendRegistered, started⟩, empty⟩
    cases started
    cases empty
    exact .initial backendRegistered
  step := by
    rintro ⟨world, calls⟩ event ⟨after, more⟩ balanced ⟨finishes, step, noted⟩
    cases noted
    exact serviceStep_balanced balanced finishes step

/-- Where every transfer that is ended has been received whole, and a digest that is to be finished can be,
each hash operation and each OTA handle is opened, used and closed in turn. -/
theorem hash_and_flash_handles_balanced {recorded : ServiceWorld × List HandleCall}
    (reached : Reachable ((handleSystem sha256 config).guarded fun before event => FinishesDigest before.1 event) recorded) :
    CallsInOrder recorded.2 := by
  have balanced := worldBalanced_invariant.reachable reached
  exact ⟨.of_ledger balanced.hash, .of_ledger balanced.update, .of_ledger balanced.handle⟩

end runs

instance (services : Services) (frame : DecodedFrame) (answers : OtaAnswers) :
    Decidable (FinishesOta services frame answers) := by
  unfold FinishesOta
  infer_instance

instance (frame : DecodedFrame) (answers : BackendAnswers) : Decidable (FinishesUpdate frame answers) := by
  unfold FinishesUpdate
  infer_instance

instance (world : ServiceWorld) (event : ServiceEvent) : Decidable (FinishesDigest world event) := by
  unfold FinishesDigest
  repeat' (first | infer_instance | split)

def withTarget : WorkAnswers :=
  { allWell with ota := { allWell.ota with target := some ⟨[], 0x10000, true, false⟩, description := .ok ([], []) } }

def otaRequest (type : UInt8) (payload : List UInt8) (parts : Nat) : List ServiceEvent :=
  [.dispatch (requestFrame Channel.ota type payload) true, .claim] ++ List.replicate parts (.work withTarget) ++
    [.settle fun _ => none, .drain]

def otaBeginRequest : List ServiceEvent := otaRequest OtaType.begin (irisPutLe32 1 ++ digestOfSeven [7] ++ List.replicate 4 0) 1

def otaEndRequest : List ServiceEvent := otaRequest OtaType.finish [] 2

/-- A transfer that is ended before its byte came leaves its hash operation to the next one. -/
theorem unfinished_hash_set_up_again : ¬ ∀ recorded, Reachable (handleSystem digestOfSeven oneJobConfig) recorded →
    CallsInOrder recorded.2 := by
  intro ordered
  obtain ⟨recorded, run, checked⟩ : ∃ recorded, Run (handleSystem digestOfSeven oneJobConfig) (.initial oneJobConfig true, [])
      (otaBeginRequest ++ otaEndRequest ++ otaBeginRequest) recorded ∧
      decide (Bracket.ledger (hashUse .ota) false recorded.2 = none) = true := by
    unfold handleSystem serviceSystem
    rw [System.recorded_ofPartial]
    exact Run.of_check (by decide +kernel)
  have start : (handleSystem digestOfSeven oneJobConfig).start (.initial oneJobConfig true, []) := ⟨⟨true, rfl⟩, rfl⟩
  obtain ⟨held, inOrder⟩ := (ordered recorded ⟨_, _, start, run⟩).otaHash.ordered
  rw [of_decide_eq_true checked] at inOrder
  contradiction

/-- A transfer of one byte, and the BEGIN of the next one. -/
theorem hash_and_flash_handles_balanced_twice : ∃ recorded,
    Reachable ((handleSystem digestOfSeven oneJobConfig).guarded fun before event => FinishesDigest before.1 event) recorded ∧
    Bracket.count (hashUse .ota) .opens recorded.2 = 2 ∧ CallsInOrder recorded.2 := by
  obtain ⟨recorded, run, checked⟩ : ∃ recorded,
      Run ((handleSystem digestOfSeven oneJobConfig).guarded fun before event => FinishesDigest before.1 event)
        (.initial oneJobConfig true, [])
        (otaBeginRequest ++ otaRequest OtaType.data (irisPutLe32 0 ++ [7]) 1 ++ otaEndRequest ++ otaBeginRequest) recorded ∧
      decide (Bracket.count (hashUse .ota) .opens recorded.2 = 2) = true := by
    unfold handleSystem serviceSystem
    rw [System.recorded_ofPartial]
    exact Run.of_guarded_check (by decide +kernel)
  have start : (handleSystem digestOfSeven oneJobConfig).start (.initial oneJobConfig true, []) := ⟨⟨true, rfl⟩, rfl⟩
  have reached : Reachable ((handleSystem digestOfSeven oneJobConfig).guarded fun before event => FinishesDigest before.1 event)
      recorded := ⟨_, _, start, run⟩
  exact ⟨recorded, reached, of_decide_eq_true checked, hash_and_flash_handles_balanced reached⟩

end EspIris.Device.Jobs
