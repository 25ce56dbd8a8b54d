import EspIris.Device.HandleCalls
import EspIris.Device.JobIsolation

/-! Every hash operation that was set up, and every OTA handle that was obtained, is released exactly
once, in every run in which a digest is only ever finished when it can be. -/

namespace EspIris.Device.Jobs
open Codec.Device Bytes Machine
variable (sha256 : List UInt8 → List UInt8) (config : ServiceConfig) (frame : DecodedFrame)

def transfers (decided : Bool) (services : Services) : Bool := services.ota.active && !decided

def receives (services : Services) : Bool := services.update.status.phase = .receiving

structure HashKept (decided : Bool) (services : Services) : Prop where
  ota : services.ota.hashActive = transfers decided services
  update : services.update.hashActive = receives services

structure Balance (decided : Bool) (before : Services) (calls : List HandleCall) (later : Bool) (after : Services) :
    Prop where
  hash : Bracket.ledger (hashUse .ota) (transfers decided before) calls = some (transfers later after)
  handle : Bracket.ledger otaUse (transfers decided before) calls = some (transfers later after)
  update : Bracket.ledger (hashUse .update) (receives before) calls = some (receives after)
  kept : HashKept later after

section rules
variable {decided middle later : Bool} {before between after : Services} {calls more : List HandleCall}

theorem Balance.trans (first : Balance decided before calls middle between) (second : Balance middle between more later after) :
    Balance decided before (calls ++ more) later after where
  hash := by rw [Bracket.ledger_append, first.hash, Option.bind_some, second.hash]
  handle := by rw [Bracket.ledger_append, first.handle, Option.bind_some, second.handle]
  update := by rw [Bracket.ledger_append, first.update, Option.bind_some, second.update]
  kept := second.kept

theorem Balance.quiet (kept : HashKept decided before) (active : after.ota.active = before.ota.active)
    (hash : after.ota.hashActive = before.ota.hashActive) (update : after.update.hashActive = before.update.hashActive)
    (receiving : receives after = receives before) : Balance decided before [] decided after := by
  have transfer : transfers decided after = transfers decided before := by rw [transfers, active, transfers]
  constructor
  case hash => exact congrArg some transfer.symm
  case handle => exact congrArg some transfer.symm
  case update => exact congrArg some receiving.symm
  case kept => exact ⟨by rw [hash, transfer, kept.ota], by rw [update, receiving, kept.update]⟩

theorem Balance.same (kept : HashKept decided before) (ota : after.ota = before.ota) (update : after.update = before.update) :
    Balance decided before [] decided after :=
  .quiet kept (congrArg Ota.active ota) (congrArg Ota.hashActive ota) (congrArg SystemUpdate.hashActive update)
    (by rw [receives, update, receives])

theorem Balance.quietly (first : Balance decided before calls later between) (last : Balance later between [] later after) :
    Balance decided before calls later after := by
  have whole := first.trans last
  rwa [List.append_nil] at whole

theorem Balance.when (condition : Bool) (first : Balance decided before calls later between)
    (second : Balance later between more later after) :
    Balance decided before (calls ++ if condition then more else []) later (if condition then after else between) := by
  cases condition with
  | false => exact first.trans (.same first.kept rfl rfl)
  | true => exact first.trans second

theorem Balance.then (first : Balance decided before calls later between) (ota : after.ota = between.ota)
    (update : after.update = between.update) : Balance decided before calls later after :=
  first.quietly (.same first.kept ota update)

end rules

section ota
variable {services : Services}

theorem otaAbort_balance (kept : HashKept false services) (result : EspErr) :
    Balance false services (otaAbortCalls services) false (otaAbort services result) := by
  unfold otaAbortCalls otaAbort
  split
  next active =>
    have isOpen : transfers false services = true := by rw [transfers, active]; rfl
    have hashed : services.ota.hashActive = true := kept.ota.trans isOpen
    unfold otaHashAbort
    rw [if_pos hashed]
    constructor
    case hash => rw [isOpen]; rfl
    case handle => rw [isOpen]; rfl
    case update => rfl
    case kept => exact ⟨rfl, kept.update⟩
  next => exact .same kept rfl rfl

theorem otaBegin_balance (answers : OtaAnswers) (kept : HashKept false services) :
    Balance false services (otaBeginCalls services frame answers) false (otaBegin config services frame answers).1 := by
  unfold otaBeginCalls otaBegin
  cases refusal : otaBeginRefusal services frame answers with
  | error code => exact .same kept rfl rfl
  | ok target =>
    have inactive : services.ota.active = false := by
      unfold otaBeginRefusal at refusal
      dsimp only at refusal
      split at refusal
      next => cases refusal
      split at refusal
      next => cases refusal
      next inactive => exact Bool.eq_false_iff.mpr inactive
    have closed : transfers false services = false := by rw [transfers, inactive]; rfl
    have hashed : services.ota.hashActive = false := kept.ota.trans closed
    dsimp only
    rcases created : jobCreate services.table 0x100 (some .otaJobCancel) with ⟨table, code | handle⟩
    · exact .quiet kept inactive.symm hashed.symm rfl rfl
    · dsimp only
      by_cases ready : answers.hashReady = true
      · rw [if_pos ready, if_pos ready]
        by_cases begun : answers.otaBegin = EspErr.ok
        · rw [if_neg (not_not.mpr begun), if_neg (not_not.mpr begun), begun]
          constructor
          case hash => rw [closed]; rfl
          case handle => rw [closed]; rfl
          case update => rfl
          case kept => exact ⟨rfl, kept.update⟩
        · rw [if_pos begun, if_pos begun]
          constructor
          case hash => rw [closed]; rfl
          case handle =>
            have failed : otaUse (.otaBegin answers.otaBegin) = some .attempts := congrArg some (if_neg begun)
            rw [closed, List.cons_append, List.cons_append, Bracket.ledger_cons, Bracket.move, otaUse, Option.bind_some,
              Bracket.ledger_cons, Bracket.move, failed]
            rfl
          case update => rfl
          case kept => exact ⟨rfl, kept.update⟩
      · rw [if_neg ready, if_neg ready]
        rw [if_pos (by decide)]
        constructor
        case hash => rw [closed]; rfl
        case handle => rw [closed]; rfl
        case update => rfl
        case kept => exact ⟨rfl, kept.update⟩

theorem otaData_balance (answers : OtaAnswers) (kept : HashKept false services) (active : services.ota.active = true) :
    Balance false services (otaDataCalls config services frame answers) false (otaData config services frame answers).1 := by
  have isOpen : transfers false services = true := by rw [transfers, active]; rfl
  unfold otaDataCalls otaData
  split
  next => exact .same kept rfl rfl
  dsimp only
  generalize (if answers.hashUpdated = true then answers.otaWrite else EspErr.fail) = err
  have used : Balance false services ([.hash .ota .update] ++ if answers.hashUpdated = true then [.otaWrite] else [])
      false services := by
    constructor
    case hash => rw [isOpen]; split <;> rfl
    case handle => rw [isOpen]; split <;> rfl
    case update => split <;> rfl
    case kept => exact kept
  by_cases failed : err ≠ EspErr.ok
  · rw [if_pos failed, if_pos failed]
    exact used.trans (otaAbort_balance kept err)
  · rw [if_neg failed, if_neg failed]
    exact used.trans (.quiet kept rfl rfl rfl rfl)

theorem otaEnd_balance (answers : OtaAnswers) {after : Services} (kept : HashKept false services)
    (active : services.ota.active = true) (complete : services.ota.received = services.ota.totalSize)
    (finished : answers.hashFinished = true) (ended : after.ota = { services.ota with hashActive := false })
    (update : after.update = services.update) :
    Balance false services (otaEndCalls sha256 services.ota answers) true after := by
  have isOpen : transfers false services = true := by rw [transfers, active]; rfl
  have closed : transfers true after = false := by rw [transfers, Bool.not_true, Bool.and_false]
  unfold otaEndCalls
  rw [if_neg (not_not.mpr complete), if_neg (by rw [finished]; decide)]
  constructor
  case hash => rw [isOpen, closed]; split <;> rfl
  case handle => rw [isOpen, closed]; split <;> rfl
  case update => rw [receives, receives, update]; split <;> rfl
  case kept => exact ⟨by rw [closed, ended], by rw [update, kept.update, receives, receives, update]⟩

end ota

section update
variable {decided : Bool} {services : Services}

theorem receives_inProgress (receiving : receives services = true) : updateInProgress services = true := by
  have phase : services.update.status.phase = .receiving := of_decide_eq_true receiving
  rw [updateInProgress, phase]
  rfl

/-- What an abort leaves: nothing is received, and the operation is aborted if one was under way. -/
theorem backendAbort_balance (kept : HashKept decided services) (reason : EspErr) {phase : UpdatePhase}
    (isOver : phase.inProgress = false) :
    Balance decided services (backendAbortCalls services) decided (backendAbort services reason phase) := by
  unfold backendAbortCalls backendAbort
  by_cases running : updateInProgress services = true
  · rw [if_pos running]
    have still : receives { services with update := { services.update with
        hashActive := false
        component := .zero
        status := { services.update.status with
          phase := phase
          result := reason
          activeComponentId := 0
          componentReceived := 0
          componentSize := 0 } } } = false := by
      refine decide_eq_false fun receiving => ?_
      rw [show phase = .receiving from receiving] at isOver
      cases isOver
    by_cases hashed : services.update.hashActive = true
    · have receiving : receives services = true := kept.update.symm.trans hashed
      rw [if_pos ⟨running, hashed⟩]
      constructor
      case hash => rfl
      case handle => rfl
      case update =>
        rw [receiving]
        exact congrArg some still.symm
      case kept => exact ⟨kept.ota, still.symm⟩
    · have closed : receives services = false := kept.update.symm.trans (Bool.eq_false_iff.mpr hashed)
      rw [if_neg fun both => hashed both.2]
      exact .quiet kept rfl rfl (Bool.eq_false_iff.mpr hashed).symm (still.trans closed.symm)
  · rw [if_neg running, if_neg fun both => running both.1]
    exact .same kept rfl rfl

theorem failUpdate_balance (kept : HashKept decided services) (header : WireHeader) (err : EspErr) :
    Balance decided services (backendAbortCalls services) decided (failUpdate services header err).1 :=
  (backendAbort_balance kept err rfl).then rfl rfl

theorem failUpdate_logged (kept : HashKept decided services) (call : FlashCall) (header : WireHeader) (err : EspErr) :
    Balance decided services (backendAbortCalls services) decided (failUpdate (logCall services call) header err).1 := by
  have called : Balance decided services [] decided (logCall services call) := .same kept rfl rfl
  exact called.trans (failUpdate_balance called.kept header err)

theorem backendAbortCalls_closed (kept : HashKept decided services) (closed : receives services = false) :
    backendAbortCalls services = [] := by
  refine if_neg fun both => ?_
  rw [kept.update, closed] at both
  cases both.2

theorem handleComponentBegin_balance (answers : BackendAnswers) (kept : HashKept decided services) :
    Balance decided services (componentBeginCalls services frame answers) decided
      (handleComponentBegin config services frame answers).1 := by
  unfold componentBeginCalls handleComponentBegin
  dsimp only
  split
  next => exact .same kept rfl rfl
  next placed =>
    simp only [not_or, not_not] at placed
    have prepared : services.update.status.phase = .prepared := placed.2.2.1
    have closed : receives services = false := by
      rw [receives, prepared]
      rfl
    split
    next => exact .same kept rfl rfl
    by_cases refused : answers.beginComponent ≠ EspErr.ok
    · rw [if_pos refused, if_pos refused, if_pos refused]
      exact failUpdate_logged kept _ frame.header answers.beginComponent
    · rw [if_neg refused, if_neg refused]
      by_cases ready : answers.hashReady = true
      · rw [if_pos ready, if_neg (by decide), ready]
        constructor
        case hash => rfl
        case handle => rfl
        case update =>
          rw [closed]
          rfl
        case kept => exact ⟨kept.ota, rfl⟩
      · rw [if_neg ready, if_pos (by decide), Bool.eq_false_iff.mpr ready]
        have aborted := failUpdate_logged kept (.beginComponent (readComponent frame.payload) answers.beginComponent)
          frame.header EspErr.fail
        rw [backendAbortCalls_closed kept closed] at aborted
        have attempted : Balance decided services [.hash .update (.setup false)] decided services := by
          constructor
          case hash => rfl
          case handle => rfl
          case update =>
            rw [closed]
            rfl
          case kept => exact kept
        have whole := attempted.trans aborted
        rwa [List.append_nil] at whole

theorem handleData_balance (answers : BackendAnswers) (kept : HashKept decided services) :
    Balance decided services (dataCalls config services frame answers) decided (handleData config services frame answers).1 := by
  unfold dataCalls handleData
  dsimp only
  split
  next => exact .same kept rfl rfl
  next placed =>
    have receiving : receives services = true := by
      unfold dataMisplaced at placed
      simp only [Bool.or_eq_true, not_or] at placed
      refine decide_eq_true ?_
      by_contra other
      exact placed.1.1.1.1.1.1.2 (decide_eq_true other)
    have used : Balance decided services [.hash .update .update] decided services := by
      constructor
      case hash => rfl
      case handle => rfl
      case update => rw [receiving]; rfl
      case kept => exact kept
    by_cases updated : answers.hashUpdated = true
    · rw [if_pos updated, if_pos updated]
      by_cases failed : answers.writeComponent ≠ EspErr.ok
      · rw [if_pos failed, if_pos failed]
        exact used.trans (failUpdate_logged kept _ frame.header answers.writeComponent)
      · rw [if_neg failed, if_neg failed]
        exact used.trans (.quiet kept rfl rfl rfl rfl)
    · have failed : EspErr.fail ≠ EspErr.ok := by decide
      rw [if_neg updated, if_neg updated, if_pos failed, if_pos failed]
      exact used.trans (failUpdate_balance kept frame.header EspErr.fail)

theorem finished_balance {after : Services} (kept : HashKept decided services) (receiving : receives services = true)
    (ota : after.ota = services.ota) (hash : after.update.hashActive = false) (closed : receives after = false) :
    Balance decided services [.hash .update (.finish true)] decided after := by
  have transfer : transfers decided after = transfers decided services := by rw [transfers, ota, transfers]
  constructor
  case hash => exact congrArg some transfer.symm
  case handle => exact congrArg some transfer.symm
  case update =>
    rw [receiving, closed]
    rfl
  case kept => exact ⟨by rw [ota, kept.ota, transfer], hash.trans closed.symm⟩

theorem failUpdate_closed (running : updateInProgress services = true) (header : WireHeader) (err : EspErr) :
    (failUpdate services header err).1.ota = services.ota ∧
      (failUpdate services header err).1.update.hashActive = false ∧ receives (failUpdate services header err).1 = false := by
  have aborted : (failUpdate services header err).1 =
      finishUpdateJob (backendAbort services err .failed) err := rfl
  rw [aborted]
  unfold backendAbort
  rw [if_pos running]
  exact ⟨rfl, rfl, rfl⟩

/-- COMPONENT_END releases the operation, when the digest can be finished. -/
theorem handleComponentEnd_balance (answers : BackendAnswers) (kept : HashKept decided services)
    (finished : answers.hashFinished = true) :
    Balance decided services (componentEndCalls services frame answers) decided
      (handleComponentEnd sha256 services frame answers).1 := by
  unfold componentEndCalls handleComponentEnd
  dsimp only
  split
  next => exact .same kept rfl rfl
  next placed =>
    simp only [not_or, not_not] at placed
    have receiving : receives services = true := decide_eq_true placed.2.2.2.2.2.1
    have running := receives_inProgress receiving
    rw [finished]
    generalize componentEndResult sha256 services answers = err
    by_cases failed : err ≠ EspErr.ok
    · rw [if_pos failed]
      split
      next =>
        obtain ⟨ota, hash, closed⟩ := @failUpdate_closed (logCall { services with
          update := { services.update with hashActive := false } } (.endComponent services.update.component answers.endComponent))
          running frame.header err
        exact finished_balance kept receiving ota hash closed
      obtain ⟨ota, hash, closed⟩ := @failUpdate_closed { services with
        update := { services.update with hashActive := false } } running frame.header err
      exact finished_balance kept receiving ota hash closed
    · rw [if_neg failed]
      split <;> refine finished_balance kept receiving rfl rfl (decide_eq_false fun still => ?_)
      all_goals
        have phase : (if services.update.status.completedComponents + 1 < services.update.status.componentCount then
          UpdatePhase.prepared else .componentVerified) = .receiving := still
        split at phase <;> cases phase

theorem handleCancel_balance (kept : HashKept decided services) :
    Balance decided services (updateCancelCalls services frame) decided (handleCancel services frame).1 := by
  unfold updateCancelCalls handleCancel
  split
  next => exact .same kept rfl rfl
  next => exact (backendAbort_balance kept EspErr.invalidState rfl).then rfl rfl

theorem handleBegin_balance (answers : BackendAnswers) (kept : HashKept decided services) :
    Balance decided services [] decided (handleBegin sha256 config services frame answers).1 := by
  unfold handleBegin
  dsimp only
  split
  next => exact .same kept rfl rfl
  split
  next => split <;> exact .same kept rfl rfl
  next idle =>
    have closed : receives services = false := by
      by_contra receiving
      exact idle (receives_inProgress (Bool.of_not_eq_false receiving))
    split
    next => exact .quiet kept rfl rfl rfl rfl
    next => exact .quiet kept rfl rfl rfl closed.symm

theorem handleCommit_balance (kept : HashKept decided services) :
    Balance decided services [] decided (handleCommit services frame).1 := by
  unfold handleCommit
  dsimp only
  split
  next => exact .same kept rfl rfl
  next placed =>
    simp only [not_or, not_not] at placed
    have closed : receives services = false := by
      rw [receives, placed.2.2.1]
      rfl
    exact .quiet kept rfl rfl rfl closed.symm

theorem beginJob_balance (kept : HashKept decided services) :
    Balance decided services (continueCalls services .updatePrepared) decided (beginJob config services frame).1 := by
  unfold continueCalls beginJob
  rcases created : jobCreate services.table systemJobKind (some .systemJobCancel) with ⟨table, code | handle⟩
  · have tabled : Balance decided services [] decided { services with table := table } := .same kept rfl rfl
    exact tabled.trans (backendAbort_balance tabled.kept code rfl)
  · exact .quiet kept rfl rfl rfl rfl

theorem commitDecide_balance (answers : BackendAnswers) (kept : HashKept decided services)
    (closed : receives services = false) : Balance decided services [] decided (commitDecide services answers).1 := by
  unfold commitDecide
  dsimp only
  generalize (services.updateCancel || services.update.job.any (jobCancelRequested services.table)) = cancelled
  generalize (if cancelled = true then EspErr.invalidState else answers.commit) = err
  have left : ∀ called : Services, called.ota = services.ota → called.update.hashActive = services.update.hashActive →
      Balance decided services [] decided (if err ≠ EspErr.ok then
        logCall (publishStatus (setStatus called { services.update.status with
          result := err, phase := if err = EspErr.ok then .committed else .failed }))
          (.abort services.update.status.operationId err)
      else publishStatus (setStatus called { services.update.status with
        result := err, phase := if err = EspErr.ok then .committed else .failed })) := by
    intro called ota hash
    have active : called.ota.active = services.ota.active := congrArg Ota.active ota
    have hashed : called.ota.hashActive = services.ota.hashActive := congrArg Ota.hashActive ota
    by_cases ok : err = EspErr.ok
    · rw [if_neg (not_not.mpr ok), if_pos ok]
      exact .quiet kept active hashed hash closed.symm
    · rw [if_pos ok, if_neg ok]
      exact .quiet kept active hashed hash closed.symm
  by_cases cancel : cancelled = true
  · rw [if_pos cancel]
    exact left services rfl rfl
  · rw [if_neg cancel]
    exact left (logCall services (.commit services.update.status.operationId answers.commit)) rfl rfl

def FinishesUpdate (frame : DecodedFrame) (answers : BackendAnswers) : Prop :=
  frame.header.type = SystemUpdateType.componentEnd → answers.hashFinished = true

theorem handleUpdate_balance (answers : BackendAnswers) (kept : HashKept decided services)
    (finishes : FinishesUpdate frame answers) :
    Balance decided services (handleUpdateCalls config services frame answers) decided
      (handleUpdate sha256 config services frame answers).1 := by
  unfold handleUpdateCalls handleUpdate
  dsimp only
  split
  next => exact .same kept rfl rfl
  split
  next => exact handleBegin_balance sha256 config frame answers kept
  split
  next => exact handleComponentBegin_balance config frame answers kept
  split
  next => exact handleData_balance config frame answers kept
  split
  next ends => exact handleComponentEnd_balance sha256 frame answers kept (finishes ends)
  split
  next => exact handleCommit_balance frame kept
  split
  next => exact handleCancel_balance frame kept
  next => exact .same kept rfl rfl

theorem runCallback_balance (kept : HashKept decided services) (slot : Nat) (job : Job) (sessionEnd : Bool)
    (finishing : Nat → Option EspErr) :
    Balance decided services (callbackCalls services job) decided (runCallback services slot job sessionEnd finishing) := by
  unfold callbackCalls runCallback
  cases job.cancel with
  | none => exact .same kept rfl rfl
  | some cancel =>
    cases cancel with
    | otaJobCancel => exact .same kept rfl rfl
    | systemJobCancel =>
      have noted : Balance decided services [] decided (noteJob services (.called job.serial sessionEnd)) :=
        .same kept rfl rfl
      exact (noted.trans (backendAbort_balance noted.kept EspErr.invalidState rfl)).then rfl rfl
    | application userCtx =>
      dsimp only
      split <;> exact .same kept rfl rfl

theorem handleJobCancel_balance (finishing : Nat → Option EspErr) (kept : HashKept decided services) :
    Balance decided services (jobCancelCalls services frame) decided (handleJobCancel services frame finishing).1 := by
  unfold jobCancelCalls handleJobCancel
  split
  next => exact .same kept rfl rfl
  cases found : findJob services.table (irisGetLe32 frame.payload 0) with
  | none => exact .same kept rfl rfl
  | some slot =>
    dsimp only [Option.bind_some]
    cases held : services.table.job slot with
    | none => exact .same kept rfl rfl
    | some job =>
      dsimp only
      split
      next =>
        have marked : Balance decided services [] decided
            (setTable services (services.table.write slot (job.marked false) [])) := .same kept rfl rfl
        exact marked.trans (runCallback_balance marked.kept slot (job.marked false) false finishing)
      next => exact .same kept rfl rfl

theorem serveCancel_balance (finishing : Nat → Option EspErr) (kept : HashKept decided services) :
    Balance decided services (serveCancelCalls services) decided (serveCancel services finishing) := by
  unfold serveCancelCalls serveCancel
  cases pendingSlot services.table with
  | none => exact .same kept rfl rfl
  | some slot =>
    dsimp only [Option.bind_some]
    cases services.table.job slot with
    | none => exact .same kept rfl rfl
    | some job =>
      have served : Balance decided services [] decided
          (setTable services (services.table.write slot { job with cancelPending := false } [])) := .same kept rfl rfl
      exact served.trans (runCallback_balance served.kept slot { job with cancelPending := false } false finishing)

theorem pollUpdateCancel_balance (kept : HashKept decided services) :
    Balance decided services (pollUpdateCancelCalls services) decided (pollUpdateCancel services) := by
  unfold pollUpdateCancelCalls pollUpdateCancel
  split
  next =>
    have cleared : Balance decided services [] decided { services with updateCancel := false } := .same kept rfl rfl
    exact (cleared.trans (backendAbort_balance cleared.kept EspErr.invalidState rfl)).then rfl rfl
  next => exact .same kept rfl rfl

end update

section sessionEnd
variable {services : Services} (finishing : Nat → Option EspErr)

theorem endSlot_balance {decided : Bool} (kept : HashKept decided services) (slot : Nat) :
    Balance decided services (match services.table.job slot with
      | none => []
      | some job => if job.info.state = .running then callbackCalls services job else []) decided
      (endSlot finishing services slot) := by
  unfold endSlot
  cases services.table.job slot with
  | none => exact .same kept rfl rfl
  | some job =>
    dsimp only
    split
    next =>
      have marked : Balance decided services [] decided (setTable services (services.table.write slot job.ending [])) :=
        .same kept rfl rfl
      exact (marked.trans (runCallback_balance marked.kept slot job.ending true finishing)).then rfl rfl
    next => exact .same kept rfl rfl

theorem endSlots_balance {first : Services} {calls : List HandleCall} (slots : List Nat)
    (balance : Balance false first calls false services) :
    Balance false first (slots.foldl (endSlotCalls finishing) (services, calls)).2 false
      (slots.foldl (endSlot finishing) services) := by
  induction slots generalizing services calls with
  | nil => exact balance
  | cons slot rest ih => exact ih (balance.trans (endSlot_balance finishing balance.kept slot))

theorem sessionEndNow_balance (kept : HashKept false services) :
    Balance false services (sessionEndCalls services finishing) false (sessionEndNow services finishing) := by
  have aborted : Balance false services (backendAbortCalls services) false
      (backendAbort services EspErr.invalidState .cancelled) := backendAbort_balance kept EspErr.invalidState rfl
  have updated : Balance false services (backendAbortCalls services) false (updateSessionEnd services) :=
    aborted.quietly (.quiet aborted.kept rfl rfl rfl rfl)
  have stopped := updated.trans (otaAbort_balance updated.kept EspErr.invalidState)
  exact stopped.trans (endSlots_balance finishing _ (.same stopped.kept rfl rfl))

theorem settleServices_balance (kept : HashKept false services) :
    Balance false services (settleCalls services finishing) false (settleServices services finishing) := by
  rw [settleServices_eq]
  have begun : Balance false services [] false (taken services) := .same kept rfl rfl
  have served := begun.trans (serveCancel_balance finishing begun.kept)
  have polled := served.when services.updateCancel (pollUpdateCancel_balance served.kept)
  have aborted := polled.when services.otaCancel (otaAbort_balance polled.kept EspErr.invalidState)
  exact aborted.when services.abandoned (sessionEndNow_balance finishing aborted.kept)

end sessionEnd

end EspIris.Device.Jobs
