import EspIris.Device.MediaSteps
import EspIris.Lib.Bracket

/-! The screen backend over whole runs: a capture and a pull mirror share one `begin` and `end`, and
every `begin` that returned `ESP_OK` is owed one `end`. -/

namespace EspIris.Device.Media
open Machine
variable {run : MediaRun} {services : Option MediaState} {code : EspErr} {outputs : List MediaOutput} {held : Bool}
variable {config : MediaConfig} {index : Fin 3}

def screenUse : MediaOutput → Option Bracket.Use
  | .begins code => some (if code = EspErr.ok then .opens else .attempts)
  | .reads _ _ => some .uses
  | .ends => some .closes
  | .reply _ => none
  | .data _ _ => none

def owes (services : Option MediaState) : Bool := services.any MediaState.owes

structure MediaState.ScreenKept (state : MediaState) : Prop where
  exclusive : state.capture.active = true → (state.media 0).active = false
  mirrors : (state.media 0).pull = true → (state.media 0).active = true
  backed : state.owes = true → state.screen.any ScreenBackend.hasEnd = true

structure SameScreen (before after : MediaState) : Prop where
  screen : after.screen = before.screen
  capture : after.capture.active = before.capture.active
  active : (after.media 0).active = (before.media 0).active
  pull : (after.media 0).pull = (before.media 0).pull

structure ScreenSound (run : MediaRun) : Prop where
  ledger : Bracket.ledger screenUse false run.outputs = some (owes run.world.services)
  kept : ∀ state, run.world.services = some state → state.ScreenKept
  ending : ∀ state index, run.world.services = some state → run.world.point = .ending index →
    state.capture.active = false ∧ (index ≠ 0 → (state.media 0).pull = false)

/-- A begin that returns `ESP_OK` finds a backend with an `end`, and an OPEN's says how much there is to read. -/
def EndsBegin (run : MediaRun) : MediaEvent → Prop
  | .frame frame answers => answers.begins.code = EspErr.ok →
      run.world.services.all (fun state => state.screen.all ScreenBackend.hasEnd) = true ∧
        (frame.header.type = MediaType.opening → answers.begins.totalSize ≠ 0)
  | _ => True

def endsSession : MediaEvent → Bool
  | .endSession => true
  | .endSlot _ => true
  | _ => false

/-- The calls of the backend so far are in order, one `end` stands between two begins, and the end of a session
leaves nothing to be ended. -/
structure ScreenBalanced (config : MediaConfig) (run : MediaRun) : Prop where
  ordered : ∃ held, Bracket.ledger screenUse false run.outputs = some held
  once : ∀ before between rest code,
    run.outputs = before ++ .begins EspErr.ok :: (between ++ .begins code :: rest) →
      .begins EspErr.ok ∉ between → between.count .ends = 1
  ended : ∀ event after, (mediaSystem config).step run event after → endsSession event = true →
    after.world.point = .resting → Bracket.ledger screenUse false after.outputs = some false

section frame
variable {state after : MediaState}

theorem SameScreen.refl (state : MediaState) : SameScreen state state := ⟨rfl, rfl, rfl, rfl⟩

theorem SameScreen.owes (same : SameScreen state after) : after.owes = state.owes := by
  rw [MediaState.owes, same.capture, same.pull, MediaState.owes]

theorem SameScreen.kept (same : SameScreen state after) (kept : state.ScreenKept) : after.ScreenKept where
  exclusive := by rw [same.capture, same.active]; exact kept.exclusive
  mirrors := by rw [same.pull, same.active]; exact kept.mirrors
  backed := by rw [same.owes, same.screen]; exact kept.backed

theorem SameScreen.setSlot (state : MediaState) (index : Fin 3) (slot : MediaSlot)
    (active : slot.active = (state.media index).active) (pull : slot.pull = (state.media index).pull) :
    SameScreen state (state.setSlot index slot) := by
  by_cases first : 0 = index
  · subst first
    exact ⟨rfl, rfl, by rw [setSlot_same, active], by rw [setSlot_same, pull]⟩
  · exact ⟨rfl, rfl, by rw [setSlot_other state first], by rw [setSlot_other state first]⟩

theorem SameScreen.setOther (state : MediaState) (other : index ≠ 0) (slot : MediaSlot) :
    SameScreen state (state.setSlot index slot) :=
  ⟨rfl, rfl, by rw [setSlot_other state (Ne.symm other)], by rw [setSlot_other state (Ne.symm other)]⟩

theorem MediaState.ScreenKept.fresh : MediaState.fresh.ScreenKept where
  exclusive := fun _ => rfl
  mirrors := fun pull => Bool.noConfusion pull
  backed := fun owed => Bool.noConfusion owed

theorem found_kept (kept : ∀ state, services = some state → state.ScreenKept) (found : Found services state) :
    state.ScreenKept ∧ state.owes = owes services := by
  cases found with
  | present there => exact ⟨kept state there, by rw [there]; rfl⟩
  | made missing => exact ⟨.fresh, by rw [missing]; rfl⟩

theorem maybeReleaseState_owes (kept : state.ScreenKept) :
    owes (maybeReleaseState held state) = state.owes ∧
      ∀ left, maybeReleaseState held state = some left → left = state := by
  unfold maybeReleaseState
  split
  next => exact ⟨rfl, fun left same => (Option.some.inj same).symm⟩
  next free =>
    refine ⟨?_, fun left same => by cases same⟩
    simp only [Bool.or_eq_true, not_or, Bool.not_eq_true, Option.isSome_eq_false_iff, Option.isNone_iff_eq_none] at free
    by_contra owed
    have backed := kept.backed (Bool.of_not_eq_false (Ne.symm owed))
    rw [free.1.1.1.2] at backed
    cases backed

theorem kept_of_released (kept : state.ScreenKept) :
    ∀ left, maybeReleaseState held state = some left → left.ScreenKept := by
  intro left same
  rw [(maybeReleaseState_owes kept).2 left same]
  exact kept

end frame

theorem ScreenSound.moved {run : MediaRun} (sound : ScreenSound run) (move : MediaMove)
    (ledger : Bracket.ledger screenUse (owes run.world.services) move.outputs = some (owes move.services))
    (kept : ∀ state, move.services = some state → state.ScreenKept)
    (ending : ∀ state index, move.services = some state → move.point = .ending index →
      state.capture.active = false ∧ (index ≠ 0 → (state.media 0).pull = false)) :
    ScreenSound ⟨⟨move.services, move.point⟩, run.outputs ++ move.outputs⟩ where
  ledger := by rw [Bracket.ledger_append, sound.ledger, Option.bind_some, ledger]
  kept := kept
  ending := ending

theorem ScreenSound.same (sound : ScreenSound run) {state after : MediaState} {point : MediaPoint}
    (there : run.world.services = some state) (same : SameScreen state after)
    (quiet : Bracket.ledger screenUse state.owes outputs = some state.owes)
    (ending : ∀ index, point = .ending index → run.world.point = .ending index) :
    ScreenSound ⟨⟨some after, point⟩, run.outputs ++ outputs⟩ := by
  have owed : owes run.world.services = state.owes := by rw [there]; rfl
  refine sound.moved ⟨some after, point, outputs⟩ ?_ ?_ ?_
  · rw [owed, quiet]
    exact congrArg some same.owes.symm
  · intro left equal
    cases equal
    exact same.kept (sound.kept state there)
  · intro left index equal ends
    cases equal
    have ended := sound.ending state index there (ending index ends)
    rw [same.capture, same.pull]
    exact ended

section calls
variable {state : MediaState}

theorem submitSlot_flags (slot : MediaSlot) (submission : Submission) :
    (submitSlot slot submission).1.active = slot.active ∧ (submitSlot slot submission).1.pull = slot.pull := by
  unfold submitSlot
  split
  next => exact ⟨rfl, rfl⟩
  next => split <;> exact ⟨rfl, rfl⟩

theorem mediaSubmit_same (config : MediaConfig) (state : MediaState) (channel : UInt8) (submission : Submission) :
    SameScreen state (mediaSubmit config state channel submission).1 := by
  unfold mediaSubmit
  split
  next => exact .refl state
  next index _ =>
    split
    next => exact .refl state
    have flags := submitSlot_flags (state.media index) submission
    exact .setSlot state index _ flags.1 flags.2

theorem preparePullScreen_flags (config : MediaConfig) (state : MediaState) (slot : MediaSlot) (answer : ReadAnswer)
    (now : Nat) :
    (preparePullScreen config state slot answer now).1.active = slot.active ∧
      (preparePullScreen config state slot answer now).1.pull = slot.pull := by
  unfold preparePullScreen
  split
  next => exact ⟨rfl, rfl⟩
  dsimp only
  split <;> exact ⟨rfl, rfl⟩

theorem preparePullScreen_calls (config : MediaConfig) (answer : ReadAnswer) (now : Nat) :
    Bracket.ledger screenUse state.owes (preparePullScreen config state (state.media 0) answer now).2 = some state.owes := by
  unfold preparePullScreen
  split
  next => rfl
  next due =>
    have pull : (state.media 0).pull = true := by
      unfold pullDue at due
      simp only [Bool.not_eq_false, Bool.and_eq_true] at due
      exact due.1.1.1.1.1.1.1.2
    have owed : state.owes = true := by rw [MediaState.owes, pull, Bool.or_true]
    rw [owed]
    dsimp only
    split <;> rfl

theorem endScreen_backed (backed : state.screen.any ScreenBackend.hasEnd = true) : endScreen state = [.ends] :=
  if_pos backed

theorem closeCapture_ends (kept : state.ScreenKept) :
    Bracket.ledger screenUse state.owes (closeCapture state).2 = some (closeCapture state).1.owes ∧
      (closeCapture state).1.ScreenKept := by
  constructor
  · unfold closeCapture
    cases active : state.capture.active with
    | false =>
      have same : state.owes = (state.media 0).pull := by rw [MediaState.owes, active, Bool.false_or]
      rw [same]
      rfl
    | true =>
      have owed : state.owes = true := by rw [MediaState.owes, active, Bool.true_or]
      have unmirrored : (state.media 0).pull = false := by
        by_contra pull
        have mirrored := kept.mirrors (Bool.of_not_eq_false pull)
        rw [kept.exclusive active] at mirrored
        cases mirrored
      have left : (closeCapture state).1.owes = false := by
        unfold closeCapture MediaState.owes
        rw [unmirrored]
        rfl
      rw [owed, if_pos rfl, endScreen_backed (kept.backed owed)]
      exact congrArg some left.symm
  · constructor
    case exclusive => exact fun active => Bool.noConfusion active
    case mirrors => exact kept.mirrors
    case backed =>
      intro owed
      refine kept.backed ?_
      have pull : (state.media 0).pull = true := by
        unfold closeCapture MediaState.owes at owed
        rwa [Bool.false_or] at owed
      rw [MediaState.owes, pull, Bool.or_true]

theorem stopMirror_ends (kept : state.ScreenKept) (index : Fin 3) :
    Bracket.ledger screenUse state.owes (stopMirror state index).2 = some (stopMirror state index).1.owes ∧
      (stopMirror state index).1.ScreenKept ∧ ((state.media 0).pull = false ∨ index = 0 →
        ((stopMirror state index).1.media 0).pull = false) := by
  unfold stopMirror
  dsimp only
  by_cases first : index = 0
  · subst first
    have stopped : ((state.setSlot 0 (releaseMediaBuffer (state.media 0))).media 0).pull = false := by rw [setSlot_same]; rfl
    have left : (state.setSlot 0 (releaseMediaBuffer (state.media 0))).owes = state.capture.active := by
      rw [MediaState.owes, stopped, Bool.or_false]
      rfl
    refine ⟨?_, ?_, fun _ => stopped⟩
    · rw [left]
      cases pull : (state.media 0).pull with
      | false =>
        have same : state.owes = state.capture.active := by rw [MediaState.owes, pull, Bool.or_false]
        rw [if_neg (fun both => Bool.noConfusion both.2), same]
        rfl
      | true =>
        have owed : state.owes = true := by rw [MediaState.owes, pull, Bool.or_true]
        have uncaptured : state.capture.active = false := by
          by_contra active
          have mirrored := kept.mirrors pull
          rw [kept.exclusive (Bool.of_not_eq_false active)] at mirrored
          cases mirrored
        rw [if_pos ⟨rfl, rfl⟩, owed, uncaptured, endScreen_backed (kept.backed owed)]
        rfl
    · constructor
      case exclusive => exact fun _ => by rw [setSlot_same]; rfl
      case mirrors =>
        rw [stopped]
        exact fun pull => Bool.noConfusion pull
      case backed =>
        rw [left]
        exact fun active => kept.backed (by rw [MediaState.owes, active, Bool.true_or])
  · have same := SameScreen.setOther state first (releaseMediaBuffer (state.media index))
    refine ⟨?_, same.kept kept, ?_⟩
    · rw [if_neg (fun both => first both.1), same.owes]
      rfl
    · rintro (pull | zero)
      · rw [same.pull, pull]
      · exact absurd zero first

theorem released_owes (kept : state.ScreenKept) (startable : Startable state 0) : state.owes = false := by
  have unmirrored : (state.media 0).pull = false := by
    by_contra pull
    have mirrored := kept.mirrors (Bool.of_not_eq_false pull)
    rw [startable.idle] at mirrored
    cases mirrored
  rw [MediaState.owes, startable.free rfl, unmirrored]
  rfl

end calls

theorem screenRegister_kept {state : MediaState} (kept : state.ScreenKept) (backend : ScreenBackend) :
    (screenRegister state backend).ScreenKept ∧ (screenRegister state backend).owes = state.owes := by
  unfold screenRegister
  split
  next => exact ⟨kept, rfl⟩
  next free =>
    refine ⟨⟨kept.exclusive, kept.mirrors, ?_⟩, rfl⟩
    intro owed
    have backed := kept.backed owed
    rw [Bool.not_eq_true, Option.isSome_eq_false_iff, Option.isNone_iff_eq_none] at free
    rw [free] at backed
    cases backed

theorem screenUnregister_kept {state removed : MediaState} {userCtx : Nat} (kept : state.ScreenKept)
    (unregistered : screenUnregister state userCtx = some removed) : removed.ScreenKept ∧ removed.owes = state.owes := by
  unfold screenUnregister at unregistered
  split at unregistered
  next => cases unregistered
  next free =>
    cases unregistered
    simp only [not_or, Bool.not_eq_true] at free
    have nothing : state.owes = false := released_owes kept ⟨free.2.2, fun _ => free.2.1⟩
    refine ⟨⟨kept.exclusive, kept.mirrors, fun owed => ?_⟩, rfl⟩
    rw [show MediaState.owes { state with screen := none } = state.owes from rfl, nothing] at owed
    cases owed

/-- The backend of a begin that returned `ESP_OK` has an `end`. -/
theorem EndsBegin.backed {frame : DecodedFrame} {answers : MediaAnswers} {state : MediaState}
    (ends : EndsBegin run (.frame frame answers)) (ok : answers.begins.code = EspErr.ok)
    (found : Found run.world.services state) (backed : state.screen.isSome = true) :
    state.screen.any ScreenBackend.hasEnd = true := by
  cases found with
  | present there =>
    have all := (ends ok).1
    obtain ⟨backend, registered⟩ := Option.isSome_iff_exists.mp backed
    rw [there, Option.all_some, registered] at all
    rw [registered]
    exact all
  | made => cases backed

theorem ledger_begins {held : Bool} {code : EspErr} (rest : List MediaOutput) :
    Bracket.ledger screenUse held (.begins code :: rest) =
      (Bracket.Use.after (if code = EspErr.ok then .opens else .attempts) held).bind (Bracket.ledger screenUse · rest) :=
  Bracket.ledger_cons _

theorem ScreenSound.openFails (sound : ScreenSound run) {state : MediaState} (there : run.world.services = some state)
    (idle : state.capture.active = false) (unmirrored : (state.media 0).active = false) (failed : code ≠ EspErr.ok)
    (reply : Reply) :
    ScreenSound ⟨⟨run.world.services, .resting⟩, run.outputs ++ [.begins code, .reply reply]⟩ := by
  have nothing : owes run.world.services = false := by
    rw [there]
    exact released_owes (sound.kept state there) ⟨unmirrored, fun _ => idle⟩
  refine sound.moved (.done run.world.services [.begins code, .reply reply]) ?_ sound.kept
    (fun _ _ _ ends => by cases ends)
  rw [MediaMove.done, nothing]
  dsimp only
  rw [ledger_begins, if_neg failed]
  rfl

theorem ScreenSound.opens (sound : ScreenSound run) {state : MediaState} (there : run.world.services = some state)
    (idle : state.capture.active = false) (unmirrored : (state.media 0).active = false) (ok : code = EspErr.ok)
    (ended : state.screen.any ScreenBackend.hasEnd = true) {capture : Capture} (active : capture.active = true)
    (reply : Reply) :
    ScreenSound ⟨⟨some { state with capture := capture }, .resting⟩, run.outputs ++ [.begins code, .reply reply]⟩ := by
  have nothing : owes run.world.services = false := by
    rw [there]
    exact released_owes (sound.kept state there) ⟨unmirrored, fun _ => idle⟩
  have owed : owes (some { state with capture := capture }) = true := by
    show MediaState.owes { state with capture := capture } = true
    rw [MediaState.owes, active, Bool.true_or]
  refine sound.moved (.done (some { state with capture := capture }) [.begins code, .reply reply]) ?_ ?_
    (fun _ _ _ ends => by cases ends)
  · rw [MediaMove.done, nothing]
    dsimp only
    rw [owed, ledger_begins, if_pos ok]
    rfl
  · intro left equal
    cases equal
    exact ⟨fun _ => unmirrored, (sound.kept state there).mirrors, fun _ => ended⟩

/-- MIRROR_START: a begin whose frame cannot be mirrored is ended at once. -/
theorem ScreenSound.rejects (sound : ScreenSound run) {state : MediaState} (found : Found run.world.services state)
    (startable : Startable state 0) (slot : MediaSlot)
    (ended : code = EspErr.ok → state.screen.any ScreenBackend.hasEnd = true) (reply : Reply) :
    ScreenSound ⟨⟨some (state.setSlot 0 (releaseMediaBuffer slot)), .resting⟩,
      run.outputs ++ ([.begins code] ++ (if code = EspErr.ok then endScreen state else []) ++ [.reply reply])⟩ := by
  obtain ⟨kept, owed⟩ := found_kept sound.kept found
  have nothing := released_owes kept startable
  have released : ((state.setSlot 0 (releaseMediaBuffer slot)).media 0).pull = false ∧
      ((state.setSlot 0 (releaseMediaBuffer slot)).media 0).active = false := by
    rw [setSlot_same]
    exact ⟨rfl, rfl⟩
  have left : owes (some (state.setSlot 0 (releaseMediaBuffer slot))) = false := by
    show MediaState.owes _ = false
    rw [MediaState.owes, released.1, Bool.or_false]
    exact startable.free rfl
  refine sound.moved (.done (some (state.setSlot 0 (releaseMediaBuffer slot))) _) ?_ ?_
    (fun _ _ _ ends => by cases ends)
  · rw [MediaMove.done, ← owed, nothing]
    dsimp only
    rw [left]
    by_cases ok : code = EspErr.ok
    · rw [if_pos ok, endScreen_backed (ended ok), ok]
      rfl
    · rw [if_neg ok, List.append_nil, List.singleton_append, ledger_begins, if_neg ok]
      rfl
  · intro after equal
    cases equal
    refine ⟨fun _ => released.2, fun pull => ?_, fun owes => ?_⟩
    · rw [released.1] at pull
      cases pull
    · exact absurd (left.symm.trans owes) Bool.false_ne_true

theorem ScreenSound.pulls (sound : ScreenSound run) {state : MediaState} (found : Found run.world.services state)
    (startable : Startable state 0) {slot : MediaSlot} (ok : code = EspErr.ok)
    (ended : state.screen.any ScreenBackend.hasEnd = true) (pull : slot.pull = true) (header : WireHeader) :
    ScreenSound ⟨⟨(activate state 0 slot header [.begins code]).services, (activate state 0 slot header []).point⟩,
      run.outputs ++ [.begins code]⟩ := by
  obtain ⟨kept, owed⟩ := found_kept sound.kept found
  have nothing := released_owes kept startable
  refine sound.moved (activate state 0 slot header [.begins code]) ?_ ?_ (fun _ _ _ ends => by cases ends)
  · unfold activate
    dsimp only
    rw [← owed, nothing, ledger_begins, if_pos ok]
    refine congrArg some ?_
    show true = MediaState.owes _
    rw [MediaState.owes, setSlot_same]
    exact ((congrArg _ pull).trans (Bool.or_true _)).symm
  · intro left equal
    cases equal
    refine ⟨fun active => ?_, fun _ => by rw [setSlot_same], fun _ => ended⟩
    rw [setSlot_capture, startable.free rfl] at active
    cases active

theorem startedSlot_kept {state : MediaState} (slot : MediaSlot) (kept : state.ScreenKept)
    (startable : Startable state index) (push : slot.pull = false) :
    (state.setSlot index slot).owes = state.owes ∧ (state.setSlot index slot).ScreenKept := by
  by_cases first : index = 0
  · subst first
    have left : (state.setSlot 0 slot).owes = false := by
      rw [MediaState.owes, setSlot_same, push, setSlot_capture, startable.free rfl]
      rfl
    refine ⟨left.trans (released_owes kept startable).symm, fun active => ?_, fun pull => ?_, fun owes => ?_⟩
    · rw [setSlot_capture, startable.free rfl] at active
      cases active
    · rw [setSlot_same, push] at pull
      cases pull
    · rw [left] at owes
      cases owes
  · have same := SameScreen.setOther state first slot
    exact ⟨same.owes, same.kept kept⟩

theorem ScreenSound.pushes (sound : ScreenSound run) {state : MediaState} (found : Found run.world.services state)
    (startable : Startable state index) {slot : MediaSlot} (push : slot.pull = false) (header : WireHeader) :
    ScreenSound ⟨⟨(activate state index slot header []).services, (activate state index slot header []).point⟩,
      run.outputs ++ []⟩ := by
  obtain ⟨kept, owed⟩ := found_kept sound.kept found
  have started := startedSlot_kept { slot with
    active := true
    streamId := if header.streamId ≠ 0 then header.streamId else header.requestId } kept startable push
  refine sound.moved (activate state index slot header []) ?_ ?_ (fun _ _ _ ends => by cases ends)
  · rw [← owed]
    exact congrArg some started.1.symm
  · intro after equal
    cases equal
    exact started.2

/-- A frame keeps the calls in order when its begin is one that will be ended. -/
theorem ScreenSound.handled (sound : ScreenSound run) {frame : DecodedFrame} {answers : MediaAnswers} {move : MediaMove}
    (ends : EndsBegin run (.frame frame answers)) (handled : Handled config run.world.services frame answers move) :
    ScreenSound ⟨⟨move.services, move.point⟩, run.outputs ++ move.outputs⟩ := by
  cases handled with
  | ignored => exact sound.moved (.done run.world.services []) rfl sound.kept (fun _ _ _ ends => by cases ends)
  | answered reply =>
    exact sound.moved (.done run.world.services [.reply reply]) rfl sound.kept (fun _ _ _ ends => by cases ends)
  | @made state found reply =>
    obtain ⟨kept, owed⟩ := found_kept sound.kept found
    refine sound.moved (.done (some state) [.reply reply]) ?_ ?_ (fun _ _ _ ends => by cases ends)
    · exact congrArg some owed.symm
    · intro left equal
      cases equal
      exact kept
  | refusedOpen there idle unmirrored isOpen failed reply =>
    refine sound.openFails there idle unmirrored ?_ reply
    intro ok
    rcases failed with failed | failed
    · exact failed ok
    · exact (ends ok).2 isOpen failed
  | opened there backed idle unmirrored ok capture active reply =>
    exact sound.opens there idle unmirrored ok (ends.backed ok (.present there) backed) active reply
  | @read state there active offset capacity reply =>
    have owed : owes run.world.services = true := by
      rw [there]
      show state.owes = true
      rw [MediaState.owes, active, Bool.true_or]
    refine sound.moved (.done run.world.services _) ?_ sound.kept (fun _ _ _ ends => by cases ends)
    rw [MediaMove.done, owed]
    rfl
  | @closed state there reply =>
    obtain ⟨ledger, kept⟩ := closeCapture_ends (sound.kept state there)
    refine sound.moved (.done (some (closeCapture state).1) _) ?_ ?_ (fun _ _ _ ends => by cases ends)
    · have before : owes (some state) = state.owes := rfl
      rw [there, MediaMove.done]
      dsimp only
      rw [Bracket.ledger_append, before, ledger]
      rfl
    · intro left equal
      cases equal
      exact kept
  | rejected found startable data ensured first backed notRaw reply =>
    subst first
    exact sound.rejects found startable _ (fun ok => ends.backed ok found backed) reply
  | pulled found startable data ensured first backed raw rate =>
    subst first
    have ok : answers.begins.code = EspErr.ok := by
      unfold rawFrame at raw
      simp only [Bool.and_eq_true, decide_eq_true_eq] at raw
      exact raw.1.1.1.1.1
    exact sound.pulls found startable ok (ends.backed ok found backed) rfl frame.header
  | pushed found startable data ensured unbacked => exact sound.pushes found startable rfl frame.header
  | @stopped state index there reply =>
    obtain ⟨ledger, kept, _⟩ := stopMirror_ends (sound.kept state there) index
    refine sound.moved (.done (maybeReleaseState answers.held (stopMirror state index).1) _) ?_ ?_
      (fun _ _ _ ends => by cases ends)
    · have before : owes (some state) = state.owes := rfl
      rw [there, MediaMove.done]
      dsimp only
      rw [(maybeReleaseState_owes kept).1, Bracket.ledger_append, before, ledger]
      rfl
    · exact kept_of_released kept

structure CameOf (services : Option MediaState) (state : MediaState) : Prop where
  kept : state.ScreenKept
  owed : state.owes = owes services
  flags : ∃ old, Found services old ∧ state.capture.active = old.capture.active ∧
    (state.media 0).pull = (old.media 0).pull

theorem CameOf.found {state after : MediaState} (kept : ∀ state, services = some state → state.ScreenKept)
    (found : Found services state) (same : SameScreen state after) : CameOf services after where
  kept := same.kept (found_kept kept found).1
  owed := same.owes.trans (found_kept kept found).2
  flags := ⟨state, found, same.capture, same.pull⟩

theorem ScreenSound.keeping (sound : ScreenSound run) (owed : services = none → owes run.world.services = false)
    (came : ∀ state, services = some state → CameOf run.world.services state) :
    ScreenSound ⟨⟨services, run.world.point⟩, run.outputs ++ []⟩ := by
  refine sound.moved ⟨services, run.world.point, []⟩ ?_ (fun state there => (came state there).kept) ?_
  · cases services with
    | none => exact congrArg some (owed rfl)
    | some state => exact congrArg some (came state rfl).owed.symm
  · intro state index there ends
    obtain ⟨old, found, capture, pull⟩ := (came state there).flags
    rw [capture, pull]
    cases found with
    | present before => exact sound.ending old index before ends
    | made => exact ⟨rfl, fun _ => rfl⟩

theorem createState_none {allocated : Bool} (failed : createState services allocated = none) : services = none := by
  unfold createState at failed
  split at failed
  next => cases failed
  next => rfl

/-- A record that is given up owes nothing, and one that stays is the same. -/
theorem ScreenSound.releasing (sound : ScreenSound run) {state : MediaState} (came : CameOf run.world.services state) :
    ScreenSound ⟨⟨maybeReleaseState held state, run.world.point⟩, run.outputs ++ []⟩ := by
  refine sound.keeping (fun freed => ?_) (fun left there => ?_)
  · have same : owes (maybeReleaseState held state) = state.owes := (maybeReleaseState_owes came.kept).1
    rw [← came.owed, ← same, freed]
    rfl
  · rw [(maybeReleaseState_owes came.kept).2 left there]
    exact came

theorem ScreenSound.step (sound : ScreenSound run) {event : MediaEvent} {move : MediaMove} (ends : EndsBegin run event)
    (stepped : Stepped config run.world event move) :
    ScreenSound ⟨⟨move.services, move.point⟩, run.outputs ++ move.outputs⟩ := by
  cases stepped with
  | created allocated =>
    refine sound.keeping (fun failed => ?_) (fun state made => ?_)
    · rw [createState_none failed]
      rfl
    · exact .found sound.kept (createState_found made) (.refl state)
  | released held =>
    cases there : run.world.services with
    | none => exact sound.keeping (fun _ => by rw [there]; rfl) (fun state left => by cases left)
    | some state => exact sound.releasing (.found sound.kept (.present there) (.refl state))
  | register backend allocated =>
    refine sound.keeping (fun failed => ?_) (fun state made => ?_)
    · rw [createState_none (Option.map_eq_none_iff.mp failed)]
      rfl
    · obtain ⟨old, created, rfl⟩ := Option.map_eq_some_iff.mp made
      have found := createState_found created
      obtain ⟨kept, owed⟩ := found_kept sound.kept found
      obtain ⟨registered, same⟩ := screenRegister_kept kept backend
      refine ⟨registered, same.trans owed, old, found, ?_⟩
      unfold screenRegister
      split <;> exact ⟨rfl, rfl⟩
  | unregister userCtx held =>
    cases there : run.world.services with
    | none => exact sound.keeping (fun _ => by rw [there]; rfl) (fun state left => by cases left)
    | some state =>
      have came : CameOf run.world.services state := .found sound.kept (.present there) (.refl state)
      rw [Option.bind_some]
      split
      next =>
        refine sound.keeping (fun none => by cases none) (fun left same => ?_)
        cases same
        exact came
      next removed unregistered =>
        obtain ⟨kept, same⟩ := screenUnregister_kept came.kept unregistered
        refine sound.releasing ⟨kept, same.trans came.owed, state, .present there, ?_⟩
        unfold screenUnregister at unregistered
        split at unregistered
        next => cases unregistered
        cases unregistered
        exact ⟨rfl, rfl⟩
  | acquire =>
    refine sound.keeping (fun missing => ?_) (fun state made => ?_)
    · rw [Option.map_eq_none_iff.mp missing]
      rfl
    · obtain ⟨old, there, rfl⟩ := Option.map_eq_some_iff.mp made
      exact .found sound.kept (.present there) ⟨rfl, rfl, rfl, rfl⟩
  | submit there channel submission =>
    exact sound.same there (mediaSubmit_same config _ channel submission) rfl fun _ ends => ends
  | giveBack =>
    refine sound.keeping (fun missing => ?_) (fun state made => ?_)
    · rw [Option.map_eq_none_iff.mp missing]
      rfl
    · obtain ⟨old, there, rfl⟩ := Option.map_eq_some_iff.mp made
      exact .found sound.kept (.present there) ⟨rfl, rfl, rfl, rfl⟩
  | frame resting frame answers handled => exact sound.handled ends handled
  | credit resting channel amount =>
    unfold irisServicesCredit
    split
    next index state _ there =>
      exact sound.same there (.setSlot state index _ rfl rfl) rfl fun _ ends => by cases ends
    next => exact sound.moved (.done run.world.services []) rfl sound.kept (fun _ _ _ ends => by cases ends)
  | @settle state index stage header there point =>
    cases stage with
    | pending | dropped
    | credit => exact sound.same there (.setSlot state index _ rfl rfl) rfl fun _ ends => by cases ends
  | poll resting =>
    refine sound.moved ⟨_, _, []⟩ rfl sound.kept (fun _ _ _ ends => ?_)
    split at ends <;> cases ends
  | @look state index there point answer now =>
    unfold lookSlot
    dsimp only
    split
    next first =>
      subst first
      have flags := preparePullScreen_flags config state (state.media 0) answer now
      exact sound.same there (.setSlot state 0 _ flags.1 flags.2) (preparePullScreen_calls config answer now)
        fun _ ends => by cases ends
    next => exact sound.same there (.setSlot state index _ rfl rfl) rfl fun _ ends => by cases ends
  | @check state index payloadSize there point =>
    refine sound.same there (.refl state) rfl fun other ends => ?_
    unfold nextLook at ends
    split at ends
    next => cases ends
    split at ends
    next => cases ends
    next => split at ends <;> cases ends
  | @copy state index payloadSize data there point present rxWire =>
    exact sound.same there (.setSlot state index _ rfl rfl) rfl fun _ ends => by cases ends
  | endNothing resting missing =>
    refine sound.moved (.done none []) ?_ (fun _ equal => by cases equal) (fun _ _ _ ends => by cases ends)
    rw [missing]
    rfl
  | @endSession state there resting =>
    obtain ⟨ledger, kept⟩ := closeCapture_ends (sound.kept state there)
    refine sound.moved ⟨_, .ending 0, _⟩ ?_ ?_ ?_
    · rw [there]
      exact ledger
    · intro left equal
      cases equal
      exact kept
    · intro left index equal ends
      cases equal
      cases ends
      exact ⟨rfl, fun moved => absurd rfl moved⟩
  | @endLast state there point held =>
    obtain ⟨ledger, kept, _⟩ := stopMirror_ends (sound.kept state there) 2
    refine sound.moved (.done (maybeReleaseState held (stopMirror state 2).1) _) ?_ ?_ (fun _ _ _ ends => by cases ends)
    · rw [MediaMove.done, there]
      dsimp only
      rw [(maybeReleaseState_owes kept).1]
      exact ledger
    · exact kept_of_released kept
  | @endSlot state index there point before held =>
    obtain ⟨ledger, kept, stopped⟩ := stopMirror_ends (sound.kept state there) index
    obtain ⟨uncaptured, unmirrored⟩ := sound.ending state index there point
    refine sound.moved ⟨_, .ending (index + 1), _⟩ ?_ ?_ ?_
    · rw [there]
      exact ledger
    · intro left equal
      cases equal
      exact kept
    · intro left _ equal ends
      cases equal
      refine ⟨uncaptured, fun _ => stopped ?_⟩
      by_cases first : index = 0
      · exact Or.inr first
      · exact Or.inl (unmirrored first)

theorem screenSound_invariant (config : MediaConfig) : Invariant ((mediaSystem config).guarded EndsBegin) ScreenSound where
  start := by
    rintro _ rfl
    constructor
    case ledger => rfl
    case kept =>
      intro state there
      cases there
    case ending =>
      intro state index there
      cases there
  step := by
    rintro before _ event sound ⟨ends, step⟩
    obtain ⟨move, stepped, rfl⟩ := mediaSystem_stepped step
    exact sound.step ends stepped

theorem screenUse_begins (code : EspErr) :
    screenUse (.begins code) = some .opens ∧ code = EspErr.ok ∨
      screenUse (.begins code) = some .attempts ∧ code ≠ EspErr.ok := by
  by_cases ok : code = EspErr.ok
  · exact Or.inl ⟨congrArg some (if_pos ok), ok⟩
  · exact Or.inr ⟨congrArg some (if_neg ok), ok⟩

theorem screenUse_closes (output : MediaOutput) : screenUse output = some .closes ↔ output = .ends := by
  cases output with
  | begins code => rcases screenUse_begins code with ⟨does, _⟩ | ⟨does, _⟩ <;> simp [does]
  | _ => simp [screenUse]

theorem screenUse_opens (output : MediaOutput) : screenUse output = some .opens ↔ output = .begins EspErr.ok := by
  cases output with
  | begins code =>
    rcases screenUse_begins code with ⟨does, ok⟩ | ⟨does, ok⟩
    · exact iff_of_true does (congrArg _ ok)
    · refine iff_of_false (fun opens => ?_) (fun same => ok (MediaOutput.begins.inj same))
      rw [does] at opens
      cases opens
  | _ => simp [screenUse]

theorem count_ends (outputs : List MediaOutput) : Bracket.count screenUse .closes outputs = outputs.count .ends := by
  unfold Bracket.count List.count
  congr 1
  funext output
  rw [Bool.eq_iff_iff, decide_eq_true_eq, screenUse_closes, beq_iff_eq]

theorem count_begins (absent : .begins EspErr.ok ∉ outputs) :
    Bracket.count screenUse .opens outputs = 0 := by
  unfold Bracket.count
  rw [List.countP_eq_zero]
  intro output inside opens
  rw [decide_eq_true_eq, screenUse_opens] at opens
  exact absent (opens ▸ inside)

theorem once_of_ordered (ordered : Bracket.ledger screenUse false outputs = some held) :
    ∀ before between rest code, outputs = before ++ .begins EspErr.ok :: (between ++ .begins code :: rest) →
      .begins EspErr.ok ∉ between → between.count .ends = 1 := by
  intro before between rest code split absent
  subst split
  rw [← count_ends]
  have again : screenUse (.begins code) = some .opens ∨ screenUse (.begins code) = some .attempts :=
    (screenUse_begins code).imp And.left And.left
  exact Bracket.one_close ordered rfl again (count_begins absent)

theorem ScreenSound.ended {run after : MediaRun} (sound : ScreenSound run) {event : MediaEvent}
    (step : (mediaSystem config).step run event after) (ends : endsSession event = true)
    (done : after.world.point = .resting) : Bracket.ledger screenUse false after.outputs = some false := by
  obtain ⟨move, stepped, rfl⟩ := mediaSystem_stepped step
  have always : EndsBegin run event := by
    cases event <;> first | exact trivial | cases ends
  have ordered := (sound.step always stepped).ledger
  cases stepped with
  | endNothing => exact ordered
  | endSession => cases done
  | endSlot => cases done
  | @endLast state there point held =>
    obtain ⟨uncaptured, unmirrored⟩ := sound.ending state 2 there point
    obtain ⟨_, kept, stopped⟩ := stopMirror_ends (sound.kept state there) 2
    have left : (stopMirror state 2).1.owes = false := by
      rw [MediaState.owes, stopped (Or.inl (unmirrored (by decide)))]
      exact (Bool.or_false _).trans uncaptured
    rw [ordered]
    exact congrArg some ((maybeReleaseState_owes kept).1.trans left)
  | _ => cases ends

def emptyOpens : List MediaEvent :=
  [.register ⟨1, true⟩ true, .frame (screenRequest MediaType.opening (List.replicate 16 0)) (beginsWith 0),
    .frame (screenRequest MediaType.opening (List.replicate 16 0)) (beginsWith 4)]

/-- While every begin that returns `ESP_OK` is one that the code can end, each is ended exactly once. -/
theorem screen_begin_end_balanced (config : MediaConfig) (run : MediaRun)
    (reached : Reachable ((mediaSystem config).guarded EndsBegin) run) : ScreenBalanced config run := by
  have sound := (screenSound_invariant config).reachable reached
  constructor
  case ordered => exact ⟨_, sound.ledger⟩
  case once => exact once_of_ordered sound.ledger
  case ended => exact fun event after step ends done => sound.ended step ends done

instance (run : MediaRun) (event : MediaEvent) : Decidable (EndsBegin run event) := by
  unfold EndsBegin
  split <;> infer_instance

/-- A capture that is opened, closed, and opened again before the session ends. -/
theorem screen_begin_end_balanced_twice :
    ∃ run, ScreenBalanced smallestConfig run ∧ run.outputs.count (.begins EspErr.ok) = 2 ∧ run.outputs.count .ends = 2 := by
  obtain ⟨run, reached, checked⟩ : ∃ run, Run ((mediaSystem smallestConfig).guarded EndsBegin) ⟨.initial, []⟩
      [.register ⟨1, true⟩ true, .frame (screenRequest MediaType.opening (List.replicate 16 0)) (beginsWith 4),
        .frame (screenRequest MediaType.close []) (beginsWith 4),
        .frame (screenRequest MediaType.opening (List.replicate 16 0)) (beginsWith 4), .endSession, .endSlot false,
        .endSlot false, .endSlot false] run ∧
      decide (run.outputs.count (.begins EspErr.ok) = 2 ∧ run.outputs.count .ends = 2) = true :=
    Run.of_guarded_check (by decide +kernel)
  exact ⟨run, screen_begin_end_balanced smallestConfig run ⟨_, _, rfl, reached⟩, of_decide_eq_true checked⟩

/-- An OPEN whose begin succeeds with nothing to read leaves it begun, so that the next OPEN begins again. -/
theorem screen_begins_twice :
    ¬ ∀ run, Reachable (mediaSystem smallestConfig) run → ScreenBalanced smallestConfig run := by
  intro balanced
  obtain ⟨run, reached, checked⟩ : ∃ run, Run (mediaSystem smallestConfig) ⟨.initial, []⟩ emptyOpens run ∧
      decide (Bracket.ledger screenUse false run.outputs = none) = true := Run.of_check (by decide +kernel)
  obtain ⟨held, ordered⟩ := (balanced run ⟨_, _, rfl, reached⟩).ordered
  rw [of_decide_eq_true checked] at ordered
  cases ordered

end EspIris.Device.Media
