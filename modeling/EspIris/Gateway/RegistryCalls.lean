import EspIris.Gateway.RegistrySound

/-! The calls that add an endpoint, take one out or wait for a supervisor keep the registry sound. -/

namespace EspIris.Gateway.Registry
open Machine

section calls
variable {hub : Hub} (sound : Sound hub)

theorem cancel_follows {supervisor : Supervisor}
    (alone : supervisor.cancelled = true → ∀ number stage, supervisor.phase ≠ .running number stage) :
    Follows hub supervisor supervisor.cancel := by
  unfold Supervisor.cancel
  split
  next quiet ended =>
    exact ⟨rfl, id, fun _ => id, fun _ _ _ => id, fun _ => id, fun _ => id, alone, fun _ _ _ => .inl⟩
  next session stage running =>
    refine ⟨rfl, nofun, nofun, ?_, ?_, nofun, nofun, nofun⟩
    · intro _ number _ held
      have active := Phase.active_of_held held
      rw [running] at active
      exact active
    · intro number active
      rw [running]
      exact active
  next unended still =>
    refine ⟨rfl, nofun, nofun, fun _ _ _ => id, fun _ => id, fun _ => id, fun _ => still, fun _ _ _ => .inl⟩

theorem cancel_cancelled {supervisor : Supervisor} (awake : supervisor.cancel.cancelled = false) :
    supervisor.cancel.phase.isEnded = true := by
  unfold Supervisor.cancel at awake ⊢
  split
  next ended =>
    rw [ended]
    rfl
  next running =>
    rw [running] at awake
    contradiction
  next unended still =>
    split at awake
    next quiet ended => exact absurd ended (unended quiet)
    next => contradiction
    next => contradiction

def Known (hub : Hub) (call : Call) : Prop :=
  ∀ endpoint number deviceId, call = .quiesce endpoint number deviceId →
    number < hub.made ∧ (hub.states number).endpoint = endpoint

include sound in
theorem Sound.complete {call : Call} (spares : Spares hub call)
    (known : Known hub call) : Sound (complete hub call) := by
  cases call with
  | remove endpoint =>
    have forgotten : Sound { hub with endpointStates := Function.update hub.endpointStates endpoint none } := by
      have kept : ∀ {place number}, Function.update hub.endpointStates endpoint none place = some number →
          hub.endpointStates place = some number := by
        intro place number found
        by_cases here : place = endpoint
        · subst here
          rw [Function.update_self] at found
          contradiction
        · rw [Function.update_of_ne here] at found
          exact found
      exact ⟨sound.entry, sound.enrolled, sound.owner, sound.supervised,
        fun registered opened runs awake found => sound.remembered registered opened runs awake (kept found),
        sound.unwinding, sound.reported, sound.found, fun found => sound.dictionary (kept found), sound.calls,
        sound.numbered, sound.counted, sound.named⟩
    exact forgotten.relock _ _ _
  | quiesce endpoint number deviceId =>
    obtain ⟨small, here⟩ := known endpoint number deviceId rfl
    -- a live session is registered neither under the device id nor at the endpoint
    have erased : Sound { hub with devices := popDevice hub deviceId } := by
      cases deviceId with
      | none => exact sound
      | some named =>
        apply sound.erase
        intro entry registered task supervisor runs enrolled
        have held := Phase.held_of_enrolled enrolled
        obtain ⟨session, opened, rfl, -⟩ := sound.owner runs (Phase.active_of_held held)
        have awake := sound.awake_of_enrolled runs enrolled
        have lives := live_of_held opened runs awake held
        exact (spares ⟨named, entry⟩ (mem_of_lookup registered) lives).1 rfl
    apply erased.setState number { hub.states number with deviceId := deviceId } rfl
    intro other session holder entry registered opened runs awake found
    have older : hub.devices.lookup other = some entry := by
      cases deviceId with
      | none => exact registered
      | some named => exact (lookup_of_erase registered).2
    obtain ⟨lives, place⟩ := sound.live_of_registered older opened runs awake
    have same := here.symm.trans (sound.dictionary found).2
    rw [← same] at place found
    exact absurd place ((spares ⟨other, entry⟩ (mem_of_lookup older) lives).2 found)

theorem taskOf_some {endpoint : Endpoint} {task : Nat} {supervisor : Supervisor}
    (found : taskOf hub endpoint = some (task, supervisor)) :
    hub.endpointTasks endpoint = some task ∧ hub.tasks task = some supervisor := by
  unfold taskOf at found
  obtain ⟨other, known, rest⟩ := Option.bind_eq_some_iff.mp found
  obtain ⟨runner, runs, same⟩ := Option.bind_eq_some_iff.mp rest
  cases same
  exact ⟨known, runs⟩

include sound in
theorem Sound.detach {call : Call} (spares : returnsAtOnce hub call.endpoint = true → Spares hub call)
    (known : Known hub call) : Sound (detach hub call) := by
  unfold Registry.detach
  split
  next none' =>
    apply sound.complete (spares _) known
    rw [returnsAtOnce, none']
    rfl
  next task supervisor found =>
    obtain ⟨supervised, runs⟩ := taskOf_some found
    dsimp only
    split
    next ended =>
      have popped : Sound { hub with endpointTasks := Function.update hub.endpointTasks call.endpoint none } := by
        apply sound.pop
        intro other runner runs' same _
        cases supervised.symm.trans same
        cases runs.symm.trans runs'
        rw [ended]
        rfl
      refine popped.complete ?_ known
      have spared : Spares hub call := by
        apply spares
        rw [returnsAtOnce, found, Option.all_some, ended, decide_eq_true_eq]
      exact spared
    next ended =>
      apply sound.pop
      intro other runner runs' same _
      cases supervised.symm.trans same
      cases runs.symm.trans runs'
      rw [ended]
      rfl
    have cancelled := sound.setTask runs (cancel_follows (sound.unwinding runs))
    have popped : Sound { hub.setTask task supervisor.cancel with
        endpointTasks := Function.update hub.endpointTasks call.endpoint none } := by
      apply cancelled.pop
      intro other runner runs' same awake
      cases supervised.symm.trans same
      rw [tasks_setTask_same] at runs'
      cases runs'
      exact cancel_cancelled awake
    apply popped.setWaiting
    intro other endpoint number deviceId waits
    rcases List.mem_append.mp waits with old | new
    · exact sound.calls old
    · cases List.mem_singleton.mp new
      exact known endpoint number deviceId rfl

include sound in
theorem Sound.ensureState {endpoint : Endpoint}
    (vacant : hub.endpointStates endpoint = none → NoneLiveAt hub endpoint) :
    Sound (ensureState hub endpoint).1 ∧
      (ensureState hub endpoint).1.endpointStates endpoint = some (ensureState hub endpoint).2 ∧
      (ensureState hub endpoint).1.devices = hub.devices ∧
      (ensureState hub endpoint).1.endpointTasks = hub.endpointTasks := by
  unfold Registry.ensureState
  split
  next number known => exact ⟨sound, known, rfl, rfl⟩
  next absent => exact ⟨sound.describe rfl (vacant absent), Function.update_self .., rfl, rfl⟩

include sound in
theorem Sound.prepareQuiesce {endpoint : Endpoint} (lockFree : Bool)
    (vacant : hub.endpointStates endpoint = none → NoneLiveAt hub endpoint) :
    match prepareQuiesce hub endpoint lockFree with
    | .error raised => Sound raised
    | .ok (prepared, call) => Sound prepared ∧ Known prepared call ∧ call.endpoint = endpoint := by
  unfold Registry.prepareQuiesce
  cases endpoint with
  | tcp host port => exact sound
  | usb name =>
    obtain ⟨resolved, known, -, -⟩ := sound.ensureState vacant
    dsimp only
    split
    next raised failed =>
      split at failed
      · cases failed
        exact resolved
      · split at failed
        · cases failed
          exact resolved
        · cases failed
    next prepared call succeeded =>
      split at succeeded
      · cases succeeded
      · split at succeeded
        · cases succeeded
        · cases succeeded
          refine ⟨resolved.relock _ _ _, ?_, rfl⟩
          intro other number deviceId same
          cases same
          exact resolved.dictionary known

include sound in
theorem Sound.quiesceEndpoint {endpoint : Endpoint} {lockFree : Bool}
    (careful : Careful hub (.quiesce endpoint lockFree)) : Sound (quiesceEndpoint hub endpoint lockFree) := by
  have prepared := sound.prepareQuiesce lockFree careful.1
  have spared := careful.2
  unfold QuiescesSparing at spared
  unfold Registry.quiesceEndpoint
  split
  next raised same =>
    rw [same] at prepared
    exact prepared
  next hub' call same =>
    rw [same] at prepared spared
    obtain ⟨sound', known, place⟩ := prepared
    apply sound'.detach _ known
    rw [place]
    exact spared

include sound in
theorem Sound.removeEndpoint (endpoint : Endpoint) (discovery : Option String) :
    Sound (removeEndpoint hub endpoint discovery) := by
  unfold Registry.removeEndpoint
  split
  · apply sound.detach
    · intro _
      trivial
    · intro place number deviceId same
      cases same
  · exact sound

include sound in
theorem Sound.announce (number : Nat) (advertised : Option DeviceId) : Sound (announce hub number advertised) := by
  cases advertised with
  | none => exact sound
  | some deviceId =>
    apply sound.setState number
      { hub.states number with advertisedDeviceId := some deviceId, discovery := some "mdns" } rfl
    intro other session holder entry registered present runs awake same
    exact sound.remembered registered present runs awake same

include sound in
theorem Sound.addSupervisor {endpoint : Endpoint} {advertised : Option DeviceId} {lockFree : Bool}
    (vacant : hub.closing = false → hub.endpointStates endpoint = none → NoneLiveAt hub endpoint) :
    Sound (addSupervisor hub endpoint advertised lockFree) := by
  unfold Registry.addSupervisor
  split
  next => exact sound
  next opened =>
    obtain ⟨resolved, known, -, -⟩ := sound.ensureState (vacant (by simpa using opened))
    have sound' := resolved.announce (Registry.ensureState hub endpoint).2 advertised
    dsimp only
    generalize Registry.announce _ _ advertised = described at sound'
    split
    next => exact sound'
    next alone =>
      split
      next => exact sound'
      split
      next => exact sound'
      have relocked := sound'.relock (Function.update described.locks endpoint true)
        described.maintenanceEndpoints described.closing
      exact relocked.spawn (by simpa using alone)

include sound in
theorem Sound.resumeMaintenanceEndpoint (endpoint : Endpoint) (lockFree : Bool) :
    Sound (resumeMaintenanceEndpoint hub endpoint lockFree) := by
  unfold Registry.resumeMaintenanceEndpoint
  split
  next reserved =>
    apply (sound.relock _ _ _).addSupervisor
    intro _ absent
    rw [show hub.endpointStates endpoint = none from absent] at reserved
    exact absurd reserved.2 nofun
  next => exact sound

include sound in
theorem Sound.closeHub : Sound (closeHub hub) := by
  have cancelled : Sound { hub with
      tasks := fun task => (hub.tasks task).map fun supervisor =>
        if hub.endpointTasks supervisor.endpoint = some task then supervisor.cancel else supervisor } := by
    apply sound.retask
    · intro task after moved
      obtain ⟨before, runs, same⟩ := Option.map_eq_some_iff.mp moved
      refine ⟨before, runs, ?_⟩
      split at same
      · cases same
        exact cancel_follows (sound.unwinding runs)
      · cases same
        exact sound.follows_self runs
    · intro task before runs
      refine ⟨if hub.endpointTasks before.endpoint = some task then before.cancel else before, ?_⟩
      rw [runs]
      rfl
  exact cancelled.relock _ _ _

include sound in
theorem Sound.resumeWaiting {index : Nat} {after : Hub} (careful : Careful hub (.waited index))
    (step : resumeWaiting hub index = some after) : Sound after := by
  unfold Registry.resumeWaiting at step
  obtain ⟨⟨task, call⟩, waits, rest⟩ := Option.bind_eq_some_iff.mp step
  obtain ⟨supervisor, runs, ended⟩ := Option.bind_eq_some_iff.mp rest
  have known : Known hub call := by
    rintro endpoint number deviceId rfl
    exact sound.calls (List.mem_of_getElem? waits)
  have woken : Sound { hub with waiting := hub.waiting.eraseIdx index } := by
    apply sound.setWaiting
    intro other endpoint number deviceId left
    exact sound.calls (List.mem_of_mem_eraseIdx left)
  dsimp only at ended
  split at ended
  next quiet gone =>
    cases ended
    cases quiet with
    | false => exact woken
    | true =>
      apply woken.complete _ known
      simp only [Careful, waits] at careful
      apply careful
      rw [hasEnded, runs, Option.any_some, gone, decide_eq_true_eq]
  next => contradiction

end calls

end EspIris.Gateway.Registry
