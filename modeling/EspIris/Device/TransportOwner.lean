import EspIris.Device.Link

/-! Which transport owns the session: what starting, stopping and polling one transport does to the drivers and to
what each of them has reported. -/

namespace EspIris.Device
variable {manager : TransportManager} {kind : TransportKind} {input : LinkInput}

/-- What every step of a fold establishes for its element, and no step undoes, holds of all of them in the end. -/
theorem foldl_establishes {Element State : Type} (step : State → Element → State) (goal : Element → State → Prop)
    (here : ∀ state element, goal element (step state element))
    (keeps : ∀ state element other, goal other state → goal other (step state element))
    (elements : List Element) (state : State) : ∀ element ∈ elements, goal element (elements.foldl step state) := by
  induction elements generalizing state with
  | nil => exact fun element member => absurd member List.not_mem_nil
  | cons first later ih =>
    rw [List.foldl_cons]
    intro element member
    rcases List.mem_cons.mp member with rfl | member
    · exact List.foldlRecOn later step (here state element) fun state holds other _ => keeps state other element holds
    · exact ih _ element member

theorem startKind_other {kind other : TransportKind} (manager : TransportManager) (input : LinkInput)
    (apart : other ≠ kind) : (manager.startKind kind input).stateFor other = manager.stateFor other := by
  cases kind <;> cases other <;> first | rfl | exact absurd rfl apart

theorem stopKind_other {kind other : TransportKind} (manager : TransportManager) (input : LinkInput)
    (apart : other ≠ kind) : (manager.stopKind kind input).stateFor other = manager.stateFor other := by
  cases kind <;> cases other <;> first | rfl | exact absurd rfl apart

theorem pollKind_other {kind other : TransportKind} (manager : TransportManager) (input : LinkInput)
    (apart : other ≠ kind) : (manager.pollKind kind input).1.stateFor other = manager.stateFor other := by
  cases kind <;> cases other <;> first | rfl | exact absurd rfl apart

/-- A driver runs once it is started, or stays down where the start fails; nothing is reported of it yet. -/
theorem startKind_same (manager : TransportManager) (kind : TransportKind) (input : LinkInput)
    (down : (manager.stateFor kind).driverStarted = false) :
    ((manager.startKind kind input).stateFor kind).driverStarted = input.starts kind ∧
      ((manager.stateFor kind).reportedLinkUp = false →
        ((manager.startKind kind input).stateFor kind).reportedLinkUp = false) := by
  cases kind with
  | usb =>
    change (usbStart manager.usb input).driverStarted = _ ∧ (_ → (usbStart manager.usb input).reportedLinkUp = false)
    change manager.usb.driverStarted = false at down
    unfold usbStart
    rw [down]
    cases input.starts .usb with
    | true => exact ⟨rfl, fun _ => rfl⟩
    | false => exact ⟨down, id⟩
  | tcp =>
    change (tcpStart manager.tcp input).driverStarted = _ ∧ (_ → (tcpStart manager.tcp input).reportedLinkUp = false)
    change manager.tcp.driverStarted = false at down
    unfold tcpStart
    rw [down]
    cases input.starts .tcp with
    | true =>
      rw [if_neg Bool.false_ne_true]
      dsimp only
      rw [if_pos rfl, openListener_listening]
      exact ⟨rfl, fun _ => rfl⟩
    | false => exact ⟨rfl, fun _ => rfl⟩
  | usbSerialJtag =>
    change (usbSerialJtagStart manager.usbSerialJtag input).driverStarted = _ ∧
      (_ → (usbSerialJtagStart manager.usbSerialJtag input).reportedLinkUp = false)
    change manager.usbSerialJtag.driverStarted = false at down
    unfold usbSerialJtagStart
    rw [down]
    cases input.starts .usbSerialJtag with
    | true => exact ⟨rfl, fun _ => rfl⟩
    | false => exact ⟨down, id⟩

/-- A stopped driver has no link to report; that of the USB-Serial-JTAG may refuse to go. -/
theorem stopKind_same (manager : TransportManager) (kind : TransportKind) (input : LinkInput)
    (up : (manager.stateFor kind).driverStarted = true) :
    ((manager.stopKind kind input).stateFor kind).driverStarted = (decide (kind = .usbSerialJtag) && !input.stops) ∧
      ((manager.stopKind kind input).stateFor kind).reportedLinkUp = false := by
  cases kind with
  | usb =>
    change (usbStop manager.usb).driverStarted = false ∧ (usbStop manager.usb).reportedLinkUp = false
    change manager.usb.driverStarted = true at up
    rw [usbStop, if_pos up]
    exact ⟨rfl, rfl⟩
  | tcp => exact ⟨rfl, rfl⟩
  | usbSerialJtag =>
    change (usbSerialJtagStop manager.usbSerialJtag input).driverStarted = !input.stops ∧
      (usbSerialJtagStop manager.usbSerialJtag input).reportedLinkUp = false
    change manager.usbSerialJtag.driverStarted = true at up
    rw [usbSerialJtagStop, if_pos up]
    exact ⟨rfl, rfl⟩

def Reports (before after : TransportState) : LinkEvent → Prop
  | .connected => before.reportedLinkUp = false ∧ after.reportedLinkUp = true
  | .disconnected => before.reportedLinkUp = true ∧ after.reportedLinkUp = false
  | .none => after.reportedLinkUp = before.reportedLinkUp

theorem Reports.of_reported {first before after : TransportState} {event : LinkEvent}
    (reports : Reports first after event) (same : first.reportedLinkUp = before.reportedLinkUp) :
    Reports before after event := by
  cases event with
  | connected => exact ⟨same.symm.trans reports.1, reports.2⟩
  | disconnected => exact ⟨same.symm.trans reports.1, reports.2⟩
  | none => exact Eq.trans reports same

theorem reportEdge_reports (state : TransportState) : Reports state (reportEdge state).1 (reportEdge state).2 := by
  obtain ⟨listening, client, linkUp, reportedLinkUp, driverStarted, hostOpen, disconnectPending⟩ := state
  cases linkUp <;> cases reportedLinkUp <;> first | rfl | exact ⟨rfl, rfl⟩

theorem reportEdge_started (state : TransportState) : (reportEdge state).1.driverStarted = state.driverStarted := by
  unfold reportEdge
  split <;> rfl

theorem tcpAccept_kept (state : TransportState) (input : LinkInput) (connection : Nat) :
    (tcpAccept state input connection).driverStarted = state.driverStarted ∧
      (tcpAccept state input connection).reportedLinkUp = state.reportedLinkUp := by
  unfold tcpAccept
  split <;> exact ⟨rfl, rfl⟩

theorem pollKind_reports (manager : TransportManager) (kind : TransportKind) (input : LinkInput) :
    Reports (manager.stateFor kind) ((manager.pollKind kind input).1.stateFor kind)
      (manager.pollKind kind input).2 := by
  cases kind with
  | usb =>
    change Reports manager.usb (usbPoll manager.usb input).1 (usbPoll manager.usb input).2
    unfold usbPoll
    split
    next pending => exact ⟨pending.2, rfl⟩
    next => exact reportEdge_reports _
  | tcp =>
    change Reports manager.tcp (tcpTransportPoll manager.tcp input manager.accepted).1
      (tcpTransportPoll manager.tcp input manager.accepted).2
    refine (reportEdge_reports _).of_reported ?_
    rw [(tcpAccept_kept _ _ _).2, openListener_listening]
  | usbSerialJtag => exact reportEdge_reports _

theorem pollKind_started (manager : TransportManager) (kind : TransportKind) (input : LinkInput) :
    ((manager.pollKind kind input).1.stateFor kind).driverStarted = (manager.stateFor kind).driverStarted := by
  cases kind with
  | usb =>
    change (usbPoll manager.usb input).1.driverStarted = manager.usb.driverStarted
    unfold usbPoll
    split
    · rfl
    · exact reportEdge_started _
  | tcp =>
    change (tcpTransportPoll manager.tcp input manager.accepted).1.driverStarted = manager.tcp.driverStarted
    unfold tcpTransportPoll
    rw [reportEdge_started, (tcpAccept_kept _ _ _).1, openListener_listening]
  | usbSerialJtag => exact reportEdge_started _

structure Owned (manager : TransportManager) : Prop where
  reported : ∀ kind, (manager.stateFor kind).reportedLinkUp = decide (manager.active = some kind)
  running : ∀ kind, manager.active = some kind → (manager.stateFor kind).driverStarted = true

/-- Its fields, with what one operation does to the state of one transport. -/
theorem Owned.of_other {before after : TransportManager} (owned : Owned before) (kind : TransportKind)
    (active : after.active = before.active)
    (others : ∀ other, other ≠ kind → after.stateFor other = before.stateFor other)
    (reported : (after.stateFor kind).reportedLinkUp = decide (after.active = some kind))
    (running : after.active = some kind → (after.stateFor kind).driverStarted = true) : Owned after where
  reported := by
    intro other
    by_cases same : other = kind
    · rw [same]
      exact reported
    · rw [others other same, active]
      exact owned.reported other
  running := by
    intro other here
    by_cases same : other = kind
    · subst same
      exact running here
    · rw [others other same]
      exact owned.running other (active.symm.trans here)

theorem Owned.silent (owned : Owned manager) (other : manager.active ≠ some kind) :
    (manager.stateFor kind).reportedLinkUp = false := by
  rw [owned.reported, decide_eq_false other]

theorem Owned.startKind (owned : Owned manager) (down : (manager.stateFor kind).driverStarted = false)
    (input : LinkInput) :
    Owned (manager.startKind kind input) := by
  have other : manager.active ≠ some kind := by
    intro here
    rw [owned.running kind here] at down
    contradiction
  have active := (startKind_active manager kind input).1
  refine owned.of_other kind active (fun other apart => startKind_other manager input apart) ?_ ?_
  · rw [(startKind_same manager kind input down).2 (owned.silent other), active, decide_eq_false other]
  · intro here
    exact absurd (active.symm.trans here) other

theorem Owned.stopKind (owned : Owned manager) (other : manager.active ≠ some kind)
    (up : (manager.stateFor kind).driverStarted = true) (input : LinkInput) :
    Owned (manager.stopKind kind input) := by
  have active := (stopKind_active manager kind input).1
  refine owned.of_other kind active (fun other apart => stopKind_other manager input apart) ?_ ?_
  · rw [(stopKind_same manager kind input up).2, active, decide_eq_false other]
  · intro here
    exact absurd (active.symm.trans here) other

theorem Owned.closes {before after : TransportManager} (owned : Owned before) (closes : Closes before after) :
    Owned after := by
  obtain rfl | ⟨_, rfl⟩ := closes
  · exact owned
  · exact owned.of_other .tcp rfl (by intro other apart; cases other <;> first | rfl | exact absurd rfl apart)
      (owned.reported .tcp) (owned.running .tcp)

theorem owned_idle (idle : manager.active = none) (silent : ∀ kind, (manager.stateFor kind).reportedLinkUp = false)
    : Owned manager where
  reported := by
    intro kind
    rw [silent, idle]
    rfl
  running := by
    intro kind here
    rw [idle] at here
    contradiction

def Offers (state : TransportState) (input : LinkInput) : TransportKind → Prop
  | .usb => state.hostOpen = true ∧ input.mounted = true
  | .tcp => Accepts state input
  | .usbSerialJtag => input.jtagConnected = true

theorem reportEdge_connected {state : TransportState} (up : state.linkUp = true)
    (silent : state.reportedLinkUp = false) :
    (reportEdge state).2 = .connected := by
  unfold reportEdge
  rw [up, silent]
  rfl

theorem pollKind_offers (started : (manager.stateFor kind).driverStarted = true)
    (silent : (manager.stateFor kind).reportedLinkUp = false) (offers : Offers (manager.stateFor kind) input kind) :
    (manager.pollKind kind input).2 = .connected := by
  cases kind with
  | usb =>
    obtain ⟨opened, mounted⟩ := offers
    have told : ¬ (manager.usb.disconnectPending = true ∧ manager.usb.reportedLinkUp = true) := by
      rw [show manager.usb.reportedLinkUp = false from silent]
      exact fun both => Bool.false_ne_true both.2
    change (usbPoll manager.usb input).2 = .connected
    unfold usbPoll
    rw [if_neg told]
    refine reportEdge_connected ?_ silent
    change (manager.usb.driverStarted && manager.usb.hostOpen && input.mounted) = true
    rw [show manager.usb.driverStarted = true from started, show manager.usb.hostOpen = true from opened, mounted]
    rfl
  | tcp =>
    have accepts : Accepts manager.tcp input := offers
    change (tcpTransportPoll manager.tcp input manager.accepted).2 = .connected
    rw [tcpTransportPoll_accepts manager.accepted accepts]
    exact reportEdge_connected rfl silent
  | usbSerialJtag =>
    refine reportEdge_connected ?_ silent
    change (manager.usbSerialJtag.driverStarted && input.jtagConnected) = true
    rw [show manager.usbSerialJtag.driverStarted = true from started, show input.jtagConnected = true from offers]
    rfl

section manager
variable (config : Config)

theorem startMissing_owned (owned : Owned manager) (input : LinkInput) :
    Owned (startMissing config manager input) ∧ (startMissing config manager input).active = manager.active := by
  unfold startMissing
  generalize config.transports = kinds
  induction kinds generalizing manager with
  | nil => exact ⟨owned, rfl⟩
  | cons kind kinds ih =>
    rw [List.foldl_cons]
    split
    · exact ih owned
    next down =>
      obtain ⟨started, active⟩ := ih (owned.startKind (Bool.eq_false_of_not_eq_true down) input)
      exact ⟨started, active.trans (startKind_active manager kind input).1⟩

theorem startMissing_kept (manager : TransportManager) (input : LinkInput) :
    (startMissing config manager input).committed = manager.committed ∧
      (startMissing config manager input).retryAfterUs = manager.retryAfterUs := by
  unfold startMissing
  generalize config.transports = kinds
  induction kinds generalizing manager with
  | nil => exact ⟨rfl, rfl⟩
  | cons kind kinds ih =>
    rw [List.foldl_cons]
    split
    · exact ih manager
    · obtain ⟨committed, retry⟩ := ih (manager.startKind kind input)
      refine ⟨committed.trans (startKind_active manager kind input).2, retry.trans ?_⟩
      cases kind <;> rfl

def Tried (manager : TransportManager) (input : LinkInput) : Prop :=
  ∀ kind ∈ config.transports, (manager.stateFor kind).driverStarted = true ∨ input.starts kind = false

theorem startMissing_tried (manager : TransportManager) (input : LinkInput) :
    Tried config (startMissing config manager input) input := by
  unfold Tried startMissing
  refine foldl_establishes _ (fun kind (manager : TransportManager) =>
    (manager.stateFor kind).driverStarted = true ∨ input.starts kind = false) ?_ ?_ config.transports manager
  · intro manager kind
    split
    next up => exact .inl up
    next down =>
      rw [(startKind_same manager kind input (Bool.eq_false_of_not_eq_true down)).1]
      exact Bool.eq_false_or_eq_true _
  · intro manager kind other tried
    refine tried.imp_left fun up => ?_
    split
    · exact up
    next down =>
      have apart : other ≠ kind := by
        rintro rfl
        exact down up
      rw [startKind_other manager input apart]
      exact up

theorem stopLosers_owned (owned : Owned manager) (input : LinkInput) :
    Owned (stopLosers config manager input) ∧
      (stopLosers config manager input).active = manager.active ∧
      (stopLosers config manager input).committed = manager.committed := by
  unfold stopLosers
  generalize config.transports = kinds
  induction kinds generalizing manager with
  | nil => exact ⟨owned, rfl, rfl⟩
  | cons kind kinds ih =>
    rw [List.foldl_cons]
    split
    · exact ih owned
    next loser =>
      split
      next up =>
        obtain ⟨stopped, active, committed⟩ := ih (owned.stopKind loser up input)
        obtain ⟨owner, same⟩ := stopKind_active manager kind input
        exact ⟨stopped, active.trans owner, committed.trans same⟩
      next => exact ih owned

def LosersDown (manager : TransportManager) (refused : Bool) : Prop :=
  ∀ kind ∈ config.transports, manager.active ≠ some kind →
    (manager.stateFor kind).driverStarted = false ∨ kind = .usbSerialJtag ∧ refused = true

theorem stopLosers_down (manager : TransportManager) (input : LinkInput) :
    LosersDown config (stopLosers config manager input) (!input.stops) := by
  unfold LosersDown stopLosers
  refine foldl_establishes _ (fun kind (manager : TransportManager) => manager.active ≠ some kind →
    (manager.stateFor kind).driverStarted = false ∨ kind = .usbSerialJtag ∧ (!input.stops) = true) ?_ ?_
    config.transports manager
  · intro manager kind
    split
    next owner => exact fun loser => absurd owner loser
    · split
      next up =>
        intro _
        rw [(stopKind_same manager kind input up).1]
        by_cases jtag : kind = .usbSerialJtag
        · rw [decide_eq_true jtag, Bool.true_and]
          exact (Bool.eq_false_or_eq_true _).symm.imp_right fun refused => ⟨jtag, refused⟩
        · rw [decide_eq_false jtag]
          exact .inl rfl
      next down => exact fun _ => .inl (Bool.eq_false_of_not_eq_true down)
  · intro manager kind other stopped
    split
    · exact stopped
    · split
      next up =>
        rw [(stopKind_active manager kind input).1]
        by_cases same : other = kind
        · subst same
          intro loser
          obtain down | refused := stopped loser
          · exact absurd up (Bool.eq_false_iff.mp down)
          · exact .inr refused
        · rw [stopKind_other manager input same]
          exact stopped
      next => exact stopped

inductive Scan (input : LinkInput) (before : TransportManager) : TransportManager × LinkEvent → Prop
  | found (after : TransportManager) (kind : TransportKind) (active : after.active = some kind)
      (uncommitted : after.committed = false) (deadline : after.claimDeadlineUs = input.now + config.claimTimeoutUs)
      (owned : Owned after)
      (started : ∀ kind, (after.stateFor kind).driverStarted = (before.stateFor kind).driverStarted) :
      Scan input before (after, .connected)
  | empty (after : TransportManager) (idle : after.active = none) (committed : after.committed = before.committed)
      (owned : Owned after)
      (started : ∀ kind, (after.stateFor kind).driverStarted = (before.stateFor kind).driverStarted) :
      Scan input before (after, .none)

theorem pollKind_active_same (manager : TransportManager) (kind : TransportKind) (input : LinkInput) :
    (manager.pollKind kind input).1.active = manager.active ∧
      (manager.pollKind kind input).1.committed = manager.committed ∧
      (manager.pollKind kind input).1.claimDeadlineUs = manager.claimDeadlineUs ∧
      (manager.pollKind kind input).1.retryAfterUs = manager.retryAfterUs := by
  cases kind <;> exact ⟨rfl, rfl, rfl, rfl⟩

theorem pollKind_started_all (manager : TransportManager) (kind other : TransportKind) (input : LinkInput) :
    ((manager.pollKind kind input).1.stateFor other).driverStarted = (manager.stateFor other).driverStarted := by
  by_cases same : other = kind
  · rw [same]
    exact pollKind_started manager kind input
  · rw [pollKind_other manager input same]

theorem Owned.pollKind (owned : Owned manager)
    (same : ((manager.pollKind kind input).1.stateFor kind).reportedLinkUp = (manager.stateFor kind).reportedLinkUp) :
    Owned (manager.pollKind kind input).1 := by
  have active := (pollKind_active_same manager kind input).1
  refine owned.of_other kind active (fun other apart => pollKind_other manager input apart) ?_ ?_
  · rw [same, active]
    exact owned.reported kind
  · intro here
    rw [pollKind_started]
    exact owned.running kind (active.symm.trans here)

/-- While no transport is active, a poll that does not connect leaves the ownership alone. -/
theorem Owned.pollKind_idle (owned : Owned manager) (idle : manager.active = none)
    (quiet : (manager.pollKind kind input).2 ≠ .connected) :
    Owned (manager.pollKind kind input).1 := by
  have reports := pollKind_reports manager kind input
  cases event : (manager.pollKind kind input).2 with
  | connected => exact absurd event quiet
  | none =>
    rw [event] at reports
    exact owned.pollKind reports
  | disconnected =>
    rw [event] at reports
    have told : (manager.stateFor kind).reportedLinkUp = true := reports.1
    rw [owned.silent (by rw [idle]; nofun)] at told
    contradiction

theorem scanTransports_scan (input : LinkInput) (indices : List Nat) (owned : Owned manager)
    (idle : manager.active = none) :
    Scan config input manager (scanTransports config input indices manager) := by
  induction indices generalizing manager with
  | nil => exact .empty manager idle rfl owned fun _ => rfl
  | cons index later ih =>
    unfold scanTransports
    split
    · exact ih owned idle
    next kind _ =>
      split
      · exact ih owned idle
      split
      · exact ih owned idle
      next up =>
        obtain ⟨active, committed, -, -⟩ := pollKind_active_same manager kind input
        dsimp only
        split
        next quiet =>
          have later := ih (owned.pollKind_idle idle quiet) (active.trans idle)
          revert later
          generalize scanTransports config input _ _ = result
          intro scan
          cases scan with
          | found after kind active uncommitted deadline owned drivers =>
            exact .found after kind active uncommitted deadline owned fun other =>
              (drivers other).trans (pollKind_started_all manager _ other input)
          | empty after idle same owned drivers =>
            exact .empty after idle (same.trans committed) owned fun other =>
              (drivers other).trans (pollKind_started_all manager _ other input)
        next connected =>
          have reports := pollKind_reports manager kind input
          rw [not_not.mp connected] at reports
          refine .found _ kind rfl rfl rfl ⟨?_, ?_⟩ (pollKind_started_all manager kind · input)
          · intro other
            by_cases same : other = kind
            · subst same
              exact reports.2.trans (decide_eq_true rfl).symm
            · have quiet : ((manager.pollKind kind input).1.stateFor other).reportedLinkUp = false := by
                rw [pollKind_other manager input same]
                exact owned.silent (by rw [idle]; nofun)
              exact quiet.trans (decide_eq_false fun here => same (Option.some.inj here).symm).symm
          · intro other here
            cases here
            exact (pollKind_started manager kind input).trans (Bool.eq_true_of_not_eq_false up)

/-- A scan that comes to a waiting link claims it, or another before it. -/
theorem scanTransports_claims {indices : List Nat} (owned : Owned manager) (idle : manager.active = none) {index : Nat}
    (visited : index ∈ indices) (there : config.transports[index]? = some kind)
    (due : manager.retryAfterUs kind ≤ input.now) (started : (manager.stateFor kind).driverStarted = true)
    (offers : Offers (manager.stateFor kind) input kind) :
    (scanTransports config input indices manager).2 = .connected := by
  induction indices generalizing manager with
  | nil => exact absurd visited List.not_mem_nil
  | cons first later ih =>
    unfold scanTransports
    split
    next absent =>
      refine ih owned idle ?_ due started offers
      rcases List.mem_cons.mp visited with rfl | later
      · rw [there] at absent
        contradiction
      · exact later
    next other present =>
      by_cases same : other = kind
      · subst same
        rw [if_neg (not_lt.mpr due), if_neg (by rw [started]; nofun)]
        dsimp only
        rw [if_neg (not_not_intro (pollKind_offers started (owned.silent (by rw [idle]; nofun)) offers))]
      · have member : index ∈ later := by
          rcases List.mem_cons.mp visited with rfl | later
          · rw [there] at present
            exact absurd (Option.some.inj present).symm same
          · exact later
        split
        · exact ih owned idle member due started offers
        split
        · exact ih owned idle member due started offers
        dsimp only
        split
        next quiet =>
          obtain ⟨active, -, -, retry⟩ := pollKind_active_same manager other input
          have apart : kind ≠ other := fun here => same here.symm
          refine ih (owned.pollKind_idle idle quiet) (active.trans idle) member ?_ ?_ ?_
          · rw [retry]
            exact due
          · rw [pollKind_other manager input apart]
            exact started
          · rw [pollKind_other manager input apart]
            exact offers
        next => rfl

theorem mem_round {count start index : Nat} (below : index < count) :
    index ∈ (List.range count).map fun offset => (start + offset) % count := by
  rw [List.mem_map]
  refine ⟨(index + (count - start % count)) % count, List.mem_range.mpr (Nat.mod_lt _ (by omega)), ?_⟩
  have rest := Nat.mod_lt start (show 0 < count by omega)
  rw [Nat.add_mod, Nat.mod_mod, ← Nat.add_mod, ← Nat.mod_add_mod]
  have whole : start % count + (index + (count - start % count)) = index + count := by omega
  rw [whole, Nat.add_mod_right, Nat.mod_eq_of_lt below]

inductive Polling (input : LinkInput) (before : TransportManager) : TransportManager × LinkEvent → Prop
  | lost (after : TransportManager) (held : before.active ≠ none) (idle : after.active = none)
      (uncommitted : after.committed = false) (owned : Owned after) (tried : Tried config after input) :
      Polling input before (after, .disconnected)
  | kept (after : TransportManager) (held : before.active ≠ none) (active : after.active = before.active)
      (committed : after.committed = before.committed) (deadline : after.claimDeadlineUs = before.claimDeadlineUs)
      (owned : Owned after)
      (started : ∀ kind, (after.stateFor kind).driverStarted = (before.stateFor kind).driverStarted)
      (due : before.committed = true ∨ input.now < before.claimDeadlineUs) : Polling input before (after, .none)
  | claimed (after : TransportManager) (free : before.active = none) (active : after.active ≠ none)
      (uncommitted : after.committed = false) (deadline : after.claimDeadlineUs = input.now + config.claimTimeoutUs)
      (owned : Owned after) (tried : Tried config after input) : Polling input before (after, .connected)
  | searched (after : TransportManager) (free : before.active = none) (idle : after.active = none)
      (committed : after.committed = before.committed) (owned : Owned after) (tried : Tried config after input) :
      Polling input before (after, .none)

theorem owned_cleared {before manager : TransportManager} (owned : Owned before) (active : before.active = some kind)
    (others : ∀ other, other ≠ kind → manager.stateFor other = before.stateFor other)
    (silent : (manager.stateFor kind).reportedLinkUp = false) : Owned (clearActive manager) := by
  refine owned_idle rfl ?_
  intro other
  change (manager.stateFor other).reportedLinkUp = false
  by_cases same : other = kind
  · rw [same]
    exact silent
  · rw [others other same]
    refine owned.silent ?_
    rw [active]
    exact fun here => same (Option.some.inj here).symm

theorem irisTransportPoll_polling (owned : Owned manager) (input : LinkInput) :
    Polling config input manager (irisTransportPoll config manager input) := by
  unfold irisTransportPoll
  split
  next kind active =>
    have held : manager.active ≠ none := by rw [active]; nofun
    have lost {released : TransportManager} (cleared : Owned (clearActive released)) :
        Polling config input manager (startMissing config (clearActive released) input, .disconnected) := by
      obtain ⟨started, idle⟩ := startMissing_owned config cleared input
      exact .lost _ held idle (startMissing_kept config _ input).1 started (startMissing_tried config _ input)
    have others : ∀ other, other ≠ kind →
        (manager.pollKind kind input).1.stateFor other = manager.stateFor other := fun other apart =>
      pollKind_other manager input apart
    have reports := pollKind_reports manager kind input
    have told : (manager.stateFor kind).reportedLinkUp = true := by rw [owned.reported, active, decide_eq_true rfl]
    obtain ⟨same, committed, deadline, -⟩ := pollKind_active_same manager kind input
    dsimp only
    split
    next down =>
      rw [down] at reports
      exact lost (owned_cleared owned active others reports.2)
    next up =>
      have quiet : ((manager.pollKind kind input).1.stateFor kind).reportedLinkUp =
          (manager.stateFor kind).reportedLinkUp := by
        cases event : (manager.pollKind kind input).2 with
        | connected =>
          rw [event] at reports
          exact absurd (reports.1.symm.trans told) Bool.false_ne_true
        | none =>
          rw [event] at reports
          exact reports
        | disconnected => exact absurd event up
      have polled := owned.pollKind quiet
      split
      next expired =>
        have running : ((manager.pollKind kind input).1.stateFor kind).driverStarted = true :=
          polled.running kind (same.trans active)
        have silent := (stopKind_same (manager.pollKind kind input).1 kind input running).2
        have stopped : ∀ other, other ≠ kind →
            ((manager.pollKind kind input).1.stopKind kind input).stateFor other = manager.stateFor other :=
          fun other apart => (stopKind_other _ input apart).trans (others other apart)
        split
        · exact lost (owned_cleared owned active stopped silent)
        · exact lost (owned_cleared owned active stopped silent)
      next due =>
        refine .kept _ held same committed deadline polled (pollKind_started_all manager kind · input) ?_
        cases held : manager.committed with
        | true => exact .inl rfl
        | false => exact .inr (lt_of_not_ge fun expired => due ⟨held, expired⟩)
  next idle =>
    obtain ⟨started, still⟩ := startMissing_owned config owned input
    have tried := startMissing_tried config manager input
    have scan := scanTransports_scan config input ((List.range config.transports.length).map fun offset =>
      ((startMissing config manager input).scanStart + offset) % config.transports.length) started (still.trans idle)
    revert scan
    dsimp only
    generalize scanTransports config input _ _ = result
    intro scan
    cases scan with
    | found after kind active uncommitted deadline owned drivers =>
      refine .claimed after idle (by rw [active]; nofun) uncommitted deadline owned ?_
      intro other member
      rw [drivers]
      exact tried other member
    | empty after free committed owned drivers =>
      refine .searched after idle free (committed.trans (startMissing_kept config _ input).1) owned ?_
      intro other member
      rw [drivers]
      exact tried other member

/-- While no transport is active, a poll claims a link that waits on a transport that runs and is not held back. -/
theorem irisTransportPoll_claims (owned : Owned manager) (idle : manager.active = none)
    (member : kind ∈ config.transports) (due : manager.retryAfterUs kind ≤ input.now)
    (started : ((startMissing config manager input).stateFor kind).driverStarted = true)
    (offers : Offers ((startMissing config manager input).stateFor kind) input kind) :
    (irisTransportPoll config manager input).2 = .connected := by
  obtain ⟨index, below, there⟩ := List.getElem_of_mem member
  obtain ⟨held, still⟩ := startMissing_owned config owned input
  unfold irisTransportPoll
  rw [idle]
  dsimp only
  refine scanTransports_claims config held (still.trans idle) (mem_round below) ?_ ?_ started offers
  · rw [List.getElem?_eq_getElem below, there]
  · rw [(startMissing_kept config manager input).2]
    exact due

theorem irisTransportCommit_owned (owned : Owned manager) (input : LinkInput) :
    Owned (irisTransportCommit config manager input) ∧
      (irisTransportCommit config manager input).active = manager.active := by
  unfold irisTransportCommit
  split
  · exact ⟨owned, rfl⟩
  · have committed : Owned { manager with committed := true, claimDeadlineUs := 0 } := ⟨owned.reported, owned.running⟩
    obtain ⟨stopped, active, -⟩ := stopLosers_owned config committed input
    exact ⟨stopped, active⟩

end manager

end EspIris.Device
