import EspIris.Device.ProtocolTask

/-! What the transports and their manager can do to the link of a session: a call on the active
transport leaves the link or closes its TCP client, and a poll takes it, loses it or keeps it. -/

namespace EspIris.Device
variable {manager : TransportManager} {before after : TransportManager} {state : TransportState}
variable {kind : TransportKind}

def Closes (before after : TransportManager) : Prop :=
  after = before ∨ before.active = some .tcp ∧ after = { before with tcp := closeClient before.tcp }

theorem Closes.trans {first middle last : TransportManager} (left : Closes first middle)
    (right : Closes middle last) : Closes first last := by
  rcases left with rfl | ⟨active, rfl⟩
  · exact right
  · rcases right with rfl | ⟨-, rfl⟩
    · exact .inr ⟨active, rfl⟩
    · exact .inr ⟨active, rfl⟩

theorem Closes.owner (closes : Closes before after) :
    after.active = before.active ∧ after.committed = before.committed := by
  rcases closes with rfl | ⟨-, rfl⟩ <;> exact ⟨rfl, rfl⟩

def Carries (manager : TransportManager) : Prop := manager.active = some .tcp → manager.tcp.client ≠ none

theorem Closes.same (closes : Closes before after) (carries : Carries after) :
    after = before := by
  rcases closes with rfl | ⟨active, rfl⟩
  · rfl
  · exact absurd rfl (carries active)

theorem carries_of_cdc (active : manager.active = some kind) (other : kind ≠ .tcp) :
    Carries manager := fun tcp => absurd (Option.some.inj (active.symm.trans tcp)) other

theorem tcpTransportWrite_cases (state : TransportState) (write : LinkWrite) (length : Nat) :
    ((tcpTransportWrite state write length).1 = state ∨ (tcpTransportWrite state write length).1 = closeClient state) ∧
      ((tcpTransportWrite state write length).2 ≠ 0 → state.client ≠ none) := by
  unfold tcpTransportWrite
  split
  · exact ⟨.inl rfl, fun wrote => absurd rfl wrote⟩
  next client =>
    cases write with
    | accepted count => exact ⟨.inl rfl, fun _ => client⟩
    | nothing => exact ⟨.inl rfl, fun _ => client⟩
    | failed => exact ⟨.inr rfl, fun _ => client⟩

theorem tcpRead_cases (state : TransportState) (read : LinkRead) :
    ((tcpRead state read).1 = state ∨ (tcpRead state read).1 = closeClient state) ∧
      ((tcpRead state read).2 ≠ [] → state.client ≠ none) := by
  unfold tcpRead
  split
  · exact ⟨.inl rfl, fun some => absurd rfl some⟩
  next client =>
    cases read with
    | bytes data => exact ⟨.inl rfl, fun _ => client⟩
    | nothing => exact ⟨.inl rfl, fun _ => client⟩
    | closed => exact ⟨.inr rfl, fun _ => client⟩
    | failed => exact ⟨.inr rfl, fun _ => client⟩

theorem closes_of_tcp (active : manager.active = some .tcp)
    (cases : state = manager.tcp ∨ state = closeClient manager.tcp) : Closes manager { manager with tcp := state } := by
  rcases cases with same | closed
  · exact .inl (by rw [same])
  · exact .inr ⟨active, by rw [closed]⟩

theorem irisTransportWrite_cases (manager : TransportManager) (write : LinkWrite) (length : Nat) :
    Closes manager (irisTransportWrite manager write length).1 ∧
      ((irisTransportWrite manager write length).2 ≠ 0 → Carries manager) := by
  unfold irisTransportWrite
  split
  · exact ⟨.inl rfl, fun wrote => absurd rfl wrote⟩
  next active => exact ⟨.inl rfl, fun _ => carries_of_cdc active (by decide)⟩
  next active =>
    obtain ⟨states, wrote⟩ := tcpTransportWrite_cases manager.tcp write length
    exact ⟨closes_of_tcp active states, fun some _ => wrote some⟩
  next active => exact ⟨.inl rfl, fun _ => carries_of_cdc active (by decide)⟩

theorem irisTransportRead_cases (manager : TransportManager) (read : LinkRead) :
    Closes manager (irisTransportRead manager read).1 ∧
      ((irisTransportRead manager read).2 ≠ [] → Carries manager) := by
  unfold irisTransportRead
  split
  · exact ⟨.inl rfl, fun some => absurd rfl some⟩
  next active =>
    obtain ⟨states, received⟩ := tcpRead_cases manager.tcp read
    exact ⟨closes_of_tcp active states, fun some _ => received some⟩
  next kind other active => exact ⟨.inl rfl, fun _ => carries_of_cdc active fun tcp => other (by rw [tcp])⟩

theorem irisTransportDisconnect_closes (manager : TransportManager) :
    Closes manager (irisTransportDisconnect manager) := by
  unfold irisTransportDisconnect
  split
  next active => exact .inr ⟨active, rfl⟩
  next => exact .inl rfl

/-- The TCP transport has reported its link exactly while it is the active one, and a transport
that is not active has no client. -/
structure Reported (manager : TransportManager) : Prop where
  link : manager.tcp.linkUp = manager.tcp.client.isSome
  reported : manager.tcp.reportedLinkUp = decide (manager.active = some .tcp)
  client : manager.active ≠ some .tcp → manager.tcp.client = none

theorem Reported.closes (holds : Reported before) (closes : Closes before after) :
    Reported after := by
  rcases closes with rfl | ⟨active, rfl⟩
  · exact holds
  · exact ⟨rfl, holds.reported, fun _ => rfl⟩

theorem Reported.same (holds : Reported before) (tcp : after.tcp = before.tcp) (active : after.active = before.active) :
    Reported after :=
  ⟨tcp ▸ holds.link, by rw [tcp, active]; exact holds.reported, by
    rw [tcp, active]
    exact holds.client⟩

theorem Reported.reset (link : manager.tcp.linkUp = false) (client : manager.tcp.client = none)
    (reported : manager.tcp.reportedLinkUp = false) (active : manager.active ≠ some .tcp) : Reported manager :=
  ⟨by rw [link, client]; rfl, by rw [reported, decide_eq_false active], fun _ => client⟩

theorem openListener_listening (state : TransportState) (listens : Bool) :
    openListener state listens = { state with listening := state.listening || listens } := by
  unfold openListener
  split
  next up =>
    rw [up, Bool.true_or, ← up]
  next down =>
    rw [Bool.eq_false_of_not_eq_true down, Bool.false_or]

theorem tcpStart_cases (state : TransportState) (input : LinkInput) :
    tcpStart state input = state ∨ (tcpStart state input).linkUp = false ∧ (tcpStart state input).client = none ∧
      (tcpStart state input).reportedLinkUp = false := by
  unfold tcpStart
  split
  · exact .inl rfl
  dsimp only
  split
  · rw [openListener_listening]
    exact .inr ⟨rfl, rfl, rfl⟩
  · exact .inr ⟨rfl, rfl, rfl⟩

theorem Reported.startKind (holds : Reported manager) (kind : TransportKind) (input : LinkInput)
    (other : manager.active ≠ some .tcp) : Reported (manager.startKind kind input) := by
  cases kind with
  | usb | usbSerialJtag => exact ⟨holds.link, holds.reported, holds.client⟩
  | tcp =>
    rcases tcpStart_cases manager.tcp input with same | ⟨link, client, reported⟩
    · exact ⟨by rw [TransportManager.startKind, same]; exact holds.link,
        by rw [TransportManager.startKind, same]; exact holds.reported,
        by rw [TransportManager.startKind, same]; exact holds.client⟩
    · exact .reset link client reported other

theorem startKind_active (manager : TransportManager) (kind : TransportKind) (input : LinkInput) :
    (manager.startKind kind input).active = manager.active ∧
      (manager.startKind kind input).committed = manager.committed := by
  cases kind <;> exact ⟨rfl, rfl⟩

theorem stopKind_active (manager : TransportManager) (kind : TransportKind) (input : LinkInput) :
    (manager.stopKind kind input).active = manager.active ∧
      (manager.stopKind kind input).committed = manager.committed := by
  cases kind <;> exact ⟨rfl, rfl⟩

theorem Reported.stopKind (holds : Reported manager) (kind : TransportKind) (input : LinkInput)
    (other : manager.active ≠ some kind) : Reported (manager.stopKind kind input) := by
  cases kind with
  | usb | usbSerialJtag => exact ⟨holds.link, holds.reported, holds.client⟩
  | tcp => exact .reset rfl rfl rfl other

def Accepts (state : TransportState) (input : LinkInput) : Prop :=
  (state.listening || input.listens) = true ∧ input.accepts = true ∧ state.client = none

theorem tcpTransportPoll_accepts {input : LinkInput} (connection : Nat) (accepts : Accepts state input) :
    tcpTransportPoll state input connection = reportEdge { state with
      listening := state.listening || input.listens
      client := some connection
      linkUp := true } := by
  rw [tcpTransportPoll, openListener_listening]
  exact congrArg reportEdge (if_pos accepts)

theorem tcpTransportPoll_keeps {input : LinkInput} (connection : Nat) (keeps : ¬ Accepts state input) :
    tcpTransportPoll state input connection =
      reportEdge { state with listening := state.listening || input.listens } := by
  rw [tcpTransportPoll, openListener_listening]
  exact congrArg reportEdge (if_neg keeps)

section manager
variable (config : Config)

theorem startMissing_reported (manager : TransportManager) (input : LinkInput) (holds : Reported manager)
    (other : manager.active ≠ some .tcp) :
    Reported (startMissing config manager input) ∧ (startMissing config manager input).active = manager.active ∧
      (startMissing config manager input).committed = manager.committed := by
  unfold startMissing
  generalize config.transports = kinds
  induction kinds generalizing manager with
  | nil => exact ⟨holds, rfl, rfl⟩
  | cons kind kinds ih =>
    rw [List.foldl_cons]
    split
    · exact ih manager holds other
    · obtain ⟨active, committed⟩ := startKind_active manager kind input
      obtain ⟨started, activeAfter, committedAfter⟩ :=
        ih (manager.startKind kind input) (holds.startKind kind input other) (active ▸ other)
      exact ⟨started, activeAfter.trans active, committedAfter.trans committed⟩

theorem stopLosers_reported (manager : TransportManager) (input : LinkInput) (holds : Reported manager) :
    Reported (stopLosers config manager input) ∧ (stopLosers config manager input).active = manager.active ∧
      (stopLosers config manager input).committed = manager.committed ∧
      (manager.active = some .tcp → (stopLosers config manager input).tcp = manager.tcp) := by
  unfold stopLosers
  generalize config.transports = kinds
  induction kinds generalizing manager with
  | nil => exact ⟨holds, rfl, rfl, fun _ => rfl⟩
  | cons kind kinds ih =>
    rw [List.foldl_cons]
    split
    · exact ih manager holds
    next loser =>
      split
      · obtain ⟨active, committed⟩ := stopKind_active manager kind input
        obtain ⟨stopped, activeAfter, committedAfter, tcp⟩ := ih _ (holds.stopKind kind input loser)
        refine ⟨stopped, activeAfter.trans active, committedAfter.trans committed, fun owner => ?_⟩
        rw [tcp (active.trans owner)]
        cases kind with
        | usb => rfl
        | usbSerialJtag => rfl
        | tcp => exact absurd owner loser
      · exact ih manager holds

inductive Polled (input : LinkInput) (before : TransportManager) : TransportManager × LinkEvent → Prop
  | connected (after : TransportManager) (idle : before.active = none) (active : after.active ≠ none)
      (committed : after.committed = false) (reported : Reported after) : Polled input before (after, .connected)
  | disconnected (after : TransportManager) (owned : before.active ≠ none) (cleared : after.active = none)
      (committed : after.committed = false) (reported : Reported after) : Polled input before (after, .disconnected)
  | quiet (after : TransportManager) (active : after.active = before.active)
      (committed : after.committed = before.committed) (reported : Reported after)
      (client : after.active = some .tcp → after.tcp.client = before.tcp.client ∨ Accepts before.tcp input) :
      Polled input before (after, .none)

/-- A poll of TCP while no transport is active: it reports the client that it accepts. -/
theorem pollTcp_idle (holds : Reported manager) (idle : manager.active = none) (input : LinkInput) :
    (manager.pollKind .tcp input).1.active = none ∧ (manager.pollKind .tcp input).1.committed = manager.committed ∧
      if (manager.pollKind .tcp input).2 = .connected then
        Reported { (manager.pollKind .tcp input).1 with active := some .tcp }
      else Reported (manager.pollKind .tcp input).1 := by
  have silent : manager.tcp.reportedLinkUp = false := by rw [holds.reported, idle]; rfl
  have absent : manager.tcp.client = none := holds.client (by rw [idle]; simp)
  have down : manager.tcp.linkUp = false := by rw [holds.link, absent]; rfl
  refine ⟨idle, rfl, ?_⟩
  unfold TransportManager.pollKind
  dsimp only
  by_cases accepts : Accepts manager.tcp input
  · rw [tcpTransportPoll_accepts manager.accepted accepts]
    simp only [reportEdge, silent, Bool.true_eq_false, if_false, if_true]
    exact ⟨rfl, rfl, fun other => absurd rfl other⟩
  · rw [tcpTransportPoll_keeps manager.accepted accepts]
    simp only [reportEdge, silent, down, if_true, reduceCtorEq, if_false]
    exact .reset rfl absent rfl (by rw [idle]; simp)

theorem pollKind_idle (holds : Reported manager) (idle : manager.active = none) (kind : TransportKind)
    (input : LinkInput) :
    (manager.pollKind kind input).1.active = none ∧ (manager.pollKind kind input).1.committed = manager.committed ∧
      if (manager.pollKind kind input).2 = .connected then
        Reported { (manager.pollKind kind input).1 with active := some kind }
      else Reported (manager.pollKind kind input).1 := by
  have silent : manager.tcp.reportedLinkUp = false := by rw [holds.reported, idle]; rfl
  have absent : manager.tcp.client = none := holds.client (by rw [idle]; simp)
  cases kind with
  | tcp => exact pollTcp_idle holds idle input
  | usb =>
    refine ⟨idle, rfl, ?_⟩
    split
    · exact ⟨holds.link, silent, fun _ => absent⟩
    · exact ⟨holds.link, holds.reported, holds.client⟩
  | usbSerialJtag =>
    refine ⟨idle, rfl, ?_⟩
    split
    · exact ⟨holds.link, silent, fun _ => absent⟩
    · exact ⟨holds.link, holds.reported, holds.client⟩

theorem scanTransports_polled (input : LinkInput) (idle : before.active = none) (indices : List Nat)
    (holds : Reported manager) (still : manager.active = none) (committed : manager.committed = before.committed) :
    Polled input before (scanTransports config input indices manager) := by
  induction indices generalizing manager with
  | nil => exact .quiet manager (still.trans idle.symm) committed holds fun tcp => by rw [still] at tcp; cases tcp
  | cons index later ih =>
    unfold scanTransports
    split
    · exact ih holds still committed
    next kind _ =>
      obtain ⟨unclaimed, same, reported⟩ := pollKind_idle holds still kind input
      split
      · exact ih holds still committed
      split
      · exact ih holds still committed
      dsimp only
      split
      next other =>
        rw [if_neg other] at reported
        exact ih reported unclaimed (same.trans committed)
      next up =>
        rw [not_not] at up
        rw [if_pos up] at reported
        exact .connected _ idle (by simp) rfl ⟨reported.link, reported.reported, reported.client⟩

/-- A poll of TCP while it is active: it reports that its client is gone. -/
theorem pollTcp_active (holds : Reported manager) (active : manager.active = some .tcp) (input : LinkInput) :
    if (manager.pollKind .tcp input).2 = .disconnected then Reported (clearActive (manager.pollKind .tcp input).1)
    else Reported (manager.pollKind .tcp input).1 ∧
      ((manager.pollKind .tcp input).1.tcp.client = manager.tcp.client ∨ Accepts manager.tcp input) := by
  have told : manager.tcp.reportedLinkUp = true := by rw [holds.reported, active]; rfl
  unfold TransportManager.pollKind
  dsimp only
  by_cases accepts : Accepts manager.tcp input
  · rw [tcpTransportPoll_accepts manager.accepted accepts]
    simp only [reportEdge, told, if_true, reduceCtorEq, if_false]
    exact ⟨⟨rfl, by rw [active]; rfl, fun other => absurd active other⟩, .inr accepts⟩
  · rw [tcpTransportPoll_keeps manager.accepted accepts]
    cases client : manager.tcp.client with
    | none =>
      have down : manager.tcp.linkUp = false := by rw [holds.link, client]; rfl
      simp only [reportEdge, told, down, Bool.false_eq_true, if_false, if_true]
      exact .reset rfl rfl rfl (by simp [clearActive])
    | some connection =>
      have up : manager.tcp.linkUp = true := by rw [holds.link, client]; rfl
      simp only [reportEdge, told, up, if_true, reduceCtorEq, if_false]
      exact ⟨⟨rfl, by rw [active]; rfl, fun other => absurd active other⟩, .inl trivial⟩

theorem Reported.clear (holds : Reported manager) (other : manager.active ≠ some .tcp) :
    Reported (clearActive manager) :=
  ⟨holds.link, holds.reported.trans (decide_eq_false other), fun _ => holds.client other⟩

theorem pollKind_active (holds : Reported manager) (active : manager.active = some kind) (input : LinkInput) :
    (manager.pollKind kind input).1.active = some kind ∧
      (manager.pollKind kind input).1.committed = manager.committed ∧
      if (manager.pollKind kind input).2 = .disconnected then Reported (clearActive (manager.pollKind kind input).1)
      else Reported (manager.pollKind kind input).1 ∧
        (kind = .tcp →
          (manager.pollKind kind input).1.tcp.client = manager.tcp.client ∨ Accepts manager.tcp input) := by
  cases kind with
  | tcp =>
    refine ⟨active, rfl, ?_⟩
    have polled := pollTcp_active holds active input
    split
    next down =>
      rw [if_pos down] at polled
      exact polled
    next up =>
      rw [if_neg up] at polled
      exact ⟨polled.1, fun _ => polled.2⟩
  | usb =>
    refine ⟨active, rfl, ?_⟩
    have other : (manager.pollKind .usb input).1.active ≠ some .tcp := by
      intro tcp
      cases active.symm.trans tcp
    have polled : Reported (manager.pollKind .usb input).1 := holds.same rfl rfl
    split
    · exact polled.clear other
    · exact ⟨polled, fun tcp => by cases tcp⟩
  | usbSerialJtag =>
    refine ⟨active, rfl, ?_⟩
    have other : (manager.pollKind .usbSerialJtag input).1.active ≠ some .tcp := by
      intro tcp
      cases active.symm.trans tcp
    have polled : Reported (manager.pollKind .usbSerialJtag input).1 := holds.same rfl rfl
    split
    · exact polled.clear other
    · exact ⟨polled, fun tcp => by cases tcp⟩

theorem Reported.release (holds : Reported manager) (active : manager.active = some kind) (input : LinkInput)
    (retry : TransportKind → Int) :
    Reported (clearActive { manager.stopKind kind input with retryAfterUs := retry }) := by
  cases kind with
  | tcp => exact .reset rfl rfl rfl (by simp [clearActive])
  | usb =>
    have other : manager.active ≠ some .tcp := by rw [active]; simp
    exact ⟨holds.link, holds.reported.trans (decide_eq_false other), fun _ => holds.client other⟩
  | usbSerialJtag =>
    have other : manager.active ≠ some .tcp := by rw [active]; simp
    exact ⟨holds.link, holds.reported.trans (decide_eq_false other), fun _ => holds.client other⟩

theorem irisTransportPoll_polled (input : LinkInput) (holds : Reported manager) :
    Polled input manager (irisTransportPoll config manager input) := by
  unfold irisTransportPoll
  split
  next kind active =>
    obtain ⟨owned, committed, polled⟩ := pollKind_active holds active input
    have lost {released : TransportManager} (reported : Reported (clearActive released)) :
        Polled input manager (startMissing config (clearActive released) input, .disconnected) := by
      obtain ⟨started, cleared, uncommitted⟩ :=
        startMissing_reported config (clearActive released) input reported (by simp [clearActive])
      exact .disconnected _ (by rw [active]; simp) cleared uncommitted started
    dsimp only
    split
    next down =>
      rw [if_pos down] at polled
      exact lost polled
    next up =>
      rw [if_neg up] at polled
      split
      · split
        · exact lost (polled.1.release owned input _)
        · exact lost (polled.1.release owned input _)
      · refine .quiet _ (owned.trans active.symm) committed polled.1 fun tcp => polled.2 ?_
        exact Option.some.inj (owned.symm.trans tcp)
  next idle =>
    obtain ⟨started, still, same⟩ := startMissing_reported config manager input holds (by rw [idle]; simp)
    exact scanTransports_polled config input idle _ started (still.trans idle) same

theorem irisTransportCommit_cases (manager : TransportManager) (input : LinkInput) (holds : Reported manager) :
    Reported (irisTransportCommit config manager input) ∧
      (irisTransportCommit config manager input).active = manager.active ∧
      (manager.active = some .tcp → (irisTransportCommit config manager input).tcp = manager.tcp) := by
  unfold irisTransportCommit
  split
  · exact ⟨holds, rfl, fun _ => rfl⟩
  · obtain ⟨reported, active, -, tcp⟩ := stopLosers_reported config
      { manager with committed := true, claimDeadlineUs := 0 } input ⟨holds.link, holds.reported, holds.client⟩
    exact ⟨reported, active, tcp⟩

theorem irisTransportRenewClaim_cases (manager : TransportManager) (now : Int) :
    (irisTransportRenewClaim config manager now).active = manager.active ∧
      (irisTransportRenewClaim config manager now).tcp = manager.tcp ∧
      (manager.active ≠ none → (irisTransportRenewClaim config manager now).committed = false) := by
  unfold irisTransportRenewClaim
  split
  next none => exact ⟨rfl, rfl, fun some => absurd none some⟩
  next some => exact ⟨rfl, rfl, fun _ => rfl⟩

end manager

end EspIris.Device
