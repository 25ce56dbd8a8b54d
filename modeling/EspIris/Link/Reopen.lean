import EspIris.Device.Deaf
import EspIris.Link.DeviceSide

/-! The NEW_SESSION handshake: an invariant over both parties and both queues. The host is a
stranger to the device, asks it for a new session, or has moved to the one that it got. -/

namespace EspIris.Link
open Codec (hostFrame)
open Codec.Host (Frame)
open Device (DeviceState DeviceEvent Choices Config Deaf PumpStands Serves deviceNext)
open Gateway (HostState HostEvent DeviceInfo Addressed Flagged hostNext sessionIdOf isAck isHello helloOf)
open Machine
variable {state : Handshake} {frame : Frame} {before : Handshake} {record : Device.WireRecord} {info : DeviceInfo}

def Reopening (device : DeviceState) : Prop := ∃ feed, device.phase = .reopening feed

def Stamped (first : UInt32) (state : Handshake) (frame : Frame) : Prop :=
  frame.flags = Flag.newSession.toNat ∧ frame.sessionId = first.toNat ∧ isAck frame.channel frame.type = true ∨
    frame.flags = 0 ∧ state.renewed ≠ [] ∧ frame.sessionId = state.device.runtime.sessionId.toNat

inductive HostAt (first : UInt32) (state : Handshake) : Prop
  | stranger (unknown : state.host.session.info = none) (renewed : state.renewed = [])
      (downstream : state.downstream = []) (waits : ¬ Reopening state.device)
  | asking (asked : state.host.session.reopenSessionId = some (first.toNat : Int))
  | moved (info : DeviceInfo) (known : state.host.session.info = some info)
      (settled : state.host.session.reopenSessionId = none)
      (newest : info.sessionId = state.device.runtime.sessionId.toNat) (renewed : state.renewed ≠ [])
      (upstream : ∀ frame ∈ state.upstream, frame.sessionId = state.device.runtime.sessionId.toNat)

/-- The device is in its first session, or in the one that it drew for a NEW_SESSION. Where it drew
the first id again it is deaf. -/
inductive DeviceAt (first : UInt32) (state : Handshake) : Prop
  | first (renewed : state.renewed = []) (session : state.device.runtime.sessionId = first)
  | renewed (id : UInt32) (renewed : state.renewed = [id]) (session : state.device.runtime.sessionId = id)
      (again : id = first → Deaf state.device) (waits : ¬ Reopening state.device)

def InOrder (first : UInt32) (state : Handshake) : Prop :=
  ∃ old new, state.upstream = old ++ new ∧ (∀ frame ∈ old, frame.sessionId = first.toNat) ∧
    ∀ frame ∈ new, frame.sessionId = state.device.runtime.sessionId.toNat

def Requested (first : UInt32) (state : Handshake) : Prop :=
  state.renewed = [] → state.host.session.reopenSessionId = some (first.toNat : Int) →
    state.refused = true ∨ Reopening state.device ∨ state.downstream ≠ [] ∨ state.host.reader.owes = true

def Announced (first : UInt32) (state : Handshake) : Prop :=
  state.renewed ≠ [] → state.device.runtime.sessionId ≠ first → state.host.session.reopenSessionId = some (first.toNat : Int) →
    Greets state.device ∨
      (∃ frame ∈ state.upstream, isHello frame = true ∧ frame.sessionId = state.device.runtime.sessionId.toNat) ∨
      state.host.reader.fails = true

structure Handshaking (config : Config) (first : UInt32) (state : Handshake) : Prop where
  pump : ∃ record, PumpStands (state.device, record)
  up : state.device.runtime.linkConnected = true
  running : state.device.phase ≠ .ending
  addressed : Addressed state.host
  flagged : Flagged state.host
  capable : ∀ info, state.host.session.info = some info →
    info.capabilities.testBit Gateway.Capability.sessionReopen = true
  advertised : ∀ frame ∈ state.upstream, advertises frame = true
  ordered : InOrder first state
  device : DeviceAt first state
  host : HostAt first state
  downstream : ∀ frame ∈ state.downstream, Stamped first state frame
  requested : Requested first state
  announced : Announced first state

section host
variable {config : Config} {first : UInt32}

theorem HostAt.stamps {state : Handshake} (place : HostAt first state) (addressed : Addressed state.host)
    (frame : Frame) (session : frame.sessionId = sessionIdOf state.host.session)
    (known : state.host.session.info.isSome)
    (flags : frame.flags = 0 ∧ state.host.session.ready = true ∨
      Gateway.Marked state.host.session frame.channel frame.type frame.flags) : Stamped first state frame := by
  cases place with
  | stranger unknown =>
    rw [unknown] at known
    contradiction
  | asking asked =>
    obtain ⟨waits, ⟨info, isInfo, same⟩, _⟩ := addressed.asked _ asked
    rcases flags with ⟨_, ready⟩ | ⟨flags, acks⟩
    · exact absurd (waits.symm.trans ready) Bool.false_ne_true
    · have flagged : frame.flags = Flag.newSession.toNat := by
        rw [flags, Gateway.ackFlags, if_pos (by rw [asked]; simp)]
      refine .inl ⟨flagged, ?_, acks ?_⟩
      · rw [session, sessionIdOf, isInfo]
        exact same
      · rw [flagged]
        decide
  | moved info isInfo settled newest renewed upstream =>
    have plain : frame.flags = 0 := by
      rcases flags with ⟨none, _⟩ | ⟨flags, _⟩
      · exact none
      · rw [flags, Gateway.ackFlags, if_neg (not_not.mpr settled)]
    refine .inr ⟨plain, renewed, ?_⟩
    rw [session, sessionIdOf, isInfo]
    exact newest

/-- A host that does something else than to take a frame stays where it is. -/
theorem Handshaking.hostMoves {after : HostState} {event : HostEvent} (holds : Handshaking config first before)
    (moves : hostNext config.hmac before.host event = some after) (other : ∀ frame nonce, event ≠ .frame frame nonce) :
    Handshaking config first { before with
      host := after
      downstream := before.downstream ++ (after.wire.drop before.host.wire.length).map Gateway.Sent.frame } := by
  obtain ⟨info, reopen, sends⟩ := Gateway.step_sends config.hmac holds.addressed holds.flagged moves other
  have readers := Gateway.reader_moves config.hmac moves other
  have steady : Gateway.SteadyCapability before.host event := by
    cases event with
    | frame frame nonce => exact absurd rfl (other frame nonce)
    | _ => trivial
  have addressed := (Gateway.addressed_invariant config.hmac).step _ _ _ holds.addressed ⟨steady, moves⟩
  have flagged := Gateway.flagged_step config.hmac holds.addressed holds.flagged moves
  -- What is new on the link is stamped.
  have stamped : ∀ frame ∈ (after.wire.drop before.host.wire.length).map Gateway.Sent.frame,
      Stamped first before frame := by
    rcases sends with same | ⟨outgoing, number, drawn, wire, session, known, flags⟩
    · rw [same, List.drop_length]
      simp
    · rw [wire, List.drop_left]
      intro frame inside
      obtain rfl : frame = (before.host.number outgoing).2 := by simpa using inside
      exact holds.host.stamps holds.addressed _ session known flags
  refine ⟨holds.pump, holds.up, holds.running, addressed, flagged, ?_, holds.advertised, holds.ordered, ?_, ?_, ?_, ?_, ?_⟩
  · intro hello isHello
    exact holds.capable hello (info ▸ isHello)
  · cases holds.device with
    | first renewed session => exact .first renewed session
    | renewed id renewed session again waits => exact .renewed id renewed session again waits
  · cases holds.host with
    | stranger unknown renewed downstream waits =>
      refine .stranger (info.trans unknown) renewed ?_ waits
      dsimp only
      rcases sends with same | ⟨outgoing, number, drawn, wire, session, known, flags⟩
      · rw [same, List.drop_length, downstream]
        rfl
      · rw [unknown] at known
        contradiction
    | asking asked => exact .asking (reopen.trans asked)
    | moved hello isHello settled newest renewed upstream =>
      exact .moved hello (info.trans isHello) (reopen.trans settled) newest renewed upstream
  · intro frame inside
    rcases List.mem_append.mp inside with earlier | last
    · exact holds.downstream frame earlier
    · exact stamped frame last
  · intro renewed asked
    rcases holds.requested renewed (reopen.symm.trans asked) with refused | waits | sent | owes
    · exact .inl refused
    · exact .inr (.inl waits)
    · exact .inr (.inr (.inl (List.append_ne_nil_of_left_ne_nil sent _)))
    · rcases readers.owes owes with still | ⟨outgoing, rest, raises, number, drawn, _, _, wire⟩
      · exact .inr (.inr (.inr still))
      · refine .inr (.inr (.inl (List.append_ne_nil_of_right_ne_nil _ ?_)))
        rw [wire, List.drop_left]
        simp
  · intro renewed other asked
    rcases holds.announced renewed other (reopen.symm.trans asked) with greets | sent | fails
    · exact .inl greets
    · exact .inr (.inl sent)
    · exact .inr (.inr (readers.fails fails))

theorem takeFrame_eq {hmac : List UInt8 → List UInt8 → List UInt8} {before after : HostState} {nonce : List UInt8}
    (moves : hostNext hmac before (.frame frame nonce) = some after) :
    before.reader = .idle ∧ after = { before with
      session := (Gateway.handleFrame hmac nonce before.session frame).session
      reader := .performing (Gateway.handleFrame hmac nonce before.session frame).effects
        (Gateway.handleFrame hmac nonce before.session frame).raises
      numbered := if Gateway.startsOver before.session (Gateway.handleFrame hmac nonce before.session frame).session
        then fun _ => 0 else before.numbered } := by
  replace moves : before.takeFrame hmac frame nonce = some after := moves
  unfold HostState.takeFrame at moves
  split at moves
  next idle =>
    cases moves
    exact ⟨idle, rfl⟩
  next => contradiction

theorem capable_of_advertises {session : Gateway.DeviceSession} (advertised : advertises frame = true)
    (reads : helloOf session frame = some info) :
    info.capabilities.testBit Gateway.Capability.sessionReopen = true := by
  obtain ⟨greets, _, fields, decoded, capabilities⟩ := Gateway.helloOf_fields reads
  rw [advertises, greets, decoded] at advertised
  rw [capabilities]
  exact advertised

theorem InOrder.rest {rest : List Frame} (ordered : InOrder first state) (upstream : state.upstream = frame :: rest) :
    InOrder first { state with upstream := rest } := by
  obtain ⟨old, new, split, olds, news⟩ := ordered
  rw [upstream] at split
  cases old with
  | nil =>
    rw [List.nil_append] at split
    exact ⟨[], rest, rfl, by simp, fun other inside => news other (split ▸ List.mem_cons_of_mem _ inside)⟩
  | cons head old =>
    obtain ⟨_, rfl⟩ := List.cons.inj split
    exact ⟨old, new, rfl, fun other inside => olds other (List.mem_cons_of_mem _ inside), news⟩

/-- The first frame of another session than the first has only such frames behind it. -/
theorem InOrder.after {rest : List Frame} (ordered : InOrder first state) (upstream : state.upstream = frame :: rest)
    (other : frame.sessionId ≠ first.toNat) :
    frame.sessionId = state.device.runtime.sessionId.toNat ∧
      ∀ later ∈ rest, later.sessionId = state.device.runtime.sessionId.toNat := by
  obtain ⟨old, new, split, olds, news⟩ := ordered
  rw [upstream] at split
  cases old with
  | nil =>
    rw [List.nil_append] at split
    exact ⟨news frame (split ▸ List.mem_cons_self), fun later inside => news later (split ▸ List.mem_cons_of_mem _ inside)⟩
  | cons head old =>
    obtain ⟨rfl, _⟩ := List.cons.inj split
    exact absurd (olds frame List.mem_cons_self) other

/-- The frames on their way before a new session was opened are of the first. -/
theorem InOrder.all_first (ordered : InOrder first state) (session : state.device.runtime.sessionId = first)
    (frame : Frame) (inside : frame ∈ state.upstream) : frame.sessionId = first.toNat := by
  obtain ⟨old, new, split, olds, news⟩ := ordered
  rw [split] at inside
  rcases List.mem_append.mp inside with here | there
  · exact olds frame here
  · rw [news frame there, session]

theorem DeviceAt.again (place : DeviceAt first state) (renewed : state.renewed ≠ []) :
    (state.device.runtime.sessionId = first → Deaf state.device) ∧ ¬ Reopening state.device := by
  cases place with
  | first none session => exact absurd none renewed
  | renewed id some session again waits => exact ⟨fun same => again (session.symm.trans same), waits⟩

theorem HostAt.identified (place : HostAt first state) (addressed : Addressed state.host)
    (known : state.host.session.info = some info) :
    (state.host.session.reopenSessionId = some (first.toNat : Int) ∧ info.sessionId = first.toNat) ∨
      (state.host.session.reopenSessionId = none ∧ info.sessionId = state.device.runtime.sessionId.toNat ∧
        state.renewed ≠ [] ∧ ∀ frame ∈ state.upstream, frame.sessionId = state.device.runtime.sessionId.toNat) := by
  cases place with
  | stranger unknown =>
    rw [unknown] at known
    contradiction
  | asking asked =>
    obtain ⟨_, ⟨current, isCurrent, same⟩, _⟩ := addressed.asked _ asked
    rw [known] at isCurrent
    cases isCurrent
    exact .inl ⟨asked, same⟩
  | moved current isCurrent settled newest renewed upstream =>
    rw [known] at isCurrent
    cases isCurrent
    exact .inr ⟨settled, newest, renewed, upstream⟩

theorem HostAt.passes {rest : List Frame} (place : HostAt first state) (upstream : state.upstream = frame :: rest) :
    HostAt first { state with upstream := rest } := by
  cases place with
  | stranger unknown renewed downstream waits => exact .stranger unknown renewed downstream waits
  | asking asked => exact .asking asked
  | moved info known settled newest renewed all =>
    exact .moved info known settled newest renewed fun other inside => all other (upstream ▸ List.mem_cons_of_mem _ inside)

theorem HostAt.of_session {after : HostState} (place : HostAt first state)
    (info : after.session.info = state.host.session.info)
    (reopen : after.session.reopenSessionId = state.host.session.reopenSessionId) :
    HostAt first { state with host := after } := by
  cases place with
  | stranger unknown renewed downstream waits => exact .stranger (info.trans unknown) renewed downstream waits
  | asking asked => exact .asking (reopen.trans asked)
  | moved hello known settled newest renewed all => exact .moved hello (info.trans known) (reopen.trans settled) newest renewed all

theorem HostAt.greets {after : HostState} {rest : List Frame} {hello : DeviceInfo} {taken : Gateway.DeviceSession}
    (place : HostAt first before) (device : DeviceAt first before) (ordered : InOrder first before)
    (addressed : Addressed before.host) (upstream : before.upstream = frame :: rest)
    (session : hello.sessionId = frame.sessionId)
    (capable : hello.capabilities.testBit Gateway.Capability.sessionReopen = true)
    (greets : Gateway.Greets before.host after hello taken) (greeting : Gateway.Greeting before.host after hello) :
    HostAt first { before with host := after, upstream := rest } := by
  have info : after.session.info = some hello := greets.core.info.trans greets.takes.info
  cases greeting with
  | first unknown reopen sequence numbered =>
    cases place with
    | stranger _ renewed downstream waits =>
      have isFirst : frame.sessionId = first.toNat := by
        cases device with
        | first _ same => exact ordered.all_first same frame (upstream ▸ List.mem_cons_self)
        | renewed id some => rw [renewed] at some; contradiction
      have asks := greets.core.reopenSessionId.trans greets.takes.reopening
      rw [if_pos ⟨capable, (addressed.strangers unknown).2.2.2⟩] at asks
      exact .asking (asks.trans (by rw [session, isFirst]))
    | asking asked =>
      rw [(addressed.strangers unknown).2.2.1] at asked
      contradiction
    | moved current known => rw [unknown] at known; contradiction
  | moved old asked other settled sequence numbered =>
    cases place with
    | stranger unknown =>
      rw [(addressed.strangers unknown).2.2.1] at asked
      contradiction
    | asking isFirst =>
      rw [isFirst] at asked
      cases asked
      obtain ⟨newest, later⟩ := ordered.after upstream (session ▸ other)
      have renewed : before.renewed ≠ [] := by
        cases device with
        | first none same => exact absurd (session.trans (newest.trans (by rw [same]))) other
        | renewed id some => rw [some]; simp
      exact .moved hello info settled (session.trans newest) renewed later
    | moved current known quiet => rw [quiet] at asked; contradiction
  | again current was same reopen sequence numbered =>
    rcases place.identified addressed was with ⟨asked, _⟩ | ⟨settled, newest, renewed, all⟩
    · exact .asking (reopen.trans asked)
    · exact .moved hello info (reopen.trans settled) (same.trans newest) renewed
        fun other inside => all other (upstream ▸ List.mem_cons_of_mem _ inside)

theorem Handshaking.hostTakes {after : HostState} {nonce : List UInt8} {rest : List Frame}
    (holds : Handshaking config first before) (upstream : before.upstream = frame :: rest)
    (moves : hostNext config.hmac before.host (.frame frame nonce) = some after) :
    Handshaking config first { before with host := after, upstream := rest } := by
  have head : frame ∈ before.upstream := upstream ▸ List.mem_cons_self
  have advertised := holds.advertised frame head
  have capable (info : DeviceInfo) (reads : helloOf before.host.session frame = some info) :=
    capable_of_advertises advertised reads
  have steady : Gateway.SteadyCapability before.host (.frame frame nonce) := by
    intro current info known reads
    rw [capable info reads, holds.capable current known]
  have addressed := (Gateway.addressed_invariant config.hmac).step _ _ _ holds.addressed ⟨steady, moves⟩
  have flagged := Gateway.flagged_step config.hmac holds.addressed holds.flagged moves
  obtain ⟨idle, shape⟩ := takeFrame_eq moves
  have device : DeviceAt first { before with host := after, upstream := rest } := by
    cases holds.device with
    | first renewed session => exact .first renewed session
    | renewed id renewed session again waits => exact .renewed id renewed session again waits
  -- What does not depend on how the host takes the frame.
  have rests (known : ∀ info, after.session.info = some info →
        info.capabilities.testBit Gateway.Capability.sessionReopen = true)
      (host : HostAt first { before with host := after, upstream := rest })
      (requested : Requested first { before with host := after, upstream := rest })
      (announced : Announced first { before with host := after, upstream := rest }) :
      Handshaking config first { before with host := after, upstream := rest } :=
    ⟨holds.pump, holds.up, holds.running, addressed, flagged, known,
      fun other inside => holds.advertised other (upstream ▸ List.mem_cons_of_mem _ inside),
      holds.ordered.rest upstream, device, host, holds.downstream, requested, announced⟩
  by_cases greets : isHello frame = true
  · rcases Gateway.handleFrame_hello config.hmac nonce before.host.session greets with
      ⟨same, raised, raises⟩ | ⟨info, taken, reads, takes, core, owes⟩
    · -- The host raises, and knows what it knew.
      have session : after.session = before.host.session := by rw [shape]; exact same
      have reader : after.reader.fails = true ∧ after.reader.owes = true := by
        rw [shape, raises]
        exact ⟨rfl, Gateway.owes_of_raises⟩
      refine rests (session ▸ holds.capable) ?_ (fun _ _ => .inr (.inr (.inr reader.2))) fun _ _ _ => .inr (.inr reader.1)
      exact (holds.host.passes upstream).of_session (congrArg _ session) (congrArg _ session)
    · have isInfo : after.session.info = some info := by
        rw [shape]
        exact core.info.trans takes.info
      obtain ⟨_, session, _⟩ := Gateway.helloOf_fields reads
      have met : Gateway.Greets before.host after info taken := by
        refine ⟨takes, ?_, ?_, ?_, ?_, ?_, ?_, addressed.reader⟩
        all_goals rw [shape]
        exact core
      have greeting := holds.addressed.greeting met fun current known => steady current info known reads
      have place := holds.host.greets holds.device holds.ordered holds.addressed upstream session (capable info reads) met
        greeting
      have reader : after.reader.owes = true := by
        rw [shape]
        exact owes
      refine rests ?_ place (fun _ _ => .inr (.inr (.inr reader))) ?_
      · intro hello known
        rw [isInfo] at known
        cases known
        exact capable info reads
      · -- A host that still asks heard of the first session again, so the other HELLO is behind this one.
        intro renewed differs asked
        have was : before.host.session.reopenSessionId = some (first.toNat : Int) := by
          cases greeting with
          | first unknown =>
            cases holds.host with
            | stranger _ none => exact absurd none renewed
            | asking asked => exact asked
            | moved current known => rw [unknown] at known; contradiction
          | moved old isOld other settled => rw [settled] at asked; contradiction
          | again current known same reopen => exact reopen.symm.trans asked
        have old : frame.sessionId = first.toNat := by
          rw [← session]
          rcases place.identified addressed isInfo with ⟨_, isFirst⟩ | ⟨settled, _⟩
          · exact isFirst
          · rw [settled] at asked
            contradiction
        rcases holds.announced renewed differs was with greets | ⟨other, inside, isHello, newest⟩ | fails
        · exact .inl greets
        · rw [upstream] at inside
          rcases List.mem_cons.mp inside with rfl | later
          · exact absurd (UInt32.toNat_inj.mp (Int.ofNat_inj.mp (newest.symm.trans old))) differs
          · exact .inr (.inl ⟨other, later, isHello, newest⟩)
        · rw [idle] at fails
          contradiction
  · have same : Gateway.SameCore before.host.session after.session := by
      rw [shape]
      cases Gateway.handleFrame_handles config.hmac nonce before.host.session frame with
      | hello info taken reads => exact absurd (Gateway.helloOf_fields reads).1 greets
      | other keeps => exact keeps.core
    refine rests (same.info ▸ holds.capable) ((holds.host.passes upstream).of_session same.info same.reopenSessionId) ?_ ?_
    · intro renewed asked
      rcases holds.requested renewed (same.reopenSessionId.symm.trans asked) with refused | waits | sent | owes
      · exact .inl refused
      · exact .inr (.inl waits)
      · exact .inr (.inr (.inl sent))
      · rw [idle] at owes
        contradiction
    · intro renewed other asked
      rcases holds.announced renewed other (same.reopenSessionId.symm.trans asked) with greets | ⟨other, inside, isHello, newest⟩ | fails
      · exact .inl greets
      · rw [upstream] at inside
        rcases List.mem_cons.mp inside with rfl | later
        · exact absurd isHello greets
        · exact .inr (.inl ⟨other, later, isHello, newest⟩)
      · rw [idle] at fails
        contradiction

end host

section device
variable {config : Config} {first : UInt32}

theorem flushes_session {before : DeviceState} (after : DeviceState) (transmits : Device.Transmits before record)
    (up : before.runtime.linkConnected = true) :
    ∀ frame ∈ flushes before after, frame.sessionId = before.runtime.sessionId.toNat := by
  intro frame inside
  rcases slot_of_session transmits up with free | ⟨slot, holds, session⟩
  · rw [flushes_free after free] at inside
    contradiction
  · rcases flushes_cases after holds with ⟨none, _⟩ | one
    · rw [none] at inside
      contradiction
    · rw [one] at inside
      rw [List.mem_singleton.mp inside]
      exact congrArg (fun id : UInt32 => (id.toNat : Int)) session

theorem Greets.stays {before after : DeviceState} (greets : Greets before)
    (session : after.runtime.sessionId = before.runtime.sessionId) (keeps : Device.KeepsSlot before after) :
    Greets after ∨ ∃ frame ∈ flushes before after, isHello frame = true ∧
      frame.sessionId = before.runtime.sessionId.toNat := by
  obtain ⟨frame, slot, own, channel, type⟩ := greets
  rcases keeps with ⟨same, _⟩ | ⟨empty, _⟩
  · exact .inl ⟨frame, same.trans slot, own.trans session.symm, channel, type⟩
  · rcases flushes_cases after slot with ⟨_, filled⟩ | one
    · exact absurd empty filled
    · refine .inr ⟨_, one ▸ List.mem_singleton_self _, ?_, ?_⟩
      · rw [isHello, hostFrame, channel, type]
        rfl
      · exact congrArg (fun id : UInt32 => (id.toNat : Int)) own

theorem Handshaking.deviceStays {after : DeviceState} (downstream : List Frame) (refused : Bool)
    (holds : Handshaking config first before) (pump : PumpStands (before.device, record))
    (later : ∃ record, PumpStands (after, record)) (up : after.runtime.linkConnected = true)
    (running : after.phase ≠ .ending) (session : after.runtime.sessionId = before.device.runtime.sessionId)
    (deaf : Deaf before.device → Deaf after)
    (keeps : before.device.runtime.txWire ≠ [] → Device.KeepsSlot before.device after)
    (advertised : ∀ frame ∈ flushes before.device after, advertises frame = true)
    (fewer : ∀ frame ∈ downstream, frame ∈ before.downstream)
    (waits : before.renewed ≠ [] ∨ before.downstream = [] → ¬ Reopening before.device → ¬ Reopening after)
    (requested : Requested first { before with device := after, downstream := downstream, refused := refused }) :
    Handshaking config first { before with
      device := after
      upstream := before.upstream ++ flushes before.device after
      downstream := downstream
      refused := refused } := by
  have flushed := flushes_session after pump.transmits holds.up
  refine ⟨later, up, running, holds.addressed, holds.flagged, holds.capable, ?_, ?_, ?_, ?_, ?_, requested, ?_⟩
  · intro frame inside
    rcases List.mem_append.mp inside with earlier | last
    · exact holds.advertised frame earlier
    · exact advertised frame last
  · obtain ⟨old, new, split, olds, news⟩ := holds.ordered
    refine ⟨old, new ++ flushes before.device after, ?_, olds, ?_⟩
    · dsimp only
      rw [split, List.append_assoc]
    · intro frame inside
      dsimp only
      rw [session]
      rcases List.mem_append.mp inside with earlier | last
      · exact news frame earlier
      · exact flushed frame last
  · cases holds.device with
    | first renewed same => exact .first renewed (session.trans same)
    | renewed id renewed same again rests =>
      exact .renewed id renewed (session.trans same) (fun old => deaf (again old)) (waits (.inl (by rw [renewed]; simp)) rests)
  · cases holds.host with
    | stranger unknown renewed none rests =>
      refine .stranger unknown renewed ?_ (waits (.inr none) rests)
      refine List.eq_nil_iff_forall_not_mem.mpr ?_
      intro frame inside
      have was := fewer frame inside
      rw [none] at was
      contradiction
    | asking asked => exact .asking asked
    | moved info known settled newest renewed all =>
      refine .moved info known settled (newest.trans (by rw [session])) renewed ?_
      intro frame inside
      dsimp only
      rw [session]
      rcases List.mem_append.mp inside with earlier | last
      · exact all frame earlier
      · exact flushed frame last
  · intro frame inside
    unfold Stamped
    dsimp only
    rw [session]
    exact holds.downstream frame (fewer frame inside)
  · intro renewed other asked
    dsimp only at other ⊢
    rw [session] at other ⊢
    rcases holds.announced renewed other asked with greets | ⟨frame, inside, hello⟩ | fails
    · have filled : before.device.runtime.txWire ≠ [] := by
        obtain ⟨frame, slot, _⟩ := greets
        rw [slot]
        exact frame.wire_ne_nil
      rcases greets.stays session (keeps filled) with still | ⟨frame, inside, hello⟩
      · exact .inl still
      · exact .inr (.inl ⟨frame, List.mem_append_right _ inside, hello⟩)
    · exact .inr (.inl ⟨frame, List.mem_append_left _ inside, hello⟩)
    · exact .inr (.inr fails)

theorem Stamped.asksAnew {frame : DecodedFrame} (stamped : Stamped first state (hostFrame frame.header frame.payload)) :
    AsksAnew state.device frame ↔ state.device.runtime.sessionId = first ∧ frame.header.flags = Flag.newSession := by
  rcases stamped with ⟨flags, session, acks⟩ | ⟨flags, renewed, session⟩
  · have isFlag : frame.header.flags = Flag.newSession := UInt16.toNat_inj.mp (Int.ofNat_inj.mp flags)
    have isFirst : frame.header.sessionId = first := UInt32.toNat_inj.mp (Int.ofNat_inj.mp session)
    have isAck : Device.isHelloAck frame.header = true := by
      simp only [isAck, hostFrame, Bool.and_eq_true, decide_eq_true_eq, Nat.cast_inj] at acks
      rw [Device.isHelloAck, Bool.and_eq_true, decide_eq_true_eq, decide_eq_true_eq]
      exact ⟨UInt8.toNat_inj.mp acks.1, UInt8.toNat_inj.mp acks.2⟩
    constructor
    · intro asks
      exact ⟨asks.2.1.symm.trans isFirst, isFlag⟩
    · rintro ⟨current, -⟩
      refine ⟨isAck, isFirst.trans current.symm, ?_⟩
      rw [isFlag]
      decide
  · have none : frame.header.flags = 0 := UInt16.toNat_inj.mp (Int.ofNat_inj.mp flags)
    refine iff_of_false ?_ ?_
    · rintro ⟨_, _, asks⟩
      rw [none] at asks
      exact asks (by decide)
    · rintro ⟨_, isFlag⟩
      rw [none] at isFlag
      exact absurd isFlag (by decide)

/-- Before a new session was opened every frame of the host asks for one. -/
theorem Stamped.asks {frame : DecodedFrame} (stamped : Stamped first state (hostFrame frame.header frame.payload))
    (place : DeviceAt first state) (renewed : state.renewed = []) : AsksAnew state.device frame := by
  refine stamped.asksAnew.mpr ⟨?_, ?_⟩
  · cases place with
    | first _ session => exact session
    | renewed id some =>
      rw [renewed] at some
      contradiction
  · rcases stamped with ⟨flags, _⟩ | ⟨_, some, _⟩
    · exact UInt16.toNat_inj.mp (Int.ofNat_inj.mp flags)
    · exact absurd renewed some

theorem Handshaking.deviceReopens {after : DeviceState} (lost : Nat) (holds : Handshaking config first before)
    (pump : PumpStands (before.device, record)) (later : ∃ record, PumpStands (after, record))
    (up : after.runtime.linkConnected = true) (running : after.phase ≠ .ending) (reopening : Reopening before.device)
    (greets : Greets after) (again : after.runtime.sessionId = before.device.runtime.sessionId → Deaf after)
    (waits : ¬ Reopening after) :
    Handshaking config first { before with
      device := after
      upstream := before.upstream ++ flushes before.device after
      downstream := before.downstream.drop lost
      renewed := before.renewed ++ [after.runtime.sessionId] } := by
  have free : before.device.runtime.txWire = [] := by
    obtain ⟨feed, phase⟩ := reopening
    have free := pump.transmits.free
    rwa [phase] at free
  have isFirst : before.renewed = [] ∧ before.device.runtime.sessionId = first := by
    cases holds.device with
    | first renewed session => exact ⟨renewed, session⟩
    | renewed id renewed session again rests => exact absurd reopening rests
  rw [flushes_free after free, List.append_nil]
  refine ⟨later, up, running, holds.addressed, holds.flagged, holds.capable, holds.advertised, ?_, ?_, ?_, ?_, ?_, ?_⟩
  · refine ⟨before.upstream, [], (List.append_nil _).symm, ?_, by simp⟩
    exact fun frame inside => holds.ordered.all_first isFirst.2 frame inside
  · refine .renewed _ ?_ rfl (isFirst.2 ▸ again) waits
    dsimp only
    rw [isFirst.1]
    rfl
  · cases holds.host with
    | stranger unknown renewed none rests => exact absurd reopening rests
    | asking asked => exact .asking asked
    | moved info known settled newest renewed => exact absurd isFirst.1 renewed
  · intro frame inside
    rcases holds.downstream frame (List.mem_of_mem_drop inside) with flagged | ⟨_, renewed, _⟩
    · exact .inl flagged
    · exact absurd isFirst.1 renewed
  · intro none
    simp at none
  · exact fun _ _ _ => .inl greets

end device

section handshake
variable (config : Config) {first : UInt32}

theorem deviceStep_holds {before after : Handshake} {event : DeviceEvent} {lost : Nat}
    (holds : Handshaking config first before) (step : before.deviceStep config event lost = some after) : Handshaking config first after := by
  obtain ⟨record, pump⟩ := holds.pump
  unfold Handshake.deviceStep at step
  dsimp only at step
  split at step
  · contradiction
  next device moves =>
    split at step
    · contradiction
    next allowed =>
      obtain ⟨stays, advertised, serves⟩ : device.phase ≠ .ending ∧
          (flushes before.device device).all advertises = true ∧ Serves event := by
        simpa only [not_or, Bool.not_eq_false, not_not] using allowed
      replace advertised := List.all_eq_true.mp advertised
      have later : ∃ record, PumpStands (device, record) :=
        ⟨record.note before.device event device, (Device.device_stands config).step _ event _ pump ⟨⟨serves, moves⟩, rfl⟩⟩
      have up := deviceNext_up config pump.agree holds.up holds.running moves stays
      have deaf (was : Deaf before.device) : Deaf device := by
        rcases Device.deviceNext_deaf config pump.agree was moves with deaf | ⟨ended | down, _⟩
        · exact deaf
        · exact absurd ended holds.running
        · exact absurd (down.symm.trans holds.up) Bool.false_ne_true
      have keeps (filled : before.device.runtime.txWire ≠ []) : Device.KeepsSlot before.device device :=
        Device.deviceNext_keepsSlot config pump.agree pump.transmits pump.free serves moves filled holds.running
      have side := deviceNext_side config pump.agree holds.up holds.running pump.challenge moves stays
      cases side with
      | quiet completes reopens session phase =>
        simp only [reopens, completes, Bool.false_eq_true, if_false] at step
        cases step
        refine holds.deviceStays before.downstream before.refused pump later up stays session deaf keeps advertised
          (fun _ inside => inside) (fun _ waits opens => waits (phase.mp opens)) ?_
        intro renewed asked
        rcases holds.requested renewed asked with refused | opens | sent | owes
        · exact .inl refused
        · exact .inr (.inl (phase.mpr opens))
        · exact .inr (.inr (.inl sent))
        · exact .inr (.inr (.inr owes))
      | frame frame choices is completes reopens session waits phase =>
        simp only [reopens, completes, Bool.false_eq_true, if_false] at step
        split at step
        next => contradiction
        next first' rest isSome sent =>
          cases isSome
          split at step
          next same =>
            cases step
            have stamped := holds.downstream _ (sent ▸ List.mem_cons_self)
            rw [← same] at stamped
            refine holds.deviceStays rest _ pump later up stays session deaf keeps advertised
              (fun other inside => sent ▸ List.mem_cons_of_mem _ inside) ?_ ?_
            · rintro (renewed | none) _ opens
              · have current := (stamped.asksAnew.mp (phase.mp opens).1).1
                have spent := ((holds.device.again renewed).1 current).spent
                obtain ⟨feed, feeding⟩ := completes_feeding completes
                rw [feeding] at spent
                exact spent
              · rw [none] at sent
                contradiction
            · intro renewed _
              have asks := stamped.asks holds.device renewed
              by_cases accepted : accepts config before.device frame choices = true
              · exact .inr (.inl (phase.mpr ⟨asks, accepted⟩))
              · refine .inl (Bool.or_eq_true_iff.mpr (.inr ?_))
                subst is
                simp [refuses, asks.1, asks.2.1, accepted]
          next => contradiction
        next => contradiction
      | reopened choices is reopens completes opening session greets waits =>
        simp only [reopens, if_true] at step
        cases step
        subst is
        refine holds.deviceReopens lost pump later up stays opening greets ?_ waits
        intro same
        obtain ⟨feed, outside, phase⟩ := reopens_at reopens
        have consumes := pump.consumes
        rw [phase] at consumes
        rcases pump.hears with parked | was
        · exact Device.deviceNext_again config parked outside phase consumes (session.symm.trans same) moves
        · have spent := was.spent
          rw [phase] at spent
          exact absurd spent id

theorem hostStep_holds {before after : Handshake} {event : HostEvent} (holds : Handshaking config first before)
    (step : before.hostStep config event = some after) : Handshaking config first after := by
  unfold Handshake.hostStep at step
  dsimp only at step
  split at step
  · contradiction
  next host moves =>
    split at step
    next frame nonce head rest upstream =>
      split at step
      next same =>
        cases step
        subst same
        have taken := holds.hostTakes upstream moves
        have silent : (host.wire.drop before.host.wire.length).map Gateway.Sent.frame = [] := by
          rw [(takeFrame_eq moves).2, List.drop_length]
          rfl
        rw [silent, List.append_nil]
        exact taken
      next => contradiction
    next => contradiction
    next some none =>
      cases step
      refine holds.hostMoves moves ?_
      rintro frame nonce rfl
      cases upstream : before.upstream with
      | nil => exact none frame nonce rfl upstream
      | cons head rest => exact some frame nonce head rest rfl upstream

theorem handshaking_invariant :
    Invariant (handshake config) fun state => ∃ first, Handshaking config first state where
  start := by
    rintro state ⟨device, up, ⟨between, running⟩, free, ⟨endpoint, pairingToken, host⟩, ⟨upstream, downstream⟩, renewed, refused⟩
    obtain ⟨record, reached⟩ := device.recorded ⟨[], []⟩ Device.WireRecord.note
    have pump := (Device.device_stands config).reachable reached
    have waits : ¬ Reopening state.device := by
      rintro ⟨feed, phase⟩
      rw [phase] at between
      cases between
    have started : (Gateway.host config.hmac).start state.host := ⟨endpoint, pairingToken, host⟩
    refine ⟨state.device.runtime.sessionId, ⟨record, pump⟩, up, running, ?_, ?_, ?_, ?_, ?_, .first renewed rfl, ?_, ?_, ?_, ?_⟩
    · exact (Gateway.addressed_invariant config.hmac).start _ started
    · rw [host]
      exact ⟨trivial, fun number task outgoing is => by cases is⟩
    · intro info known
      rw [host] at known
      cases known
    · rw [upstream]
      simp
    · exact ⟨[], [], upstream, by simp, by simp⟩
    · exact .stranger (by rw [host]; rfl) renewed downstream waits
    · rw [downstream]
      simp
    · intro _ asked
      rw [host] at asked
      cases asked
    · exact fun some => absurd renewed some
  step := by
    rintro before event after ⟨first, holds⟩ step
    refine ⟨first, ?_⟩
    cases event with
    | device event lost => exact deviceStep_holds config holds step
    | host event => exact hostStep_holds config holds step

structure AtRest (state : Handshake) : Prop where
  upstream : state.upstream = []
  downstream : state.downstream = []
  slot : state.device.runtime.txWire = []
  device : ¬ Reopening state.device
  host : state.host.reader = .idle
  known : state.host.session.info.isSome

/-- What the handshake promises: one NEW_SESSION takes effect, the parties end in one session, READY
is announced for the newest, and frames of other sessions change nothing. -/
structure OpensOnce (state : Handshake) : Prop where
  atMost : state.renewed.length ≤ 1
  ready : state.host.session.ready = true → state.renewed.length = 1 ∧
    sessionIdOf state.host.session = state.device.runtime.sessionId.toNat
  rest : AtRest state → state.refused = true ∨
    (state.renewed.length = 1 ∧ sessionIdOf state.host.session = state.device.runtime.sessionId.toNat)
  host : ∀ frame nonce, isHello frame = false → frame.sessionId ≠ state.device.runtime.sessionId.toNat →
    Gateway.handleFrame config.hmac nonce state.host.session frame = .ignored state.host.session
  device : ∀ feed frame choices, frame.header.sessionId ≠ state.device.runtime.sessionId →
    Device.handleFrame config state.device feed frame choices =
      { state.device with
        runtime := { state.device.runtime with
          rxFrames := state.device.runtime.rxFrames + 1
          invalidFrames := state.device.runtime.invalidFrames + 1 }
        phase := .handled feed }

theorem Handshaking.length (holds : Handshaking config first state) :
    state.renewed.length ≤ 1 ∧ (state.renewed ≠ [] → state.renewed.length = 1) := by
  cases holds.device with
  | first none => rw [none]; exact ⟨Nat.zero_le _, fun some => absurd rfl some⟩
  | renewed id some => rw [some]; exact ⟨le_refl _, fun _ => rfl⟩

theorem Handshaking.newest (holds : Handshaking config first state) (known : state.host.session.info = some info)
    (settled : state.host.session.reopenSessionId = none) :
    state.renewed.length = 1 ∧ sessionIdOf state.host.session = state.device.runtime.sessionId.toNat := by
  rcases holds.host.identified holds.addressed known with ⟨asked, _⟩ | ⟨_, newest, renewed, _⟩
  · rw [settled] at asked
    contradiction
  · refine ⟨(holds.length config).2 renewed, ?_⟩
    rw [sessionIdOf, known]
    exact newest

theorem opens_once {state : Handshake} (reached : Reachable (handshake config) state) :
    OpensOnce config state := by
  obtain ⟨first, holds⟩ := (handshaking_invariant config).reachable reached
  have addressed := holds.addressed
  refine ⟨(holds.length config).1, ?_, ?_, ?_, ?_⟩
  · intro ready
    obtain ⟨info, known⟩ := Option.isSome_iff_exists.mp (addressed.known ready)
    refine holds.newest config known ?_
    cases asked : state.host.session.reopenSessionId with
    | none => rfl
    | some old => exact absurd ((addressed.asked old asked).1.symm.trans ready) Bool.false_ne_true
  · intro rests
    obtain ⟨info, known⟩ := Option.isSome_iff_exists.mp rests.known
    rcases holds.host.identified addressed known with ⟨asked, isFirst⟩ | ⟨settled, _⟩
    · by_cases renewed : state.renewed = []
      · rcases holds.requested renewed asked with refused | opens | sent | owes
        · exact .inl refused
        · exact absurd opens rests.device
        · exact absurd rests.downstream sent
        · rw [rests.host] at owes
          contradiction
      by_cases same : state.device.runtime.sessionId = first
      · refine .inr ⟨(holds.length config).2 renewed, ?_⟩
        rw [sessionIdOf, known, same]
        exact isFirst
      · rcases holds.announced renewed same asked with ⟨frame, slot, _⟩ | ⟨frame, inside, _⟩ | fails
        · exact absurd (slot.symm.trans rests.slot) frame.wire_ne_nil
        · rw [rests.upstream] at inside
          contradiction
        · rw [rests.host] at fails
          contradiction
    · exact .inr (holds.newest config known settled)
  · intro frame nonce other foreign
    rw [Gateway.handleFrame, if_neg (Bool.eq_false_iff.mp other)]
    by_cases settled : state.host.session.reopenSessionId = none
    · rw [if_neg (not_not.mpr settled), if_pos]
      cases known : state.host.session.info with
      | none => rfl
      | some info =>
        have newest := (holds.newest config known settled).2
        rw [sessionIdOf, known] at newest
        rw [Option.all_some, decide_eq_true_eq]
        exact fun same => foreign (same.trans newest)
    · rw [if_pos settled]
  · intro feed frame choices foreign
    rw [Device.handleFrame, Device.gateFrame, if_pos foreign]
    rfl

end handshake

/-- A device on USB Serial/JTAG, whose bytes wait for whichever host opens the port. -/
def usbOnly : Config := { Device.tcpOnly with transports := [.usbSerialJtag] }

def advertising (session : UInt32) (now : Int) : Choices :=
  { Choices.quiet with
    link := { Choices.quiet.link with jtagConnected := true, now := now }
    helloFields := (Gateway.plainHello 0 (2 ^ Gateway.Capability.sessionReopen) 2).payload
    session := session }

def opening : DeviceEvent := .task (advertising 7 0)

def openedDevice : DeviceState := (deviceNext usbOnly (.initial [] 0) opening).getD (.initial [] 0)

def opened : Handshake := ⟨openedDevice, .initial "" none, [], [], [], false⟩

theorem opened_meets : (handshake usbOnly).start opened := by
  have step : deviceNext usbOnly (.initial [] 0) opening = some openedDevice := rfl
  have serves : Serves opening := by decide +kernel
  have initial : Reachable ((Device.device usbOnly).guarded fun _ => Serves) (.initial [] 0) :=
    .of_start ⟨[], 0, rfl⟩
  exact ⟨initial.step ⟨serves, step⟩, by decide +kernel, by decide +kernel, by decide +kernel, ⟨"", none, rfl⟩,
    ⟨rfl, rfl⟩, rfl, rfl⟩

def deviceHello (session sequence : Int) : Frame :=
  { Gateway.plainHello session (2 ^ Gateway.Capability.sessionReopen) 2 with
    flags := Flag.reliable.toNat
    sequence := sequence }

def requestWire (sequence : UInt32) : List UInt8 :=
  (Codec.Device.irisFrameEncode (List.replicate maxWireFrameSize 0) maxWireFrameSize
    ⟨Channel.control, ControlType.helloAck, Flag.newSession, 7, 0, 0, sequence, 0⟩ []).toOption.getD []

def deviceSteps (count : Nat) (choices : Choices) : List HandshakeEvent :=
  List.replicate count (.device (.task choices) 0)

def acknowledges (session sequence : Int) : List HandshakeEvent :=
  [.frame (deviceHello session sequence) [], .perform none, .turn .reader, .written .reader, .perform none].map .host

def takesRequest (sequence session : UInt32) (now : Int) : List HandshakeEvent :=
  deviceSteps 1 { advertising 7 now with received := .bytes (requestWire sequence) } ++
    deviceSteps (requestWire sequence).length (advertising 7 now) ++ deviceSteps 4 (advertising session now)

def announcesReady : List HandshakeEvent :=
  [.turn .reader, .written .reader, .perform none, .perform none, .perform none].map .host

def reopenedRun : List HandshakeEvent :=
  deviceSteps 3 (advertising 7 0) ++ acknowledges 7 1 ++ takesRequest 1 8 0 ++ acknowledges 8 1 ++ announcesReady

def isReady (state : Handshake) : Bool := state.host.session.ready

theorem opens_once_reopened : ∃ state, Reachable (handshake usbOnly) state ∧
    state.host.session.ready = true ∧ OpensOnce usbOnly state := by
  obtain ⟨state, run, ready⟩ : ∃ state, Run (handshake usbOnly) opened reopenedRun state ∧ isReady state = true :=
    Run.of_check (by decide +kernel)
  have reached : Reachable (handshake usbOnly) state := ⟨_, _, opened_meets, run⟩
  exact ⟨state, reached, ready, opens_once usbOnly reached⟩

/-- Another host opens the port. -/
def Handshake.takenOver (state : Handshake) (endpoint : String) (pairingToken : Option (List UInt8)) : Handshake :=
  { state with host := .initial endpoint pairingToken, renewed := [], refused := false }

/-- The HELLO of session 7 is repeated before NEW_SESSION comes; both it and that of session 8 are on their way. -/
def repeatedRun : List HandshakeEvent :=
  deviceSteps 3 (advertising 7 0) ++ acknowledges 7 1 ++ deviceSteps 3 (advertising 7 Device.helloIntervalUs) ++
    takesRequest 1 8 Device.helloIntervalUs

def joinRun : List HandshakeEvent := acknowledges 7 2 ++ acknowledges 8 1 ++ announcesReady

def joinsUnopened (state : Handshake) : Bool := isReady state && state.renewed.isEmpty

/-- A host that finds an older HELLO on its way asks for a new session in vain, and joins the one that an earlier
host has opened. -/
theorem older_hello_joins : ∃ state after, Reachable (handshake usbOnly) state ∧
    Run (handshake usbOnly) (state.takenOver "" none) joinRun after ∧
    after.host.session.ready = true ∧ after.renewed = [] ∧ ¬ OpensOnce usbOnly after := by
  obtain ⟨state, run, joins⟩ : ∃ state, Run (handshake usbOnly) opened repeatedRun state ∧
      (joinRun.foldlM (handshakeNext usbOnly) (state.takenOver "" none)).any joinsUnopened = true :=
    Run.of_check (by decide +kernel)
  obtain ⟨after, joined, checked⟩ : ∃ after, Run (handshake usbOnly) (state.takenOver "" none) joinRun after ∧
      joinsUnopened after = true := Run.of_check joins
  obtain ⟨ready, empty⟩ := Bool.and_eq_true_iff.mp checked
  have none := List.isEmpty_iff.mp empty
  refine ⟨state, after, ⟨_, _, opened_meets, run⟩, joined, ready, none, fun opens => ?_⟩
  have once := (opens.ready ready).1
  rw [none] at once
  contradiction

end EspIris.Link
