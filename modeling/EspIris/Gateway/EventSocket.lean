import EspIris.Gateway.Hub
import EspIris.Lib.Machine
import EspIris.Lib.MarkedStream

/-! A client of `event_socket`: the history that it asks for, and behind it what comes into its queue. What an
event says besides its device is `Payload`. -/

namespace EspIris.Gateway.EventSocket
open Machine (System Reachable Run Invariant)
open MarkedStream (Covers Marked)

inductive EventCategory
  | log | operation | device | system
  deriving DecidableEq, Repr

structure EventRow (Payload : Type) where
  eventId : Nat
  deviceId : Option DeviceId
  category : EventCategory
  hostReceiveNs : Nat
  payload : Payload
  deriving DecidableEq, Repr

structure EventTable (Payload : Type) where
  log : List (EventRow Payload)
  dropped : Nat
  numbered : log.map EventRow.eventId = List.range' 1 log.length
  within : dropped ≤ log.length

variable {Payload : Type}

/-- The rows of the table `events`. -/
def EventTable.rows (table : EventTable Payload) : List (EventRow Payload) := table.log.drop table.dropped

def EventTable.append (table : EventTable Payload) (category : EventCategory) (deviceId : Option DeviceId)
    (hostReceiveNs : Nat) (payload : Payload) : EventTable Payload × EventRow Payload :=
  let row := ⟨table.log.length + 1, deviceId, category, hostReceiveNs, payload⟩
  ({ log := table.log ++ [row]
     dropped := table.dropped
     numbered := by
      rw [List.map_append, table.numbered, List.length_append, List.length_singleton, List.range'_concat]
      rw [Nat.one_mul, Nat.add_comm 1]
      rfl
     within := by
      rw [List.length_append]
      exact table.within.trans (Nat.le_add_right _ _) }, row)

/-- The `WHERE` clauses for a device and for categories. -/
def selected (deviceId : Option DeviceId) (categories : List EventCategory) (row : EventRow Payload) : Bool :=
  (deviceId.all fun device => row.deviceId == some device) && (categories.isEmpty || categories.contains row.category)

def EventTable.eventsAfter (table : EventTable Payload) (cursor : Int) (deviceId : Option DeviceId)
    (categories : List EventCategory) (limit : Nat) : List (EventRow Payload) × Bool :=
  let oldest := (table.rows.map EventRow.eventId).min?.getD 0
  let historyGap := cursor ≠ 0 ∧ oldest ≠ 0 ∧ cursor < (oldest : Int) - 1
  ((table.rows.filter fun row => cursor < row.eventId && selected deviceId categories row).take (max 1 (min limit 5000)),
    decide historyGap)

def EventTable.latestEvents (table : EventTable Payload) (deviceId : Option DeviceId) (categories : List EventCategory)
    (limit : Nat) : List (EventRow Payload) :=
  let found := table.rows.filter (selected deviceId categories)
  found.drop (found.length - max 1 (min limit 5000))

inductive EventItem (Payload : Type)
  | event (row : EventRow Payload)
  | historyGap (reason : String)
  deriving DecidableEq, Repr

def EventItem.row : EventItem Payload → Option (EventRow Payload)
  | .event row => some row
  | .historyGap _ => none

def retentionGap : EventItem Payload := .historyGap "requested cursor is outside retention"

def overflowGap : EventItem Payload := .historyGap "live subscriber queue overflow"

structure SocketRequest where
  cursor : Int
  deviceId : Option DeviceId
  deriving DecidableEq, Repr

def SocketRequest.filter (request : SocketRequest) : Option DeviceId := request.deviceId.filter (· ≠ [])

def backlogLimit : Nat := 3000

def SocketRequest.history (request : SocketRequest) (table : EventTable Payload) : List (EventRow Payload) × Bool :=
  if request.cursor = 0 then (table.latestEvents request.filter [] backlogLimit, false)
  else table.eventsAfter request.cursor request.filter [] backlogLimit

def SocketRequest.lastEventId (request : SocketRequest) (history : List (EventRow Payload)) : Int :=
  match history.getLast? with
  | some row => row.eventId
  | none => request.cursor

abbrev EventQueue (Payload : Type) := Subscriber (EventItem Payload)

def subscriberLimit : Nat := 1024

inductive SocketPoint (Payload : Type)
  | opening
  | preparing (queue : EventQueue Payload)
  | replaying (queue : EventQueue Payload) (pending : List (EventItem Payload)) (last : Int)
  | forwarding (queue : EventQueue Payload) (last : Int)
  | closed

def SocketPoint.onQueue (point : SocketPoint Payload) (put : EventQueue Payload → EventQueue Payload) :
    SocketPoint Payload :=
  match point with
  | .opening => .opening
  | .preparing queue => .preparing (put queue)
  | .replaying queue pending last => .replaying (put queue) pending last
  | .forwarding queue last => .forwarding (put queue) last
  | .closed => .closed

structure SocketWorld (Payload : Type) where
  table : EventTable Payload
  point : SocketPoint Payload
  received : List (EventItem Payload)

/-- `ahead` and `behind` are the queues of the other subscribers, before and after this one in the loop. -/
inductive SocketEvent (Payload : Type)
  | subscribe
  | prepared
  | send
  | forward
  | close
  | deviceEvent (kind : String) (deviceId : Option DeviceId) (hostReceiveNs : Nat) (payload : Payload)
      (ahead behind : List (EventQueue Payload))
  | broadcastSystem (hostReceiveNs : Nat) (audit : Payload)

/-- The category that `on_device_event` stores an event under. -/
def categoryOf (kind : String) : EventCategory :=
  if kind = "log" then .log else if kind = "operation" then .operation else .device

def publishOwn {Queue : Type} (put : Queue → Queue × Option Raised) (ahead : List Queue) (own : Queue)
    (behind : List Queue) : Queue :=
  (publishEach put (ahead ++ own :: behind)).1.getD ahead.length own

/-- `forward` lets the item through. -/
def SocketRequest.forwards (request : SocketRequest) (last : Int) : EventItem Payload → Bool
  | .event row =>
    (request.filter.all fun device => row.deviceId == some device) && ! (row.eventId ≠ 0 && (row.eventId : Int) ≤ last)
  | .historyGap _ => request.filter.isNone

def EventItem.eventId : EventItem Payload → Nat
  | .event row => row.eventId
  | .historyGap _ => 0

def nextSocket (request : SocketRequest) (world : SocketWorld Payload) : SocketEvent Payload → Option (SocketWorld Payload)
  | .subscribe =>
    match world.point with
    | .opening => some { world with point := .preparing (.empty subscriberLimit (by decide)) }
    | _ => none
  | .prepared =>
    match world.point with
    | .preparing queue =>
      let (history, gap) := request.history world.table
      some { world with
             point := .replaying queue ((if gap then [retentionGap] else []) ++ history.map .event)
               (request.lastEventId history) }
    | _ => none
  | .send =>
    match world.point with
    | .replaying queue (item :: pending) last =>
      some { world with point := .replaying queue pending last, received := world.received ++ [item] }
    | .replaying queue [] last => some { world with point := .forwarding queue last }
    | _ => none
  | .forward =>
    match world.point with
    | .forwarding queue last =>
      match queue.items with
      | [] => none
      | item :: _ =>
        if request.forwards last item then
          some { world with
                 point := .forwarding queue.dropOldest (max last item.eventId)
                 received := world.received ++ [item] }
        else some { world with point := .forwarding queue.dropOldest last }
    | _ => none
  | .close =>
    match world.point with
    | .opening | .closed => none
    | _ => some { world with point := .closed }
  | .deviceEvent kind deviceId hostReceiveNs payload ahead behind =>
    let (table, persisted) := world.table.append (categoryOf kind) deviceId hostReceiveNs payload
    some { world with
           table
           point := world.point.onQueue fun own =>
             publishOwn (putLive overflowGap (.event persisted)) ahead own behind }
  | .broadcastSystem hostReceiveNs audit =>
    let (table, item) := world.table.append .system none hostReceiveNs audit
    some { world with
           table
           point := world.point.onQueue fun own => if own.full then own else (own.putNowait (.event item)).1 }

def socketSystem (Payload : Type) (request : SocketRequest) : System (SocketWorld Payload) (SocketEvent Payload) :=
  .ofPartial (fun world => (∃ table, world = ⟨table, .opening, []⟩)) (nextSocket request)

def SocketRequest.wants (request : SocketRequest) (row : EventRow Payload) : Bool :=
  request.cursor < row.eventId && selected request.filter [] row

/-- The history that is read has every retained row, or the rest waits in the queue; and where rows are no longer
retained it can tell. -/
def BacklogHeld (request : SocketRequest) (table : EventTable Payload) (queue : EventQueue Payload) : Prop :=
  if request.cursor = 0 then
    (∀ row ∈ table.log, request.wants row = true → row ∈ table.rows) ∧
      (table.rows.filter request.wants).length ≤ backlogLimit
  else
    (table.rows = [] → ∀ row ∈ table.log, request.wants row = false) ∧
      ∀ row ∈ (table.rows.filter request.wants).drop backlogLimit, EventItem.event row ∈ queue.items

def QueueKeeps (request : SocketRequest) (last : Int) (row : EventRow Payload) (ahead : List (EventQueue Payload))
    (own : EventQueue Payload) : Prop :=
  if ∃ queue ∈ ahead, queue.full = true then request.wants row = false
  else
    own.full = true → (∀ item ∈ own.items.head?, request.forwards last item = false) ∧
      (request.wants row = true → request.filter = none)

def LossMarked (request : SocketRequest) (world : SocketWorld Payload) : SocketEvent Payload → Prop
  | .prepared =>
    match world.point with
    | .preparing queue => BacklogHeld request world.table queue
    | _ => True
  | .deviceEvent kind deviceId hostReceiveNs payload ahead _ =>
    match world.point with
    | .replaying own _ last | .forwarding own last =>
      QueueKeeps request last (world.table.append (categoryOf kind) deviceId hostReceiveNs payload).2 ahead own
    | _ => True
  | .broadcastSystem hostReceiveNs audit =>
    match world.point with
    | .replaying own _ _ | .forwarding own _ =>
      own.full = true → request.wants (world.table.append .system none hostReceiveNs audit).2 = false
    | _ => True
  | _ => True

def SocketWorld.stream (world : SocketWorld Payload) : List (Option (EventRow Payload)) :=
  world.received.map EventItem.row

def SocketWorld.Drained (world : SocketWorld Payload) : Prop :=
  ∃ queue last, world.point = .forwarding queue last ∧ queue.items = []

structure CompleteStream (request : SocketRequest) (world : SocketWorld Payload) : Prop where
  increasing : (world.stream.filterMap id).Pairwise (·.eventId < ·.eventId)
  wanted : ∀ row, some row ∈ world.stream → row ∈ world.table.log ∧ request.wants row = true
  complete : ∀ row ∈ world.table.log, request.wants row = true →
    (∃ later, some later ∈ world.stream ∧ row.eventId < later.eventId) ∨ world.Drained →
    some row ∈ world.stream ∨ Marked EventRow.eventId world.stream row

variable {request : SocketRequest} {world : SocketWorld Payload} {table : EventTable Payload} {row : EventRow Payload}

theorem EventTable.increasing (table : EventTable Payload) : table.log.Pairwise (·.eventId < ·.eventId) := by
  have numbers : (table.log.map EventRow.eventId).Pairwise (· < ·) := by
    rw [table.numbered]
    exact List.pairwise_lt_range'
  exact List.pairwise_map.mp numbers

theorem EventTable.bounds (known : row ∈ table.log) : 0 < row.eventId ∧ row.eventId ≤ table.log.length := by
  have inside : row.eventId ∈ table.log.map EventRow.eventId := List.mem_map_of_mem known
  rw [table.numbered, List.mem_range'_1] at inside
  omega

theorem EventTable.rows_sublist (table : EventTable Payload) : table.rows.Sublist table.log := List.drop_sublist _ _

theorem EventTable.append_log (table : EventTable Payload) (category : EventCategory) (deviceId : Option DeviceId)
    (hostReceiveNs : Nat) (payload : Payload) :
    (table.append category deviceId hostReceiveNs payload).1.log =
      table.log ++ [(table.append category deviceId hostReceiveNs payload).2] := rfl

theorem EventTable.append_rows (table : EventTable Payload) (category : EventCategory) (deviceId : Option DeviceId)
    (hostReceiveNs : Nat) (payload : Payload) :
    (table.append category deviceId hostReceiveNs payload).1.rows =
      table.rows ++ [(table.append category deviceId hostReceiveNs payload).2] :=
  List.drop_append_of_le_length table.within

theorem EventTable.dropped_older (known : row ∈ table.log) (gone : row ∉ table.rows) {kept : EventRow Payload}
    (retained : kept ∈ table.rows) : row.eventId < kept.eventId := by
  have split := List.take_append_drop table.dropped table.log
  have increasing := table.increasing
  rw [← split, List.pairwise_append] at increasing
  rw [← split] at known
  rcases List.mem_append.mp known with old | here
  · exact increasing.2.2 row old kept retained
  · exact absurd here gone

section
variable {Queue : Type} {put : Queue → Queue × Option Raised} {ahead behind : List Queue} {own : Queue}

theorem publishOwn_reached (quiet : ∀ queue ∈ ahead, (put queue).2 = none) :
    publishOwn put ahead own behind = (put own).1 := by
  unfold publishOwn
  induction ahead with
  | nil =>
    rw [List.nil_append, publishEach]
    split
    next changed raised isPut => rw [isPut, List.length_nil, List.getD_cons_zero]
    next changed isPut => rw [isPut, List.length_nil, List.getD_cons_zero]
  | cons queue ahead ih =>
    have here := quiet queue List.mem_cons_self
    rw [List.cons_append, publishEach]
    split
    next changed raised isPut =>
      rw [isPut] at here
      contradiction
    next changed isPut =>
      rw [List.length_cons, List.getD_cons_succ]
      exact ih fun other inside => quiet other (List.mem_cons_of_mem _ inside)

/-- What is raised for a queue before this one leaves it without the item. -/
theorem publishOwn_unreached (raises : ∃ queue ∈ ahead, (put queue).2 ≠ none) :
    publishOwn put ahead own behind = own := by
  unfold publishOwn
  induction ahead with
  | nil =>
    obtain ⟨queue, inside, _⟩ := raises
    exact absurd inside List.not_mem_nil
  | cons queue ahead ih =>
    rw [List.cons_append, publishEach]
    split
    next changed raised isPut =>
      rw [List.length_cons, List.getD_cons_succ]
      rw [List.getD_eq_getElem?_getD, List.getElem?_append_right (le_refl _), Nat.sub_self]
      rfl
    next changed isPut =>
      rw [List.length_cons, List.getD_cons_succ]
      refine ih ?_
      obtain ⟨other, inside, raised⟩ := raises
      rcases List.mem_cons.mp inside with rfl | later
      · rw [isPut] at raised
        exact absurd rfl raised
      · exact ⟨other, later, raised⟩

end

def SocketRequest.upcoming (request : SocketRequest) (last : Int) (queue : EventQueue Payload) : List (EventItem Payload) :=
  queue.items.filter (request.forwards last)

def queuedRows (queue : EventQueue Payload) : List (EventRow Payload) := queue.items.filterMap EventItem.row

/-- The client gets `front`, and behind it what waits. -/
structure Serving (request : SocketRequest) (table : EventTable Payload) (queue : EventQueue Payload) (last : Int)
    (front : List (EventItem Payload)) : Prop where
  queued : (queuedRows queue).Sublist table.rows
  cursor : request.cursor ≤ last
  bound : last ≤ request.cursor ∨ last ≤ table.log.length
  covers : Covers EventRow.eventId (request.wants · = true) table.log
    ((front ++ request.upcoming last queue).map EventItem.row)

def PointSound (request : SocketRequest) (world : SocketWorld Payload) : Prop :=
  match world.point with
  | .opening => world.received = []
  | .preparing queue => world.received = [] ∧ (queuedRows queue).Sublist world.table.rows
  | .replaying queue pending last => Serving request world.table queue last (world.received ++ pending)
  | .forwarding queue last => Serving request world.table queue last world.received
  | .closed => world.received = [] ∨
      ∃ rest, Covers EventRow.eventId (request.wants · = true) world.table.log (world.stream ++ rest)

theorem forwards_event {last : Int} (numbered : 0 < row.eventId) :
    request.forwards last (.event row) = (decide (last < row.eventId) && selected request.filter [] row) := by
  unfold SocketRequest.forwards selected
  dsimp only
  have same : (! (decide (row.eventId ≠ 0) && decide ((row.eventId : Int) ≤ last))) = decide (last < row.eventId) := by
    rw [decide_eq_true (Nat.ne_of_gt numbered), Bool.true_and, ← decide_not, decide_eq_decide]
    exact Int.not_le
  rw [same, Bool.and_comm, List.isEmpty_nil, Bool.true_or, Bool.and_true]

/-- A row beyond everything that the client has had is forwarded if the client is for it. -/
theorem forwards_newest {last : Int} (above : request.cursor ≤ last)
    (newest : last < row.eventId ∨ last ≤ request.cursor) (numbered : 0 < row.eventId) :
    request.forwards last (.event row) = request.wants row := by
  rw [forwards_event numbered]
  unfold SocketRequest.wants
  have same : decide (last < (row.eventId : Int)) = decide (request.cursor < row.eventId) := by
    rw [decide_eq_decide]
    omega
  rw [same]

namespace Serving
variable {queue after : EventQueue Payload} {last : Int} {front : List (EventItem Payload)}
  {category : EventCategory} {deviceId : Option DeviceId} {hostReceiveNs : Nat} {payload : Payload}

theorem newest (table : EventTable Payload) (category : EventCategory) (deviceId : Option DeviceId)
    (hostReceiveNs : Nat) (payload : Payload) :
    ∀ other ∈ table.log, other.eventId < (table.append category deviceId hostReceiveNs payload).2.eventId :=
  fun _ known => Nat.lt_succ_of_le (EventTable.bounds known).2

section serving
variable (serving : Serving request table queue last front)
include serving

theorem grown :
    last ≤ request.cursor ∨ last ≤ (table.append category deviceId hostReceiveNs payload).1.log.length := by
  have bound := serving.bound
  rw [EventTable.append_log, List.length_append, List.length_singleton]
  omega

theorem put (items : after.items = queue.items ++ [.event (table.append category deviceId hostReceiveNs payload).2]) :
    Serving request (table.append category deviceId hostReceiveNs payload).1 after last front where
  queued := by
    unfold queuedRows
    rw [items, List.filterMap_append, EventTable.append_rows]
    exact serving.queued.append (List.Sublist.refl _)
  cursor := serving.cursor
  bound := serving.grown
  covers := by
    have bound := serving.bound
    have forwards : request.forwards last (.event (table.append category deviceId hostReceiveNs payload).2) =
        request.wants (table.append category deviceId hostReceiveNs payload).2 := by
      refine forwards_newest serving.cursor ?_ (Nat.succ_pos _)
      dsimp only [EventTable.append]
      omega
    unfold SocketRequest.upcoming
    rw [items, List.filter_append, ← List.append_assoc, List.map_append, EventTable.append_log]
    cases wants : request.wants (table.append category deviceId hostReceiveNs payload).2 with
    | true =>
      rw [List.filter_cons_of_pos (forwards.trans wants)]
      exact serving.covers.push (newest table _ _ _ _) wants
    | false =>
      rw [List.filter_cons_of_neg (Bool.eq_false_iff.mp (forwards.trans wants))]
      rw [List.filter_nil, List.map_nil, List.append_nil]
      exact serving.covers.skip (Bool.eq_false_iff.mp wants)

theorem miss (unwanted : request.wants (table.append category deviceId hostReceiveNs payload).2 = false) :
    Serving request (table.append category deviceId hostReceiveNs payload).1 queue last front where
  queued := by
    rw [EventTable.append_rows]
    exact serving.queued.trans (List.sublist_append_left _ _)
  cursor := serving.cursor
  bound := serving.grown
  covers := by
    rw [EventTable.append_log]
    exact serving.covers.skip (Bool.eq_false_iff.mp unwanted)

/-- A gap takes the place of the row, and of an item that was not for the client. -/
theorem overflow (items : after.items = queue.items.drop 1 ++ [overflowGap])
    (oldest : ∀ item ∈ queue.items.head?, request.forwards last item = false)
    (reached : request.wants (table.append category deviceId hostReceiveNs payload).2 = true → request.filter = none) :
    Serving request (table.append category deviceId hostReceiveNs payload).1 after last front where
  queued := by
    unfold queuedRows
    rw [items, List.filterMap_append, EventTable.append_rows]
    refine List.Sublist.append ?_ (List.nil_sublist _)
    exact ((List.drop_sublist 1 queue.items).filterMap _).trans serving.queued
  cursor := serving.cursor
  bound := serving.grown
  covers := by
    have kept : (queue.items.drop 1).filter (request.forwards last) = request.upcoming last queue := by
      unfold SocketRequest.upcoming
      cases first : queue.items with
      | nil => rfl
      | cons item rest =>
        have skipped := oldest item (by rw [first]; rfl)
        rw [List.filter_cons_of_neg (Bool.eq_false_iff.mp skipped), List.drop_succ_cons, List.drop_zero]
    unfold SocketRequest.upcoming
    rw [items, List.filter_append, kept, ← List.append_assoc, List.map_append, EventTable.append_log]
    cases filtered : request.filter with
    | none =>
      have passes : request.forwards last (overflowGap : EventItem Payload) = true := by
        dsimp only [SocketRequest.forwards, overflowGap]
        rw [filtered]
        rfl
      rw [List.filter_cons_of_pos passes]
      exact serving.covers.mark (newest table _ _ _ _)
    | some device =>
      have stays : ¬ request.forwards last (overflowGap : EventItem Payload) = true := by
        dsimp only [SocketRequest.forwards, overflowGap]
        rw [filtered]
        exact Bool.false_ne_true
      rw [List.filter_cons_of_neg stays, List.filter_nil, List.map_nil, List.append_nil]
      refine serving.covers.skip fun wants => ?_
      rw [reached wants] at filtered
      contradiction

theorem publish {kind : String} {ahead behind : List (EventQueue Payload)}
    (keeps : QueueKeeps request last (table.append (categoryOf kind) deviceId hostReceiveNs payload).2 ahead queue) :
    Serving request (table.append (categoryOf kind) deviceId hostReceiveNs payload).1
      (publishOwn (putLive overflowGap (.event (table.append (categoryOf kind) deviceId hostReceiveNs payload).2))
        ahead queue behind) last front := by
  unfold QueueKeeps at keeps
  split at keeps
  next anyFull =>
    obtain ⟨other, inside, full⟩ := anyFull
    rw [publishOwn_unreached]
    · exact serving.miss keeps
    · refine ⟨other, inside, ?_⟩
      rw [(putLive_full full).1]
      exact Option.some_ne_none _
  next noneFull =>
    rw [publishOwn_reached fun other inside =>
      (putLive_room (Bool.eq_false_iff.mpr fun full => noneFull ⟨other, inside, full⟩)).1]
    cases full : queue.full with
    | false => exact serving.put (putLive_room full).2
    | true => exact serving.overflow (putLive_full full).2 (keeps full).1 (keeps full).2

theorem broadcast
    (keeps : queue.full = true → request.wants (table.append category deviceId hostReceiveNs payload).2 = false) :
    Serving request (table.append category deviceId hostReceiveNs payload).1
      (if queue.full then queue
        else (queue.putNowait (.event (table.append category deviceId hostReceiveNs payload).2)).1) last front := by
  cases full : queue.full with
  | true =>
    rw [if_pos rfl]
    exact serving.miss (keeps full)
  | false =>
    rw [if_neg Bool.false_ne_true]
    have free : queue.items.length < queue.limit :=
      not_le.mp fun reached => Bool.eq_false_iff.mp full (queue.full_iff.mpr reached)
    exact serving.put (Subscriber.putNowait_room free _).2.1

end serving

end Serving

theorem upcoming_forwarded {queue : EventQueue Payload} {last : Int} {item : EventItem Payload}
    {rest : List (EventItem Payload)} (queued : (queuedRows queue).Sublist table.rows) (items : queue.items = item :: rest)
    (passes : request.forwards last item = true) :
    request.upcoming last queue = item :: request.upcoming (max last item.eventId) queue.dropOldest := by
  unfold SocketRequest.upcoming
  dsimp only [Subscriber.dropOldest]
  rw [items, List.filter_cons_of_pos passes, List.drop_succ_cons, List.drop_zero, List.cons.injEq]
  refine ⟨rfl, List.filter_congr fun other inside => ?_⟩
  have known := queued.trans table.rows_sublist
  cases other with
  | historyGap => rfl
  | event later =>
    have isQueued : later ∈ queuedRows queue :=
      List.mem_filterMap.mpr ⟨.event later, items ▸ List.mem_cons_of_mem _ inside, rfl⟩
    have positive := (EventTable.bounds (known.subset isQueued)).1
    rw [forwards_event positive, forwards_event positive]
    congr 1
    rw [decide_eq_decide]
    cases item with
    | historyGap =>
      dsimp only [EventItem.eventId]
      omega
    | event row =>
      have increasing := table.increasing.sublist known
      unfold queuedRows at increasing
      rw [items, List.filterMap_cons_some (f := EventItem.row) rfl, List.pairwise_cons] at increasing
      have behind := increasing.1 later (List.mem_filterMap.mpr ⟨_, inside, rfl⟩)
      have first : row ∈ queuedRows queue := List.mem_filterMap.mpr ⟨.event row, items ▸ List.mem_cons_self, rfl⟩
      rw [forwards_event (EventTable.bounds (known.subset first)).1, Bool.and_eq_true, decide_eq_true_eq] at passes
      dsimp only [EventItem.eventId]
      omega

theorem Serving.forward {queue : EventQueue Payload} {last : Int} {front : List (EventItem Payload)}
    {item : EventItem Payload} {rest : List (EventItem Payload)} (serving : Serving request table queue last front)
    (items : queue.items = item :: rest) (passes : request.forwards last item = true) :
    Serving request table queue.dropOldest (max last item.eventId) (front ++ [item]) where
  queued := ((List.drop_sublist 1 queue.items).filterMap _).trans serving.queued
  cursor := serving.cursor.trans (le_max_left _ _)
  bound := by
    have bound := serving.bound
    cases item with
    | historyGap =>
      dsimp only [EventItem.eventId]
      omega
    | event row =>
      have first : row ∈ queuedRows queue := List.mem_filterMap.mpr ⟨.event row, items ▸ List.mem_cons_self, rfl⟩
      have known := (serving.queued.trans table.rows_sublist).subset first
      have inside := (EventTable.bounds known).2
      dsimp only [EventItem.eventId]
      omega
  covers := by
    have covers := serving.covers
    rw [upcoming_forwarded serving.queued items passes] at covers
    rw [List.append_assoc]
    exact covers

theorem Serving.discard {queue : EventQueue Payload} {last : Int} {front : List (EventItem Payload)}
    {item : EventItem Payload} {rest : List (EventItem Payload)} (serving : Serving request table queue last front)
    (items : queue.items = item :: rest) (stays : ¬ request.forwards last item = true) :
    Serving request table queue.dropOldest last front where
  queued := ((List.drop_sublist 1 queue.items).filterMap _).trans serving.queued
  cursor := serving.cursor
  bound := serving.bound
  covers := by
    have same : request.upcoming last queue.dropOldest = request.upcoming last queue := by
      unfold SocketRequest.upcoming
      dsimp only [Subscriber.dropOldest]
      rw [items, List.filter_cons_of_neg stays, List.drop_succ_cons, List.drop_zero]
    rw [same]
    exact serving.covers

section
variable {history : List (EventRow Payload)}

theorem lastEventId_cases (request : SocketRequest) (history : List (EventRow Payload)) :
    request.lastEventId history = request.cursor ∨ ∃ row ∈ history, request.lastEventId history = row.eventId := by
  unfold SocketRequest.lastEventId
  split
  next row last => exact .inr ⟨row, List.mem_of_getLast? last, rfl⟩
  next => exact .inl rfl

theorem lastEventId_above (increasing : history.Pairwise (·.eventId < ·.eventId)) :
    ∀ row ∈ history, (row.eventId : Int) ≤ request.lastEventId history := by
  intro row inside
  unfold SocketRequest.lastEventId
  split
  next final last =>
    obtain ⟨earlier, rfl⟩ := List.getLast?_eq_some_iff.mp last
    rcases List.mem_append.mp inside with before | same
    · have below := (List.pairwise_append.mp increasing).2.2 row before final (List.mem_singleton_self _)
      omega
    · cases List.mem_singleton.mp same
      exact le_refl _
  next none =>
    rw [List.getLast?_eq_none_iff] at none
    subst none
    exact absurd inside List.not_mem_nil

theorem wants_newer (wants : request.wants row = true) : request.cursor < row.eventId := by
  unfold SocketRequest.wants at wants
  rw [Bool.and_eq_true, decide_eq_true_eq] at wants
  exact wants.1

theorem selected_wants (cursor : request.cursor = 0) (known : row ∈ table.log) :
    request.wants row = selected request.filter [] row := by
  have positive := (EventTable.bounds known).1
  unfold SocketRequest.wants
  rw [decide_eq_true (by omega), Bool.true_and]

/-- What the history has: the retained rows for the client, up to the limit. -/
theorem history_rows {queue : EventQueue Payload} (held : BacklogHeld request table queue) :
    (request.history table).1 = (table.rows.filter request.wants).take backlogLimit := by
  unfold SocketRequest.history BacklogHeld at *
  split
  next cursor =>
    rw [if_pos cursor] at held
    have same : table.rows.filter (selected request.filter []) = table.rows.filter request.wants :=
      List.filter_congr fun row inside => (selected_wants cursor (table.rows_sublist.subset inside)).symm
    dsimp only [EventTable.latestEvents]
    rw [same, List.take_of_length_le held.2]
    have few : (table.rows.filter request.wants).length - max 1 (min backlogLimit 5000) = 0 :=
      Nat.sub_eq_zero_of_le (held.2.trans (by decide))
    rw [few, List.drop_zero]
  next => rfl

/-- A row that the client wants is in the history, or waits behind it, or is announced as missing. -/
theorem history_holds {queue : EventQueue Payload} (held : BacklogHeld request table queue) (known : row ∈ table.log)
    (wants : request.wants row = true) :
    row ∈ (request.history table).1 ∨
      (.event row ∈ queue.items ∧ ∀ other ∈ (request.history table).1, other.eventId < row.eventId) ∨
      (request.history table).2 = true ∧ row ∉ table.rows := by
  rw [history_rows held]
  by_cases retained : row ∈ table.rows
  · have found : row ∈ table.rows.filter request.wants := List.mem_filter.mpr ⟨retained, wants⟩
    rw [← List.take_append_drop backlogLimit (table.rows.filter request.wants)] at found
    rcases List.mem_append.mp found with here | beyond
    · exact .inl here
    · have increasing := (table.increasing.sublist table.rows_sublist).filter request.wants
      rw [← List.take_append_drop backlogLimit (table.rows.filter request.wants), List.pairwise_append] at increasing
      refine .inr (.inl ⟨?_, fun other inside => increasing.2.2 other inside row beyond⟩)
      unfold BacklogHeld at held
      split at held
      next =>
        rw [List.drop_of_length_le held.2] at beyond
        exact absurd beyond List.not_mem_nil
      next => exact held.2 row beyond
  · refine .inr (.inr ⟨?_, retained⟩)
    unfold BacklogHeld at held
    unfold SocketRequest.history
    split at held
    next => exact absurd (held.1 row known wants) retained
    next cursor =>
      rw [if_neg cursor]
      dsimp only [EventTable.eventsAfter]
      rw [decide_eq_true_eq]
      cases oldest : (table.rows.map EventRow.eventId).min? with
      | none =>
        rw [List.min?_eq_none_iff, List.map_eq_nil_iff] at oldest
        exact absurd wants (Bool.eq_false_iff.mp (held.1 oldest row known))
      | some first =>
        obtain ⟨inside, _⟩ := List.min?_eq_some_iff.mp oldest
        obtain ⟨kept, isKept, rfl⟩ := List.mem_map.mp inside
        have older := EventTable.dropped_older known retained isKept
        have newer := wants_newer wants
        rw [Option.getD_some]
        exact ⟨cursor, by omega, by omega⟩

end

theorem mem_upcoming {queue : EventQueue Payload} {last : Int} :
    some row ∈ (request.upcoming last queue).map EventItem.row ↔ .event row ∈ request.upcoming last queue := by
  rw [List.mem_map]
  constructor
  · rintro ⟨item, inside, same⟩
    cases item with
    | event other =>
      cases same
      exact inside
    | historyGap => contradiction
  · exact fun inside => ⟨_, inside, rfl⟩

/-- What the handler has read and what waits behind it is all that the client wants. -/
theorem Serving.start {queue : EventQueue Payload} (queued : (queuedRows queue).Sublist table.rows)
    (held : BacklogHeld request table queue) :
    Serving request table queue (request.lastEventId (request.history table).1)
      ((if (request.history table).2 then [retentionGap] else []) ++ (request.history table).1.map .event) := by
  have retained : ∀ row ∈ (request.history table).1, row ∈ table.rows ∧ request.wants row = true := by
    rw [history_rows held]
    exact fun row inside => List.mem_filter.mp (List.mem_of_mem_take inside)
  have increasing : (request.history table).1.Pairwise (·.eventId < ·.eventId) := by
    rw [history_rows held]
    exact table.increasing.sublist ((List.take_sublist _ _).trans (List.filter_sublist.trans table.rows_sublist))
  have above : request.cursor ≤ request.lastEventId (request.history table).1 := by
    rcases lastEventId_cases request (request.history table).1 with same | ⟨row, inside, same⟩
    · exact same.ge
    · rw [same]
      exact (wants_newer (retained row inside).2).le
  refine ⟨queued, above, ?_, ?_⟩
  · rcases lastEventId_cases request (request.history table).1 with same | ⟨row, inside, same⟩
    · exact .inl same.le
    · rw [same]
      exact .inr (Int.ofNat_le.mpr (EventTable.bounds (table.rows_sublist.subset (retained row inside).1)).2)
  -- the rows behind the history are newer than it
  have waiting : ∀ row, .event row ∈ request.upcoming (request.lastEventId (request.history table).1) queue →
      row ∈ table.rows ∧ request.wants row = true ∧ ∀ other ∈ (request.history table).1, other.eventId < row.eventId := by
    intro row inside
    obtain ⟨isQueued, passes⟩ := List.mem_filter.mp inside
    have isRetained := queued.subset (List.mem_filterMap.mpr ⟨_, isQueued, rfl⟩)
    rw [forwards_event (EventTable.bounds (table.rows_sublist.subset isRetained)).1, Bool.and_eq_true,
      decide_eq_true_eq] at passes
    refine ⟨isRetained, ?_, fun other read => ?_⟩
    · unfold SocketRequest.wants
      rw [Bool.and_eq_true, decide_eq_true_eq]
      exact ⟨by omega, passes.2⟩
    · have below : (other.eventId : Int) ≤ request.lastEventId (request.history table).1 :=
        lastEventId_above increasing other read
      omega
  have stream : ((((if (request.history table).2 then [retentionGap] else []) ++ (request.history table).1.map EventItem.event) ++
        request.upcoming (request.lastEventId (request.history table).1) queue).map EventItem.row) =
      (if (request.history table).2 then [none] else []) ++ ((request.history table).1.map some ++
        (request.upcoming (request.lastEventId (request.history table).1) queue).map EventItem.row) := by
    rw [List.append_assoc, List.map_append, List.map_append, List.map_map]
    cases (request.history table).2 <;> rfl
  rw [stream]
  refine .start ?_ ?_ ?_
  · rw [List.pairwise_append, List.filterMap_map]
    refine ⟨increasing, ?_, ?_⟩
    · exact table.increasing.sublist ((List.filter_sublist.filterMap _).trans (queued.trans table.rows_sublist))
    · intro other read row inside
      obtain ⟨item, waits, same⟩ := List.mem_filterMap.mp inside
      exact (waiting row (mem_upcoming.mp (List.mem_map.mpr ⟨item, waits, same⟩))).2.2 other read
  · rintro row (read | waits)
    · exact ⟨table.rows_sublist.subset (retained row read).1, (retained row read).2⟩
    · have facts := waiting row (mem_upcoming.mp waits)
      exact ⟨table.rows_sublist.subset facts.1, facts.2.1⟩
  · intro row known wants
    rcases history_holds held known wants with read | ⟨isQueued, behind⟩ | ⟨gap, gone⟩
    · exact .inl read
    · refine .inr (.inl (mem_upcoming.mpr (List.mem_filter.mpr ⟨isQueued, ?_⟩)))
      rw [forwards_event (EventTable.bounds known).1, Bool.and_eq_true, decide_eq_true_eq]
      refine ⟨?_, ?_⟩
      · have newer := wants_newer wants
        rcases lastEventId_cases request (request.history table).1 with same | ⟨other, read, same⟩
        · rw [same]
          exact newer
        · rw [same]
          exact Int.ofNat_lt.mpr (behind other read)
      · exact (Bool.and_eq_true _ _ ▸ wants).2
    · refine .inr (.inr ⟨gap, fun other among => ?_⟩)
      rcases among with read | waits
      · exact EventTable.dropped_older known gone (retained other read).1
      · exact EventTable.dropped_older known gone (waiting other (mem_upcoming.mp waits)).1

section
variable {queue : EventQueue Payload} {category : EventCategory} {deviceId : Option DeviceId} {hostReceiveNs : Nat}
  {payload : Payload}

/-- Whatever the loop does to a queue, its rows stay rows of the table. -/
theorem publishOwn_rows {ahead behind : List (EventQueue Payload)} (queued : (queuedRows queue).Sublist table.rows) :
    (queuedRows (publishOwn (putLive overflowGap (.event (table.append category deviceId hostReceiveNs payload).2))
      ahead queue behind)).Sublist (table.append category deviceId hostReceiveNs payload).1.rows := by
  rw [EventTable.append_rows]
  by_cases quiet : ∀ other ∈ ahead,
      (putLive overflowGap (.event (table.append category deviceId hostReceiveNs payload).2) other).2 = none
  · rw [publishOwn_reached quiet]
    unfold queuedRows
    cases full : queue.full with
    | false =>
      rw [(putLive_room full).2, List.filterMap_append]
      exact queued.append (List.Sublist.refl _)
    | true =>
      rw [(putLive_full full).2, List.filterMap_append]
      exact (((List.drop_sublist 1 queue.items).filterMap _).trans queued).append (List.nil_sublist _)
  · push Not at quiet
    rw [publishOwn_unreached quiet]
    exact queued.trans (List.sublist_append_left _ _)

theorem broadcast_rows (queued : (queuedRows queue).Sublist table.rows) :
    (queuedRows (if queue.full then queue
      else (queue.putNowait (.event (table.append category deviceId hostReceiveNs payload).2)).1)).Sublist
      (table.append category deviceId hostReceiveNs payload).1.rows := by
  rw [EventTable.append_rows]
  cases full : queue.full with
  | true =>
    rw [if_pos rfl]
    exact queued.trans (List.sublist_append_left _ _)
  | false =>
    rw [if_neg Bool.false_ne_true]
    have free : queue.items.length < queue.limit :=
      not_le.mp fun reached => Bool.eq_false_iff.mp full (queue.full_iff.mpr reached)
    unfold queuedRows
    rw [(Subscriber.putNowait_room free _).2.1, List.filterMap_append]
    exact queued.append (List.Sublist.refl _)

end

theorem covers_grow {category : EventCategory} {deviceId : Option DeviceId} {hostReceiveNs : Nat} {payload : Payload}
    {front rest : List (Option (EventRow Payload))}
    (covers : Covers EventRow.eventId (request.wants · = true) table.log (front ++ rest)) :
    ∃ rest, Covers EventRow.eventId (request.wants · = true)
      (table.append category deviceId hostReceiveNs payload).1.log (front ++ rest) := by
  refine ⟨rest ++ [none], ?_⟩
  rw [EventTable.append_log, ← List.append_assoc]
  exact covers.mark (Serving.newest table _ _ _ _)

section sound
variable (sound : PointSound request world)
include sound

theorem PointSound.deviceEvent {kind : String} {deviceId : Option DeviceId} {hostReceiveNs : Nat} {payload : Payload}
    {ahead behind : List (EventQueue Payload)} {after : SocketWorld Payload}
    (marked : LossMarked request world (.deviceEvent kind deviceId hostReceiveNs payload ahead behind))
    (next : nextSocket request world (.deviceEvent kind deviceId hostReceiveNs payload ahead behind) = some after) :
    PointSound request after := by
  cases next
  unfold PointSound at sound ⊢
  dsimp only [LossMarked] at marked
  dsimp only
  cases point : world.point with
  | opening =>
    rw [point] at sound
    exact sound
  | preparing queue =>
    rw [point] at sound
    exact ⟨sound.1, publishOwn_rows sound.2⟩
  | replaying queue pending last =>
    rw [point] at sound marked
    exact sound.publish marked
  | forwarding queue last =>
    rw [point] at sound marked
    exact sound.publish marked
  | closed =>
    rw [point] at sound
    exact sound.imp id fun ⟨rest, covers⟩ => covers_grow covers

theorem PointSound.broadcastSystem {hostReceiveNs : Nat} {audit : Payload} {after : SocketWorld Payload}
    (marked : LossMarked request world (.broadcastSystem hostReceiveNs audit))
    (next : nextSocket request world (.broadcastSystem hostReceiveNs audit) = some after) :
    PointSound request after := by
  cases next
  unfold PointSound at sound ⊢
  dsimp only [LossMarked] at marked
  dsimp only
  cases point : world.point with
  | opening =>
    rw [point] at sound
    exact sound
  | preparing queue =>
    rw [point] at sound
    exact ⟨sound.1, broadcast_rows sound.2⟩
  | replaying queue pending last =>
    rw [point] at sound marked
    exact sound.broadcast marked
  | forwarding queue last =>
    rw [point] at sound marked
    exact sound.broadcast marked
  | closed =>
    rw [point] at sound
    exact sound.imp id fun ⟨rest, covers⟩ => covers_grow covers

theorem PointSound.forward {after : SocketWorld Payload} (next : nextSocket request world .forward = some after) :
    PointSound request after := by
  unfold PointSound at sound
  dsimp only [nextSocket] at next
  split at next
  next queue last point =>
    rw [point] at sound
    split at next
    next => contradiction
    next item rest items =>
      split at next
      next passes =>
        cases next
        exact sound.forward items passes
      next stays =>
        cases next
        exact sound.discard items stays
  next => contradiction

theorem PointSound.send {after : SocketWorld Payload} (next : nextSocket request world .send = some after) :
    PointSound request after := by
  unfold PointSound at sound
  dsimp only [nextSocket] at next
  split at next
  next queue item pending last point =>
    cases next
    rw [point] at sound
    unfold PointSound
    dsimp only
    rw [List.append_assoc]
    exact sound
  next queue last point =>
    cases next
    rw [point] at sound
    unfold PointSound
    dsimp only
    rw [← List.append_nil world.received]
    exact sound
  next => contradiction

theorem PointSound.close {after : SocketWorld Payload} (next : nextSocket request world .close = some after) :
    PointSound request after := by
  unfold PointSound at sound
  dsimp only [nextSocket] at next
  split at next
  next => contradiction
  next => contradiction
  cases next
  unfold PointSound
  cases point : world.point with
  | opening => contradiction
  | closed => contradiction
  | preparing queue =>
    rw [point] at sound
    exact .inl sound.1
  | replaying queue pending last =>
    rw [point] at sound
    have covers := sound.covers
    rw [List.append_assoc, List.map_append] at covers
    exact .inr ⟨_, covers⟩
  | forwarding queue last =>
    rw [point] at sound
    have covers := sound.covers
    rw [List.map_append] at covers
    exact .inr ⟨_, covers⟩

end sound

theorem point_sound : Invariant ((socketSystem Payload request).guarded (LossMarked request)) (PointSound request) where
  start := by
    rintro world ⟨table, rfl⟩
    exact rfl
  step := by
    rintro world event after sound ⟨marked, next⟩
    have next : nextSocket request world event = some after := next
    cases event with
    | subscribe =>
      unfold PointSound at sound
      dsimp only [nextSocket] at next
      split at next
      next point =>
        cases next
        rw [point] at sound
        exact ⟨sound, List.nil_sublist _⟩
      next => contradiction
    | prepared =>
      unfold PointSound at sound
      dsimp only [nextSocket] at next
      dsimp only [LossMarked] at marked
      split at next
      next queue point =>
        cases next
        rw [point] at sound marked
        unfold PointSound
        dsimp only
        rw [sound.1, List.nil_append]
        exact .start sound.2 marked
      next => contradiction
    | send => exact sound.send next
    | forward => exact sound.forward next
    | close => exact sound.close next
    | deviceEvent kind deviceId hostReceiveNs payload ahead behind => exact sound.deviceEvent marked next
    | broadcastSystem hostReceiveNs audit => exact sound.broadcastSystem marked next

/-- What has been received is the front of a stream that covers the log, or nothing was. -/
theorem PointSound.front (sound : PointSound request world) :
    (world.stream = [] ∧ ¬ world.Drained) ∨
      ∃ rest, Covers EventRow.eventId (request.wants · = true) world.table.log (world.stream ++ rest) ∧
        (world.Drained → rest = []) := by
  unfold PointSound at sound
  cases point : world.point with
  | opening =>
    rw [point] at sound
    refine .inl ⟨?_, fun ⟨queue, last, other, _⟩ => ?_⟩
    · unfold SocketWorld.stream
      rw [sound, List.map_nil]
    · rw [point] at other
      contradiction
  | preparing queue =>
    rw [point] at sound
    refine .inl ⟨?_, fun ⟨queue, last, other, _⟩ => ?_⟩
    · unfold SocketWorld.stream
      rw [sound.1, List.map_nil]
    · rw [point] at other
      contradiction
  | replaying queue pending last =>
    rw [point] at sound
    have covers := sound.covers
    rw [List.append_assoc, List.map_append] at covers
    refine .inr ⟨_, covers, fun ⟨queue, last, other, _⟩ => ?_⟩
    rw [point] at other
    contradiction
  | forwarding queue last =>
    rw [point] at sound
    have covers := sound.covers
    rw [List.map_append] at covers
    refine .inr ⟨_, covers, fun ⟨other, mark, same, empty⟩ => ?_⟩
    cases point.symm.trans same
    unfold SocketRequest.upcoming
    rw [empty]
    rfl
  | closed =>
    rw [point] at sound
    have undrained : ¬ world.Drained := by
      rintro ⟨queue, last, other, _⟩
      rw [point] at other
      contradiction
    rcases sound with none | ⟨rest, covers⟩
    · refine .inl ⟨?_, undrained⟩
      unfold SocketWorld.stream
      rw [none, List.map_nil]
    · exact .inr ⟨rest, covers, fun drained => absurd drained undrained⟩

/-- Whatever comes while the client is served, it gets all that it asked for or is told of a gap. -/
theorem event_stream_complete (reached : Reachable ((socketSystem Payload request).guarded (LossMarked request)) world) :
    CompleteStream request world := by
  rcases (point_sound.reachable reached).front with ⟨empty, undrained⟩ | ⟨rest, covers, drained⟩
  · refine ⟨?_, ?_, ?_⟩
    · rw [empty]
      exact List.Pairwise.nil
    · rw [empty]
      exact fun row inside => absurd inside List.not_mem_nil
    · rintro row _ _ (⟨later, inside, _⟩ | drained)
      · rw [empty] at inside
        exact absurd inside List.not_mem_nil
      · exact absurd drained undrained
  · obtain ⟨increasing, wanted⟩ := covers.received
    refine ⟨increasing, wanted, ?_⟩
    rintro row known wants (⟨later, inside, behind⟩ | isDrained)
    · exact covers.passed known wants inside behind
    · have all := covers.complete row known wants
      rw [drained isDrained, List.append_nil] at all
      exact all

instance (request : SocketRequest) (last : Int) (row : EventRow Payload) (ahead : List (EventQueue Payload))
    (own : EventQueue Payload) : Decidable (QueueKeeps request last row ahead own) := by
  unfold QueueKeeps
  split <;> infer_instance

instance [DecidableEq Payload] (request : SocketRequest) (world : SocketWorld Payload) (event : SocketEvent Payload) :
    Decidable (LossMarked request world event) := by
  unfold LossMarked BacklogHeld
  split
  · split
    · split <;> infer_instance
    · infer_instance
  · split <;> infer_instance
  · split <;> infer_instance
  · infer_instance

def numberedRow (eventId : Nat) : EventRow Nat := ⟨eventId, some [1], .log, eventId, 0⟩

def thirdRetained : EventTable Nat :=
  ⟨[numberedRow 1, numberedRow 2, numberedRow 3], 2, by decide, by decide⟩

def logged (hostReceiveNs : Nat) (ahead : List (EventQueue Nat)) : SocketEvent Nat :=
  .deviceEvent "log" (some [1]) hostReceiveNs 0 ahead []

def retainedTaken : List (SocketEvent Nat) :=
  [.subscribe, logged 4 [], .prepared, .send, .send, .send, .send, .forward, logged 5 [], .forward]

theorem retained_complete : ∃ world : SocketWorld Nat,
    world.received = [retentionGap, .event (numberedRow 3), .event (numberedRow 4), .event (numberedRow 5)] ∧
    CompleteStream ⟨1, some [1]⟩ world := by
  obtain ⟨world, run, sent⟩ : ∃ world, Run ((socketSystem Nat ⟨1, some [1]⟩).guarded (LossMarked ⟨1, some [1]⟩))
      ⟨thirdRetained, .opening, []⟩ retainedTaken world ∧ decide (world.received =
        [retentionGap, .event (numberedRow 3), .event (numberedRow 4), .event (numberedRow 5)]) = true :=
    Run.of_guarded_check (by decide +kernel)
  exact ⟨world, of_decide_eq_true sent, event_stream_complete ⟨_, _, ⟨thirdRetained, rfl⟩, run⟩⟩

def stalledQueue : EventQueue Nat :=
  ⟨subscriberLimit, List.replicate subscriberLimit overflowGap, by decide, List.length_replicate.le⟩

def stalledTaken : List (SocketEvent Nat) :=
  [.subscribe, .prepared, .send, logged 2 [stalledQueue], logged 3 [], .forward]

/-- The full queue of another client ends the loop: the first event is skipped, and no gap is sent. -/
theorem stalled_neighbour_skips : ∃ world : SocketWorld Nat, Reachable (socketSystem Nat ⟨1, none⟩) world ∧
    world.received = [.event (numberedRow 3)] ∧ ¬ CompleteStream ⟨1, none⟩ world := by
  obtain ⟨world, run, checked⟩ : ∃ world, Run (socketSystem Nat ⟨1, none⟩)
      ⟨⟨[numberedRow 1], 0, rfl, Nat.zero_le _⟩, .opening, []⟩ stalledTaken world ∧ (decide (world.received = [.event (numberedRow 3)]) &&
        decide (numberedRow 2 ∈ world.table.log)) = true :=
    Run.of_check (by decide +kernel)
  rw [Bool.and_eq_true, decide_eq_true_eq, decide_eq_true_eq] at checked
  refine ⟨world, ⟨_, _, ⟨_, rfl⟩, run⟩, checked.1, fun complete => ?_⟩
  have stream : world.stream = [some (numberedRow 3)] := by
    unfold SocketWorld.stream
    rw [checked.1]
    rfl
  rcases complete.complete (numberedRow 2) checked.2 (by decide)
    (.inl ⟨numberedRow 3, by rw [stream]; exact List.mem_singleton_self _, by decide⟩) with sent | ⟨before, after, same, _⟩
  · rw [stream] at sent
    exact absurd (List.mem_singleton.mp sent) (by decide)
  · rw [stream] at same
    have marker : none ∈ [some (numberedRow 3)] := same ▸ List.mem_append_right _ List.mem_cons_self
    exact absurd (List.mem_singleton.mp marker) nofun

end EspIris.Gateway.EventSocket
