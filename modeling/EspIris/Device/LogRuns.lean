import EspIris.Device.LogQueue

/-! Every run of writes, pops and session changes, with the writes of several tasks interleaved at the
lock: the ring and the queue that it stands for take the same steps and yield the same records. -/

namespace EspIris.Device.Log

/-- What `log_write` and `queue_next_log` need of the store behind them. -/
structure LogBackend (Store : Type) where
  push : Store → LogRecord → Store
  pop : Store → Nat → Store × Option LogTaken

def ringBackend : LogBackend LogRing := ⟨LogRing.writeChunk, LogRing.irisLogPop⟩

def fifoBackend (config : LogConfig) : LogBackend LogFifo := ⟨LogFifo.push config.ringBytes, LogFifo.pop⟩

/-- A call of `log_write` between two turns of its loop. -/
structure LogCall where
  source : UInt8
  rest : List UInt8

structure LogState (Store : Type) where
  store : Store
  calls : Nat → LogCall
  logCredit : UInt32
  written : List LogRecord
  popped : List (Nat × LogTaken)

inductive LogEvent
  | write (task : Nat) (fd : Int) (data : List UInt8)
  | turn (task : Nat) (now : UInt64)
  | pop (payloadBudget : Nat)
  | credit (amount : UInt32)
  | next (queued : Bool)
  | session

variable {Store : Type}

def LogState.setCall (state : LogState Store) (task : Nat) (call : LogCall) : LogState Store :=
  { state with calls := Function.update state.calls task call }

def LogCall.record (call : LogCall) (now : UInt64) : LogRecord where
  monotonicUs := now
  source := call.source
  flags := 0
  data := call.rest.take recordDataMax

def LogState.turn (backend : LogBackend Store) (state : LogState Store) (task : Nat) (now : UInt64) : LogState Store :=
  let call := state.calls task
  if call.rest = [] then state
  else
    let record := call.record now
    { state.setCall task { call with rest := call.rest.drop recordDataMax } with
      store := backend.push state.store record
      written := state.written ++ [record] }

def LogState.pop (backend : LogBackend Store) (state : LogState Store) (payloadBudget : Nat) : LogState Store :=
  let (store, taken) := backend.pop state.store payloadBudget
  { state with store, popped := state.popped ++ taken.toList.map (payloadBudget, ·) }

def LogState.queueNextLog (backend : LogBackend Store) (state : LogState Store) (queued : Bool) : LogState Store :=
  if state.logCredit.toNat < 16 then state
  else
    let after := state.pop backend state.logCredit.toNat
    match (backend.pop state.store state.logCredit.toNat).2 with
    | some taken =>
      if queued then { after with logCredit := state.logCredit - UInt32.ofNat (16 + taken.record.data.length) } else after
    | none => after

def grantCredit (credit amount : UInt32) : UInt32 :=
  if 0xffffffff - credit < amount then 0xffffffff else credit + amount

def LogState.step (backend : LogBackend Store) (state : LogState Store) : LogEvent → LogState Store
  | .write task fd data =>
    if (state.calls task).rest = [] then state.setCall task { source := if fd = 2 then 2 else 1, rest := data } else state
  | .turn task now => state.turn backend task now
  | .pop payloadBudget => state.pop backend payloadBudget
  | .credit amount => { state with logCredit := grantCredit state.logCredit amount }
  | .next queued => state.queueNextLog backend queued
  | .session => { state with logCredit := 0 }

theorem LogState.step_credit (backend : LogBackend Store) (state : LogState Store) (amount : UInt32) :
    state.step backend (.credit amount) = { state with logCredit := grantCredit state.logCredit amount } := rfl

def LogState.initial (store : Store) : LogState Store where
  store := store
  calls := fun _ => ⟨0, []⟩
  logCredit := 0
  written := []
  popped := []

/-- The ring as `ring_reset` leaves it, whatever its cells and its fields held. -/
def freshRing (config : LogConfig) (before : LogRing) (cells : Vector UInt8 config.ringBytes) : LogRing :=
  LogRing.ringReset { before with data := cells.toList }

def emptyFifo : LogFifo := ⟨[], [], 0⟩

/-- The run of the ring, from the state that `ring_reset` leaves. -/
def ringRun (config : LogConfig) (before : LogRing) (cells : Vector UInt8 config.ringBytes) (events : List LogEvent) :
    LogState LogRing :=
  events.foldl (LogState.step ringBackend) (.initial (freshRing config before cells))

def fifoRun (config : LogConfig) (events : List LogEvent) : LogState LogFifo :=
  events.foldl (LogState.step (fifoBackend config)) (.initial emptyFifo)

structure Simulates (config : LogConfig) (ring : LogState LogRing) (fifo : LogState LogFifo) : Prop where
  store : Represents config ring.store fifo.store
  calls : ring.calls = fifo.calls
  logCredit : ring.logCredit = fifo.logCredit
  written : ring.written = fifo.written
  popped : ring.popped = fifo.popped

def LogState.poppedRecords (state : LogState Store) : List LogRecord := state.popped.map fun pop => pop.2.record

/-- The records of the queue come from the writes, in their order and with nothing changed, and
every byte that was written is accounted for. -/
structure FifoSound (state : LogState LogFifo) : Prop where
  order : (state.poppedRecords ++ state.store.queue).Sublist state.written
  bytes : payloadBytes state.written =
    payloadBytes state.poppedRecords + state.store.dropped + payloadBytes state.store.queue
  budget : ∀ pop ∈ state.popped, 16 + pop.2.record.data.length ≤ pop.1

section simulation
variable {config : LogConfig} {ring : LogState LogRing} {fifo : LogState LogFifo}

theorem freshRing_represents (before : LogRing) (cells : Vector UInt8 config.ringBytes) :
    Represents config (freshRing config before cells) emptyFifo := by
  have capacity : (freshRing config before cells).ringCapacity = config.ringBytes := Vector.length_toList
  have holds : (freshRing config before cells).Holds 0 (encodeAll []) := by
    constructor
    case inside =>
      have range := config.range
      rw [capacity]
      omega
    case fits => exact Nat.zero_le _
    case region => rfl
    case ends => exact Nat.zero_mod _
  constructor
  case capacity => exact capacity
  case live => exact holds
  case used => rfl
  case retained => exact holds
  case retainedBytes => rfl
  case suffix => exact List.suffix_rfl
  case dropped => rfl
  case small => exact fun record inside => absurd inside List.not_mem_nil

theorem LogCall.record_small (call : LogCall) (now : UInt64) : (call.record now).data.length ≤ recordDataMax :=
  List.length_take_le _ _

section simulates
variable (simulates : Simulates config ring fifo)
include simulates

theorem Simulates.turn (task : Nat) (now : UInt64) :
    Simulates config (ring.turn ringBackend task now) (fifo.turn (fifoBackend config) task now) := by
  unfold LogState.turn
  dsimp only
  rw [simulates.calls]
  split
  next => exact simulates
  constructor
  case store => exact writeChunk_represents simulates.store (LogCall.record_small _ _)
  case calls => exact congrArg (Function.update · task _) simulates.calls
  case logCredit => exact simulates.logCredit
  case written => exact congrArg (· ++ _) simulates.written
  case popped => exact simulates.popped

theorem Simulates.pop (payloadBudget : Nat) :
    Simulates config (ring.pop ringBackend payloadBudget) (fifo.pop (fifoBackend config) payloadBudget) ∧
      (ringBackend.pop ring.store payloadBudget).2 = ((fifoBackend config).pop fifo.store payloadBudget).2 := by
  obtain ⟨store, taken⟩ := irisLogPop_represents simulates.store payloadBudget
  refine ⟨?_, taken⟩
  constructor
  case store => exact store
  case calls => exact simulates.calls
  case logCredit => exact simulates.logCredit
  case written => exact simulates.written
  case popped =>
    show ring.popped ++ _ = fifo.popped ++ _
    rw [simulates.popped]
    exact congrArg (fun taken => fifo.popped ++ taken.toList.map (payloadBudget, ·)) taken

theorem Simulates.queueNextLog (queued : Bool) :
    Simulates config (ring.queueNextLog ringBackend queued) (fifo.queueNextLog (fifoBackend config) queued) := by
  obtain ⟨popped, taken⟩ := simulates.pop fifo.logCredit.toNat
  unfold LogState.queueNextLog
  dsimp only
  rw [simulates.logCredit, taken]
  split
  next => exact simulates
  split
  next record _ =>
    split
    next => exact { popped with logCredit := rfl }
    next => exact popped
  next => exact popped

theorem Simulates.step (event : LogEvent) :
    Simulates config (ring.step ringBackend event) (fifo.step (fifoBackend config) event) := by
  cases event with
  | write task fd data =>
    unfold LogState.step
    dsimp only
    rw [simulates.calls]
    split
    next => exact { simulates with calls := congrArg (Function.update · task _) simulates.calls }
    next => exact simulates
  | turn task now => exact simulates.turn task now
  | pop payloadBudget => exact (simulates.pop payloadBudget).1
  | credit amount =>
    have granted : grantCredit ring.logCredit amount = grantCredit fifo.logCredit amount := by rw [simulates.logCredit]
    rw [LogState.step_credit, LogState.step_credit]
    exact ⟨simulates.store, simulates.calls, granted, simulates.written, simulates.popped⟩
  | next queued => exact simulates.queueNextLog queued
  | session => exact { simulates with logCredit := rfl }

theorem Simulates.run (events : List LogEvent) :
    Simulates config (events.foldl (LogState.step ringBackend) ring)
      (events.foldl (LogState.step (fifoBackend config)) fifo) := by
  induction events generalizing ring fifo with
  | nil => exact simulates
  | cons event events ih => exact ih (simulates.step event)

end simulates

end simulation

section soundness
variable {config : LogConfig} {state : LogState LogFifo}

@[simp] theorem payloadBytes_append (left right : List LogRecord) :
    payloadBytes (left ++ right) = payloadBytes left + payloadBytes right := Fifo.total_append _ left right

@[simp] theorem payloadBytes_singleton (record : LogRecord) : payloadBytes [record] = record.data.length := by
  simp [payloadBytes]

theorem FifoSound.initial : FifoSound (.initial emptyFifo) where
  order := List.Sublist.refl _
  bytes := rfl
  budget := fun _ inside => absurd inside List.not_mem_nil

theorem FifoSound.turn (sound : FifoSound state) (task : Nat) (now : UInt64) :
    FifoSound (state.turn (fifoBackend config) task now) := by
  unfold LogState.turn
  dsimp only
  split
  next => exact sound
  generalize (state.calls task).record now = record
  have kept := Fifo.makeRoom_suffix LogRecord.size config.ringBytes record.size state.store.queue
  have fewer : payloadBytes (Fifo.makeRoom LogRecord.size config.ringBytes record.size state.store.queue) ≤
      payloadBytes state.store.queue := Fifo.total_le_of_suffix _ kept
  constructor
  case order =>
    show (state.poppedRecords ++ (Fifo.makeRoom LogRecord.size config.ringBytes record.size state.store.queue ++
      [record])).Sublist (state.written ++ [record])
    rw [← List.append_assoc]
    have shed := (List.Sublist.refl state.poppedRecords).append kept.sublist
    exact (shed.trans sound.order).append (List.Sublist.refl [record])
  case bytes =>
    have before := sound.bytes
    show payloadBytes (state.written ++ [record]) = payloadBytes state.poppedRecords +
      (state.store.dropped + (payloadBytes state.store.queue - payloadBytes
        (Fifo.makeRoom LogRecord.size config.ringBytes record.size state.store.queue))) +
      payloadBytes (Fifo.makeRoom LogRecord.size config.ringBytes record.size state.store.queue ++ [record])
    rw [payloadBytes_append, payloadBytes_append, before]
    omega
  case budget => exact sound.budget

theorem FifoSound.pop (config : LogConfig) (sound : FifoSound state) (payloadBudget : Nat) :
    FifoSound (state.pop (fifoBackend config) payloadBudget) := by
  have order := sound.order
  have bytes := sound.bytes
  cases waiting : state.store.queue with
  | nil =>
    have same : state.pop (fifoBackend config) payloadBudget = state := by
      simp [LogState.pop, fifoBackend, LogFifo.pop, waiting]
    rw [same]
    exact sound
  | cons record queue =>
    rw [waiting] at order bytes
    by_cases admitted : 16 + record.data.length ≤ payloadBudget
    · have taken : state.pop (fifoBackend config) payloadBudget =
          { state with
            store := { state.store with queue }
            popped := state.popped ++ [(payloadBudget, ⟨record, UInt32.ofNat state.store.dropped⟩)] } := by
        simp [LogState.pop, fifoBackend, LogFifo.pop, waiting, admitted]
      have records : (state.pop (fifoBackend config) payloadBudget).poppedRecords = state.poppedRecords ++ [record] := by
        rw [taken, LogState.poppedRecords, List.map_append]
        rfl
      constructor
      case order =>
        rw [records, taken, List.append_assoc]
        exact order
      case bytes =>
        have first : payloadBytes (record :: queue) = record.data.length + payloadBytes queue := Fifo.total_cons _ _ _
        rw [records, taken, payloadBytes_append, payloadBytes_singleton]
        dsimp only
        omega
      case budget =>
        rw [taken]
        intro pop inside
        rcases List.mem_append.mp inside with old | new
        · exact sound.budget pop old
        · rw [List.mem_singleton.mp new]
          exact admitted
    · have same : state.pop (fifoBackend config) payloadBudget = state := by
        simp [LogState.pop, fifoBackend, LogFifo.pop, waiting, admitted]
      rw [same]
      exact sound

theorem FifoSound.of_same {after : LogState LogFifo} (sound : FifoSound state) (store : after.store = state.store)
    (written : after.written = state.written) (popped : after.popped = state.popped) : FifoSound after := by
  have records : after.poppedRecords = state.poppedRecords := by
    rw [LogState.poppedRecords, popped]
    rfl
  constructor
  case order => rw [records, store, written]; exact sound.order
  case bytes => rw [records, store, written]; exact sound.bytes
  case budget => rw [popped]; exact sound.budget

theorem FifoSound.step (sound : FifoSound state) (event : LogEvent) :
    FifoSound (state.step (fifoBackend config) event) := by
  cases event with
  | write task fd data =>
    unfold LogState.step
    dsimp only
    split
    next => exact sound.of_same rfl rfl rfl
    next => exact sound
  | turn task now => exact sound.turn task now
  | pop payloadBudget => exact sound.pop config payloadBudget
  | credit amount =>
    rw [LogState.step_credit]
    exact sound.of_same rfl rfl rfl
  | next queued =>
    have popped := sound.pop config state.logCredit.toNat
    unfold LogState.step LogState.queueNextLog
    dsimp only
    split
    next => exact sound
    split
    next =>
      split
      next => exact popped.of_same rfl rfl rfl
      next => exact popped
    next => exact popped
  | session => exact sound.of_same rfl rfl rfl

theorem FifoSound.run (sound : FifoSound state) (events : List LogEvent) :
    FifoSound (events.foldl (LogState.step (fifoBackend config)) state) := by
  induction events generalizing state with
  | nil => exact sound
  | cons event events ih => exact ih (sound.step event)

end soundness

structure EndsCall (backend : LogBackend Store) (state : LogState Store) (task : Nat) (nows : List UInt64) : Prop where
  rest : (((nows.map (LogEvent.turn task)).foldl (LogState.step backend) state).calls task).rest = []
  records : ∃ records, ((nows.map (LogEvent.turn task)).foldl (LogState.step backend) state).written =
    state.written ++ records ∧ records.flatMap LogRecord.data = (state.calls task).rest ∧
      ∀ record ∈ records, record.source = (state.calls task).source

/-- A call of `log_write` is done after enough turns of its loop. -/
theorem LogState.turns_end (backend : LogBackend Store) (state : LogState Store) (task : Nat) (nows : List UInt64)
    (enough : (state.calls task).rest.length ≤ recordDataMax * nows.length) : EndsCall backend state task nows := by
  induction nows generalizing state with
  | nil =>
    have done : (state.calls task).rest = [] := List.length_eq_zero_iff.mp (Nat.le_zero.mp enough)
    exact ⟨done, [], (List.append_nil _).symm, done.symm, fun _ inside => absurd inside List.not_mem_nil⟩
  | cons now nows ih =>
    have folded : ((now :: nows).map (LogEvent.turn task)).foldl (LogState.step backend) state =
        (nows.map (LogEvent.turn task)).foldl (LogState.step backend) (state.step backend (.turn task now)) := rfl
    by_cases done : (state.calls task).rest = []
    · have idle : state.step backend (.turn task now) = state := if_pos done
      have again := ih state (by rw [done]; exact Nat.zero_le _)
      exact ⟨by rw [folded, idle]; exact again.rest, by rw [folded, idle]; exact again.records⟩
    · have moved : state.step backend (.turn task now) =
          { state.setCall task ⟨(state.calls task).source, (state.calls task).rest.drop recordDataMax⟩ with
            store := backend.push state.store ((state.calls task).record now)
            written := state.written ++ [(state.calls task).record now] } := if_neg done
      have call : (state.step backend (.turn task now)).calls task =
          ⟨(state.calls task).source, (state.calls task).rest.drop recordDataMax⟩ := by
        rw [moved]
        exact Function.update_self _ _ _
      rw [List.length_cons, Nat.mul_succ] at enough
      obtain ⟨ended, records, written, data, source⟩ := ih (state.step backend (.turn task now)) (by
        rw [call, List.length_drop]
        omega)
      refine ⟨ended, (state.calls task).record now :: records, ?_, ?_, ?_⟩
      · rw [folded, written, moved, List.append_assoc]
        rfl
      · rw [List.flatMap_cons, data, call]
        exact List.take_append_drop _ _
      · intro record inside
        rcases List.mem_cons.mp inside with rfl | later
        · rfl
        · rw [source record later, call]

structure LogRefines (config : LogConfig) (ring : LogState LogRing) (fifo : LogState LogFifo) : Prop where
  simulates : Simulates config ring fifo
  order : (ring.poppedRecords ++ fifo.store.queue).Sublist ring.written
  bytes : UInt32.ofNat (payloadBytes ring.written) = UInt32.ofNat (payloadBytes ring.poppedRecords) +
    ring.store.logDroppedBytes + UInt32.ofNat (payloadBytes fifo.store.queue)
  budget : ∀ pop ∈ ring.popped, 16 + pop.2.record.data.length ≤ pop.1
  ends : ∀ (task : Nat) (nows : List UInt64), (ring.calls task).rest.length ≤ recordDataMax * nows.length →
    EndsCall ringBackend ring task nows

/-- For every run the ring is a bounded queue of records, and a history that ends with it. -/
theorem log_ring_refines (config : LogConfig) (before : LogRing) (cells : Vector UInt8 config.ringBytes)
    (events : List LogEvent) : LogRefines config (ringRun config before cells events) (fifoRun config events) := by
  have initial : Simulates config (.initial (freshRing config before cells)) (.initial emptyFifo) :=
    ⟨freshRing_represents before cells, rfl, rfl, rfl, rfl⟩
  have simulates : Simulates config (ringRun config before cells events) (fifoRun config events) := initial.run events
  have sound : FifoSound (fifoRun config events) := FifoSound.initial.run events
  have records : (ringRun config before cells events).poppedRecords = (fifoRun config events).poppedRecords := by
    rw [LogState.poppedRecords, simulates.popped]
    rfl
  constructor
  case simulates => exact simulates
  case order =>
    rw [records, simulates.written]
    exact sound.order
  case bytes =>
    rw [records, simulates.written, simulates.store.dropped, sound.bytes, UInt32.ofNat_add, UInt32.ofNat_add]
  case budget =>
    rw [simulates.popped]
    exact sound.budget
  case ends => exact fun task nows enough => (ringRun config before cells events).turns_end ringBackend task nows enough

end EspIris.Device.Log
