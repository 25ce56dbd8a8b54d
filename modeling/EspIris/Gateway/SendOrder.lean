import EspIris.Codec.Agreement
import EspIris.Device.Replay
import EspIris.Gateway.Sends

/-! What the order of the frames is for: on a link that keeps it the device's replay checks drop
none of them. -/

namespace EspIris.Gateway
open Codec Serial Machine
open Codec.Host (encodeFrame)
open Device (isHelloAck staleSequence noteSequence staleRequest)

def isRpc (sent : Sent) : Bool := asksRpc sent.frame.channel sent.frame.type

def isAcknowledgement (sent : Sent) : Bool :=
  sent.frame.channel = Channel.control.toNat && sent.frame.type = ControlType.helloAck.toNat

def ofSession (sessionId : Int) (wire : List Sent) : List Sent := wire.filter fun sent => sent.frame.sessionId = sessionId

def ofChannel (channel : Int) (sents : List Sent) : List Sent := sents.filter fun sent => sent.frame.channel = channel

def checkedNumbers (channel : Int) (sents : List Sent) : List Nat :=
  (ofChannel channel (sents.filter fun sent => !isAcknowledgement sent)).map Sent.number

def Arrives (sent : Sent) (frame : DecodedFrame) : Prop :=
  ∃ body, encodeFrame sent.frame = .ok (body ++ [0]) ∧
    (Codec.Device.irisFrameDecodeInPlace body body.length).2 = .ok frame

/-- Frames that pass the check of `handle_frame` one after the other. -/
def PassSequence (runtime : Device.Runtime) : List DecodedFrame → Prop
  | [] => True
  | frame :: rest =>
    if isHelloAck frame.header then PassSequence runtime rest
    else staleSequence runtime frame.header = false ∧ PassSequence (noteSequence runtime frame.header) rest

/-- RPCs that pass the check of `handle_rpc` one after the other. -/
def PassRequests (record : Device.ServiceState) : List DecodedFrame → Prop
  | [] => True
  | frame :: rest =>
    frame.header.requestId ≠ 0 ∧ staleRequest record frame.header.requestId = false ∧
      PassRequests { record with lastRpcRequestId := frame.header.requestId, rpcRequestSeen := true } rest

structure Notes (runtime : Device.Runtime) (last : UInt8 → Option Nat) : Prop where
  seen : ∀ channel, runtime.rxSequenceSeen channel = (last channel).isSome
  number : ∀ channel number, last channel = some number → runtime.rxSequence channel = UInt32.ofNat number

theorem Arrives.frame {sent : Sent} {frame : DecodedFrame} (arrives : Arrives sent frame) :
    hostFrame frame.header frame.payload = sent.frame := by
  obtain ⟨body, encodes, decodes⟩ := arrives
  exact device_decodes_encoded encodes decodes

theorem Arrives.channel {sent : Sent} {frame : DecodedFrame} (arrives : Arrives sent frame) :
    sent.frame.channel = (frame.header.channel.toNat : Int) := by rw [← arrives.frame]; rfl

theorem Arrives.acknowledgement {sent : Sent} {frame : DecodedFrame} (arrives : Arrives sent frame) :
    isAcknowledgement sent = isHelloAck frame.header := by
  rw [isAcknowledgement, ← arrives.frame, isHelloAck]
  simp only [hostFrame, Nat.cast_inj, UInt8.toNat_inj]

theorem Arrives.sequence {sent : Sent} {frame : DecodedFrame} (arrives : Arrives sent frame)
    (numbered : sent.frame.sequence = (sent.number % 2 ^ 32 : Nat)) :
    frame.header.sequence = UInt32.ofNat sent.number := by
  rw [← arrives.frame] at numbered
  rw [← UInt32.toNat_inj, UInt32.toNat_ofNat']
  exact Int.ofNat_inj.mp numbered

theorem Arrives.requestId {sent : Sent} {frame : DecodedFrame} (arrives : Arrives sent frame)
    (drawn : sent.frame.requestId = (sent.drawn % 2 ^ 32 : Nat)) : frame.header.requestId = UInt32.ofNat sent.drawn := by
  rw [← arrives.frame] at drawn
  rw [← UInt32.toNat_inj, UInt32.toNat_ofNat']
  exact Int.ofNat_inj.mp drawn

theorem pass_sequence {runtime : Device.Runtime} (last : UInt8 → Option Nat) {sents : List Sent}
    {frames : List DecodedFrame} (arrives : List.Forall₂ Arrives sents frames)
    (numbered : ∀ sent ∈ sents, sent.frame.sequence = (sent.number % 2 ^ 32 : Nat)) (notes : Notes runtime last)
    (steps : ∀ channel : UInt8, Steps ((last channel).toList ++ checkedNumbers channel.toNat sents)) :
    PassSequence runtime frames := by
  induction arrives generalizing runtime last with
  | nil => trivial
  | @cons sent frame sents frames arrives rest ih =>
    have numbers := fun other inside => numbered other (List.mem_cons_of_mem _ inside)
    have isNumber := arrives.sequence (numbered sent List.mem_cons_self)
    unfold PassSequence
    split
    next isAck =>
      refine ih last numbers notes ?_
      intro channel
      have skipped := steps channel
      rw [checkedNumbers, List.filter_cons_of_neg] at skipped
      · exact skipped
      · rw [arrives.acknowledgement, isAck]
        exact Bool.false_ne_true
    next checked =>
      have kept (channel : UInt8) : checkedNumbers channel.toNat (sent :: sents) =
          if frame.header.channel = channel then sent.number :: checkedNumbers channel.toNat sents
          else checkedNumbers channel.toNat sents := by
        have counts : (!isAcknowledgement sent) = true := by
          rw [arrives.acknowledgement, Bool.not_eq_true']
          exact Bool.eq_false_iff.mpr checked
        rw [checkedNumbers, List.filter_cons_of_pos (p := fun sent => !isAcknowledgement sent) counts, ofChannel]
        split
        next here =>
          rw [List.filter_cons_of_pos (by simp [arrives.channel, here])]
          rfl
        next elsewhere =>
          rw [List.filter_cons_of_neg (by simpa [arrives.channel, UInt8.toNat_inj] using elsewhere)]
          rfl
      constructor
      · rw [staleSequence, notes.seen]
        cases isLast : last frame.header.channel with
        | none => rfl
        | some before =>
          have step := steps frame.header.channel
          rw [kept, if_pos rfl, isLast] at step
          rw [Option.isSome_some, Bool.true_and, notes.number _ _ isLast, isNumber]
          exact Steps.not_stale step
      · refine ih (fun channel => if channel = frame.header.channel then some sent.number else last channel) numbers
          ⟨?_, ?_⟩ ?_
        · intro channel
          dsimp only [noteSequence]
          split
          next here => rw [here, decide_eq_true rfl]; rfl
          next elsewhere => rw [decide_eq_false elsewhere, Bool.false_or, notes.seen]
        · intro channel number isLast
          dsimp only [noteSequence] at isLast ⊢
          split at isLast
          next here =>
            cases isLast
            rw [if_pos here, isNumber]
          next elsewhere =>
            rw [if_neg elsewhere]
            exact notes.number channel number isLast
        · intro channel
          have step := steps channel
          rw [kept] at step
          by_cases here : channel = frame.header.channel
          · rw [if_pos here.symm] at step
            rw [if_pos here]
            exact Steps.of_append step
          · rw [if_neg (Ne.symm here)] at step
            rw [if_neg here]
            exact step

theorem pass_requests {record : Device.ServiceState} (last : Option Nat) {sents : List Sent} {frames : List DecodedFrame}
    (arrives : List.Forall₂ Arrives sents frames)
    (drawn : ∀ sent ∈ sents, sent.frame.requestId = (sent.drawn % 2 ^ 32 : Nat) ∧ sent.drawn % 2 ^ 32 ≠ 0)
    (seen : record.rpcRequestSeen = last.isSome)
    (number : ∀ number, last = some number → record.lastRpcRequestId = UInt32.ofNat number)
    (steps : Steps (last.toList ++ sents.map Sent.drawn)) : PassRequests record frames := by
  induction arrives generalizing record last with
  | nil => trivial
  | @cons sent frame sents frames arrives rest ih =>
    obtain ⟨isSent, nonzero⟩ := drawn sent List.mem_cons_self
    have isId := arrives.requestId isSent
    refine ⟨?_, ?_, ?_⟩
    · intro zero
      rw [isId, ← UInt32.toNat_inj, UInt32.toNat_ofNat'] at zero
      exact nonzero zero
    · rw [staleRequest, seen]
      cases isLast : last with
      | none => rfl
      | some before =>
        rw [isLast] at steps
        rw [Option.isSome_some, Bool.true_and, number before isLast, isId]
        exact Steps.not_stale steps
    · refine ih (some sent.drawn) (fun other inside => drawn other (List.mem_cons_of_mem _ inside)) rfl ?_ ?_
      · intro number isLast
        cases isLast
        exact isId
      · exact Steps.of_append steps

structure SendsOrdered (wire : List Sent) : Prop where
  numbers : ∀ sessionId channel, ((ofChannel channel (ofSession sessionId wire)).map Sent.number).Pairwise (· < ·)
  sequences : ∀ sent ∈ wire, sent.frame.sequence = (sent.number % 2 ^ 32 : Nat)
  requests : ((wire.filter isRpc).map Sent.drawn).Pairwise (· < ·)
  requestIds : ∀ sent ∈ wire, isRpc sent = true →
    sent.frame.requestId = (sent.drawn % 2 ^ 32 : Nat) ∧ sent.drawn % 2 ^ 32 ≠ 0
  /-- No frame of a session is dropped by the sequence check. -/
  accepted : ∀ sessionId frames, List.Forall₂ Arrives (ofSession sessionId wire) frames →
    (∀ channel, Near (checkedNumbers channel (ofSession sessionId wire))) →
    ∀ runtime, (runtime.rxSequenceSeen = fun _ => false) → PassSequence runtime frames
  /-- Whichever RPCs of a session reach the check of their ids, none is refused by it. -/
  executed : ∀ reached frames, reached.Sublist (wire.filter isRpc) → List.Forall₂ Arrives reached frames →
    Near (reached.map Sent.drawn) → ∀ record, record.rpcRequestSeen = false → PassRequests record frames

theorem pairwise_numbers {wire : List Sent} (ordered : wire.Pairwise fun earlier later =>
    earlier.frame.sessionId = later.frame.sessionId → earlier.frame.channel = later.frame.channel →
      earlier.number < later.number) (sessionId channel : Int) :
    ((ofChannel channel (ofSession sessionId wire)).map Sent.number).Pairwise (· < ·) := by
  refine List.pairwise_map.mpr (List.pairwise_filter.mpr (List.pairwise_filter.mpr (ordered.imp ?_)))
  intro earlier later increases isSession isSession' isChannel isChannel'
  refine increases ?_ ?_
  · rw [of_decide_eq_true isSession, of_decide_eq_true isSession']
  · rw [of_decide_eq_true isChannel, of_decide_eq_true isChannel']

theorem SendsOrdered.of_invariants {state : HostState} (numbered : Numbered state) (drawn : Drawn state) :
    SendsOrdered state.wire where
  numbers := pairwise_numbers numbered.ordered
  sequences := numbered.sequences
  requests := List.pairwise_map.mpr (List.pairwise_filter.mpr drawn.ordered)
  requestIds := drawn.requestIds
  accepted := by
    intro sessionId frames arrives near runtime fresh
    refine pass_sequence (fun _ => none) arrives ?_ ⟨?_, ?_⟩ ?_
    · intro sent inside
      exact numbered.sequences sent (List.mem_of_mem_filter inside)
    · intro channel
      rw [fresh]
      rfl
    · intro channel number isLast
      cases isLast
    · intro channel
      refine (near channel.toNat).steps ?_
      have all := pairwise_numbers numbered.ordered sessionId channel.toNat
      refine all.sublist (List.Sublist.map _ ?_)
      exact List.filter_sublist.filter _
  executed := by
    intro reached frames part arrives near record unseen
    refine pass_requests none arrives ?_ unseen ?_ ?_
    · intro sent inside
      obtain ⟨onWire, isRpc⟩ := List.mem_filter.mp (part.subset inside)
      exact drawn.requestIds sent onWire isRpc
    · intro number isLast
      cases isLast
    · refine near.steps ?_
      have all := List.pairwise_map.mpr (List.pairwise_filter.mpr drawn.ordered)
      exact all.sublist (part.map _)

theorem sends_ordered (hmac : List UInt8 → List UInt8 → List UInt8) {state : HostState}
    (reached : Reachable ((host hmac).guarded SteadyCapability) state) : SendsOrdered state.wire := by
  obtain ⟨⟨_, numbered⟩, drawn⟩ := (drawn_invariant hmac).reachable reached
  exact .of_invariants numbered drawn

def readerSends : List HostEvent := [.perform none, .turn .reader, .written .reader]

def rpcRequest : Request := ⟨Channel.control.toNat, ControlType.request.toNat, [1, 0, 1, 0, 0, 0, 0, 0, 0, 0, 0, 0], 0⟩

def reopenedSession : List HostEvent :=
  [.frame (plainHello 7 (2 ^ 17) 1) []] ++ readerSends ++ [.perform none, .frame (plainHello 8 (2 ^ 17) 1) []] ++
    readerSends ++ readerSends ++ List.replicate 4 (.perform none) ++
    [.request rpcRequest, .lock 0, .begin 0, .request rpcRequest, .cancel 0, .lock 1, .begin 1, .turn (.task 1)]

def sendsReopened (state : HostState) : Bool :=
  state.wire.map (fun sent => (sent.frame.sessionId, sent.number, sent.drawn)) =
    [(7, 1, 0), (8, 1, 0), (8, 2, 0), (8, 3, 2)]

theorem sends_ordered_reopened :
    ∃ state, Reachable ((host fun _ _ => []).guarded SteadyCapability) state ∧
      state.wire.map (fun sent => (sent.frame.sessionId, sent.number, sent.drawn)) =
        [(7, 1, 0), (8, 1, 0), (8, 2, 0), (8, 3, 2)] ∧ SendsOrdered state.wire := by
  obtain ⟨state, run, sent⟩ : ∃ state, Run ((host fun _ _ => []).guarded SteadyCapability) (.initial "usb" none)
      reopenedSession state ∧ sendsReopened state = true := Run.of_guarded_check (by decide +kernel)
  have reached : Reachable ((host fun _ _ => []).guarded SteadyCapability) state :=
    ⟨_, reopenedSession, ⟨"usb", none, rfl⟩, run⟩
  exact ⟨state, reached, of_decide_eq_true sent, sends_ordered (fun _ _ => []) reached⟩

end EspIris.Gateway
