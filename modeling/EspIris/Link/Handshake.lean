import EspIris.Device.Pump
import EspIris.Gateway.Acknowledgements

/-! A device and a session of the gateway on one link that stays up and carries whole frames in
order. Both parties are their full models; the two queues are the frames that are on their way. -/

namespace EspIris.Link
open Codec (hostFrame)
open Codec.Host (Frame decodeFrame)
open Device (DeviceState DeviceEvent Choices Config Serves deviceNext)
open Gateway (HostState HostEvent hostNext)
open Machine

/-- The ghosts are the session ids that the device drew for a NEW_SESSION, and whether it refused
the proof in an acknowledgement. -/
structure Handshake where
  device : DeviceState
  host : HostState
  upstream : List Frame
  downstream : List Frame
  renewed : List UInt32
  refused : Bool

/-- The device drops `lost` frames with a NEW_SESSION: those that it had read behind it. -/
inductive HandshakeEvent
  | device (event : DeviceEvent) (lost : Nat)
  | host (event : HostEvent)

def completes (device : DeviceState) : DeviceEvent → Option DecodedFrame
  | .task _ =>
    match device.mailbox.call, device.phase with
    | .idle, .feeding feed =>
      match feed.data with
      | value :: _ => (Device.receiveByte device.runtime value).2.bind Except.toOption
      | [] => none
    | _, _ => none
  | _ => none

def reopens (device : DeviceState) : DeviceEvent → Bool
  | .task _ =>
    match device.mailbox.call, device.phase with
    | .idle, .reopening _ => true
    | _, _ => false
  | _ => false

def flushes (before after : DeviceState) : List Frame :=
  if before.runtime.txWire ≠ [] ∧ after.runtime.txWire = [] then
    (decodeFrame before.runtime.txWire.dropLast).toOption.toList
  else []

def advertises (frame : Frame) : Bool :=
  !Gateway.isHello frame ||
    match Gateway.decodeTlv frame.payload with
    | .ok fields => (Gateway.tlvU64 fields Gateway.TlvTag.capabilities 0).testBit Gateway.Capability.sessionReopen
    | .error _ => true

section handshake
variable (config : Config)

def accepts (device : DeviceState) (frame : DecodedFrame) (choices : Choices) : Bool :=
  Device.irisServicesAuthenticate config (Device.irisTransportKind config device.transport) device.runtime
    device.challenge frame.payload choices.psaSucceeds = EspErr.ok

def refuses (device : DeviceState) (frame : DecodedFrame) : DeviceEvent → Bool
  | .task choices =>
    Device.isHelloAck frame.header && frame.header.sessionId = device.runtime.sessionId &&
      !accepts config device frame choices
  | _ => false

def Handshake.deviceStep (state : Handshake) (event : DeviceEvent) (lost : Nat) : Option Handshake :=
  match deviceNext config state.device event with
  | none => none
  | some after =>
    let moved := { state with device := after, upstream := state.upstream ++ flushes state.device after }
    if after.phase = .ending ∨ (flushes state.device after).all advertises = false ∨ ¬ Serves event then none
    else if reopens state.device event then
      some { moved with
        downstream := state.downstream.drop lost
        renewed := state.renewed ++ [after.runtime.sessionId] }
    else
      match completes state.device event, state.downstream with
      | none, _ => some moved
      | some frame, first :: rest =>
        if hostFrame frame.header frame.payload = first then
          some { moved with
            downstream := rest
            refused := state.refused || refuses config state.device frame event }
        else none
      | some _, [] => none

def Handshake.hostStep (state : Handshake) (event : HostEvent) : Option Handshake :=
  match hostNext config.hmac state.host event with
  | none => none
  | some after =>
    let moved := { state with
      host := after
      downstream := state.downstream ++ (after.wire.drop state.host.wire.length).map Gateway.Sent.frame }
    match event, state.upstream with
    | .frame frame _, first :: rest => if frame = first then some { moved with upstream := rest } else none
    | .frame _ _, [] => none
    | _, _ => some moved

def handshakeNext (state : Handshake) : HandshakeEvent → Option Handshake
  | .device event lost => state.deviceStep config event lost
  | .host event => state.hostStep config event

/-- The host finds a device on a link with nothing on its way; the device may have had sessions
before, and its last one may be that of an earlier host. -/
structure Meets (state : Handshake) : Prop where
  device : Reachable ((Device.device config).guarded fun _ => Serves) state.device
  up : state.device.runtime.linkConnected = true
  between : state.device.phase.between = true ∧ state.device.phase ≠ .ending
  free : state.device.runtime.txWire = []
  host : ∃ endpoint pairingToken, state.host = .initial endpoint pairingToken
  quiet : state.upstream = [] ∧ state.downstream = []
  fresh : state.renewed = [] ∧ state.refused = false

def handshake : System Handshake HandshakeEvent := .ofPartial (Meets config) (handshakeNext config)

end handshake

end EspIris.Link
