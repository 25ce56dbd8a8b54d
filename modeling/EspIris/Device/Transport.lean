import EspIris.Protocol

/-! The three byte transports and the manager that lets one of them own the session,
`esp_iris_transport.c` and its drivers. -/

namespace EspIris.Device

/-- `esp_iris_transport_kind_t` without `NONE`. -/
inductive TransportKind
  | usb
  | tcp
  | usbSerialJtag
  deriving DecidableEq, Repr

/-- `iris_link_event_t`. -/
inductive LinkEvent
  | none
  | connected
  | disconnected
  deriving DecidableEq, Repr

/-- `iris_transport_state_t`. Descriptors are reused, so the client is the number of the
accepted connection behind `client_fd`. -/
structure TransportState where
  listening : Bool
  client : Option Nat
  linkUp : Bool
  reportedLinkUp : Bool
  driverStarted : Bool
  hostOpen : Bool
  disconnectPending : Bool
  deriving DecidableEq, Repr

def TransportState.stopped : TransportState where
  listening := false
  client := none
  linkUp := false
  reportedLinkUp := false
  driverStarted := false
  hostOpen := false
  disconnectPending := false

structure LinkInput where
  now : Int
  starts : TransportKind → Bool
  stops : Bool
  listens : Bool
  accepts : Bool
  mounted : Bool
  jtagConnected : Bool

inductive LinkRead
  | bytes (data : List UInt8)
  | nothing
  | closed
  | failed

inductive LinkWrite
  | accepted (count : Nat)
  | nothing
  | failed

def closeClient (state : TransportState) : TransportState := { state with client := none, linkUp := false }

def openListener (state : TransportState) (listens : Bool) : TransportState :=
  if state.listening then state else { state with listening := listens }

def tcpStart (state : TransportState) (input : LinkInput) : TransportState :=
  if state.driverStarted then state
  else
    let fresh := { state with
      listening := false
      client := none
      driverStarted := true
      linkUp := false
      reportedLinkUp := false }
    if input.starts .tcp then openListener fresh input.listens else { fresh with driverStarted := false }

def tcpStop (state : TransportState) : TransportState :=
  { closeClient state with listening := false, driverStarted := false, reportedLinkUp := false }

def reportEdge (state : TransportState) : TransportState × LinkEvent :=
  if state.linkUp = state.reportedLinkUp then (state, .none)
  else ({ state with reportedLinkUp := state.linkUp }, if state.linkUp then .connected else .disconnected)

/-- A connection that `accept` returns while another client is served is closed at once. -/
def tcpAccept (state : TransportState) (input : LinkInput) (connection : Nat) : TransportState :=
  if state.listening ∧ input.accepts ∧ state.client = none then { state with client := some connection, linkUp := true }
  else state

def tcpTransportPoll (state : TransportState) (input : LinkInput) (connection : Nat) : TransportState × LinkEvent :=
  reportEdge (tcpAccept (openListener state input.listens) input connection)

def rxPendingCapacity : Nat := 256

def tcpRead (state : TransportState) (read : LinkRead) : TransportState × List UInt8 :=
  if state.client = none then (state, [])
  else
    match read with
    | .bytes data => (state, data.take rxPendingCapacity)
    | .nothing => (state, [])
    | .closed => (closeClient state, [])
    | .failed => (closeClient state, [])

def tcpTransportWrite (state : TransportState) (write : LinkWrite) (length : Nat) : TransportState × Nat :=
  if state.client = none then (state, 0)
  else
    match write with
    | .accepted count => (state, min count length)
    | .nothing => (state, 0)
    | .failed => (closeClient state, 0)

def usbStart (state : TransportState) (input : LinkInput) : TransportState :=
  if state.driverStarted ∨ input.starts .usb = false then state
  else
    { state with
      hostOpen := false
      disconnectPending := false
      driverStarted := true
      linkUp := false
      reportedLinkUp := false }

def usbStop (state : TransportState) : TransportState :=
  if state.driverStarted then
    { state with
      driverStarted := false
      hostOpen := false
      disconnectPending := false
      linkUp := false
      reportedLinkUp := false }
  else state

/-- `cdc_line_state_callback`; a detached cable counts as a closed line. -/
def lineState (state : TransportState) (hostOpen : Bool) : TransportState :=
  if state.driverStarted then
    { state with hostOpen := hostOpen, disconnectPending := state.disconnectPending || !hostOpen }
  else state

def usbPoll (state : TransportState) (input : LinkInput) : TransportState × LinkEvent :=
  if state.disconnectPending ∧ state.reportedLinkUp then
    ({ state with disconnectPending := false, linkUp := false, reportedLinkUp := false }, .disconnected)
  else
    reportEdge { state with
      disconnectPending := false
      linkUp := state.driverStarted && state.hostOpen && input.mounted }

def usbSerialJtagStart (state : TransportState) (input : LinkInput) : TransportState :=
  if state.driverStarted ∨ input.starts .usbSerialJtag = false then state
  else { state with driverStarted := true, linkUp := false, reportedLinkUp := false }

def usbSerialJtagStop (state : TransportState) (input : LinkInput) : TransportState :=
  if state.driverStarted then
    { state with driverStarted := !input.stops, linkUp := false, reportedLinkUp := false }
  else state

def usbSerialJtagPoll (state : TransportState) (input : LinkInput) : TransportState × LinkEvent :=
  reportEdge { state with linkUp := state.driverStarted && input.jtagConnected }

/-- `usb_read` and `usb_serial_jtag_read`. -/
def cdcRead (state : TransportState) (read : LinkRead) : TransportState × List UInt8 :=
  match read with
  | .bytes data => (state, if state.linkUp then data.take rxPendingCapacity else [])
  | _ => (state, [])

/-- `usb_write` and `usb_serial_jtag_write`, which offers at most `limit` bytes at a time. -/
def cdcWrite (state : TransportState) (write : LinkWrite) (limit : Nat) : TransportState × Nat :=
  match write with
  | .accepted count => (state, if state.linkUp then min count limit else 0)
  | _ => (state, 0)

def usbSerialJtagWriteChunk : Nat := 256

/-- `iris_transport_manager_t` with the states it points to; `accepted` is a ghost that numbers
what `accept` returns. -/
structure TransportManager where
  usb : TransportState
  tcp : TransportState
  usbSerialJtag : TransportState
  active : Option TransportKind
  claimDeadlineUs : Int
  retryAfterUs : TransportKind → Int
  scanStart : Nat
  committed : Bool
  accepted : Nat

def TransportManager.initial : TransportManager where
  usb := .stopped
  tcp := .stopped
  usbSerialJtag := .stopped
  active := none
  claimDeadlineUs := 0
  retryAfterUs := fun _ => 0
  scanStart := 0
  committed := false
  accepted := 0

def TransportManager.stateFor (manager : TransportManager) : TransportKind → TransportState
  | .usb => manager.usb
  | .tcp => manager.tcp
  | .usbSerialJtag => manager.usbSerialJtag

/-- `ops->start`. -/
def TransportManager.startKind (manager : TransportManager) (kind : TransportKind) (input : LinkInput) :
    TransportManager :=
  match kind with
  | .usb => { manager with usb := usbStart manager.usb input }
  | .tcp => { manager with tcp := tcpStart manager.tcp input }
  | .usbSerialJtag => { manager with usbSerialJtag := usbSerialJtagStart manager.usbSerialJtag input }

/-- `ops->stop`. -/
def TransportManager.stopKind (manager : TransportManager) (kind : TransportKind) (input : LinkInput) :
    TransportManager :=
  match kind with
  | .usb => { manager with usb := usbStop manager.usb }
  | .tcp => { manager with tcp := tcpStop manager.tcp }
  | .usbSerialJtag => { manager with usbSerialJtag := usbSerialJtagStop manager.usbSerialJtag input }

/-- `ops->poll`. -/
def TransportManager.pollKind (manager : TransportManager) (kind : TransportKind) (input : LinkInput) :
    TransportManager × LinkEvent :=
  match kind with
  | .usb => ({ manager with usb := (usbPoll manager.usb input).1 }, (usbPoll manager.usb input).2)
  | .tcp =>
    let polled := tcpTransportPoll manager.tcp input manager.accepted
    ({ manager with tcp := polled.1, accepted := manager.accepted + 1 }, polled.2)
  | .usbSerialJtag =>
    let polled := usbSerialJtagPoll manager.usbSerialJtag input
    ({ manager with usbSerialJtag := polled.1 }, polled.2)

/-- The parts of the build configuration that the protocol task reads. `pairing` is the token of
a build with `CONFIG_ESP_IRIS_TCP_PAIRING`, and `hmac` its keyed hash. -/
structure Config where
  transports : List TransportKind
  claimTimeoutUs : Int
  otaEnabled : Bool
  pairing : Option (List UInt8)
  hmac : List UInt8 → List UInt8 → List UInt8

section manager
variable (config : Config)

def clearActive (manager : TransportManager) : TransportManager :=
  { manager with active := none, claimDeadlineUs := 0, committed := false }

def stopLosers (manager : TransportManager) (input : LinkInput) : TransportManager :=
  config.transports.foldl (fun manager kind =>
    if manager.active = some kind then manager
    else if (manager.stateFor kind).driverStarted then manager.stopKind kind input
    else manager) manager

def startMissing (manager : TransportManager) (input : LinkInput) : TransportManager :=
  config.transports.foldl (fun manager kind =>
    if (manager.stateFor kind).driverStarted then manager else manager.startKind kind input) manager

/-- The scan of `iris_transport_poll` over the indices still to visit. -/
def scanTransports (input : LinkInput) : List Nat → TransportManager → TransportManager × LinkEvent
  | [], manager => (manager, .none)
  | index :: later, manager =>
    match config.transports[index]? with
    | none => scanTransports input later manager
    | some kind =>
      if manager.retryAfterUs kind > input.now then scanTransports input later manager
      else if (manager.stateFor kind).driverStarted = false then scanTransports input later manager
      else
        let polled := manager.pollKind kind input
        if polled.2 ≠ .connected then scanTransports input later polled.1
        else
          ({ polled.1 with
            active := some kind
            scanStart := (index + 1) % config.transports.length
            committed := false
            claimDeadlineUs := input.now + config.claimTimeoutUs }, .connected)

def irisTransportPoll (manager : TransportManager) (input : LinkInput) : TransportManager × LinkEvent :=
  match manager.active with
  | some kind =>
    let polled := manager.pollKind kind input
    if polled.2 = .disconnected then (startMissing config (clearActive polled.1) input, .disconnected)
    else if manager.committed = false ∧ input.now ≥ manager.claimDeadlineUs then
      let stopped := polled.1.stopKind kind input
      let rejected :=
        if kind = .usbSerialJtag then
          { stopped with
            retryAfterUs := fun other =>
              if other = kind then input.now + config.claimTimeoutUs else stopped.retryAfterUs other }
        else stopped
      (startMissing config (clearActive rejected) input, .disconnected)
    else (polled.1, .none)
  | none =>
    let started := startMissing config manager input
    let count := config.transports.length
    scanTransports config input ((List.range count).map fun offset => (started.scanStart + offset) % count) started

def irisTransportRead (manager : TransportManager) (read : LinkRead) : TransportManager × List UInt8 :=
  match manager.active with
  | none => (manager, [])
  | some .tcp => ({ manager with tcp := (tcpRead manager.tcp read).1 }, (tcpRead manager.tcp read).2)
  | some kind => (manager, (cdcRead (manager.stateFor kind) read).2)

def irisTransportWrite (manager : TransportManager) (write : LinkWrite) (length : Nat) : TransportManager × Nat :=
  match manager.active with
  | none => (manager, 0)
  | some .usb => (manager, (cdcWrite manager.usb write length).2)
  | some .tcp =>
    let written := tcpTransportWrite manager.tcp write length
    ({ manager with tcp := written.1 }, written.2)
  | some .usbSerialJtag =>
    (manager, (cdcWrite manager.usbSerialJtag write (min length usbSerialJtagWriteChunk)).2)

def irisTransportKind (manager : TransportManager) : Option TransportKind :=
  match manager.active with
  | some kind => some kind
  | none => if config.transports.length = 1 then config.transports.head? else none

def irisTransportRenewClaim (manager : TransportManager) (now : Int) : TransportManager :=
  if manager.active = none then manager
  else { manager with committed := false, claimDeadlineUs := now + config.claimTimeoutUs }

def irisTransportCommit (manager : TransportManager) (input : LinkInput) : TransportManager :=
  if manager.active = none ∨ manager.committed then manager
  else stopLosers config { manager with committed := true, claimDeadlineUs := 0 } input

def irisTransportDisconnect (manager : TransportManager) : TransportManager :=
  if manager.active = some .tcp then { manager with tcp := closeClient manager.tcp } else manager

end manager

end EspIris.Device
