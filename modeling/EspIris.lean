import EspIris.Lib.Machine
import EspIris.Codec.Agreement
import EspIris.Gateway.Acceptance
import EspIris.Device.Runtime
import EspIris.Device.Executor
import EspIris.Device.ExecutorSafety
import EspIris.Device.ExecutorRuns
import EspIris.Device.Session
import EspIris.Device.ProtocolTask
import EspIris.Device.Receive
import EspIris.Device.Undisturbed
import EspIris.Device.ReceiveIntegrity
import EspIris.Device.Link
import EspIris.Device.SessionSteps
import EspIris.Device.SessionFlags
import EspIris.Device.Binding
import EspIris.Device.Challenge
import EspIris.Device.Ownership
import EspIris.Device.Gate
import EspIris.Codec.FrameDecoder
import EspIris.Device.Segments
import EspIris.Device.Sends
import EspIris.Device.PumpInput
import EspIris.Device.PumpOutput
import EspIris.Device.Pump
import EspIris.Device.Services
import EspIris.Gateway.Session
import EspIris.Lib.Serial
import EspIris.Device.Replay
import EspIris.Gateway.Requests
import EspIris.Gateway.SessionSteps
import EspIris.Gateway.RequestSteps
import EspIris.Gateway.Sends
import EspIris.Gateway.SendOrder
import EspIris.Gateway.LateResponses
import EspIris.Gateway.Delivery
import EspIris.Gateway.Supervisor
import EspIris.Gateway.Survival
import EspIris.Gateway.Acknowledgements
import EspIris.Link.Handshake
import EspIris.Link.DeviceSide
import EspIris.Link.Reopen
import EspIris.Device.Deaf
import EspIris.Device.CrashLedger
import EspIris.Device.CrashDiversion
import EspIris.Gateway.Operations
import EspIris.Gateway.OperationSteps
import EspIris.Gateway.OperationQueue
import EspIris.Gateway.OperationsEnd
import EspIris.Gateway.SerialFraming
import EspIris.Device.JobIsolation
import EspIris.Device.FilePaths
import EspIris.Device.Files
import EspIris.Device.JobEvents
import EspIris.Device.FileHolding
import EspIris.Gateway.AcceptanceReconciled
import EspIris.Gateway.EventSocket
import EspIris.Gateway.Leases
import EspIris.Gateway.MaintenanceAcquire
import EspIris.Gateway.MaintenanceGate
import EspIris.Gateway.ObserveMode
import EspIris.Gateway.Restart
import EspIris.Gateway.Upload
import EspIris.Link.Upload
import EspIris.Link.UploadAnswers
import EspIris.Link.UploadRuns
import EspIris.Device.LogRing
import EspIris.Device.LogRuns
import EspIris.Device.ScreenBalance
import EspIris.Device.HandleRuns
import EspIris.Device.MediaPush
import EspIris.Link.ScreenMirror
import EspIris.Link.DownloadRuns
import EspIris.Device.OtaCommit
import EspIris.Gateway.Migrations
import EspIris.Gateway.FirmwareRetries
import EspIris.Gateway.MdnsConsistency
import EspIris.Gateway.RegistryRuns
import EspIris.Device.SessionEvents
import EspIris.Device.SessionEventRuns
import EspIris.Device.SessionEventDelivery
import EspIris.Device.TransportOwner
import EspIris.Device.TransportRuns
import EspIris.Device.Utf8
import EspIris.Device.Pairing
import EspIris.Gateway.Compatibility
import EspIris.Gateway.Fingerprint
import EspIris.Gateway.RawImage
import EspIris.Link.Tlv
import EspIris.Link.CoreDump
import EspIris.Link.Listing
import EspIris.Gateway.BundleRoundTrip
import EspIris.Device.OtaRuns
import EspIris.Gateway.OtaUpdate
import EspIris.Link.OtaUpdate
