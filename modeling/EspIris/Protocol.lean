import Mathlib.Tactic.Common

/-! The constants of the wire protocol that the modelled functions read, from
`esp_iris_protocol.h`, and the header both sides put in front of a payload. -/

namespace EspIris

/-- `esp_err_t`, as the 32-bit code that error frames carry. -/
abbrev EspErr := UInt32

namespace EspErr
def ok : EspErr := 0
def fail : EspErr := 0xffffffff
def noMem : EspErr := 0x101
def invalidArg : EspErr := 0x102
def invalidState : EspErr := 0x103
def invalidSize : EspErr := 0x104
def notFound : EspErr := 0x105
def notSupported : EspErr := 0x106
def timeout : EspErr := 0x107
def invalidResponse : EspErr := 0x108
def invalidCrc : EspErr := 0x109
def invalidVersion : EspErr := 0x10a
end EspErr

def protocolVersion : UInt8 := 1
def wireHeaderSize : Nat := 32
def maxPayloadSize : Nat := 4000
def maxWireFrameSize : Nat := 4096

namespace Channel
def control : UInt8 := 0
def log : UInt8 := 1
def event : UInt8 := 2
def screen : UInt8 := 3
def image : UInt8 := 4
def audio : UInt8 := 5
def ota : UInt8 := 6
def crash : UInt8 := 7
def file : UInt8 := 8
def systemUpdate : UInt8 := 9
def count : UInt8 := 10
end Channel

namespace ControlType
def hello : UInt8 := 0x01
def helloAck : UInt8 := 0x02
def ping : UInt8 := 0x03
def pong : UInt8 := 0x04
def timeSyncRequest : UInt8 := 0x05
def timeSyncResponse : UInt8 := 0x06
def statusRequest : UInt8 := 0x07
def statusResponse : UInt8 := 0x08
def credit : UInt8 := 0x09
def request : UInt8 := 0x10
def response : UInt8 := 0x11
def cancel : UInt8 := 0x12
def jobQuery : UInt8 := 0x13
def jobStatus : UInt8 := 0x14
def restart : UInt8 := 0x15
def authResult : UInt8 := 0x16
def error : UInt8 := 0x7f
end ControlType

namespace Flag
def response : UInt16 := 1
def error : UInt16 := 2
def reliable : UInt16 := 4
def streamBegin : UInt16 := 8
def streamEnd : UInt16 := 16
def newSession : UInt16 := 32
end Flag

namespace CrashType
def metadataRequest : UInt8 := 0x01
def metadataResponse : UInt8 := 0x02
def readRequest : UInt8 := 0x03
def readResponse : UInt8 := 0x04
end CrashType

namespace MediaType
def opening : UInt8 := 0x01
def opened : UInt8 := 0x02
def read : UInt8 := 0x03
def data : UInt8 := 0x04
def close : UInt8 := 0x05
def mirrorStart : UInt8 := 0x06
def mirrorStop : UInt8 := 0x07
def mirrorState : UInt8 := 0x08
end MediaType

namespace OtaType
def begin : UInt8 := 0x01
def beginResponse : UInt8 := 0x02
def data : UInt8 := 0x03
def dataResponse : UInt8 := 0x04
def finish : UInt8 := 0x05
def finishResponse : UInt8 := 0x06
def cancel : UInt8 := 0x07
def status : UInt8 := 0x08
end OtaType

namespace SystemUpdateType
def begin : UInt8 := 0x01
def beginResponse : UInt8 := 0x02
def componentBegin : UInt8 := 0x03
def componentBeginResponse : UInt8 := 0x04
def data : UInt8 := 0x05
def dataResponse : UInt8 := 0x06
def componentEnd : UInt8 := 0x07
def componentEndResponse : UInt8 := 0x08
def commit : UInt8 := 0x09
def commitResponse : UInt8 := 0x0a
def cancel : UInt8 := 0x0b
def status : UInt8 := 0x0c
def statusResponse : UInt8 := 0x0d
end SystemUpdateType

namespace FileType
def volumesRequest : UInt8 := 0x01
def volumesResponse : UInt8 := 0x02
def statRequest : UInt8 := 0x03
def statResponse : UInt8 := 0x04
def listOpen : UInt8 := 0x05
def listOpened : UInt8 := 0x06
def listNext : UInt8 := 0x07
def listData : UInt8 := 0x08
def close : UInt8 := 0x09
def closeResponse : UInt8 := 0x0a
def readOpen : UInt8 := 0x0b
def readOpened : UInt8 := 0x0c
def read : UInt8 := 0x0d
def data : UInt8 := 0x0e
def writeOpen : UInt8 := 0x0f
def writeOpened : UInt8 := 0x10
def write : UInt8 := 0x11
def writeAck : UInt8 := 0x12
def commit : UInt8 := 0x13
def commitResponse : UInt8 := 0x14
def abort : UInt8 := 0x15
def abortResponse : UInt8 := 0x16
def mkdir : UInt8 := 0x17
def mkdirResponse : UInt8 := 0x18
def delete : UInt8 := 0x19
def deleteResponse : UInt8 := 0x1a
def rename : UInt8 := 0x1b
def renameResponse : UInt8 := 0x1c
def writeStatus : UInt8 := 0x1d
def writeStatusResponse : UInt8 := 0x1e
end FileType

/-- `esp_iris_wire_header_t`. -/
structure WireHeader where
  channel : UInt8
  type : UInt8
  flags : UInt16
  sessionId : UInt32
  requestId : UInt32
  streamId : UInt32
  sequence : UInt32
  payloadSize : UInt32
  deriving DecidableEq, Repr

/-- `iris_decoded_frame_t`. The payload pointer is modelled by the bytes it points to. -/
structure DecodedFrame where
  header : WireHeader
  payload : List UInt8
  deriving DecidableEq, Repr

end EspIris
