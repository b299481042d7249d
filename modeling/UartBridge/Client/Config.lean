import UartBridge.Lib.ByteMem

/-!
# Client configuration and the client's package layout

A package is a header (a 16-bit sequence number or UDP port and a 32-bit
counter), one three-byte command header a port, the checksum of all that, and
one payload slot a port. `Config.cpp` computes the offsets with its own macros,
`Command.cpp` reads and writes the fields.
-/

namespace UartBridge.Client

/-! ## Config -/

def pkgHdrSz : Nat := 6
def pkgCntOffset : Nat := 2
def cmdHdrSize : Nat := 3
def metaCrcSz : Nat := 1

/-- `META_SZ`. -/
def metaSz (uartCount : Nat) : Nat := pkgHdrSz + cmdHdrSize * uartCount

/-- `PACKAGE_SIZE`. -/
def packageSize (uartCount dataPayloadSize : Nat) : Nat :=
  metaSz uartCount + metaCrcSz + dataPayloadSize * uartCount

/-- `PORT_OFFSET`. -/
def portOffset (uartCount dataPayloadSize portIndex : Nat) : Nat :=
  metaSz uartCount + metaCrcSz + dataPayloadSize * portIndex

/-- The parts of `Config` that the transfer logic reads. -/
structure Config where
  portCount : Nat
  portPLSize : Nat
  remoteRingBuffSize : Nat
  enableUDP : Bool
  remotePollInterval : UInt32

namespace Config

def getNetPackageMetaSz (config : Config) : Nat := metaSz config.portCount
def getNetPackageSz (config : Config) : Nat := packageSize config.portCount config.portPLSize
def getPortBuffOffset (config : Config) (portIndex : Nat) : Nat :=
  portOffset config.portCount config.portPLSize portIndex

end Config

/-- `SerialMode::SERIAL_CLOSED`. -/
def serialClosed : UInt8 := 0xFF

/-- One port's settings. `main` casts any mode from 0 to 255 to `SerialMode`,
and leaves the mode at `SERIAL_CLOSED` unless a speed was given. -/
structure PortConfig where
  speed : UInt32
  mode : UInt8
  resetOnConnect : Bool
  portID : Nat
  mode_of_speed : speed = 0 → mode = serialClosed

/-! ## Command -/

inductive ReqType where
  | NoCommand | Reset | Open | Close | Data
  deriving DecidableEq, Repr

/-- The enumerator's value. -/
def ReqType.toByte : ReqType → UInt8
  | .NoCommand => 0x00
  | .Reset => 0x01
  | .Open => 0x02
  | .Close => 0x04
  | .Data => 0x08

/-- A response type is a byte from the wire cast to the enumeration; any byte
but the two named ones stays what it is. -/
inductive RespType where
  | NoCommand | Data | other (b : UInt8)
  deriving DecidableEq, Repr

/-- `static_cast<RespType>`. -/
def RespType.ofByte (b : UInt8) : RespType :=
  if b = 0x00 then .NoCommand else if b = 0x08 then .Data else .other b

structure Request where
  type : ReqType
  arg : UInt8
  plSz : UInt8
  deriving DecidableEq, Repr

structure Response where
  type : RespType
  arg : UInt8
  plSz : UInt8
  counter : UInt32
  deriving DecidableEq, Repr

/-- The bytes `WriteU32Value` stores. -/
def writeU32Value (value : UInt32) (target : Nat) (mem : Nat → UInt8) : Nat → UInt8 :=
  ByteMem.write mem target (ByteMem.encode32 value)

/-- `WriteU16Value`. -/
def writeU16Value (value : UInt16) (target : Nat) (mem : Nat → UInt8) : Nat → UInt8 :=
  ByteMem.write mem target (ByteMem.encode16 value)

/-- `Request::Write`. -/
def Request.write (source : Request) (portIndex : Nat) (rawBuffer : Nat → UInt8) : Nat → UInt8 :=
  let offset := pkgHdrSz + portIndex * cmdHdrSize
  ByteMem.write rawBuffer offset [source.type.toByte, source.arg, source.plSz]

/-- `Response::Map`. -/
def Response.map (portIndex : Nat) (rawBuffer : Nat → UInt8) : Response :=
  let offset := pkgHdrSz + portIndex * cmdHdrSize
  { type := RespType.ofByte (rawBuffer offset)
    arg := rawBuffer (offset + 1)
    plSz := rawBuffer (offset + 2)
    counter := ByteMem.decode32 (rawBuffer pkgCntOffset) (rawBuffer (pkgCntOffset + 1))
      (rawBuffer (pkgCntOffset + 2)) (rawBuffer (pkgCntOffset + 3)) }

end UartBridge.Client
