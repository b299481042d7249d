import UartBridge.Lib.ByteMem

/-!
# Firmware configuration and the firmware's package layout

The firmware's sizes are fixed when it is compiled. `configuration.h` computes
the package layout from them with its own macros, independently of the client;
`main_loop.cpp` reads requests and writes responses at these offsets.
-/

namespace UartBridge.Firmware

/-- The `#define`s that the logic depends on. The proof fields hold of every
configuration the firmware can be built with: a `uint16_t` describes the ring
buffer, and the one-byte `plSz` describes a payload. -/
structure Configuration where
  portIOSize : Nat
  ioAggregateMultiplier : Nat
  dataBufferSize : Nat
  uartCount : Nat
  uartPollIntervalUSDefault : UInt32
  multiplier_pos : 0 < ioAggregateMultiplier
  dataBufferSize_pos : 0 < dataBufferSize
  dataBufferSize_lt : dataBufferSize < 0x10000
  payload_le : portIOSize * ioAggregateMultiplier ≤ 255

namespace Configuration

def dataPayloadSize (cfg : Configuration) : Nat := cfg.portIOSize * cfg.ioAggregateMultiplier

def pkgHdrSz : Nat := 6
def pkgCntOffset : Nat := 2
def cmdHdrSize : Nat := 3
def metaCrcSz : Nat := 1

/-- `META_SZ`. -/
def metaSz (cfg : Configuration) : Nat := pkgHdrSz + cmdHdrSize * cfg.uartCount

/-- `PACKAGE_SIZE`. -/
def packageSize (cfg : Configuration) : Nat :=
  cfg.metaSz + metaCrcSz + cfg.dataPayloadSize * cfg.uartCount

/-- Where `setup` puts a port's payload slot in both buffers. -/
def slotOffset (cfg : Configuration) (i : Nat) : Nat :=
  cfg.metaSz + metaCrcSz + cfg.dataPayloadSize * i

end Configuration

/-- The values for `ARDUINO_AVR_PRO`. -/
def Configuration.avrPro : Configuration where
  portIOSize := 64
  ioAggregateMultiplier := 2
  dataBufferSize := 512
  uartCount := 1
  uartPollIntervalUSDefault := 4096
  multiplier_pos := by decide
  dataBufferSize_pos := by decide
  dataBufferSize_lt := by decide
  payload_le := by decide

/-- The values for `ARDUINO_AVR_MEGA2560`. -/
def Configuration.avrMega2560 : Configuration where
  portIOSize := 25
  ioAggregateMultiplier := 2
  dataBufferSize := 1600
  uartCount := 3
  uartPollIntervalUSDefault := 4300
  multiplier_pos := by decide
  dataBufferSize_pos := by decide
  dataBufferSize_lt := by decide
  payload_le := by decide

def resetTimeMS : UInt16 := 100
def defaultAlarmIntervalMS : UInt32 := 1000

/-! ## Command -/

/-- A request type is a byte of the package cast to the enumeration; bytes
without an enumerator take the `default` branch. -/
inductive ReqType where
  | NoCommand | Reset | Open | ResetOpen | Close | Data | other (b : UInt8)
  deriving DecidableEq, Repr

/-- `static_cast<ReqType>`. -/
def ReqType.ofByte (b : UInt8) : ReqType :=
  if b = 0x00 then .NoCommand
  else if b = 0x01 then .Reset
  else if b = 0x02 then .Open
  else if b = 0x03 then .ResetOpen
  else if b = 0x04 then .Close
  else if b = 0x08 then .Data
  else .other b

inductive RespType where
  | NoCommand | Data
  deriving DecidableEq, Repr

/-- The enumerator's value. -/
def RespType.toByte : RespType → UInt8
  | .NoCommand => 0x00
  | .Data => 0x08

structure Request where
  type : ReqType
  arg : UInt8
  plSz : UInt8
  deriving DecidableEq, Repr

structure Response where
  type : RespType
  arg : UInt8
  plSz : UInt8
  deriving DecidableEq, Repr

open UartBridge.Firmware.Configuration in
/-- `MapRequest`. -/
def mapRequest (portIndex : Nat) (rawBuffer : Nat → UInt8) : Request :=
  let offset := pkgHdrSz + portIndex * cmdHdrSize
  { type := ReqType.ofByte (rawBuffer offset)
    arg := rawBuffer (offset + 1)
    plSz := rawBuffer (offset + 2) }

open UartBridge.Firmware.Configuration in
/-- `WriteResponse`. -/
def writeResponse (source : Response) (portIndex : Nat) (rawBuffer : Nat → UInt8) :
    Nat → UInt8 :=
  let offset := pkgHdrSz + portIndex * cmdHdrSize
  ByteMem.write rawBuffer offset [source.type.toByte, source.arg, source.plSz]

end UartBridge.Firmware
