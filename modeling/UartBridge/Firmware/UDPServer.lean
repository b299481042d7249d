import UartBridge.Lib.ByteMem
import UartBridge.Crc8
import UartBridge.Firmware.Timers

/-!
# UDPServer: the firmware's datagram side

`processRX` gets the event that the TCP side produced in the same pass of the
loop; only without one it reads a datagram. What the network library returns
(`begin`, `beginPacket`, the next datagram) is an argument.
-/

namespace UartBridge.Firmware

/-- The members of `ClientEventData` that a `NewRequest` carries: the port from
the TCP side, or what the UDP side answers. -/
inductive NewRequestData where
  | udpPort (port : UInt16)
  | udpSrvStarted (started : Bool)
  deriving DecidableEq, Repr

/-- `ClientEvent`, with the union member that goes with each type. -/
inductive ClientEvent where
  | NoEvent (pkgReading : Bool)
  | Connected (remoteAddr : UInt32)
  | NewRequest (data : NewRequestData)
  | Disconnected (remoteAddr : UInt32)
  deriving DecidableEq, Repr

/-- `INADDR_NONE`. -/
def inaddrNone : UInt32 := 0xFFFFFFFF

/-- A datagram that waits to be read, with its source port. -/
structure Packet where
  bytes : List UInt8
  remotePort : UInt16
  deriving DecidableEq, Repr

/-- A datagram sent, with its destination. -/
structure SentPacket where
  addr : UInt32
  port : UInt16
  bytes : List UInt8
  deriving DecidableEq, Repr

structure UDPServer where
  clientAddr : UInt32
  serverSeq : UInt16
  clientUDPPort : UInt16
  clientSeq : UInt16
  serverStarted : Bool
  deriving DecidableEq, Repr

namespace UDPServer

/-- The constructor. -/
def create : UDPServer :=
  { clientAddr := inaddrNone, serverSeq := 0, clientUDPPort := 0, clientSeq := 0
    serverStarted := false }

/-- `DropOldSeq`: whether the package in `rxBuff` is to be dropped. -/
def dropOldSeq (rxBuff : Nat → UInt8) (s : UDPServer) : UDPServer × Bool :=
  let checkSeq := ByteMem.decode16 (rxBuff 0) (rxBuff 1)
  if s.serverSeq - checkSeq > checkSeq - s.serverSeq then
    ({ s with serverSeq := checkSeq }, false)
  else (s, true)

/-- What `ProcessRX` reads from and leaves behind. -/
structure RxState where
  server : UDPServer
  rxBuff : Nat → UInt8
  alarmTimer : AlarmTimer

/-- The part of `ProcessRX` that reads a datagram. `read` takes at most `pkgSz`
bytes of it, and the package is checked in place. -/
def readPacket (pkgSz metaSz : Nat) (parsePacket : Option Packet) (millis : UInt32)
    (s : RxState) : RxState × ClientEvent :=
  match parsePacket with
  | none => (s, .NoEvent false)
  | some packet =>
    if packet.bytes.length < 1 then (s, .NoEvent false)
    else
      let bytes := packet.bytes.take pkgSz
      let s := { s with rxBuff := ByteMem.write s.rxBuff 0 bytes }
      if bytes.length ≠ pkgSz ∨ crc8 (ByteMem.read s.rxBuff 0 metaSz) ≠ s.rxBuff metaSz then
        (s, .NoEvent false)
      else
        let (server, drop) := s.server.dropOldSeq s.rxBuff
        if drop then ({ s with server := server }, .NoEvent false)
        else
          -- the client's port is recorded once, with the first package accepted
          let server := if server.clientUDPPort < 1 then
            { server with clientUDPPort := packet.remotePort } else server
          ({ s with server := server, alarmTimer := s.alarmTimer.snoozeAlarm millis },
            .NewRequest (.udpSrvStarted false))

/-- `ProcessRX`. -/
def processRX (pkgSz metaSz : Nat) (beginOk : Bool) (parsePacket : Option Packet)
    (millis : UInt32) (ctlEvent : ClientEvent) (s : RxState) : RxState × ClientEvent :=
  match ctlEvent with
  | .Disconnected remoteAddr | .Connected remoteAddr =>
    ({ s with
        server := { clientAddr := remoteAddr, serverSeq := 0, clientUDPPort := 0, clientSeq := 0
                    serverStarted := false } },
      ctlEvent)
  | .NewRequest (.udpPort port) =>
    if !s.server.serverStarted && 0 < port then
      ({ s with server := { s.server with serverStarted := beginOk } },
        .NewRequest (.udpSrvStarted beginOk))
    else (s, ctlEvent)
  | .NewRequest (.udpSrvStarted _) => (s, ctlEvent)
  | .NoEvent pkgReading =>
    if !s.server.serverStarted || pkgReading then (s, ctlEvent)
    else readPacket pkgSz metaSz parsePacket millis s

/-- Without a TCP event in the same pass, a started server reads a datagram. -/
theorem processRX_started {s : RxState} (started : s.server.serverStarted = true)
    (pkgSz metaSz : Nat) (beginOk : Bool) (parsePacket : Option Packet) (millis : UInt32) :
    processRX pkgSz metaSz beginOk parsePacket millis (.NoEvent false) s =
      readPacket pkgSz metaSz parsePacket millis s := by
  simp [processRX, started]

/-- `ProcessTX`: the datagram sent, if one was. -/
def processTX (pkgSz metaSz : Nat) (beginPacketOk : Bool) (txBuff : Nat → UInt8)
    (s : UDPServer) : UDPServer × (Nat → UInt8) × Option SentPacket :=
  if !s.serverStarted || s.clientUDPPort < 1 || !beginPacketOk then (s, txBuff, none)
  else
    let txBuff := ByteMem.write txBuff 0 (ByteMem.encode16 s.clientSeq)
    let txBuff := ByteMem.write txBuff metaSz [crc8 (ByteMem.read txBuff 0 metaSz)]
    ({ s with clientSeq := s.clientSeq + 1 }, txBuff,
      some { addr := s.clientAddr, port := s.clientUDPPort
             bytes := ByteMem.read txBuff 0 pkgSz })

end UDPServer

end UartBridge.Firmware
