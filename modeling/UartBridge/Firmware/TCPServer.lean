import UartBridge.Firmware.Configuration
import UartBridge.Firmware.UDPServer

/-!
# TCPServer: the firmware's stream side

`processRX` makes at most one `read` call in a pass of the loop. What the network
library returns (`accept`, `connected`, `available`, `read`, `write`) is an
argument.
-/

namespace UartBridge.Firmware

structure TCPServer where
  connected : Bool
  pkgLeft : Nat
  deriving DecidableEq, Repr

/-- What `EthernetServer` and `EthernetClient` return in a pass: the address of a
client that `accept` finds, whether the current client is connected, the bytes
that have arrived from it, and how many of the requested ones `read` returns. -/
structure TcpInput where
  accept : Option UInt32
  connected : Bool
  available : List UInt8
  readSz : Nat

namespace TCPServer

/-- What `ProcessRX` reads from and leaves behind. -/
structure RxState where
  server : TCPServer
  rxBuff : Nat → UInt8
  alarmTimer : AlarmTimer

/-- The bytes that `read` returns. -/
def readBytes (input : TcpInput) (pkgLeft : Nat) : List UInt8 :=
  (input.available.take pkgLeft).take input.readSz

/-- The part of `ProcessRX` that reads: the number of bytes read comes with the
event. -/
def readPackage (pkgSz metaSz : Nat) (input : TcpInput) (millis : UInt32) (s : RxState) :
    RxState × ClientEvent × Nat :=
  let data := readBytes input s.server.pkgLeft
  let rxBuff := ByteMem.write s.rxBuff (pkgSz - s.server.pkgLeft) data
  let pkgLeft := s.server.pkgLeft - data.length
  if 0 < pkgLeft then
    ({ s with server := { s.server with pkgLeft := pkgLeft }, rxBuff := rxBuff },
      .NoEvent true, data.length)
  else if crc8 (ByteMem.read rxBuff 0 metaSz) ≠ rxBuff metaSz then
    ({ s with server := { connected := false, pkgLeft := pkgLeft }, rxBuff := rxBuff },
      .Disconnected inaddrNone, data.length)
  else
    ({ server := { s.server with pkgLeft := pkgSz }, rxBuff := rxBuff
       alarmTimer := s.alarmTimer.snoozeAlarm millis },
      .NewRequest (.udpPort (ByteMem.decode16 (rxBuff 0) (rxBuff 1))), data.length)

/-- `ProcessRX`. -/
def processRX (pkgSz metaSz : Nat) (input : TcpInput) (millis : UInt32) (s : RxState) :
    RxState × ClientEvent × Nat :=
  if !s.server.connected then
    match input.accept with
    | none => (s, .NoEvent false, 0)
    | some remoteIP =>
      ({ s with
          server := { connected := true, pkgLeft := pkgSz }
          alarmTimer :=
            (s.alarmTimer.setAlarmDelay defaultAlarmIntervalMS).snoozeAlarm millis },
        .Connected remoteIP, 0)
  else if s.alarmTimer.alarmTriggered millis || !input.connected then
    ({ s with server := { s.server with connected := false } }, .Disconnected inaddrNone, 0)
  else if input.available.length < 1 then (s, .NoEvent (s.server.pkgLeft < pkgSz), 0)
  else readPackage pkgSz metaSz input millis s

/-- The loop over `write`: the bytes that went out and `dataLeft` at its end. It
ends early when `write` returns 0. -/
def writeLoop (pkgSz : Nat) (txBuff : Nat → UInt8) : List Nat → Nat → List UInt8 × Nat
  | [], dataLeft => ([], dataLeft)
  | dw :: writes, dataLeft =>
    if dataLeft = 0 ∨ dw < 1 then ([], dataLeft)
    else
      let dw := min dw dataLeft
      let r := writeLoop pkgSz txBuff writes (dataLeft - dw)
      (ByteMem.read txBuff (pkgSz - dataLeft) dw ++ r.1, r.2)

/-- **What goes out is the package**, as far as it goes. -/
theorem writeLoop_spec (pkgSz : Nat) (txBuff : Nat → UInt8) (writes : List Nat) (dataLeft : Nat)
    (hleft : dataLeft ≤ pkgSz) :
    (writeLoop pkgSz txBuff writes dataLeft).2 ≤ dataLeft ∧
      (writeLoop pkgSz txBuff writes dataLeft).1 =
        ByteMem.read txBuff (pkgSz - dataLeft)
          (dataLeft - (writeLoop pkgSz txBuff writes dataLeft).2) := by
  induction writes generalizing dataLeft with
  | nil => simp [writeLoop]
  | cons dw writes ih =>
    simp only [writeLoop]
    split
    · simp
    · dsimp only
      obtain ⟨hle, hbytes⟩ := ih (dataLeft - min dw dataLeft) (by omega)
      refine ⟨by omega, ?_⟩
      rw [hbytes]
      have hoff : pkgSz - (dataLeft - min dw dataLeft) = pkgSz - dataLeft + min dw dataLeft := by
        omega
      rw [hoff, ← ByteMem.read_add]
      congr 1
      omega

/-- `ProcessTX`: the send buffer, the bytes that went out, and whether that was
the whole package. -/
def processTX (pkgSz metaSz : Nat) (writes : List Nat) (txBuff : Nat → UInt8) :
    (Nat → UInt8) × List UInt8 × Bool :=
  let txBuff := ByteMem.write txBuff 0 [0, 0]
  let txBuff := ByteMem.write txBuff metaSz [crc8 (ByteMem.read txBuff 0 metaSz)]
  let r := writeLoop pkgSz txBuff writes pkgSz
  (txBuff, r.1, r.2 = 0)

end TCPServer

end UartBridge.Firmware
