import UartBridge.Firmware.TCPServer
import UartBridge.Firmware.UARTWorker

/-!
# The firmware's loop

`loop` is one pass: a TCP event, the UDP server's turn, the requests of a new
package, the UARTs' turn and, when the poll interval is over, a response. What
the hardware and the network library return in the pass is an argument, and so
is the time. What the pass reads from the connection, sends, and writes with
`WriteResponse` is recorded for the reader; the firmware keeps none of it.
-/

namespace UartBridge.Firmware

/-- The static variables of `main_loop.cpp`. -/
structure MainLoop (size : Nat) where
  rxBuff : Nat → UInt8
  txBuff : Nat → UInt8
  pollTimer : IntervalTimer
  alarmTimer : AlarmTimer
  tcpServer : TCPServer
  udpServer : UDPServer
  uartWorker : List (UARTWorker size)
  tcpClientState : Bool
  pollIntervalSetPending : Bool
  segmentCounter : UInt8

/-- What a pass gets from outside. -/
structure LoopInput where
  linkOn : Bool
  tcp : TcpInput
  udpBegin : Bool
  udpPacket : Option Packet
  udpBeginPacket : Bool
  tcpWrites : List Nat
  millis : UInt32
  micros : UInt32
  availableForWrite : Nat → Nat
  uartInput : Nat → List UInt8

/-- A response as it was written, with the payload of the UART's slot. -/
structure WrittenResponse where
  response : Response
  payload : List UInt8
  deriving DecidableEq, Repr

/-- What a pass does: `consumed` bytes were read from the TCP connection, which
led to `event`; `responses` were written; `sent` went out over TCP and `datagram`
over UDP. -/
structure Pass (size : Nat) where
  state : MainLoop size
  consumed : Nat
  event : ClientEvent
  responses : List WrittenResponse
  sent : List UInt8
  datagram : Option SentPacket

namespace MainLoop

variable {size : Nat}

/-- The end of `setup`; `now` is the time and `txBuff`, `rxBuff` hold zeros. -/
def setup (cfg : Configuration) (rxRingBuffs : List (DataBuffer UInt8 size))
    (millis micros : UInt32) :
    MainLoop size :=
  { rxBuff := fun _ => 0, txBuff := fun _ => 0
    pollTimer := IntervalTimer.setInterval cfg.uartPollIntervalUSDefault micros
      { checkPoint := micros, interval := 1 }
    alarmTimer := { startTime := millis, interval := defaultAlarmIntervalMS }
    tcpServer := { connected := false, pkgLeft := 0 }
    udpServer := UDPServer.create
    uartWorker := rxRingBuffs.map UARTWorker.setup
    tcpClientState := false, pollIntervalSetPending := false, segmentCounter := 0 }

/-- What `loop` does with the event of the TCP side. -/
def controlEvent (cfg : Configuration) (micros : UInt32) (event : ClientEvent)
    (s : MainLoop size) : MainLoop size :=
  match event with
  | .Connected _ =>
    { s with
      pollTimer := s.pollTimer.setInterval cfg.uartPollIntervalUSDefault micros
      tcpClientState := true
      pollIntervalSetPending := true
      segmentCounter := if 1 < cfg.ioAggregateMultiplier then 0 else s.segmentCounter }
  | .Disconnected _ =>
    { s with
      pollTimer := s.pollTimer.setInterval cfg.uartPollIntervalUSDefault micros
      tcpClientState := false
      pollIntervalSetPending := false }
  | .NoEvent _ | .NewRequest _ => s

/-- `ProcessRequest` of every worker. -/
def processRequests (cfg : Configuration) (millis : UInt32) (rxBuff : Nat → UInt8)
    (uartWorker : List (UARTWorker size)) : List (UARTWorker size) :=
  uartWorker.mapIdx fun i w =>
    (w.processRequest millis (fun k => rxBuff (cfg.slotOffset i + k)) (mapRequest i rxBuff)).1

/-- The interval that `loop` makes of the counter field: its last two bytes are
read from the same place. -/
def intervalField (rxBuff : Nat → UInt8) : UInt32 :=
  ByteMem.decode32 (rxBuff Configuration.pkgCntOffset) (rxBuff (Configuration.pkgCntOffset + 1))
    (rxBuff (Configuration.pkgCntOffset + 2)) (rxBuff (Configuration.pkgCntOffset + 2))

/-- The interval for the poll timer; it is not set to 0. -/
def pollInterval (cfg : Configuration) (rxBuff : Nat → UInt8) : UInt32 :=
  UInt32.ofNat ((intervalField rxBuff).toNat / cfg.ioAggregateMultiplier)

/-- The counter of a new package goes to the send buffer, or is taken as the poll
interval. -/
def takeCounter (cfg : Configuration) (micros : UInt32) (s : MainLoop size) : MainLoop size :=
  let txBuff := ByteMem.write s.txBuff Configuration.pkgCntOffset
    (ByteMem.read s.rxBuff Configuration.pkgCntOffset 4)
  if s.pollIntervalSetPending then
    { s with
      pollIntervalSetPending := false
      txBuff := ByteMem.write txBuff Configuration.pkgCntOffset [0, 0, 0, 0]
      pollTimer := if 0 < pollInterval cfg s.rxBuff then
        s.pollTimer.setInterval (pollInterval cfg s.rxBuff) micros else s.pollTimer }
  else { s with txBuff := txBuff }

/-- `ProcessRX` of every worker. -/
def processUARTs (cfg : Configuration) (input : LoopInput) (uartWorker : List (UARTWorker size)) :
    List (UARTWorker size) :=
  uartWorker.mapIdx fun i w => w.processRX cfg input.millis (input.availableForWrite i)

/-- `FillTXBuff` of every worker from number `i` on. -/
def fillTXBuffs (cfg : Configuration) (reset : Bool) (uartInput : Nat → List UInt8) :
    Nat → List (UARTWorker size) → (Nat → UInt8) → List (UARTWorker size) × (Nat → UInt8)
  | _, [], txBuff => ([], txBuff)
  | i, w :: ws, txBuff =>
    let r := w.fillTXBuff cfg reset (uartInput i) (cfg.slotOffset i) txBuff
    let rs := fillTXBuffs cfg reset uartInput (i + 1) ws r.2
    (r.1 :: rs.1, rs.2)

/-- `WriteResponse` of a worker's `ProcessTX`. -/
def respond (cfg : Configuration) (i : Nat) (w : UARTWorker size) (txBuff : Nat → UInt8) :
    (Nat → UInt8) × WrittenResponse :=
  (writeResponse w.processTX i txBuff,
    { response := w.processTX
      payload := ByteMem.read txBuff (cfg.slotOffset i) w.processTX.plSz.toNat })

/-- The second loop for `IO_AGGREGATE_MULTIPLIER > 1`. -/
def writeResponses (cfg : Configuration) :
    Nat → List (UARTWorker size) → (Nat → UInt8) → (Nat → UInt8) × List WrittenResponse
  | _, [], txBuff => (txBuff, [])
  | i, w :: ws, txBuff =>
    let r := respond cfg i w txBuff
    let rs := writeResponses cfg (i + 1) ws r.1
    (rs.1, r.2 :: rs.2)

/-- The loop for `IO_AGGREGATE_MULTIPLIER` 1. -/
def fillAndRespond (cfg : Configuration) (uartInput : Nat → List UInt8) :
    Nat → List (UARTWorker size) → (Nat → UInt8) →
      List (UARTWorker size) × (Nat → UInt8) × List WrittenResponse
  | _, [], txBuff => ([], txBuff, [])
  | i, w :: ws, txBuff =>
    let f := w.fillTXBuff cfg true (uartInput i) (cfg.slotOffset i) txBuff
    let r := respond cfg i f.1 f.2
    let rs := fillAndRespond cfg uartInput (i + 1) ws r.1
    (f.1 :: rs.1, rs.2.1, r.2 :: rs.2.2)

/-- The end of a pass in which a response is due: over UDP first, and over TCP if
that is not possible. -/
def transmit (cfg : Configuration) (input : LoopInput) (s : MainLoop size) :
    MainLoop size × List UInt8 × Option SentPacket :=
  if !s.tcpClientState then (s, [], none)
  else
    let u := s.udpServer.processTX cfg.packageSize cfg.metaSz input.udpBeginPacket s.txBuff
    match u.2.2 with
    | some datagram => ({ s with udpServer := u.1, txBuff := u.2.1 }, [], some datagram)
    | none =>
      let t := TCPServer.processTX cfg.packageSize cfg.metaSz input.tcpWrites u.2.1
      ({ s with udpServer := u.1, txBuff := t.1 }, t.2.1, none)

/-- What a due poll timer leads to. -/
def pollUARTs (cfg : Configuration) (input : LoopInput) (s : MainLoop size) :
    MainLoop size × List WrittenResponse × List UInt8 × Option SentPacket :=
  if !s.pollTimer.update input.micros then (s, [], [], none)
  else
    let s := { s with pollTimer := s.pollTimer.next }
    if 1 < cfg.ioAggregateMultiplier then
      let s := { s with segmentCounter := s.segmentCounter + 1 }
      let f := fillTXBuffs cfg (s.segmentCounter = 1) input.uartInput 0 s.uartWorker s.txBuff
      let s := { s with uartWorker := f.1, txBuff := f.2 }
      if s.segmentCounter.toNat < cfg.ioAggregateMultiplier then (s, [], [], none)
      else
        let r := writeResponses cfg 0 s.uartWorker s.txBuff
        let t := transmit cfg input { s with txBuff := r.1, segmentCounter := 0 }
        (t.1, r.2, t.2)
    else
      let r := fillAndRespond cfg input.uartInput 0 s.uartWorker s.txBuff
      let t := transmit cfg input { s with uartWorker := r.1, txBuff := r.2.1 }
      (t.1, r.2.2, t.2)

/-- The two servers' turn. -/
def receive (cfg : Configuration) (input : LoopInput) (s : MainLoop size) :
    MainLoop size × ClientEvent × Nat :=
  let r := TCPServer.processRX cfg.packageSize cfg.metaSz input.tcp input.millis
    { server := s.tcpServer, rxBuff := s.rxBuff, alarmTimer := s.alarmTimer }
  let s := { s with tcpServer := r.1.server, rxBuff := r.1.rxBuff, alarmTimer := r.1.alarmTimer }
  let s := controlEvent cfg input.micros r.2.1 s
  let u := UDPServer.processRX cfg.packageSize cfg.metaSz input.udpBegin input.udpPacket
    input.millis r.2.1 { server := s.udpServer, rxBuff := s.rxBuff, alarmTimer := s.alarmTimer }
  ({ s with udpServer := u.1.server, rxBuff := u.1.rxBuff, alarmTimer := u.1.alarmTimer },
    u.2, r.2.2)

/-- A new package's requests and counter. -/
def handle (cfg : Configuration) (input : LoopInput) (event : ClientEvent) (s : MainLoop size) :
    MainLoop size :=
  match event with
  | .NewRequest _ =>
    takeCounter cfg input.micros
      { s with uartWorker := processRequests cfg input.millis s.rxBuff s.uartWorker }
  | .NoEvent _ | .Connected _ | .Disconnected _ => s

/-- `loop`; `none` is a reset of the board by the watchdog. -/
def loop (cfg : Configuration) (input : LoopInput) (s : MainLoop size) : Option (Pass size) :=
  if !s.tcpClientState && !input.linkOn then none
  else
    let r := s.receive cfg input
    let h := r.1.handle cfg input r.2.1
    let h := { h with uartWorker := processUARTs cfg input h.uartWorker }
    let p := h.pollUARTs cfg input
    some { state := p.1, consumed := r.2.2, event := r.2.1, responses := p.2.1
           sent := p.2.2.1, datagram := p.2.2.2 }

end MainLoop

end UartBridge.Firmware
