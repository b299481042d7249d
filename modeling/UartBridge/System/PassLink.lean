import UartBridge.System.Collect

/-!
# What a pass of the loop does to the connections

Only the first part of a pass, the two servers' turn, decides which connection there
is and what is in the receive buffer; only its last part puts bytes on the
connection.

* `receive_turn` — the servers' turn, by what the TCP server did;
* `loop_turn` — the same for the whole pass;
* `loop_puts` — what the pass puts on the connection.
-/

namespace UartBridge

open Client Firmware

variable {size : Nat}

/-! ## Receiving -/

/-- The event of the TCP server itself, before the UDP server's turn. -/
def tcpEvent (cfg : Configuration) (input : LoopInput) (s : MainLoop size) : ClientEvent :=
  (TCPServer.processRX cfg.packageSize cfg.metaSz input.tcp input.millis
    { server := s.tcpServer, rxBuff := s.rxBuff, alarmTimer := s.alarmTimer }).2.1

/-- The connection and the receive buffer, before and after. -/
structure SameLink (s t : MainLoop size) : Prop where
  tcpServer_eq : t.tcpServer = s.tcpServer
  client_eq : t.tcpClientState = s.tcpClientState
  rxBuff_eq : t.rxBuff = s.rxBuff

theorem SameLink.trans {s t u : MainLoop size} (h : SameLink s t) (h' : SameLink t u) :
    SameLink s u :=
  ⟨h'.tcpServer_eq.trans h.tcpServer_eq, h'.client_eq.trans h.client_eq,
    h'.rxBuff_eq.trans h.rxBuff_eq⟩

/-- What the bytes read in a pass make of the receive buffer. -/
def storedRx (cfg : Configuration) (input : LoopInput) (s : MainLoop size) : Nat → UInt8 :=
  ByteMem.write s.rxBuff (cfg.packageSize - s.tcpServer.pkgLeft)
    (TCPServer.readBytes input.tcp s.tcpServer.pkgLeft)

/-- What the TCP server did: its event and the number of bytes it read, and what
became of the connection and the receive buffer. The UDP server stores a datagram
only where nothing is said about the buffer. -/
inductive Turn (cfg : Configuration) (input : LoopInput) (s t : MainLoop size) :
    ClientEvent → Nat → Prop
  | idle (connected : s.tcpServer.connected = false) (tcpServer : t.tcpServer = s.tcpServer)
      (client : t.tcpClientState = s.tcpClientState) : Turn cfg input s t (.NoEvent false) 0
  | accepted (addr : UInt32) (connected : s.tcpServer.connected = false)
      (tcpServer : t.tcpServer = { connected := true, pkgLeft := cfg.packageSize })
      (client : t.tcpClientState = true) : Turn cfg input s t (.Connected addr) 0
  | dropped (connected : s.tcpServer.connected = true)
      (tcpServer : t.tcpServer = { s.tcpServer with connected := false })
      (client : t.tcpClientState = false) : Turn cfg input s t (.Disconnected inaddrNone) 0
  | nothing (connected : s.tcpServer.connected = true) (tcpServer : t.tcpServer = s.tcpServer)
      (client : t.tcpClientState = s.tcpClientState)
      (rxBuff : s.tcpServer.pkgLeft < cfg.packageSize → t.rxBuff = s.rxBuff) :
      Turn cfg input s t (.NoEvent (s.tcpServer.pkgLeft < cfg.packageSize)) 0
  | part (connected : s.tcpServer.connected = true)
      (left : (TCPServer.readBytes input.tcp s.tcpServer.pkgLeft).length < s.tcpServer.pkgLeft)
      (tcpServer : t.tcpServer =
        { connected := true
          pkgLeft := s.tcpServer.pkgLeft -
            (TCPServer.readBytes input.tcp s.tcpServer.pkgLeft).length })
      (client : t.tcpClientState = s.tcpClientState) (rxBuff : t.rxBuff = storedRx cfg input s) :
      Turn cfg input s t (.NoEvent true)
        (TCPServer.readBytes input.tcp s.tcpServer.pkgLeft).length
  | bad (connected : s.tcpServer.connected = true)
      (left : s.tcpServer.pkgLeft ≤ (TCPServer.readBytes input.tcp s.tcpServer.pkgLeft).length)
      (crc : Firmware.crc8 (ByteMem.read (storedRx cfg input s) 0 cfg.metaSz) ≠
        storedRx cfg input s cfg.metaSz)
      (tcpServer : t.tcpServer.connected = false) (client : t.tcpClientState = false) :
      Turn cfg input s t (.Disconnected inaddrNone)
        (TCPServer.readBytes input.tcp s.tcpServer.pkgLeft).length
  | package (port : UInt16) (connected : s.tcpServer.connected = true)
      (left : s.tcpServer.pkgLeft ≤ (TCPServer.readBytes input.tcp s.tcpServer.pkgLeft).length)
      (crc : Firmware.crc8 (ByteMem.read (storedRx cfg input s) 0 cfg.metaSz) =
        storedRx cfg input s cfg.metaSz)
      (tcpServer : t.tcpServer = { connected := true, pkgLeft := cfg.packageSize })
      (client : t.tcpClientState = s.tcpClientState) (rxBuff : t.rxBuff = storedRx cfg input s) :
      Turn cfg input s t (.NewRequest (.udpPort port))
        (TCPServer.readBytes input.tcp s.tcpServer.pkgLeft).length

/-- What comes after the servers' turn does not matter to it. -/
theorem Turn.same {cfg : Configuration} {input : LoopInput} {s t u : MainLoop size}
    {event : ClientEvent} {consumed : Nat} (h : Turn cfg input s t event consumed)
    (hsame : SameLink t u) : Turn cfg input s u event consumed := by
  obtain ⟨htcp, hclient, hrx⟩ := hsame
  cases h with
  | idle connected tcpServer client =>
    exact .idle connected (htcp.trans tcpServer) (hclient.trans client)
  | accepted addr connected tcpServer client =>
    exact .accepted addr connected (htcp.trans tcpServer) (hclient.trans client)
  | dropped connected tcpServer client =>
    exact .dropped connected (htcp.trans tcpServer) (hclient.trans client)
  | nothing connected tcpServer client rxBuff =>
    exact .nothing connected (htcp.trans tcpServer) (hclient.trans client)
      fun hlt => hrx.trans (rxBuff hlt)
  | part connected left tcpServer client rxBuff =>
    exact .part connected left (htcp.trans tcpServer) (hclient.trans client) (hrx.trans rxBuff)
  | bad connected left crc tcpServer client =>
    exact .bad connected left crc (by rw [htcp]; exact tcpServer) (hclient.trans client)
  | package port connected left crc tcpServer client rxBuff =>
    exact .package port connected left crc (htcp.trans tcpServer) (hclient.trans client)
      (hrx.trans rxBuff)

/-- The UDP server leaves the buffer alone unless the TCP server had nothing to say
and is not in the middle of a package. -/
theorem udp_rxBuff (pkgSz metaSz : Nat) (beginOk : Bool) (packet : Option Packet)
    (millis : UInt32) {event : ClientEvent} (s : UDPServer.RxState)
    (hbusy : event ≠ .NoEvent false) :
    (UDPServer.processRX pkgSz metaSz beginOk packet millis event s).1.rxBuff = s.rxBuff := by
  cases event with
  | Connected | Disconnected => rfl
  | NoEvent pkgReading =>
    cases pkgReading with
    | false => exact absurd rfl hbusy
    | true => simp [UDPServer.processRX]
  | NewRequest data =>
    cases data with
    | udpSrvStarted => rfl
    | udpPort port =>
      unfold UDPServer.processRX
      dsimp only
      split <;> rfl

/-- **The servers' turn.** -/
theorem receive_turn (cfg : Configuration) (input : LoopInput) (s : MainLoop size) :
    Turn cfg input s (s.receive cfg input).1 (tcpEvent cfg input s)
      (s.receive cfg input).2.2 := by
  obtain ⟨hserver, hclient, hrx⟩ : (s.receive cfg input).1.tcpServer =
        (TCPServer.processRX cfg.packageSize cfg.metaSz input.tcp input.millis
          { server := s.tcpServer, rxBuff := s.rxBuff, alarmTimer := s.alarmTimer }).1.server ∧
      (s.receive cfg input).1.tcpClientState =
        (s.controlEvent cfg input.micros (tcpEvent cfg input s)).tcpClientState ∧
      (tcpEvent cfg input s ≠ .NoEvent false → (s.receive cfg input).1.rxBuff =
        (TCPServer.processRX cfg.packageSize cfg.metaSz input.tcp input.millis
          { server := s.tcpServer, rxBuff := s.rxBuff, alarmTimer := s.alarmTimer }).1.rxBuff) := by
    unfold MainLoop.receive tcpEvent
    generalize TCPServer.processRX cfg.packageSize cfg.metaSz input.tcp input.millis
      { server := s.tcpServer, rxBuff := s.rxBuff, alarmTimer := s.alarmTimer } = r
    dsimp only
    refine ⟨?_, ?_, ?_⟩
    · cases r.2.1 <;> rfl
    · cases r.2.1 <;> rfl
    · intro hbusy
      rw [udp_rxBuff _ _ _ _ _ _ hbusy]
      cases r.2.1 <;> rfl
  have hconsumed : (s.receive cfg input).2.2 =
      (TCPServer.processRX cfg.packageSize cfg.metaSz input.tcp input.millis
        { server := s.tcpServer, rxBuff := s.rxBuff, alarmTimer := s.alarmTimer }).2.2 := rfl
  rw [hconsumed]
  unfold tcpEvent at hclient hrx ⊢
  generalize hr : TCPServer.processRX cfg.packageSize cfg.metaSz input.tcp input.millis
    { server := s.tcpServer, rxBuff := s.rxBuff, alarmTimer := s.alarmTimer } = r at *
  unfold TCPServer.processRX at hr
  split at hr
  · rename_i hoff
    rw [Bool.not_eq_true'] at hoff
    split at hr
    · subst hr
      exact .idle hoff hserver hclient
    · rename_i addr _
      subst hr
      exact .accepted addr hoff hserver hclient
  · rename_i hon
    rw [Bool.not_eq_true', Bool.not_eq_false] at hon
    split at hr
    · subst hr
      exact .dropped hon hserver hclient
    · split at hr
      · subst hr
        exact .nothing hon hserver hclient fun hlt => hrx (by simp [hlt])
      · unfold TCPServer.readPackage at hr
        dsimp only at hr
        rw [show s.tcpServer.connected = true from hon] at hr
        split at hr
        · subst hr
          exact .part hon (by omega) hserver hclient (hrx (by simp))
        · split at hr
          · rename_i hcrc
            subst hr
            exact .bad hon (by omega) hcrc (congrArg TCPServer.connected hserver) hclient
          · rename_i hcrc
            subst hr
            exact .package _ hon (by omega) (not_not.mp hcrc) hserver hclient (hrx (by simp))

/-! ## Sending -/

/-- What is put on the connection is the beginning of what is in the send buffer
afterwards, and nothing without a client or when the first `write` fails. -/
structure Puts (cfg : Configuration) (input : LoopInput) (client : Bool) (after : Nat → UInt8)
    (sent : List UInt8) : Prop where
  sent_eq : sent = ByteMem.read after 0 sent.length
  length_le : sent.length ≤ cfg.packageSize
  client_of_ne : sent ≠ [] → client = true
  gaveUp : input.tcpWrites.headD 0 = 0 → sent = []

theorem Puts.nothing (cfg : Configuration) (input : LoopInput) (client : Bool)
    (after : Nat → UInt8) : Puts cfg input client after [] :=
  ⟨rfl, Nat.zero_le _, fun h => absurd rfl h, fun _ => rfl⟩

/-- The end of a pass. -/
theorem transmit_link (cfg : Configuration) (input : LoopInput) (s : MainLoop size) :
    let t := s.transmit cfg input
    SameLink s t.1 ∧ Puts cfg input s.tcpClientState t.1.txBuff t.2.1 := by
  unfold MainLoop.transmit
  dsimp only
  split
  · exact ⟨⟨rfl, rfl, rfl⟩, Puts.nothing cfg input _ _⟩
  · rename_i hclient
    rw [Bool.not_eq_true', Bool.not_eq_false] at hclient
    split
    · exact ⟨⟨rfl, rfl, rfl⟩, Puts.nothing cfg input _ _⟩
    · refine ⟨⟨rfl, rfl, rfl⟩, ?_⟩
      generalize (s.udpServer.processTX cfg.packageSize cfg.metaSz input.udpBeginPacket
        s.txBuff).2.1 = txBuff
      unfold TCPServer.processTX
      dsimp only
      obtain ⟨hleft, hbytes⟩ := TCPServer.writeLoop_spec cfg.packageSize
        (sealPackage cfg.metaSz 0 txBuff) input.tcpWrites cfg.packageSize (Nat.le_refl _)
      rw [Nat.sub_self] at hbytes
      refine ⟨?_, ?_, fun _ => hclient, ?_⟩
      · show (TCPServer.writeLoop cfg.packageSize (sealPackage cfg.metaSz 0 txBuff)
          input.tcpWrites cfg.packageSize).1 = ByteMem.read (sealPackage cfg.metaSz 0 txBuff) 0
            (TCPServer.writeLoop cfg.packageSize (sealPackage cfg.metaSz 0 txBuff)
              input.tcpWrites cfg.packageSize).1.length
        rw [hbytes, ByteMem.length_read]
      · show (TCPServer.writeLoop cfg.packageSize (sealPackage cfg.metaSz 0 txBuff)
          input.tcpWrites cfg.packageSize).1.length ≤ _
        rw [hbytes, ByteMem.length_read]
        omega
      · intro hzero
        cases hwrites : input.tcpWrites with
        | nil => rfl
        | cons dw writes =>
          rw [hwrites, List.headD_cons] at hzero
          rw [TCPServer.writeLoop, if_pos (Or.inr (by omega))]

/-- The poll. -/
theorem pollUARTs_link (cfg : Configuration) (input : LoopInput) (s : MainLoop size) :
    let p := s.pollUARTs cfg input
    SameLink s p.1 ∧ Puts cfg input s.tcpClientState p.1.txBuff p.2.2.1 := by
  unfold MainLoop.pollUARTs
  dsimp only
  split
  · exact ⟨⟨rfl, rfl, rfl⟩, Puts.nothing cfg input _ _⟩
  · split
    · split
      · exact ⟨⟨rfl, rfl, rfl⟩, Puts.nothing cfg input _ _⟩
      · obtain ⟨hlink, hputs⟩ := transmit_link cfg input { s with
          pollTimer := s.pollTimer.next
          segmentCounter := 0
          uartWorker := (MainLoop.fillTXBuffs cfg (s.segmentCounter + 1 = 1) input.uartInput 0
            s.uartWorker s.txBuff).1
          txBuff := (MainLoop.writeResponses cfg 0
            (MainLoop.fillTXBuffs cfg (s.segmentCounter + 1 = 1) input.uartInput 0
              s.uartWorker s.txBuff).1
            (MainLoop.fillTXBuffs cfg (s.segmentCounter + 1 = 1) input.uartInput 0
              s.uartWorker s.txBuff).2).1 }
        exact ⟨⟨hlink.tcpServer_eq, hlink.client_eq, hlink.rxBuff_eq⟩, hputs⟩
    · obtain ⟨hlink, hputs⟩ := transmit_link cfg input { s with
        pollTimer := s.pollTimer.next
        uartWorker := (MainLoop.fillAndRespond cfg input.uartInput 0 s.uartWorker s.txBuff).1
        txBuff := (MainLoop.fillAndRespond cfg input.uartInput 0 s.uartWorker s.txBuff).2.1 }
      exact ⟨⟨hlink.tcpServer_eq, hlink.client_eq, hlink.rxBuff_eq⟩, hputs⟩

/-- A package's requests and counter do not concern the connection. -/
theorem handle_link (cfg : Configuration) (input : LoopInput) (event : ClientEvent)
    (s : MainLoop size) : SameLink s (s.handle cfg input event) := by
  cases event with
  | NewRequest data =>
    unfold MainLoop.handle MainLoop.takeCounter
    dsimp only
    split <;> exact ⟨rfl, rfl, rfl⟩
  | NoEvent | Connected | Disconnected => exact ⟨rfl, rfl, rfl⟩

/-! ## The pass -/

variable {cfg : Configuration} {input : LoopInput} {s : MainLoop size} {p : Pass size}

/-- The receive buffer is as the servers' turn left it. -/
theorem loop_rxBuff (hp : s.loop cfg input = some p) :
    p.state.rxBuff = (s.receive cfg input).1.rxBuff := by
  rw [(loop_poll hp).1, (pollUARTs_link cfg input _).1.rxBuff_eq]
  exact (handle_link cfg input _ _).rxBuff_eq

/-- **What the pass did to the connection.** -/
theorem loop_turn (hp : s.loop cfg input = some p) :
    Turn cfg input s p.state (tcpEvent cfg input s) p.consumed := by
  obtain ⟨hstate, -⟩ := loop_poll hp
  rw [hstate, (loop_event hp).2]
  have hhandle := handle_link cfg input (s.receive cfg input).2.1 (s.receive cfg input).1
  obtain ⟨hpoll, -⟩ := pollUARTs_link cfg input (beforePoll cfg input s)
  exact (receive_turn cfg input s).same
    (hhandle.trans ⟨hpoll.tcpServer_eq, hpoll.client_eq, hpoll.rxBuff_eq⟩)

/-- **What the pass put on the connection.** -/
theorem loop_puts (hp : s.loop cfg input = some p) :
    Puts cfg input p.state.tcpClientState p.state.txBuff p.sent := by
  obtain ⟨hstate, hresult⟩ := loop_poll hp
  obtain ⟨hlink, hputs⟩ := pollUARTs_link cfg input (beforePoll cfg input s)
  rw [← hstate] at hlink hputs
  rw [← hresult, ← hlink.client_eq] at hputs
  exact hputs

end UartBridge
