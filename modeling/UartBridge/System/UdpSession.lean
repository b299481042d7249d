import UartBridge.Lib.Run
import UartBridge.Lib.Serial
import UartBridge.Client.UDPTransport
import UartBridge.Firmware.UDPServer
import UartBridge.System.Package
import UartBridge.System.UdpSequence

/-!
# A UDP session over a perfect network

One TCP session with the firmware's UDP server started: the client's current
`UDPConnection`, the firmware's `UDPServer`, and the datagrams on their way in
each direction, delivered once each and in order. Every package is filled,
sealed, sent, copied into the receiver's buffer and checked there by the code of
both sides.

* `readPacket_sealed`, `receivePackage_sealed`, `stampPackage_sealed`,
  `processTX_sealed` — what each side does with a package that arrives as sent;
* `Uplink`, `Downlink`, `session_run` — the counters of both ends and the
  packages under way, over every schedule;
* `fresh_session_iff` — from the very first package on, the downlink loses
  nothing, and the uplink loses its first two packages.
-/

namespace UartBridge.UdpSession

open SerialNumber EventRun Client Firmware

inductive Direction where
  | uplink | downlink
  deriving DecidableEq, Repr

/-- A datagram sent or received. The port is the client's end: the source of an
uplink datagram, the destination of a downlink one. -/
inductive Entry where
  | sent (d : Direction) (port : UInt16)
  | received (d : Direction) (port : UInt16) (passed : Bool)
  deriving DecidableEq, Repr

structure Session where
  client : UDPConnection
  clientPort : UInt16
  clientRxBuff : Nat → UInt8
  firmware : UDPServer.RxState
  upQueue : List Packet
  downQueue : List SentPacket
  log : List Entry

inductive Event where
  /-- `OnSendPackage` with these contents in the client's `txBuff`. -/
  | sendUp (txBuff : Nat → UInt8)
  /-- A pass of the firmware loop without a TCP event, at this time. -/
  | deliverUp (millis : UInt32)
  /-- `UDPServer::ProcessTX` with these contents in the firmware's `txBuff`. -/
  | sendDown (txBuff : Nat → UInt8)
  /-- `recvmsg` in the client's worker. -/
  | deliverDown

/-- Whether an event of the loop carries a new request. -/
def isNewRequest : ClientEvent → Bool
  | .NewRequest _ => true
  | _ => false

/-- One send or one delivery. A queue's oldest datagram is delivered; firmware
packages for another port do not reach the client's socket. -/
def step (D : Deployment) (s : Session) : Event → Option Session
  | .sendUp txBuff =>
    let stamped := s.client.stampPackage D.config txBuff
    let packet := { bytes := UDPConnection.packageBytes D.config stamped.2
                    remotePort := s.clientPort }
    some { s with client := stamped.1, upQueue := s.upQueue ++ [packet]
                  log := s.log ++ [.sent .uplink s.clientPort] }
  | .deliverUp millis =>
    match s.upQueue with
    | [] => none
    | packet :: rest =>
      let r := UDPServer.processRX D.cfg.packageSize D.cfg.metaSz true (some packet) millis
        (.NoEvent false) s.firmware
      some { s with firmware := r.1, upQueue := rest
                    log := s.log ++ [.received .uplink packet.remotePort (isNewRequest r.2)] }
  | .sendDown txBuff =>
    let r := s.firmware.server.processTX D.cfg.packageSize D.cfg.metaSz true txBuff
    match r.2.2 with
    | none => some { s with firmware := { s.firmware with server := r.1 } }
    | some packet =>
      some { s with firmware := { s.firmware with server := r.1 }
                    downQueue := s.downQueue ++ [packet]
                    log := s.log ++ [.sent .downlink packet.port] }
  | .deliverDown =>
    match s.downQueue with
    | [] => none
    | packet :: rest =>
      if packet.port ≠ s.clientPort then some { s with downQueue := rest }
      else
        let r := s.client.receivePackage D.config packet.bytes s.clientRxBuff
        some { s with client := r.1, clientRxBuff := r.2.1, downQueue := rest
                      log := s.log ++ [.received .downlink packet.port r.2.2] }

/-- The session right after a TCP connect: the firmware's `Connected` event has
reset the UDP server and the first request has started it at `udpPort`; the
client has made a new connection to that port, from the local port `clientPort`.
Nothing is assumed about what was there before. -/
def start (D : Deployment) (before : UDPServer.RxState) (clientRxBuff : Nat → UInt8)
    (remoteAddr : UInt32) (udpPort clientPort : UInt16) (fd : Nat) : Session :=
  let connected := (UDPServer.processRX D.cfg.packageSize D.cfg.metaSz true none 0
    (.Connected remoteAddr) before).1
  let started := (UDPServer.processRX D.cfg.packageSize D.cfg.metaSz true none 0
    (.NewRequest (.udpPort udpPort)) connected).1
  { client := UDPConnection.create fd udpPort, clientPort := clientPort
    clientRxBuff := clientRxBuff, firmware := started, upQueue := [], downQueue := [], log := [] }

/-! ## What a receiver does with a sealed package -/

/-- The firmware checks only the number of a sealed package. -/
theorem readPacket_sealed (D : Deployment) {header : UInt16} {packet : Packet}
    (h : Sealed D.cfg.metaSz D.cfg.packageSize header packet.bytes) (millis : UInt32)
    (s : UDPServer.RxState) :
    isNewRequest (UDPServer.readPacket D.cfg.packageSize D.cfg.metaSz (some packet) millis s).2 =
        newer s.server.serverSeq header ∧
      (UDPServer.readPacket D.cfg.packageSize D.cfg.metaSz (some packet) millis s).1.server =
        if newer s.server.serverSeq header then
          { s.server with
            serverSeq := header
            clientUDPPort :=
              if s.server.clientUDPPort < 1 then packet.remotePort else s.server.clientUDPPort }
        else s.server := by
  have hpos := D.metaSz_lt_packageSize
  have htake : packet.bytes.take D.cfg.packageSize = packet.bytes :=
    List.take_of_length_le (Nat.le_of_eq h.length_eq)
  have hlen : ¬ packet.bytes.length < 1 := by rw [h.length_eq]; omega
  have hcheck : ¬ (packet.bytes.length ≠ D.cfg.packageSize ∨
      Firmware.crc8 (ByteMem.read (ByteMem.write s.rxBuff 0 packet.bytes) 0 D.cfg.metaSz) ≠
        ByteMem.write s.rxBuff 0 packet.bytes D.cfg.metaSz) := by
    rw [not_or, not_not, not_not]
    exact ⟨h.length_eq, h.checksum s.rxBuff⟩
  have hdrop : s.server.dropOldSeq (ByteMem.write s.rxBuff 0 packet.bytes) =
      if newer s.server.serverSeq header then ({ s.server with serverSeq := header }, false)
      else (s.server, true) := by
    unfold UDPServer.dropOldSeq newer
    rw [h.header_eq]
    by_cases hahead : header - s.server.serverSeq < s.server.serverSeq - header
    · simp [hahead]
    · simp [hahead]
  simp only [UDPServer.readPacket, htake, if_neg hlen, if_neg hcheck, hdrop]
  by_cases hahead : newer s.server.serverSeq header = true
  · by_cases hport : s.server.clientUDPPort < 1
    · simp [hahead, hport, isNewRequest]
    · simp [hahead, hport, isNewRequest]
  · simp [hahead, isNewRequest]

/-- The client checks only the number of a sealed package. -/
theorem receivePackage_sealed (D : Deployment) {header : UInt16} {datagram : List UInt8}
    (h : Sealed D.cfg.metaSz D.cfg.packageSize header datagram) (rxBuff : Nat → UInt8)
    (c : UDPConnection) :
    ((c.receivePackage D.config datagram rxBuff).1.rxSeq,
        (c.receivePackage D.config datagram rxBuff).2.2) = accept c.rxSeq header := by
  have htake : datagram.take D.cfg.packageSize = datagram :=
    List.take_of_length_le (Nat.le_of_eq h.length_eq)
  have hlen : ¬ datagram.length ≠ D.cfg.packageSize := not_not.mpr h.length_eq
  have hsum : ¬ ByteMem.write rxBuff 0 datagram D.cfg.metaSz ≠
      Client.crc8 (ByteMem.read (ByteMem.write rxBuff 0 datagram) 0 D.cfg.metaSz) :=
    not_not.mpr (h.checksum rxBuff).symm
  simp only [UDPConnection.receivePackage, D.metaSz_eq, D.packageSize_eq, htake, if_neg hlen,
    if_neg hsum, h.header_eq]
  exact (UdpSequence.rxSeqCheckIncrement_eq_accept c header).symm

/-- Receiving never changes the numbers the client sends under. -/
theorem receivePackage_txSeq (config : Config) (datagram : List UInt8) (rxBuff : Nat → UInt8)
    (c : UDPConnection) : (c.receivePackage config datagram rxBuff).1.txSeq = c.txSeq := by
  unfold UDPConnection.receivePackage
  dsimp only
  split
  · rfl
  · split
    · rfl
    · unfold UDPConnection.rxSeqCheckIncrement
      split <;> rfl

/-- The client's packages are sealed under consecutive numbers. -/
theorem stampPackage_sealed (D : Deployment) (txBuff : Nat → UInt8) (c : UDPConnection) :
    Sealed D.cfg.metaSz D.cfg.packageSize c.txSeq
        (UDPConnection.packageBytes D.config (c.stampPackage D.config txBuff).2) ∧
      (c.stampPackage D.config txBuff).1 = { c with txSeq := c.txSeq + 1 } := by
  have hseal := sealed_read c.txSeq txBuff (Nat.le_of_lt D.header_lt_metaSz)
    D.metaSz_lt_packageSize
  rw [← D.metaSz_eq, ← D.packageSize_eq] at hseal ⊢
  exact ⟨hseal, rfl⟩

/-- The firmware's packages are sealed under consecutive numbers, and addressed
to the port recorded. Without a port recorded nothing is sent. -/
theorem processTX_sealed (D : Deployment) (txBuff : Nat → UInt8) (s : UDPServer) :
    (s.processTX D.cfg.packageSize D.cfg.metaSz true txBuff).2.2 = none ∧
        (s.processTX D.cfg.packageSize D.cfg.metaSz true txBuff).1 = s ∨
      ∃ packet, (s.processTX D.cfg.packageSize D.cfg.metaSz true txBuff).2.2 = some packet ∧
        (s.processTX D.cfg.packageSize D.cfg.metaSz true txBuff).1 =
          { s with clientSeq := s.clientSeq + 1 } ∧
        Sealed D.cfg.metaSz D.cfg.packageSize s.clientSeq packet.bytes ∧
        packet.port = s.clientUDPPort ∧ ¬ s.clientUDPPort < 1 := by
  unfold UDPServer.processTX
  by_cases hsend : (!s.serverStarted || s.clientUDPPort < 1 || !true) = true
  · rw [if_pos hsend]
    exact Or.inl ⟨rfl, rfl⟩
  · rw [if_neg hsend]
    have hport : ¬ s.clientUDPPort < 1 := by
      intro hlt
      simp [hlt] at hsend
    exact Or.inr ⟨_, rfl, rfl, sealed_read s.clientSeq txBuff (Nat.le_of_lt D.header_lt_metaSz)
      D.metaSz_lt_packageSize, rfl, hport⟩

/-! ## Counting the log -/

/-- How many datagrams were sent in a direction. -/
def sentCount (d : Direction) (log : List Entry) : Nat :=
  log.countP fun
    | .sent d' _ => d' = d
    | .received _ _ _ => false

/-- What the receiver of a direction said to the datagrams it got. -/
def flags (d : Direction) (log : List Entry) : List Bool :=
  log.filterMap fun
    | .sent _ _ => none
    | .received d' _ passed => if d' = d then some passed else none

/-- Every package sent in a direction passed the receiver's check. -/
def AllPassed (d : Direction) (log : List Entry) : Prop :=
  flags d log = List.replicate (sentCount d log) true

variable {d : Direction} {log : List Entry}

@[simp] theorem sentCount_sent (d' : Direction) (port : UInt16) :
    sentCount d (log ++ [.sent d' port]) = sentCount d log + if d' = d then 1 else 0 := by
  by_cases h : d' = d
  · simp [sentCount, h]
  · simp [sentCount, h]

@[simp] theorem sentCount_received (d' : Direction) (port : UInt16) (passed : Bool) :
    sentCount d (log ++ [.received d' port passed]) = sentCount d log := by
  simp [sentCount]

@[simp] theorem flags_sent (d' : Direction) (port : UInt16) :
    flags d (log ++ [.sent d' port]) = flags d log := by
  simp [flags]

@[simp] theorem flags_received (d' : Direction) (port : UInt16) (passed : Bool) :
    flags d (log ++ [.received d' port passed]) =
      flags d log ++ if d' = d then [passed] else [] := by
  by_cases h : d' = d
  · simp [flags, h]
  · simp [flags, h]

/-! ## The uplink -/

/-- The uplink of a fresh session: client numbers start at `0xFFFF`, the
firmware's last number at that of the second package. -/
structure Uplink (D : Deployment) (s : Session) : Prop where
  started : s.firmware.server.serverStarted = true
  txSeq_eq : s.client.txSeq = numberOf 0xFFFF (sentCount .uplink s.log)
  sent_eq : sentCount .uplink s.log = (flags .uplink s.log).length + s.upQueue.length
  queue : Numbered (fun number packet =>
      Sealed D.cfg.metaSz D.cfg.packageSize number packet.bytes ∧
        packet.remotePort = s.clientPort)
    0xFFFF (flags .uplink s.log).length s.upQueue
  serverSeq_eq : s.firmware.server.serverSeq =
    numberOf 0xFFFF (max 1 ((flags .uplink s.log).length - 1))
  flags_eq : flags .uplink s.log =
    (List.range (flags .uplink s.log).length).map fun i => decide (2 ≤ i)

variable {D : Deployment} {s t : Session}

theorem Uplink.sendUp (h : Uplink D s) {txBuff : Nat → UInt8}
    (hstep : step D s (.sendUp txBuff) = some t) : Uplink D t := by
  obtain ⟨hsealed, hclient⟩ := stampPackage_sealed D txBuff s.client
  simp only [step, Option.some.injEq] at hstep
  subst hstep
  have hnumber : s.client.txSeq =
      numberOf 0xFFFF ((flags .uplink s.log).length + s.upQueue.length) := by
    rw [h.txSeq_eq, h.sent_eq, Int.natCast_add]
  refine ⟨h.started, ?_, ?_, ?_, ?_, ?_⟩
  · simp only [hclient, sentCount_sent, if_true, Int.natCast_add, Int.natCast_one,
      numberOf_succ, h.txSeq_eq]
  · simp only [sentCount_sent, if_true, flags_sent, List.length_append, List.length_singleton,
      h.sent_eq]
    omega
  · simp only [flags_sent]
    exact h.queue.concat ⟨hnumber ▸ hsealed, rfl⟩
  · simpa only [flags_sent] using h.serverSeq_eq
  · simpa only [flags_sent] using h.flags_eq

/-- Package `a` is the last accepted one's successor, or one of the first two. -/
theorem newer_uplink (a : Nat) :
    newer (numberOf 0xFFFF (max 1 ((a : Int) - 1))) (numberOf 0xFFFF a) = decide (2 ≤ a) := by
  have h := newer_numberOf 0xFFFF a (max 1 ((a : Int) - 1)) (by omega) (by omega)
  rw [Bool.eq_iff_iff, h, decide_eq_true_iff]
  omega

theorem Uplink.deliverUp (h : Uplink D s) {millis : UInt32}
    (hstep : step D s (.deliverUp millis) = some t) : Uplink D t := by
  simp only [step] at hstep
  cases hqueue : s.upQueue with
  | nil => rw [hqueue] at hstep; cases hstep
  | cons packet rest =>
    have hcount := h.sent_eq
    have hq := h.queue
    rw [hqueue] at hstep hcount hq
    rw [List.length_cons] at hcount
    obtain ⟨hpassed, hserver⟩ := readPacket_sealed D hq.1.1 millis s.firmware
    rw [h.serverSeq_eq, newer_uplink] at hpassed hserver
    simp only [UDPServer.processRX_started h.started, hpassed, Option.some.injEq] at hstep
    subst hstep
    have hlen : (flags .uplink s.log ++ [decide (2 ≤ (flags .uplink s.log).length)]).length =
        (flags .uplink s.log).length + 1 := by simp
    refine ⟨?_, ?_, ?_, ?_, ?_, ?_⟩
    · simp only [hserver]
      split
      · exact h.started
      · exact h.started
    · simpa only [sentCount_received] using h.txSeq_eq
    · simp only [sentCount_received, flags_received, if_true, hlen]
      omega
    · simp only [flags_received, if_true, hlen, Int.natCast_add, Int.natCast_one]
      exact hq.2
    · simp only [hserver, flags_received, if_true, hlen]
      by_cases htwo : 2 ≤ (flags .uplink s.log).length
      · simp only [htwo, decide_true, if_true]
        congr 1
        omega
      · simp only [htwo, decide_false, Bool.false_eq_true, if_false, h.serverSeq_eq]
        congr 1
        omega
    · simp only [flags_received, if_true, hlen, List.range_succ, List.map_append,
        List.map_singleton]
      rw [← h.flags_eq]

/-- The other direction does not touch the uplink. -/
theorem Uplink.sendDown (h : Uplink D s) {txBuff : Nat → UInt8}
    (hstep : step D s (.sendDown txBuff) = some t) : Uplink D t := by
  simp only [step] at hstep
  rcases processTX_sealed D txBuff s.firmware.server with ⟨hnone, hsame⟩ |
    ⟨packet, hsome, hserver, -⟩
  · rw [hnone, Option.some.injEq] at hstep
    subst hstep
    rw [hsame]
    exact h
  · rw [hsome, Option.some.injEq] at hstep
    subst hstep
    refine ⟨?_, ?_, ?_, ?_, ?_, ?_⟩
    · simpa only [hserver] using h.started
    · simpa using h.txSeq_eq
    · simpa using h.sent_eq
    · simpa using h.queue
    · simpa only [hserver, flags_sent] using h.serverSeq_eq
    · simpa using h.flags_eq

theorem Uplink.deliverDown (h : Uplink D s) (hstep : step D s .deliverDown = some t) :
    Uplink D t := by
  simp only [step] at hstep
  cases hqueue : s.downQueue with
  | nil => rw [hqueue] at hstep; cases hstep
  | cons packet rest =>
    rw [hqueue] at hstep
    by_cases hport : packet.port ≠ s.clientPort
    · simp only [if_pos hport, Option.some.injEq] at hstep
      subst hstep
      exact ⟨h.started, h.txSeq_eq, h.sent_eq, h.queue, h.serverSeq_eq, h.flags_eq⟩
    · simp only [if_neg hport, Option.some.injEq] at hstep
      subst hstep
      refine ⟨h.started, ?_, ?_, ?_, ?_, ?_⟩
      · simpa [receivePackage_txSeq] using h.txSeq_eq
      · simpa using h.sent_eq
      · simpa using h.queue
      · simpa using h.serverSeq_eq
      · simpa using h.flags_eq

/-! ## The downlink -/

/-- The downlink of a fresh session: firmware numbers start at 0, the client's
last number at that of the package before the first; and the firmware can only
have recorded the port of the client's socket. -/
structure Downlink (D : Deployment) (s : Session) : Prop where
  port : ¬ s.firmware.server.clientUDPPort < 1 →
    s.firmware.server.clientUDPPort = s.clientPort
  clientSeq_eq : s.firmware.server.clientSeq = numberOf 0 (sentCount .downlink s.log)
  sent_eq : sentCount .downlink s.log = (flags .downlink s.log).length + s.downQueue.length
  queue : Numbered (fun number packet =>
      Sealed D.cfg.metaSz D.cfg.packageSize number packet.bytes ∧ packet.port = s.clientPort)
    0 (flags .downlink s.log).length s.downQueue
  rxSeq_eq : s.client.rxSeq = numberOf 0 ((flags .downlink s.log).length - 1)
  flags_eq : flags .downlink s.log = List.replicate (flags .downlink s.log).length true

theorem Downlink.sendDown (h : Downlink D s) {txBuff : Nat → UInt8}
    (hstep : step D s (.sendDown txBuff) = some t) : Downlink D t := by
  simp only [step] at hstep
  rcases processTX_sealed D txBuff s.firmware.server with ⟨hnone, hsame⟩ |
    ⟨packet, hsome, hserver, hsealed, hto, hknown⟩
  · rw [hnone, Option.some.injEq] at hstep
    subst hstep
    rw [hsame]
    exact h
  · rw [hsome, Option.some.injEq] at hstep
    subst hstep
    have hnumber : s.firmware.server.clientSeq =
        numberOf 0 ((flags .downlink s.log).length + s.downQueue.length) := by
      rw [h.clientSeq_eq, h.sent_eq, Int.natCast_add]
    refine ⟨?_, ?_, ?_, ?_, ?_, ?_⟩
    · simpa only [hserver] using h.port
    · simp only [hserver, sentCount_sent, if_true, Int.natCast_add, Int.natCast_one,
        numberOf_succ, h.clientSeq_eq]
    · simp only [sentCount_sent, if_true, flags_sent, List.length_append, List.length_singleton,
        h.sent_eq]
      omega
    · simp only [flags_sent]
      exact h.queue.concat ⟨hnumber ▸ hsealed, hto.trans (h.port hknown)⟩
    · simpa only [flags_sent] using h.rxSeq_eq
    · simpa only [flags_sent] using h.flags_eq

theorem Downlink.deliverDown (h : Downlink D s) (hstep : step D s .deliverDown = some t) :
    Downlink D t := by
  simp only [step] at hstep
  cases hqueue : s.downQueue with
  | nil => rw [hqueue] at hstep; cases hstep
  | cons packet rest =>
    have hcount := h.sent_eq
    have hq := h.queue
    rw [hqueue] at hstep hcount hq
    rw [List.length_cons] at hcount
    have hreceive := receivePackage_sealed D hq.1.1 s.clientRxBuff s.client
    have hahead : newer s.client.rxSeq (numberOf 0 (flags .downlink s.log).length) = true := by
      rw [h.rxSeq_eq, newer_numberOf _ _ _ (by omega) (by omega)]
      omega
    rw [accept, hahead, if_pos rfl, Prod.mk.injEq] at hreceive
    simp only [hq.1.2, ne_eq, not_true_eq_false, if_false, Option.some.injEq] at hstep
    subst hstep
    have hlen : (flags .downlink s.log ++ [true]).length = (flags .downlink s.log).length + 1 := by
      simp
    refine ⟨h.port, ?_, ?_, ?_, ?_, ?_⟩
    · simpa only [sentCount_received] using h.clientSeq_eq
    · simp only [sentCount_received, flags_received, if_true, hreceive.2, hlen]
      omega
    · simp only [flags_received, if_true, hreceive.2, hlen, Int.natCast_add, Int.natCast_one]
      exact hq.2
    · simp only [flags_received, if_true, hreceive.2, hlen, hreceive.1]
      congr 1
      omega
    · simp only [flags_received, if_true, hreceive.2, hlen, List.replicate_succ']
      rw [← h.flags_eq]

theorem Downlink.sendUp (h : Downlink D s) {txBuff : Nat → UInt8}
    (hstep : step D s (.sendUp txBuff) = some t) : Downlink D t := by
  have hclient := (stampPackage_sealed D txBuff s.client).2
  simp only [step, Option.some.injEq] at hstep
  subst hstep
  refine ⟨h.port, ?_, ?_, ?_, ?_, ?_⟩
  · simpa using h.clientSeq_eq
  · simpa using h.sent_eq
  · simpa using h.queue
  · simpa [hclient] using h.rxSeq_eq
  · simpa using h.flags_eq

/-- An uplink package can record the client's port, and nothing else that the
downlink depends on changes. -/
theorem Downlink.deliverUp (h : Downlink D s) (hup : Uplink D s) {millis : UInt32}
    (hstep : step D s (.deliverUp millis) = some t) : Downlink D t := by
  simp only [step] at hstep
  cases hqueue : s.upQueue with
  | nil => rw [hqueue] at hstep; cases hstep
  | cons packet rest =>
    have hq := hup.queue
    rw [hqueue] at hstep hq
    obtain ⟨-, hserver⟩ := readPacket_sealed D hq.1.1 millis s.firmware
    simp only [UDPServer.processRX_started hup.started, Option.some.injEq] at hstep
    subst hstep
    refine ⟨?_, ?_, ?_, ?_, ?_, ?_⟩
    · simp only [hserver]
      split
      · show ¬ (if s.firmware.server.clientUDPPort < 1 then packet.remotePort
            else s.firmware.server.clientUDPPort) < 1 → _ = s.clientPort
        split
        · exact fun _ => hq.1.2
        · exact h.port
      · exact h.port
    · simp only [hserver, sentCount_received]
      split
      · exact h.clientSeq_eq
      · exact h.clientSeq_eq
    · simpa using h.sent_eq
    · simpa using h.queue
    · simpa using h.rxSeq_eq
    · simpa using h.flags_eq

/-! ## Whole sessions -/

/-- Both directions, after any schedule of sends and deliveries. -/
theorem session_run {es : List Event} (hrun : exec (step D) s es = some t)
    (hup : Uplink D s) (hdown : Downlink D s) : Uplink D t ∧ Downlink D t := by
  refine exec_invariant (fun u => Uplink D u ∧ Downlink D u) ?_ ⟨hup, hdown⟩ hrun
  rintro u e v ⟨hup, hdown⟩ hstep
  cases e with
  | sendUp txBuff => exact ⟨hup.sendUp hstep, hdown.sendUp hstep⟩
  | deliverUp millis => exact ⟨hup.deliverUp hstep, hdown.deliverUp hup hstep⟩
  | sendDown txBuff => exact ⟨hup.sendDown hstep, hdown.sendDown hstep⟩
  | deliverDown => exact ⟨hup.deliverDown hstep, hdown.deliverDown hstep⟩

/-- The session right after the connect is fresh in both directions, whatever
the firmware's server did before. -/
theorem start_fresh (D : Deployment) (before : UDPServer.RxState) (clientRxBuff : Nat → UInt8)
    (remoteAddr : UInt32) (udpPort clientPort : UInt16) (fd : Nat) (hport : 0 < udpPort) :
    Uplink D (start D before clientRxBuff remoteAddr udpPort clientPort fd) ∧
      Downlink D (start D before clientRxBuff remoteAddr udpPort clientPort fd) := by
  have hserver : (start D before clientRxBuff remoteAddr udpPort clientPort fd).firmware.server =
      { clientAddr := remoteAddr, serverSeq := 0, clientUDPPort := 0, clientSeq := 0
        serverStarted := true } := by
    simp [start, UDPServer.processRX, hport]
  have hfirst : numberOf 0xFFFF (max 1 (((0 : Nat) : Int) - 1)) = 0 := by decide
  have hlast : numberOf 0 (((0 : Nat) : Int) - 1) = 0xFFFF := by decide
  refine ⟨⟨?_, (numberOf_zero 0xFFFF).symm, rfl, trivial, ?_, rfl⟩,
    ⟨?_, ?_, rfl, trivial, hlast.symm, rfl⟩⟩
  · rw [hserver]
  · rw [hserver]
    exact hfirst.symm
  · rw [hserver]
    exact fun hknown => absurd (show (0 : UInt16) < 1 by decide) hknown
  · rw [hserver]
    exact (numberOf_zero 0).symm

/-- A flag list that starts with two rejections passes only when it is empty. -/
theorem range_flags_eq_replicate (n : Nat) :
    (List.range n).map (fun i => decide (2 ≤ i)) = List.replicate n true ↔ n = 0 := by
  constructor
  · intro h
    cases n with
    | zero => rfl
    | succ m =>
      have hhead := congrArg List.head? h
      simp [List.range_succ_eq_map, List.replicate_succ] at hhead
  · rintro rfl
    rfl

/-- Once everything is delivered, the downlink is complete and the uplink lacks
its first two packages. -/
theorem allPassed_iff (hup : Uplink D s) (hdown : Downlink D s)
    (delivered : s.upQueue = [] ∧ s.downQueue = []) (d : Direction) :
    AllPassed d s.log ↔ d = .downlink ∨ sentCount d s.log = 0 := by
  cases d with
  | downlink =>
    have hcount := hdown.sent_eq
    rw [delivered.2, List.length_nil, Nat.add_zero] at hcount
    refine ⟨fun _ => Or.inl rfl, ?_⟩
    intro _
    rw [AllPassed, hcount]
    exact hdown.flags_eq
  | uplink =>
    have hcount := hup.sent_eq
    rw [delivered.1, List.length_nil, Nat.add_zero] at hcount
    rw [AllPassed, hcount, hup.flags_eq, List.length_map, List.length_range,
      range_flags_eq_replicate]
    simp

/-- **A fresh session loses exactly the first two uplink packages.** For every
schedule in which everything sent has been delivered, the packages of a
direction all passed if and only if it is the downlink or none was sent. -/
theorem fresh_session_iff (D : Deployment) (before : UDPServer.RxState)
    (clientRxBuff : Nat → UInt8) (remoteAddr : UInt32) (udpPort clientPort : UInt16) (fd : Nat)
    (hport : 0 < udpPort) (es : List Event) (s : Session)
    (hrun : exec (step D) (start D before clientRxBuff remoteAddr udpPort clientPort fd) es =
      some s)
    (delivered : s.upQueue = [] ∧ s.downQueue = []) (d : Direction) :
    AllPassed d s.log ↔ d = .downlink ∨ sentCount d s.log = 0 := by
  obtain ⟨hup, hdown⟩ := start_fresh D before clientRxBuff remoteAddr udpPort clientPort fd hport
  obtain ⟨hup, hdown⟩ := session_run hrun hup hdown
  exact allPassed_iff hup hdown delivered d

/-- A client and the smaller board. -/
def avrPro : Deployment := Deployment.matching Firmware.Configuration.avrPro true 4096

/-- A session of the smaller board, from a firmware that was just switched on. -/
def avrProStart : Session :=
  start avrPro
    { server := UDPServer.create, rxBuff := fun _ => 0
      alarmTimer := { startTime := 0, interval := 1000 } }
    (fun _ => 0) 0x0A000001 49152 40000 3

/-- Three packages are sent up and delivered, and then two are sent down. -/
def bothWays : List Event :=
  let up := [.sendUp fun _ => 0, .deliverUp 0]
  let down := [.sendDown fun _ => 0, .deliverDown]
  up ++ up ++ up ++ down ++ down

def afterBothWays : Session := (exec (step avrPro) avrProStart bothWays).getD avrProStart

/-- The third package is the first one that passes, and makes the firmware answer; both its
packages pass. -/
theorem fresh_session_bothWays :
    ¬ AllPassed .uplink afterBothWays.log ∧ AllPassed .downlink afterBothWays.log ∧
      flags .uplink afterBothWays.log = [false, false, true] ∧
      flags .downlink afterBothWays.log = [true, true] := by
  have hthrough : (exec (step avrPro) avrProStart bothWays).isSome = true := by decide +kernel
  have hdelivered : afterBothWays.upQueue.isEmpty = true ∧
      afterBothWays.downQueue.isEmpty = true := by decide +kernel
  have hcount : sentCount .uplink afterBothWays.log = 3 := by decide +kernel
  have h := fresh_session_iff avrPro _ _ _ 49152 40000 3 (by decide) bothWays afterBothWays
    (exec_eq_some_getD hthrough)
    ⟨List.isEmpty_iff.mp hdelivered.1, List.isEmpty_iff.mp hdelivered.2⟩
  refine ⟨?_, (h .downlink).mpr (Or.inl rfl), by decide +kernel, by decide +kernel⟩
  intro hpassed
  rcases (h .uplink).mp hpassed with hdir | hnone
  · cases hdir
  · rw [hcount] at hnone
    cases hnone

/-- One package sent up and delivered. -/
def onePackage : List Event := [.sendUp fun _ => 0, .deliverUp 0]

def afterOnePackage : Session := (exec (step avrPro) avrProStart onePackage).getD avrProStart

theorem run_onePackage : exec (step avrPro) avrProStart onePackage = some afterOnePackage := rfl

/-- The very first uplink package of a session does not pass. -/
theorem first_uplink_package_dropped :
    ¬ ∀ (es : List Event) (s : Session), exec (step avrPro) avrProStart es = some s →
      s.upQueue = [] ∧ s.downQueue = [] → ∀ d, AllPassed d s.log := by
  intro hall
  have hpassed := hall onePackage afterOnePackage run_onePackage ⟨rfl, rfl⟩ .uplink
  obtain ⟨hup, hdown⟩ := start_fresh avrPro
    { server := UDPServer.create, rxBuff := fun _ => 0
      alarmTimer := { startTime := 0, interval := 1000 } }
    (fun _ => 0) 0x0A000001 49152 40000 3 (by decide)
  obtain ⟨hup, hdown⟩ := session_run run_onePackage hup hdown
  rcases (allPassed_iff hup hdown ⟨rfl, rfl⟩ .uplink).mp hpassed with hdir | hcount
  · cases hdir
  · cases hcount

end UartBridge.UdpSession
