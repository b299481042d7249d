import UartBridge.Lib.Run
import UartBridge.Firmware.MainLoop
import UartBridge.System.Channel

/-!
# A pass of the firmware's loop on a live TCP connection

While the connection stays up and the UDP server was not started, a pass takes
some bytes from the stream, hands a complete package to the workers, and at most
sends one package.

* `receive_spec` — the two servers' turn, in terms of the uplink channel;
* `pollUARTs_spec` — what is sent carries the responses just written;
* `loop_spec` — the whole pass.
-/

namespace UartBridge

open Client Firmware

variable {size : Nat}

/-- One worker a port, and none has collected more than a slot holds. -/
structure WorkersOk (cfg : Configuration) (s : MainLoop size) : Prop where
  workers_len : s.uartWorker.length = cfg.uartCount
  used_le : ∀ w ∈ s.uartWorker, w.txUsedSz ≤ cfg.dataPayloadSize

/-- The state in which the loop serves a TCP connection without UDP. -/
structure Serving (cfg : Configuration) (s : MainLoop size) : Prop extends WorkersOk cfg s where
  connected : s.tcpServer.connected = true
  client : s.tcpClientState = true
  udp_off : s.udpServer.serverStarted = false

/-- The connection stays up in this pass, `read` returns at least a byte, and the
bytes that have arrived are the next ones of the stream. -/
structure Alive (s : MainLoop size) (input : LoopInput) (stream : List UInt8) : Prop where
  quiet : s.alarmTimer.alarmTriggered input.millis = false
  connected : input.tcp.connected = true
  readSz_pos : 0 < input.tcp.readSz
  arrived : input.tcp.available <+: stream

/-- What the workers receive in a pass with this event. -/
def requested (cfg : Configuration) (event : ClientEvent) (rxBuff : Nat → UInt8) (i : Nat) :
    List UInt8 :=
  match event with
  | .NewRequest _ => uplinkData cfg i rxBuff
  | .NoEvent _ | .Connected _ | .Disconnected _ => []

/-! ## Receiving -/

/-- The next bytes of the stream, as `read` returns them. -/
theorem readBytes_eq_take {input : TcpInput} {stream : List UInt8}
    (harrived : input.available <+: stream) (pkgLeft : Nat) :
    let k := (TCPServer.readBytes input pkgLeft).length
    TCPServer.readBytes input pkgLeft = stream.take k ∧ k ≤ stream.length ∧ k ≤ pkgLeft := by
  obtain ⟨rest, rfl⟩ := harrived
  have hlen : (TCPServer.readBytes input pkgLeft).length =
      min input.readSz (min pkgLeft input.available.length) := by
    simp [TCPServer.readBytes]
  refine ⟨?_, ?_, ?_⟩
  · rw [hlen, List.take_append_of_le_length (by omega), TCPServer.readBytes, List.take_take]
    by_cases hshort : min input.readSz pkgLeft ≤ input.available.length
    · congr 1
      omega
    · rw [List.take_of_length_le (by omega), List.take_of_length_le (by omega)]
  · rw [hlen, List.length_append]
    omega
  · omega

/-- **The two servers' turn.** The event is a new request exactly when a package
is complete, and then the workers' data is what is next in the channel. -/
theorem receive_spec {D : Deployment} {s : MainLoop size} {input : LoopInput}
    {stream : List UInt8} {sent handed : Nat → List UInt8} (hserving : Serving D.cfg s)
    (halive : Alive s input stream)
    (hchannel : Channel D (uplinkData D.cfg) s.rxBuff s.tcpServer.pkgLeft stream sent handed) :
    let r := s.receive D.cfg input
    Serving D.cfg r.1 ∧ r.1.uartWorker = s.uartWorker ∧
      Channel D (uplinkData D.cfg) r.1.rxBuff r.1.tcpServer.pkgLeft (stream.drop r.2.2) sent
        fun i => handed i ++ requested D.cfg r.2.1 r.1.rxBuff i := by
  -- without a package the servers keep the event, and only the reader has moved
  have hidle (reading : Bool) (server : TCPServer) (rxBuff : Nat → UInt8) (consumed : Nat)
      (hserver : server.connected = true)
      (hr : TCPServer.processRX D.cfg.packageSize D.cfg.metaSz input.tcp input.millis
          { server := s.tcpServer, rxBuff := s.rxBuff, alarmTimer := s.alarmTimer } =
        ({ server := server, rxBuff := rxBuff, alarmTimer := s.alarmTimer },
          .NoEvent reading, consumed))
      (hnext : Channel D (uplinkData D.cfg) rxBuff server.pkgLeft (stream.drop consumed) sent
        handed) :
      let r := s.receive D.cfg input
      Serving D.cfg r.1 ∧ r.1.uartWorker = s.uartWorker ∧
        Channel D (uplinkData D.cfg) r.1.rxBuff r.1.tcpServer.pkgLeft (stream.drop r.2.2) sent
          fun i => handed i ++ requested D.cfg r.2.1 r.1.rxBuff i := by
    simp only [MainLoop.receive, hr, MainLoop.controlEvent, UDPServer.processRX,
      hserving.udp_off, Bool.not_false, Bool.true_or, if_true, requested, List.append_nil]
    exact ⟨⟨⟨hserving.workers_len, hserving.used_le⟩, hserver, hserving.client, hserving.udp_off⟩,
      trivial, hnext⟩
  have hstart : TCPServer.processRX D.cfg.packageSize D.cfg.metaSz input.tcp input.millis
      { server := s.tcpServer, rxBuff := s.rxBuff, alarmTimer := s.alarmTimer } =
      if input.tcp.available.length < 1 then
        ({ server := s.tcpServer, rxBuff := s.rxBuff, alarmTimer := s.alarmTimer },
          .NoEvent (s.tcpServer.pkgLeft < D.cfg.packageSize), 0)
      else TCPServer.readPackage D.cfg.packageSize D.cfg.metaSz input.tcp input.millis
        { server := s.tcpServer, rxBuff := s.rxBuff, alarmTimer := s.alarmTimer } := by
    simp [TCPServer.processRX, hserving.connected, halive.quiet, halive.connected]
  by_cases hempty : input.tcp.available.length < 1
  · rw [if_pos hempty] at hstart
    exact hidle _ _ _ _ hserving.connected hstart (by rw [List.drop_zero]; exact hchannel)
  · rw [if_neg hempty] at hstart
    obtain ⟨hdata, hstream, hleft⟩ := readBytes_eq_take halive.arrived s.tcpServer.pkgLeft
    generalize (TCPServer.readBytes input.tcp s.tcpServer.pkgLeft).length = k at *
    have hlen : (stream.take k).length = k := by
      rw [List.length_take]
      exact Nat.min_eq_left hstream
    by_cases hmore : 0 < s.tcpServer.pkgLeft - k
    · -- the package is not complete yet
      simp only [TCPServer.readPackage, hdata, hlen, if_pos hmore] at hstart
      exact hidle true { s.tcpServer with pkgLeft := s.tcpServer.pkgLeft - k } _ k
        hserving.connected hstart (hchannel.store (by omega) hstream)
    · -- the package is complete
      have hkeq : k = s.tcpServer.pkgLeft := by omega
      subst hkeq
      obtain ⟨hsum, hheader, hnext⟩ := hchannel.complete hstream
      simp only [TCPServer.readPackage, hdata, hlen, if_neg hmore] at hstart
      rw [crc8_eq] at hstart
      simp only [hsum, ne_eq, not_true_eq_false, if_false, hheader] at hstart
      simp only [MainLoop.receive, hstart, MainLoop.controlEvent, UDPServer.processRX,
        hserving.udp_off, Bool.not_false, Bool.true_and, requested]
      exact ⟨⟨⟨hserving.workers_len, hserving.used_le⟩, hserving.connected, hserving.client,
        hserving.udp_off⟩, trivial, hnext⟩

/-! ## The workers' turn -/

/-- A turn of every worker that leaves what they have collected alone. -/
theorem WorkersOk.mapIdx {cfg : Configuration} {s : MainLoop size} (h : WorkersOk cfg s)
    (f : Nat → UARTWorker size → UARTWorker size) (hf : ∀ i w, (f i w).txUsedSz = w.txUsedSz) :
    WorkersOk cfg { s with uartWorker := s.uartWorker.mapIdx f } := by
  refine ⟨by rw [List.length_mapIdx, h.workers_len], ?_⟩
  intro w hw
  obtain ⟨i, hi, rfl⟩ := List.mem_mapIdx.mp hw
  rw [hf]
  exact h.used_le _ (List.getElem_mem hi)

/-- `ProcessRX` of every worker. -/
theorem WorkersOk.drain {cfg : Configuration} {s : MainLoop size} (h : WorkersOk cfg s)
    (input : LoopInput) :
    WorkersOk cfg { s with uartWorker := MainLoop.processUARTs cfg input s.uartWorker } :=
  h.mapIdx _ fun _ w => w.processRX_txUsedSz cfg input.millis _

/-- A new package's requests and counter concern workers, send buffer and timer. -/
theorem handle_spec {cfg : Configuration} {s : MainLoop size} (input : LoopInput)
    (event : ClientEvent) (hworkers : WorkersOk cfg s) :
    let h := s.handle cfg input event
    WorkersOk cfg h ∧ h.rxBuff = s.rxBuff ∧ h.tcpServer = s.tcpServer ∧
      h.udpServer = s.udpServer ∧ h.tcpClientState = s.tcpClientState := by
  cases event with
  | NewRequest data =>
    have hrequests := hworkers.mapIdx _ fun i w => w.processRequest_txUsedSz input.millis
      (fun k => s.rxBuff (cfg.slotOffset i + k)) (mapRequest i s.rxBuff)
    simp only [MainLoop.handle, MainLoop.takeCounter]
    split
    · exact ⟨⟨hrequests.workers_len, hrequests.used_le⟩, rfl, rfl, rfl, rfl⟩
    · exact ⟨⟨hrequests.workers_len, hrequests.used_le⟩, rfl, rfl, rfl, rfl⟩
  | NoEvent | Connected | Disconnected => exact ⟨hworkers, rfl, rfl, rfl, rfl⟩

/-! ## Responding -/

/-- What a response carries for its port. -/
def Firmware.WrittenResponse.pair (r : WrittenResponse) : UInt8 × List UInt8 :=
  (r.response.arg &&& 0x7F, r.payload)

/-- The ports from `i` on have their response in the send buffer, and the others
keep what they had. -/
structure Written (D : Deployment) (i len : Nat) (before after : Nat → UInt8)
    (responses : List WrittenResponse) : Prop where
  length_eq : responses.length = len
  pair_eq : ∀ (k : Nat) (r : WrittenResponse), responses[k]? = some r →
    downlinkPair D.config (i + k) after = r.pair ∧
      (after (headerOffset (i + k) + 2)).toNat ≤ D.cfg.dataPayloadSize
  others : ∀ j, j < D.cfg.uartCount → j < i ∨ i + len ≤ j → PortAgree D.cfg j after before

/-- One worker's response: it is what the client will read for the port. -/
theorem respond_spec {D : Deployment} {i : Nat} (hi : i < D.cfg.uartCount) {w : UARTWorker size}
    (hused : w.txUsedSz ≤ D.cfg.dataPayloadSize) (txBuff : Nat → UInt8) :
    let r := MainLoop.respond D.cfg i w txBuff
    downlinkPair D.config i r.1 = r.2.pair ∧
      (r.1 (headerOffset i + 2)).toNat ≤ D.cfg.dataPayloadSize ∧
      ∀ j, j ≠ i → PortAgree D.cfg j r.1 txBuff := by
  have hheader := header_le D.cfg hi
  have hslot := metaSz_lt_slot D.cfg i
  have hplSz := w.processTX_plSz D.cfg hused
  refine ⟨?_, ?_, fun j hj => PortAgree.write_header hj hi _ (by simp)⟩
  · simp only [MainLoop.respond, downlinkPair, Firmware.WrittenResponse.pair, map_writeResponse,
      wireResponse]
    congr 1
    rw [D.slotOffset_eq]
    exact ByteMem.read_write_outside _ _ _ _ _ (Or.inr (by
      simp only [List.length_cons, List.length_nil]
      unfold headerOffset at hheader
      omega))
  · have hbyte : (MainLoop.respond D.cfg i w txBuff).1 (headerOffset i + 2) =
        w.processTX.plSz := ByteMem.write_inside _ _ _ 2 (by simp)
    rw [hbyte, hplSz]
    exact hused

theorem Written.nil (D : Deployment) (i : Nat) (txBuff : Nat → UInt8) :
    Written D i 0 txBuff txBuff [] :=
  ⟨rfl, fun k r h => (by simp at h), fun _ _ _ => ⟨fun _ _ => rfl, fun _ _ => rfl⟩⟩

/-- The loops write one response after the other. -/
theorem Written.cons {D : Deployment} {i len : Nat} (hi : i < D.cfg.uartCount)
    {before mid after : Nat → UInt8} {r : WrittenResponse} {responses : List WrittenResponse}
    (hpair : downlinkPair D.config i mid = r.pair)
    (hsize : (mid (headerOffset i + 2)).toNat ≤ D.cfg.dataPayloadSize)
    (hothers : ∀ j, j < D.cfg.uartCount → j ≠ i → PortAgree D.cfg j mid before)
    (hrest : Written D (i + 1) len mid after responses) :
    Written D i (len + 1) before after (r :: responses) := by
  -- the later responses leave this port's parts alone
  have hkept : PortAgree D.cfg i after mid := hrest.others i hi (Or.inl (Nat.lt_succ_self i))
  have hbyte : after (headerOffset i + 2) = mid (headerOffset i + 2) :=
    hkept.header_eq 2 (by omega)
  refine ⟨by rw [List.length_cons, hrest.length_eq], ?_, ?_⟩
  · intro k r' hk
    cases k with
    | zero =>
      rw [List.getElem?_cons_zero, Option.some.injEq] at hk
      subst hk
      rw [Nat.add_zero, hbyte]
      exact ⟨(hkept.downlinkPair_eq (by rw [hbyte]; exact hsize)).trans hpair, hsize⟩
    | succ k =>
      rw [List.getElem?_cons_succ] at hk
      have h := hrest.pair_eq k r' hk
      rwa [Nat.add_right_comm, Nat.add_assoc] at h
  · intro j hj hout
    exact (hrest.others j hj (by omega)).trans (hothers j hj (by omega))

/-- `FillTXBuff` of one worker stays within the worker's slot. -/
theorem fillTXBuff_agree (cfg : Configuration) {i : Nat} {w : UARTWorker size} (reset : Bool)
    (uartInput : List UInt8) (txBuff : Nat → UInt8) (hused : w.txUsedSz ≤ cfg.dataPayloadSize) :
    let f := w.fillTXBuff cfg reset uartInput (cfg.slotOffset i) txBuff
    f.1.txUsedSz ≤ cfg.dataPayloadSize ∧
      ∀ j, j < cfg.uartCount → j ≠ i → PortAgree cfg j f.2 txBuff := by
  obtain ⟨hle, offset, bytes, hwrite, hsize⟩ :=
    w.fillTXBuff_slot cfg reset uartInput (cfg.slotOffset i) txBuff hused
  refine ⟨hle, ?_⟩
  intro j hj hne
  rw [hwrite]
  exact PortAgree.write_slot hne hj offset bytes hsize

/-- Filling the slots keeps the number of workers, and none collects too much. -/
theorem fillTXBuffs_spec (cfg : Configuration) (reset : Bool) (uartInput : Nat → List UInt8)
    (workers : List (UARTWorker size)) (i : Nat) (txBuff : Nat → UInt8)
    (hused : ∀ w ∈ workers, w.txUsedSz ≤ cfg.dataPayloadSize) :
    let f := MainLoop.fillTXBuffs cfg reset uartInput i workers txBuff
    f.1.length = workers.length ∧ ∀ w ∈ f.1, w.txUsedSz ≤ cfg.dataPayloadSize := by
  induction workers generalizing i txBuff with
  | nil => exact ⟨rfl, fun w hw => absurd hw List.not_mem_nil⟩
  | cons w ws ih =>
    have hhead := (fillTXBuff_agree cfg (i := i) reset (uartInput i) txBuff
      (hused w List.mem_cons_self)).1
    obtain ⟨hlen, hrest⟩ := ih (i + 1) (w.fillTXBuff cfg reset (uartInput i) (cfg.slotOffset i)
      txBuff).2 fun v hv => hused v (List.mem_cons_of_mem _ hv)
    refine ⟨congrArg (· + 1) hlen, ?_⟩
    intro v hv
    rcases List.mem_cons.mp hv with rfl | hv
    · exact hhead
    · exact hrest v hv

/-- The loop over `WriteResponse`. -/
theorem writeResponses_spec {D : Deployment} (workers : List (UARTWorker size)) (i : Nat)
    (txBuff : Nat → UInt8) (hrange : i + workers.length ≤ D.cfg.uartCount)
    (hused : ∀ w ∈ workers, w.txUsedSz ≤ D.cfg.dataPayloadSize) :
    let r := MainLoop.writeResponses D.cfg i workers txBuff
    Written D i workers.length txBuff r.1 r.2 := by
  induction workers generalizing i txBuff with
  | nil => exact Written.nil D i txBuff
  | cons w ws ih =>
    rw [List.length_cons] at hrange
    obtain ⟨hpair, hsize, hothers⟩ := respond_spec (i := i) (by omega)
      (hused w List.mem_cons_self) txBuff
    exact Written.cons (by omega) hpair hsize (fun j _ hj => hothers j hj)
      (ih (i + 1) _ (by omega) fun v hv => hused v (List.mem_cons_of_mem _ hv))

/-- The loop that fills and responds port by port, as far as the workers go. -/
theorem fillAndRespond_workers (cfg : Configuration) (uartInput : Nat → List UInt8)
    (workers : List (UARTWorker size)) (i : Nat) (txBuff : Nat → UInt8)
    (hused : ∀ w ∈ workers, w.txUsedSz ≤ cfg.dataPayloadSize) :
    let r := MainLoop.fillAndRespond cfg uartInput i workers txBuff
    r.1.length = workers.length ∧ ∀ w ∈ r.1, w.txUsedSz ≤ cfg.dataPayloadSize := by
  induction workers generalizing i txBuff with
  | nil => exact ⟨rfl, fun w hw => absurd hw List.not_mem_nil⟩
  | cons w ws ih =>
    have hhead := (fillTXBuff_agree cfg (i := i) true (uartInput i) txBuff
      (hused w List.mem_cons_self)).1
    obtain ⟨hlen, hrest⟩ := ih (i + 1) (MainLoop.respond cfg i
      (w.fillTXBuff cfg true (uartInput i) (cfg.slotOffset i) txBuff).1
      (w.fillTXBuff cfg true (uartInput i) (cfg.slotOffset i) txBuff).2).1
      fun v hv => hused v (List.mem_cons_of_mem _ hv)
    refine ⟨congrArg (· + 1) hlen, ?_⟩
    intro v hv
    rcases List.mem_cons.mp hv with rfl | hv
    · exact hhead
    · exact hrest v hv

/-- The loop that fills and responds port by port. -/
theorem fillAndRespond_spec {D : Deployment} (uartInput : Nat → List UInt8)
    (workers : List (UARTWorker size)) (i : Nat) (txBuff : Nat → UInt8)
    (hrange : i + workers.length ≤ D.cfg.uartCount)
    (hused : ∀ w ∈ workers, w.txUsedSz ≤ D.cfg.dataPayloadSize) :
    let r := MainLoop.fillAndRespond D.cfg uartInput i workers txBuff
    Written D i workers.length txBuff r.2.1 r.2.2 := by
  induction workers generalizing i txBuff with
  | nil => exact Written.nil D i txBuff
  | cons w ws ih =>
    rw [List.length_cons] at hrange
    obtain ⟨hle, hfill⟩ := fillTXBuff_agree D.cfg (i := i) true (uartInput i) txBuff
      (hused w List.mem_cons_self)
    obtain ⟨hpair, hsize, hothers⟩ := respond_spec (i := i) (by omega) hle
      (w.fillTXBuff D.cfg true (uartInput i) (D.cfg.slotOffset i) txBuff).2
    exact Written.cons (by omega) hpair hsize
      (fun j hj hne => (hothers j hne).trans (hfill j hj hne))
      (ih (i + 1) _ (by omega) fun v hv => hused v (List.mem_cons_of_mem _ hv))

/-- Without a UDP server a response goes out over TCP, sealed. -/
theorem transmit_spec {D : Deployment} {s : MainLoop size} (input : LoopInput)
    (hserving : Serving D.cfg s) :
    let t := s.transmit D.cfg input
    Serving D.cfg t.1 ∧ t.1.rxBuff = s.rxBuff ∧ t.1.tcpServer = s.tcpServer ∧
      (t.2.1.length = D.cfg.packageSize →
        t.2.1 = ByteMem.read (sealPackage D.cfg.metaSz 0 s.txBuff) 0 D.cfg.packageSize) := by
  have hudp : s.udpServer.processTX D.cfg.packageSize D.cfg.metaSz input.udpBeginPacket s.txBuff =
      (s.udpServer, s.txBuff, none) := by
    simp [UDPServer.processTX, hserving.udp_off]
  have ht : s.transmit D.cfg input =
      ({ s with txBuff := sealPackage D.cfg.metaSz 0 s.txBuff },
        (TCPServer.writeLoop D.cfg.packageSize (sealPackage D.cfg.metaSz 0 s.txBuff)
          input.tcpWrites D.cfg.packageSize).1, none) := by
    simp only [MainLoop.transmit, hserving.client, Bool.not_true, hudp]
    rfl
  rw [ht]
  obtain ⟨hleft, hbytes⟩ := TCPServer.writeLoop_spec D.cfg.packageSize
    (sealPackage D.cfg.metaSz 0 s.txBuff) input.tcpWrites D.cfg.packageSize (Nat.le_refl _)
  refine ⟨⟨⟨hserving.workers_len, hserving.used_le⟩, hserving.connected, hserving.client,
    hserving.udp_off⟩, rfl, rfl, ?_⟩
  intro hlen
  dsimp only at hlen ⊢
  rw [hbytes, Nat.sub_self] at hlen ⊢
  rw [ByteMem.length_read] at hlen
  rw [hlen]

/-- **What a due poll timer leads to**: nothing yet, or a sealed package in which
the client reads, port by port, the responses just written. -/
theorem pollUARTs_spec {D : Deployment} {s : MainLoop size} (input : LoopInput)
    (hserving : Serving D.cfg s) :
    let p := s.pollUARTs D.cfg input
    Serving D.cfg p.1 ∧ p.1.rxBuff = s.rxBuff ∧ p.1.tcpServer = s.tcpServer ∧
      (p.2.1 = [] ∧ p.2.2.1 = [] ∨
        ∃ before txBuff, Written D 0 D.cfg.uartCount before txBuff p.2.1 ∧
          (p.2.2.1.length = D.cfg.packageSize →
            p.2.2.1 = ByteMem.read (sealPackage D.cfg.metaSz 0 txBuff) 0 D.cfg.packageSize)) := by
  have hlen := hserving.workers_len
  unfold MainLoop.pollUARTs
  dsimp only
  split
  · exact ⟨hserving, rfl, rfl, Or.inl ⟨rfl, rfl⟩⟩
  · split
    · -- `IO_AGGREGATE_MULTIPLIER` above 1
      obtain ⟨hfillLen, hfill⟩ := fillTXBuffs_spec D.cfg (s.segmentCounter + 1 = 1)
        input.uartInput s.uartWorker 0 s.txBuff hserving.used_le
      have hwritten := writeResponses_spec (D := D) _ 0
        (MainLoop.fillTXBuffs D.cfg (s.segmentCounter + 1 = 1) input.uartInput 0 s.uartWorker
          s.txBuff).2 (Nat.le_of_eq (by rw [hfillLen, hlen, Nat.zero_add])) hfill
      rw [hfillLen, hlen] at hwritten
      split
      · exact ⟨⟨⟨hfillLen.trans hlen, hfill⟩, hserving.connected, hserving.client,
          hserving.udp_off⟩, rfl, rfl, Or.inl ⟨rfl, rfl⟩⟩
      · obtain ⟨hafter, hrx, htcp, hsent⟩ := transmit_spec (D := D) (s :=
          { s with
            pollTimer := s.pollTimer.next
            segmentCounter := 0
            uartWorker := (MainLoop.fillTXBuffs D.cfg (s.segmentCounter + 1 = 1) input.uartInput 0
              s.uartWorker s.txBuff).1
            txBuff := (MainLoop.writeResponses D.cfg 0
              (MainLoop.fillTXBuffs D.cfg (s.segmentCounter + 1 = 1) input.uartInput 0
                s.uartWorker s.txBuff).1
              (MainLoop.fillTXBuffs D.cfg (s.segmentCounter + 1 = 1) input.uartInput 0
                s.uartWorker s.txBuff).2).1 }) input
          ⟨⟨hfillLen.trans hlen, hfill⟩, hserving.connected, hserving.client, hserving.udp_off⟩
        exact ⟨hafter, hrx, htcp, Or.inr ⟨_, _, hwritten, hsent⟩⟩
    · obtain ⟨hrespLen, hresp⟩ := fillAndRespond_workers D.cfg input.uartInput s.uartWorker 0
        s.txBuff hserving.used_le
      have hwritten := fillAndRespond_spec (D := D) input.uartInput s.uartWorker 0 s.txBuff
        (Nat.le_of_eq (by rw [hlen, Nat.zero_add])) hserving.used_le
      rw [hlen] at hwritten
      obtain ⟨hafter, hrx, htcp, hsent⟩ := transmit_spec (D := D) (s :=
        { s with
          pollTimer := s.pollTimer.next
          uartWorker := (MainLoop.fillAndRespond D.cfg input.uartInput 0 s.uartWorker s.txBuff).1
          txBuff := (MainLoop.fillAndRespond D.cfg input.uartInput 0 s.uartWorker
            s.txBuff).2.1 }) input
        ⟨⟨hrespLen.trans hlen, hresp⟩, hserving.connected, hserving.client, hserving.udp_off⟩
      exact ⟨hafter, hrx, htcp, Or.inr ⟨_, _, hwritten, hsent⟩⟩

/-! ## The whole pass -/

/-- **A pass of the loop** on a live connection. -/
theorem loop_spec {D : Deployment} {s : MainLoop size} {input : LoopInput} {stream : List UInt8}
    {sent handed : Nat → List UInt8} {p : Pass size} (hserving : Serving D.cfg s)
    (halive : Alive s input stream)
    (hchannel : Channel D (uplinkData D.cfg) s.rxBuff s.tcpServer.pkgLeft stream sent handed)
    (hp : s.loop D.cfg input = some p) :
    Serving D.cfg p.state ∧
      Channel D (uplinkData D.cfg) p.state.rxBuff p.state.tcpServer.pkgLeft
        (stream.drop p.consumed) sent
        (fun i => handed i ++ requested D.cfg p.event p.state.rxBuff i) ∧
      (p.responses = [] ∧ p.sent = [] ∨
        ∃ before txBuff, Written D 0 D.cfg.uartCount before txBuff p.responses ∧
          (p.sent.length = D.cfg.packageSize →
            p.sent = ByteMem.read (sealPackage D.cfg.metaSz 0 txBuff) 0 D.cfg.packageSize)) := by
  simp only [MainLoop.loop, hserving.client, Bool.not_true, Bool.false_and, Bool.false_eq_true,
    if_false, Option.some.injEq] at hp
  subst hp
  obtain ⟨hreceived, -, hnext⟩ := receive_spec hserving halive hchannel
  obtain ⟨hworkers, hrx, htcp, hudp, hclient⟩ :=
    handle_spec input (s.receive D.cfg input).2.1 hreceived.toWorkersOk
  obtain ⟨hpolled, hrx', htcp', hresponses⟩ := pollUARTs_spec input
    (s := { (s.receive D.cfg input).1.handle D.cfg input (s.receive D.cfg input).2.1 with
      uartWorker := MainLoop.processUARTs D.cfg input
        ((s.receive D.cfg input).1.handle D.cfg input (s.receive D.cfg input).2.1).uartWorker })
    ⟨hworkers.drain input, by dsimp only; rw [htcp]; exact hreceived.connected,
      hclient.trans hreceived.client, by dsimp only; rw [hudp]; exact hreceived.udp_off⟩
  refine ⟨hpolled, ?_, hresponses⟩
  dsimp only at hrx' htcp' ⊢
  rw [hrx', htcp', hrx, htcp]
  exact hnext

/-! ## From power-up to a connection -/

theorem WorkersOk.setup {cfg : Configuration} {rxRingBuffs : List (DataBuffer UInt8 size)}
    (hlen : rxRingBuffs.length = cfg.uartCount) (millis micros : UInt32) :
    WorkersOk cfg (MainLoop.setup cfg rxRingBuffs millis micros) := by
  refine ⟨by simp [MainLoop.setup, hlen], ?_⟩
  intro w hw
  obtain ⟨ring, -, rfl⟩ := List.mem_map.mp hw
  exact Nat.zero_le _

/-- The event of the TCP side does not concern the workers. -/
theorem receive_uartWorker (cfg : Configuration) (input : LoopInput) (s : MainLoop size) :
    (s.receive cfg input).1.uartWorker = s.uartWorker := by
  unfold MainLoop.receive MainLoop.controlEvent
  dsimp only
  split <;> rfl

theorem transmit_uartWorker (cfg : Configuration) (input : LoopInput) (s : MainLoop size) :
    (s.transmit cfg input).1.uartWorker = s.uartWorker := by
  unfold MainLoop.transmit
  dsimp only
  split
  · rfl
  · split <;> rfl

theorem WorkersOk.poll {cfg : Configuration} {s : MainLoop size} (h : WorkersOk cfg s)
    (input : LoopInput) : WorkersOk cfg (s.pollUARTs cfg input).1 := by
  unfold MainLoop.pollUARTs
  dsimp only
  split
  · exact h
  · split
    · obtain ⟨hlen, hused⟩ := fillTXBuffs_spec cfg (s.segmentCounter + 1 = 1) input.uartInput
        s.uartWorker 0 s.txBuff h.used_le
      split
      · exact ⟨hlen.trans h.workers_len, hused⟩
      · exact ⟨by rw [transmit_uartWorker]; exact hlen.trans h.workers_len,
          by rw [transmit_uartWorker]; exact hused⟩
    · obtain ⟨hlen, hused⟩ := fillAndRespond_workers cfg input.uartInput s.uartWorker 0 s.txBuff
        h.used_le
      exact ⟨by rw [transmit_uartWorker]; exact hlen.trans h.workers_len,
        by rw [transmit_uartWorker]; exact hused⟩

/-- **Every pass keeps the workers in order**, whatever comes from outside. -/
theorem WorkersOk.loop {cfg : Configuration} {s : MainLoop size} {input : LoopInput}
    {p : Pass size} (h : WorkersOk cfg s) (hp : s.loop cfg input = some p) :
    WorkersOk cfg p.state := by
  unfold MainLoop.loop at hp
  split at hp
  · cases hp
  · rw [Option.some.injEq] at hp
    subst hp
    have hreceived : WorkersOk cfg (s.receive cfg input).1 :=
      ⟨by rw [receive_uartWorker, h.workers_len], by rw [receive_uartWorker]; exact h.used_le⟩
    exact ((handle_spec input (s.receive cfg input).2.1 hreceived).1.drain input).poll input

/-- A pass that finds a client: the loop serves it, waits for the first package,
and sends nothing yet. -/
theorem accept_spec {cfg : Configuration} {s : MainLoop size} {input : LoopInput}
    {remoteIP : UInt32} {p : Pass size} (h : WorkersOk cfg s)
    (hidle : s.tcpServer.connected = false) (haccept : input.tcp.accept = some remoteIP)
    (hp : s.loop cfg input = some p) :
    Serving cfg p.state ∧ p.state.tcpServer.pkgLeft = cfg.packageSize ∧ p.consumed = 0 ∧
      p.sent = [] := by
  have hworkers := h.loop hp
  unfold MainLoop.loop at hp
  split at hp
  · cases hp
  · -- the poll timer was just set, so it is not due
    have htimer : IntervalTimer.update input.micros
        (s.pollTimer.setInterval cfg.uartPollIntervalUSDefault input.micros) = false := by
      simp only [IntervalTimer.update, IntervalTimer.setInterval, UInt32.sub_self,
        decide_eq_false_iff_not]
      split
      · rename_i hpos
        exact UInt32.not_le.mpr hpos
      · decide
    simp only [MainLoop.receive, TCPServer.processRX, hidle, haccept, MainLoop.controlEvent,
      UDPServer.processRX, MainLoop.handle, MainLoop.pollUARTs, Bool.not_false, if_true, htimer,
      Option.some.injEq] at hp
    subst hp
    exact ⟨⟨hworkers, rfl, rfl, rfl⟩, rfl, rfl, rfl⟩

/-- A board that has just accepted a connection: set up, any passes of the loop,
and one that finds a client. -/
def Accepted (cfg : Configuration) (s : MainLoop size) : Prop :=
  ∃ (rxRingBuffs : List (DataBuffer UInt8 size)) (millis micros : UInt32)
    (inputs : List LoopInput) (idle : MainLoop size) (input : LoopInput) (remoteIP : UInt32)
    (p : Pass size),
    rxRingBuffs.length = cfg.uartCount ∧
      EventRun.exec (fun v i => (MainLoop.loop cfg i v).map (·.state))
        (MainLoop.setup cfg rxRingBuffs millis micros) inputs = some idle ∧
      idle.tcpServer.connected = false ∧ input.tcp.accept = some remoteIP ∧
      idle.loop cfg input = some p ∧ p.state = s

/-- **After the accept the loop serves the connection**, and waits for the first
package. -/
theorem Accepted.serving {cfg : Configuration} {s : MainLoop size} (h : Accepted cfg s) :
    Serving cfg s ∧ s.tcpServer.pkgLeft = cfg.packageSize := by
  obtain ⟨rxRingBuffs, millis, micros, inputs, idle, input, remoteIP, p, hlen, hrun, hidle,
    haccept, hp, rfl⟩ := h
  have hworkers : WorkersOk cfg idle := by
    refine EventRun.exec_invariant (WorkersOk cfg) ?_
      (WorkersOk.setup hlen millis micros) hrun
    intro v i u hv hstep
    obtain ⟨q, hq, rfl⟩ := Option.map_eq_some_iff.mp hstep
    exact hv.loop hq
  obtain ⟨hserving, hleft, -, -⟩ := accept_spec hworkers hidle haccept hp
  exact ⟨hserving, hleft⟩

end UartBridge
