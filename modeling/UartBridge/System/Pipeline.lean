import UartBridge.Client.DataProcessor
import UartBridge.Client.TCPTransport
import UartBridge.System.PassLink

/-!
# From the local clients to the UARTs and back

Client and firmware over one TCP connection that stays up, without UDP. The poll
thread asks one port worker after the other, the package is sealed and sent, the
firmware collects it in pieces and hands it to its workers; the responses go the
other way. Between any two steps other threads may change a port worker in any
way.

* `Piped` — the invariant: each direction is a `Channel`, up to what the poll
  thread has put into its buffer and not sent yet;
* `piped_step` — every step keeps it;
* `end_to_end` — hence what arrives at a port is a prefix of what was read or
  written for it, and all of it once everything has been delivered;
* `handsOut_of_recv`, `brings_of_loop` — what arrives is what `ProcessRX` and
  `ProcessRequest` are called with.
-/

namespace UartBridge.Pipeline

open EventRun Client Firmware

variable {size fwSize : Nat}

/-- `up` and `down` are the bytes on their way. For each port, `readLog` are the
bytes `ProcessTX` read from the local clients, `requestLog` the payloads the
firmware's worker received, `writtenLog` the session tags and payloads written
with `WriteResponse`, and `handedLog` those handed to `ProcessRX`. -/
structure State (size fwSize : Nat) where
  ports : List (PortWorker UInt8 size)
  txBuff : Nat → UInt8
  poll : Option PollState
  reader : TCPTransport.RxState
  disposed : Bool
  fw : MainLoop fwSize
  up : List UInt8
  down : List UInt8
  readLog : Nat → List UInt8
  requestLog : Nat → List UInt8
  writtenLog : Nat → List (UInt8 × List UInt8)
  handedLog : Nat → List (UInt8 × List UInt8)

inductive Event (size : Nat) where
  /-- The poll timer's message. -/
  | pollStart (counter : UInt32)
  /-- The next port's `ProcessTX`. -/
  | pollPort (input : ReadResult)
  /-- The package is finished and sent; the connection stays up, so all of it is. -/
  | pollSend (udpTransportPort : UInt16) (results : List TCPTransport.SendResult)
  /-- `recv` returns this many bytes. -/
  | recv (count : Nat)
  /-- A pass of the firmware's loop. -/
  | loop (input : LoopInput)
  /-- Another thread changes a port worker. -/
  | other (i : Nat) (w : PortWorker UInt8 size)

/-- The connection was just established. -/
def init (D : Deployment) (ports : List (PortWorker UInt8 size)) (txBuff rxBuff : Nat → UInt8)
    (fw : MainLoop fwSize) : State size fwSize :=
  { ports := ports, txBuff := txBuff, poll := none
    reader := { rxBuff := rxBuff, dataLeft := D.config.getNetPackageSz }, disposed := false
    fw := fw, up := [], down := []
    readLog := fun _ => [], requestLog := fun _ => [], writtenLog := fun _ => []
    handedLog := fun _ => [] }

/-- What a pass wrote for a port. -/
def written (responses : List WrittenResponse) (i : Nat) : List (UInt8 × List UInt8) :=
  (responses[i]?.map (·.pair)).toList

instance (fw : MainLoop fwSize) (input : LoopInput) (stream : List UInt8) :
    Decidable (Alive fw input stream) :=
  decidable_of_iff (fw.alarmTimer.alarmTriggered input.millis = false ∧
      input.tcp.connected = true ∧ 0 < input.tcp.readSz ∧ input.tcp.available <+: stream)
    ⟨fun h => ⟨h.1, h.2.1, h.2.2.1, h.2.2.2⟩,
      fun h => ⟨h.quiet, h.connected, h.readSz_pos, h.arrived⟩⟩

def step (D : Deployment) (portConfig : Nat → PortConfig) (s : State size fwSize) :
    Event size → Option (State size fwSize)
  | .pollStart counter =>
    match s.poll with
    | some _ => none
    | none => some { s with poll := some (DataProcessor.pollStart counter) }
  | .pollPort input =>
    match s.poll with
    | none => none
    | some poll =>
      match s.ports[poll.port]? with
      | none => none
      | some w =>
        if poll.port < D.config.portCount then
          let r := w.processTX D.config (portConfig poll.port) poll.counter input
          let b := DataProcessor.pollPort D.config r.2.1 r.2.2 s.txBuff poll
          some { s with
            ports := s.ports.set poll.port r.1
            txBuff := b.1
            poll := some b.2
            readLog := fun i => if i = poll.port ∧ r.2.1.type = .Data then s.readLog i ++ r.2.2
              else s.readLog i }
        else none
  | .pollSend udpTransportPort results =>
    match s.poll with
    | none => none
    | some poll =>
      if poll.port < D.config.portCount then none
      else
        let f := DataProcessor.pollFinish D.config s.txBuff poll
        if !f.2 then some { s with txBuff := f.1, poll := none }
        else
          let txBuff := TCPTransport.stampPackage D.config udpTransportPort f.1
          let sent := TCPTransport.sendLoop D.config.getNetPackageSz txBuff results
            D.config.getNetPackageSz
          -- a `send` that fails would take the connection down
          if sent.2 = 0 then
            some { s with txBuff := txBuff, poll := none, up := s.up ++ sent.1 }
          else none
  | .recv count =>
    if s.disposed = false ∧ 0 < count ∧ count ≤ s.reader.dataLeft ∧ count ≤ s.down.length then
      let r := TCPTransport.received D.config (s.down.take count) s.reader
      let s := { s with reader := r.1, down := s.down.drop count }
      match r.2 with
      | .goOn => some s
      | .package =>
        some { s with
          ports := DataProcessor.onIncomingPackage D.config r.1.rxBuff s.ports
          handedLog := fun i => s.handedLog i ++ [downlinkPair D.config i r.1.rxBuff] }
      | .disposed => some { s with disposed := true }
    else none
  | .loop input =>
    if Alive s.fw input s.up then
      match s.fw.loop D.cfg input with
      | none => none
      | some p =>
        -- so would a write that is cut short on the firmware's side
        if p.responses = [] ∧ p.sent = [] ∨ p.sent.length = D.cfg.packageSize then
          some { s with
            fw := p.state
            up := s.up.drop p.consumed
            down := s.down ++ p.sent
            requestLog := fun i => s.requestLog i ++ requested D.cfg p.event p.state.rxBuff i
            writtenLog := fun i => s.writtenLog i ++ written p.responses i }
        else none
    else none
  | .other i w => some { s with ports := s.ports.set i w }

/-- **The property.** -/
structure EndToEnd (D : Deployment) (s : State size fwSize) : Prop where
  stays_up : s.disposed = false ∧ s.fw.tcpServer.connected = true
  uplink : ∀ i, i < D.config.portCount → s.requestLog i <+: s.readLog i
  uplink_all : s.poll = none → s.up = [] →
    ∀ i, i < D.config.portCount → s.requestLog i = s.readLog i
  downlink : ∀ i, i < D.config.portCount → s.handedLog i <+: s.writtenLog i
  downlink_all : s.down = [] → ∀ i, i < D.config.portCount → s.handedLog i = s.writtenLog i

/-! ## The poll thread -/

/-- The bytes a tick leaves at the start of a port's slot fit into it. -/
theorem processTX_payload {D : Deployment} (hpayload : 4 ≤ D.config.portPLSize)
    (portConfig : PortConfig) (counter : UInt32) (input : ReadResult)
    (w : PortWorker UInt8 size) :
    let r := w.processTX D.config portConfig counter input
    r.2.1.plSz.toNat = r.2.2.length ∧ r.2.2.length ≤ D.cfg.dataPayloadSize := by
  rw [← D.portPLSize_eq]
  have htick := w.processTX_tick D.config portConfig counter input
  generalize w.processTX D.config portConfig counter input = r at htick
  cases htick with
  | idle | reset | gone => exact ⟨rfl, Nat.zero_le _⟩
  | openPort => exact ⟨rfl, hpayload⟩
  | data avail =>
    have hle : (avail.take (w.dataToRead D.config)).length ≤ D.config.portPLSize :=
      Nat.le_trans (List.length_take_le _ _) w.dataToRead_le
    exact ⟨D.toNat_plSz hle, hle⟩

/-- The request type survives the package. -/
theorem wireRequest_type_eq_data (r : Client.Request) :
    (wireRequest r).type = .Data ↔ r.type = .Data := by
  have h : ∀ t : Client.ReqType, Firmware.ReqType.ofByte t.toByte = .Data ↔ t = .Data := by
    intro t
    cases t <;> decide
  exact h r.type

/-- **One round of the poll loop** puts the port's request and bytes into the
port's parts of the package, and leaves the others alone. -/
theorem pollPort_spec {D : Deployment} {request : Client.Request} {data : List UInt8}
    {poll : PollState} (txBuff : Nat → UInt8) (hport : poll.port < D.cfg.uartCount)
    (hsize : request.plSz.toNat = data.length) (hle : data.length ≤ D.cfg.dataPayloadSize) :
    let txBuff' := (DataProcessor.pollPort D.config request data txBuff poll).1
    uplinkData D.cfg poll.port txBuff' = (if request.type = .Data then data else []) ∧
      (mapRequest poll.port txBuff').plSz.toNat ≤ D.cfg.dataPayloadSize ∧
      ∀ j, j < D.cfg.uartCount → j ≠ poll.port → PortAgree D.cfg j txBuff' txBuff := by
  have hheader := header_le D.cfg hport
  have hslot := metaSz_lt_slot D.cfg poll.port
  have hmap := mapRequest_write request poll.port
    (ByteMem.write txBuff (D.config.getPortBuffOffset poll.port) data)
  refine ⟨?_, ?_, ?_⟩
  · simp only [uplinkData, DataProcessor.pollPort, hmap, wireRequest_type_eq_data]
    split
    · have hread : ByteMem.read (ByteMem.write txBuff (D.config.getPortBuffOffset poll.port) data)
          (D.cfg.slotOffset poll.port) data.length = data := by
        rw [D.slotOffset_eq]
        exact ByteMem.read_write_same _ _ _
      show ByteMem.read _ _ request.plSz.toNat = data
      rw [hsize]
      refine (ByteMem.read_write_outside _ _ _ _ _ (Or.inr ?_)).trans hread
      simp only [List.length_cons, List.length_nil]
      unfold headerOffset at hheader
      exact Nat.le_of_lt (Nat.lt_of_le_of_lt hheader hslot)
    · rfl
  · simp only [DataProcessor.pollPort, hmap]
    show request.plSz.toNat ≤ _
    omega
  · intro j hj hne
    refine PortAgree.trans (PortAgree.write_header hne hport _ (by simp)) ?_
    rw [D.slotOffset_eq]
    exact PortAgree.write_slot hne hj 0 data (by omega)

/-- Counter, header and checksum leave the ports' parts alone. -/
theorem agree_writeU32 (cfg : Configuration) {i : Nat} (hi : i < cfg.uartCount) (value : UInt32)
    (txBuff : Nat → UInt8) : PortAgree cfg i (writeU32Value value pkgCntOffset txBuff) txBuff :=
  PortAgree.of_agree hi fun a ha _ _ =>
    ByteMem.write_outside _ _ _ _ (Or.inr (by simpa [pkgCntOffset] using ha))

/-! ## The invariant -/

/-- What the poll thread has put into its buffer for a port and not sent yet. -/
def building (D : Deployment) (s : State size fwSize) (i : Nat) : List UInt8 :=
  match s.poll with
  | none => []
  | some poll => if i < poll.port then uplinkData D.cfg i s.txBuff else []

structure Piped (D : Deployment) (s : State size fwSize) : Prop where
  serving : Serving D.cfg s.fw
  up_open : s.disposed = false
  port_le : ∀ poll, s.poll = some poll → poll.port ≤ D.cfg.uartCount
  built : ∀ poll, s.poll = some poll → ∀ j, j < poll.port →
    (mapRequest j s.txBuff).plSz.toNat ≤ D.cfg.dataPayloadSize
  up : ∃ sent, Channel D (uplinkData D.cfg) s.fw.rxBuff s.fw.tcpServer.pkgLeft s.up sent
      s.requestLog ∧
    ∀ i, i < D.cfg.uartCount → s.readLog i = sent i ++ building D s i
  down : Channel D (fun i mem => [downlinkPair D.config i mem]) s.reader.rxBuff s.reader.dataLeft
    s.down s.writtenLog s.handedLog

variable {D : Deployment} {portConfig : Nat → PortConfig} {s t : State size fwSize}

theorem Piped.start (ports : List (PortWorker UInt8 size)) (txBuff rxBuff : Nat → UInt8)
    {fw : MainLoop fwSize} (hfw : Accepted D.cfg fw) : Piped D (init D ports txBuff rxBuff fw) := by
  obtain ⟨hserving, hleft⟩ := hfw.serving
  refine ⟨hserving, rfl, fun _ h => (by cases h), fun _ h => (by cases h),
    ⟨fun _ => [], ?_, fun _ _ => rfl⟩, ?_⟩
  · show Channel D _ fw.rxBuff fw.tcpServer.pkgLeft [] _ _
    rw [hleft]
    exact Channel.start _
  · show Channel D _ rxBuff D.config.getNetPackageSz [] _ _
    rw [D.packageSize_eq]
    exact Channel.start _

/-! ## One step -/

/-- A port is asked while there are ports left. -/
theorem step_pollPort {input : ReadResult}
    (hstep : step D portConfig s (.pollPort input) = some t) :
    ∃ poll, ∃ w : PortWorker UInt8 size, s.poll = some poll ∧ s.ports[poll.port]? = some w ∧
      poll.port < D.cfg.uartCount ∧
      let r := w.processTX D.config (portConfig poll.port) poll.counter input
      let b := DataProcessor.pollPort D.config r.2.1 r.2.2 s.txBuff poll
      t = { s with
        ports := s.ports.set poll.port r.1
        txBuff := b.1
        poll := some b.2
        readLog := fun i => if i = poll.port ∧ r.2.1.type = .Data then s.readLog i ++ r.2.2
          else s.readLog i } := by
  simp only [step] at hstep
  cases hpoll : s.poll with
  | none => rw [hpoll] at hstep; cases hstep
  | some poll =>
    rw [hpoll] at hstep
    dsimp only at hstep
    cases hw : s.ports[poll.port]? with
    | none => rw [hw] at hstep; cases hstep
    | some w =>
      rw [hw] at hstep
      dsimp only at hstep
      split at hstep
      · rename_i hport
        exact ⟨poll, w, rfl, hw, D.portCount_eq ▸ hport, (Option.some.inj hstep).symm⟩
      · cases hstep

/-- Once every port was asked, the whole package goes out over TCP. -/
theorem step_pollSend (htcp : D.config.enableUDP = false) {udpTransportPort : UInt16}
    {results : List TCPTransport.SendResult}
    (hstep : step D portConfig s (.pollSend udpTransportPort results) = some t) :
    ∃ poll, s.poll = some poll ∧ D.cfg.uartCount ≤ poll.port ∧
      let txBuff := sealPackage D.cfg.metaSz 0
        (DataProcessor.pollFinish D.config s.txBuff poll).1
      t = { s with
        txBuff := txBuff
        poll := none
        up := s.up ++ ByteMem.read txBuff 0 D.cfg.packageSize } := by
  simp only [step] at hstep
  cases hpoll : s.poll with
  | none => rw [hpoll] at hstep; cases hstep
  | some poll =>
    rw [hpoll] at hstep
    dsimp only at hstep
    split at hstep
    · cases hstep
    · rename_i hport
      rw [D.portCount_eq] at hport
      have huseTCP : (DataProcessor.pollFinish D.config s.txBuff poll).2 = true := by
        simp [DataProcessor.pollFinish, htcp]
      rw [huseTCP] at hstep
      simp only [Bool.not_true, Bool.false_eq_true, if_false] at hstep
      split at hstep
      · rename_i hall
        refine ⟨poll, rfl, Nat.le_of_not_lt hport, ?_⟩
        generalize (DataProcessor.pollFinish D.config s.txBuff poll).1 = txBuff at *
        -- without UDP the header is zero
        have hstamp : TCPTransport.stampPackage D.config udpTransportPort txBuff =
            sealPackage D.cfg.metaSz 0 txBuff := by
          simp only [TCPTransport.stampPackage, htcp, D.metaSz_eq]
          rfl
        have hbytes := (TCPTransport.sendLoop_spec D.config.getNetPackageSz
          (TCPTransport.stampPackage D.config udpTransportPort txBuff) results
          D.config.getNetPackageSz (Nat.le_refl _)).2
        rw [hall, Nat.sub_self, Nat.sub_zero, D.packageSize_eq] at hbytes
        rw [D.packageSize_eq, hbytes, hstamp] at hstep
        exact (Option.some.inj hstep).symm
      · cases hstep

/-- Starting a poll and sending the package concern the poll thread's own. -/
theorem frame_of_poll {e : Event size} (hstep : step D portConfig s e = some t)
    (hport : ∀ input, e ≠ .pollPort input) (hrecv : ∀ count, e ≠ .recv count)
    (hloop : ∀ input, e ≠ .loop input) (hother : ∀ i w, e ≠ .other i w) :
    t = { s with txBuff := t.txBuff, poll := t.poll, up := t.up } := by
  cases e with
  | pollStart counter =>
    simp only [step] at hstep
    split at hstep
    · cases hstep
    · cases hstep
      rfl
  | pollPort input => exact absurd rfl (hport input)
  | pollSend udpTransportPort results =>
    simp only [step] at hstep
    split at hstep
    · cases hstep
    · split at hstep
      · cases hstep
      · split at hstep
        · cases hstep
          rfl
        · split at hstep
          · cases hstep
            rfl
          · cases hstep
  | recv count => exact absurd rfl (hrecv count)
  | loop input => exact absurd rfl (hloop input)
  | other i w => exact absurd rfl (hother i w)

/-- Receiving concerns the port workers and the connection. -/
theorem frame_of_recv {count : Nat} (hstep : step D portConfig s (.recv count) = some t) :
    t = { s with
      ports := t.ports
      reader := t.reader
      disposed := t.disposed
      down := t.down
      handedLog := t.handedLog } := by
  simp only [step] at hstep
  split at hstep
  · split at hstep
    all_goals
      cases hstep
      rfl
  · cases hstep

/-- A pass of the loop, on a connection that stays up. -/
theorem step_loop {input : LoopInput} (hstep : step D portConfig s (.loop input) = some t) :
    Alive s.fw input s.up ∧ ∃ p, s.fw.loop D.cfg input = some p ∧
      (p.responses = [] ∧ p.sent = [] ∨ p.sent.length = D.cfg.packageSize) ∧
      t = { s with
        fw := p.state
        up := s.up.drop p.consumed
        down := s.down ++ p.sent
        requestLog := fun i => s.requestLog i ++ requested D.cfg p.event p.state.rxBuff i
        writtenLog := fun i => s.writtenLog i ++ written p.responses i } := by
  simp only [step] at hstep
  split at hstep
  · rename_i halive
    cases hp : s.fw.loop D.cfg input with
    | none =>
      rw [hp] at hstep
      cases hstep
    | some p =>
      rw [hp] at hstep
      dsimp only at hstep
      split at hstep
      · rename_i hwhole
        exact ⟨halive, p, rfl, hwhole, (Option.some.inj hstep).symm⟩
      · cases hstep
  · cases hstep

theorem Piped.pollStart (h : Piped D s) {counter : UInt32}
    (hstep : step D portConfig s (.pollStart counter) = some t) : Piped D t := by
  simp only [step] at hstep
  cases hpoll : s.poll with
  | some poll => rw [hpoll] at hstep; cases hstep
  | none =>
    rw [hpoll, Option.some.injEq] at hstep
    subst hstep
    obtain ⟨sent, hchannel, hlog⟩ := h.up
    refine ⟨h.serving, h.up_open, ?_, ?_, ⟨sent, hchannel, ?_⟩, h.down⟩
    · intro poll hc
      obtain rfl := Option.some.inj hc
      exact Nat.zero_le _
    · intro poll hc j hj
      obtain rfl := Option.some.inj hc
      exact absurd hj (Nat.not_lt_zero _)
    · intro i hi
      have hi' := hlog i hi
      simp only [building, hpoll] at hi'
      simp only [building, DataProcessor.pollStart, Nat.not_lt_zero, if_false]
      exact hi'

theorem Piped.pollPort (h : Piped D s) (hpayload : 4 ≤ D.config.portPLSize) {input : ReadResult}
    (hstep : step D portConfig s (.pollPort input) = some t) : Piped D t := by
  obtain ⟨poll, w, hpoll, -, hport, rfl⟩ := step_pollPort hstep
  obtain ⟨hsize, hle⟩ := processTX_payload hpayload (portConfig poll.port) poll.counter input w
  generalize w.processTX D.config (portConfig poll.port) poll.counter input = r at *
  obtain ⟨hdata, hplSz, hothers⟩ := pollPort_spec s.txBuff hport hsize hle
  obtain ⟨sent, hchannel, hlog⟩ := h.up
  have hbuilt := h.built poll hpoll
  refine ⟨h.serving, h.up_open, ?_, ?_, ⟨sent, hchannel, ?_⟩, h.down⟩
  · intro poll' hpoll'
    obtain rfl := Option.some.inj hpoll'
    exact hport
  · intro poll' hpoll' j hj
    obtain rfl := Option.some.inj hpoll'
    have hj' : j < poll.port + 1 := hj
    rcases Nat.lt_succ_iff_lt_or_eq.mp hj' with hlt | rfl
    · show (mapRequest j (DataProcessor.pollPort D.config r.2.1 r.2.2 s.txBuff poll).1).plSz.toNat
        ≤ D.cfg.dataPayloadSize
      rw [(hothers j (by omega) (by omega)).mapRequest_eq]
      exact hbuilt j hlt
    · exact hplSz
  · intro i hi
    have hi' := hlog i hi
    simp only [building, hpoll] at hi'
    have hnext : (DataProcessor.pollPort D.config r.2.1 r.2.2 s.txBuff poll).2.port =
        poll.port + 1 := rfl
    simp only [building, hnext]
    by_cases heq : i = poll.port
    · -- the port just asked: its bytes are in the buffer now
      subst heq
      rw [if_neg (Nat.lt_irrefl _), List.append_nil] at hi'
      rw [if_pos (Nat.lt_succ_self _), hdata, hi']
      by_cases htype : r.2.1.type = .Data
      · rw [if_pos ⟨rfl, htype⟩, if_pos htype]
      · rw [if_neg (fun hc => htype hc.2), if_neg htype, List.append_nil]
    · rw [if_neg (fun hc => heq hc.1), hi']
      by_cases hlt : i < poll.port
      · rw [if_pos hlt, if_pos (by omega), (hothers i hi heq).symm.uplinkData_eq (hbuilt i hlt)]
      · rw [if_neg hlt, if_neg (by omega)]

theorem Piped.pollSend (h : Piped D s) (htcp : D.config.enableUDP = false)
    {udpTransportPort : UInt16} {results : List TCPTransport.SendResult}
    (hstep : step D portConfig s (.pollSend udpTransportPort results) = some t) : Piped D t := by
  obtain ⟨poll, hpoll, hport, rfl⟩ := step_pollSend htcp hstep
  obtain ⟨sent, hchannel, hlog⟩ := h.up
  have hbuilt := h.built poll hpoll
  generalize htx : (DataProcessor.pollFinish D.config s.txBuff poll).1 = txBuff at *
  have hagree : ∀ i, i < D.cfg.uartCount → PortAgree D.cfg i txBuff s.txBuff := by
    intro i hi
    rw [← htx]
    exact agree_writeU32 D.cfg hi _ s.txBuff
  have hplSz (i : Nat) (hi : i < D.cfg.uartCount) :
      (mapRequest i txBuff).plSz.toNat ≤ D.cfg.dataPayloadSize := by
    rw [(hagree i hi).mapRequest_eq]
    exact hbuilt i (by omega)
  refine ⟨h.serving, h.up_open, fun _ hc => (by cases hc), fun _ hc => (by cases hc),
    ⟨fun i => sent i ++ uplinkData D.cfg i txBuff, ?_, ?_⟩, h.down⟩
  · exact hchannel.send fun i mem hi hmem => (hmem.uplinkData_eq (hplSz i hi)).symm
  · intro i hi
    have hi' := hlog i hi
    simp only [building, hpoll] at hi'
    rw [if_pos (by omega), (hagree i hi).symm.uplinkData_eq (hbuilt i (by omega))] at hi'
    simp only [building, List.append_nil]
    exact hi'

theorem Piped.recv (h : Piped D s) {count : Nat}
    (hstep : step D portConfig s (.recv count) = some t) : Piped D t := by
  simp only [step] at hstep
  split at hstep
  · rename_i hguard
    obtain ⟨-, -, hleft, hdown⟩ := hguard
    have hlen : (s.down.take count).length = count := by
      rw [List.length_take]
      exact Nat.min_eq_left hdown
    have hchannel := h.down
    by_cases hmore : 0 < s.reader.dataLeft - count
    · -- the package is not complete yet: the bytes go where the next ones are missing
      have hr : TCPTransport.received D.config (s.down.take count) s.reader =
          ({ rxBuff := ByteMem.write s.reader.rxBuff
              (D.cfg.packageSize - s.reader.dataLeft) (s.down.take count)
             dataLeft := s.reader.dataLeft - count }, .goOn) := by
        simp only [TCPTransport.received, hlen, if_pos hmore, D.packageSize_eq]
      rw [hr, Option.some.injEq] at hstep
      subst hstep
      exact ⟨h.serving, h.up_open, h.port_le, h.built, h.up, hchannel.store (by omega) hdown⟩
    · -- the package is complete
      have hcount : count = s.reader.dataLeft := by omega
      subst hcount
      obtain ⟨hsum, -, hnext⟩ := hchannel.complete hdown
      have hr : TCPTransport.received D.config (s.down.take s.reader.dataLeft) s.reader =
          ({ rxBuff := ByteMem.write s.reader.rxBuff
              (D.cfg.packageSize - s.reader.dataLeft) (s.down.take s.reader.dataLeft)
             dataLeft := D.cfg.packageSize }, .package) := by
        simp only [TCPTransport.received, hlen, if_neg hmore, D.packageSize_eq, D.metaSz_eq, hsum,
          ne_eq, not_true_eq_false, if_false]
      rw [hr, Option.some.injEq] at hstep
      subst hstep
      exact ⟨h.serving, h.up_open, h.port_le, h.built, h.up, hnext⟩
  · cases hstep

/-- The channel to the client after a pass: nothing was sent, or a package that
carries the responses just written. -/
theorem channel_respond {rxBuff : Nat → UInt8} {left : Nat} {stream : List UInt8}
    {sent handed : Nat → List (UInt8 × List UInt8)} {responses : List WrittenResponse}
    {bytes : List UInt8}
    (hchannel : Channel D (fun i mem => [downlinkPair D.config i mem]) rxBuff left stream sent
      handed)
    (hspec : responses = [] ∧ bytes = [] ∨
      ∃ before txBuff, Written D 0 D.cfg.uartCount before txBuff responses ∧
        (bytes.length = D.cfg.packageSize →
          bytes = ByteMem.read (sealPackage D.cfg.metaSz 0 txBuff) 0 D.cfg.packageSize))
    (hwhole : responses = [] ∧ bytes = [] ∨ bytes.length = D.cfg.packageSize) :
    Channel D (fun i mem => [downlinkPair D.config i mem]) rxBuff left (stream ++ bytes)
      (fun i => sent i ++ written responses i) handed := by
  have hempty (hnone : responses = [] ∧ bytes = []) :
      Channel D (fun i mem => [downlinkPair D.config i mem]) rxBuff left (stream ++ bytes)
        (fun i => sent i ++ written responses i) handed := by
    obtain ⟨rfl, rfl⟩ := hnone
    rw [List.append_nil]
    exact hchannel.congr (fun i _ => List.append_nil _) fun _ _ => rfl
  rcases hwhole with hnone | hlen
  · exact hempty hnone
  · rcases hspec with hnone | ⟨before, txBuff, hwritten, hbytes⟩
    · exact hempty hnone
    · rw [hbytes hlen]
      -- what the client reads for a port is the response written for it
      have hpair (i : Nat) (hi : i < D.cfg.uartCount) :
          written responses i = [downlinkPair D.config i txBuff] ∧
            (txBuff (headerOffset i + 2)).toNat ≤ D.cfg.dataPayloadSize := by
        have hi' : i < responses.length := by
          rw [hwritten.length_eq]
          exact hi
        have hget : responses[i]? = some responses[i] := List.getElem?_eq_getElem hi'
        obtain ⟨hp, hsize⟩ := hwritten.pair_eq i _ hget
        rw [Nat.zero_add] at hp hsize
        exact ⟨by rw [written, hget, hp]; rfl, hsize⟩
      refine (hchannel.send ?_).congr ?_ fun _ _ => rfl
      · intro i mem hi hmem
        rw [hmem.downlinkPair_eq (hpair i hi).2]
      · intro i hi
        rw [(hpair i hi).1]

theorem Piped.loop (h : Piped D s) {input : LoopInput}
    (hstep : step D portConfig s (.loop input) = some t) : Piped D t := by
  obtain ⟨halive, p, hp, hwhole, rfl⟩ := step_loop hstep
  obtain ⟨sent, hchannel, hlog⟩ := h.up
  obtain ⟨hserving, hnext, hresponses⟩ := loop_spec h.serving halive hchannel hp
  exact ⟨hserving, h.up_open, h.port_le, h.built, ⟨sent, hnext, hlog⟩,
    channel_respond h.down hresponses hwhole⟩

/-- **One step.** -/
theorem piped_step (htcp : D.config.enableUDP = false) (hpayload : 4 ≤ D.config.portPLSize)
    (h : Piped D s) {e : Event size} (hstep : step D portConfig s e = some t) : Piped D t := by
  cases e with
  | pollStart counter => exact h.pollStart hstep
  | pollPort input => exact h.pollPort hpayload hstep
  | pollSend udpTransportPort results => exact h.pollSend htcp hstep
  | recv count => exact h.recv hstep
  | loop input => exact h.loop hstep
  | other i w =>
    rw [step, Option.some.injEq] at hstep
    subst hstep
    exact ⟨h.serving, h.up_open, h.port_le, h.built, h.up, h.down⟩

/-! ## Whole runs -/

theorem Piped.endToEnd (h : Piped D s) : EndToEnd D s := by
  obtain ⟨sent, hchannel, hlog⟩ := h.up
  have hdown := h.down
  have hport (i : Nat) (hi : i < D.config.portCount) : i < D.cfg.uartCount := D.portCount_eq ▸ hi
  refine ⟨⟨h.up_open, h.serving.connected⟩, ?_, ?_,
    fun i hi => hdown.handed_prefix (hport i hi), ?_⟩
  · intro i hi
    rw [hlog i (hport i hi)]
    exact (hchannel.handed_prefix (hport i hi)).trans (List.prefix_append _ _)
  · intro hpoll hup i hi
    rw [hup] at hchannel
    rw [hlog i (hport i hi), hchannel.sent_eq (hport i hi)]
    simp only [building, hpoll, List.append_nil]
  · intro hnone i hi
    rw [hnone] at hdown
    exact (hdown.sent_eq (hport i hi)).symm

/-- **The pipeline.** Over one TCP connection that stays up, without UDP, the
payloads each of the firmware's workers receives are what was read from its
port's clients, and the responses each port worker is handed are what was written
for its UART: in order, from the first on, and all of them once everything sent
has been delivered. -/
theorem end_to_end (D : Deployment) (htcp : D.config.enableUDP = false)
    (hpayload : 4 ≤ D.config.portPLSize) (portConfig : Nat → PortConfig)
    (ports : List (PortWorker UInt8 size)) (txBuff rxBuff : Nat → UInt8) (fw : MainLoop fwSize)
    (hfw : Accepted D.cfg fw) (es : List (Event size)) (s : State size fwSize)
    (hrun : exec (step D portConfig) (init D ports txBuff rxBuff fw) es = some s) :
    EndToEnd D s :=
  (exec_invariant (Piped D) (fun _ _ _ h hstep => piped_step htcp hpayload h hstep)
    (Piped.start ports txBuff rxBuff hfw) hrun).endToEnd

/-! ## What is logged is what the workers are called with -/

/-- Without a complete package no port worker is called and nothing is logged. -/
theorem kept_of_recv {count : Nat} (hstep : step D portConfig s (.recv count) = some t)
    (hpackage :
      (TCPTransport.received D.config (s.down.take count) s.reader).2 ≠ .package) :
    t.ports = s.ports ∧ t.handedLog = s.handedLog := by
  simp only [step] at hstep
  split at hstep
  · split at hstep
    · cases hstep
      exact ⟨rfl, rfl⟩
    · rename_i heq
      exact absurd heq hpackage
    · cases hstep
      exact ⟨rfl, rfl⟩
  · cases hstep

/-- What a request makes of the UART worker, and what it adds to the port's log:
the payload is what `ProcessRequest` reads from the slot it is given. -/
inductive Brings (now : UInt32) (slot : Nat → UInt8) (w : Option (UARTWorker fwSize))
    (log : List UInt8) : Option Firmware.Request → Option (UARTWorker fwSize) → List UInt8 → Prop
  | nothing : Brings now slot w log none w log
  | payload (request : Firmware.Request) (type : request.type = .Data) :
      Brings now slot w log (some request)
        (w.map fun w => (w.processRequest now slot request).1)
        (log ++ ByteMem.read slot 0 request.plSz.toNat)
  | command (request : Firmware.Request) (type : request.type ≠ .Data) :
      Brings now slot w log (some request)
        (w.map fun w => (w.processRequest now slot request).1) log

/-- In a pass `ProcessRequest` of every worker is called with the request of the
package, if one has come, before anything else happens to the workers. -/
theorem brings_of_loop {input : LoopInput}
    (hstep : step D portConfig s (.loop input) = some t) (i : Nat) :
    let r := s.fw.receive D.cfg input
    Brings input.millis (fun k => r.1.rxBuff (D.cfg.slotOffset i + k)) s.fw.uartWorker[i]?
      (s.requestLog i) (requestOf D.cfg s.fw input i)
      (r.1.handle D.cfg input r.2.1).uartWorker[i]? (t.requestLog i) := by
  obtain ⟨-, p, hp, -, rfl⟩ := step_loop hstep
  have hworkers := receive_uartWorker D.cfg input s.fw
  dsimp only
  rw [(loop_event hp).1, loop_rxBuff hp, requestOf]
  cases (s.fw.receive D.cfg input).2.1 with
  | NoEvent | Connected | Disconnected =>
    simp only [MainLoop.handle, hworkers, requested, List.append_nil]
    exact .nothing
  | NewRequest data =>
    simp only [MainLoop.handle, (takeCounter_collect D.cfg input.micros _).1,
      MainLoop.processRequests, hworkers, List.getElem?_mapIdx, requested, uplinkData]
    split
    next htype =>
      rw [← ByteMem.read_shift]
      exact .payload _ htype
    next htype =>
      rw [List.append_nil]
      exact .command _ htype

/-! ## A run -/

open Deployment (ring16 port57600)

/-- Two UARTs with slots of four bytes. -/
def twoUARTs : Configuration where
  portIOSize := 4
  ioAggregateMultiplier := 1
  dataBufferSize := 32
  uartCount := 2
  uartPollIntervalUSDefault := 1000
  multiplier_pos := Nat.one_pos
  dataBufferSize_pos := by decide
  dataBufferSize_lt := by decide
  payload_le := by decide

def twoPorts : Deployment := Deployment.matching twoUARTs false 1000

/-- What a pass gets while nothing happens. -/
def quietInput (millis micros : UInt32) (arrived : List UInt8) : LoopInput :=
  { linkOn := true
    tcp := { accept := none, connected := true, available := arrived, readSz := 7 }
    udpBegin := true, udpPacket := none, udpBeginPacket := true, tcpWrites := [3, 40]
    millis := millis, micros := micros, availableForWrite := fun _ => 0
    uartInput := fun i => if i = 0 then [0x61] else [0x62, 0x63] }

def poweredUp : MainLoop 32 :=
  let ring := DataBuffer.create (fun _ => 0) twoUARTs.dataBufferSize_pos
  MainLoop.setup twoUARTs [ring, ring] 0 0

/-- The pass that finds the client. -/
def acceptInput : LoopInput :=
  { quietInput 5 5000 [] with
    tcp := { accept := some 0x0100007F, connected := true, available := [], readSz := 1 } }

def acceptPass : Pass 32 :=
  (poweredUp.loop twoUARTs acceptInput).getD
    { state := poweredUp, consumed := 0, event := .NoEvent false, responses := [], sent := []
      datagram := none }

theorem accepted_acceptPass : Accepted twoPorts.cfg acceptPass.state :=
  ⟨_, 0, 0, [], poweredUp, acceptInput, 0x0100007F, acceptPass, rfl, rfl, rfl, rfl, rfl, rfl⟩

/-- Port 0 is to be opened, port 1 has a client. -/
def twoWorkers : List (PortWorker UInt8 16) :=
  let w := PortWorker.create twoPorts.config (ring16 0)
  [{ w with connected := true },
    { w with connected := true, openPending := false, client := some 4 }]

def established : State 16 32 :=
  init twoPorts twoWorkers (fun _ => 0) (fun _ => 0) acceptPass.state

/-- A package is built and sent, in pieces. -/
def sending : List (Event 16) :=
  [.pollStart 1, .pollPort (.error .EAGAIN), .pollPort (.bytes [0x41, 0x42]),
    .pollSend 0 [.sent 5, .error .EINTR, .sent 100]]

def afterSending : State 16 32 :=
  (exec (step twoPorts (port57600 false)) established sending).getD established

/-- It arrives in three pieces, and a millisecond later a response is due. -/
def exchange : List (Event 16) :=
  sending ++ [.loop (quietInput 6 5100 afterSending.up),
    .loop (quietInput 7 5200 (afterSending.up.drop 7)),
    .loop (quietInput 8 6100 (afterSending.up.drop 14)), .loop (quietInput 9 7100 []),
    .recv 10, .recv 11]

def afterExchange : State 16 32 :=
  (exec (step twoPorts (port57600 false)) established exchange).getD established

/-- The second port's bytes arrive at the second worker, and what the first UART
read comes back to the first port worker. -/
theorem end_to_end_exchange : EndToEnd twoPorts afterExchange ∧
    afterExchange.requestLog 1 = [0x41, 0x42] ∧
    afterExchange.handedLog 0 = [(0, [0x61])] :=
  ⟨end_to_end twoPorts rfl (by decide) (port57600 false) twoWorkers (fun _ => 0) (fun _ => 0)
    acceptPass.state accepted_acceptPass exchange afterExchange
    (exec_eq_some_getD (by decide +kernel)), by decide +kernel, by decide +kernel⟩

end UartBridge.Pipeline
