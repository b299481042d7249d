import UartBridge.System.PassLink
import UartBridge.System.UdpDatagrams

/-!
# UDP state and TCP sessions

The passes of the loop are recorded, and the record says what a session is: it
begins with a `Connected` event and lasts until the next `Connected` or
`Disconnected` one. The state of the UDP server is then a function of the session,
so nothing of an earlier one is left in it.

* `Session` — a session by its record: the client, the datagrams accepted, and the
  responses sent over UDP;
* `Matches` — what the UDP server has to do with the session, kept by every pass;
* `separate_of_run` — in every pass of every run.
-/

namespace UartBridge.UdpState

open EventRun Client Firmware
open UdpDatagrams (sequenceNumber)

variable {size : Nat}

/-! ## The record of a run -/

/-- A pass, with the event of the TCP server in it. -/
structure Entry (size : Nat) where
  input : LoopInput
  tcp : ClientEvent
  pass : Pass size

structure State (size : Nat) where
  board : MainLoop size
  log : List (Entry size)

def init (cfg : Configuration) (rxRingBuffs : List (DataBuffer UInt8 size))
    (millis micros : UInt32) : State size :=
  { board := .setup cfg rxRingBuffs millis micros, log := [] }

/-- A pass of the loop. -/
def step (cfg : Configuration) (s : State size) (input : LoopInput) : Option (State size) :=
  (s.board.loop cfg input).map fun p =>
    { board := p.state
      log := s.log ++ [{ input := input, tcp := tcpEvent cfg input s.board, pass := p }] }

/-- The source port of the datagram accepted in a pass: if the TCP side has no event, a
request can only come from a datagram. -/
def acceptedPort (tcp event : ClientEvent) (packet : Option Packet) : Option UInt16 :=
  match tcp, event with
  | .NoEvent _, .NewRequest _ => packet.map (·.remotePort)
  | _, _ => none

def Entry.accepted (e : Entry size) : Option UInt16 :=
  acceptedPort e.tcp e.pass.event e.input.udpPacket

/-! ## Sessions -/

/-- What happened since the last `Connected` or `Disconnected`: the address of the client,
the source ports of the datagrams accepted, and the number of responses sent over UDP. -/
structure Session where
  client : Option UInt32
  accepted : List UInt16
  sent : Nat
  deriving DecidableEq, Repr

namespace Session

def none : Session := { client := .none, accepted := [], sent := 0 }

/-- The event of the TCP side, or a datagram. -/
def received (x : Session) (tcp : ClientEvent) (port : Option UInt16) : Session :=
  match tcp with
  | .Connected remoteAddr => { client := some remoteAddr, accepted := [], sent := 0 }
  | .Disconnected _ => none
  | .NoEvent _ | .NewRequest _ => { x with accepted := x.accepted ++ port.toList }

/-- What is sent at the end of a pass. -/
def responded (x : Session) (datagram : Option SentPacket) : Session :=
  { x with sent := x.sent + datagram.toList.length }

/-- The first source port that is not zero. -/
def firstPort (x : Session) : Option UInt16 := x.accepted.find? (fun port => port ≠ 0)

end Session

/-- The session before the responses of a pass. -/
def Entry.session (e : Entry size) (x : Session) : Session := x.received e.tcp e.accepted

/-- The session at the end of a record. -/
def session (log : List (Entry size)) : Session :=
  log.foldl (fun x e => (e.session x).responded e.pass.datagram) .none

@[simp] theorem session_nil : session ([] : List (Entry size)) = .none := rfl

theorem session_concat (log : List (Entry size)) (e : Entry size) :
    session (log ++ [e]) = (e.session (session log)).responded e.pass.datagram := by
  unfold session
  rw [List.foldl_append]
  rfl

/-- A TCP event that begins or ends a session. -/
def Control (tcp : ClientEvent) : Prop :=
  ∃ remoteAddr, tcp = .Connected remoteAddr ∨ tcp = .Disconnected remoteAddr

/-- **The property of a pass**, after those before it. Once a `Connected` or `Disconnected`
event was handled, the UDP server is stopped and forgets everything. It knows a port only
while it is started, from a datagram of this session; until one was accepted, every response
goes over TCP. A response over UDP goes to this session's client, at the first port that is
not zero, and carries the number of those sent before it. -/
structure Separate (cfg : Configuration) (before : List (Entry size)) (e : Entry size) :
    Prop where
  stopped : Control e.tcp →
    e.pass.state.udpServer.serverStarted = false ∧ e.pass.state.udpServer.clientUDPPort = 0 ∧
      e.pass.state.udpServer.serverSeq = 0 ∧ e.pass.state.udpServer.clientSeq = 0
  recorded : e.pass.state.udpServer.clientUDPPort ≠ 0 →
    e.pass.state.udpServer.serverStarted = true ∧ (e.session (session before)).accepted ≠ []
  first_over_tcp : (e.session (session before)).accepted = [] → e.pass.datagram = none
  over_tcp : e.pass.responses ≠ [] → (e.session (session before)).client ≠ none →
    e.pass.datagram = none → e.pass.sent = (TCPServer.writeLoop cfg.packageSize
      e.pass.state.txBuff e.input.tcpWrites cfg.packageSize).1
  over_udp : ∀ datagram, e.pass.datagram = some datagram →
    (e.session (session before)).client = some datagram.addr ∧
      (e.session (session before)).firstPort = some datagram.port ∧
      (sequenceNumber datagram.bytes).toNat = (e.session (session before)).sent % 0x10000

/-! ## The UDP server in a session -/

/-- The UDP server, and whether there is a client, as the session says. -/
structure Matches (u : UDPServer) (client : Bool) (x : Session) : Prop where
  client_eq : client = x.client.isSome
  addr_eq : ∀ addr, x.client = some addr → u.clientAddr = addr
  port_eq : u.clientUDPPort = x.firstPort.getD 0
  started : x.accepted ≠ [] → u.serverStarted = true
  seq_eq : u.clientSeq = UInt16.ofNat x.sent

theorem Matches.create : Matches UDPServer.create false .none :=
  ⟨rfl, fun _ h => (by cases h), rfl, fun h => absurd rfl h, rfl⟩

/-- A new session. -/
theorem Matches.fresh {remoteAddr : UInt32} {client : Option UInt32}
    (haddr : ∀ addr, client = some addr → remoteAddr = addr) :
    Matches { clientAddr := remoteAddr, serverSeq := 0, clientUDPPort := 0, clientSeq := 0
              serverStarted := false } client.isSome
      { client := client, accepted := [], sent := 0 } :=
  ⟨rfl, haddr, rfl, fun h => absurd rfl h, rfl⟩

/-- Nothing accepted. -/
theorem Matches.same {u : UDPServer} {client : Bool} {x : Session} (h : Matches u client x)
    {tcp : ClientEvent} (hquiet : ¬ Control tcp) : Matches u client (x.received tcp none) := by
  have hx : x.received tcp none = x := by
    cases tcp with
    | Connected remoteAddr => exact absurd ⟨remoteAddr, Or.inl rfl⟩ hquiet
    | Disconnected remoteAddr => exact absurd ⟨remoteAddr, Or.inr rfl⟩ hquiet
    | NoEvent | NewRequest => simp [Session.received]
  rw [hx]
  exact h

/-- The first port that is not zero stays the first. -/
theorem firstPort_concat (x : Session) (port : UInt16) :
    ({ x with accepted := x.accepted ++ [port] } : Session).firstPort.getD 0 =
      if x.firstPort.getD 0 < 1 then port else x.firstPort.getD 0 := by
  unfold Session.firstPort
  rw [List.find?_append]
  cases hfind : x.accepted.find? (fun port => port ≠ 0) with
  | none =>
    by_cases hport : port = 0
    · simp [hport]
    · simp [hport]
  | some first =>
    have hne : first ≠ 0 := by simpa using List.find?_some hfind
    have hpos : ¬ first < 1 := by
      rw [UInt16.lt_iff_toNat_lt]
      intro hlt
      exact hne (UInt16.toNat.inj (by simpa using hlt))
    simp [hpos]

/-- **A datagram**: only one that is accepted concerns the session. -/
theorem Matches.readPacket {s : UDPServer.RxState} {client : Bool} {x : Session}
    (h : Matches s.server client x) (hstarted : s.server.serverStarted = true)
    (pkgSz metaSz : Nat) (packet : Option Packet) (millis : UInt32) (pkgReading : Bool) :
    let r := UDPServer.readPacket pkgSz metaSz packet millis s
    Matches r.1.server client
      (x.received (.NoEvent pkgReading) (acceptedPort (.NoEvent pkgReading) r.2 packet)) := by
  have hquiet : ¬ Control (.NoEvent pkgReading) := by
    rintro ⟨addr, h | h⟩ <;> cases h
  unfold UDPServer.readPacket
  cases packet with
  | none => exact h.same hquiet
  | some packet =>
    dsimp only
    split
    · exact h.same hquiet
    · split
      · exact h.same hquiet
      · unfold UDPServer.dropOldSeq
        dsimp only
        split
        · -- accepted: the port is recorded unless one is
          simp only [Bool.false_eq_true, if_false]
          refine ⟨?_, ?_, ?_, ?_, ?_⟩
          · exact h.client_eq
          · intro addr haddr
            rw [← h.addr_eq addr haddr]
            split <;> rfl
          · refine Eq.trans ?_ (firstPort_concat x packet.remotePort).symm
            rw [← h.port_eq]
            split <;> rfl
          · intro _
            rw [← hstarted]
            split <;> rfl
          · refine Eq.trans ?_ h.seq_eq
            split <;> rfl
        · simp only [if_true]
          exact h.same hquiet

/-- The client flag after the event of the TCP side. -/
theorem controlEvent_client (cfg : Configuration) (micros : UInt32) (tcp : ClientEvent)
    (s : MainLoop size) (port : Option UInt16) {x : Session}
    (h : s.tcpClientState = x.client.isSome) :
    (s.controlEvent cfg micros tcp).tcpClientState = (x.received tcp port).client.isSome := by
  cases tcp with
  | Connected | Disconnected => rfl
  | NoEvent | NewRequest => exact h

/-- **The UDP server's turn.** -/
theorem Matches.processRX {s : UDPServer.RxState} {client client' : Bool} {x : Session}
    (h : Matches s.server client x) (pkgSz metaSz : Nat) (beginOk : Bool)
    (packet : Option Packet) (millis : UInt32) (tcp : ClientEvent)
    (hclient : ∀ port, client' = (x.received tcp port).client.isSome) :
    let r := UDPServer.processRX pkgSz metaSz beginOk packet millis tcp s
    Matches r.1.server client' (x.received tcp (acceptedPort tcp r.2 packet)) := by
  have hsame : client' = client ∨ Control tcp := by
    cases tcp with
    | Connected remoteAddr => exact Or.inr ⟨remoteAddr, Or.inl rfl⟩
    | Disconnected remoteAddr => exact Or.inr ⟨remoteAddr, Or.inr rfl⟩
    | NoEvent | NewRequest => exact Or.inl ((hclient none).trans h.client_eq.symm)
  cases tcp with
  | Connected remoteAddr =>
    rw [hclient none]
    exact @Matches.fresh remoteAddr (some remoteAddr) fun addr haddr => Option.some.inj haddr
  | Disconnected remoteAddr =>
    rw [hclient none]
    exact @Matches.fresh remoteAddr none fun addr haddr => (by cases haddr)
  | NewRequest data =>
    have hquiet : ¬ Control (.NewRequest data) := by
      rintro ⟨addr, h | h⟩ <;> cases h
    obtain rfl := hsame.resolve_right hquiet
    cases data with
    | udpSrvStarted started => exact h.same hquiet
    | udpPort port =>
      unfold UDPServer.processRX
      dsimp only
      split
      · -- the server is started, if `begin` succeeds
        rename_i hstart
        have hnone : x.accepted = [] := by
          by_contra hsome
          simp [h.started hsome] at hstart
        have hopen : Matches { s.server with serverStarted := beginOk } client' x :=
          ⟨h.client_eq, h.addr_eq, h.port_eq, fun hsome => absurd hnone hsome, h.seq_eq⟩
        exact hopen.same hquiet
      · exact h.same hquiet
  | NoEvent pkgReading =>
    have hquiet : ¬ Control (.NoEvent pkgReading) := by
      rintro ⟨addr, h | h⟩ <;> cases h
    obtain rfl := hsame.resolve_right hquiet
    unfold UDPServer.processRX
    dsimp only
    split
    · exact h.same hquiet
    · rename_i hstarted
      have hstarted : s.server.serverStarted = true := by
        by_contra hoff
        simp [hoff] at hstarted
      exact h.readPacket hstarted pkgSz metaSz packet millis pkgReading

/-! ## A pass -/

variable {cfg : Configuration} {input : LoopInput}

/-- The servers' turn, with the client flag of the loop. -/
theorem Matches.receive {s : MainLoop size} {x : Session}
    (h : Matches s.udpServer s.tcpClientState x) :
    let r := s.receive cfg input
    Matches r.1.udpServer r.1.tcpClientState
      (x.received (tcpEvent cfg input s)
        (acceptedPort (tcpEvent cfg input s) r.2.1 input.udpPacket)) := by
  have hclient (port : Option UInt16) (t : MainLoop size)
      (ht : t.tcpClientState = s.tcpClientState) :=
    controlEvent_client cfg input.micros (tcpEvent cfg input s) t port (ht.trans h.client_eq)
  have hserver (t : MainLoop size) (ht : t.udpServer = s.udpServer) :
      Matches (t.controlEvent cfg input.micros (tcpEvent cfg input s)).udpServer s.tcpClientState
        x := by
    rw [← ht] at h
    cases tcpEvent cfg input s <;> exact h
  -- what the TCP server leaves behind
  let r := (TCPServer.processRX cfg.packageSize cfg.metaSz input.tcp input.millis
    { server := s.tcpServer, rxBuff := s.rxBuff, alarmTimer := s.alarmTimer }).1
  have hstart := hserver
    { s with tcpServer := r.server, rxBuff := r.rxBuff, alarmTimer := r.alarmTimer } rfl
  exact Matches.processRX hstart cfg.packageSize cfg.metaSz input.udpBegin input.udpPacket
    input.millis (tcpEvent cfg input s) fun port => hclient port _ rfl

/-- What comes after the servers' turn keeps the UDP server. -/
theorem beforePoll_udp (cfg : Configuration) (input : LoopInput) (s : MainLoop size) :
    (beforePoll cfg input s).udpServer = (s.receive cfg input).1.udpServer ∧
      (beforePoll cfg input s).tcpClientState = (s.receive cfg input).1.tcpClientState := by
  unfold beforePoll MainLoop.handle
  dsimp only
  cases (s.receive cfg input).2.1 with
  | NewRequest =>
    unfold MainLoop.takeCounter
    dsimp only
    split <;> exact ⟨rfl, rfl⟩
  | NoEvent | Connected | Disconnected => exact ⟨rfl, rfl⟩

/-- What the end of a pass has to do with the session. -/
structure Answers (cfg : Configuration) (input : LoopInput) (x : Session) (t : MainLoop size)
    (sent : List UInt8) (datagram : Option SentPacket) : Prop where
  keeps : Matches t.udpServer t.tcpClientState (x.responded datagram)
  over_tcp : x.client ≠ none → datagram = none → sent = (TCPServer.writeLoop cfg.packageSize
    t.txBuff input.tcpWrites cfg.packageSize).1
  over_udp : ∀ d, datagram = some d → x.client = some d.addr ∧ x.firstPort = some d.port ∧
    (sequenceNumber d.bytes).toNat = x.sent % 0x10000

/-- The number in a datagram of the firmware. -/
theorem sequenceNumber_sealed {cfg : Configuration} (header : UInt16) (txBuff : Nat → UInt8) :
    sequenceNumber (ByteMem.read (sealPackage cfg.metaSz header txBuff) 0 cfg.packageSize) =
      header := by
  have hmeta : 2 ≤ cfg.metaSz := Nat.le_trans (by decide) (Nat.le_add_right _ _)
  have hpkg : 2 ≤ cfg.packageSize := by
    unfold Configuration.packageSize
    omega
  have hcell (k : Nat) (hk : k < cfg.packageSize) :
      (ByteMem.read (sealPackage cfg.metaSz header txBuff) 0 cfg.packageSize).getD k 0 =
        sealPackage cfg.metaSz header txBuff k := by
    rw [List.getD_eq_getElem?_getD,
      List.getElem?_eq_getElem (by rw [ByteMem.length_read]; exact hk), Option.getD_some,
      ByteMem.getElem_read, Nat.zero_add]
  unfold sequenceNumber
  rw [hcell 0 (by omega), hcell 1 (by omega)]
  exact sealPackage_header header txBuff hmeta

/-- **The end of a pass.** -/
theorem Matches.transmit {s : MainLoop size} {x : Session}
    (h : Matches s.udpServer s.tcpClientState x) :
    let t := s.transmit cfg input
    Answers cfg input x t.1 t.2.1 t.2.2 := by
  unfold MainLoop.transmit
  dsimp only
  split
  · rename_i hoff
    refine ⟨h, fun hclient => ?_, fun d hd => (by cases hd)⟩
    rw [h.client_eq, Bool.not_eq_true', Option.isSome_eq_false_iff, Option.isNone_iff_eq_none]
      at hoff
    exact absurd hoff hclient
  · rename_i hon
    rw [h.client_eq, Bool.not_eq_true', Bool.not_eq_false] at hon
    generalize hu : s.udpServer.processTX cfg.packageSize cfg.metaSz input.udpBeginPacket
      s.txBuff = u
    unfold UDPServer.processTX at hu
    split at hu
    · subst hu
      exact ⟨h, fun _ _ => rfl, fun d hd => (by cases hd)⟩
    · rename_i hready
      subst hu
      have hport : ¬ s.udpServer.clientUDPPort < 1 := by
        intro hlt
        simp [hlt] at hready
      obtain ⟨addr, haddr⟩ := Option.isSome_iff_exists.mp hon
      refine ⟨⟨h.client_eq, h.addr_eq, h.port_eq, h.started, ?_⟩, fun _ hd => (by cases hd), ?_⟩
      · show s.udpServer.clientSeq + 1 = UInt16.ofNat (x.sent + 1)
        rw [h.seq_eq, UInt16.ofNat_add]
        rfl
      · intro d hd
        have hd := Option.some.inj hd
        subst hd
        refine ⟨by rw [haddr, h.addr_eq addr haddr], ?_, ?_⟩
        · show x.firstPort = some s.udpServer.clientUDPPort
          rw [h.port_eq] at hport ⊢
          cases hfirst : x.firstPort with
          | none =>
            rw [hfirst] at hport
            exact absurd (by decide) hport
          | some port => rfl
        · exact (congrArg UInt16.toNat (sequenceNumber_sealed s.udpServer.clientSeq
            s.txBuff)).trans (by rw [h.seq_eq, UInt16.toNat_ofNat'])

/-- **The poll**: nothing is due yet, or a response goes out. -/
theorem Matches.pollUARTs {s : MainLoop size} {x : Session}
    (h : Matches s.udpServer s.tcpClientState x) (cfg : Configuration) (input : LoopInput) :
    let p := s.pollUARTs cfg input
    Matches p.1.udpServer p.1.tcpClientState x ∧ p.2 = ([], [], none) ∨
      Answers cfg input x p.1 p.2.2.1 p.2.2.2 := by
  unfold MainLoop.pollUARTs
  dsimp only
  split
  · exact Or.inl ⟨h, rfl⟩
  · split
    · split
      · exact Or.inl ⟨h, rfl⟩
      · right
        exact Matches.transmit h
    · right
      exact Matches.transmit h

/-! ## Sessions that begin or end -/

theorem receive_control {s : MainLoop size} (h : Control (tcpEvent cfg input s)) :
    ∃ remoteAddr, (s.receive cfg input).1.udpServer =
      { clientAddr := remoteAddr, serverSeq := 0, clientUDPPort := 0, clientSeq := 0
        serverStarted := false } := by
  obtain ⟨remoteAddr, h⟩ := h
  refine ⟨remoteAddr, ?_⟩
  unfold tcpEvent at h
  unfold MainLoop.receive
  dsimp only
  rcases h with h | h
  · rw [h]
    rfl
  · rw [h]
    rfl

/-- The poll counts responses, and changes nothing else of the UDP server. -/
theorem pollUARTs_udp (cfg : Configuration) (input : LoopInput) (s : MainLoop size) : ∃ clientSeq,
    (s.pollUARTs cfg input).1.udpServer = { s.udpServer with clientSeq := clientSeq } := by
  have htransmit (v : MainLoop size) (hv : v.udpServer = s.udpServer) : ∃ clientSeq,
      (v.transmit cfg input).1.udpServer = { s.udpServer with clientSeq := clientSeq } := by
    rw [← hv]
    unfold MainLoop.transmit
    dsimp only
    split
    · exact ⟨v.udpServer.clientSeq, rfl⟩
    · generalize hu : v.udpServer.processTX cfg.packageSize cfg.metaSz input.udpBeginPacket
        v.txBuff = u
      unfold UDPServer.processTX at hu
      split at hu
      · subst hu
        exact ⟨v.udpServer.clientSeq, rfl⟩
      · subst hu
        exact ⟨v.udpServer.clientSeq + 1, rfl⟩
  unfold MainLoop.pollUARTs
  dsimp only
  split
  · exact ⟨s.udpServer.clientSeq, rfl⟩
  · split
    · split
      · exact ⟨s.udpServer.clientSeq, rfl⟩
      · exact htransmit _ rfl
    · exact htransmit _ rfl

/-- After a `Connected` or `Disconnected` event the session is new. -/
theorem Control.received {tcp : ClientEvent} (h : Control tcp) (x : Session)
    (port : Option UInt16) :
    (x.received tcp port).accepted = [] ∧ (x.received tcp port).sent = 0 := by
  obtain ⟨remoteAddr, rfl | rfl⟩ := h <;> exact ⟨rfl, rfl⟩

/-- A port known is one of a datagram accepted. -/
theorem Matches.accepted_ne_nil {u : UDPServer} {client : Bool} {x : Session}
    (h : Matches u client x) (hport : u.clientUDPPort ≠ 0) : x.accepted ≠ [] := by
  intro hnil
  refine hport ?_
  rw [h.port_eq, Session.firstPort, hnil]
  rfl

/-! ## The run -/

/-- What holds along a run. -/
structure Kept (cfg : Configuration) (s : State size) : Prop where
  matching : Matches s.board.udpServer s.board.tcpClientState (session s.log)
  separate : EachAfter (Separate cfg) s.log

/-- A pass, as the session sees it. -/
theorem Separate.of_answers {before : List (Entry size)} {e : Entry size}
    (hstopped : Control e.tcp →
      ∃ clientAddr clientSeq, e.pass.state.udpServer =
        { clientAddr := clientAddr, serverSeq := 0, clientUDPPort := 0, clientSeq := clientSeq
          serverStarted := false })
    (h : Matches e.pass.state.udpServer e.pass.state.tcpClientState
          ((e.session (session before)).responded e.pass.datagram) ∧ e.pass.responses = [] ∧
          e.pass.datagram = none ∨
        Answers cfg e.input (e.session (session before)) e.pass.state e.pass.sent
          e.pass.datagram) :
    Separate cfg before e := by
  have hmatch : Matches e.pass.state.udpServer e.pass.state.tcpClientState
      ((e.session (session before)).responded e.pass.datagram) := h.elim (·.1) (·.keeps)
  have hudp : ∀ datagram, e.pass.datagram = some datagram →
      (e.session (session before)).client = some datagram.addr ∧
        (e.session (session before)).firstPort = some datagram.port ∧
        (sequenceNumber datagram.bytes).toNat = (e.session (session before)).sent % 0x10000 := by
    intro datagram hdatagram
    rcases h with ⟨-, -, hnone⟩ | hanswers
    · rw [hnone] at hdatagram
      cases hdatagram
    · exact hanswers.over_udp datagram hdatagram
  have hfirst : (e.session (session before)).accepted = [] → e.pass.datagram = none := by
    intro hnil
    cases hdatagram : e.pass.datagram with
    | none => rfl
    | some datagram =>
      obtain ⟨-, hport, -⟩ := hudp datagram hdatagram
      rw [Session.firstPort, hnil] at hport
      cases hport
  refine ⟨?_, ?_, hfirst, ?_, hudp⟩
  · intro hcontrol
    obtain ⟨clientAddr, clientSeq, hu⟩ := hstopped hcontrol
    obtain ⟨hnil, hsent⟩ := hcontrol.received (session before) e.accepted
    have hseq : e.pass.state.udpServer.clientSeq = 0 := by
      rw [hmatch.seq_eq, hfirst hnil]
      show UInt16.ofNat ((session before).received e.tcp e.accepted).sent = 0
      rw [hsent]
      rfl
    refine ⟨?_, ?_, ?_, hseq⟩ <;> rw [hu]
  · intro hport
    have hne := hmatch.accepted_ne_nil hport
    exact ⟨hmatch.started hne, hne⟩
  · intro hresponses hclient hnone
    rcases h with ⟨-, hempty, -⟩ | hanswers
    · exact absurd hempty hresponses
    · exact hanswers.over_tcp hclient hnone

variable {s t : State size}

/-- **A pass keeps the sessions apart.** -/
theorem Kept.step {input : LoopInput} (h : Kept cfg s) (hstep : step cfg s input = some t) :
    Kept cfg t := by
  obtain ⟨p, hp, rfl⟩ := Option.map_eq_some_iff.mp hstep
  obtain ⟨hstate, houtput⟩ := loop_poll hp
  obtain ⟨hevent, -⟩ := loop_event hp
  let e : Entry size := { input := input, tcp := tcpEvent cfg input s.board, pass := p }
  -- up to the poll
  obtain ⟨hudp, hclient⟩ := beforePoll_udp cfg input s.board
  have hbefore : Matches (beforePoll cfg input s.board).udpServer
      (beforePoll cfg input s.board).tcpClientState (e.session (session s.log)) := by
    rw [hudp, hclient]
    have haccepted : e.accepted = acceptedPort (tcpEvent cfg input s.board)
        (s.board.receive cfg input).2.1 input.udpPacket := by
      show acceptedPort (tcpEvent cfg input s.board) p.event input.udpPacket = _
      rw [hevent]
    rw [Entry.session, haccepted]
    exact h.matching.receive
  -- and the poll
  have hpoll : Matches p.state.udpServer p.state.tcpClientState (e.session (session s.log)) ∧
        (p.responses, p.sent, p.datagram) = ([], [], none) ∨
      Answers cfg input (e.session (session s.log)) p.state p.sent p.datagram := by
    have h := hbefore.pollUARTs cfg input
    dsimp only at h
    rw [← hstate, ← houtput] at h
    exact h
  have hstopped : Control e.tcp → ∃ clientAddr clientSeq, p.state.udpServer =
      { clientAddr := clientAddr, serverSeq := 0, clientUDPPort := 0, clientSeq := clientSeq
        serverStarted := false } := by
    intro hcontrol
    obtain ⟨remoteAddr, hfresh⟩ := receive_control hcontrol
    obtain ⟨clientSeq, hseq⟩ := pollUARTs_udp cfg input (beforePoll cfg input s.board)
    refine ⟨remoteAddr, clientSeq, ?_⟩
    rw [hstate, hseq, hudp, hfresh]
  have hends : Matches p.state.udpServer p.state.tcpClientState
        ((e.session (session s.log)).responded p.datagram) ∧ p.responses = [] ∧
          p.datagram = none ∨
      Answers cfg input (e.session (session s.log)) p.state p.sent p.datagram := by
    rcases hpoll with ⟨hmatch, hnothing⟩ | hanswers
    · obtain ⟨hresponses, hnothing⟩ := Prod.mk.inj hnothing
      obtain ⟨-, hdatagram⟩ := Prod.mk.inj hnothing
      refine Or.inl ⟨?_, hresponses, hdatagram⟩
      rw [hdatagram]
      exact hmatch
    · exact Or.inr hanswers
  refine ⟨?_, h.separate.concat (Separate.of_answers hstopped hends)⟩
  dsimp only
  rw [session_concat]
  exact hends.elim (·.1) (·.keeps)

/-- **No UDP state leaks between TCP sessions**, whatever arrives and whatever fails. -/
theorem separate_of_run (cfg : Configuration) (rxRingBuffs : List (DataBuffer UInt8 size))
    (millis micros : UInt32) (inputs : List LoopInput) (s : State size)
    (run : exec (step cfg) (init cfg rxRingBuffs millis micros) inputs = some s) :
    EachAfter (Separate cfg) s.log :=
  (exec_invariant (Kept cfg) (fun _ _ _ h hstep => h.step hstep)
    ⟨Matches.create, EachAfter.nil⟩ run).separate

/-! ## Two sessions of a board -/

open Deployment (ring512)

/-- A pass that finds the connection closed. -/
def closes (cfg : Configuration) : LoopInput :=
  { LoopInput.quiet cfg 0 [] with
    tcp := { accept := none, connected := false, available := [], readSz := 0 } }

/-- A client with UDP, two responses to it, and a client of which no datagram comes. -/
def twoClients : List LoopInput :=
  [.accepts .avrPro, .stream .avrPro 0 (LoopInput.package .avrPro 50000 [0, 0, 0] []),
    .datagram .avrPro 0 (LoopInput.package .avrPro 1 [0, 0, 0] []), .quiet .avrPro 4096 [],
    .quiet .avrPro 8192 [], .quiet .avrPro 12288 [], .quiet .avrPro 16384 [], closes .avrPro,
    .accepts .avrPro, .stream .avrPro 0 (LoopInput.package .avrPro 50000 [0, 0, 0] []),
    .quiet .avrPro 4096 [], .quiet .avrPro 8192 []]

def afterTwoClients : State 512 :=
  (exec (step .avrPro) (init .avrPro [ring512] 0 0) twoClients).getD (init .avrPro [ring512] 0 0)

/-- Two responses go out over UDP, and the one to the second client over TCP. -/
theorem separate_twoClients : EachAfter (Separate .avrPro) afterTwoClients.log ∧
    afterTwoClients.log.filterMap (fun e => e.pass.datagram.map fun d =>
      (d.addr, d.port, sequenceNumber d.bytes)) =
      [(0x0100007F, 49152, 0), (0x0100007F, 49152, 1)] ∧
    afterTwoClients.log.map (fun e => e.pass.sent.length) =
      [0, 0, 0, 0, 0, 0, 0, 0, 0, 0, 0, Configuration.avrPro.packageSize] :=
  ⟨separate_of_run .avrPro [ring512] 0 0 twoClients afterTwoClients
    (exec_eq_some_getD (by decide +kernel)), by decide +kernel, by decide +kernel⟩

end UartBridge.UdpState
