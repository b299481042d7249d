import UartBridge.System.UdpSession

/-!
# Replacing the client's UDP socket

When a UDP send or receive fails, the client disposes its connection and
`GetConnection` makes a new one: fresh sequence counters, and a local port of
its own. The firmware's server is reset by TCP events only. It keeps its last
sequence number and the port it recorded first.

* `Stale` — all that matters of the server to a socket it has not heard of;
* `Stale.not_survives` — such a socket is not served: its first package is
  dropped, or the firmware goes on answering to the port of an earlier socket;
* `replaced_socket_dead` — this is the case at every replacement, after every
  history of a TCP session.
-/

namespace UartBridge.UdpSession

open SerialNumber EventRun Client Firmware

variable {D : Deployment} {s t : Session}

/-- A socket of the client after another one failed: `GetConnection` made a new
connection to the same remote port, from a new local port. The log restarts. -/
def replaceSocket (fd : Nat) (port : UInt16) (s : Session) : Session :=
  { s with client := UDPConnection.create fd s.client.remotePort, clientPort := port, log := [] }

/-- A TCP session with lost datagrams and replaced sockets; `ports` are the
local ports used so far. -/
structure History where
  session : Session
  ports : List UInt16

inductive HistoryEvent where
  | traffic (e : Event)
  | loseUp (i : Nat)
  | loseDown (i : Nat)
  | replace (fd : Nat) (port : UInt16)

/-- A datagram is sent, delivered or lost, or the socket is replaced by one with
a local port of its own. -/
def historyStep (D : Deployment) (h : History) : HistoryEvent → Option History
  | .traffic e => (step D h.session e).map fun s => { h with session := s }
  | .loseUp i =>
    some { h with session := { h.session with upQueue := h.session.upQueue.eraseIdx i } }
  | .loseDown i =>
    some { h with session := { h.session with downQueue := h.session.downQueue.eraseIdx i } }
  | .replace fd port =>
    if port < 1 ∨ port ∈ h.ports then none
    else some { session := replaceSocket fd port h.session, ports := port :: h.ports }

/-- What the new socket needs, over every schedule of sends and in-order
lossless deliveries after the replacement. -/
structure Survives (D : Deployment) (s : Session) : Prop where
  /-- The packages it sends are accepted. -/
  accepted : ∀ es t passed, exec (step D) s es = some t →
    .received .uplink s.clientPort passed ∈ t.log → passed = true
  /-- Once one was accepted, what the firmware sends is addressed to it. -/
  addressed : ∀ es t before port after, exec (step D) s es = some t →
    t.log = before ++ .sent .downlink port :: after →
    .received .uplink s.clientPort true ∈ before → port = s.clientPort
  /-- The client accepts what it receives. -/
  received : ∀ es t passed, exec (step D) s es = some t →
    .received .downlink s.clientPort passed ∈ t.log → passed = true

/-- The firmware's server as a client socket with a port outside `ports` finds
it: nothing accepted and no port recorded, or the port of another socket; and no
package under way is from a new one. -/
structure Stale (ports : List UInt16) (s : Session) : Prop where
  started : s.firmware.server.serverStarted = true
  fresh : s.firmware.server.clientUDPPort < 1 → s.firmware.server.serverSeq = 0
  recorded : ¬ s.firmware.server.clientUDPPort < 1 → s.firmware.server.clientUDPPort ∈ ports
  queue : ∀ packet ∈ s.upQueue, packet.remotePort ∈ ports

/-- A datagram read leaves the server alone, or records its port if none was
recorded yet. -/
theorem readPacket_server (pkgSz metaSz : Nat) (packet : Packet) (millis : UInt32)
    (s : UDPServer.RxState) :
    (UDPServer.readPacket pkgSz metaSz (some packet) millis s).1.server = s.server ∨
      ∃ seq, (UDPServer.readPacket pkgSz metaSz (some packet) millis s).1.server =
        { s.server with
          serverSeq := seq
          clientUDPPort :=
            if s.server.clientUDPPort < 1 then packet.remotePort else s.server.clientUDPPort } := by
  have hdrop (rxBuff : Nat → UInt8) : s.server.dropOldSeq rxBuff = (s.server, true) ∨
      ∃ seq, s.server.dropOldSeq rxBuff = ({ s.server with serverSeq := seq }, false) := by
    unfold UDPServer.dropOldSeq
    dsimp only
    split
    · exact Or.inr ⟨_, rfl⟩
    · exact Or.inl rfl
  unfold UDPServer.readPacket
  dsimp only
  split
  · exact Or.inl rfl
  · split
    · exact Or.inl rfl
    · rcases hdrop (ByteMem.write s.rxBuff 0 (packet.bytes.take pkgSz)) with hold | ⟨seq, hnew⟩
      · rw [hold]
        exact Or.inl rfl
      · rw [hnew]
        refine Or.inr ⟨seq, ?_⟩
        by_cases hport : s.server.clientUDPPort < 1
        · simp [hport]
        · simp [hport]

/-- Whatever is sent or delivered, a stale server stays stale towards ports that
the queue does not carry. -/
theorem Stale.deliverUp {ports : List UInt16} (h : Stale ports s)
    (ports_pos : ∀ port ∈ ports, ¬ port < 1) {millis : UInt32}
    (hstep : step D s (.deliverUp millis) = some t) : Stale ports t := by
  simp only [step] at hstep
  cases hqueue : s.upQueue with
  | nil => rw [hqueue] at hstep; cases hstep
  | cons packet rest =>
    have hq := h.queue
    rw [hqueue] at hstep hq
    simp only [UDPServer.processRX_started h.started, Option.some.injEq] at hstep
    subst hstep
    have hport : packet.remotePort ∈ ports := hq packet List.mem_cons_self
    have hrest : ∀ p ∈ rest, p.remotePort ∈ ports :=
      fun p hp => hq p (List.mem_cons_of_mem _ hp)
    rcases readPacket_server D.cfg.packageSize D.cfg.metaSz packet millis s.firmware with
      hsame | ⟨seq, hnew⟩
    · exact ⟨hsame ▸ h.started, hsame ▸ h.fresh, hsame ▸ h.recorded, hrest⟩
    · refine ⟨?_, ?_, ?_, hrest⟩
      · simpa only [hnew] using h.started
      · simp only [hnew]
        split
        · exact fun hlt => absurd hlt (ports_pos _ hport)
        · rename_i hknown
          exact fun hlt => absurd hlt hknown
      · simp only [hnew]
        split
        · exact fun _ => hport
        · exact h.recorded

/-- Everything under way can be delivered; the server stays stale. -/
theorem Stale.drain {ports : List UInt16} (ports_pos : ∀ port ∈ ports, ¬ port < 1)
    (h : Stale ports s) :
    ∃ es t, exec (step D) s es = some t ∧ Stale ports t ∧ t.upQueue = [] ∧
      t.client = s.client ∧ t.clientPort = s.clientPort := by
  generalize hq : s.upQueue = queue
  induction queue generalizing s with
  | nil => exact ⟨[], s, rfl, h, hq, rfl, rfl⟩
  | cons packet rest ih =>
    obtain ⟨u, hstep, hrest, hclient, hport⟩ : ∃ u, step D s (.deliverUp 0) = some u ∧
        u.upQueue = rest ∧ u.client = s.client ∧ u.clientPort = s.clientPort := by
      simp only [step, hq]
      exact ⟨_, rfl, rfl, rfl, rfl⟩
    obtain ⟨es, t, hrun, ht, hempty, hclient', hport'⟩ := ih (h.deliverUp ports_pos hstep) hrest
    exact ⟨.deliverUp 0 :: es, t, exec_cons_eq_some.mpr ⟨u, hstep, hrun⟩, ht, hempty,
      hclient'.trans hclient, hport'.trans hport⟩

/-- A sealed package delivered to a started server: what the log says, and what
the server has then. -/
theorem deliverUp_sealed {header : UInt16} {packet : Packet} {rest : List Packet}
    (started : s.firmware.server.serverStarted = true) (hqueue : s.upQueue = packet :: rest)
    (h : Sealed D.cfg.metaSz D.cfg.packageSize header packet.bytes) :
    ∃ t, step D s (.deliverUp 0) = some t ∧
      t.log = s.log ++ [.received .uplink packet.remotePort
        (newer s.firmware.server.serverSeq header)] ∧
      t.firmware.server = if newer s.firmware.server.serverSeq header then
        { s.firmware.server with
          serverSeq := header
          clientUDPPort := if s.firmware.server.clientUDPPort < 1 then packet.remotePort
            else s.firmware.server.clientUDPPort }
        else s.firmware.server := by
  obtain ⟨hpassed, hserver⟩ := readPacket_sealed D h 0 s.firmware
  simp only [step, hqueue, UDPServer.processRX_started started]
  exact ⟨_, rfl, by rw [hpassed], hserver⟩

/-- A started server that has a port recorded sends there. -/
theorem sendDown_recorded (started : s.firmware.server.serverStarted = true)
    (known : ¬ s.firmware.server.clientUDPPort < 1) :
    ∃ t, step D s (.sendDown fun _ => 0) = some t ∧
      t.log = s.log ++ [.sent .downlink s.firmware.server.clientUDPPort] := by
  simp [step, UDPServer.processTX, started, known]

/-- **The new socket is not served.** If the server is stale towards its port,
its first package is dropped or what the firmware sends next goes elsewhere. -/
theorem Stale.not_survives {ports : List UInt16} (ports_pos : ∀ port ∈ ports, ¬ port < 1)
    (h : Stale ports s) (new : s.clientPort ∉ ports) (first : s.client.txSeq = 0xFFFF) :
    ¬ Survives D s := by
  intro hsurvives
  obtain ⟨es, t, hrun, ht, hempty, hclient, hport⟩ := h.drain (D := D) ports_pos
  -- its first package, sent and delivered
  have hsealed := (stampPackage_sealed D (fun _ => 0) t.client).1
  rw [hclient, first] at hsealed
  obtain ⟨u, hsend, hlog, hqueue, hfirmware⟩ : ∃ u, step D t (.sendUp fun _ => 0) = some u ∧
      u.log = t.log ++ [.sent .uplink s.clientPort] ∧
      u.upQueue = [{ bytes := UDPConnection.packageBytes D.config
                       (s.client.stampPackage D.config fun _ => 0).2
                     remotePort := s.clientPort }] ∧
      u.firmware = t.firmware := by
    simp only [step, hempty, hclient, hport]
    exact ⟨_, rfl, rfl, rfl, rfl⟩
  obtain ⟨v, hdeliver, hlog', hserver⟩ :=
    deliverUp_sealed (hfirmware ▸ ht.started) hqueue hsealed
  rw [hfirmware] at hlog' hserver
  have hrun' : exec (step D) s (es ++ [.sendUp fun _ => 0, .deliverUp 0]) = some v :=
    exec_append_eq_some.mpr ⟨t, hrun, exec_cons_eq_some.mpr ⟨u, hsend,
      exec_cons_eq_some.mpr ⟨v, hdeliver, rfl⟩⟩⟩
  have haccepted : newer t.firmware.server.serverSeq 0xFFFF = true :=
    hsurvives.accepted _ v _ hrun' (by rw [hlog']; simp)
  have hknown : ¬ t.firmware.server.clientUDPPort < 1 := by
    intro hlt
    rw [ht.fresh hlt] at haccepted
    exact absurd haccepted (by decide)
  -- it was accepted, but another socket's port is on record
  rw [if_pos haccepted, if_neg hknown] at hserver
  obtain ⟨w, hdown, hlog''⟩ := sendDown_recorded (D := D) (s := v)
    (by rw [hserver]; exact ht.started)
    (by rw [hserver]; exact hknown)
  have hrun'' : exec (step D) s
      (es ++ [.sendUp fun _ => 0, .deliverUp 0] ++ [.sendDown fun _ => 0]) = some w :=
    exec_append_eq_some.mpr ⟨v, hrun', exec_cons_eq_some.mpr ⟨w, hdown, rfl⟩⟩
  have haddressed := hsurvives.addressed _ w v.log _ [] hrun'' hlog''
    (by rw [hlog', haccepted]; simp)
  rw [hserver] at haddressed
  exact new (haddressed ▸ ht.recorded hknown)

/-- What holds all through a TCP session: every port on record or under way is
one that the client has used. -/
structure PortsKnown (h : History) : Prop where
  stale : Stale h.ports h.session
  current : h.session.clientPort ∈ h.ports
  ports_pos : ∀ port ∈ h.ports, ¬ port < 1

theorem PortsKnown.traffic {h : History} (hk : PortsKnown h) {e : Event} {t : Session}
    (hstep : step D h.session e = some t) : PortsKnown { h with session := t } := by
  obtain ⟨hstale, hcurrent, hpos⟩ := hk
  cases e with
  | sendUp txBuff =>
    simp only [step, Option.some.injEq] at hstep
    subst hstep
    refine ⟨⟨hstale.started, hstale.fresh, hstale.recorded, ?_⟩, hcurrent, hpos⟩
    intro packet hp
    rcases List.mem_append.mp hp with hold | hnew
    · exact hstale.queue packet hold
    · rw [List.mem_singleton.mp hnew]
      exact hcurrent
  | deliverUp millis =>
    refine ⟨hstale.deliverUp hpos hstep, ?_, hpos⟩
    simp only [step] at hstep
    cases hqueue : h.session.upQueue with
    | nil => rw [hqueue] at hstep; cases hstep
    | cons packet rest =>
      rw [hqueue, Option.some.injEq] at hstep
      subst hstep
      exact hcurrent
  | sendDown txBuff =>
    simp only [step] at hstep
    rcases processTX_sealed D txBuff h.session.firmware.server with ⟨hnone, hsame⟩ |
      ⟨packet, hsome, hserver, -⟩
    · rw [hnone, Option.some.injEq] at hstep
      subst hstep
      rw [hsame]
      exact ⟨hstale, hcurrent, hpos⟩
    · rw [hsome, Option.some.injEq] at hstep
      subst hstep
      refine ⟨⟨?_, ?_, ?_, hstale.queue⟩, hcurrent, hpos⟩
      · simpa only [hserver] using hstale.started
      · simpa only [hserver] using hstale.fresh
      · simpa only [hserver] using hstale.recorded
  | deliverDown =>
    simp only [step] at hstep
    cases hqueue : h.session.downQueue with
    | nil => rw [hqueue] at hstep; cases hstep
    | cons packet rest =>
      rw [hqueue] at hstep
      by_cases hport : packet.port ≠ h.session.clientPort
      · simp only [if_pos hport, Option.some.injEq] at hstep
        subst hstep
        exact ⟨⟨hstale.started, hstale.fresh, hstale.recorded, hstale.queue⟩, hcurrent, hpos⟩
      · simp only [if_neg hport, Option.some.injEq] at hstep
        subst hstep
        exact ⟨⟨hstale.started, hstale.fresh, hstale.recorded, hstale.queue⟩, hcurrent, hpos⟩

theorem PortsKnown.step {h h' : History} (hk : PortsKnown h) {e : HistoryEvent}
    (hstep : historyStep D h e = some h') : PortsKnown h' := by
  cases e with
  | traffic e =>
    obtain ⟨t, ht, rfl⟩ := Option.map_eq_some_iff.mp hstep
    exact hk.traffic ht
  | loseUp i =>
    rw [historyStep, Option.some.injEq] at hstep
    subst hstep
    exact ⟨⟨hk.stale.started, hk.stale.fresh, hk.stale.recorded,
      fun packet hp => hk.stale.queue packet (List.mem_of_mem_eraseIdx hp)⟩, hk.current,
      hk.ports_pos⟩
  | loseDown i =>
    rw [historyStep, Option.some.injEq] at hstep
    subst hstep
    exact ⟨⟨hk.stale.started, hk.stale.fresh, hk.stale.recorded, hk.stale.queue⟩, hk.current,
      hk.ports_pos⟩
  | replace fd port =>
    by_cases hbad : port < 1 ∨ port ∈ h.ports
    · rw [historyStep, if_pos hbad] at hstep
      cases hstep
    · rw [historyStep, if_neg hbad, Option.some.injEq] at hstep
      subst hstep
      rw [not_or] at hbad
      refine ⟨⟨hk.stale.started, hk.stale.fresh, ?_, ?_⟩, List.mem_cons_self, ?_⟩
      · exact fun hknown => List.mem_cons_of_mem _ (hk.stale.recorded hknown)
      · exact fun packet hp => List.mem_cons_of_mem _ (hk.stale.queue packet hp)
      · intro p hp
        rcases List.mem_cons.mp hp with rfl | hold
        · exact hbad.1
        · exact hk.ports_pos p hold

/-- A session starts with its first port known. -/
theorem PortsKnown.start (D : Deployment) (before : UDPServer.RxState)
    (clientRxBuff : Nat → UInt8) (remoteAddr : UInt32) (udpPort clientPort : UInt16) (fd : Nat)
    (hport : 0 < udpPort) (hclient : ¬ clientPort < 1) :
    PortsKnown
      { session := UdpSession.start D before clientRxBuff remoteAddr udpPort clientPort fd
        ports := [clientPort] } := by
  have hserver : (UdpSession.start D before clientRxBuff remoteAddr udpPort clientPort
      fd).firmware.server =
      { clientAddr := remoteAddr, serverSeq := 0, clientUDPPort := 0, clientSeq := 0
        serverStarted := true } := by
    simp [UdpSession.start, UDPServer.processRX, hport]
  refine ⟨⟨?_, ?_, ?_, ?_⟩, List.mem_singleton.mpr rfl, ?_⟩
  · simp only [hserver]
  · intro _
    simp only [hserver]
  · intro hknown
    simp only [hserver] at hknown
    exact absurd (by decide) hknown
  · intro packet hp
    exact absurd hp List.not_mem_nil
  · intro port hp
    rw [List.mem_singleton.mp hp]
    exact hclient

/-- A socket that replaces another one is not served, from any point of a session. -/
theorem PortsKnown.not_survives {h : History} (hk : PortsKnown h) (fd : Nat) {port : UInt16}
    (new : port ∉ h.ports) : ¬ Survives D (replaceSocket fd port h.session) :=
  Stale.not_survives hk.ports_pos
    ⟨hk.stale.started, hk.stale.fresh, hk.stale.recorded, hk.stale.queue⟩ new rfl

/-- **The UDP link never survives the replacement of the client's socket.** After
every history of a TCP session, with any number of packages exchanged or lost and
sockets replaced, a socket with a local port of its own is not served. -/
theorem replaced_socket_dead (D : Deployment) (before : UDPServer.RxState)
    (clientRxBuff : Nat → UInt8) (remoteAddr : UInt32) (udpPort clientPort : UInt16) (fd : Nat)
    (hport : 0 < udpPort) (hclient : ¬ clientPort < 1) (es : List HistoryEvent) (h : History)
    (hrun : exec (historyStep D)
      { session := start D before clientRxBuff remoteAddr udpPort clientPort fd
        ports := [clientPort] } es = some h)
    (newFd : Nat) (newPort : UInt16) (hnew : newPort ∉ h.ports) :
    ¬ Survives D (replaceSocket newFd newPort h.session) := by
  have hstart := PortsKnown.start D before clientRxBuff remoteAddr udpPort clientPort fd hport
    hclient
  exact (exec_invariant PortsKnown (fun _ _ _ hk hstep => hk.step hstep) hstart
    hrun).not_survives newFd hnew

/-- A socket replaced after one package. -/
theorem replaced_socket_dead_one_package :
    ¬ Survives avrPro (replaceSocket 4 40001 afterOnePackage) :=
  replaced_socket_dead avrPro _ _ _ 49152 40000 3 (by decide) (by decide)
    [.traffic (.sendUp fun _ => 0), .traffic (.deliverUp 0)]
    { session := afterOnePackage, ports := [40000] } rfl 4 40001 (by decide)

/-- Not even a socket replaced before the first package is served. -/
theorem fresh_replacement_fails :
    ¬ ∀ (es : List HistoryEvent) (h : History) (fd : Nat) (port : UInt16),
      exec (historyStep avrPro) { session := avrProStart, ports := [40000] } es = some h →
        port ∉ h.ports → Survives avrPro (replaceSocket fd port h.session) := by
  intro hall
  have hk := PortsKnown.start avrPro
    { server := UDPServer.create, rxBuff := fun _ => 0
      alarmTimer := { startTime := 0, interval := 1000 } }
    (fun _ => 0) 0x0A000001 49152 40000 3 (by decide) (by decide)
  exact hk.not_survives 4 (by decide) (hall [] _ 4 40001 rfl (by decide))

end UartBridge.UdpSession
