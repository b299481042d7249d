import UartBridge.System.Reassembly

/-!
# Keep-alive

The firmware gives a TCP client up that it has not heard of for more than a second. It looks at
`millis()`, which is the time modulo 2^32, and what it takes for a sign of life comes on both
transports: a new connection, a package over TCP, a datagram that was accepted.

* `Alarm` — the invariant: the alarm timer knows the last sign of life, which is no more than a
  second ago;
* `elapsed` — the difference of two `millis()` is the time between them, if the loop is not late;
* `keeps_alive` — exactly when a pass gives the client up.
-/

namespace UartBridge.KeepAlive

open EventRun Firmware

variable {size : Nat} {cfg : Configuration}

/-- The board, the time of the last pass, and that of the last sign of life. -/
structure State (size : Nat) where
  board : MainLoop size
  now : Nat
  last : Nat

/-- A pass of the loop, and when it is made. -/
structure Pass where
  time : Nat
  input : LoopInput

/-- A sign of life. -/
def heard : ClientEvent → Bool
  | .Connected _ | .NewRequest _ => true
  | .NoEvent _ | .Disconnected _ => false

/-- The board after `setup`. -/
def start (board : MainLoop size) (now : Nat) : State size := { board := board, now, last := now }

def step (cfg : Configuration) (s : State size) (e : Pass) : Option (State size) :=
  if e.time < s.now ∨ e.input.millis ≠ UInt32.ofNat e.time then none
  else
    (s.board.loop cfg e.input).map fun p =>
      { board := p.state, now := e.time, last := if heard p.event then e.time else s.last }

/-- While a client is connected, the loop does not stand still for 49 days. -/
def InTime (s : State size) (e : Pass) : Prop :=
  s.board.tcpServer.connected = true → e.time - s.now < 0x100000000 - 1000

/-! ## Time -/

/-- The difference of two `millis()`. -/
theorem elapsed {last now : Nat} (hle : last ≤ now) (hlt : now - last < 0x100000000) :
    (UInt32.ofNat now - UInt32.ofNat last).toNat = now - last := by
  rw [UInt32.toNat_sub, UInt32.toNat_ofNat', UInt32.toNat_ofNat']
  omega

/-- The alarm goes off after a second. -/
theorem alarm_iff {last now : Nat} (hle : last ≤ now) (hlt : now - last < 0x100000000) :
    AlarmTimer.alarmTriggered (UInt32.ofNat now)
      { startTime := UInt32.ofNat last, interval := defaultAlarmIntervalMS } = true ↔
      1000 < now - last := by
  have hinterval : defaultAlarmIntervalMS.toNat = 1000 := rfl
  unfold AlarmTimer.alarmTriggered
  rw [decide_eq_true_iff, UInt32.lt_iff_toNat_lt, elapsed hle hlt, hinterval]

/-! ## One pass -/

/-- The package that this pass completes fails its check. -/
def Corrupt (cfg : Configuration) (server : TCPServer) (rxBuff : Nat → UInt8) (tcp : TcpInput) :
    Prop :=
  let data := TCPServer.readBytes tcp server.pkgLeft
  let rxBuff := ByteMem.write rxBuff (cfg.packageSize - server.pkgLeft) data
  0 < tcp.available.length ∧ server.pkgLeft ≤ data.length ∧
    crc8 (ByteMem.read rxBuff 0 cfg.metaSz) ≠ rxBuff cfg.metaSz

/-- What the TCP side does with the client in a pass, and with the alarm timer. -/
structure Turn (cfg : Configuration) (tcp : TcpInput) (millis : UInt32) (s : TCPServer.RxState)
    (r : TCPServer.RxState × ClientEvent × Nat) : Prop where
  /-- A client is accepted. -/
  connects : s.server.connected = false → r.1.server.connected = true →
    heard r.2.1 = true ∧
      r.1.alarmTimer = { startTime := millis, interval := defaultAlarmIntervalMS }
  gives_up : s.server.connected = true → (r.1.server.connected = false ↔
    s.alarmTimer.alarmTriggered millis = true ∨ tcp.connected = false ∨
      Corrupt cfg s.server s.rxBuff tcp)
  /-- The timer is wound up by a package. -/
  snoozed : s.server.connected = true → r.1.server.connected = true →
    r.1.alarmTimer = if heard r.2.1 then { s.alarmTimer with startTime := millis }
      else s.alarmTimer
  silent : s.server.connected = true → s.alarmTimer.alarmTriggered millis = true →
    r.2 = (.Disconnected inaddrNone, 0)

/-- A package is read from a live client. -/
theorem readPackage_turn (tcp : TcpInput) (millis : UInt32) {s : TCPServer.RxState}
    (hconn : s.server.connected = true)
    (hquiet : s.alarmTimer.alarmTriggered millis = false) (htcp : tcp.connected = true)
    (havail : 0 < tcp.available.length) :
    Turn cfg tcp millis s
      (TCPServer.readPackage cfg.packageSize cfg.metaSz tcp millis s) := by
  have hnot {p : Prop} (h : s.server.connected = false) : p :=
    absurd (hconn.symm.trans h) Bool.false_ne_true.symm
  have hloud {p : Prop} (h : s.alarmTimer.alarmTriggered millis = true) : p :=
    absurd (hquiet.symm.trans h) Bool.false_ne_true
  have hgives : (s.alarmTimer.alarmTriggered millis = true ∨ tcp.connected = false ∨
      Corrupt cfg s.server s.rxBuff tcp) ↔ Corrupt cfg s.server s.rxBuff tcp := by
    simp only [hquiet, htcp, Bool.false_eq_true, Bool.true_eq_false, false_or]
  unfold TCPServer.readPackage
  dsimp only
  split
  · -- the package is not complete
    rename_i hleft
    refine ⟨fun h => hnot h, fun _ => ?_, fun _ _ => rfl, fun _ h => hloud h⟩
    rw [hgives]
    refine ⟨fun h => hnot h, fun h => ?_⟩
    have hall := h.2.1
    omega
  · rename_i hleft
    have hall : s.server.pkgLeft ≤ (TCPServer.readBytes tcp s.server.pkgLeft).length := by omega
    split
    · rename_i hcrc
      refine ⟨fun h => hnot h, fun _ => ?_, fun _ h => (nomatch h), fun _ h => hloud h⟩
      rw [hgives]
      exact ⟨fun _ => ⟨havail, hall, hcrc⟩, fun _ => rfl⟩
    · rename_i hcrc
      refine ⟨fun h => hnot h, fun _ => ?_, fun _ _ => rfl, fun _ h => hloud h⟩
      rw [hgives]
      exact ⟨fun h => hnot h, fun h => absurd h.2.2 hcrc⟩

theorem processRX_turn (tcp : TcpInput) (millis : UInt32) (s : TCPServer.RxState) :
    Turn cfg tcp millis s (TCPServer.processRX cfg.packageSize cfg.metaSz tcp millis s) := by
  unfold TCPServer.processRX
  cases hconn : s.server.connected with
  | false =>
    have hnot {p : Prop} (h : s.server.connected = true) : p :=
      absurd (hconn.symm.trans h) Bool.false_ne_true
    simp only [Bool.not_false, if_true]
    split
    · exact ⟨fun _ h => hnot h, fun h => hnot h, fun h => hnot h, fun h => hnot h⟩
    · exact ⟨fun _ _ => ⟨rfl, rfl⟩, fun h => hnot h, fun h => hnot h, fun h => hnot h⟩
  | true =>
    have hnot {p : Prop} (h : s.server.connected = false) : p :=
      absurd (hconn.symm.trans h) Bool.false_ne_true.symm
    simp only [Bool.not_true, Bool.false_eq_true, if_false]
    split
    · rename_i hends
      rw [Bool.or_eq_true, Bool.not_eq_true'] at hends
      refine ⟨fun h => hnot h, fun _ => ⟨fun _ => ?_, fun _ => rfl⟩, fun _ h => (nomatch h),
        fun _ _ => rfl⟩
      rcases hends with halarm | hgone
      · exact Or.inl halarm
      · exact Or.inr (Or.inl hgone)
    · rename_i hstays
      rw [Bool.not_eq_true, Bool.or_eq_false_iff, Bool.not_eq_false'] at hstays
      obtain ⟨hquiet, htcp⟩ := hstays
      split
      · rename_i hnone
        refine ⟨fun h => hnot h, fun _ => ⟨fun h => hnot h, ?_⟩, fun _ _ => rfl,
          fun _ h => absurd (hquiet.symm.trans h) Bool.false_ne_true⟩
        rintro (halarm | hgone | hcorrupt)
        · exact absurd (hquiet.symm.trans halarm) Bool.false_ne_true
        · exact absurd (htcp.symm.trans hgone) Bool.false_ne_true.symm
        · have hsome := hcorrupt.1
          omega
      · rename_i hsome
        exact readPackage_turn tcp millis hconn hquiet htcp (by omega)

/-- An accepted datagram is a sign of life too, and nothing else in a datagram is. -/
theorem udp_snoozes (pkgSz metaSz : Nat) (beginOk : Bool) (packet : Option Packet)
    (millis : UInt32) (event : ClientEvent) (s : UDPServer.RxState) :
    let r := UDPServer.processRX pkgSz metaSz beginOk packet millis event s
    (heard event = true → heard r.2 = true ∧ r.1.alarmTimer = s.alarmTimer) ∧
      (heard event = false → r.1.alarmTimer =
        if heard r.2 then { s.alarmTimer with startTime := millis } else s.alarmTimer) := by
  have hread : (UDPServer.readPacket pkgSz metaSz packet millis s).1.alarmTimer =
      if heard (UDPServer.readPacket pkgSz metaSz packet millis s).2 then
        { s.alarmTimer with startTime := millis } else s.alarmTimer := by
    unfold UDPServer.readPacket
    split
    · rfl
    · split
      · rfl
      · dsimp only
        split
        · rfl
        · split <;> rfl
  unfold UDPServer.processRX
  dsimp only
  split
  · exact ⟨fun h => (nomatch h), fun _ => rfl⟩
  · exact ⟨fun _ => ⟨rfl, rfl⟩, fun h => (nomatch h)⟩
  · split
    · exact ⟨fun _ => ⟨rfl, rfl⟩, fun h => (nomatch h)⟩
    · exact ⟨fun _ => ⟨rfl, rfl⟩, fun h => (nomatch h)⟩
  · exact ⟨fun _ => ⟨rfl, rfl⟩, fun h => (nomatch h)⟩
  · split
    · exact ⟨fun h => (nomatch h), fun _ => rfl⟩
    · exact ⟨fun h => (nomatch h), fun _ => hread⟩

/-- The rest of the pass leaves server and alarm timer alone. -/
theorem loop_frame {s : MainLoop size} {input : LoopInput} {p : Firmware.Pass size}
    (hp : s.loop cfg input = some p) :
    p.state.tcpServer = (s.receive cfg input).1.tcpServer ∧
      p.state.alarmTimer = (s.receive cfg input).1.alarmTimer := by
  have hhandle (event : ClientEvent) (v : MainLoop size) :
      (v.handle cfg input event).tcpServer = v.tcpServer ∧
        (v.handle cfg input event).alarmTimer = v.alarmTimer := by
    cases event with
    | NewRequest data =>
      unfold MainLoop.handle MainLoop.takeCounter
      dsimp only
      split <;> exact ⟨rfl, rfl⟩
    | NoEvent | Connected | Disconnected => exact ⟨rfl, rfl⟩
  have htransmit (v : MainLoop size) : (v.transmit cfg input).1.tcpServer = v.tcpServer ∧
      (v.transmit cfg input).1.alarmTimer = v.alarmTimer := by
    unfold MainLoop.transmit
    dsimp only
    split
    · exact ⟨rfl, rfl⟩
    · split <;> exact ⟨rfl, rfl⟩
  have hpoll (v : MainLoop size) : (v.pollUARTs cfg input).1.tcpServer = v.tcpServer ∧
      (v.pollUARTs cfg input).1.alarmTimer = v.alarmTimer := by
    unfold MainLoop.pollUARTs
    dsimp only
    split
    · exact ⟨rfl, rfl⟩
    · split
      · split
        · exact ⟨rfl, rfl⟩
        · exact htransmit _
      · exact htransmit _
  rw [(loop_poll hp).1]
  exact ⟨(hpoll _).1.trans (hhandle _ _).1, (hpoll _).2.trans (hhandle _ _).2⟩

/-- What a pass does with the client and the alarm timer. -/
structure Passed (cfg : Configuration) (s : MainLoop size) (input : LoopInput)
    (p : Firmware.Pass size) : Prop where
  connects : s.tcpServer.connected = false → p.state.tcpServer.connected = true →
    heard p.event = true ∧
      p.state.alarmTimer = { startTime := input.millis, interval := defaultAlarmIntervalMS }
  gives_up : s.tcpServer.connected = true → (p.state.tcpServer.connected = false ↔
    s.alarmTimer.alarmTriggered input.millis = true ∨ input.tcp.connected = false ∨
      Corrupt cfg s.tcpServer s.rxBuff input.tcp)
  snoozed : s.tcpServer.connected = true → p.state.tcpServer.connected = true →
    p.state.alarmTimer = if heard p.event then { s.alarmTimer with startTime := input.millis }
      else s.alarmTimer
  silent : s.tcpServer.connected = true → s.alarmTimer.alarmTriggered input.millis = true →
    p.event = .Disconnected inaddrNone ∧ p.consumed = 0

theorem controlEvent_frame (micros : UInt32) (event : ClientEvent) (s : MainLoop size) :
    (s.controlEvent cfg micros event).tcpServer = s.tcpServer ∧
      (s.controlEvent cfg micros event).alarmTimer = s.alarmTimer := by
  cases event with
  | Connected | Disconnected | NoEvent | NewRequest => exact ⟨rfl, rfl⟩

/-- The two servers' turn. -/
theorem receive_passed (s : MainLoop size) (input : LoopInput) :
    ∃ r u, Turn cfg input.tcp input.millis
        { server := s.tcpServer, rxBuff := s.rxBuff, alarmTimer := s.alarmTimer } r ∧
      (heard r.2.1 = true → heard u = true ∧ (s.receive cfg input).1.alarmTimer = r.1.alarmTimer) ∧
      (heard r.2.1 = false → (s.receive cfg input).1.alarmTimer =
        if heard u then { r.1.alarmTimer with startTime := input.millis } else r.1.alarmTimer) ∧
      (r.2.1 = .Disconnected inaddrNone → u = .Disconnected inaddrNone) ∧
      (s.receive cfg input).1.tcpServer = r.1.server ∧ (s.receive cfg input).2 = (u, r.2.2) := by
  have hturn := @processRX_turn cfg input.tcp input.millis
    { server := s.tcpServer, rxBuff := s.rxBuff, alarmTimer := s.alarmTimer }
  unfold MainLoop.receive
  generalize TCPServer.processRX cfg.packageSize cfg.metaSz input.tcp input.millis
    { server := s.tcpServer, rxBuff := s.rxBuff, alarmTimer := s.alarmTimer } = r at hturn ⊢
  obtain ⟨hserver, halarm⟩ := @controlEvent_frame _ cfg input.micros r.2.1
    { s with tcpServer := r.1.server, rxBuff := r.1.rxBuff, alarmTimer := r.1.alarmTimer }
  dsimp only
  generalize MainLoop.controlEvent cfg input.micros r.2.1
    { s with tcpServer := r.1.server, rxBuff := r.1.rxBuff, alarmTimer := r.1.alarmTimer } = c
    at hserver halarm ⊢
  obtain ⟨hheard, hother⟩ := udp_snoozes cfg.packageSize cfg.metaSz input.udpBegin input.udpPacket
    input.millis r.2.1 { server := c.udpServer, rxBuff := c.rxBuff, alarmTimer := c.alarmTimer }
  dsimp only at hheard hother halarm
  rw [halarm] at hheard hother ⊢
  refine ⟨r, _, hturn, hheard, hother, ?_, hserver, rfl⟩
  intro hgone
  rw [hgone]
  rfl

theorem passed {s : MainLoop size} {input : LoopInput} {p : Firmware.Pass size}
    (hp : s.loop cfg input = some p) : Passed cfg s input p := by
  obtain ⟨hserver, halarm⟩ := loop_frame hp
  obtain ⟨hevent, hconsumed⟩ := loop_event hp
  obtain ⟨r, u, hturn, hheard, hother, hgone, hreceived, hrest⟩ :=
    @receive_passed size cfg s input
  rw [hreceived] at hserver
  rw [hrest] at hevent hconsumed
  dsimp only at hevent hconsumed
  rw [← hevent] at hheard hother hgone
  rw [← halarm] at hheard hother
  refine ⟨?_, ?_, ?_, ?_⟩
  · intro hidle hconn
    rw [hserver] at hconn
    obtain ⟨hr, htimer⟩ := hturn.connects hidle hconn
    exact ⟨(hheard hr).1, (hheard hr).2.trans htimer⟩
  · intro hconn
    rw [hserver]
    exact hturn.gives_up hconn
  · intro hconn hstays
    rw [hserver] at hstays
    have hsnoozed := hturn.snoozed hconn hstays
    cases hr : heard r.2.1 with
    | true =>
      rw [hr, if_pos rfl] at hsnoozed
      rw [(hheard hr).1, if_pos rfl, (hheard hr).2, hsnoozed]
    | false =>
      rw [hr, if_neg Bool.false_ne_true] at hsnoozed
      rw [hother hr, hsnoozed]
  · intro hconn hloud
    have hsilent := hturn.silent hconn hloud
    rw [hsilent] at hconsumed hgone
    exact ⟨hgone rfl, hconsumed⟩

/-! ## Whole runs -/

/-- While a client is connected, the alarm timer knows when it was last heard of. -/
structure Alarm (s : State size) : Prop where
  last_le : s.last ≤ s.now
  timer : s.board.tcpServer.connected = true →
    s.board.alarmTimer = { startTime := UInt32.ofNat s.last, interval := defaultAlarmIntervalMS }
  recent : s.board.tcpServer.connected = true → s.now - s.last ≤ 1000

theorem Alarm.start (rxRingBuffs : List (DataBuffer UInt8 size)) (millis micros : UInt32)
    (now : Nat) : Alarm (start (MainLoop.setup cfg rxRingBuffs millis micros) now) where
  last_le := Nat.le_refl now
  timer := fun h => nomatch h
  recent := fun h => nomatch h

/-- Whether the alarm goes off in the next pass. -/
theorem Alarm.triggered_iff {s : State size} (h : Alarm s) {e : Pass} (hnext : InTime s e)
    (hle : s.now ≤ e.time) (hconn : s.board.tcpServer.connected = true) :
    s.board.alarmTimer.alarmTriggered (UInt32.ofNat e.time) = true ↔ 1000 < e.time - s.last := by
  have hlast := h.last_le
  have hrecent := h.recent hconn
  have hgap := hnext hconn
  rw [h.timer hconn]
  exact alarm_iff (by omega) (by omega)

theorem alarm_step {s t : State size} {e : Pass} (h : Alarm s) (hnext : InTime s e)
    (hstep : step cfg s e = some t) : Alarm t := by
  unfold step at hstep
  split at hstep
  · cases hstep
  · rename_i hguard
    have hle : s.now ≤ e.time := by omega
    have hmillis : e.input.millis = UInt32.ofNat e.time := by
      by_contra hne
      exact hguard (Or.inr hne)
    obtain ⟨p, hp, rfl⟩ := Option.map_eq_some_iff.mp hstep
    have hpassed := passed hp
    have hlast := h.last_le
    refine ⟨?_, ?_, ?_⟩
    · dsimp only
      split <;> omega
    · intro hstays
      dsimp only at hstays ⊢
      cases hconn : s.board.tcpServer.connected with
      | false =>
        obtain ⟨hheard, htimer⟩ := hpassed.connects hconn hstays
        rw [hheard, if_pos rfl, htimer, hmillis]
      | true =>
        rw [hpassed.snoozed hconn hstays, h.timer hconn, hmillis]
        split <;> rfl
    · intro hstays
      dsimp only at hstays ⊢
      cases hconn : s.board.tcpServer.connected with
      | false =>
        rw [(hpassed.connects hconn hstays).1, if_pos rfl]
        omega
      | true =>
        -- the alarm did not go off
        have hquiet : ¬ 1000 < e.time - s.last := by
          intro hlate
          have hloud := (h.triggered_iff hnext hle hconn).mpr hlate
          rw [← hmillis] at hloud
          have hends := (hpassed.gives_up hconn).mpr (Or.inl hloud)
          exact absurd (hends.symm.trans hstays) Bool.false_ne_true
        split <;> omega

/-- **A client is given up when it was not heard of for more than a second**, when the connection
is gone, or when a package fails its check, and for no other reason; in the first case nothing
more is read from it. -/
theorem keeps_alive (cfg : Configuration) (rxRingBuffs : List (DataBuffer UInt8 size))
    (now : Nat) (millis micros : UInt32) (es : List Pass) (s : State size)
    (hrun : exec (step cfg) (start (MainLoop.setup cfg rxRingBuffs millis micros) now) es = some s)
    (hintime : Along (step cfg) InTime
      (start (MainLoop.setup cfg rxRingBuffs millis micros) now) es)
    (e : Pass) (p : Firmware.Pass size) (hnext : InTime s e) (hle : s.now ≤ e.time)
    (hmillis : e.input.millis = UInt32.ofNat e.time) (hp : s.board.loop cfg e.input = some p)
    (hconn : s.board.tcpServer.connected = true) :
    (p.state.tcpServer.connected = false ↔ 1000 < e.time - s.last ∨
      e.input.tcp.connected = false ∨
      Corrupt cfg s.board.tcpServer s.board.rxBuff e.input.tcp) ∧
    (1000 < e.time - s.last → p.event = .Disconnected inaddrNone ∧ p.consumed = 0) := by
  have h : Alarm s := exec_invariant_along Alarm
    (fun _ _ _ h hnext hstep => alarm_step h hnext hstep)
    (Alarm.start rxRingBuffs millis micros now) hintime hrun
  have htriggered := h.triggered_iff hnext hle hconn
  rw [← hmillis] at htriggered
  have hpassed := passed hp
  refine ⟨?_, fun hlate => hpassed.silent hconn (htriggered.mpr hlate)⟩
  rw [hpassed.gives_up hconn, htriggered]

/-! ## A client that falls silent -/

open Deployment (ring512)

def Pass.at (time : Nat) (input : LoopInput) : Pass :=
  { time := time, input := { input with millis := UInt32.ofNat time } }

/-- A connection, a package and a datagram. -/
def alive : List Pass :=
  [.at 500 (.accepts .avrPro), .at 1400 (.stream .avrPro 0 Reassembly.opening),
    .at 2000 (Reassembly.withDatagram (.quiet .avrPro 0 []))]

def setup : MainLoop 512 := MainLoop.setup .avrPro [ring512] 0 0

def afterAlive : State 512 := (exec (step .avrPro) (start setup 0) alive).getD (start setup 0)

/-- A second after the datagram nothing has come. -/
def silence : Pass := .at 3001 (.quiet .avrPro 0 [])

instance (s : State size) (e : Pass) : Decidable (InTime s e) :=
  inferInstanceAs (Decidable (_ → _))

theorem keeps_alive_silence : afterAlive.last = 2000 ∧
    ∃ p, afterAlive.board.loop .avrPro silence.input = some p ∧
      p.state.tcpServer.connected = false := by
  have hrun : (exec (step .avrPro) (start setup 0) alive).isSome = true ∧
      afterAlive.last = 2000 ∧ afterAlive.now = 2000 ∧
      afterAlive.board.tcpServer.connected = true ∧
      (afterAlive.board.loop .avrPro silence.input).isSome = true := by decide +kernel
  obtain ⟨hthrough, hlast, hnow, hconn, hloop⟩ := hrun
  obtain ⟨p, hp⟩ := Option.isSome_iff_exists.mp hloop
  have hnext : InTime afterAlive silence := by
    intro _
    rw [hnow]
    decide
  have hmain := (keeps_alive .avrPro [ring512] 0 0 0 alive afterAlive
    (exec_eq_some_getD hthrough) (by decide +kernel) silence p hnext (by rw [hnow]; decide) rfl hp
    hconn).1
  exact ⟨hlast, p, hp, hmain.mpr (Or.inl (by rw [hlast]; decide))⟩

end UartBridge.KeepAlive
