import UartBridge.Client.DataProcessor
import UartBridge.Client.TCPTransport
import UartBridge.System.LoopPass

/-!
# One field for a counter or a poll interval

The counter field of a package holds the remote poll interval if a port was
opened by it, and the poll timer's counter otherwise. The firmware does not see
which: it takes the first package of each connection for the one with the
interval. Without UDP, every package goes over the TCP connection of the moment;
the threads that connect, announce the connection to the port workers, poll and
receive may be interleaved in any way.

* `InPlace` — a package that the firmware will understand, by its place on the
  connection;
* `Understood` — the invariant: what is on its way is in place, and every counter
  echoed, under way or confirmed comes from a processed package;
* `timerFrom_step` — the poll timer is only set by connects, disconnects and logged packages;
* `kept_apart_of_inPlace` — if every package is in place when it is sent, the
  poll timer is only set from intervals, and only counters are confirmed.
-/

namespace UartBridge.CounterField

open EventRun Client Firmware

variable {size fwSize : Nat}

/-- A package: its bytes, whether the interval was written into it, and the
counter of its poll tick. -/
structure Package where
  bytes : Nat → UInt8
  openTriggered : Bool
  counter : UInt32

/-- A TCP connection: the packages that will still arrive, how many were sent on
it, and how many the firmware has taken. -/
structure Conn where
  queue : List Package
  sent : Nat
  taken : Nat

/-- `notify`: the port worker that `GetConnection`, still under its lock, has to
tell next. `current` and `serving`: the client's and the firmware's connection.
`settings`: the packages from which the poll timer was set; `processed`: all
packages processed; `confirmed`: the values given to `ConfirmPackage`. -/
structure State (size fwSize : Nat) where
  ports : List (PortWorker UInt8 size)
  txBuff : Nat → UInt8
  poll : Option PollState
  built : Option Package
  notify : Option Nat
  current : Option Nat
  conns : List Conn
  fw : MainLoop fwSize
  serving : Option Nat
  nextAccept : Nat
  down : List (Nat → UInt8)
  settings : List Package
  processed : List Package
  confirmed : List UInt32

inductive Event where
  /-- A local client connects to port `i`. -/
  | portOpen (i : Nat) (connection : ConnId)
  /-- `GetConnection`, on either thread, establishes a connection. -/
  | connect
  /-- The next port worker sees `MSG_CONNECTED`. -/
  | notify
  | pollStart (counter : UInt32)
  | pollPort (input : ReadResult)
  | pollFinish
  /-- `OnSendPackage`; without a connection, or if `send` fails, the package is lost. -/
  | send (udpTransportPort : UInt16) (sent : Bool)
  /-- The client gives its connection up. -/
  | lose
  /-- Of what was sent on a connection given up, only the first packages arrive. -/
  | cut (id keep : Nat)
  /-- The loop's turn when the TCP server has accepted a connection, got a package,
  or lost the connection. -/
  | accept (id : Nat) (remoteIP : UInt32) (micros : UInt32)
  | process (micros : UInt32)
  | disconnect (micros : UInt32)
  /-- The firmware sends a response. -/
  | respond
  /-- The client processes a response. -/
  | response
  /-- Responses are lost with a connection. -/
  | cutDown (keep : Nat)
  deriving Repr

/-- Both programs after the start. -/
def init (ports : List (PortWorker UInt8 size)) (fw : MainLoop fwSize) : State size fwSize :=
  { ports := ports, txBuff := fun _ => 0, poll := none, built := none, notify := none
    current := none, conns := [], fw := fw, serving := none, nextAccept := 0, down := []
    settings := [], processed := [], confirmed := [] }

/-- The counter field of a package. -/
def counterAt (mem : Nat → UInt8) : UInt32 :=
  ByteMem.decode32 (mem pkgCntOffset) (mem (pkgCntOffset + 1)) (mem (pkgCntOffset + 2))
    (mem (pkgCntOffset + 3))

/-- Whether `takeCounter` sets the poll timer from the package's counter field. -/
def setsTimer (cfg : Configuration) (fw : MainLoop fwSize) (p : Package) : Bool :=
  fw.pollIntervalSetPending && 0 < MainLoop.pollInterval cfg p.bytes

def step (D : Deployment) (portConfig : Nat → PortConfig) (s : State size fwSize) :
    Event → Option (State size fwSize)
  | .portOpen i connection =>
    some { s with ports := s.ports.modify i fun w =>
      w.onPortOpen (portConfig i) (portConfig i).portID connection }
  | .connect =>
    -- the lock is held until every port worker was told
    if s.current.isSome ∨ s.notify.isSome then none
    else some { s with
      conns := s.conns ++ [{ queue := [], sent := 0, taken := 0 }]
      current := some s.conns.length
      notify := if 0 < s.ports.length then some 0 else none }
  | .notify =>
    match s.notify with
    | none => none
    | some i => some { s with
        ports := s.ports.modify i PortWorker.onConnected
        notify := if i + 1 < s.ports.length then some (i + 1) else none }
  | .pollStart counter =>
    if s.poll.isSome ∨ s.built.isSome then none
    else some { s with poll := some (DataProcessor.pollStart counter) }
  | .pollPort input =>
    match s.poll with
    | none => none
    | some poll =>
      match s.ports[poll.port]? with
      | none => none
      | some w =>
        let r := w.processTX D.config (portConfig poll.port) poll.counter input
        let b := DataProcessor.pollPort D.config r.2.1 r.2.2 s.txBuff poll
        some { s with ports := s.ports.set poll.port r.1, txBuff := b.1, poll := some b.2 }
  | .pollFinish =>
    match s.poll with
    | none => none
    | some poll =>
      if poll.port < s.ports.length then none
      else
        let txBuff := (DataProcessor.pollFinish D.config s.txBuff poll).1
        some { s with
          txBuff := txBuff
          poll := none
          built := some { bytes := txBuff, openTriggered := poll.openTriggered
                          counter := poll.counter } }
  | .send udpTransportPort sent =>
    match s.built with
    | none => none
    | some p =>
      -- its `GetConnection` waits for the lock
      if s.notify.isSome then none
      else
        match s.current with
        | none => some { s with built := none }
        | some id =>
          if sent then
            let bytes := TCPTransport.stampPackage D.config udpTransportPort p.bytes
            some { s with
              built := none
              txBuff := bytes
              conns := s.conns.modify id fun c =>
                { c with queue := c.queue ++ [{ p with bytes := bytes }], sent := c.sent + 1 } }
          else some { s with built := none, current := none }
  | .lose => some { s with current := none }
  | .cut id keep =>
    if s.current = some id then none
    else some { s with conns := s.conns.modify id fun c => { c with queue := c.queue.take keep } }
  | .accept id remoteIP micros =>
    if s.serving.isSome ∨ id < s.nextAccept ∨ s.conns.length ≤ id then none
    else some { s with
      serving := some id
      nextAccept := id + 1
      fw := s.fw.controlEvent D.cfg micros (.Connected remoteIP) }
  | .process micros =>
    match s.serving with
    | none => none
    | some id =>
      match s.conns[id]? with
      | none => none
      | some c =>
        match c.queue with
        | [] => none
        | p :: queue => some { s with
            conns := s.conns.modify id fun c => { c with queue := queue, taken := c.taken + 1 }
            fw := { s.fw with rxBuff := p.bytes }.takeCounter D.cfg micros
            settings := if setsTimer D.cfg s.fw p then s.settings ++ [p] else s.settings
            processed := s.processed ++ [p] }
  | .disconnect micros =>
    if s.serving.isSome then
      some { s with
        serving := none
        fw := s.fw.controlEvent D.cfg micros (.Disconnected inaddrNone) }
    else none
  | .respond =>
    if s.serving.isSome then
      let txBuff := (TCPServer.processTX D.cfg.packageSize D.cfg.metaSz [] s.fw.txBuff).1
      some { s with fw := { s.fw with txBuff := txBuff }, down := s.down ++ [txBuff] }
    else none
  | .response =>
    match s.down with
    | [] => none
    | package :: down => some { s with
        down := down
        ports := DataProcessor.onIncomingPackage D.config package s.ports
        confirmed := s.confirmed ++ [(Client.Response.map 0 package).counter] }
  | .cutDown keep => some { s with down := s.down.take keep }

/-- A value that the client put as a counter into a package the firmware has
processed, or zero. -/
def Sourced (processed : List Package) (value : UInt32) : Prop :=
  value ≠ 0 → ∃ p ∈ processed, p.openTriggered = false ∧ p.counter = value

/-- **The property.** The poll timer was only set from packages with the interval,
and only counters of processed packages were confirmed. -/
structure KeptApart (s : State size fwSize) : Prop where
  timer : ∀ p ∈ s.settings, p.openTriggered = true
  confirmed : ∀ value ∈ s.confirmed, Sourced s.processed value

/-- The package's field is what the firmware takes it for, if `position` packages
came before it on the connection: the first one carries the interval (or nothing
the timer would be set to), and no other one does (or an interval of zero). -/
def InPlace (D : Deployment) (position : Nat) (p : Package) : Prop :=
  (position = 0 → p.openTriggered = true ∨ MainLoop.pollInterval D.cfg p.bytes = 0) ∧
    (0 < position → p.openTriggered = true → D.config.remotePollInterval = 0)

/-- **The condition.** Every package is in place when it is sent. -/
def SentInPlace (D : Deployment) (s : State size fwSize) : Event → Prop
  | .send _ true =>
    match s.built, s.current.bind (s.conns[·]?) with
    | some p, some c => InPlace D c.sent p
    | _, _ => True
  | _ => True

/-! ## The field -/

/-- The field is what it is, whatever the sender writes around it. -/
theorem counterAt_congr {mem mem' : Nat → UInt8} (h : ∀ a, 2 ≤ a → a < 6 → mem a = mem' a) :
    counterAt mem = counterAt mem' := by
  simp only [counterAt, pkgCntOffset, h 2 (by omega) (by omega), h (2 + 1) (by omega) (by omega),
    h (2 + 2) (by omega) (by omega), h (2 + 3) (by omega) (by omega)]

theorem pollInterval_congr (cfg : Configuration) {mem mem' : Nat → UInt8}
    (h : ∀ a, 2 ≤ a → a < 6 → mem a = mem' a) :
    MainLoop.pollInterval cfg mem = MainLoop.pollInterval cfg mem' := by
  simp only [MainLoop.pollInterval, MainLoop.intervalField, Configuration.pkgCntOffset,
    h 2 (by omega) (by omega), h (2 + 1) (by omega) (by omega), h (2 + 2) (by omega) (by omega)]

/-- Sealing a package leaves the field alone. -/
theorem sealPackage_field (D : Deployment) (header : UInt16) (mem : Nat → UInt8) (a : Nat)
    (ha : 2 ≤ a) (hlt : a < 6) : sealPackage D.cfg.metaSz header mem a = mem a := by
  refine sealPackage_apart header mem a ha ?_
  simp only [Configuration.metaSz, Configuration.pkgHdrSz]
  omega

theorem stampPackage_field (D : Deployment) (udpTransportPort : UInt16) (mem : Nat → UInt8)
    (a : Nat) (ha : 2 ≤ a) (hlt : a < 6) :
    TCPTransport.stampPackage D.config udpTransportPort mem a = mem a := by
  have hstamp : TCPTransport.stampPackage D.config udpTransportPort mem =
      sealPackage D.cfg.metaSz (if D.config.enableUDP then udpTransportPort else 0) mem := by
    simp only [TCPTransport.stampPackage, D.metaSz_eq]
    rfl
  rw [hstamp]
  exact sealPackage_field D _ mem a ha hlt

/-- The field of a finished package. -/
theorem counterAt_pollFinish (config : Config) (txBuff : Nat → UInt8) (poll : PollState) :
    counterAt (DataProcessor.pollFinish config txBuff poll).1 =
      DataProcessor.counterField config poll :=
  ByteMem.decode32_write txBuff pkgCntOffset _

/-- The field of the firmware's send buffer after a package: zero if it was taken
for the interval, and the package's field otherwise. -/
theorem counterAt_takeCounter (cfg : Configuration) (micros : UInt32) (fw : MainLoop fwSize) :
    (fw.takeCounter cfg micros).pollIntervalSetPending = false ∧
      counterAt (fw.takeCounter cfg micros).txBuff =
        if fw.pollIntervalSetPending then 0 else counterAt fw.rxBuff := by
  unfold MainLoop.takeCounter
  dsimp only
  cases fw.pollIntervalSetPending with
  | true =>
    rw [if_pos rfl, if_pos rfl]
    refine ⟨rfl, ?_⟩
    generalize ByteMem.write fw.txBuff Configuration.pkgCntOffset _ = mem
    exact ByteMem.decode32_write mem pkgCntOffset 0
  | false =>
    rw [if_neg Bool.false_ne_true, if_neg Bool.false_ne_true]
    refine ⟨rfl, counterAt_congr ?_⟩
    intro a ha hlt
    have h := ByteMem.write_read fw.txBuff fw.rxBuff Configuration.pkgCntOffset 4 (a - 2) (by omega)
    have ha' : Configuration.pkgCntOffset + (a - 2) = a := by
      simp only [Configuration.pkgCntOffset]
      omega
    rwa [ha'] at h

/-- Where `setsTimer` says no, the poll timer stays as it was. -/
theorem takeCounter_pollTimer (cfg : Configuration) (micros : UInt32) (fw : MainLoop fwSize)
    (p : Package) (h : setsTimer cfg fw p = false) :
    ({ fw with rxBuff := p.bytes }.takeCounter cfg micros).pollTimer = fw.pollTimer := by
  unfold MainLoop.takeCounter
  dsimp only
  unfold setsTimer at h
  cases hpending : fw.pollIntervalSetPending with
  | true =>
    rw [hpending, Bool.true_and, decide_eq_false_iff_not] at h
    rw [if_pos rfl, if_neg h]
  | false => rfl

/-- And where it says yes, the timer is set to what the loop makes of the field. -/
theorem takeCounter_setsTimer (cfg : Configuration) (micros : UInt32) (fw : MainLoop fwSize)
    (p : Package) (h : setsTimer cfg fw p = true) :
    ({ fw with rxBuff := p.bytes }.takeCounter cfg micros).pollTimer =
      fw.pollTimer.setInterval (MainLoop.pollInterval cfg p.bytes) micros := by
  obtain ⟨hpending, hpos⟩ := Bool.and_eq_true_iff.mp h
  unfold MainLoop.takeCounter
  dsimp only
  rw [if_pos hpending]
  dsimp only
  rw [if_pos (of_decide_eq_true hpos)]

/-! ## What the poll timer was set to -/

/-- The poll timer has the interval that a connect or disconnect sets, or that of a logged
package. -/
def TimerFrom (D : Deployment) (s : State size fwSize) : Prop :=
  ∃ interval, s.fw.pollTimer.interval = (s.fw.pollTimer.setInterval interval 0).interval ∧
    (interval = D.cfg.uartPollIntervalUSDefault ∨
      ∃ p ∈ s.settings, interval = MainLoop.pollInterval D.cfg p.bytes)

section Timer

variable {D : Deployment} {portConfig : Nat → PortConfig} {s t : State size fwSize}

/-- Events that are not the loop's do not touch the timer. -/
theorem timer_of_step {e : Event} (hstep : step D portConfig s e = some t)
    (haccept : ∀ id remoteIP micros, e ≠ .accept id remoteIP micros)
    (hprocess : ∀ micros, e ≠ .process micros) (hdisconnect : ∀ micros, e ≠ .disconnect micros) :
    t.fw.pollTimer = s.fw.pollTimer ∧ t.settings = s.settings := by
  cases e with
  | accept id remoteIP micros => exact absurd rfl (haccept id remoteIP micros)
  | process micros => exact absurd rfl (hprocess micros)
  | disconnect micros => exact absurd rfl (hdisconnect micros)
  | portOpen | lose | cutDown =>
    cases hstep
    exact ⟨rfl, rfl⟩
  | connect | notify | pollStart | cut | respond | response =>
    simp only [step] at hstep
    split at hstep
    all_goals
      cases hstep
      try exact ⟨rfl, rfl⟩
  | pollPort =>
    simp only [step] at hstep
    split at hstep
    · cases hstep
    · split at hstep
      · cases hstep
      · cases hstep
        exact ⟨rfl, rfl⟩
  | pollFinish =>
    simp only [step] at hstep
    split at hstep
    · cases hstep
    · split at hstep
      · cases hstep
      · cases hstep
        exact ⟨rfl, rfl⟩
  | send =>
    simp only [step] at hstep
    split at hstep
    · cases hstep
    · split at hstep
      · cases hstep
      · split at hstep
        · cases hstep
          exact ⟨rfl, rfl⟩
        · split at hstep <;>
            · cases hstep
              exact ⟨rfl, rfl⟩

/-- **The timer's interval only changes where the model logs it**, at a connect and at a
disconnect. -/
theorem timerFrom_step (h : TimerFrom D s) {e : Event} (hstep : step D portConfig s e = some t) :
    TimerFrom D t := by
  cases e with
  | accept id remoteIP micros =>
    simp only [step] at hstep
    split at hstep
    · cases hstep
    · cases hstep
      exact ⟨_, rfl, Or.inl rfl⟩
  | disconnect micros =>
    simp only [step] at hstep
    split at hstep
    · cases hstep
      exact ⟨_, rfl, Or.inl rfl⟩
    · cases hstep
  | process micros =>
    simp only [step] at hstep
    split at hstep
    · cases hstep
    · split at hstep
      · cases hstep
      · split at hstep
        · cases hstep
        next p _ _ =>
          cases hstep
          cases hsets : setsTimer D.cfg s.fw p with
          | true =>
            refine ⟨_, congrArg (·.interval) (takeCounter_setsTimer D.cfg micros s.fw p hsets),
              Or.inr ⟨p, ?_, rfl⟩⟩
            exact List.mem_append_right _ (List.mem_singleton_self p)
          | false =>
            obtain ⟨interval, htimer, hfrom⟩ := h
            have hsame := takeCounter_pollTimer D.cfg micros s.fw p hsets
            refine ⟨interval, (congrArg (·.interval) hsame).trans htimer, ?_⟩
            simpa only [hsets, Bool.false_eq_true, if_false] using hfrom
  | portOpen | connect | notify | pollStart | pollPort | pollFinish | send | lose | cut | respond
  | response | cutDown =>
    obtain ⟨htimer, hsettings⟩ := timer_of_step hstep nofun nofun nofun
    unfold TimerFrom
    rw [htimer, hsettings]
    exact h

end Timer

/-! ## The invariant -/

/-- A package as the client makes it. -/
def Made (D : Deployment) (p : Package) : Prop :=
  counterAt p.bytes = if p.openTriggered then D.config.remotePollInterval else p.counter

/-- What is known of a connection: its packages are in place, the client's current
one has lost none, and the firmware waits for an interval exactly until it has
taken the first package of the one it serves. -/
structure ConnOk (D : Deployment) (current serving : Option Nat) (pending : Bool)
    (nextAccept id : Nat) (c : Conn) : Prop where
  made : ∀ p ∈ c.queue, Made D p
  inPlace : ∀ (k : Nat) (p : Package), c.queue[k]? = some p → InPlace D (c.taken + k) p
  sent_eq : current = some id → c.sent = c.taken + c.queue.length
  pending_iff : serving = some id → (pending = true ↔ c.taken = 0)
  fresh : nextAccept ≤ id → c.taken = 0

/-- What holds between client, wire and firmware. -/
structure Understood (D : Deployment) (s : State size fwSize) : Prop where
  built_made : ∀ p, s.built = some p → Made D p
  conns_ok : ∀ (id : Nat) (c : Conn), s.conns[id]? = some c →
    ConnOk D s.current s.serving s.fw.pollIntervalSetPending s.nextAccept id c
  serving_lt : ∀ id, s.serving = some id → id < s.nextAccept
  accept_le : s.nextAccept ≤ s.conns.length
  timer : ∀ p ∈ s.settings, p.openTriggered = true
  echo : Sourced s.processed (counterAt s.fw.txBuff)
  down : ∀ package ∈ s.down, Sourced s.processed (counterAt package)
  confirmed : ∀ value ∈ s.confirmed, Sourced s.processed value

variable {D : Deployment} {portConfig : Nat → PortConfig} {s t : State size fwSize}

/-- Nothing has been sent, and the send buffer's counter is zero. -/
theorem Understood.start (ports : List (PortWorker UInt8 size))
    (rxRingBuffs : List (DataBuffer UInt8 fwSize)) (millis micros : UInt32) :
    Understood D (init ports (MainLoop.setup D.cfg rxRingBuffs millis micros)) := by
  refine ⟨?_, ?_, ?_, Nat.le_refl _, ?_, ?_, ?_, ?_⟩
  · intro p hp
    cases hp
  · intro id c hc
    simp [init] at hc
  · intro id hid
    cases hid
  · intro p hp
    exact absurd hp List.not_mem_nil
  · intro hne
    refine absurd ?_ hne
    show ByteMem.decode32 0 0 0 0 = 0
    decide
  · intro package hp
    exact absurd hp List.not_mem_nil
  · intro value hv
    exact absurd hv List.not_mem_nil

/-- More packages are processed, and a value stays sourced. -/
theorem Sourced.append {processed : List Package} {value : UInt32} (h : Sourced processed value)
    (p : Package) : Sourced (processed ++ [p]) value := by
  intro hne
  obtain ⟨q, hq, hopen, hcounter⟩ := h hne
  exact ⟨q, List.mem_append_left _ hq, hopen, hcounter⟩

/-! ## One package -/

/-- Header and checksum do not change what a package means. -/
theorem Made.stamp {p : Package} (h : Made D p) (udpTransportPort : UInt16) :
    Made D { p with bytes := TCPTransport.stampPackage D.config udpTransportPort p.bytes } :=
  (counterAt_congr (stampPackage_field D udpTransportPort p.bytes)).trans h

theorem InPlace.stamp {position : Nat} {p : Package} (h : InPlace D position p)
    (udpTransportPort : UInt16) : InPlace D position
      { p with bytes := TCPTransport.stampPackage D.config udpTransportPort p.bytes } := by
  refine ⟨?_, h.2⟩
  intro hzero
  show p.openTriggered = true ∨ MainLoop.pollInterval D.cfg
    (TCPTransport.stampPackage D.config udpTransportPort p.bytes) = 0
  rw [pollInterval_congr D.cfg (stampPackage_field D udpTransportPort p.bytes)]
  exact h.1 hzero

/-- What the firmware makes of a package in place. -/
theorem process_inPlace {fw : MainLoop fwSize} {p : Package} {taken : Nat} (hmade : Made D p)
    (hplace : InPlace D taken p) (hpending : fw.pollIntervalSetPending = true ↔ taken = 0)
    (processed : List Package) (micros : UInt32) :
    (setsTimer D.cfg fw p = true → p.openTriggered = true) ∧
      Sourced (processed ++ [p])
        (counterAt ({ fw with rxBuff := p.bytes }.takeCounter D.cfg micros).txBuff) := by
  constructor
  · intro hset
    unfold setsTimer at hset
    rw [Bool.and_eq_true, decide_eq_true_iff] at hset
    rcases hplace.1 (hpending.mp hset.1) with hopen | hzero
    · exact hopen
    · -- an interval of zero does not set the timer
      rw [hzero] at hset
      exact absurd hset.2 (by decide)
  · rw [(counterAt_takeCounter D.cfg micros { fw with rxBuff := p.bytes }).2]
    show Sourced (processed ++ [p])
      (if fw.pollIntervalSetPending then 0 else counterAt p.bytes)
    intro hne
    split at hne
    · -- taken for the interval: the echo is zero
      exact absurd rfl hne
    · rename_i hnot
      rw [if_neg hnot]
      have hpos : 0 < taken := Nat.pos_of_ne_zero fun hzero => hnot (hpending.mpr hzero)
      cases hopen : p.openTriggered with
      | true =>
        -- an interval that is echoed is zero
        rw [hmade, hopen, if_pos rfl, hplace.2 hpos hopen] at hne
        exact absurd rfl hne
      | false =>
        refine ⟨p, List.mem_append_right _ (List.mem_singleton_self p), hopen, ?_⟩
        rw [hmade, hopen, if_neg Bool.false_ne_true]

/-! ## One connection -/

section OneConnection

variable {current serving : Option Nat} {pending : Bool} {nextAccept id : Nat} {c : Conn}

/-- A new connection; the firmware has not accepted it yet. -/
theorem ConnOk.established (hserving : serving ≠ some id) :
    ConnOk D current serving pending nextAccept id { queue := [], sent := 0, taken := 0 } := by
  refine ⟨?_, ?_, fun _ => rfl, fun h => absurd h hserving, fun _ => rfl⟩
  · intro p hp
    exact absurd hp List.not_mem_nil
  · intro k p hk
    cases hk

/-- A package in place goes to the end of the current connection's queue. -/
theorem ConnOk.send (h : ConnOk D current serving pending nextAccept id c)
    (hcurrent : current = some id) {p : Package} (hmade : Made D p)
    (hplace : InPlace D c.sent p) :
    ConnOk D current serving pending nextAccept id
      { c with queue := c.queue ++ [p], sent := c.sent + 1 } := by
  have hlen := h.sent_eq hcurrent
  refine ⟨?_, ?_, ?_, h.pending_iff, h.fresh⟩
  · intro q hq
    rcases List.mem_append.mp hq with hold | hnew
    · exact h.made q hold
    · rw [List.mem_singleton.mp hnew]
      exact hmade
  · intro k q hk
    have hk' : (c.queue ++ [p])[k]? = some q := hk
    rcases Nat.lt_trichotomy k c.queue.length with hlt | rfl | hgt
    · rw [List.getElem?_append_left hlt] at hk'
      exact h.inPlace k q hk'
    · rw [List.getElem?_concat_length, Option.some.injEq] at hk'
      show InPlace D (c.taken + c.queue.length) q
      rw [← hlen, ← hk']
      exact hplace
    · have hlast : (c.queue ++ [p]).length ≤ k := by
        rw [List.length_append, List.length_singleton]
        omega
      rw [List.getElem?_eq_none hlast] at hk'
      cases hk'
  · intro _
    show c.sent + 1 = c.taken + (c.queue ++ [p]).length
    rw [hlen, List.length_append, List.length_singleton, Nat.add_assoc]

/-- What is at the end of the queue is lost with a connection given up. -/
theorem ConnOk.cut (h : ConnOk D current serving pending nextAccept id c)
    (hcurrent : current ≠ some id) (keep : Nat) :
    ConnOk D current serving pending nextAccept id { c with queue := c.queue.take keep } := by
  refine ⟨?_, ?_, fun hid => absurd hid hcurrent, h.pending_iff, h.fresh⟩
  · intro p hp
    exact h.made p (List.mem_of_mem_take hp)
  · intro k p hk
    have hk' : (c.queue.take keep)[k]? = some p := hk
    rw [List.getElem?_take] at hk'
    split at hk'
    · exact h.inPlace k p hk'
    · cases hk'

/-- The firmware takes the oldest package; from now on it expects counters. -/
theorem ConnOk.take (h : ConnOk D current serving pending nextAccept id c)
    (haccepted : id < nextAccept) {p : Package} {queue : List Package}
    (hqueue : c.queue = p :: queue) :
    ConnOk D current serving false nextAccept id
      { c with queue := queue, taken := c.taken + 1 } := by
  refine ⟨?_, ?_, ?_, ?_, ?_⟩
  · intro q hq
    exact h.made q (hqueue ▸ List.mem_cons_of_mem _ hq)
  · intro k q hk
    show InPlace D (c.taken + 1 + k) q
    have hk' := h.inPlace (k + 1) q (by rw [hqueue]; exact hk)
    rwa [← Nat.add_assoc, Nat.add_right_comm] at hk'
  · intro hid
    have hsent := h.sent_eq hid
    rw [hqueue, List.length_cons] at hsent
    show c.sent = c.taken + 1 + queue.length
    omega
  · -- at least one package was taken, and no interval is awaited
    intro _
    exact ⟨fun hf => (by cases hf), fun hz => absurd hz (Nat.succ_ne_zero _)⟩
  · intro hle
    exact absurd haccepted (Nat.not_lt.mpr hle)

/-- Whether the firmware waits for an interval says nothing about a connection
that it does not serve. -/
theorem ConnOk.unserved (h : ConnOk D current serving pending nextAccept id c)
    (hserving : serving ≠ some id) (pending' : Bool) :
    ConnOk D current serving pending' nextAccept id c :=
  ⟨h.made, h.inPlace, h.sent_eq, fun hid => absurd hid hserving, h.fresh⟩

/-- The client turns to another connection, or has none. -/
theorem ConnOk.not_current (h : ConnOk D current serving pending nextAccept id c)
    {current' : Option Nat} (hcurrent : current' ≠ some id) :
    ConnOk D current' serving pending nextAccept id c :=
  ⟨h.made, h.inPlace, fun hid => absurd hid hcurrent, h.pending_iff, h.fresh⟩

/-- The firmware accepts a connection: nothing was taken from it before. -/
theorem ConnOk.accept (h : ConnOk D current serving pending nextAccept id c) {accepted : Nat}
    (hnext : nextAccept ≤ accepted) :
    ConnOk D current (some accepted) true (accepted + 1) id c := by
  refine ⟨h.made, h.inPlace, h.sent_eq, ?_, ?_⟩
  · intro hid
    obtain rfl := Option.some.inj hid
    exact ⟨fun _ => h.fresh hnext, fun _ => rfl⟩
  · intro hle
    exact h.fresh (by omega)

/-- The firmware gives its connection up. -/
theorem ConnOk.disconnect (h : ConnOk D current serving pending nextAccept id c)
    (pending' : Bool) : ConnOk D current none pending' nextAccept id c :=
  ⟨h.made, h.inPlace, h.sent_eq, fun hid => (by cases hid), h.fresh⟩

end OneConnection

/-- A connection after one of them was changed. -/
theorem getElem?_modify_cases {conns : List Conn} {id id' : Nat} {f : Conn → Conn} {c : Conn}
    (h : (conns.modify id f)[id']? = some c) :
    ∃ c', conns[id']? = some c' ∧ (id = id' ∧ c = f c' ∨ id ≠ id' ∧ c = c') := by
  rw [List.getElem?_modify] at h
  obtain ⟨c', hc', hf⟩ := Option.map_eq_some_iff.mp h
  by_cases hid : id = id'
  · rw [if_pos hid] at hf
    exact ⟨c', hc', Or.inl ⟨hid, hf.symm⟩⟩
  · rw [if_neg hid] at hf
    exact ⟨c', hc', Or.inr ⟨hid, hf.symm⟩⟩

/-! ## What the steps do -/

/-- A package is finished when every port was asked. -/
theorem step_pollFinish (hstep : step D portConfig s .pollFinish = some t) :
    ∃ poll, s.poll = some poll ∧
      t = { s with
        txBuff := (DataProcessor.pollFinish D.config s.txBuff poll).1
        poll := none
        built := some { bytes := (DataProcessor.pollFinish D.config s.txBuff poll).1
                        openTriggered := poll.openTriggered
                        counter := poll.counter } } := by
  simp only [step] at hstep
  cases hpoll : s.poll with
  | none => rw [hpoll] at hstep; cases hstep
  | some poll =>
    rw [hpoll] at hstep
    dsimp only at hstep
    split at hstep
    · cases hstep
    · exact ⟨poll, rfl, (Option.some.inj hstep).symm⟩

/-- A package is lost without a connection, lost with it, or goes out on it. -/
theorem step_send {udpTransportPort : UInt16} {sent : Bool}
    (hstep : step D portConfig s (.send udpTransportPort sent) = some t) :
    ∃ p, s.built = some p ∧
      (s.current = none ∧ t = { s with built := none } ∨
        t = { s with built := none, current := none } ∨
        ∃ id, s.current = some id ∧ sent = true ∧
          t = { s with
            built := none
            txBuff := TCPTransport.stampPackage D.config udpTransportPort p.bytes
            conns := s.conns.modify id fun c =>
              { c with
                queue := c.queue ++ [{ p with
                  bytes := TCPTransport.stampPackage D.config udpTransportPort p.bytes }]
                sent := c.sent + 1 } }) := by
  simp only [step] at hstep
  cases hbuilt : s.built with
  | none => rw [hbuilt] at hstep; cases hstep
  | some p =>
    rw [hbuilt] at hstep
    dsimp only at hstep
    refine ⟨p, rfl, ?_⟩
    split at hstep
    · cases hstep
    · cases hcurrent : s.current with
      | none =>
        rw [hcurrent] at hstep
        exact Or.inl ⟨rfl, (Option.some.inj hstep).symm⟩
      | some id =>
        rw [hcurrent] at hstep
        cases sent with
        | false => exact Or.inr (Or.inl (Option.some.inj hstep).symm)
        | true => exact Or.inr (Or.inr ⟨id, rfl, rfl, (Option.some.inj hstep).symm⟩)

/-- The firmware processes the oldest package of the connection it serves. -/
theorem step_process {micros : UInt32} (hstep : step D portConfig s (.process micros) = some t) :
    ∃ id c p queue, s.serving = some id ∧ s.conns[id]? = some c ∧ c.queue = p :: queue ∧
      t = { s with
        conns := s.conns.modify id fun c => { c with queue := queue, taken := c.taken + 1 }
        fw := { s.fw with rxBuff := p.bytes }.takeCounter D.cfg micros
        settings := if setsTimer D.cfg s.fw p then s.settings ++ [p] else s.settings
        processed := s.processed ++ [p] } := by
  simp only [step] at hstep
  cases hserving : s.serving with
  | none => rw [hserving] at hstep; cases hstep
  | some id =>
    rw [hserving] at hstep
    dsimp only at hstep
    cases hc : s.conns[id]? with
    | none => rw [hc] at hstep; cases hstep
    | some c =>
      rw [hc] at hstep
      dsimp only at hstep
      cases hqueue : c.queue with
      | nil => rw [hqueue] at hstep; cases hstep
      | cons p queue =>
        rw [hqueue] at hstep
        exact ⟨id, c, p, queue, rfl, hc, hqueue, (Option.some.inj hstep).symm⟩

/-! ## One step -/

theorem Understood.connect (h : Understood D s)
    (hstep : step D portConfig s .connect = some t) : Understood D t := by
  simp only [step] at hstep
  split at hstep
  · cases hstep
  · rw [Option.some.injEq] at hstep
    subst hstep
    have hle := h.accept_le
    refine ⟨h.built_made, ?_, h.serving_lt, ?_, h.timer, h.echo, h.down, h.confirmed⟩
    · intro id c hc
      have hc' : (s.conns ++ [Conn.mk [] 0 0])[id]? = some c := hc
      rcases Nat.lt_trichotomy id s.conns.length with hlt | rfl | hgt
      · rw [List.getElem?_append_left hlt] at hc'
        refine (h.conns_ok id c hc').not_current ?_
        intro hid
        exact absurd (Option.some.inj hid) (by omega)
      · rw [List.getElem?_concat_length, Option.some.injEq] at hc'
        rw [← hc']
        refine ConnOk.established ?_
        -- the firmware does not serve a connection that did not exist
        intro hid
        exact absurd (h.serving_lt _ hid) (by omega)
      · have hlast : (s.conns ++ [Conn.mk [] 0 0]).length ≤ id := by
          rw [List.length_append, List.length_singleton]
          omega
        rw [List.getElem?_eq_none hlast] at hc'
        cases hc'
    · show s.nextAccept ≤ (s.conns ++ [Conn.mk [] 0 0]).length
      rw [List.length_append]
      exact Nat.le_trans hle (Nat.le_add_right _ _)

theorem Understood.pollFinish (h : Understood D s)
    (hstep : step D portConfig s .pollFinish = some t) : Understood D t := by
  obtain ⟨poll, -, rfl⟩ := step_pollFinish hstep
  refine ⟨?_, h.conns_ok, h.serving_lt, h.accept_le, h.timer, h.echo, h.down, h.confirmed⟩
  intro p hp
  obtain rfl := Option.some.inj hp
  exact counterAt_pollFinish D.config s.txBuff poll

/-- The package that is sent, and its place. -/
theorem inPlace_of_sent {udpTransportPort : UInt16} {p : Package} {id : Nat} {c : Conn}
    (hplace : SentInPlace D s (.send udpTransportPort true)) (hbuilt : s.built = some p)
    (hcurrent : s.current = some id) (hc : s.conns[id]? = some c) : InPlace D c.sent p := by
  unfold SentInPlace at hplace
  rw [hbuilt, hcurrent, Option.bind_some, hc] at hplace
  exact hplace

theorem Understood.send (h : Understood D s) {udpTransportPort : UInt16} {sent : Bool}
    (hplace : SentInPlace D s (.send udpTransportPort sent))
    (hstep : step D portConfig s (.send udpTransportPort sent) = some t) : Understood D t := by
  obtain ⟨p, hbuilt, ⟨-, rfl⟩ | rfl | ⟨id, hcurrent, rfl, rfl⟩⟩ := step_send hstep
  · exact ⟨fun _ hp => (by cases hp), h.conns_ok, h.serving_lt, h.accept_le, h.timer, h.echo,
      h.down, h.confirmed⟩
  · refine ⟨fun _ hp => (by cases hp), ?_, h.serving_lt, h.accept_le, h.timer, h.echo, h.down,
      h.confirmed⟩
    intro id c hc
    exact (h.conns_ok id c hc).not_current (fun hid => by cases hid)
  · refine ⟨fun _ hp => (by cases hp), ?_, h.serving_lt, ?_, h.timer, h.echo, h.down,
      h.confirmed⟩
    · intro id' c hc
      obtain ⟨c', hc', ⟨rfl, rfl⟩ | ⟨-, rfl⟩⟩ := getElem?_modify_cases hc
      · exact (h.conns_ok id c' hc').send hcurrent ((h.built_made p hbuilt).stamp _)
          ((inPlace_of_sent hplace hbuilt hcurrent hc').stamp _)
      · exact h.conns_ok id' c hc'
    · show s.nextAccept ≤ (s.conns.modify id _).length
      rw [List.length_modify]
      exact h.accept_le

theorem Understood.cut (h : Understood D s) {id keep : Nat}
    (hstep : step D portConfig s (.cut id keep) = some t) : Understood D t := by
  simp only [step] at hstep
  split at hstep
  · cases hstep
  · rename_i hother
    rw [Option.some.injEq] at hstep
    subst hstep
    refine ⟨h.built_made, ?_, h.serving_lt, ?_, h.timer, h.echo, h.down, h.confirmed⟩
    · intro id' c hc
      obtain ⟨c', hc', ⟨rfl, rfl⟩ | ⟨-, rfl⟩⟩ := getElem?_modify_cases hc
      · exact (h.conns_ok id c' hc').cut hother keep
      · exact h.conns_ok id' c hc'
    · show s.nextAccept ≤ (s.conns.modify id _).length
      rw [List.length_modify]
      exact h.accept_le

theorem Understood.accept (h : Understood D s) {id : Nat} {remoteIP micros : UInt32}
    (hstep : step D portConfig s (.accept id remoteIP micros) = some t) : Understood D t := by
  simp only [step] at hstep
  split at hstep
  · cases hstep
  · rename_i hguard
    rw [Option.some.injEq] at hstep
    subst hstep
    refine ⟨h.built_made, ?_, ?_, ?_, h.timer, h.echo, h.down, h.confirmed⟩
    · intro id' c hc
      exact (h.conns_ok id' c hc).accept (by omega)
    · intro id' hid
      obtain rfl := Option.some.inj hid
      exact Nat.lt_succ_self _
    · show id + 1 ≤ s.conns.length
      omega

theorem Understood.process (h : Understood D s) {micros : UInt32}
    (hstep : step D portConfig s (.process micros) = some t) : Understood D t := by
  obtain ⟨id, c, p, queue, hserving, hc, hqueue, rfl⟩ := step_process hstep
  have hok := h.conns_ok id c hc
  have hfirst : InPlace D c.taken p := hok.inPlace 0 p (by rw [hqueue]; rfl)
  have hmade : Made D p := hok.made p (by rw [hqueue]; exact List.mem_cons_self)
  obtain ⟨htimer, hecho⟩ := process_inPlace hmade hfirst (hok.pending_iff hserving) s.processed
    micros
  have hpending := (counterAt_takeCounter D.cfg micros { s.fw with rxBuff := p.bytes }).1
  refine ⟨h.built_made, ?_, h.serving_lt, ?_, ?_, hecho, ?_, ?_⟩
  · intro id' c' hc'
    show ConnOk D s.current s.serving
      ({ s.fw with rxBuff := p.bytes }.takeCounter D.cfg micros).pollIntervalSetPending
      s.nextAccept id' c'
    rw [hpending]
    obtain ⟨c'', hc'', ⟨rfl, rfl⟩ | ⟨hne, rfl⟩⟩ := getElem?_modify_cases hc'
    · obtain rfl : c = c'' := Option.some.inj (hc.symm.trans hc'')
      exact hok.take (h.serving_lt id hserving) hqueue
    · refine (h.conns_ok id' c' hc'').unserved ?_ _
      intro hid
      exact hne (Option.some.inj (hserving.symm.trans hid))
  · show s.nextAccept ≤ (s.conns.modify id _).length
    rw [List.length_modify]
    exact h.accept_le
  · intro q hq
    have hq' : q ∈ if setsTimer D.cfg s.fw p then s.settings ++ [p] else s.settings := hq
    split at hq'
    · rename_i hset
      rcases List.mem_append.mp hq' with hold | hnew
      · exact h.timer q hold
      · rw [List.mem_singleton.mp hnew]
        exact htimer hset
    · exact h.timer q hq'
  · intro package hp
    exact (h.down package hp).append p
  · intro value hv
    exact (h.confirmed value hv).append p

/-- A response carries the echo. -/
theorem Understood.respond (h : Understood D s)
    (hstep : step D portConfig s .respond = some t) : Understood D t := by
  simp only [step] at hstep
  split at hstep
  · rw [Option.some.injEq] at hstep
    subst hstep
    have hsame : counterAt (TCPServer.processTX D.cfg.packageSize D.cfg.metaSz [] s.fw.txBuff).1 =
        counterAt s.fw.txBuff :=
      counterAt_congr (sealPackage_field D 0 s.fw.txBuff)
    have hecho := h.echo
    rw [← hsame] at hecho
    refine ⟨h.built_made, h.conns_ok, h.serving_lt, h.accept_le, h.timer, hecho, ?_, h.confirmed⟩
    intro package hp
    rcases List.mem_append.mp hp with hold | hnew
    · exact h.down package hold
    · rw [List.mem_singleton.mp hnew]
      exact hecho
  · cases hstep

/-- A response's counter is confirmed. -/
theorem Understood.response (h : Understood D s)
    (hstep : step D portConfig s .response = some t) : Understood D t := by
  simp only [step] at hstep
  cases hdown : s.down with
  | nil => rw [hdown] at hstep; cases hstep
  | cons package down =>
    rw [hdown, Option.some.injEq] at hstep
    subst hstep
    have hdowns := h.down
    rw [hdown] at hdowns
    refine ⟨h.built_made, h.conns_ok, h.serving_lt, h.accept_le, h.timer, h.echo, ?_, ?_⟩
    · intro q hq
      exact hdowns q (List.mem_cons_of_mem _ hq)
    · intro value hv
      rcases List.mem_append.mp hv with hold | hnew
      · exact h.confirmed value hold
      · rw [List.mem_singleton.mp hnew]
        exact hdowns package List.mem_cons_self

/-- **One step**, if it sends no package out of place. -/
theorem understood_step (h : Understood D s) {e : Event} (hplace : SentInPlace D s e)
    (hstep : step D portConfig s e = some t) : Understood D t := by
  cases e with
  | portOpen i connection =>
    rw [step, Option.some.injEq] at hstep
    exact hstep ▸ ⟨h.built_made, h.conns_ok, h.serving_lt, h.accept_le, h.timer, h.echo, h.down,
      h.confirmed⟩
  | connect => exact h.connect hstep
  | notify =>
    simp only [step] at hstep
    split at hstep
    · cases hstep
    · rw [Option.some.injEq] at hstep
      exact hstep ▸ ⟨h.built_made, h.conns_ok, h.serving_lt, h.accept_le, h.timer, h.echo, h.down,
        h.confirmed⟩
  | pollStart counter =>
    simp only [step] at hstep
    split at hstep
    · cases hstep
    · rw [Option.some.injEq] at hstep
      exact hstep ▸ ⟨h.built_made, h.conns_ok, h.serving_lt, h.accept_le, h.timer, h.echo, h.down,
        h.confirmed⟩
  | pollPort input =>
    simp only [step] at hstep
    split at hstep
    · cases hstep
    · split at hstep
      · cases hstep
      · rw [Option.some.injEq] at hstep
        exact hstep ▸ ⟨h.built_made, h.conns_ok, h.serving_lt, h.accept_le, h.timer, h.echo,
          h.down, h.confirmed⟩
  | pollFinish => exact h.pollFinish hstep
  | send udpTransportPort sent => exact h.send hplace hstep
  | lose =>
    rw [step, Option.some.injEq] at hstep
    subst hstep
    refine ⟨h.built_made, ?_, h.serving_lt, h.accept_le, h.timer, h.echo, h.down, h.confirmed⟩
    intro id c hc
    exact (h.conns_ok id c hc).not_current (fun hid => by cases hid)
  | cut id keep => exact h.cut hstep
  | accept id remoteIP micros => exact h.accept hstep
  | process micros => exact h.process hstep
  | disconnect micros =>
    simp only [step] at hstep
    split at hstep
    · rw [Option.some.injEq] at hstep
      subst hstep
      refine ⟨h.built_made, ?_, ?_, h.accept_le, h.timer, h.echo, h.down, h.confirmed⟩
      · intro id c hc
        exact (h.conns_ok id c hc).disconnect _
      · intro id hid
        cases hid
    · cases hstep
  | respond => exact h.respond hstep
  | response => exact h.response hstep
  | cutDown keep =>
    rw [step, Option.some.injEq] at hstep
    subst hstep
    refine ⟨h.built_made, h.conns_ok, h.serving_lt, h.accept_le, h.timer, h.echo, ?_, h.confirmed⟩
    intro q hq
    exact h.down q (List.mem_of_mem_take hq)

/-! ## Whole runs -/

/-- **Counters and intervals are kept apart** in every run in which the first
package on each connection carries the interval and no other one does: the poll timer has the
interval of such a package, or that of a connect or disconnect, and only counters are confirmed. -/
theorem kept_apart_of_inPlace (D : Deployment) (portConfig : Nat → PortConfig)
    (ports : List (PortWorker UInt8 size)) (rxRingBuffs : List (DataBuffer UInt8 fwSize))
    (millis micros : UInt32) (es : List Event) (s : State size fwSize)
    (along : Along (step D portConfig) (SentInPlace D)
      (init ports (MainLoop.setup D.cfg rxRingBuffs millis micros)) es)
    (hrun : exec (step D portConfig) (init ports (MainLoop.setup D.cfg rxRingBuffs millis micros))
      es = some s) : KeptApart s ∧ TimerFrom D s := by
  have h := exec_invariant_along (Understood D)
    (fun _ _ _ h hplace hstep => understood_step h hplace hstep)
    (Understood.start ports rxRingBuffs millis micros) along hrun
  have hstart : TimerFrom D (init ports (MainLoop.setup D.cfg rxRingBuffs millis micros)) :=
    ⟨_, rfl, Or.inl rfl⟩
  exact ⟨⟨h.timer, h.confirmed⟩,
    exec_invariant (TimerFrom D) (fun _ _ _ h hstep => timerFrom_step h hstep) hstart hrun⟩

/-! ## A board with one port -/

instance (D : Deployment) (position : Nat) (p : Package) : Decidable (InPlace D position p) :=
  inferInstanceAs (Decidable (_ ∧ _))

instance (D : Deployment) (s : State size fwSize) (e : Event) : Decidable (SentInPlace D s e) :=
  match e with
  | .send _ true =>
    match hbuilt : s.built, hconn : s.current.bind (s.conns[·]?) with
    | some p, some c => decidable_of_iff (InPlace D c.sent p) (by
        simp only [SentInPlace, hbuilt, hconn])
    | some p, none => isTrue (by simp only [SentInPlace, hbuilt, hconn])
    | none, _ => isTrue (by simp only [SentInPlace, hbuilt])
  | .send _ false | .portOpen _ _ | .connect | .notify | .pollStart _ | .pollPort _ | .pollFinish
  | .lose | .cut _ _ | .accept _ _ _ | .process _ | .disconnect _ | .respond | .response
  | .cutDown _ => isTrue trivial

open Deployment (avrPro ring16 ring512 port57600)

def onePort : List (PortWorker UInt8 16) := [PortWorker.create (avrPro false).config (ring16 0)]

def switchedOn : State 16 512 :=
  init onePort (MainLoop.setup (avrPro false).cfg [ring512] 0 0)

/-- A poll tick without data. -/
def tick (counter : UInt32) : List Event :=
  [.pollStart counter, .pollPort (.error .EAGAIN), .pollFinish]

/-- The connection is announced before the first tick. -/
def announced : List Event :=
  [.connect, .notify] ++ tick 1 ++ [.send 0 true, .accept 0 0x0100007F 100, .process 200] ++
    tick 2 ++ [.send 0 true, .process 300, .respond, .response]

def afterAnnounced : State 16 512 :=
  (exec (step (avrPro false) (port57600 false)) switchedOn announced).getD switchedOn

/-- The first package sets the timer, and the second one's counter is confirmed. -/
theorem kept_apart_announced :
    (KeptApart afterAnnounced ∧ TimerFrom (avrPro false) afterAnnounced) ∧
    afterAnnounced.settings.map (·.counter) = [1] ∧ afterAnnounced.confirmed = [2] :=
  ⟨kept_apart_of_inPlace (avrPro false) (port57600 false) onePort [ring512] 0 0 announced
    afterAnnounced (by decide +kernel) (exec_eq_some_getD (by decide +kernel)),
    by decide +kernel, by decide +kernel⟩

/-- A package is built, then the connection is established, and the package sent. -/
def early : List Event :=
  tick 7 ++ [.connect, .notify, .send 0 true, .accept 0 0x0100007F 100, .process 200]

def afterEarly : State 16 512 :=
  (exec (step (avrPro false) (port57600 false)) switchedOn early).getD switchedOn

/-- The poll timer is set from a counter. -/
theorem counter_sets_timer :
    ¬ ∀ (es : List Event) (s : State 16 512),
      exec (step (avrPro false) (port57600 false)) switchedOn es = some s → KeptApart s := by
  intro hall
  have hkept := hall early afterEarly (exec_eq_some_getD (by decide +kernel))
  have hset : afterEarly.settings.map (·.openTriggered) = [false] := by decide +kernel
  obtain ⟨p, hp, hopen⟩ : ∃ p ∈ afterEarly.settings, p.openTriggered = false := by
    have hmem : false ∈ afterEarly.settings.map (·.openTriggered) := by
      rw [hset]
      exact List.mem_singleton_self _
    exact List.mem_map.mp hmem
  rw [hkept.timer p hp] at hopen
  cases hopen

end UartBridge.CounterField
