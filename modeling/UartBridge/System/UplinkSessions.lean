import UartBridge.Lib.Run
import UartBridge.Lib.TwoChannels
import UartBridge.Client.DataProcessor
import UartBridge.System.PortLink

/-!
# Do a session's bytes stay in it on the way up?

One port with `resetOnConnect`. A poll tick builds a package; it goes over TCP if
it, or another port's part of it, opens, closes or resets a port, and in a datagram
otherwise. A Data request has no session number: the firmware's worker puts its
payload into the ring buffer, whatever the last Reset was. Every package carries
the number of the session in which it was built, and for every byte in the ring
buffer the session is kept beside it.

* `Isolated` — the property: what is stored after the Reset of a session was read
  in that session, and the Reset finds nothing of its own session in the buffer;
* `Sessions` — the invariant: the Reset of a session was sent before its data;
* `isolated_of_notOvertaking` — the property holds if no Reset overtakes a Data
  request, and no Data request a Reset.
-/

namespace UartBridge.UplinkSessions

open EventRun Client Firmware

variable {α : Type} {size : Nat} {cfg : Configuration}

/-- A package on its way: its number, the port's part of it, and the session in
which it was built. -/
structure Sent where
  number : Nat
  msg : UpMsg
  session : Nat

def Sent.isReset (m : Sent) : Bool := m.msg.request.type == .Reset
def Sent.isData (m : Sent) : Bool := m.msg.request.type == .Data

/-- What a Data request has put into the ring buffer, with the session of the last
Reset before it and its own session. -/
structure Stored where
  reset : Option Nat
  session : Nat
  bytes : List UInt8
  deriving DecidableEq, Repr

/-- The sessions of the bytes in the ring buffer when the Reset of session `reset`
emptied it. -/
structure Erased where
  reset : Nat
  sessions : List Nat
  deriving DecidableEq, Repr

/-- `opened` counts the calls of `OnPortOpen`: the number of the current session.
`tags` are the sessions of the bytes in the worker's ring buffer, oldest first, and
`lastReset` is the session of the last Reset processed. -/
structure State (α : Type) (size : Nat) (cfg : Configuration) where
  port : PortWorker α size
  opened : Nat
  slot : Nat → UInt8
  sent : Nat
  onTcp : List Sent
  onUdp : List Sent
  delivered : List Sent
  uart : UARTWorker cfg.dataBufferSize
  tags : List Nat
  lastReset : Option Nat
  stored : List Stored
  erased : List Erased

inductive Event where
  /-- A local client connects to this port. -/
  | portOpen (connection : ConnId)
  /-- The port worker sees `MSG_CONNECTED`. -/
  | connected
  /-- A poll tick; `useTCP` is what the other ports' requests ask for. -/
  | poll (counter : UInt32) (input : ReadResult) (useTCP : Bool)
  /-- A datagram is lost, or dropped by the firmware. -/
  | lose (k : Nat)
  /-- The firmware processes the next package of the stream, or the next datagram. -/
  | deliverTcp (now : UInt32)
  | deliverUdp (now : UInt32)
  /-- The worker's `ProcessRX`. -/
  | drain (now : UInt32) (availableForWrite : Nat)
  deriving Repr

/-- The client and the firmware after they were started. -/
def init (cfg : Configuration) (config : Config) (rxRingBuff : DataBuffer α size)
    (slot storage : Nat → UInt8) : State α size cfg :=
  { port := PortWorker.create config rxRingBuff, opened := 0, slot := slot, sent := 0
    onTcp := [], onUdp := [], delivered := []
    uart := UARTWorker.setup (DataBuffer.create storage cfg.dataBufferSize_pos)
    tags := [], lastReset := none, stored := [], erased := [] }

/-- The worker processes the package. -/
def process (now : UInt32) (m : Sent) (s : State α size cfg) : State α size cfg :=
  let uart := (m.msg.deliver now s.uart).1
  let t := { s with uart := uart, delivered := s.delivered ++ [m] }
  match m.msg.request.type with
  | .Data =>
    let bytes := uart.rxRingBuff.contents.drop s.uart.rxRingBuff.stored
    { t with
      tags := s.tags ++ List.replicate bytes.length m.session
      stored := s.stored ++ [{ reset := s.lastReset, session := m.session, bytes := bytes }] }
  | .Reset =>
    { t with tags := s.tags.take uart.rxRingBuff.stored, lastReset := some m.session
             erased := s.erased ++ [{ reset := m.session, sessions := s.tags }] }
  | .Open | .Close | .NoCommand => { t with tags := s.tags.take uart.rxRingBuff.stored }

/-- The request has to go over TCP. -/
def needsTCP (request : Client.Request) : Bool :=
  request.type == .Open || request.type == .Close || request.type == .Reset

def step (config : Config) (portConfig : PortConfig) (s : State α size cfg) :
    Event → Option (State α size cfg)
  | .portOpen connection =>
    some { s with port := s.port.onPortOpen portConfig portConfig.portID connection
                  opened := s.opened + 1 }
  | .connected => some { s with port := s.port.onConnected }
  | .poll counter input useTCP =>
    let r := s.port.processTX config portConfig counter input
    let slot := ByteMem.write s.slot 0 r.2.2
    let m := { number := s.sent, session := s.opened
               msg := { request := r.2.1, slot := slot, counter := counter } }
    let s := { s with port := r.1, slot := slot, sent := s.sent + 1 }
    if needsTCP r.2.1 || useTCP || !config.enableUDP then some { s with onTcp := s.onTcp ++ [m] }
    else some { s with onUdp := s.onUdp ++ [m] }
  | .lose k => some { s with onUdp := s.onUdp.eraseIdx k }
  | .deliverTcp now =>
    match s.onTcp with
    | [] => none
    | m :: onTcp => some (process now m { s with onTcp := onTcp })
  | .deliverUdp now =>
    match s.onUdp with
    | [] => none
    | m :: onUdp => some (process now m { s with onUdp := onUdp })
  | .drain now availableForWrite =>
    let uart := s.uart.processRX cfg now availableForWrite
    some { s with
      uart := uart, tags := s.tags.drop (s.tags.length - uart.rxRingBuff.stored) }

/-- **The property.** `tags` knows the session of every byte in the ring buffer; a
byte stored after the Reset of a session, and before the next Reset, was read in
that session; and the Reset of a session erases no byte that was read in it. -/
structure Isolated (s : State α size cfg) : Prop where
  tags_len : s.tags.length = s.uart.rxRingBuff.stored
  stored_ok : ∀ e ∈ s.stored, e.bytes ≠ [] → ∀ k, e.reset = some k → e.session = k
  erased_ok : ∀ e ∈ s.erased, e.reset ∉ e.sessions

/-- A Reset and a Data request, or two Resets, which always go over TCP. -/
def Clash (x y : Sent) : Prop :=
  x.isReset = true ∧ (y.isData = true ∨ y.isReset = true) ∨ x.isData = true ∧ y.isReset = true

instance (x y : Sent) : Decidable (Clash x y) :=
  inferInstanceAs (Decidable (_ ∨ _))

/-- The oldest package of a queue overtakes none on the other channel with which it
clashes. -/
def InTurn : List Sent → List Sent → Prop
  | [], _ => True
  | m :: _, other => ∀ x ∈ other, Clash m x → ¬ x.number < m.number

instance : ∀ queue other : List Sent, Decidable (InTurn queue other)
  | [], _ => isTrue trivial
  | m :: _, other => inferInstanceAs (Decidable (∀ x ∈ other, Clash m x → ¬ x.number < m.number))

/-- **The condition.** No Reset is processed while an older Data request is on its
way in a datagram, and no Data request while an older Reset is on its way. -/
def NotOvertaking (s : State α size cfg) : Event → Prop
  | .deliverTcp _ => InTurn s.onTcp s.onUdp
  | .deliverUdp _ => InTurn s.onUdp s.onTcp
  | .portOpen _ | .connected | .poll _ _ _ | .lose _ | .drain _ _ => True

instance (s : State α size cfg) : ∀ e, Decidable (NotOvertaking s e)
  | .deliverTcp _ => inferInstanceAs (Decidable (InTurn s.onTcp s.onUdp))
  | .deliverUdp _ => inferInstanceAs (Decidable (InTurn s.onUdp s.onTcp))
  | .portOpen _ | .connected | .poll _ _ _ | .lose _ | .drain _ _ => isTrue trivial

/-! ## The tags -/

variable {s t : State α size cfg} {m : Sent}

/-- A Data request appends to the ring buffer, and the tags follow. -/
theorem tags_data (now : UInt32) (htags : s.tags.length = s.uart.rxRingBuff.stored)
    (hdata : m.msg.request.type = .Data) :
    (process now m s).tags.length = (process now m s).uart.rxRingBuff.stored := by
  have hstored := (deliver_data cfg.dataBufferSize_lt now m.msg s.uart hdata).1
  have huart : (process now m s).uart = (m.msg.deliver now s.uart).1 := by
    simp only [process, hdata]
  rw [huart]
  simp only [process, hdata, List.length_append, List.length_replicate, List.length_drop,
    DataBuffer.length_contents]
  omega

/-- Every other request empties the ring buffer or leaves it as it is. -/
theorem tags_other (now : UInt32) (htags : s.tags.length = s.uart.rxRingBuff.stored)
    (hdata : m.msg.request.type ≠ .Data) :
    (s.tags.take (m.msg.deliver now s.uart).1.rxRingBuff.stored).length =
      (m.msg.deliver now s.uart).1.rxRingBuff.stored := by
  have hstored := (deliver_other now m.msg s.uart hdata).1
  have hle : (fill m.msg (s.uart.curMode, s.uart.rxRingBuff.stored)).2 ≤ s.uart.rxRingBuff.stored :=
    fill_le hdata (s.uart.curMode, s.uart.rxRingBuff.stored)
  rw [List.length_take]
  omega

/-- Draining takes the oldest bytes. -/
theorem tags_drain (now : UInt32) (availableForWrite : Nat)
    (htags : s.tags.length = s.uart.rxRingBuff.stored) :
    (s.tags.drop (s.tags.length -
      (s.uart.processRX cfg now availableForWrite).rxRingBuff.stored)).length =
      (s.uart.processRX cfg now availableForWrite).rxRingBuff.stored := by
  obtain ⟨-, k, hk⟩ := s.uart.processRX_spec cfg.dataBufferSize_lt cfg now availableForWrite
  have hlen := congrArg List.length hk
  rw [List.length_drop, DataBuffer.length_contents, DataBuffer.length_contents] at hlen
  rw [List.length_drop]
  omega

/-! ## The invariant -/

/-- Every package, as far as it was not lost. -/
def packages (s : State α size cfg) : List Sent := s.delivered ++ (s.onTcp ++ s.onUdp)

/-- The Reset of session `k` was sent, and was not lost. -/
def Announced (s : State α size cfg) (k : Nat) (x : Sent) : Prop :=
  x ∈ s.delivered ++ s.onTcp ∧ x.isReset = true ∧ x.session = k

structure Sessions (s : State α size cfg) : Prop where
  queues : TwoChannels.InOrder Sent.number Clash s.sent s.onTcp s.onUdp s.delivered
  /-- Sessions come one after the other. -/
  session_le : ∀ x ∈ packages s, x.session ≤ s.opened
  session_mono : ∀ x ∈ packages s, ∀ y ∈ packages s, x.number ≤ y.number → x.session ≤ y.session
  /-- Data comes after the Reset of its session. -/
  announced : ∀ y ∈ packages s, y.isData = true →
    ∃ x, Announced s y.session x ∧ x.number < y.number
  reset_unique : ∀ x ∈ packages s, ∀ y ∈ packages s, x.isReset = true → y.isReset = true →
    x.session = y.session → x.number = y.number
  /-- The client's current session is announced, or will be. -/
  current : s.port.client.isSome = true → s.port.resetPending = false →
    ∃ x, Announced s s.opened x
  pending : s.port.resetPending = true → ∀ x ∈ packages s, x.isReset = true →
    x.session < s.opened
  from_reset : ∀ k, s.lastReset = some k →
    ∃ l ∈ s.delivered, l.isReset = true ∧ l.session = k ∧
      ∀ x ∈ s.delivered, x.isReset = true → x.number ≤ l.number
  tags_from : ∀ k ∈ s.tags, ∃ d ∈ s.delivered, d.isData = true ∧ d.session = k
  isolated : Isolated s

theorem Sessions.start (config : Config) (rxRingBuff : DataBuffer α size) (slot : Nat → UInt8)
    (storage : Nat → UInt8) : Sessions (init cfg config rxRingBuff slot storage) := by
  refine ⟨TwoChannels.InOrder.start, fun _ h => absurd h List.not_mem_nil,
    fun _ h => absurd h List.not_mem_nil, fun _ h => absurd h List.not_mem_nil,
    fun _ h => absurd h List.not_mem_nil, fun h => (by cases h), fun h => (by cases h),
    fun _ h => (by cases h), fun _ h => absurd h List.not_mem_nil,
    ⟨?_, fun _ h => absurd h List.not_mem_nil, fun _ h => absurd h List.not_mem_nil⟩⟩
  exact (DataBuffer.stored_create storage cfg.dataBufferSize_pos).symm

/-! ## The client's side -/

variable {config : Config} {portConfig : PortConfig}

/-- What a tick's request says about the port worker. -/
theorem processTX_request (config : Config) (portConfig : PortConfig) (counter : UInt32)
    (input : ReadResult) (w : PortWorker α size) :
    let r := w.processTX config portConfig counter input
    (r.2.1.type = .Reset → w.resetPending = true ∧ r.1.resetPending = false) ∧
      (r.2.1.type = .Data → w.client.isSome = true ∧ w.resetPending = false) ∧
      (r.2.1.type ≠ .Reset → r.1.resetPending = w.resetPending) ∧
      (r.1.client.isSome = true → w.client.isSome = true) := by
  have htick := PortWorker.processTX_tick config portConfig counter input w
  dsimp only
  generalize w.processTX config portConfig counter input = r at htick ⊢
  cases htick with
  | idle why => exact ⟨fun h => (by cases h), fun h => (by cases h), fun _ => rfl, id⟩
  | openPort opening => exact ⟨fun h => (by cases h), fun h => (by cases h), fun _ => rfl, id⟩
  | reset opened announcing =>
    exact ⟨fun _ => ⟨announcing, rfl⟩, fun h => (by cases h), fun h => absurd rfl h, id⟩
  | gone why =>
    exact ⟨fun h => (by cases h), fun h => (by cases h), fun _ => rfl, fun h => (by cases h)⟩
  | data avail read connected opened announced client nonempty =>
    exact ⟨fun h => (by cases h), fun _ => ⟨client, announced⟩, fun _ => rfl, id⟩

/-- A new client starts a new session; its Reset is still to be sent. -/
theorem sessions_portOpen (h : Sessions s) (hreset : portConfig.resetOnConnect = true)
    {connection : ConnId} (hstep : step config portConfig s (.portOpen connection) = some t) :
    Sessions t := by
  rw [step, Option.some.injEq] at hstep
  have hpending : (s.port.onPortOpen portConfig portConfig.portID connection).resetPending =
      true := by
    simp [PortWorker.onPortOpen, hreset]
  subst hstep
  refine ⟨h.queues, fun x hx => Nat.le_succ_of_le (h.session_le x hx), h.session_mono,
    h.announced, h.reset_unique, ?_, fun _ x hx _ => Nat.lt_succ_of_le (h.session_le x hx),
    h.from_reset, h.tags_from, ⟨h.isolated.tags_len, h.isolated.stored_ok, h.isolated.erased_ok⟩⟩
  intro _ hnone
  rw [hpending] at hnone
  cases hnone

/-- What is known of a package that a tick has built, before it is sent. -/
structure Newest (s : State α size cfg) (m : Sent) : Prop where
  number_eq : m.number = s.sent
  session_eq : m.session = s.opened
  data_announced : m.isData = true → ∃ x, Announced s s.opened x
  reset_first : m.isReset = true → ∀ x ∈ packages s, x.isReset = true → x.session < s.opened

theorem Announced.mem_packages {k : Nat} {x : Sent} (h : Announced s k x) : x ∈ packages s := by
  rcases List.mem_append.mp h.1 with hold | hqueued
  · exact List.mem_append_left _ hold
  · exact List.mem_append_right _ (List.mem_append_left _ hqueued)

/-- Nothing was sent after the newest package. -/
theorem Newest.number_lt (h : Sessions s) (hm : Newest s m) {x : Sent} (hx : x ∈ packages s) :
    x.number < m.number := by
  rw [hm.number_eq]
  exact h.queues.stamp_lt x hx

/-- Sessions come one after the other, also with the newest package. -/
theorem Newest.session_mono (h : Sessions s) (hm : Newest s m) :
    ∀ x, x = m ∨ x ∈ packages s → ∀ y, y = m ∨ y ∈ packages s → x.number ≤ y.number →
      x.session ≤ y.session := by
  intro x hx y hy hle
  rcases hx with rfl | hxold
  · rcases hy with rfl | hyold
    · exact Nat.le_refl _
    · exact absurd hle (Nat.not_le_of_lt (hm.number_lt h hyold))
  · rcases hy with rfl | hyold
    · rw [hm.session_eq]
      exact h.session_le x hxold
    · exact h.session_mono x hxold y hyold hle

/-- A session has one Reset, also with the newest package. -/
theorem Newest.reset_unique (h : Sessions s) (hm : Newest s m) :
    ∀ x, x = m ∨ x ∈ packages s → ∀ y, y = m ∨ y ∈ packages s → x.isReset = true →
      y.isReset = true → x.session = y.session → x.number = y.number := by
  intro x hx y hy hrx hry hsame
  rcases hx with rfl | hxold
  · rcases hy with rfl | hyold
    · rfl
    · have := hm.reset_first hrx y hyold hry
      rw [hm.session_eq] at hsame
      omega
  · rcases hy with rfl | hyold
    · have := hm.reset_first hry x hxold hrx
      rw [hm.session_eq] at hsame
      omega
    · exact h.reset_unique x hxold y hyold hrx hry hsame

/-- A package was put into one of the queues. -/
theorem Sessions.send (h : Sessions s) (hm : Newest s m)
    (hmem : ∀ x ∈ t.onTcp ++ t.onUdp, x = m ∨ x ∈ s.onTcp ++ s.onUdp)
    (htcp : ∀ x ∈ s.onTcp, x ∈ t.onTcp) (hreset : m.isReset = true → m ∈ t.onTcp)
    (hqueues : TwoChannels.InOrder Sent.number Clash t.sent t.onTcp t.onUdp t.delivered)
    (hopened : t.opened = s.opened) (hdelivered : t.delivered = s.delivered)
    (hfirmware : t.uart = s.uart ∧ t.tags = s.tags ∧ t.lastReset = s.lastReset ∧
      t.stored = s.stored ∧ t.erased = s.erased)
    (hclient : t.port.client.isSome = true → s.port.client.isSome = true)
    (hpending : m.isReset = false → t.port.resetPending = s.port.resetPending)
    (hcleared : m.isReset = true → t.port.resetPending = false) : Sessions t := by
  have hall {x : Sent} (hx : x ∈ packages t) : x = m ∨ x ∈ packages s := by
    rcases List.mem_append.mp hx with hold | hqueued
    · exact Or.inr (List.mem_append_left _ (hdelivered ▸ hold))
    · exact (hmem x hqueued).imp_right (List.mem_append_right _)
  have hkept {k : Nat} {x : Sent} (hx : Announced s k x) : Announced t k x := by
    refine ⟨?_, hx.2⟩
    rcases List.mem_append.mp hx.1 with hold | hqueued
    · exact List.mem_append_left _ (hdelivered ▸ hold)
    · exact List.mem_append_right _ (htcp x hqueued)
  obtain ⟨huart, htags, hlastReset, hstored, herased⟩ := hfirmware
  refine ⟨hqueues, ?_, fun x hx y hy => hm.session_mono h x (hall hx) y (hall hy), ?_,
    fun x hx y hy => hm.reset_unique h x (hall hx) y (hall hy), ?_, ?_, ?_, ?_, ?_⟩
  · intro x hx
    rw [hopened]
    rcases hall hx with rfl | hold
    · exact Nat.le_of_eq hm.session_eq
    · exact h.session_le x hold
  · intro y hy hdata
    rcases hall hy with rfl | hold
    · obtain ⟨x, hx⟩ := hm.data_announced hdata
      exact ⟨x, hm.session_eq ▸ hkept hx, hm.number_lt h hx.mem_packages⟩
    · obtain ⟨x, hx, hlt⟩ := h.announced y hold hdata
      exact ⟨x, hkept hx, hlt⟩
  · intro hsome hnone
    rw [hopened]
    cases hkind : m.isReset with
    | true =>
      exact ⟨m, List.mem_append_right _ (hreset hkind), hkind, hm.session_eq⟩
    | false =>
      obtain ⟨x, hx⟩ := h.current (hclient hsome) (hpending hkind ▸ hnone)
      exact ⟨x, hkept hx⟩
  · intro hnext x hx hrx
    rw [hopened]
    cases hkind : m.isReset with
    | true =>
      rw [hcleared hkind] at hnext
      cases hnext
    | false =>
      rcases hall hx with rfl | hold
      · rw [hkind] at hrx
        cases hrx
      · exact h.pending (hpending hkind ▸ hnext) x hold hrx
  · rw [hlastReset, hdelivered]
    exact h.from_reset
  · rw [htags, hdelivered]
    exact h.tags_from
  · exact ⟨by rw [htags, huart]; exact h.isolated.tags_len,
      by rw [hstored]; exact h.isolated.stored_ok, by rw [herased]; exact h.isolated.erased_ok⟩

/-- **A poll tick.** -/
theorem sessions_poll (h : Sessions s) {counter : UInt32} {input : ReadResult} {useTCP : Bool}
    (hstep : step config portConfig s (.poll counter input useTCP) = some t) : Sessions t := by
  obtain ⟨hreset, hdata, hother, hclient⟩ :=
    processTX_request config portConfig counter input s.port
  simp only [step] at hstep
  generalize s.port.processTX config portConfig counter input = r at *
  generalize hm : ({ number := s.sent, session := s.opened
                     msg := { request := r.2.1, slot := ByteMem.write s.slot 0 r.2.2
                              counter := counter } } : Sent) = m at hstep
  have hkindReset : m.isReset = true → r.2.1.type = .Reset := by
    intro hkind
    rw [← hm] at hkind
    exact eq_of_beq hkind
  have hkindData : m.isData = true → r.2.1.type = .Data := by
    intro hkind
    rw [← hm] at hkind
    exact eq_of_beq hkind
  have hkindOther : m.isReset = false → r.2.1.type ≠ .Reset := by
    intro hkind htype
    rw [← hm] at hkind
    simp [Sent.isReset, htype] at hkind
  have hnewest : Newest s m := by
    refine ⟨by rw [← hm], by rw [← hm], ?_, ?_⟩
    · intro hkind
      obtain ⟨hsome, hnone⟩ := hdata (hkindData hkind)
      exact h.current hsome hnone
    · intro hkind
      exact h.pending (hreset (hkindReset hkind)).1
  have hpending : m.isReset = false → r.1.resetPending = s.port.resetPending :=
    fun hkind => hother (hkindOther hkind)
  have hcleared : m.isReset = true → r.1.resetPending = false :=
    fun hkind => (hreset (hkindReset hkind)).2
  split at hstep
  · rw [Option.some.injEq] at hstep
    subst hstep
    exact h.send hnewest (fun x hx => by simpa [or_comm, or_assoc, or_left_comm] using hx)
      (fun x hx => List.mem_append_left _ hx)
      (fun _ => List.mem_append_right _ (List.mem_singleton_self m))
      (h.queues.send hnewest.number_eq) rfl rfl ⟨rfl, rfl, rfl, rfl, rfl⟩ hclient hpending hcleared
  · rename_i hudp
    rw [Option.some.injEq] at hstep
    subst hstep
    refine h.send hnewest (fun x hx => by simpa [or_comm, or_assoc, or_left_comm] using hx)
      (fun x hx => hx) ?_ (h.queues.swap.send hnewest.number_eq).swap rfl rfl
      ⟨rfl, rfl, rfl, rfl, rfl⟩ hclient hpending hcleared
    -- a Reset always goes over TCP
    intro hkind
    simp [needsTCP, hkindReset hkind] at hudp

/-! ## The firmware's side -/

/-- What the queues lose without being processed must not be a Reset. -/
theorem Sessions.lose (h : Sessions s) {onUdp : List Sent} (hsub : List.Sublist onUdp s.onUdp) :
    Sessions { s with onUdp := onUdp } := by
  have hall {x : Sent} (hx : x ∈ s.delivered ++ (s.onTcp ++ onUdp)) : x ∈ packages s :=
    ((hsub.append_left s.onTcp).append_left s.delivered).subset hx
  exact ⟨(h.queues.swap.lose hsub).swap, fun x hx => h.session_le x (hall hx),
    fun x hx y hy => h.session_mono x (hall hx) y (hall hy),
    fun y hy => h.announced y (hall hy),
    fun x hx y hy => h.reset_unique x (hall hx) y (hall hy), h.current,
    fun hp x hx => h.pending hp x (hall hx), h.from_reset, h.tags_from,
    ⟨h.isolated.tags_len, h.isolated.stored_ok, h.isolated.erased_ok⟩⟩

/-- The worker's `ProcessRX` takes bytes out of the ring buffer. -/
theorem sessions_drain (h : Sessions s) {now : UInt32} {availableForWrite : Nat}
    (hstep : step config portConfig s (.drain now availableForWrite) = some t) : Sessions t := by
  rw [step, Option.some.injEq] at hstep
  subst hstep
  refine ⟨h.queues, h.session_le, h.session_mono, h.announced, h.reset_unique, h.current,
    h.pending, h.from_reset, ?_, ⟨?_, h.isolated.stored_ok, h.isolated.erased_ok⟩⟩
  · exact fun k hk => h.tags_from k ((List.drop_sublist _ _).subset hk)
  · exact tags_drain now availableForWrite h.isolated.tags_len

/-- What a package that is processed next says about those processed before. -/
structure Next (s : State α size cfg) (m : Sent) : Prop where
  mem : m ∈ s.onTcp ++ s.onUdp
  /-- It was sent after every package processed with which it clashes. -/
  ahead : ∀ d ∈ s.delivered, Clash d m → d.number < m.number
  /-- A Data request comes after the Reset of its session. -/
  announced : m.isData = true → ∃ x ∈ s.delivered, x.isReset = true ∧ x.session = m.session

/-- **A byte is stored under the Reset of its session.** -/
theorem Sessions.stored_session (h : Sessions s) (hm : Next s m) (hdata : m.isData = true) {k : Nat}
    (hk : s.lastReset = some k) : m.session = k := by
  obtain ⟨l, hl, hlreset, rfl, hlast⟩ := h.from_reset k hk
  obtain ⟨x, hx, hxreset, hsession⟩ := hm.announced hdata
  have hin {y : Sent} (hy : y ∈ s.delivered) : y ∈ packages s := List.mem_append_left _ hy
  -- the Reset of the session is not later than the last one, which is older than the data
  have hle := h.session_mono x (hin hx) l (hin hl) (hlast x hx hxreset)
  have hlt := hm.ahead l hl (Or.inl ⟨hlreset, Or.inl hdata⟩)
  have hge := h.session_mono l (hin hl) m (List.mem_append_right _ hm.mem) (Nat.le_of_lt hlt)
  omega

/-- **A Reset erases nothing of its own session.** -/
theorem Sessions.not_erased (h : Sessions s) (hm : Next s m) (hreset : m.isReset = true) :
    m.session ∉ s.tags := by
  intro hmem
  obtain ⟨d, hd, hdata, hsession⟩ := h.tags_from m.session hmem
  obtain ⟨x, hannounced, hlt⟩ := h.announced d (List.mem_append_left _ hd) hdata
  have hxmem := hannounced.mem_packages
  obtain ⟨-, hxreset, hxsession⟩ := hannounced
  -- the data was sent after the Reset of its session, which is this one
  have hsame := h.reset_unique x hxmem m (List.mem_append_right _ hm.mem) hxreset hreset
    (hxsession.trans hsession)
  have hafter := hm.ahead d hd (Or.inr ⟨hdata, hreset⟩)
  omega

/-- The package has moved from its queue to the processed ones. -/
theorem Sessions.processed (h : Sessions s) (hm : Next s m) (hport : t.port = s.port)
    (hopened : t.opened = s.opened) (hdelivered : t.delivered = s.delivered ++ [m])
    (htcp : ∀ x ∈ s.onTcp, x = m ∨ x ∈ t.onTcp)
    (hmem : ∀ x ∈ t.onTcp ++ t.onUdp, x ∈ s.onTcp ++ s.onUdp)
    (hqueues : TwoChannels.InOrder Sent.number Clash t.sent t.onTcp t.onUdp t.delivered)
    (from_reset : ∀ k, t.lastReset = some k → ∃ l ∈ t.delivered, l.isReset = true ∧
      l.session = k ∧ ∀ x ∈ t.delivered, x.isReset = true → x.number ≤ l.number)
    (tags_from : ∀ k ∈ t.tags, ∃ d ∈ t.delivered, d.isData = true ∧ d.session = k)
    (isolated : Isolated t) : Sessions t := by
  have hall {x : Sent} (hx : x ∈ packages t) : x ∈ packages s := by
    rcases List.mem_append.mp hx with hold | hqueued
    · rw [hdelivered] at hold
      rcases List.mem_append.mp hold with hold | hnew
      · exact List.mem_append_left _ hold
      · rw [List.mem_singleton.mp hnew]
        exact List.mem_append_right _ hm.mem
    · exact List.mem_append_right _ (hmem x hqueued)
  have hkept {k : Nat} {x : Sent} (hx : Announced s k x) : Announced t k x := by
    refine ⟨?_, hx.2⟩
    rw [hdelivered]
    rcases List.mem_append.mp hx.1 with hold | hqueued
    · exact List.mem_append_left _ (List.mem_append_left _ hold)
    · rcases htcp x hqueued with rfl | hqueued
      · exact List.mem_append_left _ (List.mem_append_right _ (List.mem_singleton_self _))
      · exact List.mem_append_right _ hqueued
  refine ⟨hqueues, fun x hx => hopened ▸ h.session_le x (hall hx),
    fun x hx y hy => h.session_mono x (hall hx) y (hall hy), ?_,
    fun x hx y hy => h.reset_unique x (hall hx) y (hall hy), ?_, ?_, from_reset, tags_from,
    isolated⟩
  · intro y hy hdata
    obtain ⟨x, hx, hlt⟩ := h.announced y (hall hy) hdata
    exact ⟨x, hkept hx, hlt⟩
  · intro hsome hnone
    rw [hport] at hsome hnone
    obtain ⟨x, hx⟩ := h.current hsome hnone
    exact ⟨x, hopened ▸ hkept hx⟩
  · intro hpending x hx hreset
    rw [hport] at hpending
    exact hopened ▸ h.pending hpending x (hall hx) hreset

/-- The last Reset is still the last one when another package is processed. -/
theorem Sessions.from_reset_other (h : Sessions s) (hreset : m.isReset = false) (k : Nat)
    (hk : s.lastReset = some k) : ∃ l ∈ s.delivered ++ [m], l.isReset = true ∧ l.session = k ∧
      ∀ x ∈ s.delivered ++ [m], x.isReset = true → x.number ≤ l.number := by
  obtain ⟨l, hl, hlreset, hsession, hlast⟩ := h.from_reset k hk
  refine ⟨l, List.mem_append_left _ hl, hlreset, hsession, ?_⟩
  intro x hx hxreset
  rcases List.mem_append.mp hx with hold | hnew
  · exact hlast x hold hxreset
  · rw [List.mem_singleton.mp hnew, hreset] at hxreset
    cases hxreset

/-- **A package is processed.** -/
theorem Sessions.process (h : Sessions s) (hm : Next s m) (now : UInt32) {onTcp onUdp : List Sent}
    (htcp : ∀ x ∈ s.onTcp, x = m ∨ x ∈ onTcp)
    (hmem : ∀ x ∈ onTcp ++ onUdp, x ∈ s.onTcp ++ s.onUdp)
    (hqueues : TwoChannels.InOrder Sent.number Clash s.sent onTcp onUdp (s.delivered ++ [m])) :
    Sessions (process now m { s with onTcp := onTcp, onUdp := onUdp }) := by
  have hisolated := h.isolated
  have htags (k : Nat) (hk : k ∈ s.tags) :
      ∃ d ∈ s.delivered ++ [m], d.isData = true ∧ d.session = k := by
    obtain ⟨d, hd, hfrom⟩ := h.tags_from k hk
    exact ⟨d, List.mem_append_left _ hd, hfrom⟩
  have hself : m ∈ s.delivered ++ [m] := List.mem_append_right _ (List.mem_singleton_self m)
  -- a request that is neither Data nor Reset
  have hother (hdata : m.msg.request.type ≠ .Data) (hreset : m.msg.request.type ≠ .Reset) :
      Sessions { s with
        onTcp := onTcp, onUdp := onUdp, delivered := s.delivered ++ [m]
        uart := (m.msg.deliver now s.uart).1
        tags := s.tags.take (m.msg.deliver now s.uart).1.rxRingBuff.stored } := by
    have hkind : m.isReset = false := by
      simpa [Sent.isReset] using hreset
    refine h.processed hm rfl rfl rfl htcp hmem hqueues (h.from_reset_other hkind) ?_
      ⟨tags_other now hisolated.tags_len hdata, hisolated.stored_ok, hisolated.erased_ok⟩
    exact fun k hk => htags k ((List.take_sublist _ _).subset hk)
  cases htype : m.msg.request.type with
  | NoCommand | Open | Close =>
    have hkept := hother (by rw [htype]; simp) (by rw [htype]; simp)
    simp only [UplinkSessions.process, htype]
    exact hkept
  | Data =>
    have hkind : m.isReset = false := by simp [Sent.isReset, htype]
    have hdata : m.isData = true := by simp [Sent.isData, htype]
    have hlen := tags_data (s := { s with onTcp := onTcp, onUdp := onUdp }) now hisolated.tags_len
      htype
    simp only [UplinkSessions.process, htype] at hlen ⊢
    refine h.processed hm rfl rfl rfl htcp hmem hqueues (h.from_reset_other hkind) ?_
      ⟨hlen, ?_, hisolated.erased_ok⟩
    · intro k hk
      rcases List.mem_append.mp hk with hold | hnew
      · exact htags k hold
      · exact ⟨m, hself, hdata, (List.eq_of_mem_replicate hnew).symm⟩
    · intro e he hne k hk
      rcases List.mem_append.mp he with hold | hnew
      · exact hisolated.stored_ok e hold hne k hk
      · rw [List.mem_singleton] at hnew
        subst hnew
        exact h.stored_session hm hdata hk
  | Reset =>
    have hreset : m.isReset = true := by simp [Sent.isReset, htype]
    have hdata : m.msg.request.type ≠ .Data := by rw [htype]; simp
    simp only [UplinkSessions.process, htype]
    refine h.processed hm rfl rfl rfl htcp hmem hqueues ?_ ?_
      ⟨tags_other now hisolated.tags_len hdata, hisolated.stored_ok, ?_⟩
    · intro k hk
      refine ⟨m, hself, hreset, Option.some.inj hk, ?_⟩
      intro x hx hxreset
      rcases List.mem_append.mp hx with hold | hnew
      · exact Nat.le_of_lt (hm.ahead x hold (Or.inl ⟨hxreset, Or.inr hreset⟩))
      · exact Nat.le_of_eq (congrArg Sent.number (List.mem_singleton.mp hnew))
    · exact fun k hk => htags k ((List.take_sublist _ _).subset hk)
    · intro e he
      rcases List.mem_append.mp he with hold | hnew
      · exact hisolated.erased_ok e hold
      · rw [List.mem_singleton] at hnew
        subst hnew
        exact h.not_erased hm hreset

/-- The next package of the stream: no older datagram with data is on its way. -/
theorem sessions_deliverTcp (h : Sessions s) {now : UInt32}
    (hturn : NotOvertaking s (.deliverTcp now))
    (hstep : step config portConfig s (.deliverTcp now) = some t) : Sessions t := by
  simp only [step] at hstep
  cases honTcp : s.onTcp with
  | nil =>
    simp only [honTcp] at hstep
    cases hstep
  | cons m onTcp =>
    simp only [honTcp, Option.some.injEq] at hstep
    have hqueues := h.queues
    have hhead : InTurn s.onTcp s.onUdp := hturn
    rw [honTcp] at hqueues hhead
    have hmem : m ∈ s.onTcp ++ s.onUdp := by
      rw [honTcp]
      exact List.mem_append_left _ List.mem_cons_self
    have hahead : ∀ d ∈ s.delivered, Clash d m → d.number < m.number :=
      fun d hd => hqueues.ahead d hd m (List.mem_append_left _ List.mem_cons_self)
    subst hstep
    refine h.process ⟨hmem, hahead, ?_⟩ now ?_ ?_ (hqueues.deliver hhead)
    · intro hdata
      obtain ⟨x, ⟨hx, hxreset, hsession⟩, hlt⟩ :=
        h.announced m (List.mem_append_right _ hmem) hdata
      refine ⟨x, ?_, hxreset, hsession⟩
      rcases List.mem_append.mp hx with hold | hqueued
      · exact hold
      · -- in the stream nothing older is left
        rw [honTcp] at hqueued
        rcases List.mem_cons.mp hqueued with rfl | hlater
        · exact absurd hlt (Nat.lt_irrefl _)
        · have := (List.pairwise_cons.mp hqueues.first_sorted).1 x hlater
          omega
    · intro x hx
      rw [honTcp] at hx
      exact List.mem_cons.mp hx
    · intro x hx
      rw [honTcp]
      exact List.mem_cons_of_mem m hx

/-- The next datagram: no older Reset is on its way. -/
theorem sessions_deliverUdp (h : Sessions s) {now : UInt32}
    (hturn : NotOvertaking s (.deliverUdp now))
    (hstep : step config portConfig s (.deliverUdp now) = some t) : Sessions t := by
  simp only [step] at hstep
  cases honUdp : s.onUdp with
  | nil =>
    simp only [honUdp] at hstep
    cases hstep
  | cons m onUdp =>
    simp only [honUdp, Option.some.injEq] at hstep
    have hqueues := h.queues.swap
    have hhead : InTurn s.onUdp s.onTcp := hturn
    rw [honUdp] at hqueues hhead
    have hmem : m ∈ s.onTcp ++ s.onUdp := by
      rw [honUdp]
      exact List.mem_append_right _ List.mem_cons_self
    have hahead : ∀ d ∈ s.delivered, Clash d m → d.number < m.number :=
      fun d hd => hqueues.ahead d hd m (List.mem_append_left _ List.mem_cons_self)
    subst hstep
    refine h.process ⟨hmem, hahead, ?_⟩ now (fun x hx => Or.inr hx) ?_
      (hqueues.deliver hhead).swap
    · intro hdata
      obtain ⟨x, ⟨hx, hxreset, hsession⟩, hlt⟩ :=
        h.announced m (List.mem_append_right _ hmem) hdata
      refine ⟨x, ?_, hxreset, hsession⟩
      rcases List.mem_append.mp hx with hold | hqueued
      · exact hold
      · -- the Reset is not on its way any more: it would be overtaken
        exact absurd hlt (hhead x hqueued (Or.inr ⟨hdata, hxreset⟩))
    · intro x hx
      rw [honUdp]
      rcases List.mem_append.mp hx with htcp | hudp
      · exact List.mem_append_left _ htcp
      · exact List.mem_append_right _ (List.mem_cons_of_mem m hudp)

/-- **Every step keeps the sessions apart**, if nothing overtakes. -/
theorem sessions_step (hreset : portConfig.resetOnConnect = true) (h : Sessions s) {e : Event}
    (hturn : NotOvertaking s e) (hstep : step config portConfig s e = some t) : Sessions t := by
  cases e with
  | portOpen connection => exact sessions_portOpen h hreset hstep
  | connected =>
    rw [step, Option.some.injEq] at hstep
    subst hstep
    exact ⟨h.queues, h.session_le, h.session_mono, h.announced, h.reset_unique, h.current,
      h.pending, h.from_reset, h.tags_from,
      ⟨h.isolated.tags_len, h.isolated.stored_ok, h.isolated.erased_ok⟩⟩
  | poll counter input useTCP => exact sessions_poll h hstep
  | lose k =>
    rw [step, Option.some.injEq] at hstep
    subst hstep
    exact h.lose (List.eraseIdx_sublist _ k)
  | deliverTcp now => exact sessions_deliverTcp h hturn hstep
  | deliverUdp now => exact sessions_deliverUdp h hturn hstep
  | drain now availableForWrite => exact sessions_drain h hstep

/-- **In every run in which no Reset and no Data request overtakes the other, the
sessions stay apart.** -/
theorem isolated_of_notOvertaking (cfg : Configuration) (config : Config)
    (portConfig : PortConfig) (hreset : portConfig.resetOnConnect = true)
    (rxRingBuff : DataBuffer α size) (slot storage : Nat → UInt8) (es : List Event)
    (s : State α size cfg)
    (free : Along (step config portConfig) NotOvertaking
      (init cfg config rxRingBuff slot storage) es)
    (run : exec (step config portConfig) (init cfg config rxRingBuff slot storage) es = some s) :
    Isolated s :=
  (exec_invariant_along Sessions (fun _ _ _ h hturn hstep => sessions_step hreset h hturn hstep)
    (Sessions.start config rxRingBuff slot storage) free run).isolated

/-! ## A port with two sessions -/

open Deployment (avrPro ring16 port57600)

def started : State UInt8 16 (avrPro true).cfg :=
  init (avrPro true).cfg (avrPro true).config (ring16 0) (fun _ => 0) fun _ => 0

/-- The port is opened, a client sends a byte, and a second client comes: Open and
Resets are on their way over TCP, the byte is in a datagram. -/
def twoClients : List Event :=
  [.connected, .portOpen 4, .poll 1 (.bytes []) false, .poll 2 (.bytes []) false,
    .poll 3 (.bytes [0x41]) false, .portOpen 5, .poll 4 (.bytes []) false]

/-- Everything is processed in the order in which it was sent. -/
def processedInOrder : List Event :=
  twoClients ++ [.deliverTcp 10, .deliverTcp 20, .deliverUdp 30, .deliverTcp 40,
    .poll 5 (.bytes [0x42]) false, .deliverUdp 50]

def afterInOrder : State UInt8 16 (avrPro true).cfg :=
  (exec (step (avrPro true).config (port57600 true 0)) started processedInOrder).getD started

theorem isolated_processedInOrder : Isolated afterInOrder ∧
    afterInOrder.stored = [⟨some 1, 1, [0x41]⟩, ⟨some 2, 2, [0x42]⟩] ∧
    afterInOrder.erased = [⟨1, []⟩, ⟨2, [1]⟩] :=
  ⟨isolated_of_notOvertaking (avrPro true).cfg (avrPro true).config (port57600 true 0) rfl
    (ring16 0) (fun _ => 0) (fun _ => 0) processedInOrder afterInOrder (by decide +kernel)
    (exec_eq_some_getD (by decide +kernel)), by decide +kernel, by decide +kernel⟩

/-- The stream is processed first. -/
def streamFirst : List Event :=
  twoClients ++ [.deliverTcp 10, .deliverTcp 20, .deliverTcp 30, .deliverUdp 40]

def afterStreamFirst : State UInt8 16 (avrPro true).cfg :=
  (exec (step (avrPro true).config (port57600 true 0)) started streamFirst).getD started

/-- The first client's byte is stored in the second client's session. -/
theorem reset_overtakes :
    ¬ ∀ (es : List Event) (s : State UInt8 16 (avrPro true).cfg),
      exec (step (avrPro true).config (port57600 true 0)) started es = some s → Isolated s := by
  intro hall
  have hisolated := hall streamFirst afterStreamFirst (exec_eq_some_getD (by decide +kernel))
  have hstored : afterStreamFirst.stored = [⟨some 2, 1, [0x41]⟩] := by decide +kernel
  have hsame := hisolated.stored_ok _ (by rw [hstored]; exact List.mem_singleton_self _)
    (by decide) 2 rfl
  exact absurd hsame (by decide)

end UartBridge.UplinkSessions
