import UartBridge.Lib.Run
import UartBridge.Lib.TwoChannels
import UartBridge.Client.DataProcessor
import UartBridge.Client.TCPTransport
import UartBridge.Client.UDPTransport
import UartBridge.System.Collect

/-!
# Do responses come in order over two channels?

The firmware sends a response in a datagram if it can, and over TCP otherwise.
The TCP stream is reliable; datagrams arrive in order, but may be lost; the client
takes from either channel whenever something is there. The run is one TCP session:
passes of `loop`, the client's two receiving threads, and whatever other threads
make of the port workers meanwhile. For every port it is recorded which bytes
`ProcessRX` added to the ring buffer, each with its place among the bytes that the
UART returned.

* `Carries` — what the client will find in a package on its way;
* `Ordering` — the invariant: packages on their way carry later bytes than those
  added, as far as they clash with packages delivered;
* `in_order_of_notOvertaking` — if no response overtakes an older one with data
  for the same port, every port gets its bytes in the order in which they were read.
-/

namespace UartBridge.DownlinkOrder

open EventRun Framing Client Firmware

variable {size fwSize : Nat}

/-- A response on its way: its number, its bytes, and for each port how many bytes
of data it has and how many the UART had returned before these. -/
structure Sent where
  number : Nat
  bytes : List UInt8
  pos : Nat → Nat
  len : Nat → Nat

/-- `stream` is what is on its way over TCP, and `onTcp`, `onUdp` are the responses
not yet received whole; `rx` is the TCP thread's, `conn` and `udpBuff` are the UDP
thread's. `delivered` are the responses handed to the port workers; `added` says
for each port what `ProcessRX` added to the ring buffer, with the place of each
byte. -/
structure State (size fwSize : Nat) where
  board : MainLoop fwSize
  sent : Nat
  stream : List UInt8
  onTcp : List Sent
  onUdp : List Sent
  rx : TCPTransport.RxState
  conn : UDPConnection
  udpBuff : Nat → UInt8
  ports : List (PortWorker UInt8 size)
  delivered : List Sent
  added : Nat → List (Nat × UInt8)

/-- What other threads do to a port worker while `ProcessRX` holds none of its
locks. -/
abbrev Between (size : Nat) := Nat → PortWorker UInt8 size → PortWorker UInt8 size

inductive Event (size : Nat) where
  | loop (input : LoopInput)
  /-- `recv` returns `k` bytes. -/
  | recv (k : Nat) (between : Between size)
  /-- `recvmsg` returns a datagram. -/
  | datagram (between : Between size)
  /-- A datagram is lost. -/
  | lose (k : Nat)
  /-- `GetConnection` of the UDP side makes a new connection. -/
  | udpConnection (conn : UDPConnection)
  /-- Other threads have worked on the port workers. -/
  | others (ports : List (PortWorker UInt8 size))

/-- A session that was just accepted. -/
def init (D : Deployment) (board : MainLoop fwSize) (rxBuff udpBuff : Nat → UInt8)
    (conn : UDPConnection) (ports : List (PortWorker UInt8 size)) : State size fwSize :=
  { board := board, sent := 0, stream := [], onTcp := [], onUdp := []
    rx := { rxBuff := rxBuff, dataLeft := D.config.getNetPackageSz }, conn := conn
    udpBuff := udpBuff, ports := ports, delivered := [], added := fun _ => [] }

/-- The response that the pass has sent. -/
def sentBy (number : Nat) (bytes : List UInt8) (board : MainLoop fwSize) : Sent where
  number := number
  bytes := bytes
  pos i := match board.uartWorker[i]? with
    | some w => w.bytesRead.length - w.txUsedSz
    | none => 0
  len i := match board.uartWorker[i]? with
    | some w => w.txUsedSz
    | none => 0

/-- `ProcessRX` of a port worker, and what it adds to the ring buffer. -/
def processRX (between : PortWorker UInt8 size → PortWorker UInt8 size) (response : Client.Response)
    (payload : List UInt8) (w : PortWorker UInt8 size) : PortWorker UInt8 size × List UInt8 :=
  let r := w.rxCheck response
  if r.2 then
    let v := between r.1
    let v' := v.rxWrite payload
    (v', v'.rxRingBuff.contents.drop v.rxRingBuff.contents.length)
  else (r.1, [])

/-- The port worker's part of a package. -/
def processPort (D : Deployment) (between : Between size) (package : Nat → UInt8) (i : Nat)
    (w : PortWorker UInt8 size) : PortWorker UInt8 size × List UInt8 :=
  let response := Client.Response.map i package
  processRX (between i) response
    (ByteMem.read package (D.config.getPortBuffOffset i) response.plSz.toNat) w

/-- The bytes with their places, the first one at `pos`. -/
def placed (pos : Nat) (bytes : List UInt8) : List (Nat × UInt8) :=
  bytes.mapIdx fun k b => (pos + k, b)

/-- `OnIncomingPackageEvent` for the package that `m` became. -/
def deliver (D : Deployment) (between : Between size) (package : Nat → UInt8) (m : Sent)
    (s : State size fwSize) : State size fwSize :=
  { s with
    ports := s.ports.mapIdx fun i w => (processPort D between package i w).1
    delivered := s.delivered ++ [m]
    added := fun i => s.added i ++ match s.ports[i]? with
      | some w => placed (m.pos i) (processPort D between package i w).2
      | none => [] }

/-- Whether the pass leaves the session as it is. -/
def staysUp : ClientEvent → Bool
  | .NoEvent _ | .NewRequest _ => true
  | .Connected _ | .Disconnected _ => false

/-- `none` also stands for the end of the session. TCP takes a response whole. -/
def step (D : Deployment) (s : State size fwSize) : Event size → Option (State size fwSize)
  | .loop input =>
    match s.board.loop D.cfg input with
    | none => none
    | some p =>
      if !staysUp p.event then none
      else
        match p.datagram with
        | some d =>
          some { s with
            board := p.state, sent := s.sent + 1
            onUdp := s.onUdp ++ [sentBy s.sent d.bytes p.state] }
        | none =>
          if p.sent.length = D.cfg.packageSize then
            some { s with
              board := p.state, sent := s.sent + 1, stream := s.stream ++ p.sent
              onTcp := s.onTcp ++ [sentBy s.sent p.sent p.state] }
          else if p.sent = [] then some { s with board := p.state }
          else none
  | .recv k between =>
    if 0 < k ∧ k ≤ s.rx.dataLeft ∧ k ≤ s.stream.length then
      let r := TCPTransport.received D.config (s.stream.take k) s.rx
      let s := { s with rx := r.1, stream := s.stream.drop k }
      match r.2, s.onTcp with
      | .goOn, _ => some s
      | .package, m :: onTcp => some (deliver D between r.1.rxBuff m { s with onTcp := onTcp })
      | .package, [] | .disposed, _ => none
    else none
  | .datagram between =>
    match s.onUdp with
    | [] => none
    | m :: onUdp =>
      let r := s.conn.receivePackage D.config m.bytes s.udpBuff
      let s := { s with onUdp := onUdp, conn := r.1, udpBuff := r.2.1 }
      some (if r.2.2 then deliver D between r.2.1 m s else s)
  | .lose k => some { s with onUdp := s.onUdp.eraseIdx k }
  | .udpConnection conn => some { s with conn := conn }
  | .others ports => some { s with ports := ports }

/-- **The property.** Every byte added for a port is one that its UART returned,
and the bytes are added in the order in which the UART returned them. -/
structure InOrder (D : Deployment) (s : State size fwSize) : Prop where
  is_read : ∀ i, i < D.cfg.uartCount → ∀ x ∈ s.added i,
    (bytesReadAt s.board i)[x.1]? = some x.2
  in_order : ∀ i, i < D.cfg.uartCount → (s.added i).Pairwise fun x y => x.1 < y.1

/-- Both responses have data for the same port. -/
def Clash (D : Deployment) (x y : Sent) : Prop :=
  ∃ i, i < D.cfg.uartCount ∧ 0 < x.len i ∧ 0 < y.len i

/-- A response on the other channel is older, and clashes with `m`. -/
def Overtakes (D : Deployment) (m : Sent) (other : List Sent) : Prop :=
  ∃ x ∈ other, Clash D m x ∧ x.number < m.number

/-- The oldest response on one channel overtakes none on the other. -/
def InTurn (D : Deployment) : List Sent → List Sent → Prop
  | [], _ => True
  | m :: _, other => ¬ Overtakes D m other

/-- **The condition.** A response that is about to be received whole overtakes no
older one that is still on its way over the other channel and has data for one of
the same ports. -/
def NotOvertaking (D : Deployment) (s : State size fwSize) : Event size → Prop
  | .recv k _ => k = s.rx.dataLeft → InTurn D s.onTcp s.onUdp
  | .datagram _ => InTurn D s.onUdp s.onTcp
  | .loop _ | .lose _ | .udpConnection _ | .others _ => True

/-! ## What a response carries -/

variable {D : Deployment} {s t : State size fwSize} {m : Sent}

/-- Whoever collects the bytes finds a sealed package, and in it for each port the
bytes that the UART returned at the place noted. -/
structure Carries (D : Deployment) (board : MainLoop fwSize) (m : Sent) : Prop where
  is_sealed : ∃ header, Sealed D.cfg.metaSz D.cfg.packageSize header m.bytes
  payload_eq : ∀ mem : Nat → UInt8, ByteMem.read mem 0 D.cfg.packageSize = m.bytes →
    ∀ i w, board.uartWorker[i]? = some w →
      (downlinkPair D.config i mem).2 = (w.bytesRead.drop (m.pos i)).take (m.len i)

/-- All that was collected for the response was read before what comes next. -/
def ReadBefore (D : Deployment) (board : MainLoop fwSize) (m : Sent) : Prop :=
  ∀ i w, board.uartWorker[i]? = some w → m.pos i + m.len i ≤ collectedFrom D.cfg board w

/-- For every port, `x` carries what was read before what `y` carries. -/
def Precedes (D : Deployment) (x y : Sent) : Prop :=
  ∀ i, i < D.cfg.uartCount → x.pos i + x.len i ≤ y.pos i

/-- The next pass leaves what was read in place. -/
theorem ReadBefore.pass {board : MainLoop fwSize} {p : Pass fwSize} {input : LoopInput}
    (h : ReadBefore D board m) (hcollecting : Collecting D.cfg board)
    (hp : board.loop D.cfg input = some p) : ReadBefore D p.state m := by
  intro i w' hw'
  obtain ⟨w, hw, hpassed⟩ := (loop_collect hcollecting hp).2.1 i w' hw'
  exact Nat.le_trans (h i w hw) hpassed.from_le

/-- What was read once stays in its place. -/
theorem take_drop_of_prefix {α : Type} {reads more : List α} (hmore : reads <+: more)
    {pos len : Nat} (hlen : pos + len ≤ reads.length) :
    (more.drop pos).take len = (reads.drop pos).take len := by
  obtain ⟨rest, rfl⟩ := hmore
  rw [List.drop_append_of_le_length (by omega), List.take_append_of_le_length]
  rw [List.length_drop]
  omega

theorem Carries.pass {board : MainLoop fwSize} {p : Pass fwSize} {input : LoopInput}
    (h : Carries D board m) (hread : ReadBefore D board m)
    (hcollecting : Collecting D.cfg board) (hp : board.loop D.cfg input = some p) :
    Carries D p.state m := by
  refine ⟨h.is_sealed, ?_⟩
  intro mem hmem i w' hw'
  obtain ⟨w, hw, hpassed⟩ := (loop_collect hcollecting hp).2.1 i w' hw'
  have hlen := Nat.le_trans (hread i w hw) (collectedFrom_le D.cfg board w)
  rw [h.payload_eq mem hmem i w hw, take_drop_of_prefix hpassed.more hlen]

/-- Every response of the session, as far as it was not lost. -/
def responses (s : State size fwSize) : List Sent := s.delivered ++ (s.onTcp ++ s.onUdp)

structure Ordering (D : Deployment) (s : State size fwSize) : Prop where
  collecting : Collecting D.cfg s.board
  receiving : Receiving D.cfg.packageSize s.rx.rxBuff s.rx.dataLeft s.stream
    (s.onTcp.map (·.bytes))
  queues : TwoChannels.InOrder Sent.number (Clash D) s.sent s.onTcp s.onUdp s.delivered
  carries : ∀ x ∈ s.onTcp ++ s.onUdp, Carries D s.board x
  read_before : ∀ x ∈ responses s, ReadBefore D s.board x
  precedes : ∀ x ∈ responses s, ∀ y ∈ responses s, x.number < y.number → Precedes D x y
  added_from : ∀ i, i < D.cfg.uartCount → ∀ x ∈ s.added i,
    ∃ d ∈ s.delivered, d.pos i ≤ x.1 ∧ x.1 < d.pos i + d.len i
  in_order : InOrder D s

theorem Ordering.start {board : MainLoop fwSize} (hboard : Collecting D.cfg board)
    (rxBuff udpBuff : Nat → UInt8) (conn : UDPConnection) (ports : List (PortWorker UInt8 size)) :
    Ordering D (init D board rxBuff udpBuff conn ports) := by
  have hpos : 0 < D.cfg.packageSize := Nat.lt_of_le_of_lt (Nat.zero_le _) D.metaSz_lt_packageSize
  refine ⟨hboard, ?_, TwoChannels.InOrder.start, fun _ h => absurd h List.not_mem_nil,
    fun _ h => absurd h List.not_mem_nil, fun _ h => absurd h List.not_mem_nil,
    fun _ _ _ h => absurd h List.not_mem_nil,
    ⟨fun _ _ _ h => absurd h List.not_mem_nil, fun _ _ => .nil⟩⟩
  show Receiving D.cfg.packageSize rxBuff D.config.getNetPackageSz [] []
  rw [D.packageSize_eq]
  exact Receiving.restart (InTransit.start hpos) rxBuff

/-- A pass, but for what it sends. -/
theorem Ordering.pass (h : Ordering D s) {input : LoopInput} {p : Pass fwSize}
    (hp : s.board.loop D.cfg input = some p) : Ordering D { s with board := p.state } := by
  obtain ⟨hcollecting, hworkers, -⟩ := loop_collect h.collecting hp
  refine ⟨hcollecting, h.receiving, h.queues, ?_, ?_, h.precedes, h.added_from, ?_⟩
  · intro x hx
    exact (h.carries x hx).pass (h.read_before x (List.mem_append_right _ hx)) h.collecting hp
  · exact fun x hx => (h.read_before x hx).pass h.collecting hp
  · refine ⟨?_, h.in_order.in_order⟩
    intro i hi x hx
    have hread := h.in_order.is_read i hi x hx
    have hi' : i < p.state.uartWorker.length := by rw [hcollecting.workers_len]; exact hi
    obtain ⟨w, hw, hpassed⟩ := hworkers i _ (List.getElem?_eq_getElem hi')
    rw [bytesReadAt_eq hw] at hread
    rw [bytesReadAt_eq (List.getElem?_eq_getElem hi')]
    obtain ⟨rest, hrest⟩ := hpassed.more
    obtain ⟨hlt, -⟩ := List.getElem?_eq_some_iff.mp hread
    rw [← hrest, List.getElem?_append_left hlt]
    exact hread

/-- What is known of a response that was just sent. -/
structure Newest (D : Deployment) (s : State size fwSize) (m : Sent) : Prop where
  number_eq : m.number = s.sent
  carries : Carries D s.board m
  read_before : ReadBefore D s.board m
  after : ∀ x ∈ responses s, Precedes D x m

/-- The order of what is read is the order of the numbers, also with a new response. -/
theorem Newest.precedes (h : Ordering D s) (hm : Newest D s m) :
    ∀ x, x = m ∨ x ∈ responses s → ∀ y, y = m ∨ y ∈ responses s → x.number < y.number →
      Precedes D x y := by
  intro x hx y hy hlt
  rcases hx with rfl | hx
  · rcases hy with rfl | hy
    · exact absurd hlt (Nat.lt_irrefl _)
    · -- nothing has a greater number than the newest
      have := h.queues.stamp_lt y hy
      rw [hm.number_eq] at hlt
      omega
  · rcases hy with rfl | hy
    · exact hm.after x hx
    · exact h.precedes x hx y hy hlt

/-- A response was put into one of the queues. -/
theorem Ordering.send (h : Ordering D s) (hm : Newest D s m) (hboard : t.board = s.board)
    (hdelivered : t.delivered = s.delivered) (hadded : t.added = s.added)
    (hmem : ∀ x ∈ t.onTcp ++ t.onUdp, x = m ∨ x ∈ s.onTcp ++ s.onUdp)
    (hreceiving : Receiving D.cfg.packageSize t.rx.rxBuff t.rx.dataLeft t.stream
      (t.onTcp.map (·.bytes)))
    (hqueues : TwoChannels.InOrder Sent.number (Clash D) t.sent t.onTcp t.onUdp t.delivered) :
    Ordering D t := by
  have hall {x : Sent} (hx : x ∈ responses t) : x = m ∨ x ∈ responses s := by
    rcases List.mem_append.mp hx with hold | hqueued
    · exact Or.inr (List.mem_append_left _ (hdelivered ▸ hold))
    · exact (hmem x hqueued).imp_right (List.mem_append_right _)
  refine ⟨hboard ▸ h.collecting, hreceiving, hqueues, ?_, ?_, ?_, ?_, ?_⟩
  · intro x hx
    rw [hboard]
    rcases hmem x hx with rfl | hold
    · exact hm.carries
    · exact h.carries x hold
  · intro x hx
    rw [hboard]
    rcases hall hx with rfl | hold
    · exact hm.read_before
    · exact h.read_before x hold
  · exact fun x hx y hy => hm.precedes h x (hall hx) y (hall hy)
  · rw [hadded, hdelivered]
    exact h.added_from
  · exact ⟨by rw [hadded, hboard]; exact h.in_order.is_read, by
      rw [hadded]; exact h.in_order.in_order⟩

/-- What `ProcessRX` adds to the ring buffer is the start of the payload. -/
theorem processRX_added (between : PortWorker UInt8 size → PortWorker UInt8 size)
    (response : Client.Response) (payload : List UInt8) (w : PortWorker UInt8 size) :
    (processRX between response payload w).2 <+: payload := by
  unfold processRX
  dsimp only
  split
  · have hstore := (DataBuffer.store_spec DataBuffer.getHead (fun _ => rfl) payload.length
      (between (w.rxCheck response).1).rxRingBuff payload (Nat.le_refl _)).1
    unfold PortWorker.rxWrite
    dsimp only
    rw [hstore, List.drop_left]
    exact List.take_prefix _ _
  · exact List.nil_prefix

/-- Nothing comes between the two sections: this is `ProcessRX` of the model. -/
theorem processRX_id (response : Client.Response) (payload : List UInt8)
    (w : PortWorker UInt8 size) :
    (processRX id response payload w).1 = w.processRX response payload := by
  unfold processRX PortWorker.processRX
  dsimp only [id]
  split <;> rfl

/-- The bytes are placed one after the other. -/
theorem mem_placed {pos : Nat} {bytes : List UInt8} {x : Nat × UInt8} (hx : x ∈ placed pos bytes) :
    ∃ k, k < bytes.length ∧ x.1 = pos + k ∧ bytes[k]? = some x.2 := by
  obtain ⟨k, hk, rfl⟩ := List.mem_mapIdx.mp hx
  exact ⟨k, hk, rfl, List.getElem?_eq_getElem hk⟩

theorem placed_in_order (pos : Nat) (bytes : List UInt8) :
    (placed pos bytes).Pairwise fun x y => x.1 < y.1 := by
  rw [List.pairwise_iff_getElem]
  intro i j hi hj hij
  simp only [placed, List.getElem_mapIdx]
  omega

/-- What is known of a response that is taken out of its queue. -/
structure Taken (D : Deployment) (s : State size fwSize) (m : Sent) : Prop where
  carries : Carries D s.board m
  read_before : ReadBefore D s.board m
  before : ∀ x ∈ responses s, m.number < x.number → Precedes D m x
  after : ∀ x ∈ responses s, x.number < m.number → Precedes D x m

/-- A response on its way, and the rest of the session. -/
theorem Ordering.taken (h : Ordering D s) (hm : m ∈ s.onTcp ++ s.onUdp)
    (hboard : t.board = s.board) (hrest : ∀ x ∈ responses t, x ∈ responses s) : Taken D t m := by
  have hall : m ∈ responses s := List.mem_append_right _ hm
  exact ⟨hboard ▸ h.carries m hm, hboard ▸ h.read_before m hall,
    fun x hx hlt => h.precedes m hall x (hrest x hx) hlt,
    fun x hx hlt => h.precedes x (hrest x hx) m hall hlt⟩

/-- A datagram may be lost, and so may a response that is then delivered anyway. -/
theorem Ordering.lose (h : Ordering D s) {onTcp onUdp : List Sent}
    (htcp : List.Sublist onTcp s.onTcp) (hudp : List.Sublist onUdp s.onUdp)
    {rx : TCPTransport.RxState} {stream : List UInt8}
    (hreceiving : Receiving D.cfg.packageSize rx.rxBuff rx.dataLeft stream
      (onTcp.map (·.bytes))) (conn : UDPConnection) (udpBuff : Nat → UInt8)
    (ports : List (PortWorker UInt8 size)) :
    Ordering D { s with
      onTcp := onTcp, onUdp := onUdp, rx := rx, stream := stream, conn := conn
      udpBuff := udpBuff, ports := ports } := by
  have hmem {x : Sent} (hx : x ∈ onTcp ++ onUdp) : x ∈ s.onTcp ++ s.onUdp :=
    (htcp.append hudp).subset hx
  have hall {x : Sent} (hx : x ∈ s.delivered ++ (onTcp ++ onUdp)) : x ∈ responses s :=
    ((htcp.append hudp).append_left s.delivered).subset hx
  exact ⟨h.collecting, hreceiving, (((h.queues.lose htcp).swap).lose hudp).swap,
    fun x hx => h.carries x (hmem hx), fun x hx => h.read_before x (hall hx),
    fun x hx y hy => h.precedes x (hall hx) y (hall hy), h.added_from,
    ⟨h.in_order.is_read, h.in_order.in_order⟩⟩

/-- What is added for a port comes from the response that is processed. -/
theorem Ordering.added_of_processPort (h : Ordering D s) (hm : Taken D s m) (between : Between size)
    {package : Nat → UInt8} (hpackage : ByteMem.read package 0 D.cfg.packageSize = m.bytes)
    {i : Nat} (hi : i < D.cfg.uartCount) (w : PortWorker UInt8 size) {x : Nat × UInt8}
    (hx : x ∈ placed (m.pos i) (processPort D between package i w).2) :
    m.pos i ≤ x.1 ∧ x.1 < m.pos i + m.len i ∧ (bytesReadAt s.board i)[x.1]? = some x.2 := by
  obtain ⟨k, hk, hpos, hbyte⟩ := mem_placed hx
  have hi' : i < s.board.uartWorker.length := by rw [h.collecting.workers_len]; exact hi
  have hw := List.getElem?_eq_getElem hi'
  have hpayload := hm.carries.payload_eq package hpackage i _ hw
  have hprefix : (processPort D between package i w).2 <+:
      (downlinkPair D.config i package).2 := processRX_added _ _ _ _
  rw [hpayload] at hprefix
  have hlen := hprefix.length_le
  rw [List.length_take] at hlen
  have hk' : k < m.len i := by omega
  refine ⟨by omega, by omega, ?_⟩
  obtain ⟨rest, hrest⟩ := hprefix
  rw [bytesReadAt_eq hw, hpos, ← List.getElem?_drop, ← List.getElem?_take_of_lt hk', ← hrest,
    List.getElem?_append_left hk]
  exact hbyte

/-- **A response is handed to the port workers.** -/
theorem Ordering.deliver (h : Ordering D s) (hm : Taken D s m) (between : Between size)
    {package : Nat → UInt8} (hpackage : ByteMem.read package 0 D.cfg.packageSize = m.bytes)
    (hqueues : TwoChannels.InOrder Sent.number (Clash D) s.sent s.onTcp s.onUdp
      (s.delivered ++ [m]))
    (hahead : ∀ d ∈ s.delivered, Clash D d m → d.number < m.number) :
    Ordering D (DownlinkOrder.deliver D between package m s) := by
  have hall {x : Sent} (hx : x ∈ s.delivered ++ [m] ++ (s.onTcp ++ s.onUdp)) :
      x = m ∨ x ∈ responses s := by
    unfold responses
    simpa [or_comm, or_assoc, or_left_comm] using hx
  have hadded (i : Nat) (hi : i < D.cfg.uartCount) (x : Nat × UInt8)
      (hx : x ∈ (match s.ports[i]? with
        | some w => placed (m.pos i) (processPort D between package i w).2
        | none => [])) :
      m.pos i ≤ x.1 ∧ x.1 < m.pos i + m.len i ∧ (bytesReadAt s.board i)[x.1]? = some x.2 := by
    cases hport : s.ports[i]? with
    | none =>
      simp only [hport] at hx
      exact absurd hx List.not_mem_nil
    | some w =>
      simp only [hport] at hx
      exact h.added_of_processPort hm between hpackage hi w hx
  refine ⟨h.collecting, h.receiving, hqueues, h.carries, ?_, ?_, ?_, ?_, ?_⟩
  · intro x hx
    rcases hall hx with rfl | hold
    · exact hm.read_before
    · exact h.read_before x hold
  · intro x hx y hy hlt
    rcases hall hx with rfl | hxold
    · rcases hall hy with rfl | hyold
      · exact absurd hlt (Nat.lt_irrefl _)
      · exact hm.before y hyold hlt
    · rcases hall hy with rfl | hyold
      · exact hm.after x hxold hlt
      · exact h.precedes x hxold y hyold hlt
  · intro i hi x hx
    rcases List.mem_append.mp hx with hold | hnew
    · obtain ⟨d, hd, hfrom⟩ := h.added_from i hi x hold
      exact ⟨d, List.mem_append_left _ hd, hfrom⟩
    · obtain ⟨hle, hlt, -⟩ := hadded i hi x hnew
      exact ⟨m, List.mem_append_right _ (List.mem_singleton_self m), hle, hlt⟩
  · intro i hi x hx
    rcases List.mem_append.mp hx with hold | hnew
    · exact h.in_order.is_read i hi x hold
    · exact (hadded i hi x hnew).2.2
  · intro i hi
    refine List.pairwise_append.mpr ⟨h.in_order.in_order i hi, ?_, ?_⟩
    · split
      · exact placed_in_order _ _
      · exact .nil
    · intro x hx y hy
      -- the older byte is of a response delivered before, with data for the same port
      obtain ⟨d, hd, hfrom, hbefore⟩ := h.added_from i hi x hx
      obtain ⟨hle, hlt, -⟩ := hadded i hi y hy
      have hnumber := hahead d hd ⟨i, hi, by omega, by omega⟩
      have hspan := hm.after d (List.mem_append_left _ hd) hnumber i hi
      omega

instance (D : Deployment) (x y : Sent) : Decidable (Clash D x y) :=
  inferInstanceAs (Decidable (∃ i, i < _ ∧ _))

instance (D : Deployment) : ∀ queue other : List Sent, Decidable (InTurn D queue other)
  | [], _ => isTrue trivial
  | m :: _, other => inferInstanceAs (Decidable (¬ ∃ x ∈ other, Clash D m x ∧ _))

instance (D : Deployment) (s : State size fwSize) : ∀ e, Decidable (NotOvertaking D s e)
  | .recv k _ => inferInstanceAs (Decidable (k = s.rx.dataLeft → InTurn D s.onTcp s.onUdp))
  | .datagram _ => inferInstanceAs (Decidable (InTurn D s.onUdp s.onTcp))
  | .loop _ | .lose _ | .udpConnection _ | .others _ => isTrue trivial

open Deployment (avrPro ring16 ring512)

def acceptPass : Pass 512 :=
  ((MainLoop.setup Configuration.avrPro [ring512] 0 0).loop Configuration.avrPro
    (.accepts .avrPro)).getD
    { state := MainLoop.setup Configuration.avrPro [ring512] 0 0, consumed := 0
      event := .NoEvent false, responses := [], sent := [], datagram := none }

theorem accepted_acceptPass : Accepted (avrPro true).cfg acceptPass.state :=
  ⟨[ring512], 0, 0, [], MainLoop.setup Configuration.avrPro [ring512] 0 0, .accepts .avrPro,
    0x0100007F, acceptPass, rfl, rfl, rfl, rfl, rfl, rfl⟩

/-- The port has a client. -/
def onePort : List (PortWorker UInt8 16) :=
  [{ PortWorker.create (avrPro true).config (ring16 0) with
      connected := true, openPending := false, client := some 4 }]

def established : State 16 512 :=
  init (avrPro true) acceptPass.state (fun _ => 0) (fun _ => 0) (UDPConnection.create 3 40000)
    onePort

/-- A response goes out over TCP; then the client's first datagram arrives, and the
next response goes out over UDP. -/
def twoResponses : List (Event 16) :=
  [.loop (.stream .avrPro 0
      (LoopInput.package .avrPro 40000 [0x02, 6, 4] (ByteMem.encode32 57600))),
    .loop (.quiet .avrPro 4096 [0x41]), .loop (.quiet .avrPro 8192 [0x42]),
    .loop (.datagram .avrPro 8192 (LoopInput.package .avrPro 1 [0x00, 0, 0] [])),
    .loop (.quiet .avrPro 12288 [0x43]), .loop (.quiet .avrPro 16384 [0x44])]

/-- The client takes them in the order in which they were sent. -/
def takenInOrder : List (Event 16) :=
  twoResponses ++ [.recv 100 fun _ => id, .recv 38 fun _ => id, .datagram fun _ => id]

def afterInOrder : State 16 512 :=
  (exec (step (avrPro true)) established takenInOrder).getD established

end UartBridge.DownlinkOrder
