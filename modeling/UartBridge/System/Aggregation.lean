import UartBridge.Lib.Run
import UartBridge.System.Collect

/-!
# Does a response carry what was read for it, and nothing else?

`IO_AGGREGATE_MULTIPLIER` poll ticks make a cycle; what the UARTs return in a cycle goes
into one response. The cycles are counted here by the ticks of the poll timer, from the last
`Connected` event on (from `setup`, before the first one), with any requests in between; the
code counts them by `segmentCounter` and `txUsedSz`.

* `step` — a pass of the loop, with the cycles it begins and completes;
* `Cycling` — the bytes of the current cycle are those that the next response may carry;
* `cycling_step` — a pass keeps it;
* `aggregates_of_run` — what was written is what was read in completed cycles.
-/

namespace UartBridge.Aggregation

open EventRun Client Firmware

variable {size : Nat}

/-! ## Passes and cycles -/

def connects : ClientEvent → Bool
  | .Connected _ => true
  | .NoEvent _ | .NewRequest _ | .Disconnected _ => false

/-- Whether the poll timer is due in this pass. -/
def ticks (cfg : Configuration) (s : MainLoop size) (input : LoopInput) : Bool :=
  (beforePoll cfg input s).pollTimer.update input.micros

/-- What `readBytes` returned for port `i` between two states. -/
def readBetween (s t : MainLoop size) (i : Nat) : List UInt8 :=
  (bytesReadAt t i).drop (bytesReadAt s i).length

/-- `count`: the ticks of the current cycle, and `cycle`: what was returned in it for each
port. `completed`: the same for the completed cycles since the last `Connected`, and
`written`: the responses written since. -/
structure State (size : Nat) where
  board : MainLoop size
  count : Nat
  cycle : Nat → List UInt8
  completed : Nat → List UInt8
  written : Nat → List WrittenResponse

def init (cfg : Configuration) (rxRingBuffs : List (DataBuffer UInt8 size))
    (millis micros : UInt32) : State size :=
  { board := MainLoop.setup cfg rxRingBuffs millis micros, count := 0, cycle := fun _ => []
    completed := fun _ => [], written := fun _ => [] }

/-- `Connected` begins a new cycle. -/
def State.connected (s : State size) (event : ClientEvent) : State size :=
  if connects event then
    { s with count := 0, cycle := fun _ => [], completed := fun _ => [], written := fun _ => [] }
  else s

/-- What the poll of a pass adds: `due` if it came to a tick, which leads to `board`,
`reads` from the UARTs and `responses`. -/
def State.polled (cfg : Configuration) (due : Bool) (board : MainLoop size)
    (reads : Nat → List UInt8) (responses : List WrittenResponse) (s : State size) :
    State size :=
  let count := if due then s.count + 1 else s.count
  let cycle := fun i => s.cycle i ++ reads i
  let written := fun i => s.written i ++ responses[i]?.toList
  if count = cfg.ioAggregateMultiplier then
    { board := board, count := 0, cycle := fun _ => []
      completed := fun i => s.completed i ++ cycle i, written := written }
  else
    { board := board, count := count, cycle := cycle, completed := s.completed
      written := written }

/-- One pass of the loop. -/
def step (cfg : Configuration) (s : State size) (input : LoopInput) : Option (State size) :=
  match s.board.loop cfg input with
  | none => none
  | some p =>
    some ((s.connected p.event).polled cfg (ticks cfg s.board input) p.state
      (readBetween s.board p.state) p.responses)

/-- The payload of a Data response. -/
def dataOf (r : WrittenResponse) : List UInt8 :=
  match r.response.type with
  | .Data => r.payload
  | .NoCommand => []

/-- A response says how many bytes it carries, and is a Data response if it carries any. -/
structure WellFormed (r : WrittenResponse) : Prop where
  plSz_eq : r.response.plSz.toNat = r.payload.length
  noCommand_iff : r.response.type = .NoCommand ↔ r.payload = []

/-- **The property.** -/
structure Aggregates (cfg : Configuration) (s : State size) : Prop where
  used_le : ∀ w ∈ s.board.uartWorker, w.txUsedSz ≤ cfg.dataPayloadSize
  written_eq : ∀ i, (s.written i).flatMap dataOf = s.completed i
  well_formed : ∀ i, ∀ r ∈ s.written i, WellFormed r

/-! ## The segment counter -/

/-- The event of a pass is the one of the TCP side if that is `Connected`. -/
theorem processRX_connects (pkgSz metaSz : Nat) (beginOk : Bool) (parsePacket : Option Packet)
    (millis : UInt32) (event : ClientEvent) (s : UDPServer.RxState) :
    connects (UDPServer.processRX pkgSz metaSz beginOk parsePacket millis event s).2 =
      connects event := by
  unfold UDPServer.processRX
  cases event with
  | Connected | Disconnected => rfl
  | NewRequest data =>
    cases data with
    | udpPort port =>
      dsimp only
      split
      · rfl
      · rfl
    | udpSrvStarted started => rfl
  | NoEvent pkgReading =>
    dsimp only
    split
    · rfl
    · -- a datagram is no event, or a new request
      unfold UDPServer.readPacket
      cases parsePacket with
      | none => rfl
      | some packet =>
        dsimp only
        split
        · rfl
        · split
          · rfl
          · split
            · rfl
            · rfl

/-- `Connected` starts the segments anew; nothing else before the poll touches them. -/
theorem beforePoll_counter {cfg : Configuration} {s : MainLoop size} {input : LoopInput}
    {p : Pass size} (hp : s.loop cfg input = some p) :
    (connects p.event = false → (beforePoll cfg input s).segmentCounter = s.segmentCounter) ∧
      (connects p.event = true → 1 < cfg.ioAggregateMultiplier →
        (beforePoll cfg input s).segmentCounter = 0) := by
  obtain ⟨-, -, hsegment, -⟩ := handle_collect cfg input s
  have hcounter : (beforePoll cfg input s).segmentCounter =
      (s.receive cfg input).1.segmentCounter := hsegment
  rw [(loop_event hp).1, hcounter]
  unfold MainLoop.receive
  dsimp only
  rw [processRX_connects]
  generalize TCPServer.processRX cfg.packageSize cfg.metaSz input.tcp input.millis
    { server := s.tcpServer, rxBuff := s.rxBuff, alarmTimer := s.alarmTimer } = r
  cases r.2.1 with
  | Connected remoteIP =>
    exact ⟨fun hnever => Bool.noConfusion hnever, fun _ hmultiple => if_pos hmultiple⟩
  | Disconnected | NoEvent | NewRequest =>
    exact ⟨fun _ => rfl, fun hnever => Bool.noConfusion hnever⟩

/-! ## The invariant -/

/-- The ticks are those the code has counted, and the bytes of the cycle are those that the
next response may carry. A multiplier above 255, which the counter cannot reach, goes with an
empty payload, and then nothing is ever read. -/
structure Cycling (cfg : Configuration) (s : State size) : Prop where
  collecting : Collecting cfg s.board
  count_lt : s.count < cfg.ioAggregateMultiplier
  count_eq : cfg.ioAggregateMultiplier ≤ 255 → 1 < cfg.ioAggregateMultiplier →
    s.board.segmentCounter.toNat = s.count
  silent : cfg.dataPayloadSize = 0 → ∀ w ∈ s.board.uartWorker, w.bytesRead = []
  cycle_eq : ∀ i w, s.board.uartWorker[i]? = some w →
    s.cycle i = w.bytesRead.drop (collectedFrom cfg s.board w)
  cycle_none : ∀ i, s.board.uartWorker[i]? = none → s.cycle i = []
  written_eq : ∀ i, (s.written i).flatMap dataOf = s.completed i
  well_formed : ∀ i, ∀ r ∈ s.written i, WellFormed r

variable {cfg : Configuration} {s t : State size} {input : LoopInput}

theorem Cycling.start {rxRingBuffs : List (DataBuffer UInt8 size)}
    (hlen : rxRingBuffs.length = cfg.uartCount) (millis micros : UInt32) :
    Cycling cfg (init cfg rxRingBuffs millis micros) := by
  have hempty : ∀ w ∈ (MainLoop.setup cfg rxRingBuffs millis micros).uartWorker,
      w.bytesRead = [] := by
    intro w hw
    obtain ⟨ring, -, rfl⟩ := List.mem_map.mp hw
    rfl
  refine ⟨Collecting.setup hlen millis micros, cfg.multiplier_pos, fun _ _ => rfl,
    fun _ => hempty, ?_, fun _ _ => rfl, fun _ => rfl,
    fun _ _ hnone => absurd hnone List.not_mem_nil⟩
  intro i w hw
  rw [hempty w (List.mem_of_getElem? hw), List.drop_nil]
  rfl

theorem Cycling.aggregates (h : Cycling cfg s) : Aggregates cfg s := by
  refine ⟨?_, h.written_eq, h.well_formed⟩
  intro w hw
  obtain ⟨k, hk⟩ := List.mem_iff_getElem?.mp hw
  exact (h.collecting.collected k w hk).used_le

/-- A Data response carries its payload, and a NoCommand response has none. -/
theorem WellFormed.dataOf_eq {r : WrittenResponse} (h : WellFormed r) : dataOf r = r.payload := by
  unfold dataOf
  cases htype : r.response.type with
  | Data => rfl
  | NoCommand => exact (h.noCommand_iff.mp htype).symm

/-- A worker's response is well formed. -/
theorem wellFormed_processTX {w : UARTWorker size} {r : WrittenResponse}
    (hused : w.txUsedSz ≤ cfg.dataPayloadSize) (hresponse : r.response = w.processTX)
    (hlen : r.payload.length = w.txUsedSz) : WellFormed r := by
  refine ⟨?_, ?_⟩
  · rw [hresponse, w.processTX_plSz cfg hused, hlen]
  · rw [hresponse, ← List.length_eq_zero_iff, hlen]
    unfold UARTWorker.processTX
    split
    · rename_i hpos
      exact iff_of_false (fun hnone => RespType.noConfusion hnone) (Nat.ne_of_gt hpos)
    · rename_i hzero
      exact iff_of_true rfl (Nat.eq_zero_of_not_pos hzero)

/-- What was read since `collectedFrom` before a poll, and in it, is what is collected then. -/
theorem Filled.append_eq {v : MainLoop size} {u w : UARTWorker size} (h : Filled cfg v u w) :
    u.bytesRead.drop (collectedFrom cfg v u) ++ w.bytesRead.drop u.bytesRead.length =
      w.bytesRead.drop (w.bytesRead.length - w.txUsedSz) := by
  have hreads := h.reads_eq
  have hfrom := collectedFrom_le cfg v u
  obtain ⟨bytes, hbytes⟩ := h.more
  have hstart : w.bytesRead.length - w.txUsedSz = collectedFrom cfg v u := by omega
  rw [hstart, ← hbytes, List.drop_left, List.drop_append_of_le_length hfrom]

/-! ## One pass -/

/-- Requests change nothing of a cycle; `Connected` begins a new one. -/
theorem Cycling.served (h : Cycling cfg s) {p : Pass size}
    (hp : s.board.loop cfg input = some p) :
    Cycling cfg { s.connected p.event with board := beforePoll cfg input s.board } := by
  obtain ⟨hkept, hzero⟩ := beforePoll_counter hp
  obtain ⟨hcollecting, -, hserved⟩ := serve_collect input h.collecting
  have hlen := hcollecting.workers_len.trans h.collecting.workers_len.symm
  generalize beforePoll cfg input s.board = v at hkept hzero hcollecting hserved hlen ⊢
  have hsilent : cfg.dataPayloadSize = 0 → ∀ w ∈ v.uartWorker, w.bytesRead = [] := by
    intro hempty w' hw'
    obtain ⟨k, hk⟩ := List.mem_iff_getElem?.mp hw'
    obtain ⟨w, hw, hserve⟩ := hserved k w' hk
    rw [hserve.reads_eq]
    exact h.silent hempty w (List.mem_of_getElem? hw)
  unfold State.connected
  cases hconnects : connects p.event with
  | true =>
    refine ⟨hcollecting, cfg.multiplier_pos, fun _ hmultiple => ?_, hsilent, ?_, fun _ _ => rfl,
      fun _ => rfl, fun _ _ hnone => absurd hnone List.not_mem_nil⟩
    · show v.segmentCounter.toNat = 0
      rw [hzero hconnects hmultiple]
      rfl
    · -- what was collected before is not of this cycle
      intro i w _
      have hrestarts : Restarts cfg v := by
        by_cases hmultiple : 1 < cfg.ioAggregateMultiplier
        · exact Or.inr (hzero hconnects hmultiple)
        · exact Or.inl (Nat.not_lt.mp hmultiple)
      show [] = w.bytesRead.drop (collectedFrom cfg v w)
      unfold collectedFrom
      rw [if_pos hrestarts, List.drop_length]
  | false =>
    have hcounter := hkept hconnects
    refine ⟨hcollecting, h.count_lt, fun hsmall hmultiple => ?_, hsilent, ?_, ?_, h.written_eq,
      h.well_formed⟩
    · show v.segmentCounter.toNat = s.count
      rw [hcounter]
      exact h.count_eq hsmall hmultiple
    · intro i w' hw'
      obtain ⟨w, hw, hserve⟩ := hserved i w' hw'
      have hfrom : collectedFrom cfg v w' = collectedFrom cfg s.board w := by
        have hsame : Restarts cfg v ↔ Restarts cfg s.board := by
          unfold Restarts
          rw [hcounter]
        rw [collectedFrom, collectedFrom, hserve.reads_eq, hserve.used_eq]
        exact if_congr hsame rfl rfl
      show s.cycle i = w'.bytesRead.drop (collectedFrom cfg v w')
      rw [hfrom, hserve.reads_eq]
      exact h.cycle_eq i w hw
    · intro i hnone
      refine h.cycle_none i ?_
      rw [List.getElem?_eq_none_iff] at hnone ⊢
      exact hlen ▸ hnone

/-- What was read before the poll does not depend on the requests. -/
theorem readBetween_served (input : LoopInput) {b : MainLoop size}
    (hcollecting : Collecting cfg s.board) :
    readBetween (beforePoll cfg input s.board) b = readBetween s.board b := by
  obtain ⟨hserve, -, hserved⟩ := serve_collect input hcollecting
  funext i
  unfold readBetween
  cases hv : (beforePoll cfg input s.board).uartWorker[i]? with
  | none =>
    have hlen := hserve.workers_len.trans hcollecting.workers_len.symm
    have hs : s.board.uartWorker[i]? = none := by
      rw [List.getElem?_eq_none_iff] at hv ⊢
      exact hlen ▸ hv
    simp only [bytesReadAt, hv, hs]
  | some w' =>
    obtain ⟨w, hw, hserve⟩ := hserved i w' hv
    rw [bytesReadAt_eq hv, bytesReadAt_eq hw, hserve.reads_eq]

/-- A port's bytes in the current cycle, with those of the poll. -/
theorem Cycling.cycle_append (h : Cycling cfg s) {b : MainLoop size} (polled : Polled cfg s.board b)
    {i : Nat} {w : UARTWorker size} (hw : b.uartWorker[i]? = some w) :
    s.cycle i ++ readBetween s.board b i =
      w.bytesRead.drop (w.bytesRead.length - w.txUsedSz) := by
  obtain ⟨u, hu, hfilled⟩ := forall₂_getElem? polled.filled hw
  unfold readBetween
  rw [h.cycle_eq i u hu, bytesReadAt_eq hu, bytesReadAt_eq hw]
  exact Filled.append_eq hfilled

/-- Where there is no port, there is nothing to read. -/
theorem Cycling.cycle_append_none (h : Cycling cfg s) {b : MainLoop size}
    (collecting : Collecting cfg b) {i : Nat} (hnone : b.uartWorker[i]? = none) :
    s.cycle i ++ readBetween s.board b i = [] := by
  have hlen := collecting.workers_len.trans h.collecting.workers_len.symm
  have hs : s.board.uartWorker[i]? = none := by
    rw [List.getElem?_eq_none_iff] at hnone ⊢
    exact hlen ▸ hnone
  unfold readBetween
  simp only [h.cycle_none i hs, bytesReadAt, hnone, List.drop_nil, List.append_nil]

/-- Into an empty slot nothing is read. -/
theorem Cycling.silent_polled (h : Cycling cfg s) {b : MainLoop size}
    (polled : Polled cfg s.board b) (hempty : cfg.dataPayloadSize = 0) :
    ∀ w ∈ b.uartWorker, w.bytesRead = [] := by
  intro w hw
  obtain ⟨k, hk⟩ := List.mem_iff_getElem?.mp hw
  obtain ⟨u, hu, hfilled⟩ := forall₂_getElem? polled.filled hk
  have hused := (polled.collecting.collected k w hk).used_le
  have hbefore := congrArg List.length (h.silent hempty u (List.mem_of_getElem? hu))
  have hfrom := collectedFrom_le cfg s.board u
  have hreads := hfilled.reads_eq
  rw [List.length_nil] at hbefore
  exact List.eq_nil_of_length_eq_zero (by omega)

/-- A multiplier that the counter cannot reach goes with an empty payload. -/
theorem dataPayloadSize_eq_zero (hlarge : 255 < cfg.ioAggregateMultiplier) :
    cfg.dataPayloadSize = 0 := by
  have hle := cfg.payload_le
  unfold Configuration.dataPayloadSize
  rcases Nat.eq_zero_or_pos cfg.portIOSize with hzero | hpos
  · rw [hzero, Nat.zero_mul]
  · have hmul := Nat.le_mul_of_pos_left cfg.ioAggregateMultiplier hpos
    omega

/-- Above 255 no poll reads anything, and none leads to a response. -/
theorem Cycling.unused (h : Cycling cfg s) {b : MainLoop size}
    (hlarge : 255 < cfg.ioAggregateMultiplier) (polled : Polled cfg s.board b) :
    Cycling cfg (s.polled cfg true b (readBetween s.board b) []) := by
  have hcount := h.count_lt
  have hsilent := h.silent_polled polled (dataPayloadSize_eq_zero hlarge)
  have hnothing : (fun i => s.cycle i ++ readBetween s.board b i) = fun _ => [] := by
    funext i
    cases hw : b.uartWorker[i]? with
    | none => exact h.cycle_append_none polled.collecting hw
    | some w =>
      rw [h.cycle_append polled hw, hsilent w (List.mem_of_getElem? hw), List.drop_nil]
  have hcycle : ∀ (i : Nat) (w : UARTWorker size), b.uartWorker[i]? = some w →
      [] = w.bytesRead.drop (collectedFrom cfg b w) := by
    intro i w hw
    rw [hsilent w (List.mem_of_getElem? hw), List.drop_nil]
  have hwrong (hsmall : cfg.ioAggregateMultiplier ≤ 255) : False := by omega
  have hcompleted : (fun i => s.completed i ++ (s.cycle i ++ readBetween s.board b i)) =
      s.completed := by
    funext i
    rw [congrFun hnothing i, List.append_nil]
  unfold State.polled
  simp only [if_true, List.getElem?_nil, Option.toList_none, List.append_nil, hnothing,
    hcompleted]
  split
  · exact ⟨polled.collecting, cfg.multiplier_pos, fun hsmall => (hwrong hsmall).elim,
      fun _ => hsilent, hcycle, fun _ _ => rfl, h.written_eq, h.well_formed⟩
  · rename_i hmore
    have hlt : s.count + 1 < cfg.ioAggregateMultiplier := by omega
    exact ⟨polled.collecting, hlt, fun hsmall => (hwrong hsmall).elim,
      fun _ => hsilent, hcycle, fun _ _ => rfl, h.written_eq, h.well_formed⟩

/-- The interval is not over. -/
theorem Cycling.idle (h : Cycling cfg s) :
    Cycling cfg (s.polled cfg false s.board (readBetween s.board s.board) []) := by
  have hnothing : readBetween s.board s.board = fun _ => [] := by
    funext i
    exact List.drop_length
  have hsame : s.polled cfg false s.board (fun _ => []) [] = s := by
    unfold State.polled
    simp only [Bool.false_eq_true, if_false, List.append_nil, List.getElem?_nil,
      Option.toList_none]
    exact if_neg (Nat.ne_of_lt h.count_lt)
  rw [hnothing, hsame]
  exact h

/-- A segment of a response that needs more of them. -/
theorem Cycling.segment (h : Cycling cfg s) {b : MainLoop size}
    (unfinished : segments cfg s.board < cfg.ioAggregateMultiplier)
    (polled : Polled cfg s.board b)
    (counter_eq : b.segmentCounter = s.board.segmentCounter + 1) :
    Cycling cfg (s.polled cfg true b (readBetween s.board b) []) := by
  have hcount := h.count_lt
  by_cases hsmall : cfg.ioAggregateMultiplier ≤ 255
  · -- the cycle goes on, and the next segment adds to the slot
    have hmultiple : 1 < cfg.ioAggregateMultiplier := by
      by_cases hmultiple : 1 < cfg.ioAggregateMultiplier
      · exact hmultiple
      · rw [segments, if_neg hmultiple] at unfinished
        exact unfinished
    have hcounter := h.count_eq hsmall hmultiple
    have hnext : (s.board.segmentCounter + 1).toNat = s.count + 1 := by
      rw [UInt8.toNat_add, UInt8.toNat_one, hcounter]
      exact Nat.mod_eq_of_lt (by omega)
    rw [segments, if_pos hmultiple, hnext] at unfinished
    have hcontinues : s.polled cfg true b (readBetween s.board b) [] =
        { board := b, count := s.count + 1, cycle := fun i => s.cycle i ++ readBetween s.board b i
          completed := s.completed, written := s.written } := by
      unfold State.polled
      simp only [if_true, List.getElem?_nil, Option.toList_none, List.append_nil]
      exact if_neg (Nat.ne_of_lt unfinished)
    have hrestarts : ¬ Restarts cfg b := by
      rintro (hsingle | hzero)
      · omega
      · rw [counter_eq] at hzero
        rw [hzero] at hnext
        exact absurd hnext (Nat.succ_ne_zero _).symm
    rw [hcontinues]
    refine ⟨polled.collecting, unfinished, fun _ _ => ?_, h.silent_polled polled, ?_,
      fun _ hnone => h.cycle_append_none polled.collecting hnone, h.written_eq, h.well_formed⟩
    · show b.segmentCounter.toNat = s.count + 1
      rw [counter_eq, hnext]
    · intro i w hw
      show _ = w.bytesRead.drop (collectedFrom cfg b w)
      rw [collectedFrom, if_neg hrestarts]
      exact h.cycle_append polled hw
  · exact h.unused (Nat.not_le.mp hsmall) polled

/-- A segment that leads to a response is the last of its cycle. -/
theorem Cycling.count_succ (h : Cycling cfg s)
    (finished : cfg.ioAggregateMultiplier ≤ segments cfg s.board) :
    s.count + 1 = cfg.ioAggregateMultiplier := by
  have hcount := h.count_lt
  by_cases hmultiple : 1 < cfg.ioAggregateMultiplier
  · rw [segments, if_pos hmultiple] at finished
    have hbyte := (s.board.segmentCounter + 1).toNat_lt
    have hcounter := h.count_eq (by omega) hmultiple
    rw [UInt8.toNat_add, UInt8.toNat_one, hcounter] at finished
    have hmod := Nat.mod_le (s.count + 1) (2 ^ 8)
    omega
  · omega

/-- What the response of a port says. -/
theorem Cycling.responds {D : Deployment} (h : Cycling D.cfg s) {b : MainLoop size}
    {responses : List WrittenResponse} {sent : List UInt8} {datagram : Option SentPacket}
    (polled : Polled D.cfg s.board b) (responded : Responded D b responses sent datagram) {i : Nat}
    {r : WrittenResponse} (hr : responses[i]? = some r) :
    WellFormed r ∧ r.payload = s.cycle i ++ readBetween s.board b i := by
  obtain ⟨w, hw, hresponse, hpayload⟩ := responded.describes i r hr
  have hcollected := polled.collecting.collected i w hw
  refine ⟨wellFormed_processTX hcollected.used_le hresponse ?_, ?_⟩
  · rw [hpayload, ByteMem.length_read]
  · rw [hpayload, hcollected.eq_drop, h.cycle_append polled hw]

/-- A response: the cycle is complete, and the response carries it. -/
theorem Cycling.response {D : Deployment} (h : Cycling D.cfg s) {b : MainLoop size}
    {responses : List WrittenResponse} {sent : List UInt8} {datagram : Option SentPacket}
    (finished : D.cfg.ioAggregateMultiplier ≤ segments D.cfg s.board)
    (polled : Polled D.cfg s.board b)
    (counter_eq : 1 < D.cfg.ioAggregateMultiplier → b.segmentCounter = 0)
    (responded : Responded D b responses sent datagram) :
    Cycling D.cfg (s.polled D.cfg true b (readBetween s.board b) responses) := by
  have hcompletes : s.polled D.cfg true b (readBetween s.board b) responses =
      { board := b, count := 0, cycle := fun _ => []
        completed := fun i => s.completed i ++ (s.cycle i ++ readBetween s.board b i)
        written := fun i => s.written i ++ responses[i]?.toList } := by
    unfold State.polled
    simp only [if_true]
    exact if_pos (h.count_succ finished)
  rw [hcompletes]
  refine ⟨polled.collecting, D.cfg.multiplier_pos, fun _ hmultiple => ?_,
    h.silent_polled polled, ?_, fun _ _ => rfl, ?_, ?_⟩
  · show b.segmentCounter.toNat = 0
    rw [counter_eq hmultiple]
    rfl
  · intro i w _
    show [] = w.bytesRead.drop (collectedFrom D.cfg b w)
    rw [collectedFrom, if_pos responded.restarts, List.drop_length]
  · intro i
    show (s.written i ++ responses[i]?.toList).flatMap dataOf = s.completed i ++ _
    rw [List.flatMap_append, h.written_eq i]
    cases hr : responses[i]? with
    | some r =>
      obtain ⟨hformed, hpayload⟩ := h.responds polled responded hr
      rw [Option.toList_some, List.flatMap_cons, List.flatMap_nil, List.append_nil,
        hformed.dataOf_eq, hpayload]
    | none =>
      have hnone : b.uartWorker[i]? = none := by
        rw [List.getElem?_eq_none_iff] at hr ⊢
        rw [polled.collecting.workers_len, ← responded.responses_len]
        exact hr
      rw [h.cycle_append_none polled.collecting hnone, Option.toList_none, List.flatMap_nil]
  · intro i r hr
    rcases List.mem_append.mp hr with hold | hnew
    · exact h.well_formed i r hold
    · exact (h.responds polled responded (Option.mem_toList.mp hnew)).1

/-- The poll, in whichever way it goes. -/
theorem Cycling.poll {D : Deployment} (h : Cycling D.cfg s) (input : LoopInput) :
    let r := s.board.pollUARTs D.cfg input
    Cycling D.cfg (s.polled D.cfg (s.board.pollTimer.update input.micros) r.1
      (readBetween s.board r.1) r.2.1) := by
  have hpolling := pollUARTs_polling (D := D) input h.collecting
  generalize s.board.pollUARTs D.cfg input = r at hpolling ⊢
  cases hpolling with
  | idle waiting =>
    rw [waiting]
    exact h.idle
  | segment due unfinished polled counter_eq =>
    rw [due]
    exact h.segment unfinished polled counter_eq
  | response due finished polled counter_eq responded =>
    rw [due]
    exact h.response finished polled counter_eq responded

/-- **One pass.** -/
theorem cycling_step (h : Cycling cfg s) (hstep : step cfg s input = some t) : Cycling cfg t := by
  unfold step at hstep
  cases hp : s.board.loop cfg input with
  | none =>
    simp only [hp] at hstep
    cases hstep
  | some p =>
    simp only [hp, Option.some.injEq] at hstep
    obtain ⟨hstate, houtputs⟩ := loop_poll hp
    have hresponses : p.responses = ((beforePoll cfg input s.board).pollUARTs cfg input).2.1 :=
      congrArg Prod.fst houtputs
    rw [← hstep, hstate, hresponses, ← readBetween_served input h.collecting]
    exact Cycling.poll (D := Deployment.matching cfg false 0) (h.served hp) input

/-- **Every run**: a response carries what was read in its cycle, in order and once, with
its length, and is a NoCommand exactly if that is nothing. -/
theorem aggregates_of_run (cfg : Configuration) (rxRingBuffs : List (DataBuffer UInt8 size))
    (hlen : rxRingBuffs.length = cfg.uartCount) (millis micros : UInt32) (es : List LoopInput)
    (s : State size) (run : exec (step cfg) (init cfg rxRingBuffs millis micros) es = some s) :
    Aggregates cfg s :=
  (exec_invariant (Cycling cfg) (fun _ _ _ h hstep => cycling_step h hstep)
    (Cycling.start hlen millis micros) run).aggregates

/-! ## A board that aggregates two segments -/

open Deployment (ring512)

/-- The port is opened, and bytes come in both segments of a cycle; a Reset comes between. -/
def twoSegments : List LoopInput :=
  [.accepts .avrPro,
    .stream .avrPro 0 (LoopInput.package .avrPro 0 [0x02, 6, 4] (ByteMem.encode32 57600)),
    .quiet .avrPro 4096 [0x41, 0x42],
    .stream .avrPro 4096 (LoopInput.package .avrPro 0 [0x01, 5, 0] []),
    .quiet .avrPro 8192 [0x43], .quiet .avrPro 12288 [0x44]]

def afterTwoSegments : State 512 :=
  (exec (step Configuration.avrPro) (init Configuration.avrPro [ring512] 0 0) twoSegments).getD
    (init Configuration.avrPro [ring512] 0 0)

theorem aggregates_twoSegments : Aggregates Configuration.avrPro afterTwoSegments ∧
    afterTwoSegments.completed 0 = [0x41, 0x42, 0x43] ∧ afterTwoSegments.cycle 0 = [0x44] :=
  ⟨aggregates_of_run Configuration.avrPro [ring512] rfl 0 0 twoSegments afterTwoSegments
    (exec_eq_some_getD (by decide +kernel)), by decide +kernel⟩

end UartBridge.Aggregation
