import UartBridge.Lib.LossyFifo
import UartBridge.System.Pipeline
import UartBridge.System.PassLink
import UartBridge.System.Aggregation
import UartBridge.System.PortIsolation
import UartBridge.System.BoardCalls

/-!
# From the local clients to the wires of the UARTs and back

Inside the board there is a queue in each direction of a port: the worker's ring buffer, and
what was collected for the next response.

* `taken` — the request makes the ring buffer lose nothing;
* `runCalls_passes`, `loop_uplink` — what a pass does to the ring buffer and the wire;
* `loop_downlink` — what it does to the bytes collected;
* `wires_of_run` — hence what goes out on a wire was read from the port's clients, in order
  and at most once, and what its port worker is handed is what the UART returned, first to
  last.
-/

namespace UartBridge.Wires

open EventRun Client Firmware LossyFifo
open UartDiscipline (Call run_effect)
open BoardCalls (runCalls pollCalls requestCalls passCalls loop_calls)

variable {size fwSize : Nat}

/-! ## The calls of a pass -/

/-- Everything written to the worker's UART, oldest first. -/
def bytesWritten (w : UARTWorker size) : List UInt8 := w.uart.flatMap UartDiscipline.bytesWritten

/-- What a call brings for the ring buffer. -/
def payloadOf : Call → List UInt8
  | .processRequest rxDataBuff request =>
    if request.type = .Data then ByteMem.read rxDataBuff 0 request.plSz.toNat else []
  | .processRX _ | .fillTXBuff _ _ _ _ | .processTX => []

/-- The payload fits, and a request that empties the ring buffer finds nothing in it. -/
def taken (w : UARTWorker size) (request : Firmware.Request) : Bool :=
  match request.type with
  | .Data => request.plSz.toNat ≤ w.rxRingBuff.free
  | .Reset => w.rxRingBuff.contents = []
  | .Open | .ResetOpen | .Close => !isOpen w.curMode || w.rxRingBuff.contents = []
  | .NoCommand | .other _ => true

/-- The same for any call. -/
def Taken (w : UARTWorker size) : Call → Prop
  | .processRequest _ request => taken w request = true
  | .processRX _ | .fillTXBuff _ _ _ _ | .processTX => True

section Calls

variable (cfg : Configuration) (time : Nat)

/-- The copy loop stores a first part of the payload, and all of it if it fits. -/
theorem stores_spec (hsize : size < 0x10000) (call : Call) (w : UARTWorker size) :
    (call.stores time w).Sublist (payloadOf call) ∧
      (Taken w call → (call.resetsRing w = true → w.rxRingBuff.contents = [] ∧
        payloadOf call = []) ∧ call.stores time w = payloadOf call) := by
  cases call with
  | processRX | fillTXBuff | processTX => exact ⟨List.Sublist.refl _, fun _ => ⟨nofun, rfl⟩⟩
  | processRequest rxDataBuff request =>
    obtain ⟨type, arg, plSz⟩ := request
    cases type with
    | Data =>
      refine ⟨List.take_sublist _ _, fun hfits => ⟨nofun, List.take_of_length_le ?_⟩⟩
      have hleft := (DataBuffer.store_spec Firmware.DataBuffer.getHead
        (Firmware.DataBuffer.getHead_eq hsize) (ByteMem.read rxDataBuff 0 plSz.toNat).length
        w.rxRingBuff (ByteMem.read rxDataBuff 0 plSz.toNat) (Nat.le_refl _)).2.1
      have hroom : plSz.toNat ≤ w.rxRingBuff.free := of_decide_eq_true hfits
      show (ByteMem.read rxDataBuff 0 plSz.toNat).length ≤ plSz.toNat -
        (w.rxRingBuff.store Firmware.DataBuffer.getHead
          (ByteMem.read rxDataBuff 0 plSz.toNat).length
          (ByteMem.read rxDataBuff 0 plSz.toNat)).2.length
      rw [hleft, List.length_drop, ByteMem.length_read]
      omega
    | Reset =>
      exact ⟨List.Sublist.refl _, fun hempty => ⟨fun _ => ⟨of_decide_eq_true hempty, rfl⟩, rfl⟩⟩
    | Open | ResetOpen | Close =>
      refine ⟨List.Sublist.refl _, fun htaken => ⟨fun hopen => ⟨?_, rfl⟩, rfl⟩⟩
      rcases Bool.or_eq_true_iff.mp htaken with hclosed | hempty
      · exact absurd hopen (Bool.eq_false_iff.mp ((Bool.not_eq_true' _).mp hclosed))
      · exact of_decide_eq_true hempty
    | NoCommand | other => exact ⟨List.Sublist.refl _, fun _ => ⟨nofun, rfl⟩⟩

/-- **A call is a step of the ring buffer's queue.** -/
theorem call_passes (hsize : size < 0x10000) (call : Call) (w : UARTWorker size) :
    ∃ out, bytesWritten (call.run cfg time w) = bytesWritten w ++ out ∧
      Passes (Taken w call) w.rxRingBuff.contents (payloadOf call) out
        (call.run cfg time w).rxRingBuff.contents := by
  obtain ⟨calls, effect⟩ := run_effect cfg hsize time call w
  obtain ⟨hstores, htaken⟩ := stores_spec time hsize call w
  refine ⟨calls.flatMap UartDiscipline.bytesWritten, ?_, ?_, fun hall => ?_⟩
  · unfold bytesWritten
    rw [effect.uart_eq, List.flatMap_append]
  · rw [← effect.ring_eq]
    split
    · exact List.nil_sublist _
    · exact hstores.append_left _
  · obtain ⟨hemptied, hsame⟩ := htaken hall
    rw [← effect.ring_eq]
    split
    next hreset =>
      obtain ⟨hnothing, hbrings⟩ := hemptied hreset
      rw [hnothing, hbrings]
      rfl
    next => rw [hsame]

/-- `FillTXBuff` takes the first of the bytes that there are to read. -/
theorem fillTXBuff_reads (reset : Bool) (input : List UInt8) (w : UARTWorker size)
    (txDataBuff : Nat) (txBuff : Nat → UInt8) :
    ∃ bytes, (w.fillTXBuff cfg reset input txDataBuff txBuff).1.bytesRead = w.bytesRead ++ bytes ∧
      bytes <+: input := by
  have hstart : (if reset then { w with txUsedSz := 0 } else w).bytesRead = w.bytesRead := by
    cases reset <;> rfl
  unfold UARTWorker.fillTXBuff
  revert hstart
  generalize (if reset then { w with txUsedSz := 0 } else w) = v
  intro hstart
  rw [← hstart]
  dsimp only
  generalize (if cfg.portIOSize < cfg.dataPayloadSize - v.txUsedSz then cfg.portIOSize
    else cfg.dataPayloadSize - v.txUsedSz) = sz
  split
  · exact ⟨[], (List.append_nil _).symm, List.nil_prefix⟩
  · split
    · exact ⟨[], (List.append_nil _).symm, List.nil_prefix⟩
    · refine ⟨input.take sz, ?_, List.take_prefix _ _⟩
      simp [UARTWorker.bytesRead, UartCall.bytesRead]

/-- Calls without a request, one after the other. -/
theorem runCalls_passes (exact : Prop) (hsize : size < 0x10000) (calls : List Call)
    (w : UARTWorker size) (hquiet : ∀ call ∈ calls, payloadOf call = [] ∧ ∀ v : UARTWorker size,
      Taken v call) :
    ∃ out, bytesWritten (runCalls cfg time w calls) = bytesWritten w ++ out ∧
      Passes exact w.rxRingBuff.contents [] out
        (runCalls cfg time w calls).rxRingBuff.contents := by
  induction calls generalizing w with
  | nil => exact ⟨[], (List.append_nil _).symm, .refl _⟩
  | cons call calls ih =>
    obtain ⟨hnothing, htaken⟩ := hquiet call List.mem_cons_self
    obtain ⟨out, hout, hpasses⟩ := call_passes cfg time hsize call w
    obtain ⟨out', hout', hpasses'⟩ := ih (call.run cfg time w)
      fun later hlater => hquiet later (List.mem_cons_of_mem _ hlater)
    rw [hnothing] at hpasses
    refine ⟨out ++ out', ?_, (hpasses.imp fun _ => htaken w).trans hpasses'⟩
    show bytesWritten (runCalls cfg time (call.run cfg time w) calls) = _
    rw [hout', hout, List.append_assoc]

end Calls

/-! ## A pass, for one port -/

section Pass

variable {cfg : Configuration} {s : MainLoop size} {input : LoopInput} {p : Pass size} {k : Nat}
  {w : UARTWorker size}

/-- After the request, if there is one, come calls that bring nothing. -/
theorem pollCalls_quiet (s : MainLoop size) (call : Call)
    (hcall : call ∈ .processRX (input.availableForWrite k) :: pollCalls cfg s input k) :
    payloadOf call = [] ∧ ∀ v : UARTWorker size, Taken v call := by
  have hrequest : ∀ rxDataBuff request, call ≠ .processRequest rxDataBuff request := by
    rintro rxDataBuff request rfl
    rcases List.mem_cons.mp hcall with heq | hmem
    · cases heq
    · unfold pollCalls at hmem
      split at hmem
      · rcases List.mem_cons.mp hmem with heq | hmem
        · cases heq
        · split at hmem
          · cases List.mem_singleton.mp hmem
          · cases hmem
      · cases hmem
  cases call with
  | processRequest rxDataBuff request => exact absurd rfl (hrequest rxDataBuff request)
  | processRX | fillTXBuff | processTX => exact ⟨rfl, fun _ => trivial⟩

/-- What the workers receive is what the call with the request brings. -/
theorem requested_eq (hp : s.loop cfg input = some p) :
    requested cfg p.event p.state.rxBuff k = (requestCalls cfg s input k).flatMap payloadOf := by
  rw [(loop_event hp).1, loop_rxBuff hp]
  unfold requested requestCalls requestOf
  cases (s.receive cfg input).2.1 with
  | NoEvent | Connected | Disconnected => rfl
  | NewRequest data =>
    simp only [Option.toList_some, List.map_cons, List.map_nil, List.flatMap_cons,
      List.flatMap_nil, List.append_nil, payloadOf, uplinkData, ByteMem.read_shift]

/-- A call with a request at most, and then calls that bring nothing. -/
theorem requestFirst_passes (cfg : Configuration) (time : Nat) (hsize : size < 0x10000)
    (first : Option Call) (later : List Call) (w : UARTWorker size)
    (hquiet : ∀ call ∈ later, payloadOf call = [] ∧ ∀ v : UARTWorker size, Taken v call) :
    ∃ out, bytesWritten (runCalls cfg time w (first.toList ++ later)) = bytesWritten w ++ out ∧
      Passes (∀ call, first = some call → Taken w call) w.rxRingBuff.contents
        (first.toList.flatMap payloadOf) out
        (runCalls cfg time w (first.toList ++ later)).rxRingBuff.contents := by
  cases first with
  | none => exact runCalls_passes cfg time _ hsize later w hquiet
  | some call =>
    obtain ⟨out, hout, hpasses⟩ := call_passes cfg time hsize call w
    obtain ⟨out', hout', hpasses'⟩ := runCalls_passes cfg time (Taken w call)
      hsize later (call.run cfg time w) hquiet
    refine ⟨out ++ out', ?_, ?_⟩
    · show bytesWritten (runCalls cfg time (call.run cfg time w) later) = _
      rw [hout', hout, List.append_assoc]
    · rw [Option.toList_some, List.flatMap_singleton, ← List.append_nil (payloadOf call)]
      exact (hpasses.trans hpasses').imp fun hall => hall call rfl

/-- **A pass is a step of the ring buffer's queue.** It loses nothing if the payload fits, or if
a request that empties the ring buffer finds nothing in it. -/
theorem loop_uplink (hsize : size < 0x10000) (hp : s.loop cfg input = some p)
    (hw : s.uartWorker[k]? = some w) :
    ∃ w' out, p.state.uartWorker[k]? = some w' ∧ bytesWritten w' = bytesWritten w ++ out ∧
      Passes (∀ request, requestOf cfg s input k = some request → taken w request = true)
        w.rxRingBuff.contents (requested cfg p.event p.state.rxBuff k) out
        w'.rxRingBuff.contents := by
  have hcalls := loop_calls (k := k) UInt32.ofNat_toNat hp
  rw [hw, Option.map_some] at hcalls
  -- the calls are those of the request and those of the poll
  have hrequest : requestCalls cfg s input k = ((requestOf cfg s input k).map fun request =>
      .processRequest (fun j => (s.receive cfg input).1.rxBuff (cfg.slotOffset k + j))
        request).toList := by
    unfold requestCalls
    cases requestOf cfg s input k <;> rfl
  obtain ⟨out, hout, hpasses⟩ := requestFirst_passes cfg input.millis.toNat
    hsize ((requestOf cfg s input k).map fun request =>
      .processRequest (fun j => (s.receive cfg input).1.rxBuff (cfg.slotOffset k + j)) request)
    (.processRX (input.availableForWrite k) :: pollCalls cfg (beforePoll cfg input s) input k) w
    (pollCalls_quiet (beforePoll cfg input s))
  rw [← hrequest] at hout hpasses
  rw [requested_eq hp]
  refine ⟨_, out, hcalls, hout, hpasses.imp fun hall call hcall => ?_⟩
  obtain ⟨request, hof, rfl⟩ := Option.map_eq_some_iff.mp hcall
  exact hall request hof

/-- **A pass reads from the UART what is there, as far as it goes.** -/
theorem loop_reads (hp : s.loop cfg input = some p) (hw : s.uartWorker[k]? = some w) :
    ∃ w' bytes, p.state.uartWorker[k]? = some w' ∧ w'.bytesRead = w.bytesRead ++ bytes ∧
      bytes <+: input.uartInput k := by
  have hcalls := loop_calls (k := k) UInt32.ofNat_toNat hp
  rw [hw, Option.map_some] at hcalls
  have hrequest : (runCalls cfg input.millis.toNat w (requestCalls cfg s input k)).bytesRead =
      w.bytesRead := by
    unfold requestCalls
    cases requestOf cfg s input k with
    | none => rfl
    | some request => exact w.processRequest_bytesRead _ _ request
  have hdrained := (UARTWorker.processRX_bytesRead cfg (UInt32.ofNat input.millis.toNat)
    (input.availableForWrite k)
    (runCalls cfg input.millis.toNat w (requestCalls cfg s input k))).1
  generalize hv : (runCalls cfg input.millis.toNat w (requestCalls cfg s input k)).processRX cfg
    (UInt32.ofNat input.millis.toNat) (input.availableForWrite k) = v at hdrained
  have hworker : runCalls cfg input.millis.toNat w (passCalls cfg s input k) =
      runCalls cfg input.millis.toNat v (pollCalls cfg (beforePoll cfg input s) input k) := by
    unfold passCalls runCalls
    rw [List.foldl_append, List.foldl_cons]
    exact congrArg (fun v => List.foldl _ v _) hv
  rw [hworker] at hcalls
  rw [← hrequest, ← hdrained]
  unfold pollCalls at hcalls
  split at hcalls
  · obtain ⟨bytes, hbytes, hprefix⟩ := fillTXBuff_reads cfg
      (BoardCalls.startsCycle cfg (beforePoll cfg input s)) (input.uartInput k) v
      (cfg.slotOffset k) fun _ => 0
    rw [BoardCalls.runCalls_fill] at hcalls
    exact ⟨_, bytes, hcalls, hbytes, hprefix⟩
  · exact ⟨v, [], hcalls, (List.append_nil _).symm, List.nil_prefix⟩

/-! ## The bytes collected -/

/-- What was collected for the next response of a port. -/
def pendingAt (cfg : Configuration) (s : MainLoop size) (k : Nat) : List UInt8 :=
  match s.uartWorker[k]? with
  | some w => w.bytesRead.drop (collectedFrom cfg s w)
  | none => []

/-- The board collects cycle by cycle. -/
def Collects (cfg : Configuration) (s : MainLoop size) : Prop :=
  ∃ a : Aggregation.State size, a.board = s ∧ Aggregation.Cycling cfg a

theorem pendingAt_eq {a : Aggregation.State size} (h : Aggregation.Cycling cfg a) (k : Nat) :
    pendingAt cfg a.board k = a.cycle k := by
  unfold pendingAt
  cases hw : a.board.uartWorker[k]? with
  | none => exact (h.cycle_none k hw).symm
  | some w => exact (h.cycle_eq k w hw).symm

/-- While a client is connected, none is accepted. -/
theorem not_connects (hp : s.loop cfg input = some p) (hconn : s.tcpServer.connected = true) :
    Aggregation.connects p.event = false := by
  have hturn := receive_turn cfg input s
  rw [(loop_event hp).1]
  unfold MainLoop.receive
  dsimp only
  rw [Aggregation.processRX_connects]
  show Aggregation.connects (tcpEvent cfg input s) = false
  generalize tcpEvent cfg input s = event, (s.receive cfg input).2.2 = consumed at hturn
  cases hturn with
  | idle connected | accepted addr connected =>
    exact absurd (connected.symm.trans hconn) Bool.false_ne_true
  | dropped | nothing | part | bad | package => rfl

/-- The poll moves bytes from the cycle to the completed ones, and adds those read. -/
theorem polled_cycle (cfg : Configuration) (due : Bool) (b : MainLoop size)
    (reads : Nat → List UInt8) (responses : List WrittenResponse) (a : Aggregation.State size)
    (i : Nat) :
    (a.polled cfg due b reads responses).completed i ++
        (a.polled cfg due b reads responses).cycle i =
      a.completed i ++ (a.cycle i ++ reads i) ∧
    (a.polled cfg due b reads responses).written i = a.written i ++ responses[i]?.toList ∧
    (a.polled cfg due b reads responses).board = b := by
  unfold Aggregation.State.polled
  dsimp only
  generalize (if due then a.count + 1 else a.count) = count
  split
  · exact ⟨List.append_nil _, rfl, rfl⟩
  · exact ⟨rfl, rfl, rfl⟩

/-- The cycles of a pass. -/
theorem aggregation_step {a : Aggregation.State size} (hp : a.board.loop cfg input = some p) :
    Aggregation.step cfg a input = some ((a.connected p.event).polled cfg
      (Aggregation.ticks cfg a.board input) p.state (Aggregation.readBetween a.board p.state)
      p.responses) := by
  unfold Aggregation.step
  rw [hp]

theorem Collects.loop (h : Collects cfg s) (hp : s.loop cfg input = some p) :
    Collects cfg p.state := by
  obtain ⟨a, rfl, hcycling⟩ := h
  exact ⟨_, (polled_cycle cfg _ _ _ _ _ 0).2.2,
    Aggregation.cycling_step hcycling (aggregation_step hp)⟩

/-- **A pass is a step of the queue of collected bytes**, which loses nothing. -/
theorem loop_downlink (hcollects : Collects cfg s) (hp : s.loop cfg input = some p)
    (hconn : s.tcpServer.connected = true) (k : Nat) : Passes True (pendingAt cfg s k)
      (Aggregation.readBetween s p.state k) (p.responses[k]?.toList.flatMap (·.payload))
      (pendingAt cfg p.state k) := by
  obtain ⟨a, rfl, hcycling⟩ := hcollects
  have hsame : a.connected p.event = a := by
    unfold Aggregation.State.connected
    rw [not_connects hp hconn]
    rfl
  have hnext := Aggregation.cycling_step hcycling (aggregation_step hp)
  rw [hsame] at hnext
  have hpolled := polled_cycle cfg (Aggregation.ticks cfg a.board input) p.state
    (Aggregation.readBetween a.board p.state) p.responses a
  generalize a.polled cfg (Aggregation.ticks cfg a.board input) p.state
    (Aggregation.readBetween a.board p.state) p.responses = b at hnext hpolled
  refine .of_eq ?_
  obtain ⟨hcycle, hwritten, hboard⟩ := hpolled k
  rw [← hboard, pendingAt_eq hnext, hboard, pendingAt_eq hcycling]
  -- the responses carry what was completed in this pass
  have hpayload : p.responses[k]?.toList.flatMap (·.payload) =
      p.responses[k]?.toList.flatMap Aggregation.dataOf := by
    refine List.flatMap_congr fun r hr => (Aggregation.WellFormed.dataOf_eq ?_).symm
    refine hnext.well_formed k r ?_
    rw [hwritten]
    exact List.mem_append_right _ hr
  have hcompleted := hnext.written_eq k
  rw [hwritten, List.flatMap_append, hcycling.written_eq k] at hcompleted
  rw [← hcompleted, List.append_assoc] at hcycle
  rw [hpayload]
  exact List.append_cancel_left hcycle

/-- A board that has accepted a connection collects cycle by cycle. -/
theorem Collects.accepted (h : Accepted cfg s) : Collects cfg s := by
  obtain ⟨rxRingBuffs, millis, micros, inputs, idle, input, remoteIP, p, hlen, hrun, -, -, hp,
    rfl⟩ := h
  refine Collects.loop ?_ hp
  refine exec_invariant (Collects cfg) ?_ ⟨Aggregation.init cfg rxRingBuffs millis micros, rfl,
    Aggregation.Cycling.start hlen millis micros⟩ hrun
  intro v i u hv hstep
  obtain ⟨q, hq, rfl⟩ := Option.map_eq_some_iff.mp hstep
  exact hv.loop hq

/-! ## Both queues of a port -/

/-- What has been written to the UART of a port. -/
def writtenAt (s : MainLoop size) (k : Nat) : List UInt8 :=
  match s.uartWorker[k]? with
  | some w => bytesWritten w
  | none => []

/-- What the ring buffer of a port holds. -/
def ringAt (s : MainLoop size) (k : Nat) : List UInt8 :=
  match s.uartWorker[k]? with
  | some w => w.rxRingBuff.contents
  | none => []

/-- Between two states of the board the port received `received`, wrote `out` to its UART, read
`bytes` from it and put `sent` into responses. -/
structure Moved (cfg : Configuration) (exact : Prop) (s t : MainLoop size) (k : Nat)
    (received out bytes sent : List UInt8) : Prop where
  written_eq : writtenAt t k = writtenAt s k ++ out
  reads_eq : bytesReadAt t k = bytesReadAt s k ++ bytes
  uplink : Passes exact (ringAt s k) received out (ringAt t k)
  downlink : Passes True (pendingAt cfg s k) bytes sent (pendingAt cfg t k)

theorem Moved.refl (cfg : Configuration) (exact : Prop) (s : MainLoop size) (k : Nat) :
    Moved cfg exact s s k [] [] [] [] :=
  ⟨(List.append_nil _).symm, (List.append_nil _).symm, .refl _, .refl _⟩

theorem Moved.imp {exact exact' : Prop} {t : MainLoop size}
    {received out bytes sent : List UInt8} (weaker : exact' → exact)
    (h : Moved cfg exact s t k received out bytes sent) :
    Moved cfg exact' s t k received out bytes sent :=
  ⟨h.written_eq, h.reads_eq, h.uplink.imp weaker, h.downlink⟩

theorem Moved.trans {exact : Prop} {t u : MainLoop size}
    {received received' out out' bytes bytes' sent sent' : List UInt8}
    (h : Moved cfg exact s t k received out bytes sent)
    (h' : Moved cfg exact t u k received' out' bytes' sent') :
    Moved cfg exact s u k (received ++ received') (out ++ out') (bytes ++ bytes')
      (sent ++ sent') :=
  ⟨by rw [h'.written_eq, h.written_eq, List.append_assoc],
    by rw [h'.reads_eq, h.reads_eq, List.append_assoc], h.uplink.trans h'.uplink,
    h.downlink.trans h'.downlink⟩

/-- The request of a pass makes the port's ring buffer lose nothing. -/
def Fits (cfg : Configuration) (s : MainLoop size) (input : LoopInput) (k : Nat) : Prop :=
  ∀ request ∈ requestOf cfg s input k, ∀ w ∈ s.uartWorker[k]?, taken w request = true

instance (cfg : Configuration) (s : MainLoop size) (input : LoopInput) (k : Nat) :
    Decidable (Fits cfg s input k) :=
  inferInstanceAs (Decidable (∀ request ∈ _, ∀ w ∈ _, _))

/-- **A pass moves both queues.** -/
theorem loop_moved (hsize : size < 0x10000) (hcollects : Collects cfg s)
    (hp : s.loop cfg input = some p) (hconn : s.tcpServer.connected = true)
    (hk : k < cfg.uartCount) :
    ∃ out bytes, bytes <+: input.uartInput k ∧
      Moved cfg (Fits cfg s input k) s p.state k (requested cfg p.event p.state.rxBuff k) out bytes
        (p.responses[k]?.toList.flatMap (·.payload)) := by
  obtain ⟨a, rfl, hcycling⟩ := id hcollects
  have hlen := hcycling.collecting.workers_len
  have hw := List.getElem?_eq_getElem (show k < a.board.uartWorker.length by omega)
  generalize a.board.uartWorker[k] = w at hw
  obtain ⟨w', out, hw', hout, huplink⟩ := loop_uplink hsize hp hw
  obtain ⟨w'', bytes, hw'', hbytes, hprefix⟩ := loop_reads hp hw
  obtain rfl : w' = w'' := Option.some.inj (hw'.symm.trans hw'')
  have hdownlink := loop_downlink hcollects hp hconn k
  have hread : Aggregation.readBetween a.board p.state k = bytes := by
    unfold Aggregation.readBetween
    rw [bytesReadAt_eq hw, bytesReadAt_eq hw', hbytes, List.drop_left]
  rw [hread] at hdownlink
  refine ⟨out, bytes, hprefix, ?_, ?_, ?_, hdownlink⟩
  · unfold writtenAt
    rw [hw, hw']
    exact hout
  · rw [bytesReadAt_eq hw, bytesReadAt_eq hw', hbytes]
  · unfold ringAt
    rw [hw, hw']
    exact huplink.imp fun hfits request hrequest => hfits request hrequest w hw

end Pass

/-! ## Runs -/

section Runs

open Pipeline

variable {D : Deployment} {portConfig : Nat → PortConfig} {s t : State size fwSize} {k : Nat}

/-- The event brings the port no request that makes its ring buffer lose a byte. -/
def Lossless (D : Deployment) (k : Nat) (s : State size fwSize) : Event size → Prop
  | .loop input => Fits D.cfg s.fw input k
  | .pollStart _ | .pollPort _ | .pollSend _ _ | .recv _ | .other _ _ => True

instance (D : Deployment) (k : Nat) (s : State size fwSize) :
    (e : Event size) → Decidable (Lossless D k s e)
  | .loop input => inferInstanceAs (Decidable (Fits D.cfg s.fw input k))
  | .pollStart _ | .pollPort _ | .pollSend _ _ | .recv _ | .other _ _ => isTrue trivial

/-- Only the loop's passes concern the board. -/
theorem step_fw {e : Event size} (hstep : step D portConfig s e = some t)
    (hother : ∀ input, e ≠ .loop input) :
    t.fw = s.fw ∧ t.requestLog = s.requestLog ∧ t.writtenLog = s.writtenLog := by
  cases e with
  | loop input => exact absurd rfl (hother input)
  | pollStart | pollSend =>
    rw [frame_of_poll hstep nofun nofun nofun nofun]
    exact ⟨rfl, rfl, rfl⟩
  | pollPort input =>
    obtain ⟨poll, w, -, -, -, rfl⟩ := step_pollPort hstep
    exact ⟨rfl, rfl, rfl⟩
  | recv count =>
    rw [frame_of_recv hstep]
    exact ⟨rfl, rfl, rfl⟩
  | other i w =>
    cases hstep
    exact ⟨rfl, rfl, rfl⟩

/-- The payloads of what a pass wrote for a port. -/
theorem flatMap_written (responses : List WrittenResponse) (i : Nat) :
    (written responses i).flatMap (·.2) = responses[i]?.toList.flatMap (·.payload) := by
  unfold written
  cases responses[i]? <;> rfl

/-- Both queues of a port since the start. -/
structure Wired (D : Deployment) (exact : Prop) (fw : MainLoop fwSize) (k : Nat)
    (s : State size fwSize) : Prop where
  piped : Piped D s
  collects : Collects D.cfg s.fw
  moved : ∃ out bytes, Moved D.cfg exact fw s.fw k (s.requestLog k) out bytes
    ((s.writtenLog k).flatMap (·.2))

/-- What there is to read from the UART of a port. -/
def offered (k : Nat) : Event size → List UInt8
  | .loop input => input.uartInput k
  | .pollStart _ | .pollPort _ | .pollSend _ _ | .recv _ | .other _ _ => []

/-- **A step moves both queues.** -/
theorem step_moved (hsize : fwSize < 0x10000) (hpiped : Piped D s) (hcollects : Collects D.cfg s.fw)
    (hk : k < D.cfg.uartCount) {e : Event size} (hstep : step D portConfig s e = some t) :
    Collects D.cfg t.fw ∧ ∃ received out bytes sent,
      t.requestLog k = s.requestLog k ++ received ∧
      (t.writtenLog k).flatMap (·.2) = (s.writtenLog k).flatMap (·.2) ++ sent ∧
      bytes <+: offered k e ∧
      Moved D.cfg (Lossless D k s e) s.fw t.fw k received out bytes sent := by
  cases e with
  | pollStart | pollPort | pollSend | recv | other =>
    obtain ⟨hfw, hrequests, hwritten⟩ := step_fw hstep fun _ hloop => (by cases hloop)
    rw [hfw, hrequests, hwritten]
    exact ⟨hcollects, [], [], [], [], (List.append_nil _).symm, (List.append_nil _).symm,
      List.nil_prefix, .refl _ _ _ _⟩
  | loop input =>
    obtain ⟨-, p, hp, -, rfl⟩ := step_loop hstep
    obtain ⟨out, bytes, hoffered, hmoved⟩ :=
      loop_moved hsize hcollects hp hpiped.serving.connected hk
    dsimp only
    rw [List.flatMap_append, flatMap_written]
    exact ⟨hcollects.loop hp, _, out, bytes, _, rfl, rfl, hoffered, hmoved⟩

theorem wired_step {exact : Prop} {fw : MainLoop fwSize} (hsize : fwSize < 0x10000)
    (htcp : D.config.enableUDP = false) (hpayload : 4 ≤ D.config.portPLSize)
    (hk : k < D.cfg.uartCount) (h : Wired D exact fw k s) {e : Event size}
    (hlossless : exact → Lossless D k s e) (hstep : step D portConfig s e = some t) :
    Wired D exact fw k t := by
  obtain ⟨out, bytes, hmoved⟩ := h.moved
  obtain ⟨hcollects, received, out', bytes', sent, hrequests, hwritten, -, hnext⟩ :=
    step_moved hsize h.piped h.collects hk hstep
  refine ⟨piped_step htcp hpayload h.piped hstep, hcollects, out ++ out', bytes ++ bytes', ?_⟩
  rw [hrequests, hwritten]
  exact hmoved.trans (hnext.imp hlossless)

theorem Wired.start (ports : List (PortWorker UInt8 size)) (txBuff rxBuff : Nat → UInt8)
    {fw : MainLoop fwSize} (hfw : Accepted D.cfg fw) (exact : Prop) (k : Nat) :
    Wired D exact fw k (init D ports txBuff rxBuff fw) :=
  ⟨.start ports txBuff rxBuff hfw, .accepted hfw, [], [], .refl _ _ _ _⟩

/-- **The property.** `out` was written to the UART of the port, and `bytes` were read from it. -/
structure OnTheWires (D : Deployment) (fw : MainLoop fwSize) (s : State size fwSize) (k : Nat)
    (lossless : Prop) (out bytes : List UInt8) : Prop where
  written_eq : writtenAt s.fw k = writtenAt fw k ++ out
  reads_eq : bytesReadAt s.fw k = bytesReadAt fw k ++ bytes
  uplink : out.Sublist (ringAt fw k ++ s.readLog k)
  uplink_prefix : lossless → out <+: ringAt fw k ++ s.readLog k
  uplink_all : lossless → s.poll = none → s.up = [] → ringAt s.fw k = [] →
    out = ringAt fw k ++ s.readLog k
  downlink : (s.handedLog k).flatMap (·.2) <+: pendingAt D.cfg fw k ++ bytes
  downlink_all : s.down = [] → pendingAt D.cfg s.fw k = [] →
    (s.handedLog k).flatMap (·.2) = pendingAt D.cfg fw k ++ bytes

/-- **Both directions, from end to end.** Over one TCP connection that stays up, without UDP,
and for every run: what goes out on the wire of a port was waiting in its ring buffer or read
from its local client since, in this order and at most once; nothing is missing before it if
every payload fitted into the ring buffer and no Reset, Open or Close emptied it with bytes in
it. What its port worker is handed is what the UART returned, first to last. Once nothing is on
its way, all that the UART returned has been handed, and in such a run all that was read has
gone out. -/
theorem wires_of_run (D : Deployment) (htcp : D.config.enableUDP = false)
    (hpayload : 4 ≤ D.config.portPLSize) (portConfig : Nat → PortConfig)
    (ports : List (PortWorker UInt8 size)) (txBuff rxBuff : Nat → UInt8)
    (fw : MainLoop D.cfg.dataBufferSize) (hfw : Accepted D.cfg fw) (es : List (Event size))
    (s : State size D.cfg.dataBufferSize)
    (hrun : exec (step D portConfig) (init D ports txBuff rxBuff fw) es = some s) (k : Nat)
    (hk : k < D.config.portCount) :
    ∃ out bytes, OnTheWires D fw s k (Along (step D portConfig) (Lossless D k)
      (init D ports txBuff rxBuff fw) es) out bytes := by
  have hwired (exact : Prop) (halong : Along (step D portConfig)
      (fun s e => exact → Lossless D k s e) (init D ports txBuff rxBuff fw) es) :
      Wired D exact fw k s :=
    exec_invariant_along (Wired D exact fw k) (fun _ _ _ h hlossless hstep =>
      wired_step D.cfg.dataBufferSize_lt htcp hpayload (D.portCount_eq ▸ hk) h hlossless hstep)
      (.start ports txBuff rxBuff hfw exact k) halong hrun
  obtain ⟨hpiped, -, out, bytes, hmoved⟩ :=
    hwired False (.of_forall (fun _ _ hnever => hnever.elim) _ _)
  -- in a run whose steps lose nothing, the same bytes went out
  have hlossless (halong : Along (step D portConfig) (Lossless D k)
      (init D ports txBuff rxBuff fw) es) :
      Passes True (ringAt fw k) (s.requestLog k) out (ringAt s.fw k) := by
    obtain ⟨-, -, out', bytes', hmoved'⟩ :=
      hwired True (halong.imp fun _ _ hloses _ => hloses)
    have hsame := hmoved.written_eq.symm.trans hmoved'.written_eq
    rw [List.append_cancel_left hsame]
    exact hmoved'.uplink
  obtain ⟨-, huplink, huplinkAll, hdownlink, hdownlinkAll⟩ := hpiped.endToEnd
  have hrequests : ringAt fw k ++ s.requestLog k <+: ringAt fw k ++ s.readLog k :=
    List.prefix_append_right_inj _ |>.mpr (huplink k hk)
  have hhanded : (s.handedLog k).flatMap (·.2) <+: (s.writtenLog k).flatMap (·.2) := by
    obtain ⟨rest, hrest⟩ := hdownlink k hk
    exact ⟨rest.flatMap (·.2), by rw [← List.flatMap_append, hrest]⟩
  refine ⟨out, bytes, hmoved.written_eq, hmoved.reads_eq,
    hmoved.uplink.departed_sublist.trans hrequests.sublist,
    fun halong => ((hlossless halong).prefix_of_exact trivial).trans hrequests, ?_,
    hhanded.trans (hmoved.downlink.prefix_of_exact trivial), ?_⟩
  · intro halong hpoll hup hring
    have hall := (hlossless halong).eq_of_exact trivial
    rw [hring, List.append_nil, huplinkAll hpoll hup k hk] at hall
    exact hall
  · intro hdown hpending
    have hall := hmoved.downlink.eq_of_exact trivial
    rw [hpending, List.append_nil, ← hdownlinkAll hdown k hk] at hall
    exact hall

/-! ## A run -/

open Deployment (ring16 port57600)

/-- A pass on a live connection in which each UART takes a byte. -/
def passWith (millis micros : UInt32) (arrived : List UInt8) : Event 16 :=
  .loop { quietInput millis micros arrived with availableForWrite := fun _ => 1 }

/-- Port 0 was opened, and its client has sent two bytes. -/
def opened : List (Event 16) :=
  sending ++ [passWith 6 5100 afterSending.up, passWith 7 5200 (afterSending.up.drop 7),
    passWith 8 6100 (afterSending.up.drop 14),
    .other 0 { PortWorker.create twoPorts.config (ring16 0) with
      connected := true, openPending := false, client := some 3 },
    .pollStart 2, .pollPort (.bytes [0x43, 0x44]), .pollPort (.error .EAGAIN),
    .pollSend 0 [.sent 100]]

def afterOpened : State 16 32 :=
  (exec (step twoPorts (port57600 false)) established opened).getD established

/-- One of them goes out, and what the UART returned comes back. -/
def carries : List (Event 16) :=
  opened ++ [passWith 9 6200 afterOpened.up, passWith 10 6300 (afterOpened.up.drop 7),
    passWith 11 7200 (afterOpened.up.drop 14), .recv 21]

def afterCarries : State 16 32 :=
  (exec (step twoPorts (port57600 false)) established carries).getD established

/-- Opening a closed port empties nothing, so the run loses nothing of port 0. -/
theorem wires_of_run_carries :
    (∃ out bytes, OnTheWires twoPorts acceptPass.state afterCarries 0
      (Along (step twoPorts (port57600 false)) (Lossless twoPorts 0) established carries) out
      bytes) ∧
    Along (step twoPorts (port57600 false)) (Lossless twoPorts 0) established carries ∧
    writtenAt afterCarries.fw 0 = [0x43] ∧ ringAt afterCarries.fw 0 = [0x44] ∧
    afterCarries.handedLog 0 = [(0, [0x61])] := by
  have hthrough : (exec (step twoPorts (port57600 false)) established carries).isSome = true := by
    decide +kernel
  have hport : 0 < twoPorts.config.portCount := by decide
  have hmain := wires_of_run twoPorts rfl (by decide) (port57600 false) twoWorkers (fun _ => 0)
    (fun _ => 0) acceptPass.state accepted_acceptPass carries afterCarries
    (exec_eq_some_getD hthrough) 0 hport
  exact ⟨hmain, by decide +kernel, by decide +kernel, by decide +kernel, by decide +kernel⟩

end Runs

end UartBridge.Wires
