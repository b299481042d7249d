import UartBridge.System.Collect
import UartBridge.System.UartDiscipline

/-!
# The loop, seen from one UART

* `passCalls` — the member functions of a worker that a pass of the loop calls;
* `loop_calls` — the worker after the pass is the one that these calls lead to, whatever the
  pass does for the other workers and the network;
* `board_disciplined` — hence a run of the board is, for each worker, a sequence of calls as in
  `UartDiscipline`, and every UART is used with the same discipline.
-/

namespace UartBridge.BoardCalls

open EventRun Client Firmware UartDiscipline

variable {size : Nat}

/-! ## The calls of a pass -/

/-- The argument of `FillTXBuff`: the first segment of a response starts anew. -/
def startsCycle (cfg : Configuration) (s : MainLoop size) : Bool :=
  if 1 < cfg.ioAggregateMultiplier then s.segmentCounter + 1 = 1 else true

/-- The calls in `pollUARTs`. What is in the send buffer does not matter to the worker. -/
def pollCalls (cfg : Configuration) (s : MainLoop size) (input : LoopInput) (k : Nat) :
    List Call :=
  if s.pollTimer.update input.micros then
    .fillTXBuff (startsCycle cfg s) (input.uartInput k) (cfg.slotOffset k) (fun _ => 0) ::
      if cfg.ioAggregateMultiplier ≤ segments cfg s then [.processTX] else []
  else []

/-- The call with the request of a package, if one has come. -/
def requestCalls (cfg : Configuration) (s : MainLoop size) (input : LoopInput) (k : Nat) :
    List Call :=
  (requestOf cfg s input k).toList.map fun request =>
    .processRequest (fun j => (s.receive cfg input).1.rxBuff (cfg.slotOffset k + j)) request

/-- The calls that a pass makes on worker number `k`. -/
def passCalls (cfg : Configuration) (s : MainLoop size) (input : LoopInput) (k : Nat) :
    List Call :=
  requestCalls cfg s input k ++
    (.processRX (input.availableForWrite k) :: pollCalls cfg (beforePoll cfg input s) input k)

/-- The worker after some calls at one time. -/
def runCalls (cfg : Configuration) (time : Nat) (w : UARTWorker size) (calls : List Call) :
    UARTWorker size :=
  calls.foldl (fun w call => call.run cfg time w) w

/-! ## What a pass does to one worker -/

section Pass

variable {cfg : Configuration} {s : MainLoop size} {input : LoopInput} {time k : Nat}

/-- The worker does not look at the send buffer. -/
theorem fillTXBuff_worker (reset : Bool) (bytes : List UInt8) (w : UARTWorker size)
    (txDataBuff : Nat) (txBuff txBuff' : Nat → UInt8) :
    (w.fillTXBuff cfg reset bytes txDataBuff txBuff).1 =
      (w.fillTXBuff cfg reset bytes txDataBuff txBuff').1 := by
  unfold UARTWorker.fillTXBuff
  generalize (if reset then { w with txUsedSz := 0 } else w) = v
  dsimp only
  generalize (if cfg.portIOSize < cfg.dataPayloadSize - v.txUsedSz then cfg.portIOSize
    else cfg.dataPayloadSize - v.txUsedSz) = sz
  split
  · rfl
  · split
    · rfl
    · rfl

theorem fillTXBuffs_getElem? (cfg : Configuration) (reset : Bool) (uartInput : Nat → List UInt8)
    (workers : List (UARTWorker size)) (i k : Nat) (txBuff : Nat → UInt8) :
    (MainLoop.fillTXBuffs cfg reset uartInput i workers txBuff).1[k]? =
      workers[k]?.map fun w => (w.fillTXBuff cfg reset (uartInput (i + k)) (cfg.slotOffset (i + k))
        fun _ => 0).1 := by
  induction workers generalizing i k txBuff with
  | nil => rfl
  | cons w ws ih =>
    cases k with
    | zero => exact congrArg some (fillTXBuff_worker reset _ w _ _ _)
    | succ k =>
      have h := ih (i + 1) k (w.fillTXBuff cfg reset (uartInput i) (cfg.slotOffset i) txBuff).2
      rw [show i + 1 + k = i + (k + 1) by omega] at h
      exact h

theorem fillAndRespond_getElem? (cfg : Configuration) (uartInput : Nat → List UInt8)
    (workers : List (UARTWorker size)) (i k : Nat) (txBuff : Nat → UInt8) :
    (MainLoop.fillAndRespond cfg uartInput i workers txBuff).1[k]? =
      workers[k]?.map fun w => (w.fillTXBuff cfg true (uartInput (i + k)) (cfg.slotOffset (i + k))
        fun _ => 0).1 := by
  induction workers generalizing i k txBuff with
  | nil => rfl
  | cons w ws ih =>
    cases k with
    | zero => exact congrArg some (fillTXBuff_worker true _ w _ _ _)
    | succ k =>
      have h := ih (i + 1) k (MainLoop.respond cfg i
        (w.fillTXBuff cfg true (uartInput i) (cfg.slotOffset i) txBuff).1
        (w.fillTXBuff cfg true (uartInput i) (cfg.slotOffset i) txBuff).2).1
      rw [show i + 1 + k = i + (k + 1) by omega] at h
      exact h

/-- `ProcessTX` leaves the worker as it is. -/
theorem runCalls_fill (w : UARTWorker size) (reset : Bool) (bytes : List UInt8)
    (txDataBuff : Nat) (txBuff : Nat → UInt8) (responds : Prop) [Decidable responds] :
    runCalls cfg time w (.fillTXBuff reset bytes txDataBuff txBuff ::
      if responds then [.processTX] else []) =
      (w.fillTXBuff cfg reset bytes txDataBuff txBuff).1 := by
  split
  · rfl
  · rfl

/-- The poll, for one worker. -/
theorem pollUARTs_calls (cfg : Configuration) (s : MainLoop size) (input : LoopInput)
    (time k : Nat) :
    (s.pollUARTs cfg input).1.uartWorker[k]? =
      s.uartWorker[k]?.map fun w => runCalls cfg time w (pollCalls cfg s input k) := by
  unfold MainLoop.pollUARTs pollCalls startsCycle
  cases hdue : s.pollTimer.update input.micros with
  | false =>
    simp only [Bool.not_false, if_true, Bool.false_eq_true, if_false]
    exact Option.map_id'.symm
  | true =>
    simp only [Bool.not_true, Bool.false_eq_true, if_false, if_true, runCalls_fill]
    split
    · -- segment by segment
      have hfill := fillTXBuffs_getElem? cfg (decide (s.segmentCounter + 1 = 1))
        input.uartInput s.uartWorker 0 k s.txBuff
      rw [Nat.zero_add] at hfill
      split
      · exact hfill
      · rw [transmit_uartWorker]
        exact hfill
    · rw [transmit_uartWorker]
      have hfill := fillAndRespond_getElem? cfg input.uartInput s.uartWorker 0 k s.txBuff
      rw [Nat.zero_add] at hfill
      exact hfill

/-- The requests of a package, for one worker. -/
theorem handle_calls (htime : UInt32.ofNat time = input.millis) :
    ((s.receive cfg input).1.handle cfg input (s.receive cfg input).2.1).uartWorker[k]? =
      s.uartWorker[k]?.map fun w => runCalls cfg time w (requestCalls cfg s input k) := by
  have hworkers := receive_uartWorker cfg input s
  unfold requestCalls requestOf
  cases hevent : (s.receive cfg input).2.1 with
  | NewRequest data =>
    simp only [MainLoop.handle, (takeCounter_collect cfg input.micros _).1,
      MainLoop.processRequests, hworkers, List.getElem?_mapIdx]
    rw [← htime]
    rfl
  | NoEvent | Connected | Disconnected =>
    simp only [MainLoop.handle, hworkers]
    exact Option.map_id'.symm

/-- **A pass is, for each worker, its calls.** -/
theorem loop_calls {p : Pass size} (htime : UInt32.ofNat time = input.millis)
    (hp : s.loop cfg input = some p) :
    p.state.uartWorker[k]? =
      s.uartWorker[k]?.map fun w => runCalls cfg time w (passCalls cfg s input k) := by
  have hbefore : (beforePoll cfg input s).uartWorker[k]? = s.uartWorker[k]?.map fun w =>
      (runCalls cfg time w (requestCalls cfg s input k)).processRX cfg (UInt32.ofNat time)
        (input.availableForWrite k) := by
    unfold beforePoll MainLoop.processUARTs
    rw [List.getElem?_mapIdx, handle_calls htime, Option.map_map, htime]
    rfl
  rw [(loop_poll hp).1, pollUARTs_calls cfg _ input time, hbefore, Option.map_map]
  congr 1
  funext w
  simp only [runCalls, passCalls, List.foldl_append, List.foldl_cons]
  rfl

end Pass

/-! ## Runs of the board -/

/-- The board, and the true time of its last pass. -/
structure Board (size : Nat) where
  loop : MainLoop size
  now : Nat

/-- After `setup`, with what was in the ring buffers' memory. -/
def init (cfg : Configuration) (storage : Nat → Nat → UInt8) (now : Nat) (micros : UInt32) :
    Board cfg.dataBufferSize :=
  { loop := MainLoop.setup cfg
      ((List.range cfg.uartCount).map fun k => DataBuffer.create (storage k)
        cfg.dataBufferSize_pos) (UInt32.ofNat now) micros
    now := now }

/-- A pass of the loop at a time that `millis()` shows the low 32 bits of. -/
def step (cfg : Configuration) (s : Board size) (e : Nat × LoopInput) : Option (Board size) :=
  if s.now ≤ e.1 ∧ e.2.millis = UInt32.ofNat e.1 then
    (s.loop.loop cfg e.2).map fun p => { loop := p.state, now := e.1 }
  else none

/-- The calls that a pass makes on worker number `k`, with their time. -/
def timedCalls (cfg : Configuration) (k : Nat) (s : Board size) (e : Nat × LoopInput) :
    List (Nat × Call) :=
  (passCalls cfg s.loop e.2 k).map fun call => (e.1, call)

/-- The calls that a run makes on worker number `k`. -/
def callsOf (cfg : Configuration) (k : Nat) (s : Board size) (es : List (Nat × LoopInput)) :
    List (Nat × Call) :=
  outputs (step cfg) (timedCalls cfg k) s es

section Runs

variable {cfg : Configuration} {s t : Board size} {k : Nat}

theorem step_cases {e : Nat × LoopInput} (hstep : step cfg s e = some t) :
    s.now ≤ e.1 ∧ e.2.millis = UInt32.ofNat e.1 ∧
      ∃ p, s.loop.loop cfg e.2 = some p ∧ t = { loop := p.state, now := e.1 } := by
  simp only [step, Option.ite_none_right_eq_some, Option.map_eq_some_iff] at hstep
  obtain ⟨⟨hnow, hmillis⟩, p, hp, rfl⟩ := hstep
  exact ⟨hnow, hmillis, p, hp, rfl⟩

/-- Calls at one time, one after the other. -/
theorem exec_calls (cfg : Configuration) {u : State size} {time : Nat} (hnow : u.now ≤ time)
    (calls : List Call) :
    ∃ v, exec (UartDiscipline.step cfg) u (calls.map fun call => (time, call)) = some v ∧
      v.worker = runCalls cfg time u.worker calls ∧ v.now ≤ time := by
  induction calls generalizing u with
  | nil => exact ⟨u, rfl, rfl, hnow⟩
  | cons call calls ih =>
    have hcall : ∃ u', UartDiscipline.step cfg u (time, call) = some u' ∧
        u'.worker = call.run cfg time u.worker ∧ u'.now = time :=
      ⟨_, if_pos hnow, rfl, rfl⟩
    obtain ⟨u', hstep, hworker', hnow'⟩ := hcall
    obtain ⟨v, hv, hworker, hlast⟩ := ih (Nat.le_of_eq hnow')
    refine ⟨v, exec_cons_eq_some.mpr ⟨u', hstep, hv⟩, ?_, hlast⟩
    rw [hworker, hworker']
    rfl

/-- The worker on the board is the one that the calls so far lead to. -/
def Follows (cfg : Configuration) (k : Nat) (u : State size) (log : List (Nat × Call))
    (s : Board size) : Prop :=
  ∃ v, exec (UartDiscipline.step cfg) u log = some v ∧
    s.loop.uartWorker[k]? = some v.worker ∧ v.now ≤ s.now

theorem Follows.step {u : State size} {log : List (Nat × Call)} {e : Nat × LoopInput}
    (h : Follows cfg k u log s) (hstep : step cfg s e = some t) :
    Follows cfg k u (log ++ timedCalls cfg k s e) t := by
  obtain ⟨v, hv, hworker, hnow⟩ := h
  obtain ⟨hlater, hmillis, p, hp, rfl⟩ := step_cases hstep
  obtain ⟨v', hv', hworker', hnow'⟩ := exec_calls cfg (Nat.le_trans hnow hlater)
    (passCalls cfg s.loop e.2 k)
  refine ⟨v', exec_append_eq_some.mpr ⟨v, hv, hv'⟩, ?_, hnow'⟩
  have hcalls := loop_calls (k := k) hmillis.symm hp
  rw [hworker, Option.map_some] at hcalls
  rw [hworker']
  exact hcalls

end Runs

/-- **Every UART of the board is used with discipline.** In every run of loop passes, whatever
comes from the network and the UARTs, the calls that the passes make on a worker are a sequence
that it can follow, it is in the state that they lead to, and the discipline holds of them. -/
theorem board_disciplined (cfg : Configuration) (storage : Nat → Nat → UInt8) (now : Nat)
    (micros : UInt32) (es : List (Nat × LoopInput)) (s : Board cfg.dataBufferSize)
    (hrun : exec (step cfg) (init cfg storage now micros) es = some s) (k : Nat)
    (hk : k < cfg.uartCount) :
    ∃ u, exec (UartDiscipline.step cfg) (UartDiscipline.init cfg (storage k) now)
        (callsOf cfg k (init cfg storage now micros) es) = some u ∧
      s.loop.uartWorker[k]? = some u.worker ∧ Disciplined cfg u := by
  have hstart : Follows cfg k (UartDiscipline.init cfg (storage k) now) []
      (init cfg storage now micros) := by
    refine ⟨_, rfl, ?_, Nat.le_refl now⟩
    simp only [init, MainLoop.setup, List.getElem?_map, List.getElem?_range hk, Option.map_some]
    rfl
  obtain ⟨u, hu, hworker, -⟩ := exec_invariant_outputs
    (Follows cfg k (UartDiscipline.init cfg (storage k) now))
    (fun _ _ _ _ h hstep => h.step hstep) hstart hrun
  exact ⟨u, hu, hworker, (working_of_run hu).disciplined⟩

/-! ## A board in use -/

/-- A pass at a time, in which the UARTs take two bytes. -/
def passAt (time : Nat) (input : LoopInput) : Nat × LoopInput :=
  (time, { input with millis := UInt32.ofNat time, availableForWrite := fun _ => 2 })

/-- Port 0 is opened and gets three bytes, which leave in two passes; then it returns one. -/
def opensAndWrites : List (Nat × LoopInput) :=
  [passAt 500 (.accepts .avrPro),
    passAt 501 (.stream .avrPro 0
      (LoopInput.package .avrPro 0 [0x02, 6, 4] (ByteMem.encode32 57600))),
    passAt 502 (.stream .avrPro 0 (LoopInput.package .avrPro 0 [0x08, 1, 3] [0x41, 0x42, 0x43])),
    passAt 503 (.quiet .avrPro 4096 [0x61])]

def atStart : Board Configuration.avrPro.dataBufferSize := init .avrPro (fun _ _ => 0) 0 0

def afterOpensAndWrites : Board Configuration.avrPro.dataBufferSize :=
  (exec (step .avrPro) atStart opensAndWrites).getD atStart

theorem board_disciplined_opensAndWrites :
    (∃ u, exec (UartDiscipline.step .avrPro) (UartDiscipline.init .avrPro (fun _ => 0) 0)
        (callsOf .avrPro 0 atStart opensAndWrites) = some u ∧
      afterOpensAndWrites.loop.uartWorker[0]? = some u.worker ∧ Disciplined .avrPro u) ∧
    afterOpensAndWrites.loop.uartWorker[0]?.map (·.uart) =
      some [.begin 57600 6, .setTimeout 0, .write [0x41, 0x42], .write [0x43],
        .readBytes [0x61]] := by
  have hrun : (exec (step .avrPro) atStart opensAndWrites).isSome = true := by decide +kernel
  have hthrough : exec (step .avrPro) atStart opensAndWrites = some afterOpensAndWrites :=
    exec_eq_some_getD hrun
  have hport : 0 < Configuration.avrPro.uartCount := by decide
  have hmain := board_disciplined .avrPro (fun _ _ => 0) 0 0 opensAndWrites afterOpensAndWrites
    hthrough 0 hport
  refine ⟨hmain, ?_⟩
  decide +kernel

end UartBridge.BoardCalls
