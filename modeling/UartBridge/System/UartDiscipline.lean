import UartBridge.Lib.Run
import UartBridge.Firmware.UARTWorker

/-!
# How a worker uses its UART

The member functions of a `UARTWorker` are called in any order and at any times. What they
do with the UART has to suit the hardware, and the bytes written have to be those received.

* `step` — a call of a member function, with what it did on the UART;
* `port` — the UART as an automaton that takes `begin` only when closed and the rest only
  when open;
* `Acts` — what each function does to the UART leads from the worker's mode to its new mode;
* `Drained`, `DrainLoop` — the loop of `ProcessRX`;
* `Resetting` — while a reset lasts, the worker knows it;
* `uart_discipline` — the discipline, over every sequence of calls.
-/

namespace UartBridge.UartDiscipline

open EventRun Firmware

variable {size : Nat}

/-! ## Sequences of calls -/

/-- A call of a member function, with what it finds. -/
inductive Call where
  | processRequest (rxDataBuff : Nat → UInt8) (request : Request)
  | processRX (availableForWrite : Nat)
  | fillTXBuff (reset : Bool) (input : List UInt8) (txDataBuff : Nat) (txBuff : Nat → UInt8)
  | processTX

/-- The worker after a call at a time, of which `millis()` has the low 32 bits. -/
def Call.run (cfg : Configuration) (time : Nat) (w : UARTWorker size) : Call → UARTWorker size
  | .processRequest rxDataBuff request =>
    (w.processRequest (UInt32.ofNat time) rxDataBuff request).1
  | .processRX availableForWrite => w.processRX cfg (UInt32.ofNat time) availableForWrite
  | .fillTXBuff reset input txDataBuff txBuff =>
    (w.fillTXBuff cfg reset input txDataBuff txBuff).1
  | .processTX => w

/-- A call starts a reset of the device. -/
def Call.startsReset : Call → Bool
  | .processRequest _ request => request.type = .Reset || request.type = .ResetOpen
  | .processRX _ | .fillTXBuff _ _ _ _ | .processTX => false

/-- A call empties the ring buffer. -/
def Call.resetsRing (w : UARTWorker size) : Call → Bool
  | .processRequest _ request =>
    match request.type with
    | .Reset => true
    | .Open | .ResetOpen | .Close => isOpen w.curMode
    | .Data | .NoCommand | .other _ => false
  | .processRX _ | .fillTXBuff _ _ _ _ | .processTX => false

/-- The bytes of a Data request that are stored: all but those left over. -/
def Call.stores (time : Nat) (w : UARTWorker size) : Call → List UInt8
  | .processRequest rxDataBuff request =>
    match request.type with
    | .Data =>
      (ByteMem.read rxDataBuff 0 request.plSz.toNat).take (request.plSz.toNat -
        (w.processRequest (UInt32.ofNat time) rxDataBuff request).2)
    | .Reset | .Open | .ResetOpen | .Close | .NoCommand | .other _ => []
  | .processRX _ | .fillTXBuff _ _ _ _ | .processTX => []

/-- The bytes that a call on the UART wrote. -/
def bytesWritten : UartCall → List UInt8
  | .write bytes => bytes
  | .begin _ _ | .setTimeout _ | .finish | .readBytes _ => []

/-- A call as it was made, with the calls on the UART that it made. -/
structure Entry where
  time : Nat
  call : Call
  uart : List UartCall

/-- A worker in use. `stored` are the Data bytes stored, and `written` the bytes written to
the UART, since the ring buffer was emptied last. -/
structure State (size : Nat) where
  worker : UARTWorker size
  now : Nat
  log : List Entry
  stored : List UInt8
  written : List UInt8

/-- After `Setup`, with a new ring buffer. -/
def init (cfg : Configuration) (storage : Nat → UInt8) (now : Nat) :
    State cfg.dataBufferSize :=
  { worker := UARTWorker.setup (DataBuffer.create storage cfg.dataBufferSize_pos), now := now
    log := [], stored := [], written := [] }

/-- One call; time does not go back. -/
def step (cfg : Configuration) (s : State size) (e : Nat × Call) : Option (State size) :=
  if s.now ≤ e.1 then
    let worker := e.2.run cfg e.1 s.worker
    let uart := worker.uart.drop s.worker.uart.length
    some { worker := worker, now := e.1
           log := s.log ++ [{ time := e.1, call := e.2, uart := uart }]
           stored := if e.2.resetsRing s.worker then [] else s.stored ++ e.2.stores e.1 s.worker
           written := if e.2.resetsRing s.worker then []
             else s.written ++ uart.flatMap bytesWritten }
  else none

/-! ## The discipline -/

/-- `begin` and `end` among the calls on the UART. -/
def switch : UartCall → Option Bool
  | .begin _ _ => some true
  | .finish => some false
  | .setTimeout _ | .write _ | .readBytes _ => none

def switches (calls : List UartCall) : List Bool := calls.filterMap switch

/-- `write` and `readBytes`. -/
def transfers : UartCall → Bool
  | .write _ | .readBytes _ => true
  | .begin _ _ | .setTimeout _ | .finish => false

/-- `begin` comes at every even place, and `end` at every odd one. -/
def Alternating (l : List Bool) : Prop := ∀ k b, l[k]? = some b → b = decide (k % 2 = 0)

/-- The loop of `ProcessRX` from a worker to the worker after it. It ends when nothing may
be written any more or nothing is stored. -/
inductive DrainLoop : Nat → UARTWorker size → UARTWorker size → Prop where
  | full (w : UARTWorker size) : DrainLoop 0 w w
  | empty (uartAvail : Nat) (w : UARTWorker size)
      (nothing : min uartAvail (Firmware.DataBuffer.getTail w.rxRingBuff).maxSz = 0) :
      DrainLoop uartAvail w w
  | round (uartAvail : Nat) (w w' : UARTWorker size)
      (left : 0 < min uartAvail (Firmware.DataBuffer.getTail w.rxRingBuff).maxSz)
      (next : DrainLoop
        (uartAvail - min uartAvail (Firmware.DataBuffer.getTail w.rxRingBuff).maxSz)
        { w with
          uart := w.uart ++ [.write (ByteMem.read w.rxRingBuff.storage
            (Firmware.DataBuffer.getTail w.rxRingBuff).buffer
            (min uartAvail (Firmware.DataBuffer.getTail w.rxRingBuff).maxSz))]
          rxRingBuff := w.rxRingBuff.commit (Firmware.DataBuffer.getTail w.rxRingBuff)
            (min uartAvail (Firmware.DataBuffer.getTail w.rxRingBuff).maxSz) } w') :
      DrainLoop uartAvail w w'

/-- The call does not write while a reset lasts. -/
def Waits (before : List Entry) (entry : Entry) : Prop :=
  ∀ bytes, .write bytes ∈ entry.uart → ∀ earlier ∈ before, earlier.call.startsReset = true →
    earlier.time + resetTimeMS.toNat ≤ entry.time

/-- A call of `ProcessRX` writes no more than the UART takes, and no more than its share. -/
def Bounded (cfg : Configuration) (entry : Entry) : Prop :=
  match entry.call with
  | .processRX availableForWrite =>
    (entry.uart.flatMap bytesWritten).length ≤ min availableForWrite cfg.portIOSize
  | .processRequest _ _ | .fillTXBuff _ _ _ _ | .processTX =>
    ∀ bytes, .write bytes ∉ entry.uart

/-- **The property.** -/
structure Disciplined (cfg : Configuration) (s : State size) : Prop where
  uart_eq : s.worker.uart = s.log.flatMap (·.uart)
  alternating : Alternating (switches s.worker.uart)
  open_iff : isOpen s.worker.curMode = true ↔ (switches s.worker.uart).getLast? = some true
  transfers_open : EachAfter
    (fun before call => transfers call = true → (switches before).getLast? = some true)
    s.worker.uart
  waits : EachAfter Waits s.log
  bounded : ∀ entry ∈ s.log, Bounded cfg entry
  ends : ∀ uartAvail, DrainLoop uartAvail s.worker (s.worker.drain uartAvail uartAvail)
  in_order : s.written <+: s.stored

/-! ## The UART as an automaton -/

/-- The calls that the UART can take: closed it takes `begin` only. -/
def port : Bool → UartCall → Option Bool
  | false, .begin _ _ => some true
  | true, .finish => some false
  | true, .setTimeout _ | true, .write _ | true, .readBytes _ => some true
  | false, .finish | false, .setTimeout _ | false, .write _ | false, .readBytes _
  | true, .begin _ _ => none

/-- A call switches the UART, or needs it open. -/
theorem port_cases {before after : Bool} {call : UartCall} (h : port before call = some after) :
    (switch call = some after ∧ before = !after ∧ transfers call = false) ∨
      (switch call = none ∧ before = true ∧ after = true) := by
  cases before with
  | false =>
    cases call with
    | begin =>
      cases h
      exact Or.inl ⟨rfl, rfl, rfl⟩
    | finish | setTimeout | write | readBytes => cases h
  | true =>
    cases call with
    | begin => cases h
    | finish =>
      cases h
      exact Or.inl ⟨rfl, rfl, rfl⟩
    | setTimeout | write | readBytes =>
      cases h
      exact Or.inr ⟨rfl, rfl, rfl⟩

theorem Alternating.nil : Alternating [] := by
  intro k b hk
  cases hk

theorem Alternating.concat {l : List Bool} (h : Alternating l) :
    Alternating (l ++ [decide (l.length % 2 = 0)]) := by
  intro k b hk
  rcases Nat.lt_trichotomy k l.length with hlt | heq | hgt
  · rw [List.getElem?_append_left hlt] at hk
    exact h k b hk
  · rw [heq, List.getElem?_concat_length, Option.some.injEq] at hk
    rw [heq, hk]
  · rw [List.getElem?_eq_none (by rw [List.length_append, List.length_singleton]; omega)] at hk
    cases hk

/-- The last of an alternating sequence tells how many there are. -/
theorem Alternating.getLast?_eq {l : List Bool} (h : Alternating l) :
    l.getLast? = some true ↔ l.length % 2 = 1 := by
  rw [List.getLast?_eq_getElem?]
  rcases Nat.eq_zero_or_pos l.length with hzero | hpos
  · rw [List.length_eq_zero_iff.mp hzero]
    exact iff_of_false (fun hnone => by cases hnone) (by decide)
  · have hlast := List.getElem?_eq_getElem (show l.length - 1 < l.length by omega)
    have hparity := h _ _ hlast
    rw [hlast, hparity, Option.some.injEq, decide_eq_true_eq]
    omega

/-- What follows for a sequence of calls that the UART takes. -/
structure Accepted (calls : List UartCall) (opened : Bool) : Prop where
  alternating : Alternating (switches calls)
  opened_iff : opened = true ↔ (switches calls).length % 2 = 1
  transfers_open : EachAfter
    (fun before call => transfers call = true → (switches before).getLast? = some true) calls

/-- **The automaton says what the discipline asks for.** -/
theorem accepted_of_exec {calls : List UartCall} {opened : Bool}
    (h : exec port false calls = some opened) : Accepted calls opened := by
  induction calls using List.reverseRecOn generalizing opened with
  | nil =>
    rw [exec_nil, Option.some.injEq] at h
    subst h
    exact ⟨.nil, iff_of_false Bool.false_ne_true (by decide), .nil⟩
  | append_singleton calls call ih =>
    obtain ⟨before, hbefore, hlast⟩ := exec_append_eq_some.mp h
    obtain ⟨after, hcall, hend⟩ := exec_cons_eq_some.mp hlast
    rw [exec_nil, Option.some.injEq] at hend
    subst hend
    obtain ⟨halternating, hopened, htransfers⟩ := ih hbefore
    have hsplit : switches (calls ++ [call]) = switches calls ++ (switch call).toList := by
      unfold switches
      rw [List.filterMap_append, List.filterMap_cons, List.filterMap_nil]
      cases switch call <;> rfl
    rw [← halternating.getLast?_eq] at hopened
    rcases port_cases hcall with ⟨hswitch, hflip, htransfer⟩ | ⟨hstays, hopen, hopen'⟩
    · have heven : after = decide ((switches calls).length % 2 = 0) := by
        rw [halternating.getLast?_eq, hflip] at hopened
        cases after <;> simp at hopened ⊢ <;> omega
      refine ⟨?_, ?_, htransfers.concat fun hyes => ?_⟩
      · rw [hsplit, hswitch, heven]
        exact halternating.concat
      · rw [hsplit, hswitch, Option.toList_some, List.length_append, List.length_singleton, heven,
          decide_eq_true_eq]
        omega
      · rw [htransfer] at hyes
        cases hyes
    · rw [hstays, Option.toList_none, List.append_nil] at hsplit
      refine ⟨?_, ?_, htransfers.concat fun _ => hopened.mp hopen⟩
      · rw [hsplit]
        exact halternating
      · rw [hsplit, hopen', ← halternating.getLast?_eq, ← hopened]
        exact iff_of_true rfl hopen

/-! ## The member functions -/

/-- What a function did on the UART: the UART takes it, and it leads from the mode before to
the mode after. -/
structure Acts (w w' : UARTWorker size) (calls : List UartCall) : Prop where
  uart_eq : w'.uart = w.uart ++ calls
  taken : exec port (isOpen w.curMode) calls = some (isOpen w'.curMode)

theorem Acts.nothing {w w' : UARTWorker size} (huart : w'.uart = w.uart)
    (hmode : w'.curMode = w.curMode) : Acts w w' [] :=
  ⟨by rw [huart, List.append_nil], by rw [hmode, exec_nil]⟩

/-- Without `write` no byte is written. -/
theorem flatMap_bytesWritten_nil {calls : List UartCall} (h : ∀ bytes, .write bytes ∉ calls) :
    calls.flatMap bytesWritten = [] := by
  refine List.flatMap_eq_nil_iff.mpr fun call hcall => ?_
  cases call with
  | write bytes => exact absurd hcall (h bytes)
  | begin | setTimeout | finish | readBytes => rfl

/-- Ending an open port; the callers set the mode. -/
theorem endUart_acts (w : UARTWorker size) :
    ∃ calls, w.endUart.uart = w.uart ++ calls ∧
      exec port (isOpen w.curMode) calls = some false ∧ (∀ bytes, .write bytes ∉ calls) ∧
      w.endUart.rxRingBuff.contents =
        (if isOpen w.curMode then [] else w.rxRingBuff.contents) ∧
      w.endUart.resetHelper = w.resetHelper := by
  unfold UARTWorker.endUart
  cases hopen : isOpen w.curMode with
  | true =>
    exact ⟨[.finish], rfl, rfl, fun _ => (by simp), DataBuffer.contents_reset _, rfl⟩
  | false => exact ⟨[], (List.append_nil _).symm, rfl, fun _ => List.not_mem_nil, rfl, rfl⟩

/-- The `Open` branch. -/
theorem openPort_acts (rxDataBuff : Nat → UInt8) (arg : UInt8) (w : UARTWorker size) :
    ∃ calls, Acts w (w.openPort rxDataBuff arg) calls ∧ (∀ bytes, .write bytes ∉ calls) ∧
      (w.openPort rxDataBuff arg).rxRingBuff.contents =
        (if isOpen w.curMode then [] else w.rxRingBuff.contents) ∧
      (w.openPort rxDataBuff arg).resetHelper = w.resetHelper := by
  obtain ⟨calls, huart, htaken, hnothing, hring, hhelper⟩ := endUart_acts w
  unfold UARTWorker.openPort
  dsimp only
  split
  · rename_i hopen
    split
    · -- speed 0: the mode is set back, and `begin` is not called
      exact ⟨calls, ⟨huart, htaken⟩, hnothing, hring, hhelper⟩
    · generalize ByteMem.decode32 _ _ _ _ = speed
      refine ⟨calls ++ [.begin speed arg, .setTimeout 0], ⟨?_, ?_⟩, ?_, hring, hhelper⟩
      · show w.endUart.uart ++ _ = _
        rw [huart, List.append_assoc]
      · rw [exec_append_eq_some]
        exact ⟨false, htaken, congrArg some hopen.symm⟩
      · intro bytes hmem
        rcases List.mem_append.mp hmem with hold | hnew
        · exact hnothing bytes hold
        · simp at hnew
  · rename_i hclosed
    refine ⟨calls, ⟨huart, ?_⟩, hnothing, hring, hhelper⟩
    rw [htaken]
    exact congrArg some (Bool.not_eq_true _ ▸ hclosed).symm

/-- A worker before and after a call, and what the call did on the UART. -/
structure Effect (cfg : Configuration) (time : Nat) (call : Call) (w w' : UARTWorker size)
    (calls : List UartCall) : Prop extends Acts w w' calls where
  /-- What was in the ring buffer, with what was stored, was written or is there now. -/
  ring_eq : (if call.resetsRing w then [] else w.rxRingBuff.contents ++ call.stores time w) =
    calls.flatMap bytesWritten ++ w'.rxRingBuff.contents
  bounded : Bounded cfg { time := time, call := call, uart := calls }
  /-- `write` is called only when no reset lasts any more. -/
  complete : ∀ bytes, .write bytes ∈ calls →
    (w.resetHelper.resetComplete (UInt32.ofNat time)).2 = true
  starts : call.startsReset = true →
    w'.resetHelper = w.resetHelper.startReset resetTimeMS (UInt32.ofNat time)
  keeps : call.startsReset = false → w'.resetHelper = w.resetHelper ∨
    w'.resetHelper = (w.resetHelper.resetComplete (UInt32.ofNat time)).1

/-- A call that writes nothing. -/
theorem Effect.silent {cfg : Configuration} {time : Nat} {call : Call} {w w' : UARTWorker size}
    {calls : List UartCall} (hacts : Acts w w' calls) (hnothing : ∀ bytes, .write bytes ∉ calls)
    (hring : w'.rxRingBuff.contents =
      if call.resetsRing w then [] else w.rxRingBuff.contents ++ call.stores time w)
    (hhelper : w'.resetHelper = if call.startsReset then
      w.resetHelper.startReset resetTimeMS (UInt32.ofNat time) else w.resetHelper) :
    Effect cfg time call w w' calls := by
  refine ⟨hacts, ?_, ?_, fun bytes hmem => absurd hmem (hnothing bytes), fun hyes => ?_,
    fun hno => Or.inl ?_⟩
  · rw [flatMap_bytesWritten_nil hnothing, List.nil_append, hring]
  · unfold Bounded
    cases call with
    | processRX => exact Nat.le_trans (Nat.le_of_eq (congrArg List.length
        (flatMap_bytesWritten_nil hnothing))) (Nat.zero_le _)
    | processRequest | fillTXBuff | processTX => exact hnothing
  · rw [hhelper, if_pos hyes]
  · rw [hhelper, hno]
    rfl

/-- The copy loop of a Data request stores all but what it leaves over. -/
theorem store_take (hsize : size < 0x10000) (b : DataBuffer UInt8 size) (payload : List UInt8) :
    (b.store Firmware.DataBuffer.getHead payload.length payload).1.contents = b.contents ++
      payload.take (payload.length -
        (b.store Firmware.DataBuffer.getHead payload.length payload).2.length) := by
  obtain ⟨hcontents, hleft, -⟩ := DataBuffer.store_spec Firmware.DataBuffer.getHead
    (Firmware.DataBuffer.getHead_eq hsize) payload.length b payload (Nat.le_refl _)
  rw [hcontents, hleft, List.length_drop, List.take_eq_take_min (i := b.free)]
  congr 2
  omega

/-- A call that writes nothing and stores nothing. -/
theorem Effect.quiet {cfg : Configuration} {time : Nat} {call : Call} {w w' : UARTWorker size}
    {calls : List UartCall} (hacts : Acts w w' calls) (hnothing : ∀ bytes, .write bytes ∉ calls)
    (hstores : call.stores time w = [])
    (hring : w'.rxRingBuff.contents =
      if call.resetsRing w then [] else w.rxRingBuff.contents)
    (hhelper : w'.resetHelper = if call.startsReset then
      w.resetHelper.startReset resetTimeMS (UInt32.ofNat time) else w.resetHelper) :
    Effect cfg time call w w' calls := by
  refine .silent hacts hnothing ?_ hhelper
  rw [hstores, List.append_nil]
  exact hring

/-- `ProcessRequest`. -/
theorem processRequest_effect (cfg : Configuration) (hsize : size < 0x10000) (time : Nat)
    (rxDataBuff : Nat → UInt8) (request : Request) (w : UARTWorker size) :
    ∃ calls, Effect cfg time (.processRequest rxDataBuff request) w
      (w.processRequest (UInt32.ofNat time) rxDataBuff request).1 calls := by
  obtain ⟨type, arg, plSz⟩ := request
  cases type with
  | Data =>
    refine ⟨[], .silent (.nothing rfl rfl) (fun _ => List.not_mem_nil) ?_ rfl⟩
    have hstored := store_take hsize w.rxRingBuff (ByteMem.read rxDataBuff 0 plSz.toNat)
    rw [ByteMem.length_read] at hstored
    simp only [UARTWorker.processRequest, Call.resetsRing, Call.stores, ByteMem.length_read]
    exact hstored
  | Reset =>
    exact ⟨[], .quiet (.nothing rfl rfl) (fun _ => List.not_mem_nil) rfl
      (DataBuffer.contents_reset _) rfl⟩
  | ResetOpen =>
    obtain ⟨calls, hacts, hnothing, hring, hhelper⟩ :=
      openPort_acts rxDataBuff arg (w.startReset (UInt32.ofNat time))
    exact ⟨calls, .quiet ⟨hacts.uart_eq, hacts.taken⟩ hnothing rfl hring hhelper⟩
  | Open =>
    obtain ⟨calls, hacts, hnothing, hring, hhelper⟩ := openPort_acts rxDataBuff arg w
    exact ⟨calls, .quiet hacts hnothing rfl hring hhelper⟩
  | Close =>
    obtain ⟨calls, huart, htaken, hnothing, hring, hhelper⟩ := endUart_acts w
    exact ⟨calls, .quiet ⟨huart, htaken⟩ hnothing rfl hring hhelper⟩
  | NoCommand | other =>
    exact ⟨[], .quiet (.nothing rfl rfl) (fun _ => List.not_mem_nil) rfl rfl rfl⟩

/-! ## The loop of `ProcessRX` -/

/-- **The loop ends**, after no more rounds than there is room for bytes. -/
theorem drain_drainLoop (fuel uartAvail : Nat) (w : UARTWorker size) (enough : uartAvail ≤ fuel) :
    DrainLoop uartAvail w (w.drain fuel uartAvail) := by
  induction fuel generalizing uartAvail w with
  | zero =>
    rw [Nat.le_zero.mp enough]
    exact .full w
  | succ fuel ih =>
    have hmin : (if (Firmware.DataBuffer.getTail w.rxRingBuff).maxSz < uartAvail then
        (Firmware.DataBuffer.getTail w.rxRingBuff).maxSz else uartAvail) =
        min uartAvail (Firmware.DataBuffer.getTail w.rxRingBuff).maxSz := by
      split <;> omega
    simp only [UARTWorker.drain, hmin]
    split
    · rename_i hzero
      rw [hzero]
      exact .full w
    · split
      · rename_i hnothing
        exact .empty uartAvail w (by omega)
      · rename_i hsome
        exact .round uartAvail w _ (by omega) (ih _ _ (by omega))

/-- What the loop did: it wrote the oldest bytes, and took them out of the ring buffer. -/
structure Drained (uartAvail : Nat) (w w' : UARTWorker size) (calls : List UartCall) : Prop where
  uart_eq : w'.uart = w.uart ++ calls
  writes : ∀ call ∈ calls, switch call = none ∧ transfers call = true
  length_le : (calls.flatMap bytesWritten).length ≤ uartAvail
  contents_eq : w.rxRingBuff.contents = calls.flatMap bytesWritten ++ w'.rxRingBuff.contents
  curMode_eq : w'.curMode = w.curMode
  helper_eq : w'.resetHelper = w.resetHelper

theorem DrainLoop.drained {uartAvail : Nat} {w w' : UARTWorker size}
    (h : DrainLoop uartAvail w w') : ∃ calls, Drained uartAvail w w' calls := by
  induction h with
  | full w =>
    exact ⟨[], (List.append_nil _).symm, fun _ hnone => absurd hnone List.not_mem_nil,
      Nat.le_refl _, rfl, rfl, rfl⟩
  | empty uartAvail w nothing =>
    exact ⟨[], (List.append_nil _).symm, fun _ hnone => absurd hnone List.not_mem_nil,
      Nat.zero_le _, rfl, rfl, rfl⟩
  | round uartAvail w w' left next ih =>
    obtain ⟨calls, huart, hwrites, hlen, hcontents, hmode, hhelper⟩ := ih
    obtain ⟨hfits, hstored, -⟩ := w.rxRingBuff.getTail_spec
    have hnarrow : (Firmware.DataBuffer.getTail w.rxRingBuff).maxSz ≤
        w.rxRingBuff.getTail.maxSz := Nat.mod_le _ _
    generalize hsz : min uartAvail (Firmware.DataBuffer.getTail w.rxRingBuff).maxSz = sz at *
    have hle : sz ≤ w.rxRingBuff.stored ∧ w.rxRingBuff.tail + sz ≤ size := by omega
    have hcommit := (w.rxRingBuff.commit_tail_spec (Firmware.DataBuffer.getTail w.rxRingBuff) sz
      rfl hle.1 hle.2).1
    have hread : ByteMem.read w.rxRingBuff.storage
        (Firmware.DataBuffer.getTail w.rxRingBuff).buffer sz = w.rxRingBuff.contents.take sz :=
      w.rxRingBuff.read_tail sz hle.1 hle.2
    rw [hcommit] at hcontents
    rw [hread] at huart
    refine ⟨.write (w.rxRingBuff.contents.take sz) :: calls, ?_, ?_, ?_, ?_, hmode, hhelper⟩
    · rw [huart, List.append_assoc]
      rfl
    · intro call hcall
      rcases List.mem_cons.mp hcall with rfl | hrest
      · exact ⟨rfl, rfl⟩
      · exact hwrites call hrest
    · rw [List.flatMap_cons, List.length_append]
      show (w.rxRingBuff.contents.take sz).length + _ ≤ _
      rw [List.length_take]
      omega
    · rw [List.flatMap_cons, List.append_assoc, ← hcontents]
      exact (List.take_append_drop sz _).symm

/-- Calls that only transfer are taken by an open UART. -/
theorem exec_transfers {calls : List UartCall}
    (h : ∀ call ∈ calls, switch call = none ∧ transfers call = true) :
    exec port true calls = some true := by
  induction calls with
  | nil => rfl
  | cons call calls ih =>
    have htaken : port true call = some true := by
      have hcall := h call List.mem_cons_self
      cases call with
      | begin | finish => cases hcall.1
      | setTimeout => cases hcall.2
      | write | readBytes => rfl
    exact exec_cons_eq_some.mpr
      ⟨true, htaken, ih fun other hother => h other (List.mem_cons_of_mem _ hother)⟩

/-- `ProcessRX`. -/
theorem processRX_effect (cfg : Configuration) (time availableForWrite : Nat)
    (w : UARTWorker size) :
    ∃ calls, Effect cfg time (.processRX availableForWrite) w
      (w.processRX cfg (UInt32.ofNat time) availableForWrite) calls := by
  unfold UARTWorker.processRX
  dsimp only
  have hring {w' : UARTWorker size} {calls : List UartCall}
      (hcontents : w.rxRingBuff.contents =
        calls.flatMap bytesWritten ++ w'.rxRingBuff.contents) :
      (if Call.resetsRing w (.processRX availableForWrite) then [] else w.rxRingBuff.contents ++
        Call.stores time w (.processRX availableForWrite)) =
        calls.flatMap bytesWritten ++ w'.rxRingBuff.contents := by
    simp only [Call.resetsRing, Call.stores, Bool.false_eq_true, if_false, List.append_nil]
    exact hcontents
  split
  · -- a reset lasts, or the port is closed
    exact ⟨[], Acts.nothing rfl rfl, hring rfl, Nat.zero_le _,
      fun _ hnone => absurd hnone List.not_mem_nil, fun hyes => Bool.noConfusion hyes,
      fun _ => Or.inr rfl⟩
  · rename_i hgo
    simp only [Bool.or_eq_true, Bool.not_eq_true', not_or, Bool.not_eq_false] at hgo
    obtain ⟨hcomplete, hopen⟩ := hgo
    have hmin : (if cfg.portIOSize < availableForWrite then cfg.portIOSize
        else availableForWrite) = min availableForWrite cfg.portIOSize := by
      split <;> omega
    rw [hmin]
    obtain ⟨calls, huart, hwrites, hlen, hcontents, hmode, hhelper⟩ :=
      (drain_drainLoop (min availableForWrite cfg.portIOSize) _
        { w with resetHelper := (w.resetHelper.resetComplete (UInt32.ofNat time)).1 }
        (Nat.le_refl _)).drained
    refine ⟨calls, ⟨huart, ?_⟩, hring hcontents, hlen, fun _ _ => hcomplete,
      fun hyes => Bool.noConfusion hyes, fun _ => Or.inr hhelper⟩
    rw [hmode, hopen]
    exact exec_transfers hwrites

/-- `FillTXBuff`. -/
theorem fillTXBuff_effect (cfg : Configuration) (time : Nat) (reset : Bool) (input : List UInt8)
    (txDataBuff : Nat) (txBuff : Nat → UInt8) (w : UARTWorker size) :
    ∃ calls, Effect cfg time (.fillTXBuff reset input txDataBuff txBuff) w
      (w.fillTXBuff cfg reset input txDataBuff txBuff).1 calls := by
  -- `v` is the worker after the restart
  have hstart : (if reset then { w with txUsedSz := 0 } else w).uart = w.uart ∧
      (if reset then { w with txUsedSz := 0 } else w).curMode = w.curMode ∧
      (if reset then { w with txUsedSz := 0 } else w).rxRingBuff = w.rxRingBuff ∧
      (if reset then { w with txUsedSz := 0 } else w).resetHelper = w.resetHelper := by
    split
    · exact ⟨rfl, rfl, rfl, rfl⟩
    · exact ⟨rfl, rfl, rfl, rfl⟩
  unfold UARTWorker.fillTXBuff
  revert hstart
  generalize (if reset then { w with txUsedSz := 0 } else w) = v
  rintro ⟨huart, hmode, hsame, hhelper⟩
  dsimp only
  generalize (if cfg.portIOSize < cfg.dataPayloadSize - v.txUsedSz then cfg.portIOSize
    else cfg.dataPayloadSize - v.txUsedSz) = sz
  split
  · exact ⟨[], .quiet (.nothing huart hmode) (fun _ => List.not_mem_nil) rfl
      (congrArg DataBuffer.contents hsame) hhelper⟩
  · rename_i hopen
    rw [Bool.not_eq_true', Bool.not_eq_false, hmode] at hopen
    split
    · exact ⟨[], .quiet (.nothing huart hmode) (fun _ => List.not_mem_nil) rfl
        (congrArg DataBuffer.contents hsame) hhelper⟩
    · refine ⟨[.readBytes (input.take sz)], .quiet ⟨?_, ?_⟩ (fun _ => by simp) rfl
        (congrArg DataBuffer.contents hsame) hhelper⟩
      · show v.uart ++ _ = _
        rw [huart]
      · show exec port (isOpen w.curMode) _ = some (isOpen v.curMode)
        rw [hmode, hopen]
        rfl

/-- **Every call.** -/
theorem run_effect (cfg : Configuration) (hsize : size < 0x10000) (time : Nat) (call : Call)
    (w : UARTWorker size) : ∃ calls, Effect cfg time call w (call.run cfg time w) calls := by
  cases call with
  | processRequest rxDataBuff request =>
    exact processRequest_effect cfg hsize time rxDataBuff request w
  | processRX availableForWrite => exact processRX_effect cfg time availableForWrite w
  | fillTXBuff reset input txDataBuff txBuff =>
    exact fillTXBuff_effect cfg time reset input txDataBuff txBuff w
  | processTX =>
    exact ⟨[], .quiet (.nothing rfl rfl) (fun _ => List.not_mem_nil) rfl rfl rfl⟩

/-! ## Resets -/

/-- A reset that may still last is the one that the worker knows. -/
structure Lasting (s : State size) (start : Nat) : Prop where
  start_le : start ≤ s.now
  started : s.worker.resetHelper.started = true
  startTime_eq : s.worker.resetHelper.startTime = UInt32.ofNat start
  rstTime_eq : s.worker.resetHelper.rstTime = resetTimeMS
  latest : ∀ entry ∈ s.log, entry.call.startsReset = true → entry.time ≤ start

/-- Every reset is over. -/
def Over (s : State size) (time : Nat) : Prop :=
  ∀ entry ∈ s.log, entry.call.startsReset = true → entry.time + resetTimeMS.toNat ≤ time

/-- Every reset is over, or the worker knows the last one. -/
def Resetting (s : State size) : Prop := Over s s.now ∨ ∃ start, Lasting s start

/-- While the last reset lasts, `ResetComplete` says so, however often `millis()` has wrapped. -/
theorem Lasting.resetComplete {s : State size} {start time : Nat} (h : Lasting s start)
    (hnow : s.now ≤ time) (hlasts : time < start + resetTimeMS.toNat) :
    s.worker.resetHelper.resetComplete (UInt32.ofNat time) = (s.worker.resetHelper, false) := by
  have hstart := h.start_le
  have hless : UInt32.ofNat time - UInt32.ofNat start < resetTimeMS.toUInt32 := by
    rw [UInt32.lt_iff_toNat_lt, UInt32.toNat_sub, UInt32.toNat_ofNat', UInt32.toNat_ofNat',
      UInt16.toNat_toUInt32]
    omega
  unfold ResetHelper.resetComplete
  rw [h.started, h.startTime_eq, h.rstTime_eq]
  simp only [Bool.not_true, Bool.false_eq_true, if_false, if_pos hless]

/-- When `ResetComplete` says so, every reset is over. -/
theorem Resetting.over {s : State size} (h : Resetting s) {time : Nat} (hnow : s.now ≤ time)
    (hcomplete : (s.worker.resetHelper.resetComplete (UInt32.ofNat time)).2 = true) :
    Over s time := by
  rcases h with hover | ⟨start, hlasting⟩
  · intro entry hentry hstarts
    exact Nat.le_trans (hover entry hentry hstarts) hnow
  · intro entry hentry hstarts
    have hlatest := hlasting.latest entry hentry hstarts
    by_contra hlasts
    rw [hlasting.resetComplete hnow (by omega)] at hcomplete
    exact Bool.false_ne_true hcomplete

/-! ## The invariant -/

structure Working (cfg : Configuration) (s : State size) : Prop where
  uart_eq : s.worker.uart = s.log.flatMap (·.uart)
  taken : exec port false s.worker.uart = some (isOpen s.worker.curMode)
  contents_eq : s.written ++ s.worker.rxRingBuff.contents = s.stored
  times : ∀ entry ∈ s.log, entry.time ≤ s.now
  resetting : Resetting s
  waits : EachAfter Waits s.log
  bounded : ∀ entry ∈ s.log, Bounded cfg entry

theorem Working.start (cfg : Configuration) (storage : Nat → UInt8) (now : Nat) :
    Working cfg (init cfg storage now) :=
  ⟨rfl, rfl, DataBuffer.contents_create storage cfg.dataBufferSize_pos,
    fun _ hnone => absurd hnone List.not_mem_nil,
    Or.inl fun _ hnone => absurd hnone List.not_mem_nil, .nil,
    fun _ hnone => absurd hnone List.not_mem_nil⟩

theorem Working.disciplined {cfg : Configuration} {s : State size} (h : Working cfg s) :
    Disciplined cfg s := by
  obtain ⟨halternating, hopened, htransfers⟩ := accepted_of_exec h.taken
  refine ⟨h.uart_eq, halternating, ?_, htransfers, h.waits, h.bounded,
    fun uartAvail => drain_drainLoop uartAvail uartAvail s.worker (Nat.le_refl _),
    ⟨_, h.contents_eq⟩⟩
  rw [hopened, halternating.getLast?_eq]

/-- What a call leads to, with the calls that it made on the UART. -/
def State.called (s : State size) (time : Nat) (call : Call) (worker : UARTWorker size)
    (calls : List UartCall) : State size :=
  { worker := worker, now := time
    log := s.log ++ [{ time := time, call := call, uart := calls }]
    stored := if call.resetsRing s.worker then [] else s.stored ++ call.stores time s.worker
    written := if call.resetsRing s.worker then [] else s.written ++ calls.flatMap bytesWritten }

variable {cfg : Configuration} {s t : State size} {time : Nat} {call : Call}
  {worker : UARTWorker size} {calls : List UartCall}

/-- A reset goes on, ends or begins. -/
theorem Resetting.called (h : Resetting s) (times : ∀ entry ∈ s.log, entry.time ≤ s.now)
    (hnow : s.now ≤ time) (effect : Effect cfg time call s.worker worker calls) :
    Resetting (s.called time call worker calls) := by
  have hmem {entry : Entry} (hentry : entry ∈ (s.called time call worker calls).log) :
      entry ∈ s.log ∨ entry = { time := time, call := call, uart := calls } := by
    rcases List.mem_append.mp hentry with hold | hnew
    · exact Or.inl hold
    · exact Or.inr (List.mem_singleton.mp hnew)
  cases hstarts : call.startsReset with
  | true =>
    have hhelper := effect.starts hstarts
    refine Or.inr ⟨time, Nat.le_refl _, ?_, ?_, ?_, ?_⟩
    · show worker.resetHelper.started = true
      rw [hhelper]
      rfl
    · show worker.resetHelper.startTime = _
      rw [hhelper]
      rfl
    · show worker.resetHelper.rstTime = _
      rw [hhelper]
      rfl
    · intro entry hentry _
      rcases hmem hentry with hold | rfl
      · exact Nat.le_trans (times entry hold) hnow
      · exact Nat.le_refl _
  | false =>
    -- the entry of this call is not a reset
    have hover (hold : Over s time) : Over (s.called time call worker calls) time := by
      intro entry hentry hyes
      rcases hmem hentry with hentry | rfl
      · exact hold entry hentry hyes
      · exact absurd (hstarts.symm.trans hyes) Bool.false_ne_true
    rcases h with hpast | ⟨start, hlasting⟩
    · exact Or.inl (hover fun entry hentry hyes => Nat.le_trans (hpast entry hentry hyes) hnow)
    · by_cases hlasts : time < start + resetTimeMS.toNat
      · have hsame : worker.resetHelper = s.worker.resetHelper := by
          rcases effect.keeps hstarts with hkept | hcompleted
          · exact hkept
          · rw [hcompleted, hlasting.resetComplete hnow hlasts]
        refine Or.inr ⟨start, Nat.le_trans hlasting.start_le hnow, ?_, ?_, ?_, ?_⟩
        · exact (congrArg ResetHelper.started hsame).trans hlasting.started
        · exact (congrArg ResetHelper.startTime hsame).trans hlasting.startTime_eq
        · exact (congrArg ResetHelper.rstTime hsame).trans hlasting.rstTime_eq
        · intro entry hentry hyes
          rcases hmem hentry with hentry | rfl
          · exact hlasting.latest entry hentry hyes
          · exact absurd (hstarts.symm.trans hyes) Bool.false_ne_true
      · refine Or.inl (hover fun entry hentry hyes => ?_)
        have hlatest := hlasting.latest entry hentry hyes
        omega

/-- What is written is what was stored first. -/
theorem Working.contents_called (h : Working cfg s)
    (effect : Effect cfg time call s.worker worker calls) :
    (s.called time call worker calls).written ++ worker.rxRingBuff.contents =
      (s.called time call worker calls).stored := by
  have hring := effect.ring_eq
  unfold State.called
  dsimp only
  split
  · rename_i hresets
    rw [if_pos hresets] at hring
    exact (List.append_eq_nil_iff.mp hring.symm).2
  · rename_i hkeeps
    rw [if_neg hkeeps] at hring
    rw [List.append_assoc, ← hring, ← List.append_assoc, h.contents_eq]

/-- **One call.** -/
theorem Working.called (h : Working cfg s) (hnow : s.now ≤ time)
    (effect : Effect cfg time call s.worker worker calls) :
    Working cfg (s.called time call worker calls) := by
  refine ⟨?_, ?_, h.contents_called effect, ?_, h.resetting.called h.times hnow effect,
    h.waits.concat ?_, ?_⟩
  · show worker.uart =
      (s.log ++ [({ time := time, call := call, uart := calls } : Entry)]).flatMap Entry.uart
    rw [effect.uart_eq, List.flatMap_append, List.flatMap_singleton, h.uart_eq]
  · show exec port false worker.uart = _
    rw [effect.uart_eq, exec_append_eq_some]
    exact ⟨isOpen s.worker.curMode, h.taken, effect.taken⟩
  · intro entry hentry
    rcases List.mem_append.mp hentry with hold | hnew
    · exact Nat.le_trans (h.times entry hold) hnow
    · rw [List.mem_singleton.mp hnew]
      exact Nat.le_refl _
  · intro bytes hwrite
    exact h.resetting.over hnow (effect.complete bytes hwrite)
  · intro entry hentry
    rcases List.mem_append.mp hentry with hold | hnew
    · exact h.bounded entry hold
    · rw [List.mem_singleton.mp hnew]
      exact effect.bounded

theorem working_step (hsize : size < 0x10000) {e : Nat × Call} (h : Working cfg s)
    (hstep : step cfg s e = some t) : Working cfg t := by
  simp only [step, Option.ite_none_right_eq_some, Option.some.injEq] at hstep
  obtain ⟨hnow, rfl⟩ := hstep
  obtain ⟨calls, effect⟩ := run_effect cfg hsize e.1 e.2 s.worker
  have hcalls : (e.2.run cfg e.1 s.worker).uart.drop s.worker.uart.length = calls := by
    rw [effect.uart_eq, List.drop_left]
  rw [hcalls]
  exact h.called hnow effect

theorem working_of_run {cfg : Configuration} {storage : Nat → UInt8} {now : Nat}
    {es : List (Nat × Call)} {s : State cfg.dataBufferSize}
    (run : exec (step cfg) (init cfg storage now) es = some s) : Working cfg s :=
  exec_invariant (Working cfg) (fun _ _ _ h hstep => working_step cfg.dataBufferSize_lt h hstep)
    (Working.start cfg storage now) run

/-- **Every sequence of calls**, at any times, keeps the discipline. -/
theorem uart_discipline (cfg : Configuration) (storage : Nat → UInt8) (now : Nat)
    (es : List (Nat × Call)) (s : State cfg.dataBufferSize)
    (run : exec (step cfg) (init cfg storage now) es = some s) : Disciplined cfg s :=
  (working_of_run run).disciplined

/-! ## A port in use -/

/-- A request for the port, with its payload. -/
def request (type : ReqType) (arg : UInt8) (payload : List UInt8) : Call :=
  .processRequest (ByteMem.write (fun _ => 0) 0 payload) ⟨type, arg, UInt8.ofNat payload.length⟩

/-- The device is reset while data waits; 99 ms later nothing is written yet. Then the port
is opened once more with speed 0, which closes it. -/
def resetsDevice : List (Nat × Call) :=
  [(0, request .Open 6 [0, 225, 0, 0]), (5, request .Reset 1 []),
    (6, request .Data 1 [0x41, 0x42, 0x43]), (104, .processRX 64), (105, .processRX 2),
    (106, .fillTXBuff true [0x61] 10 fun _ => 0), (107, request .Open 6 [0, 0, 0, 0])]

def afterResetsDevice : State 512 :=
  (exec (step Configuration.avrPro) (init Configuration.avrPro (fun _ => 0) 0)
    resetsDevice).getD (init Configuration.avrPro (fun _ => 0) 0)

theorem uart_discipline_resetsDevice : Disciplined Configuration.avrPro afterResetsDevice ∧
    afterResetsDevice.worker.uart = [.begin 57600 6, .setTimeout 0, .write [0x41, 0x42],
      .readBytes [0x61], .finish] :=
  ⟨uart_discipline Configuration.avrPro (fun _ => 0) 0 resetsDevice afterResetsDevice
    (exec_eq_some_getD (by decide +kernel)), by decide +kernel⟩

end UartBridge.UartDiscipline
