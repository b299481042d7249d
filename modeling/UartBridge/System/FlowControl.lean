import UartBridge.Lib.Run
import UartBridge.System.PortLink

/-!
# Does the flow control keep the firmware's ring buffer from overflowing?

One port over one live TCP connection: poll ticks put packages on the wire, the
firmware stores their payload, drains it into the UART and answers with the last
counter it saw and the block bit, and the client's tracker reads from the local
client as long as its window is open.

* `fillAfter` — what the ring buffer would hold if everything on the wire arrived
  now;
* `TickFits` — what a tick reads fits on top of that;
* `never_dropped_of_fits` — then no byte is ever dropped;
* `dropped_of_not_fits` — one tick that reads more, and bytes are dropped as soon
  as the packages arrive before the UART takes anything.

The client's window is as large as the ring buffer, but counts the bytes that
have not entered it yet: what entered and has not left is only seen through the
block bit, which is set above half the size.
-/

namespace UartBridge.FlowControl

open EventRun Client Firmware

variable {size : Nat}

/-- A port's part of a package on its way to the client. -/
structure DownMsg where
  response : Firmware.Response
  slot : Nat → UInt8
  counter : UInt32

/-- `up` and `down`: the packages under way, oldest first. `slot` and `txSlot`:
the port's payload slots in the two send buffers. `echo`: the counter field of
the firmware's send buffer. `dropped`: the bytes that `ProcessRequest` could not
store so far. -/
structure State (size fwSize : Nat) where
  port : PortWorker UInt8 size
  slot : Nat → UInt8
  counter : UInt32
  up : List UpMsg
  uart : UARTWorker fwSize
  pollIntervalSetPending : Bool
  echo : UInt32
  txSlot : Nat → UInt8
  down : List DownMsg
  dropped : Nat

inductive Event where
  /-- A local client connects to this port. -/
  | portOpen (connection : ConnId)
  /-- The port worker hears of the TCP connection. -/
  | connected
  /-- A poll tick; `otherOpen`: another port puts an Open request into the same
  package. -/
  | tick (otherOpen : Bool) (input : ReadResult)
  /-- The firmware processes a package. -/
  | deliver (now : UInt32)
  /-- `UARTWorker::ProcessRX`. -/
  | drain (now : UInt32) (availableForWrite : Nat)
  /-- `FillTXBuff`, with what the UART has to read. -/
  | fillTXBuff (reset : Bool) (input : List UInt8)
  /-- The firmware sends a response. -/
  | respond
  /-- The client processes a response. -/
  | response
  deriving Repr

/-- Both sides after the start, with the connection just accepted. -/
def init (config : Config) (rxRingBuff : DataBuffer UInt8 size) {fwSize : Nat}
    (fwRingBuff : DataBuffer UInt8 fwSize) : State size fwSize :=
  { port := PortWorker.create config rxRingBuff, slot := fun _ => 0, counter := 0, up := []
    uart := UARTWorker.setup fwRingBuff, pollIntervalSetPending := true, echo := 0
    txSlot := fun _ => 0, down := [], dropped := 0 }

def step (D : Deployment) (portConfig : PortConfig) (s : State size D.cfg.dataBufferSize) :
    Event → Option (State size D.cfg.dataBufferSize)
  | .portOpen connection =>
    some { s with port := s.port.onPortOpen portConfig portConfig.portID connection }
  | .connected => some { s with port := s.port.onConnected }
  | .tick otherOpen input =>
    -- every tick sends a package, also one without a request of this port
    let counter := s.counter + 1
    let r := s.port.processTX D.config portConfig counter input
    let slot := ByteMem.write s.slot 0 r.2.2
    let openTriggered := otherOpen || r.2.1.type == .Open
    some { s with
      port := r.1
      slot := slot
      counter := counter
      up := s.up ++ [{ request := r.2.1, slot := slot
                       counter :=
                         if openTriggered then D.config.remotePollInterval else counter }] }
  | .deliver now =>
    match s.up with
    | [] => none
    | m :: up =>
      let r := m.deliver now s.uart
      some { s with
        up := up
        uart := r.1
        dropped := s.dropped + r.2
        pollIntervalSetPending := false
        -- the first package's field is taken for the poll interval
        echo := if s.pollIntervalSetPending then 0 else m.counter }
  | .drain now availableForWrite =>
    some { s with uart := s.uart.processRX D.cfg now availableForWrite }
  | .fillTXBuff reset input =>
    let r := s.uart.fillTXBuff D.cfg reset input 0 s.txSlot
    some { s with uart := r.1, txSlot := r.2 }
  | .respond =>
    some { s with
      down := s.down ++ [{ response := s.uart.processTX, slot := s.txSlot, counter := s.echo }] }
  | .response =>
    match s.down with
    | [] => none
    | m :: down =>
      some { s with
        down := down
        port := s.port.processRX (wireResponse m.response m.counter)
          (ByteMem.read m.slot 0 m.response.plSz.toNat) }

/-! ## What is on the wire -/

/-- Mode and fill after a list of requests, if nothing has to be dropped. -/
def fillAfter (up : List UpMsg) (st : UInt8 × Nat) : UInt8 × Nat :=
  up.foldl (fun st m => fill m st) st

/-- The packages fit: each can be stored as a whole when it arrives, even if the
UART takes nothing. -/
def Fits (capacity : Nat) : UInt8 × Nat → List UpMsg → Prop
  | _, [] => True
  | st, m :: up => (fill m st).2 ≤ capacity ∧ Fits capacity (fill m st) up

@[simp] theorem fillAfter_nil (st : UInt8 × Nat) : fillAfter [] st = st := rfl

theorem fillAfter_cons (m : UpMsg) (up : List UpMsg) (st : UInt8 × Nat) :
    fillAfter (m :: up) st = fillAfter up (fill m st) := rfl

theorem fillAfter_concat (up : List UpMsg) (m : UpMsg) (st : UInt8 × Nat) :
    fillAfter (up ++ [m]) st = fill m (fillAfter up st) := by
  simp [fillAfter, List.foldl_append]

/-- What fits ends within the capacity. -/
theorem Fits.fillAfter_le {capacity : Nat} {up : List UpMsg} {st : UInt8 × Nat}
    (h : Fits capacity st up) (hst : st.2 ≤ capacity) : (fillAfter up st).2 ≤ capacity := by
  induction up generalizing st with
  | nil => exact hst
  | cons m up ih => exact ih h.2 h.1

/-- One package more. -/
theorem Fits.concat {capacity : Nat} {up : List UpMsg} {st : UInt8 × Nat} {m : UpMsg}
    (h : Fits capacity st up) (hm : (fill m (fillAfter up st)).2 ≤ capacity) :
    Fits capacity st (up ++ [m]) := by
  induction up generalizing st with
  | nil => exact ⟨hm, trivial⟩
  | cons n up ih => exact ⟨h.1, ih h.2 hm⟩

/-- What fits on top of more fits on top of less. -/
theorem Fits.of_le {capacity : Nat} {up : List UpMsg} {mode : UInt8} {a b : Nat}
    (h : Fits capacity (mode, b) up) (hab : a ≤ b) : Fits capacity (mode, a) up := by
  induction up generalizing mode a b with
  | nil => trivial
  | cons m up ih =>
    exact ⟨Nat.le_trans (fill_mono m mode hab) h.1, ih h.2 (fill_mono m mode hab)⟩

/-- A request adds what it adds to less, and no more, to more. -/
theorem fill_add_le (m : UpMsg) (mode : UInt8) (a d : Nat) :
    (fill m (mode, a + d)).2 ≤ (fill m (mode, a)).2 + d := by
  unfold fill
  cases m.request.type with
  | Data => exact Nat.le_of_eq (Nat.add_right_comm a d _)
  | Reset => exact Nat.zero_le _
  | Open | Close =>
    dsimp only
    split
    · exact Nat.zero_le _
    · exact Nat.le_refl _
  | NoCommand => exact Nat.le_refl _

theorem fillAfter_add_le (up : List UpMsg) (mode : UInt8) (a d : Nat) :
    (fillAfter up (mode, a + d)).2 ≤ (fillAfter up (mode, a)).2 + d := by
  induction up generalizing mode a d with
  | nil => exact Nat.le_refl _
  | cons m up ih =>
    have hle := fill_add_le m mode a d
    -- the two fills differ by some `e` of at most `d`
    obtain ⟨e, he⟩ : ∃ e, (fill m (mode, a + d)).2 = (fill m (mode, a)).2 + e :=
      ⟨_, (Nat.add_sub_of_le (fill_mono m mode (Nat.le_add_right a d))).symm⟩
    have hih := ih (fill m (mode, a)).1 (fill m (mode, a)).2 e
    have hstep : fill m (mode, a + d) = ((fill m (mode, a)).1, (fill m (mode, a)).2 + e) :=
      Prod.ext rfl he
    rw [fillAfter_cons, fillAfter_cons, hstep]
    show _ ≤ (fillAfter up ((fill m (mode, a)).1, (fill m (mode, a)).2)).2 + d
    omega

/-! ## What a tick sends -/

/-- The number of bytes a tick reads from the local client. -/
def bytesRead (config : Config) (w : PortWorker UInt8 size) : ReadResult → Nat
  | .error _ => 0
  | .bytes avail =>
    if w.connected && !w.openPending && !w.resetPending && w.client.isSome then
      min (w.dataToRead config) avail.length
    else 0

/-- Where the worker of the port stands: its mode and how much it has stored. -/
def ringFill {fwSize : Nat} (w : UARTWorker fwSize) : UInt8 × Nat :=
  (w.curMode, w.rxRingBuff.stored)

/-- **The condition.** A tick that reads from the client reads no more than fits
into the ring buffer on top of what is stored and what is on the wire. -/
def TickFits (D : Deployment) (s : State size D.cfg.dataBufferSize) : Event → Prop
  | .tick _ input => 0 < bytesRead D.config s.port input →
    (fillAfter s.up (ringFill s.uart)).2 + bytesRead D.config s.port input <
      D.cfg.dataBufferSize
  | _ => True

instance (D : Deployment) (s : State size D.cfg.dataBufferSize) (e : Event) :
    Decidable (TickFits D s e) :=
  match e with
  | .tick _ _ => inferInstanceAs (Decidable (_ → _))
  | .portOpen _ | .connected | .deliver _ | .drain _ _ | .fillTXBuff _ _ | .respond
  | .response => inferInstanceAs (Decidable True)

/-- **What a tick's request adds to the fill** is what it read, and then it is a
Data request. -/
theorem processTX_data (D : Deployment) (portConfig : PortConfig) (counter : UInt32)
    (input : ReadResult) (w : PortWorker UInt8 size) :
    (w.processTX D.config portConfig counter input).2.1.type = .Data ∧
        0 < bytesRead D.config w input ∧
        (w.processTX D.config portConfig counter input).2.1.plSz.toNat =
          bytesRead D.config w input ∨
      (w.processTX D.config portConfig counter input).2.1.type ≠ .Data ∧
        bytesRead D.config w input = 0 := by
  have htick := w.processTX_tick D.config portConfig counter input
  generalize w.processTX D.config portConfig counter input = r at htick ⊢
  cases htick with
  | idle why =>
    refine Or.inr ⟨by simp, ?_⟩
    cases input with
    | error errno => rfl
    | bytes avail =>
      rcases why with h | h | h | ⟨errno, h⟩
      · simp [bytesRead, h]
      · simp [bytesRead, h]
      · simp [bytesRead, h]
      · cases h
  | openPort pending =>
    refine Or.inr ⟨by simp, ?_⟩
    cases input with
    | error errno => rfl
    | bytes avail => simp [bytesRead, pending]
  | reset opened pending =>
    refine Or.inr ⟨by simp, ?_⟩
    cases input with
    | error errno => rfl
    | bytes avail => simp [bytesRead, pending]
  | gone why =>
    refine Or.inr ⟨by simp, ?_⟩
    rcases why with rfl | ⟨errno, rfl⟩
    · simp [bytesRead]
    · rfl
  | data avail read connected opened announced client nonempty =>
    subst read
    have hread : bytesRead D.config w (.bytes avail) =
        (avail.take (w.dataToRead D.config)).length := by
      simp [bytesRead, connected, opened, announced, client]
    have hle : (avail.take (w.dataToRead D.config)).length ≤ D.config.portPLSize :=
      Nat.le_trans (List.length_take_le _ _) w.dataToRead_le
    rw [hread]
    exact Or.inl ⟨rfl, nonempty, D.toNat_plSz hle⟩

/-- A tick puts what it read on top of what is on the wire. -/
theorem fill_tick (D : Deployment) (portConfig : PortConfig) (counter : UInt32)
    (input : ReadResult) (w : PortWorker UInt8 size) (slot : Nat → UInt8) (field : UInt32)
    (st : UInt8 × Nat) :
    (fill { request := (w.processTX D.config portConfig counter input).2.1, slot := slot
            counter := field } st).2 ≤ st.2 + bytesRead D.config w input ∧
      (0 < bytesRead D.config w input →
        (fill { request := (w.processTX D.config portConfig counter input).2.1, slot := slot
                counter := field } st).2 = st.2 + bytesRead D.config w input) := by
  rcases processTX_data D portConfig counter input w with ⟨htype, -, hlen⟩ | ⟨htype, hzero⟩
  · have hfill : (fill { request := (w.processTX D.config portConfig counter input).2.1
                         slot := slot, counter := field } st).2 =
        st.2 + bytesRead D.config w input := by
      rw [← hlen]
      simp only [fill, htype]
    exact ⟨Nat.le_of_eq hfill, fun _ => hfill⟩
  · refine ⟨?_, fun hpos => by omega⟩
    have hle := fill_le (m := { request := (w.processTX D.config portConfig counter input).2.1
                                slot := slot, counter := field }) htype st
    omega

/-! ## Runs whose ticks fit -/

/-- What the condition keeps up: everything on the wire fits, and nothing was
dropped. -/
structure Flowing (D : Deployment) (s : State size D.cfg.dataBufferSize) : Prop where
  fits : Fits (D.cfg.dataBufferSize - 1) (ringFill s.uart) s.up
  none_dropped : s.dropped = 0

variable {D : Deployment} {portConfig : PortConfig} {s t : State size D.cfg.dataBufferSize}

theorem Flowing.start (config : Config) (rxRingBuff : DataBuffer UInt8 size)
    (fwRingBuff : DataBuffer UInt8 D.cfg.dataBufferSize) :
    Flowing D (init config rxRingBuff fwRingBuff) :=
  ⟨trivial, rfl⟩

/-- A step of the firmware that takes nothing from the wire and adds nothing to
the ring buffer. -/
theorem Flowing.relax (h : Flowing D s) (hup : t.up = s.up) (hdropped : t.dropped = s.dropped)
    (hmode : t.uart.curMode = s.uart.curMode)
    (hstored : t.uart.rxRingBuff.stored ≤ s.uart.rxRingBuff.stored) : Flowing D t := by
  refine ⟨?_, hdropped.trans h.none_dropped⟩
  have hfits := h.fits
  unfold ringFill at hfits ⊢
  rw [hup, hmode]
  exact hfits.of_le hstored

theorem Flowing.tick (h : Flowing D s) {otherOpen : Bool} {input : ReadResult}
    (hfits : TickFits D s (.tick otherOpen input))
    (hstep : step D portConfig s (.tick otherOpen input) = some t) : Flowing D t := by
  rw [step, Option.some.injEq] at hstep
  subst hstep
  refine ⟨h.fits.concat ?_, h.none_dropped⟩
  have hfill := (fill_tick D portConfig (s.counter + 1) input s.port
    (ByteMem.write s.slot 0
      (s.port.processTX D.config portConfig (s.counter + 1) input).2.2)
    (if (otherOpen ||
        (s.port.processTX D.config portConfig (s.counter + 1) input).2.1.type == .Open) = true
      then D.config.remotePollInterval else s.counter + 1)
    (fillAfter s.up (ringFill s.uart))).1
  have hbefore : (fillAfter s.up (ringFill s.uart)).2 ≤ D.cfg.dataBufferSize - 1 :=
    h.fits.fillAfter_le (Nat.le_sub_one_of_lt s.uart.rxRingBuff.stored_lt)
  have hread : (fillAfter s.up (ringFill s.uart)).2 + bytesRead D.config s.port input ≤
      D.cfg.dataBufferSize - 1 := by
    by_cases hpos : 0 < bytesRead D.config s.port input
    · exact Nat.le_sub_one_of_lt (hfits hpos)
    · omega
  exact Nat.le_trans hfill hread

/-- Mode and fill after a package that fits. -/
theorem ringFill_deliver (now : UInt32) (m : UpMsg) (w : UARTWorker D.cfg.dataBufferSize)
    (hfits : (fill m (ringFill w)).2 ≤ D.cfg.dataBufferSize - 1) :
    ringFill (m.deliver now w).1 = fill m (ringFill w) ∧ (m.deliver now w).2 = 0 := by
  obtain ⟨hstored, hleft⟩ := deliver_fill D.cfg.dataBufferSize_lt now m w
  have hmode := congrArg Prod.fst (deliver_command now m w)
  unfold ringFill at hfits ⊢
  refine ⟨Prod.ext ?_ ?_, by omega⟩
  · exact hmode.trans (command_mode_congr m w.curMode w.sessionId 0)
  · exact hstored.trans (Nat.min_eq_left hfits)

theorem Flowing.deliver (h : Flowing D s) {now : UInt32}
    (hstep : step D portConfig s (.deliver now) = some t) : Flowing D t := by
  simp only [step] at hstep
  have hfits := h.fits
  cases hup : s.up with
  | nil =>
    rw [hup] at hstep
    cases hstep
  | cons m up =>
    rw [hup, Option.some.injEq] at hstep
    subst hstep
    rw [hup] at hfits
    obtain ⟨hring, hleft⟩ := ringFill_deliver now m s.uart hfits.1
    refine ⟨?_, ?_⟩
    · show Fits _ (ringFill (m.deliver now s.uart).1) up
      rw [hring]
      exact hfits.2
    · show s.dropped + (m.deliver now s.uart).2 = 0
      rw [hleft, h.none_dropped]

/-- **One step whose tick, if it is one, fits.** -/
theorem flowing_step (h : Flowing D s) {e : Event} (hfits : TickFits D s e)
    (hstep : step D portConfig s e = some t) : Flowing D t := by
  cases e with
  | portOpen connection =>
    rw [step, Option.some.injEq] at hstep
    exact hstep ▸ h.relax rfl rfl rfl (Nat.le_refl _)
  | connected =>
    rw [step, Option.some.injEq] at hstep
    exact hstep ▸ h.relax rfl rfl rfl (Nat.le_refl _)
  | tick otherOpen input => exact h.tick hfits hstep
  | deliver now => exact h.deliver hstep
  | drain now availableForWrite =>
    rw [step, Option.some.injEq] at hstep
    obtain ⟨hmode, k, hcontents⟩ :=
      s.uart.processRX_spec D.cfg.dataBufferSize_lt D.cfg now availableForWrite
    -- what the UART takes leaves the ring buffer
    have hlen := congrArg List.length hcontents
    rw [List.length_drop, DataBuffer.length_contents, DataBuffer.length_contents] at hlen
    exact hstep ▸ h.relax rfl rfl hmode (by dsimp only; omega)
  | fillTXBuff reset input =>
    rw [step, Option.some.injEq] at hstep
    obtain ⟨hring, hmode, -⟩ := s.uart.fillTXBuff_frame D.cfg reset input 0 s.txSlot
    exact hstep ▸ h.relax rfl rfl hmode (Nat.le_of_eq (congrArg DataBuffer.stored hring))
  | respond =>
    rw [step, Option.some.injEq] at hstep
    exact hstep ▸ h.relax rfl rfl rfl (Nat.le_refl _)
  | response =>
    simp only [step] at hstep
    cases hdown : s.down with
    | nil =>
      rw [hdown] at hstep
      cases hstep
    | cons m down =>
      rw [hdown, Option.some.injEq] at hstep
      exact hstep ▸ h.relax rfl rfl rfl (Nat.le_refl _)

/-- **No byte is dropped** in a run whose ticks never read more than fits into
the ring buffer on top of what is stored and what is on the wire. -/
theorem never_dropped_of_fits (D : Deployment) (portConfig : PortConfig)
    (rxRingBuff : DataBuffer UInt8 size) (fwRingBuff : DataBuffer UInt8 D.cfg.dataBufferSize)
    (es : List Event) (s : State size D.cfg.dataBufferSize)
    (along : Along (step D portConfig) (TickFits D) (init D.config rxRingBuff fwRingBuff) es)
    (hrun : exec (step D portConfig) (init D.config rxRingBuff fwRingBuff) es = some s) :
    s.dropped = 0 :=
  (exec_invariant_along (Flowing D) (fun _ _ _ h hfits hstep => flowing_step h hfits hstep)
    (Flowing.start D.config rxRingBuff fwRingBuff) along hrun).none_dropped

/-! ## A tick that does not fit -/

/-- When everything on the wire arrives at once, what does not fit is dropped. -/
theorem deliver_all (D : Deployment) (portConfig : PortConfig) (now : UInt32)
    (s : State size D.cfg.dataBufferSize) :
    ∃ t, exec (step D portConfig) s (List.replicate s.up.length (.deliver now)) = some t ∧
      s.dropped + (fillAfter s.up (ringFill s.uart)).2 < t.dropped + D.cfg.dataBufferSize := by
  generalize hup : s.up = up
  induction up generalizing s with
  | nil =>
    have hlt := s.uart.rxRingBuff.stored_lt
    exact ⟨s, rfl, by simp only [fillAfter_nil, ringFill]; omega⟩
  | cons m up ih =>
    obtain ⟨hstored, hleft⟩ := deliver_fill D.cfg.dataBufferSize_lt now m s.uart
    have hmode := congrArg Prod.fst (deliver_command now m s.uart)
    -- the state after the first package
    have hstep : ∃ u, step D portConfig s (.deliver now) = some u ∧ u.up = up ∧
        u.uart = (m.deliver now s.uart).1 ∧ u.dropped = s.dropped + (m.deliver now s.uart).2 := by
      simp only [step, hup]
      exact ⟨_, rfl, rfl, rfl, rfl⟩
    obtain ⟨u, hu, huup, huuart, hudropped⟩ := hstep
    obtain ⟨t, ht, hle⟩ := ih u huup
    refine ⟨t, exec_cons_eq_some.mpr ⟨u, hu, ht⟩, ?_⟩
    rw [hudropped, huuart] at hle
    rw [fillAfter_cons]
    have hring : fill m (ringFill s.uart) =
        ((m.deliver now s.uart).1.curMode,
          (m.deliver now s.uart).1.rxRingBuff.stored + (m.deliver now s.uart).2) := by
      refine Prod.ext ?_ ?_
      · exact ((hmode.trans (command_mode_congr m s.uart.curMode s.uart.sessionId 0))).symm
      · unfold ringFill
        dsimp only
        omega
    have hadd := fillAfter_add_le up (m.deliver now s.uart).1.curMode
      (m.deliver now s.uart).1.rxRingBuff.stored (m.deliver now s.uart).2
    rw [hring]
    unfold ringFill at hle
    omega

/-- **A tick that reads more than fits loses data**, if the packages arrive
before the UART takes anything. -/
theorem dropped_of_not_fits (D : Deployment) (portConfig : PortConfig) (now : UInt32)
    (s : State size D.cfg.dataBufferSize) (e : Event) (hfits : ¬ TickFits D s e) :
    ∃ t u, step D portConfig s e = some t ∧
      exec (step D portConfig) t (List.replicate t.up.length (.deliver now)) = some u ∧
      s.dropped < u.dropped := by
  cases e with
  | tick otherOpen input =>
    simp only [TickFits, Classical.not_imp, Nat.not_lt] at hfits
    obtain ⟨hpos, hover⟩ := hfits
    have hstep : step D portConfig s (.tick otherOpen input) =
        some ((step D portConfig s (.tick otherOpen input)).getD s) := rfl
    obtain ⟨u, hu, hdropped⟩ := deliver_all D portConfig now
      ((step D portConfig s (.tick otherOpen input)).getD s)
    refine ⟨_, u, hstep, hu, ?_⟩
    have hfill := (fill_tick D portConfig (s.counter + 1) input s.port
      (ByteMem.write s.slot 0
        (s.port.processTX D.config portConfig (s.counter + 1) input).2.2)
      (if (otherOpen ||
          (s.port.processTX D.config portConfig (s.counter + 1) input).2.1.type == .Open) = true
        then D.config.remotePollInterval else s.counter + 1)
      (fillAfter s.up (ringFill s.uart))).2 hpos
    simp only [step, Option.getD_some, fillAfter_concat] at hdropped
    omega
  | portOpen | connected | deliver | drain | fillTXBuff | respond | response =>
    exact absurd trivial hfits

/-! ## A board with a ring buffer of 512 bytes -/

open Deployment (avrPro ring16 ring512 port57600)

def switchedOn : State 16 512 := init (avrPro false).config (ring16 0) ring512

/-- One package is stored, drained and confirmed before the next. -/
def paced : List Event :=
  [.connected, .tick false (.error .EAGAIN), .portOpen 4, .tick false (.bytes [1, 2]),
    .deliver 1, .deliver 2, .drain 3 63, .respond, .response, .tick false (.bytes [3])]

def afterPaced : State 16 512 :=
  (exec (step (avrPro false) (port57600 false 0)) switchedOn paced).getD switchedOn

/-- Such a run stays within the buffer. -/
theorem never_dropped_paced : afterPaced.dropped = 0 := by
  refine never_dropped_of_fits (avrPro false) (port57600 false 0) (ring16 0) ring512 paced
    afterPaced ?_ (exec_eq_some_getD (by decide +kernel))
  decide +kernel

/-- A tick with 128 bytes, the payload size. -/
def full : Event := .tick false (.bytes (List.replicate 128 0x55))

/-- Three such packages are on the wire, and the window still has 128 bytes left. -/
def filling : List Event :=
  [.connected, .tick false (.error .EAGAIN), .portOpen 4, full, full, full]

def afterFilling : State 16 512 :=
  (exec (step (avrPro false) (port57600 false 0)) switchedOn filling).getD switchedOn

/-- The window lets 512 bytes through to a ring buffer that holds 511. -/
theorem window_overflows :
    ¬ ∀ (es : List Event) (s : State 16 512),
      exec (step (avrPro false) (port57600 false 0)) switchedOn es = some s → s.dropped = 0 := by
  intro hall
  have hrun :
      exec (step (avrPro false) (port57600 false 0)) switchedOn filling = some afterFilling :=
    exec_eq_some_getD (by decide +kernel)
  have hfits : ¬ TickFits (avrPro false) afterFilling full := by
    intro h
    exact absurd (h (by decide +kernel)) (by decide +kernel)
  obtain ⟨t, u, hstep, hdeliver, hdropped⟩ :=
    dropped_of_not_fits (avrPro false) (port57600 false 0) 7 afterFilling full hfits
  have hzero := hall (filling ++ full :: List.replicate t.up.length (.deliver 7)) u
    (exec_append_eq_some.mpr ⟨_, hrun, exec_cons_eq_some.mpr ⟨t, hstep, hdeliver⟩⟩)
  omega

end UartBridge.FlowControl
