import Mathlib.Data.List.Forall2
import UartBridge.System.LoopPass

/-!
# What a worker collects for a response

`FillTXBuff` puts what the UART returns into the payload slot of the port, in one
go or in several. Over any pass of the loop, whatever comes from the network:

* `Collected` — the slot holds the bytes that the UART returned last;
* `collectedFrom` — the number of bytes returned before those that the next
  response may carry; it never goes back;
* `pollUARTs_polling`, `pollUARTs_collect` — a response carries the bytes from there on, and
  the next one starts where it ends;
* `loop_collect` — the same for the whole pass.
-/

namespace UartBridge

open Client Firmware

variable {size : Nat}

/-- The bytes that a call on the UART returned. -/
def Firmware.UartCall.bytesRead : UartCall → List UInt8
  | .readBytes bytes => bytes
  | .begin _ _ | .setTimeout _ | .finish | .write _ => []

/-- Everything that `readBytes` has returned to a worker, oldest first. -/
def Firmware.UARTWorker.bytesRead (w : UARTWorker size) : List UInt8 :=
  w.uart.flatMap UartCall.bytesRead

/-- What the UART of port `i` has returned so far. -/
def bytesReadAt (s : MainLoop size) (i : Nat) : List UInt8 :=
  match s.uartWorker[i]? with
  | some w => w.bytesRead
  | none => []

theorem bytesReadAt_eq {s : MainLoop size} {i : Nat} {w : UARTWorker size}
    (hw : s.uartWorker[i]? = some w) : bytesReadAt s i = w.bytesRead := by
  simp only [bytesReadAt, hw]

/-- The worker's slot holds what its UART returned last. -/
structure Collected (cfg : Configuration) (i : Nat) (w : UARTWorker size)
    (txBuff : Nat → UInt8) : Prop where
  used_le : w.txUsedSz ≤ cfg.dataPayloadSize
  last_read : ByteMem.read txBuff (cfg.slotOffset i) w.txUsedSz <:+ w.bytesRead

/-- The next `FillTXBuff` starts a new payload. -/
def Restarts (cfg : Configuration) (s : MainLoop size) : Prop :=
  cfg.ioAggregateMultiplier ≤ 1 ∨ s.segmentCounter = 0

instance (cfg : Configuration) (s : MainLoop size) : Decidable (Restarts cfg s) :=
  inferInstanceAs (Decidable (_ ∨ _))

/-- How many bytes were read before those that the next response may carry. -/
def collectedFrom (cfg : Configuration) (s : MainLoop size) (w : UARTWorker size) : Nat :=
  if Restarts cfg s then w.bytesRead.length else w.bytesRead.length - w.txUsedSz

theorem collectedFrom_le (cfg : Configuration) (s : MainLoop size) (w : UARTWorker size) :
    collectedFrom cfg s w ≤ w.bytesRead.length := by
  unfold collectedFrom
  split
  · exact Nat.le_refl _
  · exact Nat.sub_le _ _

/-- What was collected was read. -/
theorem Collected.used_le_bytesRead {cfg : Configuration} {i : Nat} {w : UARTWorker size}
    {txBuff : Nat → UInt8} (h : Collected cfg i w txBuff) : w.txUsedSz ≤ w.bytesRead.length := by
  have hlen := h.last_read.length_le
  rwa [ByteMem.length_read] at hlen

/-- The slot holds the end of what was read. -/
theorem Collected.eq_drop {cfg : Configuration} {i : Nat} {w : UARTWorker size}
    {txBuff : Nat → UInt8} (h : Collected cfg i w txBuff) :
    ByteMem.read txBuff (cfg.slotOffset i) w.txUsedSz =
      w.bytesRead.drop (w.bytesRead.length - w.txUsedSz) := by
  have hsuffix := List.suffix_iff_eq_drop.mp h.last_read
  rwa [ByteMem.length_read] at hsuffix

/-! ## Requests and draining read nothing -/

namespace Firmware.UARTWorker

theorem endUart_bytesRead (w : UARTWorker size) : w.endUart.bytesRead = w.bytesRead := by
  unfold endUart
  split
  · simp [bytesRead, UartCall.bytesRead]
  · rfl

theorem openPort_bytesRead (rxDataBuff : Nat → UInt8) (arg : UInt8) (w : UARTWorker size) :
    (w.openPort rxDataBuff arg).bytesRead = w.bytesRead := by
  rw [← endUart_bytesRead w]
  unfold openPort
  dsimp only
  split
  · split
    · rfl
    · simp [bytesRead, UartCall.bytesRead]
  · rfl

/-- A request reads nothing from the UART. -/
theorem processRequest_bytesRead (now : UInt32) (rxDataBuff : Nat → UInt8) (request : Request)
    (w : UARTWorker size) :
    (w.processRequest now rxDataBuff request).1.bytesRead = w.bytesRead := by
  unfold processRequest
  cases request.type with
  | Data | Reset | NoCommand | other => rfl
  | ResetOpen => exact openPort_bytesRead rxDataBuff request.arg (w.startReset now)
  | Open => exact openPort_bytesRead rxDataBuff request.arg w
  | Close => exact endUart_bytesRead w

/-- Draining the ring buffer reads nothing. -/
theorem drain_bytesRead (fuel uartAvail : Nat) (w : UARTWorker size) :
    (drain fuel uartAvail w).bytesRead = w.bytesRead := by
  induction fuel generalizing uartAvail w with
  | zero => rfl
  | succ fuel ih =>
    simp only [drain]
    generalize (if (Firmware.DataBuffer.getTail w.rxRingBuff).maxSz < uartAvail then
      (Firmware.DataBuffer.getTail w.rxRingBuff).maxSz else uartAvail) = sz
    split
    · rfl
    · split
      · rfl
      · rw [ih]
        simp [bytesRead, UartCall.bytesRead]

/-- `ProcessRX` reads nothing, and keeps the session. -/
theorem processRX_bytesRead (cfg : Configuration) (now : UInt32) (availableForWrite : Nat)
    (w : UARTWorker size) :
    (w.processRX cfg now availableForWrite).bytesRead = w.bytesRead ∧
      (w.processRX cfg now availableForWrite).sessionId = w.sessionId := by
  unfold processRX
  dsimp only
  split
  · exact ⟨rfl, rfl⟩
  · exact ⟨drain_bytesRead _ _ _, (drain_frame _ _ _).2.1⟩

end Firmware.UARTWorker

/-! ## Filling the slots -/

/-- The memories agree on the slot of port `j`. -/
def SlotAgree (cfg : Configuration) (j : Nat) (mem mem' : Nat → UInt8) : Prop :=
  ∀ k, k < cfg.dataPayloadSize → mem (cfg.slotOffset j + k) = mem' (cfg.slotOffset j + k)

namespace SlotAgree

variable {cfg : Configuration} {i j : Nat} {mem mem' mem'' : Nat → UInt8}

theorem refl : SlotAgree cfg j mem mem := fun _ _ => rfl

theorem trans (h : SlotAgree cfg j mem mem') (h' : SlotAgree cfg j mem' mem'') :
    SlotAgree cfg j mem mem'' := fun k hk => (h k hk).trans (h' k hk)

/-- What is written before the slots touches none of them. -/
theorem write_low {off : Nat} {xs : List UInt8} (hlow : off + xs.length ≤ cfg.metaSz + 1) :
    SlotAgree cfg j (ByteMem.write mem off xs) mem := by
  intro k _
  apply ByteMem.write_outside
  unfold Configuration.slotOffset Configuration.metaCrcSz
  omega

/-- What is written into another slot does not touch this one. -/
theorem write_slot (hij : j ≠ i) {offset : Nat} {xs : List UInt8}
    (hxs : offset + xs.length ≤ cfg.dataPayloadSize) :
    SlotAgree cfg j (ByteMem.write mem (cfg.slotOffset i + offset) xs) mem := by
  intro k hk
  have hapart := slot_apart cfg hij
  exact ByteMem.write_outside _ _ _ _ (by omega)

theorem read_eq (h : SlotAgree cfg j mem mem') {n : Nat} (hn : n ≤ cfg.dataPayloadSize) :
    ByteMem.read mem (cfg.slotOffset j) n = ByteMem.read mem' (cfg.slotOffset j) n :=
  ByteMem.read_congr fun k hk => h k (by omega)

end SlotAgree

/-- What is collected does not depend on anything but the slot. -/
theorem Collected.congr {cfg : Configuration} {i : Nat} {w w' : UARTWorker size}
    {mem mem' : Nat → UInt8} (h : Collected cfg i w mem) (agree : SlotAgree cfg i mem' mem)
    (hused : w'.txUsedSz = w.txUsedSz) (hreads : w'.bytesRead = w.bytesRead) :
    Collected cfg i w' mem' := by
  refine ⟨by rw [hused]; exact h.used_le, ?_⟩
  rw [hused, hreads, agree.read_eq h.used_le]
  exact h.last_read

/-- A worker before and after `FillTXBuff`: more was read, and it was added to
the payload, which was empty before if it was to be restarted. -/
structure Extended (reset : Bool) (w w' : UARTWorker size) : Prop where
  more : w.bytesRead <+: w'.bytesRead
  used_eq : w'.txUsedSz + w.bytesRead.length =
    (if reset then 0 else w.txUsedSz) + w'.bytesRead.length
  session_eq : w'.sessionId = w.sessionId

/-- **`FillTXBuff` of one worker.** The slot still holds what was read last. -/
theorem fillTXBuff_collect (cfg : Configuration) (reset : Bool) (input : List UInt8) {i : Nat}
    {w : UARTWorker size} {txBuff : Nat → UInt8} (h : Collected cfg i w txBuff) :
    let f := w.fillTXBuff cfg reset input (cfg.slotOffset i) txBuff
    Collected cfg i f.1 f.2 ∧ Extended reset w f.1 ∧
      ∀ j, j ≠ i → SlotAgree cfg j f.2 txBuff := by
  -- `v` is the worker after the restart
  have hstart : Collected cfg i (if reset then { w with txUsedSz := 0 } else w) txBuff ∧
      (if reset then { w with txUsedSz := 0 } else w).txUsedSz =
        (if reset then 0 else w.txUsedSz) ∧
      (if reset then { w with txUsedSz := 0 } else w).bytesRead = w.bytesRead ∧
      (if reset then { w with txUsedSz := 0 } else w).sessionId = w.sessionId := by
    cases reset with
    | false => exact ⟨h, rfl, rfl, rfl⟩
    | true => exact ⟨⟨Nat.zero_le _, List.nil_suffix⟩, rfl, rfl, rfl⟩
  unfold UARTWorker.fillTXBuff
  revert hstart
  generalize (if reset then { w with txUsedSz := 0 } else w) = v
  rintro ⟨hv, hused, hreads, hsession⟩
  have hsame : Extended reset w v :=
    ⟨⟨[], by rw [List.append_nil, hreads]⟩, by rw [hused, hreads], hsession⟩
  dsimp only
  generalize hsz : (if cfg.portIOSize < cfg.dataPayloadSize - v.txUsedSz then cfg.portIOSize
    else cfg.dataPayloadSize - v.txUsedSz) = sz
  have hle : sz ≤ cfg.dataPayloadSize - v.txUsedSz := by
    rw [← hsz]
    split <;> omega
  split
  · exact ⟨hv, hsame, fun _ _ => SlotAgree.refl⟩
  · split
    · exact ⟨hv, hsame, fun _ _ => SlotAgree.refl⟩
    · have hroom : v.txUsedSz + (input.take sz).length ≤ cfg.dataPayloadSize := by
        have hlen : (input.take sz).length ≤ sz := by
          rw [List.length_take]
          exact Nat.min_le_left _ _
        have hpayload := hv.used_le
        omega
      generalize input.take sz = bytes at hroom ⊢
      have hread : UARTWorker.bytesRead { v with
          txUsedSz := v.txUsedSz + bytes.length, uart := v.uart ++ [.readBytes bytes] } =
          w.bytesRead ++ bytes := by
        rw [← hreads]
        simp [UARTWorker.bytesRead, UartCall.bytesRead]
      refine ⟨⟨hroom, ?_⟩, ⟨?_, ?_, hsession⟩, fun j hj => SlotAgree.write_slot hj hroom⟩
      · rw [hread, ByteMem.read_write_append]
        obtain ⟨earlier, hearlier⟩ := hv.last_read
        exact ⟨earlier, by rw [← List.append_assoc, hearlier, hreads]⟩
      · rw [hread]
        exact List.prefix_append _ _
      · rw [hread, List.length_append, ← hused]
        show v.txUsedSz + bytes.length + w.bytesRead.length = _
        omega

/-- The workers from number `i` on have collected what they should. -/
def CollectedAll (cfg : Configuration) (i : Nat) (workers : List (UARTWorker size))
    (txBuff : Nat → UInt8) : Prop :=
  ∀ k w, workers[k]? = some w → Collected cfg (i + k) w txBuff

/-- The workers before and after a round of `FillTXBuff`. -/
def ExtendedAll (reset : Bool) (workers workers' : List (UARTWorker size)) : Prop :=
  List.Forall₂ (Extended reset) workers workers'

/-- **`FillTXBuff` of every worker.** -/
theorem fillTXBuffs_collect (cfg : Configuration) (reset : Bool) (uartInput : Nat → List UInt8)
    (workers : List (UARTWorker size)) (i : Nat) (txBuff : Nat → UInt8)
    (h : CollectedAll cfg i workers txBuff) :
    let f := MainLoop.fillTXBuffs cfg reset uartInput i workers txBuff
    CollectedAll cfg i f.1 f.2 ∧ ExtendedAll reset workers f.1 ∧
      ∀ j, j < i → SlotAgree cfg j f.2 txBuff := by
  induction workers generalizing i txBuff with
  | nil => exact ⟨fun k w hk => (by simp [MainLoop.fillTXBuffs] at hk), .nil, fun _ _ => .refl⟩
  | cons w ws ih =>
    obtain ⟨hhead, hext, hothers⟩ :=
      fillTXBuff_collect cfg reset (uartInput i) (h 0 w List.getElem?_cons_zero)
    rw [Nat.add_zero] at hhead hothers
    have htail : CollectedAll cfg (i + 1) ws
        (w.fillTXBuff cfg reset (uartInput i) (cfg.slotOffset i) txBuff).2 := by
      intro k v hk
      have hv := h (k + 1) v (by rw [List.getElem?_cons_succ]; exact hk)
      rw [show i + (k + 1) = i + 1 + k by omega] at hv
      exact hv.congr (hothers _ (by omega)) rfl rfl
    obtain ⟨hrest, hexts, hbefore⟩ := ih (i + 1) _ htail
    refine ⟨?_, .cons hext hexts, fun j hj => (hbefore j (by omega)).trans (hothers j (by omega))⟩
    intro k v hk
    cases k with
    | zero =>
      have hv : (w.fillTXBuff cfg reset (uartInput i) (cfg.slotOffset i) txBuff).1 = v :=
        Option.some.inj hk
      subst hv
      exact hhead.congr (hbefore i (Nat.lt_succ_self i)) rfl rfl
    | succ k =>
      have hv := hrest k v hk
      rwa [show i + 1 + k = i + (k + 1) by omega] at hv

/-! ## Responding -/

/-- The bytes of a response are what the worker has collected. -/
theorem respond_payload {cfg : Configuration} {i : Nat} {w : UARTWorker size}
    {txBuff : Nat → UInt8} (h : Collected cfg i w txBuff) :
    (MainLoop.respond cfg i w txBuff).2.response = w.processTX ∧
      (MainLoop.respond cfg i w txBuff).2.payload =
        ByteMem.read txBuff (cfg.slotOffset i) w.txUsedSz := by
  refine ⟨rfl, ?_⟩
  show ByteMem.read txBuff (cfg.slotOffset i) w.processTX.plSz.toNat = _
  rw [w.processTX_plSz cfg h.used_le]

/-- A response header lies before the slots. -/
theorem respond_slot {cfg : Configuration} {i : Nat} (hi : i < cfg.uartCount) (j : Nat)
    (w : UARTWorker size) (txBuff : Nat → UInt8) :
    SlotAgree cfg j (MainLoop.respond cfg i w txBuff).1 txBuff := by
  have hheader := header_le cfg hi
  unfold headerOffset at hheader
  refine SlotAgree.write_low ?_
  simp only [List.length_cons, List.length_nil]
  omega

/-- The responses describe the workers from number `i` on: type, tag and length
are theirs, and the payload is what they have collected. -/
def Describes (cfg : Configuration) (i : Nat) (workers : List (UARTWorker size))
    (txBuff : Nat → UInt8) (responses : List WrittenResponse) : Prop :=
  ∀ k r, responses[k]? = some r → ∃ w, workers[k]? = some w ∧ r.response = w.processTX ∧
    r.payload = ByteMem.read txBuff (cfg.slotOffset (i + k)) w.txUsedSz

/-- The loop over `WriteResponse`. -/
theorem writeResponses_collect (cfg : Configuration) (workers : List (UARTWorker size)) (i : Nat)
    (txBuff : Nat → UInt8) (hrange : i + workers.length ≤ cfg.uartCount)
    (h : CollectedAll cfg i workers txBuff) :
    let r := MainLoop.writeResponses cfg i workers txBuff
    Describes cfg i workers r.1 r.2 ∧ ∀ j, SlotAgree cfg j r.1 txBuff := by
  induction workers generalizing i txBuff with
  | nil =>
    exact ⟨fun k r hk => (by simp [MainLoop.writeResponses] at hk), fun _ => .refl⟩
  | cons w ws ih =>
    rw [List.length_cons] at hrange
    have hw := h 0 w List.getElem?_cons_zero
    rw [Nat.add_zero] at hw
    obtain ⟨hresponse, hpayload⟩ := respond_payload hw
    have hi : i < cfg.uartCount := by omega
    have hkept := fun j => respond_slot hi j w txBuff
    have htail : CollectedAll cfg (i + 1) ws (MainLoop.respond cfg i w txBuff).1 := by
      intro k v hk
      have hv := h (k + 1) v (by rw [List.getElem?_cons_succ]; exact hk)
      rw [show i + (k + 1) = i + 1 + k by omega] at hv
      exact hv.congr (hkept _) rfl rfl
    obtain ⟨hrest, hslots⟩ := ih (i + 1) _ (by omega) htail
    refine ⟨?_, fun j => (hslots j).trans (hkept j)⟩
    intro k r hk
    cases k with
    | zero =>
      have hr : (MainLoop.respond cfg i w txBuff).2 = r := Option.some.inj hk
      subst hr
      refine ⟨w, rfl, hresponse, ?_⟩
      rw [hpayload]
      exact (((hslots i).trans (hkept i)).read_eq hw.used_le).symm
    | succ k =>
      obtain ⟨v, hv, hvresponse, hvpayload⟩ := hrest k r hk
      rw [show i + 1 + k = i + (k + 1) by omega] at hvpayload
      exact ⟨v, hv, hvresponse, hvpayload⟩

/-- The loop that fills and responds port by port. -/
theorem fillAndRespond_collect (cfg : Configuration) (uartInput : Nat → List UInt8)
    (workers : List (UARTWorker size)) (i : Nat) (txBuff : Nat → UInt8)
    (hrange : i + workers.length ≤ cfg.uartCount) (h : CollectedAll cfg i workers txBuff) :
    let r := MainLoop.fillAndRespond cfg uartInput i workers txBuff
    CollectedAll cfg i r.1 r.2.1 ∧ ExtendedAll true workers r.1 ∧
      Describes cfg i r.1 r.2.1 r.2.2 ∧ ∀ j, j < i → SlotAgree cfg j r.2.1 txBuff := by
  induction workers generalizing i txBuff with
  | nil =>
    exact ⟨fun k w hk => (by simp [MainLoop.fillAndRespond] at hk), .nil,
      fun k r hk => (by simp [MainLoop.fillAndRespond] at hk), fun _ _ => .refl⟩
  | cons w ws ih =>
    rw [List.length_cons] at hrange
    obtain ⟨hfilled, hext, hfill⟩ :=
      fillTXBuff_collect cfg true (uartInput i) (h 0 w List.getElem?_cons_zero)
    rw [Nat.add_zero] at hfilled hfill hext
    have hi : i < cfg.uartCount := by omega
    have hkept := fun j => respond_slot hi j
      (w.fillTXBuff cfg true (uartInput i) (cfg.slotOffset i) txBuff).1
      (w.fillTXBuff cfg true (uartInput i) (cfg.slotOffset i) txBuff).2
    obtain ⟨hresponse, hpayload⟩ := respond_payload hfilled
    have htail : CollectedAll cfg (i + 1) ws (MainLoop.respond cfg i
        (w.fillTXBuff cfg true (uartInput i) (cfg.slotOffset i) txBuff).1
        (w.fillTXBuff cfg true (uartInput i) (cfg.slotOffset i) txBuff).2).1 := by
      intro k v hk
      have hv := h (k + 1) v (by rw [List.getElem?_cons_succ]; exact hk)
      rw [show i + (k + 1) = i + 1 + k by omega] at hv
      exact hv.congr ((hkept _).trans (hfill _ (by omega))) rfl rfl
    obtain ⟨hrest, hexts, hdescribes, hbefore⟩ := ih (i + 1) _ (by omega) htail
    have hslot := (hbefore i (Nat.lt_succ_self i)).trans (hkept i)
    refine ⟨?_, .cons hext hexts, ?_, fun j hj =>
      (hbefore j (by omega)).trans ((hkept j).trans (hfill j (by omega)))⟩
    · intro k v hk
      cases k with
      | zero =>
        have hv := Option.some.inj hk
        subst hv
        exact hfilled.congr hslot rfl rfl
      | succ k =>
        have hv := hrest k v hk
        rwa [show i + 1 + k = i + (k + 1) by omega] at hv
    · intro k r hk
      cases k with
      | zero =>
        have hr := Option.some.inj hk
        subst hr
        refine ⟨_, rfl, hresponse, ?_⟩
        rw [hpayload]
        exact (hslot.read_eq hfilled.used_le).symm
      | succ k =>
        obtain ⟨v, hv, hvresponse, hvpayload⟩ := hdescribes k r hk
        rw [show i + 1 + k = i + (k + 1) by omega] at hvpayload
        exact ⟨v, hv, hvresponse, hvpayload⟩

/-- What is sent at the end of a pass, if anything, is the sealed send buffer:
a part of it or all of it over TCP, or all of it in a datagram. -/
structure Sends (cfg : Configuration) (before after : Nat → UInt8) (sent : List UInt8)
    (datagram : Option SentPacket) : Prop where
  apart : ∀ a, 2 ≤ a → a ≠ cfg.metaSz → after a = before a
  over_tcp : sent ≠ [] → datagram = none ∧ sent = ByteMem.read after 0 sent.length ∧
    ∃ header, after = sealPackage cfg.metaSz header before
  over_udp : ∀ d, datagram = some d → sent = [] ∧
    d.bytes = ByteMem.read after 0 cfg.packageSize ∧
    ∃ header, after = sealPackage cfg.metaSz header before

theorem Sends.slot {cfg : Configuration} {before after : Nat → UInt8} {sent : List UInt8}
    {datagram : Option SentPacket} (h : Sends cfg before after sent datagram) (j : Nat) :
    SlotAgree cfg j after before := by
  intro k _
  have hmeta := metaSz_lt_slot cfg j
  have hpos : 6 ≤ cfg.metaSz := Nat.le_add_right _ _
  exact h.apart _ (by omega) (by omega)

/-- **The end of a pass.** -/
theorem transmit_sends (cfg : Configuration) (input : LoopInput) (s : MainLoop size) :
    let t := s.transmit cfg input
    Sends cfg s.txBuff t.1.txBuff t.2.1 t.2.2 ∧ t.1.segmentCounter = s.segmentCounter := by
  unfold MainLoop.transmit
  dsimp only
  split
  · exact ⟨⟨fun _ _ _ => rfl, fun h => absurd rfl h, fun d h => (by cases h)⟩, rfl⟩
  · generalize hu : s.udpServer.processTX cfg.packageSize cfg.metaSz input.udpBeginPacket
      s.txBuff = u
    unfold UDPServer.processTX at hu
    split at hu
    · -- no datagram: the package goes out over TCP, as far as `write` takes it
      subst hu
      obtain ⟨-, hbytes⟩ := TCPServer.writeLoop_spec cfg.packageSize
        (sealPackage cfg.metaSz 0 s.txBuff) input.tcpWrites cfg.packageSize (Nat.le_refl _)
      refine ⟨⟨fun a ha hne => sealPackage_apart 0 s.txBuff a ha hne, fun _ => ⟨rfl, ?_, 0, rfl⟩,
        fun d h => (by cases h)⟩, rfl⟩
      rw [Nat.sub_self] at hbytes
      show (TCPServer.writeLoop cfg.packageSize (sealPackage cfg.metaSz 0 s.txBuff)
        input.tcpWrites cfg.packageSize).1 = ByteMem.read (sealPackage cfg.metaSz 0 s.txBuff) 0
          (TCPServer.writeLoop cfg.packageSize (sealPackage cfg.metaSz 0 s.txBuff)
            input.tcpWrites cfg.packageSize).1.length
      rw [hbytes, ByteMem.length_read]
    · subst hu
      refine ⟨⟨fun a ha hne => sealPackage_apart s.udpServer.clientSeq s.txBuff a ha hne,
        fun h => absurd rfl h, ?_⟩, rfl⟩
      intro d hd
      have hd' := Option.some.inj hd
      subst hd'
      exact ⟨rfl, rfl, s.udpServer.clientSeq, rfl⟩

/-! ## The poll -/

/-- A worker before and after a poll that filled its slot: what it has collected
now is everything read from `collectedFrom` on. -/
structure Filled (cfg : Configuration) (s : MainLoop size) (w w' : UARTWorker size) : Prop where
  more : w.bytesRead <+: w'.bytesRead
  reads_eq : w'.bytesRead.length = collectedFrom cfg s w + w'.txUsedSz
  session_eq : w'.sessionId = w.sessionId

/-- What `Extended` says, in terms of `collectedFrom`. -/
theorem Extended.filled {cfg : Configuration} {s : MainLoop size} {i : Nat} {reset : Bool}
    {w w' : UARTWorker size} (hreset : reset = true ↔ Restarts cfg s)
    (hcollected : Collected cfg i w s.txBuff) (h : Extended reset w w') : Filled cfg s w w' := by
  have hused := h.used_eq
  have hle := hcollected.used_le_bytesRead
  refine ⟨h.more, ?_, h.session_eq⟩
  unfold collectedFrom
  by_cases hrestarts : Restarts cfg s
  · rw [if_pos hrestarts]
    rw [if_pos (hreset.mpr hrestarts)] at hused
    omega
  · rw [if_neg hrestarts]
    rw [if_neg (fun h => hrestarts (hreset.mp h))] at hused
    omega

/-- `CollectedAll` and a relation between the workers meet at each worker. -/
theorem ExtendedAll.filled {cfg : Configuration} {s : MainLoop size} {reset : Bool}
    {workers' : List (UARTWorker size)} (hreset : reset = true ↔ Restarts cfg s)
    (hcollected : CollectedAll cfg 0 s.uartWorker s.txBuff)
    (h : ExtendedAll reset s.uartWorker workers') :
    List.Forall₂ (Filled cfg s) s.uartWorker workers' := by
  rw [ExtendedAll, List.forall₂_iff_get] at h
  rw [List.forall₂_iff_get]
  refine ⟨h.1, fun k hk hk' => (h.2 k hk hk').filled hreset (hcollected k _ ?_)⟩
  rw [List.getElem?_eq_getElem hk]
  rfl

/-- The workers have collected what they should, and there is one for each port. -/
structure Collecting (cfg : Configuration) (s : MainLoop size) : Prop where
  workers_len : s.uartWorker.length = cfg.uartCount
  collected : CollectedAll cfg 0 s.uartWorker s.txBuff

/-- A poll that filled the slots. -/
structure Polled (cfg : Configuration) (s t : MainLoop size) : Prop where
  collecting : Collecting cfg t
  filled : List.Forall₂ (Filled cfg s) s.uartWorker t.uartWorker

/-- The state after a response: the responses describe the workers, the client
reads them in the send buffer, and the next payloads start anew. -/
structure Responded (D : Deployment) (t : MainLoop size) (responses : List WrittenResponse)
    (sent : List UInt8) (datagram : Option SentPacket) : Prop where
  restarts : Restarts D.cfg t
  describes : Describes D.cfg 0 t.uartWorker t.txBuff responses
  responses_len : responses.length = D.cfg.uartCount
  pair_eq : ∀ k r, responses[k]? = some r → downlinkPair D.config k t.txBuff = r.pair ∧
    (t.txBuff (headerOffset k + 2)).toNat ≤ D.cfg.dataPayloadSize
  sends : ∃ before, Sends D.cfg before t.txBuff sent datagram

/-- The responses written into the buffer are still there when it was sealed. -/
theorem Responded.of_transmit {D : Deployment} {s v : MainLoop size} {before : Nat → UInt8}
    {responses : List WrittenResponse} (input : LoopInput)
    (hlen : v.uartWorker.length = D.cfg.uartCount)
    (hfilled : List.Forall₂ (Filled D.cfg s) s.uartWorker v.uartWorker)
    (hcollected : CollectedAll D.cfg 0 v.uartWorker v.txBuff) (hrestarts : Restarts D.cfg v)
    (hdescribes : Describes D.cfg 0 v.uartWorker v.txBuff responses)
    (hwritten : Written D 0 D.cfg.uartCount before v.txBuff responses) :
    let t := v.transmit D.cfg input
    Polled D.cfg s t.1 ∧ Responded D t.1 responses t.2.1 t.2.2 := by
  obtain ⟨hsends, hsegment⟩ := transmit_sends D.cfg input v
  have hworkers := transmit_uartWorker D.cfg input v
  dsimp only
  refine ⟨⟨⟨by rw [hworkers, hlen], ?_⟩, by rw [hworkers]; exact hfilled⟩, ?_, ?_,
    hwritten.length_eq, ?_, v.txBuff, hsends⟩
  · intro k w hk
    rw [hworkers] at hk
    exact (hcollected k w hk).congr (hsends.slot _) rfl rfl
  · unfold Restarts
    rw [hsegment]
    exact hrestarts
  · intro k r hk
    obtain ⟨w, hw, hresponse, hpayload⟩ := hdescribes k r hk
    refine ⟨w, by rw [hworkers]; exact hw, hresponse, ?_⟩
    rw [hpayload, (hsends.slot _).read_eq (hcollected k w hw).used_le]
  · intro k r hk
    obtain ⟨hpair, hsize⟩ := hwritten.pair_eq k r hk
    rw [Nat.zero_add] at hpair hsize
    have hk' : k < D.cfg.uartCount := by
      rw [← hwritten.length_eq]
      exact (List.getElem?_eq_some_iff.mp hk).1
    have hagree : PortAgree D.cfg k (v.transmit D.cfg input).1.txBuff v.txBuff :=
      PortAgree.of_agree hk' fun a hlow hne _ => hsends.apart a (by omega) hne
    have hbyte := hagree.header_eq 2 (by omega)
    exact ⟨(hagree.downlinkPair_eq (by rw [hbyte]; exact hsize)).trans hpair,
      by rw [hbyte]; exact hsize⟩

/-- The segments that a response has after the next poll. -/
def segments (cfg : Configuration) (s : MainLoop size) : Nat :=
  if 1 < cfg.ioAggregateMultiplier then (s.segmentCounter + 1).toNat else 1

/-- The three ways through the poll. -/
inductive Polling (D : Deployment) (input : LoopInput) (s : MainLoop size) :
    MainLoop size × List WrittenResponse × List UInt8 × Option SentPacket → Prop where
  /-- The interval is not over. -/
  | idle (waiting : s.pollTimer.update input.micros = false) : Polling D input s (s, [], [], none)
  /-- Every slot is filled, and the response needs more segments. -/
  | segment (due : s.pollTimer.update input.micros = true)
      (unfinished : segments D.cfg s < D.cfg.ioAggregateMultiplier) {t : MainLoop size}
      (polled : Polled D.cfg s t) (counter_eq : t.segmentCounter = s.segmentCounter + 1) :
      Polling D input s (t, [], [], none)
  /-- Every slot is filled, and a response goes out. -/
  | response (due : s.pollTimer.update input.micros = true)
      (finished : D.cfg.ioAggregateMultiplier ≤ segments D.cfg s) {t : MainLoop size}
      {responses : List WrittenResponse} {sent : List UInt8} {datagram : Option SentPacket}
      (polled : Polled D.cfg s t)
      (counter_eq : 1 < D.cfg.ioAggregateMultiplier → t.segmentCounter = 0)
      (responded : Responded D t responses sent datagram) :
      Polling D input s (t, responses, sent, datagram)

/-- **What a poll does.** -/
theorem pollUARTs_polling {D : Deployment} {s : MainLoop size} (input : LoopInput)
    (h : Collecting D.cfg s) : Polling D input s (s.pollUARTs D.cfg input) := by
  have hlen := h.workers_len
  unfold MainLoop.pollUARTs
  dsimp only
  split
  · rename_i hwaiting
    exact .idle (by simpa using hwaiting)
  · rename_i hdue
    have hdue : s.pollTimer.update input.micros = true := by simpa using hdue
    split
    · -- `IO_AGGREGATE_MULTIPLIER` above 1
      rename_i hmultiple
      have hsegments : segments D.cfg s = (s.segmentCounter + 1).toNat := if_pos hmultiple
      have hreset : (decide (s.segmentCounter + 1 = 1)) = true ↔ Restarts D.cfg s := by
        rw [decide_eq_true_eq]
        constructor
        · intro hone
          exact Or.inr ((UInt8.add_left_inj 1).mp hone)
        · rintro (hsmall | hzero)
          · omega
          · rw [hzero]
            rfl
      obtain ⟨hcollected, hextended, -⟩ := fillTXBuffs_collect D.cfg
        (decide (s.segmentCounter + 1 = 1)) input.uartInput s.uartWorker 0 s.txBuff h.collected
      have hfilled := hextended.filled hreset h.collected
      have hlen' := hfilled.length_eq.symm.trans hlen
      have hused : ∀ w ∈ (MainLoop.fillTXBuffs D.cfg (decide (s.segmentCounter + 1 = 1))
          input.uartInput 0 s.uartWorker s.txBuff).1, w.txUsedSz ≤ D.cfg.dataPayloadSize := by
        intro w hw
        obtain ⟨k, hk⟩ := List.mem_iff_getElem?.mp hw
        exact (hcollected k w hk).used_le
      split
      · rename_i hunfinished
        exact .segment hdue (by rw [hsegments]; exact hunfinished)
          ⟨⟨hlen', hcollected⟩, hfilled⟩ rfl
      · rename_i hfinished
        obtain ⟨hdescribes, hslots⟩ := writeResponses_collect D.cfg _ 0
          (MainLoop.fillTXBuffs D.cfg (decide (s.segmentCounter + 1 = 1)) input.uartInput 0
            s.uartWorker s.txBuff).2 (Nat.le_of_eq (by rw [hlen', Nat.zero_add])) hcollected
        have hwritten := writeResponses_spec (D := D) _ 0
          (MainLoop.fillTXBuffs D.cfg (decide (s.segmentCounter + 1 = 1)) input.uartInput 0
            s.uartWorker s.txBuff).2 (Nat.le_of_eq (by rw [hlen', Nat.zero_add])) hused
        rw [hlen'] at hwritten
        refine And.elim (fun hpolled hresponded => .response hdue
          (by rw [hsegments]; exact Nat.not_lt.mp hfinished) hpolled
          (fun _ => (transmit_sends D.cfg input _).2) hresponded) ?_
        exact Responded.of_transmit input hlen' hfilled
          (fun k w hk => (hcollected k w hk).congr (hslots _) rfl rfl) (Or.inr rfl) hdescribes
          hwritten
    · rename_i hsingle
      have hsegments : segments D.cfg s = 1 := if_neg hsingle
      obtain ⟨hcollected, hextended, hdescribes, -⟩ := fillAndRespond_collect D.cfg
        input.uartInput s.uartWorker 0 s.txBuff
        (Nat.le_of_eq (by rw [hlen, Nat.zero_add])) h.collected
      have hrestarts : Restarts D.cfg s := Or.inl (Nat.not_lt.mp hsingle)
      have hfilled := hextended.filled (iff_of_true rfl hrestarts) h.collected
      have hwritten := fillAndRespond_spec (D := D) input.uartInput s.uartWorker 0 s.txBuff
        (Nat.le_of_eq (by rw [hlen, Nat.zero_add])) fun w hw => by
          obtain ⟨k, hk⟩ := List.mem_iff_getElem?.mp hw
          exact (h.collected k w hk).used_le
      rw [hlen] at hwritten
      refine And.elim (fun hpolled hresponded => .response hdue
        (by rw [hsegments]; exact Nat.not_lt.mp hsingle) hpolled
        (fun hmultiple => absurd hmultiple hsingle) hresponded) ?_
      exact Responded.of_transmit input (hfilled.length_eq.symm.trans hlen) hfilled hcollected
        (Or.inl (Nat.not_lt.mp hsingle)) hdescribes hwritten

/-- Nothing, or every slot is filled, and then perhaps a response goes out. -/
theorem pollUARTs_collect {D : Deployment} {s : MainLoop size} (input : LoopInput)
    (h : Collecting D.cfg s) :
    let p := s.pollUARTs D.cfg input
    p = (s, [], [], none) ∨ (Polled D.cfg s p.1 ∧ p.2 = ([], [], none)) ∨
      (Polled D.cfg s p.1 ∧ Responded D p.1 p.2.1 p.2.2.1 p.2.2.2) := by
  have hpolling := pollUARTs_polling input h
  generalize s.pollUARTs D.cfg input = p at hpolling ⊢
  cases hpolling with
  | idle => exact Or.inl rfl
  | segment due unfinished polled => exact Or.inr (Or.inl ⟨polled, rfl⟩)
  | response due finished polled counter_eq responded => exact Or.inr (Or.inr ⟨polled, responded⟩)

/-! ## The pass -/

/-- The session after a request. -/
def Firmware.Request.session (request : Firmware.Request) (session : UInt8) : UInt8 :=
  match request.type with
  | .Reset => request.arg
  | .Open | .ResetOpen => 0
  | .Close | .Data | .NoCommand | .other _ => session

theorem Firmware.UARTWorker.processRequest_session (now : UInt32) (rxDataBuff : Nat → UInt8)
    (request : Firmware.Request) (w : UARTWorker size) :
    (w.processRequest now rxDataBuff request).1.sessionId = request.session w.sessionId := by
  have hopen (v : UARTWorker size) : (v.openPort rxDataBuff request.arg).sessionId = 0 := by
    unfold UARTWorker.openPort
    dsimp only
    split
    · split <;> rfl
    · rfl
  unfold UARTWorker.processRequest Firmware.Request.session
  cases request.type with
  | Data | Reset | NoCommand | other => rfl
  | Open | ResetOpen => exact hopen _
  | Close =>
    show w.endUart.sessionId = w.sessionId
    unfold UARTWorker.endUart
    split <;> rfl

/-- The request that worker number `k` gets in this pass, if it gets one. -/
def requestOf (cfg : Configuration) (s : MainLoop size) (input : LoopInput) (k : Nat) :
    Option Firmware.Request :=
  match (s.receive cfg input).2.1 with
  | .NewRequest _ => some (mapRequest k (s.receive cfg input).1.rxBuff)
  | .NoEvent _ | .Connected _ | .Disconnected _ => none

/-- A worker before and after the part of the pass that comes before the poll. -/
structure Served (request : Option Firmware.Request) (w v : UARTWorker size) : Prop where
  reads_eq : v.bytesRead = w.bytesRead
  used_eq : v.txUsedSz = w.txUsedSz
  session_eq : v.sessionId = match request with
    | some r => r.session w.sessionId
    | none => w.sessionId

/-- Draining the ring buffer afterwards changes nothing of this. -/
theorem Served.drain {request : Option Firmware.Request} {w v : UARTWorker size}
    (h : Served request w v) (cfg : Configuration) (now : UInt32) (availableForWrite : Nat) :
    Served request w (v.processRX cfg now availableForWrite) := by
  obtain ⟨hdrained, hkept⟩ := v.processRX_bytesRead cfg now availableForWrite
  exact ⟨hdrained.trans h.reads_eq, (v.processRX_txUsedSz cfg _ _).trans h.used_eq,
    hkept.trans h.session_eq⟩

/-- The two servers' turn keeps workers and send buffer; at most the collection
is restarted. -/
theorem receive_collect (cfg : Configuration) (input : LoopInput) (s : MainLoop size) :
    (s.receive cfg input).1.txBuff = s.txBuff ∧
      (Restarts cfg s → Restarts cfg (s.receive cfg input).1) := by
  unfold MainLoop.receive MainLoop.controlEvent
  dsimp only
  split
  · refine ⟨rfl, ?_⟩
    rintro (hsingle | hzero)
    · exact Or.inl hsingle
    · refine Or.inr ?_
      dsimp only
      split
      · rfl
      · exact hzero
  · exact ⟨rfl, id⟩
  · exact ⟨rfl, id⟩
  · exact ⟨rfl, id⟩

/-- The counter of a new package touches neither slots nor workers. -/
theorem takeCounter_collect (cfg : Configuration) (micros : UInt32) (s : MainLoop size) :
    (s.takeCounter cfg micros).uartWorker = s.uartWorker ∧
      (s.takeCounter cfg micros).segmentCounter = s.segmentCounter ∧
      ∀ j, SlotAgree cfg j (s.takeCounter cfg micros).txBuff s.txBuff := by
  have hlow (mem : Nat → UInt8) {xs : List UInt8} (hxs : xs.length = 4) (j : Nat) :
      SlotAgree cfg j (ByteMem.write mem Configuration.pkgCntOffset xs) mem := by
    refine SlotAgree.write_low ?_
    rw [hxs]
    simp only [Configuration.pkgCntOffset, Configuration.metaSz, Configuration.pkgHdrSz]
    omega
  unfold MainLoop.takeCounter
  dsimp only
  split
  · exact ⟨rfl, rfl, fun j => (hlow _ rfl j).trans (hlow _ (ByteMem.length_read _ _ _) j)⟩
  · exact ⟨rfl, rfl, hlow _ (ByteMem.length_read _ _ _)⟩

/-- A new package's requests. -/
theorem handle_collect (cfg : Configuration) (input : LoopInput) (s : MainLoop size) :
    let r := s.receive cfg input
    let h := r.1.handle cfg input r.2.1
    h.uartWorker.length = s.uartWorker.length ∧ (∀ j, SlotAgree cfg j h.txBuff s.txBuff) ∧
      h.segmentCounter = r.1.segmentCounter ∧ ∀ k v, h.uartWorker[k]? = some v →
        ∃ w, s.uartWorker[k]? = some w ∧ Served (requestOf cfg s input k) w v := by
  obtain ⟨htx, -⟩ := receive_collect cfg input s
  have hworkers := receive_uartWorker cfg input s
  -- without a new package nothing happens here
  have hidle (hhandle : (s.receive cfg input).1.handle cfg input (s.receive cfg input).2.1 =
      (s.receive cfg input).1) (hnone : ∀ k, requestOf cfg s input k = none) :
      let h := (s.receive cfg input).1.handle cfg input (s.receive cfg input).2.1
      h.uartWorker.length = s.uartWorker.length ∧ (∀ j, SlotAgree cfg j h.txBuff s.txBuff) ∧
        h.segmentCounter = (s.receive cfg input).1.segmentCounter ∧
        ∀ k v, h.uartWorker[k]? = some v →
          ∃ w, s.uartWorker[k]? = some w ∧ Served (requestOf cfg s input k) w v := by
    rw [hhandle]
    refine ⟨congrArg List.length hworkers, fun j => by rw [htx]; exact SlotAgree.refl, rfl, ?_⟩
    intro k v hk
    rw [hworkers] at hk
    exact ⟨v, hk, rfl, rfl, by rw [hnone k]⟩
  cases hevent : (s.receive cfg input).2.1 with
  | NoEvent => exact hidle (by rw [hevent]; rfl) fun k => by simp only [requestOf, hevent]
  | Connected => exact hidle (by rw [hevent]; rfl) fun k => by simp only [requestOf, hevent]
  | Disconnected => exact hidle (by rw [hevent]; rfl) fun k => by simp only [requestOf, hevent]
  | NewRequest data =>
    obtain ⟨hcounted, hsegment, hslot⟩ := takeCounter_collect cfg input.micros
      { (s.receive cfg input).1 with
        uartWorker := MainLoop.processRequests cfg input.millis (s.receive cfg input).1.rxBuff
          (s.receive cfg input).1.uartWorker }
    simp only [MainLoop.handle, hevent]
    refine ⟨?_, fun j => (hslot j).trans (by rw [htx]; exact SlotAgree.refl), hsegment, ?_⟩
    · rw [hcounted]
      simp only [MainLoop.processRequests, hworkers, List.length_mapIdx]
    · intro k v hk
      rw [hcounted] at hk
      simp only [MainLoop.processRequests, hworkers, List.getElem?_mapIdx,
        Option.map_eq_some_iff] at hk
      obtain ⟨w, hw, rfl⟩ := hk
      have hrequest : requestOf cfg s input k =
          some (mapRequest k (s.receive cfg input).1.rxBuff) := by
        simp only [requestOf, hevent]
      exact ⟨w, hw, w.processRequest_bytesRead _ _ _, w.processRequest_txUsedSz _ _ _,
        by rw [hrequest]; exact w.processRequest_session _ _ _⟩

/-- The state in which a pass comes to the poll. -/
def beforePoll (cfg : Configuration) (input : LoopInput) (s : MainLoop size) : MainLoop size :=
  let r := s.receive cfg input
  let h := r.1.handle cfg input r.2.1
  { h with uartWorker := MainLoop.processUARTs cfg input h.uartWorker }

/-- The rest of the pass is the poll. -/
theorem loop_poll {cfg : Configuration} {s : MainLoop size} {input : LoopInput} {p : Pass size}
    (hp : s.loop cfg input = some p) :
    p.state = ((beforePoll cfg input s).pollUARTs cfg input).1 ∧
      (p.responses, p.sent, p.datagram) = ((beforePoll cfg input s).pollUARTs cfg input).2 := by
  unfold MainLoop.loop at hp
  split at hp
  · cases hp
  · rw [Option.some.injEq] at hp
    subst hp
    exact ⟨rfl, rfl⟩

/-- The event and the bytes read are those of the servers' turn. -/
theorem loop_event {cfg : Configuration} {s : MainLoop size} {input : LoopInput} {p : Pass size}
    (hp : s.loop cfg input = some p) :
    p.event = (s.receive cfg input).2.1 ∧ p.consumed = (s.receive cfg input).2.2 := by
  unfold MainLoop.loop at hp
  split at hp
  · cases hp
  · rw [Option.some.injEq] at hp
    subst hp
    exact ⟨rfl, rfl⟩

/-- **What a pass does before the poll.** -/
theorem serve_collect {cfg : Configuration} {s : MainLoop size} (input : LoopInput)
    (hcollecting : Collecting cfg s) :
    let v := beforePoll cfg input s
    Collecting cfg v ∧ (Restarts cfg s → Restarts cfg v) ∧ ∀ k w', v.uartWorker[k]? = some w' →
      ∃ w, s.uartWorker[k]? = some w ∧ Served (requestOf cfg s input k) w w' := by
  obtain ⟨-, hrestarts⟩ := receive_collect cfg input s
  obtain ⟨hlen, hslot, hsegment, hserved⟩ := handle_collect cfg input s
  unfold beforePoll
  dsimp only
  generalize (s.receive cfg input).1.handle cfg input (s.receive cfg input).2.1 = h at *
  have hdrained : ∀ k w', (MainLoop.processUARTs cfg input h.uartWorker)[k]? = some w' →
      ∃ w, s.uartWorker[k]? = some w ∧ Served (requestOf cfg s input k) w w' := by
    intro k w' hk
    unfold MainLoop.processUARTs at hk
    rw [List.getElem?_mapIdx, Option.map_eq_some_iff] at hk
    obtain ⟨v, hv, rfl⟩ := hk
    obtain ⟨w, hw, hwv⟩ := hserved k v hv
    exact ⟨w, hw, hwv.drain cfg input.millis (input.availableForWrite k)⟩
  refine ⟨⟨?_, ?_⟩, ?_, hdrained⟩
  · show (MainLoop.processUARTs cfg input h.uartWorker).length = _
    unfold MainLoop.processUARTs
    rw [List.length_mapIdx, hlen, hcollecting.workers_len]
  · intro k w' hk
    obtain ⟨w, hw, hserved⟩ := hdrained k w' hk
    exact (hcollecting.collected k w hw).congr (hslot _) hserved.used_eq hserved.reads_eq
  · intro hs
    have hr := hrestarts hs
    unfold Restarts at hr ⊢
    rwa [← hsegment] at hr

/-- A worker before and after a pass. -/
structure Passed (cfg : Configuration) (s t : MainLoop size) (request : Option Firmware.Request)
    (w w' : UARTWorker size) : Prop where
  more : w.bytesRead <+: w'.bytesRead
  session_eq : w'.sessionId = match request with
    | some r => r.session w.sessionId
    | none => w.sessionId
  from_le : collectedFrom cfg s w ≤ collectedFrom cfg t w'

/-- Every payload of the responses is what was read since `collectedFrom`. -/
def Fresh (cfg : Configuration) (s t : MainLoop size) : Prop :=
  ∀ (k : Nat) (w w' : UARTWorker size), s.uartWorker[k]? = some w → t.uartWorker[k]? = some w' →
    collectedFrom cfg s w + w'.txUsedSz ≤ w'.bytesRead.length

theorem Served.from_le {cfg : Configuration} {s v : MainLoop size}
    {request : Option Firmware.Request} {w w' : UARTWorker size} (h : Served request w w')
    (hrestarts : Restarts cfg s → Restarts cfg v) :
    collectedFrom cfg s w ≤ collectedFrom cfg v w' := by
  unfold collectedFrom
  rw [h.reads_eq, h.used_eq]
  by_cases hs : Restarts cfg s
  · exact Nat.le_of_eq (by rw [if_pos hs, if_pos (hrestarts hs)])
  · rw [if_neg hs]
    split
    · exact Nat.sub_le _ _
    · exact Nat.le_refl _

/-- What is collected after the poll was read after what was collected before. -/
theorem Filled.from_le {cfg : Configuration} {s t : MainLoop size} {w w' : UARTWorker size}
    (h : Filled cfg s w w') : collectedFrom cfg s w ≤ collectedFrom cfg t w' := by
  have hreads := h.reads_eq
  generalize collectedFrom cfg s w = start at hreads ⊢
  unfold collectedFrom
  split
  · omega
  · omega

/-- Two related lists, place by place. -/
theorem forall₂_getElem? {α β : Type} {R : α → β → Prop} {as : List α} {bs : List β}
    (h : List.Forall₂ R as bs) {k : Nat} {b : β} (hk : bs[k]? = some b) :
    ∃ a, as[k]? = some a ∧ R a b := by
  induction h generalizing k with
  | nil => cases hk
  | cons hhead _ ih =>
    cases k with
    | zero => exact ⟨_, rfl, Option.some.inj hk ▸ hhead⟩
    | succ k => exact ih hk

/-- **What a pass does.** Whatever comes from the network, the slots hold what
was read last, and no response carries again what an earlier one carried. -/
theorem loop_collect {D : Deployment} {s : MainLoop size} {input : LoopInput} {p : Pass size}
    (h : Collecting D.cfg s) (hp : s.loop D.cfg input = some p) :
    Collecting D.cfg p.state ∧
      (∀ k w', p.state.uartWorker[k]? = some w' → ∃ w, s.uartWorker[k]? = some w ∧
        Passed D.cfg s p.state (requestOf D.cfg s input k) w w') ∧
      ((p.responses = [] ∧ p.sent = [] ∧ p.datagram = none) ∨
        (Responded D p.state p.responses p.sent p.datagram ∧ Fresh D.cfg s p.state)) := by
  obtain ⟨hstate, houtput⟩ := loop_poll hp
  obtain ⟨hserve, hrestarts, hserved⟩ := serve_collect input h
  generalize beforePoll D.cfg input s = v at hstate houtput hserve hrestarts hserved
  rcases pollUARTs_collect input hserve with hidle | hpolled
  · rw [hidle] at hstate houtput
    obtain ⟨hresponses, hsent⟩ := Prod.mk.inj houtput
    obtain ⟨hsent, hdatagram⟩ := Prod.mk.inj hsent
    rw [hstate]
    refine ⟨hserve, ?_, Or.inl ⟨hresponses, hsent, hdatagram⟩⟩
    intro k w' hk
    obtain ⟨w, hw, hserved⟩ := hserved k w' hk
    exact ⟨w, hw, ⟨[], by rw [hserved.reads_eq, List.append_nil]⟩, hserved.session_eq,
      hserved.from_le hrestarts⟩
  · have hfilled : Polled D.cfg v p.state := by
      rw [hstate]
      exact hpolled.elim (·.1) (·.1)
    -- each worker was served first, and then its slot was filled
    have hworker (k : Nat) (w' : UARTWorker size) (hk : p.state.uartWorker[k]? = some w') :
        ∃ w, s.uartWorker[k]? = some w ∧ ∃ u, Served (requestOf D.cfg s input k) w u ∧
          Filled D.cfg v u w' := by
      obtain ⟨u, hu, hfill⟩ := forall₂_getElem? hfilled.filled hk
      obtain ⟨w, hw, hserved⟩ := hserved k u hu
      exact ⟨w, hw, u, hserved, hfill⟩
    refine ⟨hfilled.collecting, ?_, ?_⟩
    · intro k w' hk
      obtain ⟨w, hw, u, hserved, hfill⟩ := hworker k w' hk
      exact ⟨w, hw, hserved.reads_eq ▸ hfill.more, hfill.session_eq.trans hserved.session_eq,
        Nat.le_trans (hserved.from_le hrestarts) hfill.from_le⟩
    · rcases hpolled with ⟨-, hnothing⟩ | ⟨-, hresponded⟩
      · rw [hnothing] at houtput
        obtain ⟨hresponses, hsent⟩ := Prod.mk.inj houtput
        obtain ⟨hsent, hdatagram⟩ := Prod.mk.inj hsent
        exact Or.inl ⟨hresponses, hsent, hdatagram⟩
      · refine Or.inr ⟨?_, ?_⟩
        · rw [← houtput, ← hstate] at hresponded
          exact hresponded
        · intro k w w' hw hk
          obtain ⟨w₀, hw₀, u, hserved, hfill⟩ := hworker k w' hk
          rw [hw, Option.some.injEq] at hw₀
          subst hw₀
          have hle := hserved.from_le hrestarts
          have hreads := hfill.reads_eq
          omega

/-- **After `setup` nothing is collected.** -/
theorem Collecting.setup {cfg : Configuration} {rxRingBuffs : List (DataBuffer UInt8 size)}
    (hlen : rxRingBuffs.length = cfg.uartCount) (millis micros : UInt32) :
    Collecting cfg (MainLoop.setup cfg rxRingBuffs millis micros) := by
  refine ⟨by simp [MainLoop.setup, hlen], ?_⟩
  intro k w hk
  simp only [MainLoop.setup, List.getElem?_map, Option.map_eq_some_iff] at hk
  obtain ⟨ring, -, rfl⟩ := hk
  exact ⟨Nat.zero_le _, List.nil_suffix⟩

/-! ## The inputs of the examples -/

namespace Firmware.LoopInput

/-- A pass in which nothing arrives; the UARTs return `uartInput`. -/
def quiet (cfg : Configuration) (micros : UInt32) (uartInput : List UInt8) : LoopInput where
  linkOn := true
  tcp := { accept := none, connected := true, available := [], readSz := 0 }
  udpBegin := true
  udpPacket := none
  udpBeginPacket := true
  tcpWrites := [cfg.packageSize]
  millis := 0
  micros := micros
  availableForWrite := fun _ => 0
  uartInput := fun _ => uartInput

/-- A pass that finds a client. -/
def accepts (cfg : Configuration) : LoopInput :=
  { quiet cfg 0 [] with
    tcp := { accept := some 0x0100007F, connected := true, available := [], readSz := 0 } }

/-- The bytes of a package with a request for port 0. -/
def package (cfg : Configuration) (header : UInt16) (request payload : List UInt8) : List UInt8 :=
  ByteMem.read (sealPackage cfg.metaSz header
    (ByteMem.write (ByteMem.write (fun _ => 0) (headerOffset 0) request) (cfg.slotOffset 0)
      payload)) 0 cfg.packageSize

/-- The package arrives over TCP at once. -/
def stream (cfg : Configuration) (micros : UInt32) (package : List UInt8) : LoopInput :=
  { quiet cfg micros [] with
    tcp := { accept := none, connected := true, available := package, readSz := cfg.packageSize } }

/-- The package arrives in a datagram. -/
def datagram (cfg : Configuration) (micros : UInt32) (package : List UInt8) : LoopInput :=
  { quiet cfg micros [] with udpPacket := some { bytes := package, remotePort := 49152 } }

end Firmware.LoopInput

end UartBridge
