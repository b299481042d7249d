import Mathlib.Data.List.Forall2
import UartBridge.System.Reassembly

/-!
# The firmware writes inside its buffers

The board has no memory protection: what is written past the end of `rxBuff`, `txBuff` or a ring
buffer lands in other variables. A TCP client may send anything, datagrams may come at any moment,
and `read` may return any part of what was asked for.

* `Confined` (of the byte memory) — nothing changes behind the end of a buffer;
* `Kept` — what a part of a pass writes, and the bounds that it keeps;
* `writes_inside` — no run of passes writes outside a buffer.
-/

namespace UartBridge.MemorySafety

open EventRun Firmware MainLoop

variable {size : Nat} {cfg : Configuration}

/-! ## The package buffers -/

theorem header_le {i : Nat} (hi : i < cfg.uartCount) :
    Configuration.pkgHdrSz + i * Configuration.cmdHdrSize + 3 ≤ cfg.packageSize := by
  simp only [Configuration.packageSize, Configuration.metaSz, Configuration.cmdHdrSize]
  omega

theorem slot_le {i : Nat} (hi : i < cfg.uartCount) :
    cfg.slotOffset i + cfg.dataPayloadSize ≤ cfg.packageSize := by
  have hmul : cfg.dataPayloadSize * i + cfg.dataPayloadSize ≤
      cfg.dataPayloadSize * cfg.uartCount :=
    calc cfg.dataPayloadSize * i + cfg.dataPayloadSize
        = cfg.dataPayloadSize * (i + 1) := (Nat.mul_succ _ _).symm
      _ ≤ cfg.dataPayloadSize * cfg.uartCount := Nat.mul_le_mul_left _ hi
  simp only [Configuration.slotOffset, Configuration.packageSize]
  omega

theorem counter_le (cfg : Configuration) : Configuration.pkgCntOffset + 4 ≤ cfg.packageSize := by
  simp only [Configuration.packageSize, Configuration.metaSz, Configuration.pkgCntOffset,
    Configuration.pkgHdrSz, Configuration.metaCrcSz]
  omega

/-- Header and checksum of a package. -/
theorem seal_confined (cfg : Configuration) (txBuff : Nat → UInt8) {header : List UInt8}
    (hlen : header.length = 2) (crc : (Nat → UInt8) → UInt8) :
    ByteMem.Confined cfg.packageSize txBuff
      (ByteMem.write (ByteMem.write txBuff 0 header) cfg.metaSz
        [crc (ByteMem.write txBuff 0 header)]) := by
  have hcounter := counter_le cfg
  refine (ByteMem.Confined.write txBuff ?_).trans (ByteMem.Confined.write _ ?_)
  · rw [hlen]
    simp only [Configuration.pkgCntOffset] at hcounter
    omega
  · simp only [Configuration.packageSize, Configuration.metaCrcSz, List.length_singleton]
    omega

/-! ## The servers -/

/-- `read` is asked for what the package still lacks, and that fits. -/
theorem readPackage_confined (input : TcpInput) (millis : UInt32) {s : TCPServer.RxState}
    (hleft : s.server.pkgLeft ≤ cfg.packageSize) :
    let r := (TCPServer.readPackage cfg.packageSize cfg.metaSz input millis s).1
    ByteMem.Confined cfg.packageSize s.rxBuff r.rxBuff ∧ r.server.pkgLeft ≤ cfg.packageSize := by
  have hlen : (TCPServer.readBytes input s.server.pkgLeft).length ≤ s.server.pkgLeft := by
    simp only [TCPServer.readBytes, List.length_take]
    omega
  have hwrite : ByteMem.Confined cfg.packageSize s.rxBuff
      (ByteMem.write s.rxBuff (cfg.packageSize - s.server.pkgLeft)
        (TCPServer.readBytes input s.server.pkgLeft)) :=
    ByteMem.Confined.write _ (by omega)
  have hless : s.server.pkgLeft - (TCPServer.readBytes input s.server.pkgLeft).length ≤
      cfg.packageSize := Nat.le_trans (Nat.sub_le _ _) hleft
  unfold TCPServer.readPackage
  dsimp only
  split
  · exact ⟨hwrite, hless⟩
  · split
    · exact ⟨hwrite, hless⟩
    · exact ⟨hwrite, Nat.le_refl _⟩

theorem tcp_confined (input : TcpInput) (millis : UInt32) {s : TCPServer.RxState}
    (hleft : s.server.pkgLeft ≤ cfg.packageSize) :
    let r := (TCPServer.processRX cfg.packageSize cfg.metaSz input millis s).1
    ByteMem.Confined cfg.packageSize s.rxBuff r.rxBuff ∧ r.server.pkgLeft ≤ cfg.packageSize := by
  have hsame := ByteMem.Confined.refl cfg.packageSize s.rxBuff
  unfold TCPServer.processRX
  split
  · split
    · exact ⟨hsame, hleft⟩
    · exact ⟨hsame, Nat.le_refl _⟩
  · split
    · exact ⟨hsame, hleft⟩
    · split
      · exact ⟨hsame, hleft⟩
      · exact readPackage_confined input millis hleft

/-- Of a datagram at most a package is read. -/
theorem udp_confined (beginOk : Bool) (packet : Option Packet) (millis : UInt32)
    (event : ClientEvent) (s : UDPServer.RxState) :
    ByteMem.Confined cfg.packageSize s.rxBuff
      (UDPServer.processRX cfg.packageSize cfg.metaSz beginOk packet millis event s).1.rxBuff := by
  have hsame := ByteMem.Confined.refl cfg.packageSize s.rxBuff
  have hread : ByteMem.Confined cfg.packageSize s.rxBuff
      (UDPServer.readPacket cfg.packageSize cfg.metaSz packet millis s).1.rxBuff := by
    unfold UDPServer.readPacket
    split
    · exact hsame
    · rename_i datagram
      split
      · exact hsame
      · have hwrite : ByteMem.Confined cfg.packageSize s.rxBuff
            (ByteMem.write s.rxBuff 0 (datagram.bytes.take cfg.packageSize)) :=
          ByteMem.Confined.write _ (by rw [List.length_take]; omega)
        dsimp only
        split
        · exact hwrite
        · split <;> exact hwrite
  unfold UDPServer.processRX
  split
  · exact hsame
  · exact hsame
  · split <;> exact hsame
  · exact hsame
  · split
    · exact hsame
    · exact hread

/-! ## The ring buffers -/

theorem commit_storage (b : DataBuffer UInt8 size) (handle : Handle) (usedSz : Nat) :
    (b.commit handle usedSz).storage = b.storage := by
  unfold DataBuffer.commit
  split <;> rfl

/-- The copy loop writes at the handle that it got, and no more than it has room for. -/
theorem store_confined (getHead : DataBuffer UInt8 size → Handle)
    (same : ∀ b, getHead b = DataBuffer.getHead b) (fuel : Nat) (b : DataBuffer UInt8 size)
    (rest : List UInt8) :
    ByteMem.Confined size b.storage (DataBuffer.store getHead fuel b rest).1.storage := by
  induction fuel generalizing b rest with
  | zero => exact ByteMem.Confined.refl size b.storage
  | succ fuel ih =>
    obtain ⟨hfits, -, -⟩ := b.getHead_spec
    simp only [DataBuffer.store, same]
    generalize hsz : (if b.getHead.maxSz < rest.length then b.getHead.maxSz else rest.length) = sz
    have hmax : sz ≤ b.getHead.maxSz := by
      rw [← hsz]
      split <;> omega
    split
    · exact ByteMem.Confined.refl size b.storage
    · refine ByteMem.Confined.trans ?_ (ih _ _)
      have hlen : (rest.take sz).length ≤ sz := by
        rw [List.length_take]
        exact Nat.min_le_left _ _
      have hcopied : ByteMem.Confined size b.storage
          (b.memcpy b.getHead.buffer (rest.take sz)).storage :=
        ByteMem.Confined.write b.storage (show b.head + (rest.take sz).length ≤ size by omega)
      rw [commit_storage]
      exact hcopied

/-- The worker wrote inside its ring buffer. -/
def RingConfined (w w' : UARTWorker size) : Prop :=
  ByteMem.Confined size w.rxRingBuff.storage w'.rxRingBuff.storage

theorem endUart_storage (w : UARTWorker size) :
    w.endUart.rxRingBuff.storage = w.rxRingBuff.storage := by
  unfold UARTWorker.endUart
  split <;> rfl

theorem openPort_storage (rxDataBuff : Nat → UInt8) (arg : UInt8) (w : UARTWorker size) :
    (w.openPort rxDataBuff arg).rxRingBuff.storage = w.rxRingBuff.storage := by
  have hend := endUart_storage w
  unfold UARTWorker.openPort
  dsimp only
  split
  · split <;> exact hend
  · exact hend

/-- A request, with any length and any bytes behind it, writes inside the ring buffer. -/
theorem processRequest_confined (hsize : size < 0x10000) (now : UInt32)
    (rxDataBuff : Nat → UInt8) (request : Request) (w : UARTWorker size) :
    RingConfined w (w.processRequest now rxDataBuff request).1 := by
  have hsame : RingConfined w w := ByteMem.Confined.refl size _
  unfold UARTWorker.processRequest
  cases request.type with
  | Data => exact store_confined _ (DataBuffer.getHead_eq hsize) _ _ _
  | Reset | NoCommand | other => exact hsame
  | ResetOpen =>
    show ByteMem.Confined size w.rxRingBuff.storage
      ((w.startReset now).openPort rxDataBuff request.arg).rxRingBuff.storage
    rw [openPort_storage]
    exact hsame
  | Open =>
    show ByteMem.Confined size w.rxRingBuff.storage
      (w.openPort rxDataBuff request.arg).rxRingBuff.storage
    rw [openPort_storage]
    exact hsame
  | Close =>
    show ByteMem.Confined size w.rxRingBuff.storage w.endUart.rxRingBuff.storage
    rw [endUart_storage]
    exact hsame

/-- Draining does not write to the ring buffer. -/
theorem drain_storage (fuel uartAvail : Nat) (w : UARTWorker size) :
    (UARTWorker.drain fuel uartAvail w).rxRingBuff.storage = w.rxRingBuff.storage := by
  induction fuel generalizing uartAvail w with
  | zero => rfl
  | succ fuel ih =>
    simp only [UARTWorker.drain]
    generalize (if (Firmware.DataBuffer.getTail w.rxRingBuff).maxSz < uartAvail then
      (Firmware.DataBuffer.getTail w.rxRingBuff).maxSz else uartAvail) = sz
    split
    · rfl
    · split
      · rfl
      · rw [ih]
        exact commit_storage _ _ _

theorem processRX_storage (now : UInt32) (availableForWrite : Nat) (w : UARTWorker size) :
    (w.processRX cfg now availableForWrite).rxRingBuff.storage = w.rxRingBuff.storage := by
  unfold UARTWorker.processRX
  dsimp only
  split
  · rfl
  · exact drain_storage _ _ _

theorem fillTXBuff_storage (reset : Bool) (input : List UInt8) (w : UARTWorker size)
    (txDataBuff : Nat) (txBuff : Nat → UInt8) :
    (w.fillTXBuff cfg reset input txDataBuff txBuff).1.rxRingBuff.storage =
      w.rxRingBuff.storage := by
  rw [(w.fillTXBuff_frame cfg reset input txDataBuff txBuff).1]

/-! ## The workers one by one -/

/-- Each worker wrote inside its ring buffer. -/
def RingsConfined (workers workers' : List (UARTWorker size)) : Prop :=
  List.Forall₂ RingConfined workers workers'

theorem RingsConfined.refl (workers : List (UARTWorker size)) : RingsConfined workers workers :=
  List.forall₂_same.mpr fun _ _ => ByteMem.Confined.refl size _

theorem RingsConfined.trans {workers workers' workers'' : List (UARTWorker size)}
    (h : RingsConfined workers workers') (h' : RingsConfined workers' workers'') :
    RingsConfined workers workers'' := by
  induction h generalizing workers'' with
  | nil =>
    cases h'
    exact .nil
  | cons hhead _ ih =>
    cases h' with
    | cons hhead' htail' => exact .cons (ByteMem.Confined.trans hhead hhead') (ih htail')

/-- A turn of every worker. -/
theorem RingsConfined.mapIdx (f : Nat → UARTWorker size → UARTWorker size)
    (hf : ∀ i w, RingConfined w (f i w)) (workers : List (UARTWorker size)) :
    RingsConfined workers (workers.mapIdx f) := by
  induction workers generalizing f with
  | nil => exact .nil
  | cons w ws ih =>
    rw [List.mapIdx_cons]
    exact .cons (hf 0 w) (ih (fun i => f (i + 1)) fun i => hf (i + 1))

theorem fillTXBuffs_rings (reset : Bool) (uartInput : Nat → List UInt8)
    (workers : List (UARTWorker size)) (i : Nat) (txBuff : Nat → UInt8) :
    RingsConfined workers (fillTXBuffs cfg reset uartInput i workers txBuff).1 := by
  induction workers generalizing i txBuff with
  | nil => exact .nil
  | cons w ws ih =>
    refine .cons ?_ (ih _ _)
    unfold RingConfined
    rw [fillTXBuff_storage]
    exact ByteMem.Confined.refl size _

theorem fillAndRespond_rings (uartInput : Nat → List UInt8)
    (workers : List (UARTWorker size)) (i : Nat) (txBuff : Nat → UInt8) :
    RingsConfined workers (fillAndRespond cfg uartInput i workers txBuff).1 := by
  induction workers generalizing i txBuff with
  | nil => exact .nil
  | cons w ws ih =>
    refine .cons ?_ (ih _ _)
    unfold RingConfined
    rw [fillTXBuff_storage]
    exact ByteMem.Confined.refl size _

/-! ## The send buffer -/

theorem fillTXBuff_confined {i : Nat} (hi : i < cfg.uartCount) (reset : Bool)
    (input : List UInt8) {w : UARTWorker size} (hused : w.txUsedSz ≤ cfg.dataPayloadSize)
    (txBuff : Nat → UInt8) : ByteMem.Confined cfg.packageSize txBuff
      (w.fillTXBuff cfg reset input (cfg.slotOffset i) txBuff).2 := by
  obtain ⟨-, offset, bytes, hwrite, hfits⟩ :=
    w.fillTXBuff_slot cfg reset input (cfg.slotOffset i) txBuff hused
  have hslot := slot_le hi
  rw [hwrite]
  exact ByteMem.Confined.write txBuff (by omega)

theorem respond_confined {i : Nat} (hi : i < cfg.uartCount) (w : UARTWorker size)
    (txBuff : Nat → UInt8) :
    ByteMem.Confined cfg.packageSize txBuff (respond cfg i w txBuff).1 :=
  ByteMem.Confined.write txBuff (header_le hi)

theorem fillTXBuffs_confined (reset : Bool) (uartInput : Nat → List UInt8)
    (workers : List (UARTWorker size)) (i : Nat) (txBuff : Nat → UInt8)
    (hrange : i + workers.length ≤ cfg.uartCount)
    (hused : ∀ w ∈ workers, w.txUsedSz ≤ cfg.dataPayloadSize) :
    ByteMem.Confined cfg.packageSize txBuff
      (fillTXBuffs cfg reset uartInput i workers txBuff).2 := by
  induction workers generalizing i txBuff with
  | nil => exact ByteMem.Confined.refl _ txBuff
  | cons w ws ih =>
    rw [List.length_cons] at hrange
    obtain ⟨hw, hws⟩ := List.forall_mem_cons.mp hused
    exact (fillTXBuff_confined (by omega) reset (uartInput i) hw txBuff).trans
      (ih (i + 1) _ (by omega) hws)

theorem writeResponses_confined (workers : List (UARTWorker size)) (i : Nat)
    (txBuff : Nat → UInt8) (hrange : i + workers.length ≤ cfg.uartCount) :
    ByteMem.Confined cfg.packageSize txBuff (writeResponses cfg i workers txBuff).1 := by
  induction workers generalizing i txBuff with
  | nil => exact ByteMem.Confined.refl _ txBuff
  | cons w ws ih =>
    rw [List.length_cons] at hrange
    exact (respond_confined (by omega) w txBuff).trans (ih (i + 1) _ (by omega))

theorem fillAndRespond_confined (uartInput : Nat → List UInt8)
    (workers : List (UARTWorker size)) (i : Nat) (txBuff : Nat → UInt8)
    (hrange : i + workers.length ≤ cfg.uartCount)
    (hused : ∀ w ∈ workers, w.txUsedSz ≤ cfg.dataPayloadSize) :
    ByteMem.Confined cfg.packageSize txBuff
      (fillAndRespond cfg uartInput i workers txBuff).2.1 := by
  induction workers generalizing i txBuff with
  | nil => exact ByteMem.Confined.refl _ txBuff
  | cons w ws ih =>
    rw [List.length_cons] at hrange
    obtain ⟨hw, hws⟩ := List.forall_mem_cons.mp hused
    exact ((fillTXBuff_confined (by omega) true (uartInput i) hw txBuff).trans
      (respond_confined (by omega) _ _)).trans (ih (i + 1) _ (by omega) hws)

theorem transmit_confined (input : LoopInput) (s : MainLoop size) :
    ByteMem.Confined cfg.packageSize s.txBuff (s.transmit cfg input).1.txBuff := by
  have hsame := ByteMem.Confined.refl cfg.packageSize s.txBuff
  have hudp : ByteMem.Confined cfg.packageSize s.txBuff (s.udpServer.processTX cfg.packageSize
      cfg.metaSz input.udpBeginPacket s.txBuff).2.1 := by
    unfold UDPServer.processTX
    split
    · exact hsame
    · exact seal_confined cfg s.txBuff rfl fun mem => crc8 (ByteMem.read mem 0 cfg.metaSz)
  unfold MainLoop.transmit
  split
  · exact hsame
  · dsimp only
    split
    · exact hudp
    · exact hudp.trans
        (seal_confined cfg _ rfl fun mem => crc8 (ByteMem.read mem 0 cfg.metaSz))

/-! ## One pass -/

/-- What a part of a pass writes, and where it leaves the package being read. -/
structure Kept (cfg : Configuration) (s t : MainLoop size) : Prop where
  rxBuff : ByteMem.Confined cfg.packageSize s.rxBuff t.rxBuff
  txBuff : ByteMem.Confined cfg.packageSize s.txBuff t.txBuff
  rings : RingsConfined s.uartWorker t.uartWorker
  pkgLeft : s.tcpServer.pkgLeft ≤ cfg.packageSize → t.tcpServer.pkgLeft ≤ cfg.packageSize

theorem Kept.refl (cfg : Configuration) (s : MainLoop size) : Kept cfg s s :=
  ⟨ByteMem.Confined.refl _ _, ByteMem.Confined.refl _ _, RingsConfined.refl _, id⟩

theorem Kept.trans {s t u : MainLoop size} (h : Kept cfg s t) (h' : Kept cfg t u) :
    Kept cfg s u :=
  ⟨h.rxBuff.trans h'.rxBuff, h.txBuff.trans h'.txBuff, h.rings.trans h'.rings,
    fun hle => h'.pkgLeft (h.pkgLeft hle)⟩

variable {s : MainLoop size} {input : LoopInput}

theorem receive_kept (hleft : s.tcpServer.pkgLeft ≤ cfg.packageSize) :
    Kept cfg s (s.receive cfg input).1 := by
  obtain ⟨htcp, hnext⟩ := @tcp_confined cfg input.tcp input.millis
    { server := s.tcpServer, rxBuff := s.rxBuff, alarmTimer := s.alarmTimer } hleft
  unfold MainLoop.receive MainLoop.controlEvent
  dsimp only
  split <;>
    exact ⟨htcp.trans (udp_confined _ _ _ _ _), ByteMem.Confined.refl _ _, RingsConfined.refl _,
      fun _ => hnext⟩

theorem takeCounter_kept (micros : UInt32) (s : MainLoop size) :
    Kept cfg s (s.takeCounter cfg micros) := by
  have hcounter := counter_le cfg
  have hcopy : ByteMem.Confined cfg.packageSize s.txBuff
      (ByteMem.write s.txBuff Configuration.pkgCntOffset
        (ByteMem.read s.rxBuff Configuration.pkgCntOffset 4)) :=
    ByteMem.Confined.write s.txBuff (by rw [ByteMem.length_read]; exact hcounter)
  unfold MainLoop.takeCounter
  dsimp only
  split
  · exact ⟨ByteMem.Confined.refl _ _, hcopy.trans (ByteMem.Confined.write _ hcounter),
      RingsConfined.refl _, id⟩
  · exact ⟨ByteMem.Confined.refl _ _, hcopy, RingsConfined.refl _, id⟩

theorem handle_kept (hsize : size < 0x10000) (event : ClientEvent) (s : MainLoop size) :
    Kept cfg s (s.handle cfg input event) := by
  cases event with
  | NewRequest data =>
    have hrequests : Kept cfg s { s with
        uartWorker := processRequests cfg input.millis s.rxBuff s.uartWorker } :=
      ⟨ByteMem.Confined.refl _ _, ByteMem.Confined.refl _ _,
        RingsConfined.mapIdx _ (fun _ w => processRequest_confined hsize _ _ _ w) _, id⟩
    exact hrequests.trans (takeCounter_kept input.micros _)
  | NoEvent | Connected | Disconnected => exact Kept.refl cfg s

theorem processUARTs_kept (s : MainLoop size) :
    Kept cfg s { s with uartWorker := processUARTs cfg input s.uartWorker } := by
  refine ⟨ByteMem.Confined.refl _ _, ByteMem.Confined.refl _ _,
    RingsConfined.mapIdx _ (fun _ w => ?_) _, id⟩
  unfold RingConfined
  rw [processRX_storage]
  exact ByteMem.Confined.refl size _

theorem transmit_kept (s : MainLoop size) : Kept cfg s (s.transmit cfg input).1 := by
  refine ⟨?_, transmit_confined input s, ?_, ?_⟩
  · have hrx : (s.transmit cfg input).1.rxBuff = s.rxBuff := by
      unfold MainLoop.transmit
      dsimp only
      split
      · rfl
      · split <;> rfl
    rw [hrx]
    exact ByteMem.Confined.refl _ _
  · rw [transmit_uartWorker]
    exact RingsConfined.refl _
  · have hserver : (s.transmit cfg input).1.tcpServer = s.tcpServer := by
      unfold MainLoop.transmit
      dsimp only
      split
      · rfl
      · split <;> rfl
    rw [hserver]
    exact id

theorem pollUARTs_kept (hworkers : WorkersOk cfg s) : Kept cfg s (s.pollUARTs cfg input).1 := by
  have hlen := hworkers.workers_len
  have hused := hworkers.used_le
  have hrange : 0 + s.uartWorker.length ≤ cfg.uartCount := by omega
  unfold MainLoop.pollUARTs
  dsimp only
  split
  · exact Kept.refl cfg s
  · split
    · have hfill := fillTXBuffs_confined (s.segmentCounter + 1 = 1) input.uartInput s.uartWorker 0
        s.txBuff hrange hused
      have hrings := @fillTXBuffs_rings size cfg (s.segmentCounter + 1 = 1) input.uartInput
        s.uartWorker 0 s.txBuff
      have hcount := (fillTXBuffs_spec cfg (s.segmentCounter + 1 = 1) input.uartInput
        s.uartWorker 0 s.txBuff hused).1
      split
      · exact ⟨ByteMem.Confined.refl _ _, hfill, hrings, id⟩
      · refine Kept.trans ?_ (transmit_kept _)
        exact ⟨ByteMem.Confined.refl _ _,
          hfill.trans (writeResponses_confined _ 0 _ (by rw [hcount]; exact hrange)), hrings, id⟩
    · refine Kept.trans ?_ (transmit_kept _)
      exact ⟨ByteMem.Confined.refl _ _,
        fillAndRespond_confined input.uartInput s.uartWorker 0 s.txBuff hrange hused,
        fillAndRespond_rings input.uartInput s.uartWorker 0 s.txBuff, id⟩

/-- **A pass writes inside the buffers.** -/
theorem loop_kept (hsize : size < 0x10000) (hworkers : WorkersOk cfg s)
    (hleft : s.tcpServer.pkgLeft ≤ cfg.packageSize) {p : Pass size}
    (hp : s.loop cfg input = some p) : Kept cfg s p.state := by
  unfold MainLoop.loop at hp
  split at hp
  · cases hp
  · rw [Option.some.injEq] at hp
    subst hp
    have hreceived : WorkersOk cfg (s.receive cfg input).1 :=
      ⟨by rw [receive_uartWorker, hworkers.workers_len],
        by rw [receive_uartWorker]; exact hworkers.used_le⟩
    have hhandled := (handle_spec input (s.receive cfg input).2.1 hreceived).1
    exact (((receive_kept hleft).trans (handle_kept hsize _ _)).trans
      (processUARTs_kept _)).trans (pollUARTs_kept (hhandled.drain input))

/-! ## Whole runs -/

/-- A pass of the loop, as a step. -/
def pass (cfg : Configuration) (s : MainLoop size) (input : LoopInput) : Option (MainLoop size) :=
  (s.loop cfg input).map (·.state)

/-- **No run of the firmware writes outside its buffers**, whatever arrives over TCP and UDP and
from the UARTs, whatever the library returns, and whenever. -/
theorem writes_inside (cfg : Configuration) (rxRingBuffs : List (DataBuffer UInt8 size))
    (hcount : rxRingBuffs.length = cfg.uartCount) (hsize : size = cfg.dataBufferSize)
    (millis micros : UInt32) (inputs : List LoopInput) (s : MainLoop size)
    (hrun : exec (pass cfg) (MainLoop.setup cfg rxRingBuffs millis micros) inputs = some s) :
    (∀ a, cfg.packageSize ≤ a → s.rxBuff a = 0) ∧ (∀ a, cfg.packageSize ≤ a → s.txBuff a = 0) ∧
      List.Forall₂ (fun ring w => ∀ a, cfg.dataBufferSize ≤ a →
        w.rxRingBuff.storage a = ring.storage a) rxRingBuffs s.uartWorker := by
  have hlt : size < 0x10000 := hsize ▸ cfg.dataBufferSize_lt
  have hinv : WorkersOk cfg s ∧ s.tcpServer.pkgLeft ≤ cfg.packageSize ∧
      Kept cfg (MainLoop.setup cfg rxRingBuffs millis micros) s := by
    refine exec_invariant (fun s => WorkersOk cfg s ∧ s.tcpServer.pkgLeft ≤ cfg.packageSize ∧
      Kept cfg (MainLoop.setup cfg rxRingBuffs millis micros) s) ?_
      ⟨WorkersOk.setup hcount millis micros, Nat.zero_le _, Kept.refl cfg _⟩ hrun
    intro u input t hu hstep
    obtain ⟨p, hp, rfl⟩ := Option.map_eq_some_iff.mp hstep
    have hkept := loop_kept hlt hu.1 hu.2.1 hp
    exact ⟨hu.1.loop hp, hkept.pkgLeft hu.2.1, hu.2.2.trans hkept⟩
  obtain ⟨-, -, hkept⟩ := hinv
  refine ⟨hkept.rxBuff, hkept.txBuff, ?_⟩
  have hrings : List.Forall₂ RingConfined (rxRingBuffs.map UARTWorker.setup) s.uartWorker :=
    hkept.rings
  rw [List.forall₂_map_left_iff] at hrings
  refine hrings.imp ?_
  intro ring w hring a ha
  exact hring a (hsize ▸ ha)

/-! ## Two connections and a datagram -/

open Deployment (ring512)

/-- A board with one UART after packages from two connections, with a datagram in the middle of
one. -/
def afterTraffic : MainLoop 512 :=
  (exec (pass .avrPro) (MainLoop.setup .avrPro [ring512] 0 0) Reassembly.interleaved).getD
    (MainLoop.setup .avrPro [ring512] 0 0)

theorem writes_inside_traffic :
    ((∀ a, Configuration.avrPro.packageSize ≤ a → afterTraffic.rxBuff a = 0) ∧
      (∀ a, Configuration.avrPro.packageSize ≤ a → afterTraffic.txBuff a = 0) ∧
      List.Forall₂ (fun ring w => ∀ a, Configuration.avrPro.dataBufferSize ≤ a →
        w.rxRingBuff.storage a = ring.storage a) [ring512] afterTraffic.uartWorker) ∧
    afterTraffic.uartWorker.map (·.rxRingBuff.contents) = [[1, 2, 3, 9, 7, 8]] :=
  ⟨writes_inside Configuration.avrPro [ring512] rfl rfl 0 0 Reassembly.interleaved afterTraffic
    (exec_eq_some_getD (by decide +kernel)), by decide +kernel⟩

end UartBridge.MemorySafety
