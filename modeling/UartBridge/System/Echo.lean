import UartBridge.LoopbackFirmware.MainLoop
import UartBridge.System.Wires

/-!
# An echo through the whole bridge

At the far end of each UART a board runs the firmware for loopback tests. What a local client
sends goes through the client, the network, the bridge's firmware and the wire to this board,
and comes back the same way.

* `Device.held` — what is on one wire, in the board and on the other wire, oldest first;
* `device_returns` — the board alone returns everything, a byte a pass at least;
* `Echoing` — the bridge and the board in series, as one queue;
* `echo_of_run` — what comes back is what was sent.
-/

namespace UartBridge.Echo

open EventRun Client Firmware LossyFifo
open Wires (writtenAt ringAt pendingAt Moved)

variable {size fwSize devSize : Nat}

/-! ## The board for loopback tests -/

/-- The board with its wires: what was sent to it and not read yet, and what it wrote. -/
structure Device (size : Nat) where
  line : List UInt8
  ringBuffer : DataBuffer UInt8 size
  back : List UInt8

namespace Device

/-- Everything between the bridge's `write` and its `readBytes`, oldest first. -/
def held (d : Device size) : List UInt8 := d.back ++ (d.ringBuffer.contents ++ d.line)

/-- A pass of the board's loop. What it can read is what is on the wire. -/
def pass (input : Loopback.SerialInput) (d : Device size) : Device size :=
  let p := Loopback.loop { input with received := d.line } d.ringBuffer
  { line := d.line.drop p.read.length, ringBuffer := p.ringBuffer, back := d.back ++ p.written }

/-- A pass writes something behind what was written, and keeps the rest. -/
theorem pass_spec (hsize : size < 0x10000) (input : Loopback.SerialInput) (d : Device size) :
    (d.pass input).held = d.held ∧ d.back <+: (d.pass input).back := by
  obtain ⟨hpasses, hread⟩ :=
    Loopback.loop_passes True hsize { input with received := d.line } d.ringBuffer
  have hall := hpasses.eq_of_exact trivial
  refine ⟨?_, List.prefix_append _ _⟩
  unfold held pass
  dsimp only at hread ⊢
  generalize Loopback.loop { input with received := d.line } d.ringBuffer = p at hall hread ⊢
  obtain ⟨rest, hrest⟩ := hread
  rw [← hrest, List.drop_left]
  calc d.back ++ p.written ++ (p.ringBuffer.contents ++ rest) =
        d.back ++ ((p.written ++ p.ringBuffer.contents) ++ rest) := by
          simp only [List.append_assoc]
    _ = d.back ++ (d.ringBuffer.contents ++ (p.read ++ rest)) := by
          rw [hall]
          simp only [List.append_assoc]

/-- While something is left to return, a pass returns a byte at least. -/
theorem pass_progress (hsize : size < 0x10000) (htwo : 1 < size) {input : Loopback.SerialInput}
    {d : Device size} (hresponsive : Loopback.Responsive { input with received := d.line })
    (hleft : d.back.length < d.held.length) : d.back.length < (d.pass input).back.length := by
  have hsome : d.ringBuffer.contents ≠ [] ∨ d.line ≠ [] := by
    by_contra hnone
    obtain ⟨hring, hline⟩ := not_or.mp hnone
    unfold held at hleft
    rw [not_not.mp hring, not_not.mp hline, List.append_nil] at hleft
    exact absurd hleft (by simp)
  have hwrites := Loopback.loop_progress hsize htwo hresponsive d.ringBuffer hsome
  have hpos := List.length_pos_of_ne_nil hwrites
  unfold pass
  dsimp only
  rw [List.length_append]
  omega

end Device

/-- What happens to the board: something arrives on its wire, or its loop makes a pass. -/
inductive DeviceEvent where
  | arrive (bytes : List UInt8)
  | pass (input : Loopback.SerialInput)

namespace DeviceEvent

def step (d : Device size) : DeviceEvent → Option (Device size)
  | .arrive bytes => some { d with line := d.line ++ bytes }
  | .pass input => some (d.pass input)

/-- In a pass the hardware has a byte to read if one has arrived, and takes one. -/
def Responsive (d : Device size) : DeviceEvent → Prop
  | .arrive _ => True
  | .pass input => Loopback.Responsive { input with received := d.line }

instance (d : Device size) : (e : DeviceEvent) → Decidable (e.Responsive d)
  | .arrive _ => isTrue trivial
  | .pass _ => inferInstanceAs (Decidable (Loopback.Responsive _))

def arrivals : DeviceEvent → List UInt8
  | .arrive bytes => bytes
  | .pass _ => []

def isPass : DeviceEvent → Bool
  | .arrive _ => false
  | .pass _ => true

end DeviceEvent

/-- The board returns a byte a pass, until nothing is left of what there was. -/
theorem device_progress (hsize : size < 0x10000) (htwo : 1 < size) {s t : Device size}
    {es : List DeviceEvent} (hrun : exec DeviceEvent.step s es = some t)
    (halong : Along DeviceEvent.step DeviceEvent.Responsive s es) :
    min s.held.length (s.back.length + es.countP (·.isPass)) ≤ t.back.length := by
  induction es generalizing s with
  | nil =>
    rw [exec_nil, Option.some.injEq] at hrun
    subst hrun
    exact Nat.min_le_right _ _
  | cons e es ih =>
    obtain ⟨u, hstep, hrest⟩ := exec_cons_eq_some.mp hrun
    have hlater := ih hrest (halong.2 u hstep)
    cases e with
    | arrive bytes =>
      cases hstep
      have hheld : ({ s with line := s.line ++ bytes } : Device size).held = s.held ++ bytes := by
        unfold Device.held
        simp only [List.append_assoc]
      rw [hheld, List.length_append] at hlater
      rw [List.countP_cons_of_neg (by simp [DeviceEvent.isPass])]
      dsimp only at hlater
      omega
    | pass input =>
      cases hstep
      obtain ⟨hheld, hback⟩ := s.pass_spec hsize input
      have hgrows := hback.length_le
      rw [hheld] at hlater
      rw [List.countP_cons_of_pos (by rfl)]
      by_cases hleft : s.back.length < s.held.length
      · have hmore := Device.pass_progress hsize htwo halong.1 hleft
        omega
      · omega

/-- Nothing is lost on the way. -/
theorem device_held (hsize : size < 0x10000) {s t : Device size} {es : List DeviceEvent}
    (hrun : exec DeviceEvent.step s es = some t) : t.held = s.held ++ es.flatMap (·.arrivals) := by
  induction es generalizing s with
  | nil =>
    rw [exec_nil, Option.some.injEq] at hrun
    subst hrun
    exact (List.append_nil _).symm
  | cons e es ih =>
    obtain ⟨u, hstep, hrest⟩ := exec_cons_eq_some.mp hrun
    rw [ih hrest, List.flatMap_cons, ← List.append_assoc]
    congr 1
    cases e with
    | arrive bytes =>
      cases hstep
      unfold Device.held DeviceEvent.arrivals
      simp only [List.append_assoc]
    | pass input =>
      cases hstep
      exact (s.pass_spec hsize input).1.trans (List.append_nil _).symm

/-- **The board returns everything**: what was on its way comes back after at most as many
passes, followed by what has arrived since, whatever the passes take and return. -/
theorem device_returns (hsize : size < 0x10000) (htwo : 1 < size) (s t : Device size)
    (es : List DeviceEvent) (hrun : exec DeviceEvent.step s es = some t) :
    t.held = s.held ++ es.flatMap (·.arrivals) ∧
      (Along DeviceEvent.step DeviceEvent.Responsive s es →
        s.held.length ≤ s.back.length + es.countP (·.isPass) → s.held <+: t.back) := by
  have hheld := device_held hsize hrun
  refine ⟨hheld, fun halong henough => ?_⟩
  have hlength := device_progress hsize htwo hrun halong
  rw [Nat.min_eq_left henough] at hlength
  have hback : t.back <+: s.held ++ es.flatMap (·.arrivals) := by
    rw [← hheld]
    exact List.prefix_append _ _
  exact List.prefix_of_prefix_length_le (List.prefix_append _ _) hback hlength

/-- Three bytes arrive, and come back in three passes that take a byte each. -/
def threeBytes : List DeviceEvent :=
  let turn : Loopback.SerialInput :=
    { received := [], available := 2, readSz := 1, availableForWrite := 1, writeSz := 1 }
  [.pass turn, .arrive [0x44], .pass turn, .pass turn]

def emptyRing : DataBuffer UInt8 1600 := .create (fun _ => 0) (Nat.succ_pos 1599)

def twoWaiting : Device 1600 := { line := [0x41, 0x42], ringBuffer := emptyRing, back := [] }

def afterThreeBytes : Device 1600 := (exec DeviceEvent.step twoWaiting threeBytes).getD twoWaiting

theorem device_returns_threeBytes : twoWaiting.held <+: afterThreeBytes.back ∧
    afterThreeBytes.back = [0x41, 0x42, 0x44] := by
  have hthrough : (exec DeviceEvent.step twoWaiting threeBytes).isSome = true := by decide +kernel
  have hresponsive : Along DeviceEvent.step DeviceEvent.Responsive twoWaiting threeBytes := by
    decide +kernel
  exact ⟨(device_returns (by decide) (by decide) twoWaiting afterThreeBytes threeBytes
    (exec_eq_some_getD hthrough)).2 hresponsive (by decide +kernel), by decide +kernel⟩

/-! ## The bridge and the boards -/

/-- The bridge, and a board at the UART of each port. -/
structure State (size fwSize devSize : Nat) where
  bridge : Pipeline.State size fwSize
  device : Nat → Device devSize

inductive Event (size : Nat) where
  /-- Anything that happens in the bridge. -/
  | bridge (e : Pipeline.Event size)
  /-- A board's loop makes a pass. -/
  | pass (i : Nat) (input : Loopback.SerialInput)
  /-- Bytes are lost on the wires of a port, and these are left. -/
  | lose (i : Nat) (line back : List UInt8)
  /-- A board starts anew. -/
  | restart (i : Nat)

/-- The wires between two states of the bridge's board: what was written is on its way, and
what was read is gone. -/
def Device.wired (k : Nat) (fw fw' : MainLoop fwSize) (d : Device devSize) : Device devSize :=
  { d with
    line := d.line ++ (writtenAt fw' k).drop (writtenAt fw k).length
    back := d.back.drop (Aggregation.readBetween fw fw' k).length }

def update (s : State size fwSize devSize) (i : Nat) (d : Device devSize) :
    State size fwSize devSize :=
  { s with device := fun k => if k = i then d else s.device k }

/-- A UART has no more to read than what its board has written. -/
def step (D : Deployment) (portConfig : Nat → PortConfig) (s : State size fwSize devSize) :
    Event size → Option (State size fwSize devSize)
  | .bridge e =>
    if ∀ k, k < D.cfg.uartCount → Wires.offered k e <+: (s.device k).back then
      (Pipeline.step D portConfig s.bridge e).map fun bridge =>
        { bridge := bridge, device := fun k => (s.device k).wired k s.bridge.fw bridge.fw }
    else none
  | .pass i input => some (update s i ((s.device i).pass input))
  | .lose i line back =>
    if line.Sublist (s.device i).line ∧ back.Sublist (s.device i).back then
      some (update s i { s.device i with line := line, back := back })
    else none
  | .restart i =>
    some (update s i { s.device i with ringBuffer := (s.device i).ringBuffer.reset })

/-- On the way of port `k` nothing is lost: no request makes the ring buffer lose a byte, none is
lost on the wires, and the board is not started anew. -/
def Lossless (D : Deployment) (k : Nat) (s : State size fwSize devSize) : Event size → Prop
  | .bridge e => Wires.Lossless D k s.bridge e
  | .pass _ _ => True
  | .lose i _ _ | .restart i => i ≠ k

/-- What is under way for a port behind the network, oldest first. -/
def waiting (D : Deployment) (s : State size fwSize devSize) (k : Nat) : List UInt8 :=
  pendingAt D.cfg s.bridge.fw k ++ ((s.device k).held ++ ringAt s.bridge.fw k)

/-- **The property.** -/
structure Echoes (D : Deployment) (s₀ s : State size fwSize devSize) (k : Nat)
    (lossless : Prop) : Prop where
  echoed : ((s.bridge.handedLog k).flatMap (·.2)).Sublist (waiting D s₀ k ++ s.bridge.readLog k)
  in_order : lossless →
    (s.bridge.handedLog k).flatMap (·.2) <+: waiting D s₀ k ++ s.bridge.readLog k
  complete : lossless → s.bridge.poll = none → s.bridge.up = [] → s.bridge.down = [] →
    waiting D s k = [] →
    (s.bridge.handedLog k).flatMap (·.2) = waiting D s₀ k ++ s.bridge.readLog k

/-! ## One queue -/

/-- The queues of the bridge and the board between them, since the start. -/
structure Echoing (D : Deployment) (exact : Prop) (s₀ : State size fwSize devSize) (k : Nat)
    (s : State size fwSize devSize) : Prop where
  piped : Pipeline.Piped D s.bridge
  collects : Wires.Collects D.cfg s.bridge.fw
  moved : ∃ out bytes, Moved D.cfg exact s₀.bridge.fw s.bridge.fw k (s.bridge.requestLog k) out
      bytes ((s.bridge.writtenLog k).flatMap (·.2)) ∧
    Passes exact (s₀.device k).held out bytes (s.device k).held

section Steps

variable {D : Deployment} {portConfig : Nat → PortConfig} {s₀ s t : State size fwSize devSize}
  {exact : Prop} {k : Nat}

/-- A board changes, and its port's queue with it. -/
theorem Echoing.update (h : Echoing D exact s₀ k s) {i : Nat} {d : Device devSize}
    (hpasses : i = k → Passes exact (s.device i).held [] [] d.held) :
    Echoing D exact s₀ k (update s i d) := by
  obtain ⟨out, bytes, hmoved, hdevice⟩ := h.moved
  refine ⟨h.piped, h.collects, out, bytes, hmoved, ?_⟩
  show Passes exact _ out bytes (if k = i then d else s.device k).held
  split
  · rename_i heq
    have hnext := hdevice.trans (heq ▸ hpasses heq.symm)
    rwa [List.append_nil, List.append_nil] at hnext
  · exact hdevice

/-- What the bridge writes and reads goes over the wires. -/
theorem wired_passes (fw fw' : MainLoop fwSize) (d : Device devSize) {out bytes : List UInt8}
    (hwritten : writtenAt fw' k = writtenAt fw k ++ out)
    (hread : bytesReadAt fw' k = bytesReadAt fw k ++ bytes) (hoffered : bytes <+: d.back) :
    Passes exact d.held out bytes (d.wired k fw fw').held := by
  have hreads : Aggregation.readBetween fw fw' k = bytes := by
    unfold Aggregation.readBetween
    rw [hread, List.drop_left]
  refine .of_eq ?_
  unfold Device.wired Device.held
  rw [hreads, hwritten, List.drop_left]
  obtain ⟨rest, hrest⟩ := hoffered
  rw [← hrest, List.drop_left]
  simp only [List.append_assoc]

/-- **One step.** -/
theorem echoing_step (hfw : fwSize < 0x10000) (hdev : devSize < 0x10000)
    (htcp : D.config.enableUDP = false) (hpayload : 4 ≤ D.config.portPLSize)
    (hk : k < D.cfg.uartCount) (h : Echoing D exact s₀ k s) {e : Event size}
    (hlossless : exact → Lossless D k s e) (hstep : step D portConfig s e = some t) :
    Echoing D exact s₀ k t := by
  cases e with
  | bridge e =>
    simp only [step, Option.ite_none_right_eq_some, Option.map_eq_some_iff] at hstep
    obtain ⟨hoffered, bridge, hbridge, rfl⟩ := hstep
    obtain ⟨out, bytes, hmoved, hdevice⟩ := h.moved
    obtain ⟨hcollects, received, out', bytes', sent, hrequests, hwritten, hread, hnext⟩ :=
      Wires.step_moved hfw h.piped h.collects hk hbridge
    refine ⟨Pipeline.piped_step htcp hpayload h.piped hbridge, hcollects, out ++ out',
      bytes ++ bytes', ?_, ?_⟩
    · show Moved D.cfg exact _ bridge.fw k (bridge.requestLog k) _ _ _
      rw [hrequests, hwritten]
      exact hmoved.trans (hnext.imp hlossless)
    · exact hdevice.trans (wired_passes _ _ _ hnext.written_eq hnext.reads_eq
        (hread.trans (hoffered k hk)))
  | pass i input =>
    cases hstep
    refine h.update fun _ => .of_eq ?_
    rw [List.nil_append, List.append_nil]
    exact ((s.device i).pass_spec hdev input).1
  | lose i line back =>
    simp only [step, Option.ite_none_right_eq_some, Option.some.injEq] at hstep
    obtain ⟨⟨hline, hback⟩, rfl⟩ := hstep
    refine h.update fun heq => .lose ?_ fun hexact => absurd heq (hlossless hexact)
    exact hback.append (hline.append_left _)
  | restart i =>
    cases hstep
    refine h.update fun heq => .lose ?_ fun hexact => absurd heq (hlossless hexact)
    unfold Device.held
    dsimp only
    rw [DataBuffer.contents_reset, List.nil_append]
    exact (List.sublist_append_right _ _).append_left _

/-- The queues in series, from the requests to the responses. -/
theorem Echoing.series (h : Echoing D exact s₀ k s) :
    Passes exact (waiting D s₀ k) (s.bridge.requestLog k)
      ((s.bridge.writtenLog k).flatMap (·.2)) (waiting D s k) := by
  obtain ⟨out, bytes, hmoved, hdevice⟩ := h.moved
  exact (hmoved.uplink.series hdevice).series (hmoved.downlink.imp fun _ => trivial)

end Steps

/-- The connection was just established; anything may be under way behind it. -/
def init (D : Deployment) (ports : List (PortWorker UInt8 size)) (txBuff rxBuff : Nat → UInt8)
    (fw : MainLoop fwSize) (device : Nat → Device devSize) : State size fwSize devSize :=
  { bridge := Pipeline.init D ports txBuff rxBuff fw, device := device }

theorem Echoing.start {D : Deployment} (ports : List (PortWorker UInt8 size))
    (txBuff rxBuff : Nat → UInt8) {fw : MainLoop fwSize} (hfw : Accepted D.cfg fw)
    (device : Nat → Device devSize) (exact : Prop) (k : Nat) :
    Echoing D exact (init D ports txBuff rxBuff fw device) k
      (init D ports txBuff rxBuff fw device) :=
  ⟨.start ports txBuff rxBuff hfw, .accepted hfw, [], [], .refl _ _ _ _, .refl _⟩

section Runs

variable {D : Deployment} {portConfig : Nat → PortConfig} {exact : Prop} {k : Nat}
  {ports : List (PortWorker UInt8 size)} {txBuff rxBuff : Nat → UInt8}
  {fw : MainLoop D.cfg.dataBufferSize} {device : Nat → Device devSize}
  {s₀ s : State size D.cfg.dataBufferSize devSize}

/-- Every run is a step after the other. -/
theorem echoing_of_run (htcp : D.config.enableUDP = false) (hpayload : 4 ≤ D.config.portPLSize)
    (hfw : Accepted D.cfg fw) (hdev : devSize < 0x10000) (hk : k < D.config.portCount)
    {es : List (Event size)}
    (halong : Along (step D portConfig) (fun s e => exact → Lossless D k s e)
      (init D ports txBuff rxBuff fw device) es)
    (hrun : exec (step D portConfig) (init D ports txBuff rxBuff fw device) es = some s) :
    Echoing D exact (init D ports txBuff rxBuff fw device) k s :=
  exec_invariant_along (Echoing D exact _ k) (fun _ _ _ h hlossless hstep =>
    echoing_step D.cfg.dataBufferSize_lt hdev htcp hpayload (D.portCount_eq ▸ hk) h hlossless
      hstep)
    (.start ports txBuff rxBuff hfw device exact k) halong hrun

/-- The queues in series, with the ends of the bridge on either side. -/
theorem Echoing.echoes {lossless : Prop} (hany : Echoing D False s₀ k s)
    (hexact : lossless → Echoing D True s₀ k s) (hk : k < D.config.portCount) :
    Echoes D s₀ s k lossless := by
  obtain ⟨-, huplink, huplinkAll, hdownlink, hdownlinkAll⟩ := hany.piped.endToEnd
  have hrequests : waiting D s₀ k ++ s.bridge.requestLog k <+:
      waiting D s₀ k ++ s.bridge.readLog k :=
    (List.prefix_append_right_inj _).mpr (huplink k hk)
  have hhanded : (s.bridge.handedLog k).flatMap (·.2) <+:
      (s.bridge.writtenLog k).flatMap (·.2) := by
    obtain ⟨rest, hrest⟩ := hdownlink k hk
    exact ⟨rest.flatMap (·.2), by rw [← List.flatMap_append, hrest]⟩
  refine ⟨hhanded.sublist.trans (hany.series.departed_sublist.trans hrequests.sublist),
    fun h => (hhanded.trans ((hexact h).series.prefix_of_exact trivial)).trans hrequests, ?_⟩
  intro h hpoll hup hdown hwaiting
  have hall := (hexact h).series.eq_of_exact trivial
  rw [hwaiting, List.append_nil, huplinkAll hpoll hup k hk, ← hdownlinkAll hdown k hk] at hall
  exact hall

end Runs

/-- **An echo.** Over one TCP connection that stays up, without UDP, with boards for loopback
tests at the UARTs: in every run, the bytes that a port worker is handed are a sublist of those
that were under way at the start, followed by those read from its local client: none comes back
twice, too early or from another port. If nothing was lost on the way, none is missing before
the last of them, and if nothing is under way any more, all are back. -/
theorem echo_of_run (D : Deployment) (htcp : D.config.enableUDP = false)
    (hpayload : 4 ≤ D.config.portPLSize) (portConfig : Nat → PortConfig)
    (ports : List (PortWorker UInt8 size)) (txBuff rxBuff : Nat → UInt8)
    (fw : MainLoop D.cfg.dataBufferSize) (hfw : Accepted D.cfg fw) (hdev : devSize < 0x10000)
    (device : Nat → Device devSize) (es : List (Event size))
    (s : State size D.cfg.dataBufferSize devSize)
    (hrun : exec (step D portConfig) (init D ports txBuff rxBuff fw device) es = some s) (k : Nat)
    (hk : k < D.config.portCount) :
    Echoes D (init D ports txBuff rxBuff fw device) s k (Along (step D portConfig) (Lossless D k)
      (init D ports txBuff rxBuff fw device) es) :=
  (echoing_of_run htcp hpayload hfw hdev hk (.of_forall (fun _ _ hnever => hnever.elim) _ _)
    hrun).echoes (fun halong => echoing_of_run htcp hpayload hfw hdev hk
      (halong.imp fun _ _ hloses _ => hloses) hrun) hk

/-! ## Two bytes there and back -/

open Pipeline (twoPorts twoWorkers acceptPass accepted_acceptPass quietInput)
open Deployment (ring16 port57600)

/-- A pass of the bridge's loop; the first UART returns `bytes`. -/
def passWith (millis micros : UInt32) (arrived bytes : List UInt8) : Event 16 :=
  .bridge (.loop { quietInput millis micros arrived with
    availableForWrite := fun _ => 4, uartInput := fun k => if k = 0 then bytes else [] })

def atStart : State 16 32 1600 :=
  init twoPorts twoWorkers (fun _ => 0) (fun _ => 0) acceptPass.state fun _ =>
    { line := [], ringBuffer := emptyRing, back := [] }

/-- The package that opens port 0. -/
def opening : List (Event 16) :=
  Pipeline.sending.map .bridge ++ [passWith 6 5100 Pipeline.afterSending.up [],
    passWith 7 5200 (Pipeline.afterSending.up.drop 7) [],
    passWith 8 6100 (Pipeline.afterSending.up.drop 14) []]

/-- Then its client sends two bytes. -/
def asking : List (Event 16) :=
  opening ++ [.bridge (.other 0 { PortWorker.create twoPorts.config (ring16 0) with
      connected := true, openPending := false, client := some 3 }),
    .bridge (.pollStart 2), .bridge (.pollPort (.bytes [0x43, 0x44])),
    .bridge (.pollPort (.error .EAGAIN)), .bridge (.pollSend 0 [.sent 100])]

def afterAsking : State 16 32 1600 :=
  (exec (step twoPorts (port57600 false)) atStart asking).getD atStart

/-- The board reads and returns them in one pass. -/
def echoing : List (Event 16) :=
  asking ++ [passWith 9 6200 afterAsking.bridge.up [],
    passWith 10 6300 (afterAsking.bridge.up.drop 7) [],
    passWith 11 7200 (afterAsking.bridge.up.drop 14) [],
    .pass 0 { received := [], available := 2, readSz := 2, availableForWrite := 64, writeSz := 2 },
    passWith 12 8300 [] [0x43, 0x44], .bridge (.recv 21), .bridge (.recv 21)]

def afterEchoing : State 16 32 1600 :=
  (exec (step twoPorts (port57600 false)) atStart echoing).getD atStart

instance (D : Deployment) (k : Nat) (s : State size fwSize devSize) :
    (e : Event size) → Decidable (Lossless D k s e)
  | .bridge e => inferInstanceAs (Decidable (Wires.Lossless D k s.bridge e))
  | .pass _ _ => isTrue trivial
  | .lose i _ _ => inferInstanceAs (Decidable (i ≠ k))
  | .restart i => inferInstanceAs (Decidable (i ≠ k))

theorem echo_of_run_echoing :
    Echoes twoPorts atStart afterEchoing 0
      (Along (step twoPorts (port57600 false)) (Lossless twoPorts 0) atStart echoing) ∧
    Along (step twoPorts (port57600 false)) (Lossless twoPorts 0) atStart echoing ∧
    (afterEchoing.bridge.handedLog 0).flatMap (·.2) = [0x43, 0x44] := by
  have hthrough : (exec (step twoPorts (port57600 false)) atStart echoing).isSome = true := by
    decide +kernel
  have hport : 0 < twoPorts.config.portCount := by decide
  have hmain := echo_of_run twoPorts rfl (by decide) (port57600 false) twoWorkers (fun _ => 0)
    (fun _ => 0) acceptPass.state accepted_acceptPass (by decide)
    (fun _ => { line := [], ringBuffer := emptyRing, back := [] }) echoing afterEchoing
    (exec_eq_some_getD hthrough) 0 hport
  exact ⟨hmain, by decide +kernel, by decide +kernel⟩

end UartBridge.Echo
