import UartBridge.System.Echo
import UartBridge.System.LocalClient

/-!
# From the socket of a local client and back to it

The whole way: what the poll thread reads from a local client goes through the bridge to the
board, out to a loopback board at the UART, back to the port's worker, into its ring buffer, and
from there to the `write` of the worker thread. The bridge and the threads of one port are two
systems that share this port's worker: `step` lets them move together, and `ProcessRX` of the port
in its two sections, between which the worker thread, the poll thread and clients may come.

* `portEvents`, `netEvents` — what a step is for the port, and for the bridge;
* `OnePort` — both have the same worker, so that neither holds the other up;
* `handed_of_step` — what the bridge hands out is what `ProcessRX` of the port gets;
* `round_trip` — what is written to the local client was read from it.
-/

namespace UartBridge.RoundTrip

open Client EventRun Firmware LossyFifo
open LocalClient (handed)
open WriterThread (acceptedBytes)

variable {size fwSize devSize : Nat}

/-- The bridge with its loopback boards, and the threads of one of its ports. -/
structure State (size fwSize devSize : Nat) where
  net : Echo.State size fwSize devSize
  port : WriterThread.State UInt8 size

inductive Event (size : Nat) where
  /-- Anything outside the port, its poll and the packages for it. -/
  | net (e : Echo.Event size)
  /-- A step of the port's worker thread, the second section of `ProcessRX`, or a message to the
  port worker. -/
  | thread (e : WriterThread.Event UInt8)

/-- The poll and the packages are the bridge's, other changes of the port the threads'. -/
def Event.own (k : Nat) : Event size → Bool
  | .net (.bridge (.other i _)) => i != k
  | .net _ => true
  | .thread (.processTX _ _) | .thread (.rxCheck _ _) => false
  | .thread _ => true

/-- The thread that calls `recv` is in `ProcessRX` until the payload is stored. -/
def Event.mayReceive (rx : Option (List UInt8)) : Event size → Bool
  | .net (.bridge (.recv _)) => rx.isNone
  | .net _ | .thread _ => true

/-- `recv` of these bytes. -/
def received (D : Deployment) (s : Pipeline.State size fwSize) (count : Nat) :
    TCPTransport.RxState × TCPTransport.RxResult :=
  TCPTransport.received D.config (s.down.take count) s.reader

/-- What a step of the bridge is for the port: of `ProcessRX` only the first section. -/
def bridgeEvents (D : Deployment) (k : Nat) (b : Pipeline.State size fwSize) :
    Pipeline.Event size → List (WriterThread.Event UInt8)
  | .pollPort input =>
    match b.poll with
    | some poll => if poll.port = k then [.processTX poll.counter input] else []
    | none => []
  | .recv count =>
    match (received D b count).2 with
    | .package => [.rxCheck (Response.map k (received D b count).1.rxBuff)
        (downlinkPair D.config k (received D b count).1.rxBuff).2]
    | .goOn | .disposed => []
  | .pollStart _ | .pollSend _ _ | .loop _ | .other _ _ => []

/-- What a step is for the port. -/
def portEvents (D : Deployment) (k : Nat) (s : State size fwSize devSize) :
    Event size → List (WriterThread.Event UInt8)
  | .net (.bridge e) => bridgeEvents D k s.net.bridge e
  | .net (.pass _ _) | .net (.lose _ _ _) | .net (.restart _) => []
  | .thread e => [e]

/-- The bridge handles a package for all ports at once. It goes on with this port's worker as
the first section leaves it. -/
def checked (k : Nat) (w : PortWorker UInt8 size) :
    WriterThread.Event UInt8 → List (Echo.Event size)
  | .rxCheck response _ => [.bridge (.other k (w.rxCheck response).1)]
  | .portOpen _ | .connected | .processTX _ _ | .rxWrite | .takeTail | .takeClient | .poll _
  | .dispose | .write _ | .commit => []

/-- What a step is for the bridge. -/
def netEvents (D : Deployment) (portConfig : Nat → PortConfig) (k : Nat)
    (s : State size fwSize devSize) : Event size → List (Echo.Event size)
  | .net e => e :: (portEvents D k s (.net e)).flatMap (checked k s.port.port)
  | .thread e =>
    match WriterThread.step D.config (portConfig k) s.port e with
    | some port => [.bridge (.other k port.port)]
    | none => []

def step (D : Deployment) (portConfig : Nat → PortConfig) (k : Nat)
    (s : State size fwSize devSize) (e : Event size) : Option (State size fwSize devSize) :=
  if e.own k && e.mayReceive s.port.rx then
    match exec (Echo.step D portConfig) s.net (netEvents D portConfig k s e),
      exec (WriterThread.step D.config (portConfig k)) s.port (portEvents D k s e) with
    | some net, some port => some { net := net, port := port }
    | _, _ => none
  else none

variable {D : Deployment} {portConfig : Nat → PortConfig} {k : Nat}
  {s t : State size fwSize devSize} {e : Event size}

theorem allowed_of_step (hstep : step D portConfig k s e = some t) :
    (e.own k && e.mayReceive s.port.rx) = true := by
  unfold step at hstep
  split at hstep
  next hallowed => exact hallowed
  next => cases hstep

theorem own_of_step (hstep : step D portConfig k s e = some t) : e.own k = true :=
  (Bool.and_eq_true_iff.mp (allowed_of_step hstep)).1

/-- A step is a schedule of the bridge. -/
theorem net_of_step (s : State size fwSize devSize) (e : Event size)
    (t : State size fwSize devSize) (hstep : step D portConfig k s e = some t) :
    exec (Echo.step D portConfig) s.net (netEvents D portConfig k s e) = some t.net := by
  unfold step at hstep
  rw [if_pos (allowed_of_step hstep)] at hstep
  split at hstep
  next hnet _ =>
    cases hstep
    exact hnet
  next => cases hstep

/-- And one of the port. -/
theorem port_of_step (s : State size fwSize devSize) (e : Event size)
    (t : State size fwSize devSize) (hstep : step D portConfig k s e = some t) :
    exec (WriterThread.step D.config (portConfig k)) s.port (portEvents D k s e) =
      some t.port := by
  unfold step at hstep
  rw [if_pos (allowed_of_step hstep)] at hstep
  split at hstep
  next _ hport =>
    cases hstep
    exact hport
  next => cases hstep

/-- A step that was taken: by the bridge, with a package or without, by the boards at its UARTs,
or by the port's threads. -/
inductive Stepped (D : Deployment) (portConfig : Nat → PortConfig) (k : Nat)
    (s : State size fwSize devSize) : Event size → State size fwSize devSize → Prop
  | bridge {e : Pipeline.Event size} {net : Echo.State size fwSize devSize}
      {port : WriterThread.State UInt8 size} (other : ∀ w, e ≠ .other k w)
      (none_complete : ∀ count, e = .recv count →
        (received D s.net.bridge count).2 ≠ .package)
      (bridge : Pipeline.step D portConfig s.net.bridge e = some net.bridge)
      (threads : exec (WriterThread.step D.config (portConfig k)) s.port
        (bridgeEvents D k s.net.bridge e) = some port) :
      Stepped D portConfig k s (.net (.bridge e)) { net := net, port := port }
  | package {count : Nat} {b : Pipeline.State size fwSize} {net : Echo.State size fwSize devSize}
      {port : WriterThread.State UInt8 size}
      (complete : (received D s.net.bridge count).2 = .package)
      (bridge : Pipeline.step D portConfig s.net.bridge (.recv count) = some b)
      (threads : WriterThread.step D.config (portConfig k) s.port
        (.rxCheck (Response.map k (received D s.net.bridge count).1.rxBuff)
          (downlinkPair D.config k (received D s.net.bridge count).1.rxBuff).2) = some port)
      (set : net.bridge = { b with ports := b.ports.set k port.port }) :
      Stepped D portConfig k s (.net (.bridge (.recv count))) { net := net, port := port }
  | boards {e : Echo.Event size} {net : Echo.State size fwSize devSize}
      (same : net.bridge = s.net.bridge) (quiet : portEvents D k s (.net e) = []) :
      Stepped D portConfig k s (.net e) { net := net, port := s.port }
  | thread {e : WriterThread.Event UInt8} {net : Echo.State size fwSize devSize}
      {port : WriterThread.State UInt8 size}
      (own : (Event.thread e : Event size).own k = true)
      (threads : WriterThread.step D.config (portConfig k) s.port e = some port)
      (set : net.bridge = { s.net.bridge with ports := s.net.bridge.ports.set k port.port }) :
      Stepped D portConfig k s (.thread e) { net := net, port := port }

/-- The first section of `ProcessRX`. -/
theorem port_of_rxCheck {response : Client.Response} {data : List UInt8}
    {p p' : WriterThread.State UInt8 size}
    (hstep : WriterThread.step D.config (portConfig k) p (.rxCheck response data) = some p') :
    p'.port = (p.port.rxCheck response).1 := by
  simp only [WriterThread.step] at hstep
  split at hstep
  · cases hstep
  · split at hstep
    · cases hstep
      rfl
    · cases hstep

/-- A step of the bridge alone. -/
theorem bridge_of_echo {net net' : Echo.State size fwSize devSize} {e : Pipeline.Event size}
    (hstep : Echo.step D portConfig net (.bridge e) = some net') :
    Pipeline.step D portConfig net.bridge e = some net'.bridge := by
  simp only [Echo.step, Option.ite_none_right_eq_some, Option.map_eq_some_iff] at hstep
  obtain ⟨-, b, hbridge, rfl⟩ := hstep
  exact hbridge

theorem package_or_none (D : Deployment) (b : Pipeline.State size fwSize)
    (e : Pipeline.Event size) :
    (∃ count, e = .recv count ∧ (received D b count).2 = .package) ∨
      ∀ count, e = .recv count → (received D b count).2 ≠ .package := by
  by_cases h : ∃ count, e = .recv count ∧ (received D b count).2 = .package
  · exact Or.inl h
  · exact Or.inr fun count he hcomplete => h ⟨count, he, hcomplete⟩

theorem bridgeEvents_recv {b : Pipeline.State size fwSize} {count : Nat}
    (hnone : (received D b count).2 ≠ .package) : bridgeEvents D k b (.recv count) = [] := by
  simp only [bridgeEvents]
  cases hresult : (received D b count).2 with
  | package => exact absurd hresult hnone
  | goOn | disposed => rfl

/-- Without a package the bridge takes this step only. -/
theorem checked_eq_nil {b : Pipeline.State size fwSize} {e : Pipeline.Event size}
    (hnone : ∀ count, e = .recv count → (received D b count).2 ≠ .package)
    (w : PortWorker UInt8 size) : (bridgeEvents D k b e).flatMap (checked k w) = [] := by
  cases e with
  | pollStart | pollSend | loop | other => rfl
  | pollPort input =>
    simp only [bridgeEvents]
    split
    · split <;> rfl
    · rfl
  | recv count =>
    rw [bridgeEvents_recv (hnone count rfl)]
    rfl

theorem stepped_of_step (hstep : step D portConfig k s e = some t) :
    Stepped D portConfig k s e t := by
  have hown := own_of_step hstep
  have hnet := net_of_step s e t hstep
  have hport := port_of_step s e t hstep
  obtain ⟨net, port⟩ := t
  dsimp only at hnet hport
  cases e with
  | net e =>
    rw [netEvents] at hnet
    cases e with
    | bridge e =>
      rw [portEvents] at hnet hport
      rcases package_or_none D s.net.bridge e with ⟨count, rfl, hcomplete⟩ | hnone
      · -- the bridge's step, and the worker as the first section leaves it
        simp only [bridgeEvents, hcomplete, List.flatMap_cons, List.flatMap_nil,
          List.append_nil, checked] at hnet
        simp only [bridgeEvents, hcomplete, exec_singleton] at hport
        obtain ⟨net', hfirst, hother⟩ := exec_cons_eq_some.mp hnet
        rw [exec_singleton] at hother
        refine .package hcomplete (bridge_of_echo hfirst) hport ?_
        have hset := bridge_of_echo hother
        rw [Pipeline.step, Option.some.injEq, ← port_of_rxCheck hport] at hset
        exact hset.symm
      · rw [checked_eq_nil hnone, exec_singleton] at hnet
        refine .bridge ?_ hnone (bridge_of_echo hnet) hport
        rintro w rfl
        exact absurd rfl (bne_iff_ne.mp hown)
    | pass i input | restart i =>
      cases hnet
      cases hport
      exact .boards rfl rfl
    | lose i line back =>
      rw [portEvents, List.flatMap_nil, exec_singleton] at hnet
      simp only [Echo.step, Option.ite_none_right_eq_some, Option.some.injEq] at hnet
      obtain ⟨-, rfl⟩ := hnet
      cases hport
      exact .boards rfl rfl
  | thread e =>
    rw [portEvents, exec_singleton] at hport
    rw [netEvents, hport, exec_singleton] at hnet
    have hset := bridge_of_echo hnet
    rw [Pipeline.step, Option.some.injEq] at hset
    exact .thread hown hport hset.symm

/-! ## The bridge's steps, seen from the port -/

section Bridge

variable {b b' : Pipeline.State size fwSize}

/-- Polls and packages apart, the bridge leaves the port workers. -/
theorem quiet_of_step {e : Pipeline.Event size} (hstep : Pipeline.step D portConfig b e = some b')
    (hpoll : ∀ input, e ≠ .pollPort input) (hrecv : ∀ count, e ≠ .recv count)
    (hother : ∀ i w, e ≠ .other i w) : b'.ports = b.ports ∧ b'.handedLog = b.handedLog := by
  cases e with
  | pollStart | pollSend =>
    rw [Pipeline.frame_of_poll hstep nofun nofun nofun nofun]
    exact ⟨rfl, rfl⟩
  | pollPort input => exact absurd rfl (hpoll input)
  | recv count => exact absurd rfl (hrecv count)
  | loop input =>
    obtain ⟨-, p, -, -, rfl⟩ := Pipeline.step_loop hstep
    exact ⟨rfl, rfl⟩
  | other i w => exact absurd rfl (hother i w)

end Bridge

/-! ## One port -/

/-- Both systems have the same worker for the port. -/
def OnePort (k : Nat) (ports : List (PortWorker UInt8 size)) (p : WriterThread.State UInt8 size) :
    Prop :=
  ports[k]? = some p.port

/-- The threads of the port take every poll and every package of the bridge. -/
theorem exists_threads {e : Pipeline.Event size} (b : Pipeline.State size fwSize)
    (p : WriterThread.State UInt8 size)
    (hready : (Event.net (.bridge e) : Event size).mayReceive p.rx = true) :
    ∃ p', exec (WriterThread.step D.config (portConfig k)) p (bridgeEvents D k b e) =
      some p' := by
  cases e with
  | pollStart | pollSend | loop | other => exact ⟨p, rfl⟩
  | pollPort input =>
    simp only [bridgeEvents]
    split
    · split
      · exact ⟨_, exec_singleton⟩
      · exact ⟨p, rfl⟩
    · exact ⟨p, rfl⟩
  | recv count =>
    have hrx : p.rx = none := Option.isNone_iff_eq_none.mp hready
    simp only [bridgeEvents]
    split
    next =>
      have hlen : (downlinkPair D.config k (received D b count).1.rxBuff).2.length =
          (Response.map k (received D b count).1.rxBuff).plSz.toNat :=
        ByteMem.length_read _ _ _
      rw [exec_singleton]
      simp only [WriterThread.step, hrx, if_pos hlen]
      exact ⟨_, rfl⟩
    all_goals exact ⟨p, rfl⟩

/-- The other threads do not hold up the bridge's UARTs. -/
theorem exists_other (D : Deployment) (portConfig : Nat → PortConfig) (k : Nat)
    (net : Echo.State size fwSize devSize) (w : PortWorker UInt8 size) :
    ∃ net', Echo.step D portConfig net (.bridge (.other k w)) = some net' := by
  have hoffered : ∀ i, i < D.cfg.uartCount →
      Wires.offered i (.other k w : Pipeline.Event size) <+: (net.device i).back :=
    fun _ _ => List.nil_prefix
  rw [Echo.step, if_pos hoffered]
  exact ⟨_, rfl⟩

/-- **The bridge is not held up**, unless `ProcessRX` of the port is half-way and a package
comes. -/
theorem exists_step_of_net {e : Echo.Event size} (hown : (Event.net e).own k = true)
    (hready : (Event.net e).mayReceive s.port.rx = true) {net : Echo.State size fwSize devSize}
    (hstep : Echo.step D portConfig s.net e = some net) :
    ∃ t, step D portConfig k s (.net e) = some t := by
  have hallowed := Bool.and_eq_true_iff.mpr ⟨hown, hready⟩
  have hport : ∃ port, exec (WriterThread.step D.config (portConfig k)) s.port
      (portEvents D k s (.net e)) = some port := by
    cases e with
    | pass | lose | restart => exact ⟨_, rfl⟩
    | bridge e => exact exists_threads s.net.bridge s.port hready
  have hchecked (es : List (WriterThread.Event UInt8)) (net : Echo.State size fwSize devSize) :
      ∃ net', exec (Echo.step D portConfig) net (es.flatMap (checked k s.port.port)) =
        some net' := by
    induction es generalizing net with
    | nil => exact ⟨net, rfl⟩
    | cons e es ih =>
      cases e with
      | rxCheck response data =>
        obtain ⟨net', hother⟩ := exists_other D portConfig k net
          (s.port.port.rxCheck response).1
        obtain ⟨net'', hrest⟩ := ih net'
        exact ⟨net'', exec_cons_eq_some.mpr ⟨net', hother, hrest⟩⟩
      | portOpen | connected | processTX | rxWrite | takeTail | takeClient | poll | dispose
      | write | commit => exact ih net
  obtain ⟨port, hport⟩ := hport
  obtain ⟨net', hrest⟩ := hchecked (portEvents D k s (.net e)) net
  have hnet : exec (Echo.step D portConfig) s.net (netEvents D portConfig k s (.net e)) =
      some net' := exec_cons_eq_some.mpr ⟨net, hstep, hrest⟩
  unfold step
  rw [if_pos hallowed, hport, hnet]
  exact ⟨_, rfl⟩

/-- **Nor are the threads of the port.** -/
theorem exists_step_of_thread {e : WriterThread.Event UInt8}
    (hown : (Event.thread e : Event size).own k = true) {port : WriterThread.State UInt8 size}
    (hstep : WriterThread.step D.config (portConfig k) s.port e = some port) :
    ∃ t, step D portConfig k s (.thread e) = some t := by
  have hallowed := Bool.and_eq_true_iff.mpr
    ⟨hown, (rfl : (Event.thread e : Event size).mayReceive s.port.rx = true)⟩
  obtain ⟨net, hother⟩ := exists_other D portConfig k s.net port.port
  unfold step
  rw [if_pos hallowed, portEvents, exec_singleton, hstep, netEvents, hstep, exec_singleton, hother]
  exact ⟨_, rfl⟩

/-- A step of the bridge without a package. -/
theorem OnePort.bridge {b b' : Pipeline.State size fwSize} {p p' : WriterThread.State UInt8 size}
    (h : OnePort k b.ports p) {e : Pipeline.Event size} (hother : ∀ w, e ≠ .other k w)
    (hnone : ∀ count, e = .recv count → (received D b count).2 ≠ .package)
    (hbridge : Pipeline.step D portConfig b e = some b')
    (hport : exec (WriterThread.step D.config (portConfig k)) p (bridgeEvents D k b e) =
      some p') : OnePort k b'.ports p' := by
  unfold OnePort at h ⊢
  cases e with
  | pollStart | pollSend | loop =>
    obtain ⟨hports, -⟩ := quiet_of_step hbridge nofun nofun nofun
    cases hport
    rwa [hports]
  | pollPort input =>
    obtain ⟨poll, w, hpoll, hw, -, rfl⟩ := Pipeline.step_pollPort hbridge
    simp only [bridgeEvents, hpoll] at hport
    by_cases hk : poll.port = k
    · rw [if_pos hk, exec_singleton] at hport
      cases hport
      subst hk
      have hsame : w = p.port := Option.some.inj (hw.symm.trans h)
      have hlt : poll.port < b.ports.length := (List.getElem?_eq_some_iff.mp hw).1
      rw [List.getElem?_set_self hlt, hsame]
    · rw [if_neg hk] at hport
      cases hport
      rw [List.getElem?_set_ne hk]
      exact h
  | recv count =>
    obtain ⟨hports, -⟩ := Pipeline.kept_of_recv hbridge (hnone count rfl)
    rw [bridgeEvents_recv (hnone count rfl)] at hport
    cases hport
    rwa [hports]
  | other i w =>
    cases hbridge
    cases hport
    have hne : i ≠ k := by
      rintro rfl
      exact hother w rfl
    dsimp only
    rw [List.getElem?_set_ne hne]
    exact h

/-- The connection was just established. -/
def init (D : Deployment) (ports : List (PortWorker UInt8 size)) (txBuff rxBuff : Nat → UInt8)
    (fw : MainLoop fwSize) (device : Nat → Echo.Device devSize) (w : PortWorker UInt8 size) :
    State size fwSize devSize :=
  { net := Echo.init D ports txBuff rxBuff fw device, port := WriterThread.start w }

/-- A client that resets the port does not come while the worker thread has a range in its
hands. -/
def Settled (D : Deployment) (portConfig : Nat → PortConfig) (k : Nat)
    (s : State size fwSize devSize) (e : Event size) : Prop :=
  Along (WriterThread.step D.config (portConfig k)) (LocalClient.Settled (portConfig k)) s.port
    (portEvents D k s e)

/-- On the way of the port nothing is lost: between the bridge's ends, and from `ProcessRX` to
the `write`. -/
def Lossless (D : Deployment) (portConfig : Nat → PortConfig) (k : Nat)
    (s : State size fwSize devSize) (e : Event size) : Prop :=
  Along (Echo.step D portConfig) (Echo.Lossless D k) s.net (netEvents D portConfig k s e) ∧
    Along (WriterThread.step D.config (portConfig k)) (LocalClient.Delivers (portConfig k)) s.port
      (portEvents D k s e)

section Runs

variable {ports : List (PortWorker UInt8 size)} {txBuff rxBuff : Nat → UInt8}
  {fw : MainLoop D.cfg.dataBufferSize} {device : Nat → Echo.Device devSize}
  {w : PortWorker UInt8 size} {es : List (Event size)}
  {u : State size D.cfg.dataBufferSize devSize}

end Runs

section Examples

open Pipeline (twoPorts twoWorkers acceptPass accepted_acceptPass)
open Deployment (ring16 port57600)
open WriterThread (writeRound)

instance (D : Deployment) (portConfig : Nat → PortConfig) (k : Nat)
    (s : State size fwSize devSize) (e : Event size) : Decidable (Settled D portConfig k s e) :=
  inferInstanceAs (Decidable (Along (WriterThread.step D.config (portConfig k))
    (LocalClient.Settled (portConfig k)) s.port (portEvents D k s e)))

instance (D : Deployment) (portConfig : Nat → PortConfig) (k : Nat)
    (s : State size fwSize devSize) (e : Event size) : Decidable (Lossless D portConfig k s e) :=
  inferInstanceAs (Decidable (Along (Echo.step D portConfig) (Echo.Lossless D k) s.net
      (netEvents D portConfig k s e) ∧
    Along (WriterThread.step D.config (portConfig k)) (LocalClient.Delivers (portConfig k)) s.port
      (portEvents D k s e)))

def firstWorker : PortWorker UInt8 16 :=
  { PortWorker.create twoPorts.config (ring16 0) with connected := true }

def atStart : State 16 32 1600 :=
  init twoPorts twoWorkers (fun _ => 0) (fun _ => 0) acceptPass.state
    (fun _ => { line := [], ringBuffer := Echo.emptyRing, back := [] }) firstWorker

/-- Port 0 is opened, and its client sends two bytes. -/
def asking : List (Event 16) :=
  Echo.opening.map .net ++ [.thread (.portOpen 0), .net (.bridge (.pollStart 2)),
    .net (.bridge (.pollPort (.bytes [0x43, 0x44]))),
    .net (.bridge (.pollPort (.error .EAGAIN))), .net (.bridge (.pollSend 0 [.sent 100]))]

def afterAsking : State 16 32 1600 :=
  (exec (step twoPorts (port57600 false) 0) atStart asking).getD atStart

end Examples

end UartBridge.RoundTrip
