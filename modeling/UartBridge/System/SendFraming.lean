import UartBridge.System.TcpThreads
import UartBridge.System.PassLink

/-!
# Packages on the connection, from both ends

Either program sends a package piece by piece, and a call may fail when a part of the
package is out. What has to follow is nothing; whether that is so depends on what the
failure leaves behind.

The client disposes the connection, but `Dispose` does nothing when the static
variable stands at true, which a repeated `Dispose` of an earlier connection makes
it. And it sends through the descriptor number of the connection object, which may
name a newer connection's socket when the worker thread disposed this one. The
firmware keeps no note of a package that `write` took in part: with the next poll it
writes the next package on the same connection.

* `Settles` — neither happens at this step of the client;
* `GivesUp` — on a connection with a part of a package, `write` fails from then on;
* `framed_of_settled` — then either end puts whole packages on a connection, in order,
  and at most one cut off at the end.
-/

namespace UartBridge.SendFraming

open Client Firmware EventRun Wire

/-! ## The client -/

section Client

open TcpThreads

variable {config : Config} {net net' : Net} {w w' : Sender} {id : ConnId} {k : Nat}

/-- A `send` that takes bytes reaches the socket of the connection it is meant for,
and a `Dispose` after a part of a package takes effect. -/
def Settles (config : Config) (s : World) : TcpThreads.Event → Prop
  | .send _ => OwnSocket s.net s.sender.phase
  | .sender .exchange =>
    s.sender.dataLeft = config.getNetPackageSz ∨ TakesEffect s.net s.sender.phase
  | .worker _ | .recv _ | .onSendPackage _ | .sender _ => True

instance (config : Config) (s : World) : ∀ e, Decidable (Settles config s e)
  | .send _ => inferInstanceAs (Decidable (OwnSocket s.net s.sender.phase))
  | .sender .exchange =>
    inferInstanceAs (Decidable
      (s.sender.dataLeft = config.getNetPackageSz ∨ TakesEffect s.net s.sender.phase))
  | .sender .getConnection | .sender .close | .sender (.create _) | .sender .fail
  | .worker _ | .recv _ | .onSendPackage _ => isTrue trivial

/-- The package being sent is on connection `id` as far as it went. -/
structure Partway (config : Config) (id : ConnId) (w : Sender) : Prop where
  left_le : w.dataLeft ≤ config.getNetPackageSz
  package : w.packages w.number = w.txBuff
  upto : Upto config.getNetPackageSz w.packages (w.wire id) w.number
    (config.getNetPackageSz - w.dataLeft)

/-- Every live connection but the one in hand carries whole packages. -/
structure Sending (config : Config) (net : Net) (w : Sender) : Prop where
  framed : ∀ c, ∃ q, q ≤ w.number ∧ ∃ k, k ≤ config.getNetPackageSz ∧
    Upto config.getNetPackageSz w.packages (w.wire c) q k
  untouched : ∀ c, net.transport.conns.length ≤ c → w.wire c = []
  whole : ∀ c, net.transport.getStatus c = true → w.phase.engaged = some c ∨
    Upto config.getNetPackageSz w.packages (w.wire c) (w.number + 1) 0
  partway : ∀ id, w.phase.engaged = some id → Partway config id w

theorem Sending.init (config : Config) : Sending config World.init.net World.init.sender := by
  refine ⟨fun c => ⟨0, Nat.le_refl 0, 0, Nat.zero_le _, Upto.start _ _ 0⟩, fun _ _ => rfl, ?_, ?_⟩
  · intro c hc
    exact absurd (TCPTransport.lt_of_getStatus hc) (Nat.not_lt_zero c)
  · intro id hid
    cases hid

/-- Nothing that either thread does to the connections puts a byte on one. -/
theorem Sending.later (h : Sending config net w) (hnet : Later net net') :
    Sending config net' w := by
  refine ⟨h.framed, ?_, ?_, h.partway⟩
  · intro c hc
    exact h.untouched c (Nat.le_trans hnet.length_le hc)
  · intro c hc
    rcases hnet.live c hc with hold | hnew
    · exact h.whole c hold
    · rw [h.untouched c hnew]
      exact Or.inr (Upto.start _ _ _)

/-- The package given to `OnSendPackage` is not sent before there is a connection. -/
theorem Sending.given (h : Sending config net w) (hnone : w.phase.engaged = none)
    (package : Nat → UInt8) : Sending config net { w with txBuff := package } := by
  refine ⟨h.framed, h.untouched, h.whole, ?_⟩
  intro id hid
  rw [show w.phase.engaged = some id from hid] at hnone
  cases hnone

/-- With no connection in hand, the phase does not matter. -/
theorem Sending.leave (h : Sending config net w) {phase : Phase}
    (hwhole : ∀ c, net.transport.getStatus c = true →
      Upto config.getNetPackageSz w.packages (w.wire c) (w.number + 1) 0)
    (hnone : phase.engaged = none) : Sending config net { w with phase := phase } := by
  refine ⟨h.framed, h.untouched, fun c hc => Or.inr (hwhole c hc), ?_⟩
  intro id hid
  rw [show phase.engaged = some id from hid] at hnone
  cases hnone

/-- A live connection that carries whole packages is a good one for the next. -/
theorem Sending.enter (h : Sending config net w) (hnone : w.phase.engaged = none)
    (hlive : net.transport.getStatus id = true) :
    Sending config net (w.enter config net (.holding id)) := by
  have hwhole := fun c hc => (h.whole c hc).resolve_left (by rw [hnone]; exact nofun)
  obtain ⟨conn, hconn⟩ : ∃ conn, net.transport.conns[id]? = some conn :=
    ⟨_, List.getElem?_eq_getElem (TCPTransport.lt_of_getStatus hlive)⟩
  unfold Sender.enter
  simp only [hconn]
  generalize TCPTransport.stampPackage config conn.udpTransportPort w.txBuff = txBuff
  -- the packages before the new one are the same
  have hbefore : ∀ i, i < w.number + 1 →
      Function.update w.packages (w.number + 1) txBuff i = w.packages i := by
    intro i hi
    exact Function.update_of_ne (Nat.ne_of_lt hi) _ _
  refine ⟨?_, h.untouched, ?_, ?_⟩
  · intro c
    obtain ⟨q, hq, k, hk, hupto⟩ := h.framed c
    refine ⟨q, Nat.le_succ_of_le hq, k, hk, hupto.congr ?_ (Or.inr ?_)⟩
    · intro i hi
      exact hbefore i (by omega)
    · exact hbefore q (by omega)
  · intro c hc
    exact Or.inr (((hwhole c hc).congr hbefore (Or.inl rfl)).later (Nat.le_succ _))
  · intro id' hid'
    obtain rfl : id = id' := Option.some.inj hid'
    refine ⟨Nat.le_refl _, Function.update_self _ _ _, ?_⟩
    dsimp only
    rw [Nat.sub_self]
    exact (hwhole id hlive).congr hbefore (Or.inl rfl)

/-- A thread that comes to a phase without a connection only changes its phase. -/
theorem enter_of_engaged_none (config : Config) (net : Net) (w : Sender) {phase : Phase}
    (hnone : phase.engaged = none) : w.enter config net phase = { w with phase := phase } := by
  cases phase with
  | holding id => cases hnone
  | outside | closingOld _ | creating | disposing _ | closing _ => rfl

/-- **The sending thread's steps with the connections.** -/
theorem Sending.act {other phase : Phase} {a : Act} (h : Sending config net w)
    (hsettles : a = .exchange →
      w.dataLeft = config.getNetPackageSz ∨ TakesEffect net w.phase)
    (hact : act other net w.phase a = some (net', phase)) :
    Sending config net' (w.enter config net' phase) := by
  have hleave (hnone : phase.engaged = none) :
      Sending config net' (w.enter config net' phase) := by
    rw [enter_of_engaged_none config _ w hnone]
    refine (h.later (act_later hact)).leave (whole_of_act h.whole ?_ ?_ hact hnone) hnone
    · intro c hc
      rw [h.untouched c hc]
      exact Upto.start _ _ _
    · -- a connection that was disposed is live only if nothing of the package is out
      intro ha id hp
      rcases hsettles ha with hleft | heffect
      · have hupto := (h.partway id (by rw [hp]; rfl)).upto
        rw [hleft, Nat.sub_self] at hupto
        exact Or.inl (hupto.later (Nat.le_succ _))
      · exact Or.inr heffect
  rcases act_cases hact with ⟨id, hp, rfl, rfl⟩ | ⟨_, _, hnone, _⟩ |
    ⟨hp, hlater, hnone | ⟨id, rfl, hlive⟩⟩
  · -- the connection stays in hand
    have hengaged : w.phase.engaged = some id := by rw [hp]; rfl
    refine ⟨h.framed, h.untouched, ?_, ?_⟩
    · intro c hc
      show some id = some c ∨ _
      rw [← hengaged]
      exact h.whole c hc
    · intro id' hid'
      obtain ⟨hleft, hpackage, hupto⟩ := h.partway id' (hengaged.trans hid')
      exact ⟨hleft, hpackage, hupto⟩
  · exact hleave hnone
  · exact hleave hnone
  · exact (h.later hlater).enter hp hlive

/-- **A `send` on the connection's own socket.** -/
theorem Sending.transmit (h : Sending config net w) (hphase : w.phase = .holding id)
    (hown : net.named id = some id) (hsend : w.transmit config net id k = some w') :
    Sending config net w' := by
  unfold Sender.transmit at hsend
  rw [hown] at hsend
  dsimp only at hsend
  split at hsend
  · cases hsend
  rename_i hk
  obtain rfl := Option.some.inj hsend
  obtain ⟨hleft, hpackage, hupto⟩ := h.partway id (by rw [hphase]; rfl)
  have hlt := lt_of_named hown
  have hsum : config.getNetPackageSz - w.dataLeft + k =
      config.getNetPackageSz - (w.dataLeft - k) := by omega
  -- the package is on the wire up to the end of this piece
  have hpiece : Upto config.getNetPackageSz w.packages
      (Function.update w.wire id (w.wire id ++
        cells w.number w.txBuff (config.getNetPackageSz - w.dataLeft) k) id) w.number
      (config.getNetPackageSz - (w.dataLeft - k)) := by
    rw [Function.update_self, ← hpackage, ← hsum]
    exact hupto.extend k
  refine ⟨?_, ?_, ?_, ?_⟩
  · intro c
    by_cases hc : c = id
    · subst hc
      exact ⟨w.number, Nat.le_refl _, _, Nat.sub_le _ _, hpiece⟩
    · dsimp only
      rw [Function.update_of_ne hc]
      exact h.framed c
  · intro c hc
    dsimp only
    rw [Function.update_of_ne (by rintro rfl; exact absurd hlt (Nat.not_lt.mpr hc))]
    exact h.untouched c hc
  · intro c hc
    by_cases hci : c = id
    · subst hci
      dsimp only
      split
      · -- that was the rest of the package
        rename_i hall
        rw [hall, Nat.sub_self, Nat.sub_zero] at hpiece
        exact Or.inr (hall ▸ hpiece.next (Nat.lt_succ_self _))
      · exact Or.inl rfl
    · dsimp only
      rw [Function.update_of_ne hci]
      refine Or.inr ((h.whole c hc).resolve_left ?_)
      rw [hphase]
      exact fun heq => hci (Option.some.inj heq).symm
  · intro id' hid'
    dsimp only at hid'
    split at hid'
    · cases hid'
    · obtain rfl : id = id' := Option.some.inj hid'
      exact ⟨Nat.le_trans (Nat.sub_le _ _) hleft, hpackage, hpiece⟩

/-- A step of the worker thread leaves the sender alone. -/
theorem workerAct_sender {s t : World} {a : Act} (hstep : s.workerAct config a = some t) :
    Later s.net t.net ∧ t.sender = s.sender := by
  unfold World.workerAct at hstep
  obtain ⟨⟨net, phase⟩, hact, rfl⟩ := Option.map_eq_some_iff.mp hstep
  exact ⟨act_later hact, rfl⟩

/-- `GetConnection` is called with no connection in hand. -/
theorem engaged_of_getConnection {other p p' : Phase} {n n' : Net}
    (h : act other n p .getConnection = some (n', p')) : p.engaged = none := by
  cases p with
  | outside => rfl
  | closingOld _ | creating | holding _ | disposing _ | closing _ => cases h

/-- **One step of the client.** -/
theorem Sending.step {streams : ConnId → Nat → UInt8} {s t : World} {e : TcpThreads.Event}
    (h : Sending config s.net s.sender) (hsettles : Settles config s e)
    (hstep : TcpThreads.step config streams s e = some t) :
    Sending config t.net t.sender := by
  cases e with
  | worker a =>
    obtain ⟨hnet, hsender⟩ := workerAct_sender hstep
    exact hsender ▸ h.later hnet
  | recv k =>
    unfold TcpThreads.step at hstep
    dsimp only at hstep
    split at hstep
    · obtain ⟨reader, -, rfl⟩ := Option.map_eq_some_iff.mp hstep
      exact h
    · cases hstep
  | onSendPackage package =>
    unfold TcpThreads.step World.senderAct at hstep
    obtain ⟨⟨net, phase⟩, hact, rfl⟩ := Option.map_eq_some_iff.mp hstep
    refine (h.given (engaged_of_getConnection hact) package).act ?_ hact
    intro hne
    cases hne
  | sender a =>
    have hact' (hne : a ≠ .getConnection) : s.senderAct config a = some t := by
      cases a with
      | getConnection => exact absurd rfl hne
      | close | create _ | fail | exchange => exact hstep
    by_cases hget : a = .getConnection
    · subst hget
      cases hstep
    · have hsend := hact' hget
      unfold World.senderAct at hsend
      obtain ⟨⟨net, phase⟩, hact, rfl⟩ := Option.map_eq_some_iff.mp hsend
      refine h.act ?_ hact
      rintro rfl
      exact hsettles
  | send k =>
    unfold TcpThreads.step at hstep
    dsimp only at hstep
    split at hstep
    · rename_i id hphase
      obtain ⟨sender, hsend, rfl⟩ := Option.map_eq_some_iff.mp hstep
      refine h.transmit hphase ?_ hsend
      rw [Settles, hphase] at hsettles
      exact hsettles
    · cases hstep

/-- On every connection the client puts whole packages, and at most one that is cut
off, at the end. -/
def ClientFramed (config : Config) (s : World) : Prop :=
  ∀ c, Framed config.getNetPackageSz s.sender.packages (s.sender.wire c)

theorem Sending.clientFramed {s : World} (h : Sending config s.net s.sender) :
    ClientFramed config s := by
  intro c
  obtain ⟨q, -, k, hk, hupto⟩ := h.framed c
  exact ⟨q, k, hk, hupto⟩

end Client

/-! ## The firmware -/

section Firmware

variable {size : Nat}

/-- The firmware, and what a reader of the connections records: the send buffer after
each pass, what was put on the current connection, and on the ones before it. The
package of a pass is known by the number of the pass. -/
structure Output (size : Nat) where
  main : MainLoop size
  passes : Nat
  packages : Nat → Nat → UInt8
  wire : List (Cell UInt8)
  earlier : List (List (Cell UInt8))

namespace Output

/-- The firmware right after `setup`. -/
def start (main : MainLoop size) : Output size :=
  { main := main, passes := 0, packages := fun _ _ => 0, wire := [], earlier := [] }

/-- The bytes of a pass, as cells of that pass's package. -/
def sentCells (pass : Nat) (sent : List UInt8) : List (Cell UInt8) :=
  sent.mapIdx fun p b => { src := pass, pos := p, val := b }

/-- One pass of the loop; a new connection starts with nothing on it. -/
def step (cfg : Configuration) (s : Output size) (input : LoopInput) : Option (Output size) :=
  (s.main.loop cfg input).map fun p =>
    let s := match tcpEvent cfg input s.main with
      | .Connected _ => { s with wire := [], earlier := s.earlier ++ [s.wire] }
      | .NoEvent _ | .NewRequest _ | .Disconnected _ => s
    { s with
      main := p.state
      passes := s.passes + 1
      packages := Function.update s.packages s.passes p.state.txBuff
      wire := s.wire ++ sentCells s.passes p.sent }

end Output

/-- On a connection that carries a part of a package at its end, `write` fails. -/
def GivesUp (cfg : Configuration) (s : Output size) (input : LoopInput) : Prop :=
  s.main.tcpServer.connected = true → s.wire.length % cfg.packageSize ≠ 0 →
    input.tcpWrites.headD 0 = 0

instance (cfg : Configuration) (s : Output size) (input : LoopInput) :
    Decidable (GivesUp cfg s input) :=
  inferInstanceAs (Decidable (s.main.tcpServer.connected = true →
    s.wire.length % cfg.packageSize ≠ 0 → input.tcpWrites.headD 0 = 0))

/-- On every connection the firmware put whole packages, and at most one that is cut
off, at the end. -/
def FirmwareFramed (cfg : Configuration) (s : Output size) : Prop :=
  ∀ wire ∈ s.wire :: s.earlier, Framed cfg.packageSize s.packages wire

/-- The packages on a wire are those of earlier passes. -/
def Before (cfg : Configuration) (s : Output size) (wire : List (Cell UInt8)) : Prop :=
  ∃ q k, k ≤ cfg.packageSize ∧ q ≤ s.passes ∧ (k = 0 ∨ q < s.passes) ∧
    Upto cfg.packageSize s.packages wire q k

structure Writing (cfg : Configuration) (s : Output size) : Prop where
  client_eq : s.main.tcpClientState = s.main.tcpServer.connected
  before : ∀ wire ∈ s.wire :: s.earlier, Before cfg s wire

variable {cfg : Configuration} {s t : Output size} {input : LoopInput}

theorem Writing.start {main : MainLoop size}
    (hclient : main.tcpClientState = main.tcpServer.connected) :
    Writing cfg (Output.start main) := by
  refine ⟨hclient, ?_⟩
  intro wire hwire
  rw [show wire = [] from List.mem_singleton.mp hwire]
  exact ⟨0, 0, Nat.zero_le _, Nat.le_refl _, Or.inl rfl, Upto.start _ _ _⟩

theorem Writing.framed (h : Writing cfg s) : FirmwareFramed cfg s := by
  intro wire hwire
  obtain ⟨q, k, hk, -, -, hupto⟩ := h.before wire hwire
  exact ⟨q, k, hk, hupto⟩

theorem sentCells_read (pass : Nat) (mem : Nat → UInt8) (n : Nat) :
    Output.sentCells pass (ByteMem.read mem 0 n) = cells pass mem 0 n := by
  apply List.ext_getElem
  · simp [Output.sentCells, length_cells]
  · intro i hi hi'
    simp [Output.sentCells, cells, ByteMem.getElem_read]

/-- Without a part of a package at the end, the package of this pass may follow. -/
theorem Before.upto {wire : List (Cell UInt8)} (h : Before cfg s wire)
    (hmod : wire.length % cfg.packageSize = 0) :
    Upto cfg.packageSize s.packages wire s.passes 0 := by
  obtain ⟨q, k, hk, hle, hq, hupto⟩ := h
  rcases Nat.eq_or_lt_of_le hk with hall | hlt
  · -- the last package is whole
    rcases hq with hzero | hq
    · rw [hzero] at hupto
      exact hupto.later hle
    · rw [hall] at hupto
      exact hupto.next hq
  · rw [hupto.length_mod, Nat.mod_eq_of_lt hlt] at hmod
    subst hmod
    exact hupto.later hle

/-- The packages of the passes so far are those they were. -/
theorem packages_before {txBuff : Nat → UInt8}
    (hpackages : t.packages = Function.update s.packages s.passes txBuff) {i : Nat}
    (hi : i < s.passes) : t.packages i = s.packages i := by
  rw [hpackages]
  exact Function.update_of_ne (Nat.ne_of_lt hi) _ _

/-- A wire that nothing was put on in the pass. -/
theorem Before.idle {wire : List (Cell UInt8)} {txBuff : Nat → UInt8} (h : Before cfg s wire)
    (hpasses : t.passes = s.passes + 1)
    (hpackages : t.packages = Function.update s.packages s.passes txBuff) : Before cfg t wire := by
  obtain ⟨q, k, hk, hle, hq, hupto⟩ := h
  refine ⟨q, k, hk, by omega, by omega, hupto.congr ?_ ?_⟩
  · intro i hi
    exact packages_before hpackages (by omega)
  · rcases hq with hzero | hq
    · exact Or.inl hzero
    · exact Or.inr (packages_before hpackages hq)

/-- **A pass puts a package**, or the beginning of one, on a connection with whole
packages. -/
theorem Before.put {wire : List (Cell UInt8)} {sent : List UInt8} {txBuff : Nat → UInt8}
    (h : Before cfg s wire) (hmod : wire.length % cfg.packageSize = 0 ∨ sent = [])
    (hpasses : t.passes = s.passes + 1)
    (hpackages : t.packages = Function.update s.packages s.passes txBuff)
    (hsent : sent = ByteMem.read txBuff 0 sent.length) (hle : sent.length ≤ cfg.packageSize) :
    Before cfg t (wire ++ Output.sentCells s.passes sent) := by
  rcases hmod with hmod | hnone
  · refine ⟨s.passes, sent.length, hle, by omega, Or.inr (by omega), ?_⟩
    have hupto := ((h.upto hmod).congr (fun _ => packages_before hpackages) (Or.inl rfl)).extend
      sent.length
    rw [Nat.zero_add, hpackages, Function.update_self] at hupto
    rw [hsent, sentCells_read, ByteMem.length_read, hpackages]
    exact hupto
  · rw [hnone]
    show Before cfg t (wire ++ [])
    rw [List.append_nil]
    exact h.idle hpasses hpackages

/-- **One pass of the firmware.** -/
theorem Writing.step (h : Writing cfg s) (hgivesUp : GivesUp cfg s input)
    (hstep : Output.step cfg s input = some t) : Writing cfg t := by
  unfold Output.step at hstep
  obtain ⟨p, hp, rfl⟩ := Option.map_eq_some_iff.mp hstep
  obtain ⟨hsent, hlen, hclient, hgave⟩ := loop_puts hp
  have hturn := loop_turn hp
  have hclient_eq := h.client_eq
  dsimp only
  generalize tcpEvent cfg input s.main = event at hturn ⊢
  generalize p.consumed = consumed at hturn
  -- a pass with no new connection
  have hsame (hevent : ∀ addr, event ≠ .Connected addr)
      (hclient' : p.state.tcpClientState = p.state.tcpServer.connected)
      (hon : p.state.tcpClientState = true → s.main.tcpServer.connected = true) :
      Writing cfg
        (let s := match event with
          | .Connected _ => { s with wire := [], earlier := s.earlier ++ [s.wire] }
          | .NoEvent _ | .NewRequest _ | .Disconnected _ => s
        { s with
          main := p.state
          passes := s.passes + 1
          packages := Function.update s.packages s.passes p.state.txBuff
          wire := s.wire ++ Output.sentCells s.passes p.sent }) := by
    have hmod : s.wire.length % cfg.packageSize = 0 ∨ p.sent = [] := by
      by_cases hnone : p.sent = []
      · exact Or.inr hnone
      · refine Or.inl (not_not.mp fun hpart => hnone (hgave (hgivesUp ?_ hpart)))
        exact hon (hclient hnone)
    cases event with
    | Connected addr => exact absurd rfl (hevent addr)
    | NoEvent | NewRequest | Disconnected =>
      refine ⟨hclient', ?_⟩
      intro wire hwire
      rcases List.mem_cons.mp hwire with rfl | hwire
      · exact (h.before _ List.mem_cons_self).put hmod rfl rfl hsent hlen
      · exact (h.before _ (List.mem_cons_of_mem _ hwire)).idle rfl rfl
  cases hturn with
  | accepted addr connected tcpServer client =>
    refine ⟨by rw [tcpServer]; exact client, ?_⟩
    intro wire hwire
    rcases List.mem_cons.mp hwire with rfl | hwire
    · -- the first package of the new connection
      exact Before.put ⟨0, 0, Nat.zero_le _, Nat.zero_le _, Or.inl rfl, Upto.start _ _ _⟩
        (Or.inl (Nat.zero_mod _)) rfl rfl hsent hlen
    · refine (h.before wire ?_).idle rfl rfl
      rcases List.mem_append.mp hwire with hold | hlast
      · exact List.mem_cons_of_mem _ hold
      · rw [List.mem_singleton.mp hlast]
        exact List.mem_cons_self
  | idle connected tcpServer client =>
    refine hsame nofun (by rw [client, tcpServer, hclient_eq]) ?_
    intro hon
    rwa [client, hclient_eq] at hon
  | dropped connected tcpServer client =>
    exact hsame nofun (by rw [client, tcpServer]) fun _ => connected
  | nothing connected tcpServer client =>
    exact hsame nofun (by rw [client, tcpServer, hclient_eq]) fun _ => connected
  | part connected left tcpServer client =>
    exact hsame nofun (by rw [client, tcpServer, hclient_eq, connected]) fun _ => connected
  | bad connected left crc tcpServer client =>
    exact hsame nofun (by rw [client, tcpServer]) fun _ => connected
  | package port connected left crc tcpServer client =>
    exact hsame nofun (by rw [client, tcpServer, hclient_eq, connected]) fun _ => connected

end Firmware

/-! ## Both ends -/

/-- **Framing on the connection.** While every `send` reaches the socket it is meant
for and every `Dispose` after a part of a package takes effect, and while `write` fails
for good on a connection with a part of a package, both ends put whole packages on each
connection, in order, and at most one that is cut off at the end. -/
theorem framed_of_settled {size : Nat} (config : Config) (streams : ConnId → Nat → UInt8)
    (cfg : Configuration) (rxRingBuffs : List (DataBuffer UInt8 size)) (millis micros : UInt32) :
    (∀ (es : List TcpThreads.Event) (s : TcpThreads.World),
      exec (TcpThreads.step config streams) TcpThreads.World.init es = some s →
      Along (TcpThreads.step config streams) (Settles config) TcpThreads.World.init es →
        ClientFramed config s) ∧
    (∀ (inputs : List LoopInput) (s : Output size),
      exec (Output.step cfg) (.start (.setup cfg rxRingBuffs millis micros)) inputs = some s →
      Along (Output.step cfg) (GivesUp cfg) (.start (.setup cfg rxRingBuffs millis micros))
        inputs →
        FirmwareFramed cfg s) := by
  refine ⟨?_, ?_⟩
  · intro es s run settles
    exact (exec_invariant_along (fun s => Sending config s.net s.sender)
      (fun _ _ _ hs hp hstep => hs.step hp hstep) (Sending.init config) settles run).clientFramed
  · intro inputs s run givesUp
    exact (exec_invariant_along (Writing cfg) (fun _ _ _ hs hp hstep => hs.step hp hstep)
      (Writing.start rfl) givesUp run).framed

/-! ## Examples -/

section Examples

open TcpThreads (World Event)
open Deployment (ring512)

/-- A package is sent; of the next one only five bytes go out, and the third is sent on
a new connection. -/
def resent : List Event :=
  let pkgSz := (Deployment.avrPro false).config.getNetPackageSz
  [.onSendPackage fun _ => 0, .sender (.create (.connected 0)), .send 7, .send (pkgSz - 7),
    .onSendPackage fun _ => 1, .send 5, .sender .fail, .sender .exchange, .sender .close,
    .onSendPackage fun _ => 2, .sender (.create (.connected 0)), .send pkgSz]

def afterResent : World :=
  (exec (TcpThreads.step (Deployment.avrPro false).config fun _ _ => 0) World.init resent).getD
    World.init

/-- A package is written in two polls' time; of the next one seven bytes go out, and
then `write` fails. -/
def gaveUp : List LoopInput :=
  [.accepts .avrPro, .quiet .avrPro 4096 [0x41], .quiet .avrPro 8192 [0x42],
    .quiet .avrPro 12288 [], { LoopInput.quiet .avrPro 16384 [] with tcpWrites := [7, 0] },
    { LoopInput.quiet .avrPro 20480 [] with tcpWrites := [] },
    { LoopInput.quiet .avrPro 24576 [] with tcpWrites := [0] }]

def switchedOn : Output 512 := .start (.setup .avrPro [ring512] 0 0)

def afterGaveUp : Output 512 := (exec (Output.step .avrPro) switchedOn gaveUp).getD switchedOn

/-- On the client's first connection are a package and five bytes of the next, on the
second a package; on the firmware's a package and seven bytes of the next. -/
theorem framed_resent :
    (ClientFramed (Deployment.avrPro false).config afterResent ∧
      (List.range 2).map (fun c => (afterResent.sender.wire c).length) =
        [(Deployment.avrPro false).config.getNetPackageSz + 5,
          (Deployment.avrPro false).config.getNetPackageSz]) ∧
      FirmwareFramed .avrPro afterGaveUp ∧
        afterGaveUp.wire.length = Configuration.avrPro.packageSize + 7 :=
  have framed := framed_of_settled (Deployment.avrPro false).config (fun _ _ => 0)
    Configuration.avrPro [ring512] 0 0
  ⟨⟨framed.1 resent afterResent (exec_eq_some_getD (by decide +kernel)) (by decide +kernel),
      by decide +kernel⟩,
    framed.2 gaveUp afterGaveUp (exec_eq_some_getD (by decide +kernel)) (by decide +kernel),
    by decide +kernel⟩

/-- The second connection of the client fails after five bytes; the static variable
stands at true since the first connection was disposed twice. -/
def secondFails : List Event :=
  let pkgSz := (Deployment.avrPro false).config.getNetPackageSz
  [.onSendPackage fun _ => 0, .sender (.create (.connected 0)), .send 5,
    .sender .fail, .sender .exchange, .sender .close,
    .onSendPackage fun _ => 1, .sender (.create (.connected 0)), .send 5,
    .sender .fail, .sender .exchange, .onSendPackage fun _ => 2, .send pkgSz]

def afterSecondFails : World :=
  (exec (TcpThreads.step (Deployment.avrPro false).config fun _ _ => 0) World.init
    secondFails).getD World.init

/-- Two responses, of the first of which `write` takes one byte. -/
def writtenOn : List LoopInput :=
  [.accepts .avrPro, .quiet .avrPro 4096 [0x41],
    { LoopInput.quiet .avrPro 8192 [0x42] with tcpWrites := [1, 0] },
    .quiet .avrPro 12288 [0x43], .quiet .avrPro 16384 [0x44]]

def afterWrittenOn : Output 512 := (exec (Output.step .avrPro) switchedOn writtenOn).getD switchedOn

/-- A wire that begins with cells of two frames is not what it should be. -/
theorem not_framed_of_two {n : Nat} {frames : Nat → Nat → UInt8} {wire : List (Cell UInt8)}
    {i j : Nat} (hi : i ∈ (wire.take n).map Cell.src) (hj : j ∈ (wire.take n).map Cell.src)
    (hne : i ≠ j) : ¬ Framed n frames wire := by
  intro hframed
  obtain ⟨q, hq⟩ := hframed.first_frame
  obtain ⟨a, ha, rfl⟩ := List.mem_map.mp hi
  obtain ⟨b, hb, rfl⟩ := List.mem_map.mp hj
  exact hne ((hq a ha).trans (hq b hb).symm)

/-- **The defects.** Either end puts a whole package behind a part of another. -/
theorem package_after_part :
    (¬ ∀ (config : Config) (streams : ConnId → Nat → UInt8) (es : List Event) (s : World),
      exec (TcpThreads.step config streams) World.init es = some s → ClientFramed config s) ∧
    ¬ ∀ (cfg : Configuration) (rxRingBuffs : List (DataBuffer UInt8 512))
      (inputs : List LoopInput) (s : Output 512),
      exec (Output.step cfg) (.start (.setup cfg rxRingBuffs 0 0)) inputs = some s →
        FirmwareFramed cfg s := by
  refine ⟨?_, ?_⟩
  · intro h
    refine not_framed_of_two (i := 2) (j := 3) ?_ ?_ (by decide)
      (h _ _ secondFails afterSecondFails (exec_eq_some_getD (by decide +kernel)) 1)
    · decide +kernel
    · decide +kernel
  · intro h
    refine not_framed_of_two (i := 2) (j := 4) ?_ ?_ (by decide)
      (h .avrPro [ring512] writtenOn afterWrittenOn (exec_eq_some_getD (by decide +kernel))
        afterWrittenOn.wire List.mem_cons_self)
    · decide +kernel
    · decide +kernel

end Examples

end UartBridge.SendFraming
