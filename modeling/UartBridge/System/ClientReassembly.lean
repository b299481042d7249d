import UartBridge.System.TcpThreads
import UartBridge.System.Deployment

/-!
# Reassembly on the client

The worker thread collects a package from the connection it has in hand while the
other thread may dispose that connection and make a new one. `recv` goes through the
descriptor number the old connection object keeps; when `socket` has given the number
out again, the rest of the package is read from the new connection's stream
(`package_across_connections`). And a `Dispose` that does nothing, since the static
variable stands at true, makes the worker start a package in the middle of the
stream it was reading.

* `Undisturbed` — neither happens at this step;
* `consecutive_of_undisturbed` — then every package passed on is a run of consecutive
  bytes of one connection's stream, at a multiple of the package size.
-/

namespace UartBridge.ClientReassembly

open Client EventRun Wire TcpThreads

variable {config : Config} {streams : ConnId → Nat → UInt8}

/-- The package is `pkgSz` consecutive bytes of one connection's stream, starting at a
multiple of `pkgSz`. -/
def Consecutive (config : Config) (streams : ConnId → Nat → UInt8) (d : Delivery) : Prop :=
  ∃ c m, d.cells = cells c (streams c) (m * config.getNetPackageSz) config.getNetPackageSz ∧
    d.bytes = ByteMem.read (streams c) (m * config.getNetPackageSz) config.getNetPackageSz

/-- A `recv` that returns bytes reaches the socket of the connection it is meant for,
and a `Dispose` in the middle of a package takes effect. -/
def Undisturbed (config : Config) (s : World) : Event → Prop
  | .recv _ => OwnSocket s.net s.reader.phase
  | .worker .exchange =>
    s.reader.rx.dataLeft = 0 ∨ s.reader.rx.dataLeft = config.getNetPackageSz ∨
      TakesEffect s.net s.reader.phase
  | .worker _ | .onSendPackage _ | .sender _ | .send _ => True

instance (config : Config) (s : World) : ∀ e, Decidable (Undisturbed config s e)
  | .recv _ => inferInstanceAs (Decidable (OwnSocket s.net s.reader.phase))
  | .worker .exchange =>
    inferInstanceAs (Decidable
      (s.reader.rx.dataLeft = 0 ∨ s.reader.rx.dataLeft = config.getNetPackageSz ∨
        TakesEffect s.net s.reader.phase))
  | .worker .getConnection | .worker .close | .worker (.create _) | .worker .fail
  | .onSendPackage _ | .sender _ | .send _ => isTrue trivial

/-! ## The invariant -/

/-- What is collected came from connection `id`, from the start of a package on. -/
structure Partway (config : Config) (streams : ConnId → Nat → UInt8) (id : ConnId)
    (r : Reader) (m : Nat) : Prop where
  left_le : r.rx.dataLeft ≤ config.getNetPackageSz
  taken : r.taken id =
    m * config.getNetPackageSz + (config.getNetPackageSz - r.rx.dataLeft)
  cells_eq : r.collected = cells id (streams id) (m * config.getNetPackageSz)
    (config.getNetPackageSz - r.rx.dataLeft)
  bytes_eq : ByteMem.read r.rx.rxBuff 0 (config.getNetPackageSz - r.rx.dataLeft) =
    ByteMem.read (streams id) (m * config.getNetPackageSz)
      (config.getNetPackageSz - r.rx.dataLeft)

/-- Every live connection but the one in hand was read up to the end of a package. -/
structure Reading (config : Config) (streams : ConnId → Nat → UInt8) (net : Net) (r : Reader) :
    Prop where
  consecutive : ∀ d ∈ r.delivered, Consecutive config streams d
  untouched : ∀ c, net.transport.conns.length ≤ c → r.taken c = 0
  whole : ∀ c, net.transport.getStatus c = true →
    r.phase.engaged = some c ∨ config.getNetPackageSz ∣ r.taken c
  partway : ∀ id, r.phase.engaged = some id → ∃ m, Partway config streams id r m

variable {net net' : Net} {r : Reader} {id : ConnId} {m k : Nat}

theorem Reading.init (config : Config) (streams : ConnId → Nat → UInt8) :
    Reading config streams World.init.net World.init.reader := by
  refine ⟨fun d hd => absurd hd List.not_mem_nil, fun _ _ => rfl, ?_, ?_⟩
  · intro c hc
    exact absurd (TCPTransport.lt_of_getStatus hc) (Nat.not_lt_zero c)
  · intro id hid
    cases hid

/-- Nothing that either thread does to the connections moves a stream. -/
theorem Reading.later (h : Reading config streams net r) (hnet : Later net net') :
    Reading config streams net' r := by
  refine ⟨h.consecutive, ?_, ?_, h.partway⟩
  · intro c hc
    exact h.untouched c (Nat.le_trans hnet.length_le hc)
  · intro c hc
    rcases hnet.live c hc with hold | hnew
    · exact h.whole c hold
    · rw [h.untouched c hnew]
      exact Or.inr (Nat.dvd_zero _)

/-- Between packages, and when a package is complete, the stream stands at the end of
a package. -/
theorem Partway.dvd_taken (h : Partway config streams id r m)
    (hleft : r.rx.dataLeft = 0 ∨ r.rx.dataLeft = config.getNetPackageSz) :
    config.getNetPackageSz ∣ r.taken id := by
  rw [h.taken]
  rcases hleft with hzero | hall
  · rw [hzero, Nat.sub_zero]
    exact Nat.dvd_add (Nat.dvd_mul_left _ _) (Nat.dvd_refl _)
  · rw [hall, Nat.sub_self, Nat.add_zero]
    exact Nat.dvd_mul_left _ _

/-- A live connection at the end of a package is a good one to start with. -/
theorem Reading.enter (h : Reading config streams net r) (hnone : r.phase.engaged = none)
    (hlive : net.transport.getStatus id = true) :
    Reading config streams net (r.enter config (.holding id)) := by
  have hwhole := fun c hc => (h.whole c hc).resolve_left (by rw [hnone]; exact nofun)
  refine ⟨h.consecutive, h.untouched, fun c hc => Or.inr (hwhole c hc), ?_⟩
  intro id' hid'
  obtain rfl : id = id' := Option.some.inj hid'
  obtain ⟨m, hm⟩ := hwhole id hlive
  refine ⟨m, Nat.le_refl _, ?_, ?_, ?_⟩
  · show r.taken id = _
    rw [hm, Reader.enter, Nat.sub_self, Nat.add_zero, Nat.mul_comm]
  · rw [Reader.enter, Nat.sub_self]
    rfl
  · rw [Reader.enter, Nat.sub_self]
    rfl

/-- With no connection in hand, the phase does not matter. -/
theorem Reading.leave (h : Reading config streams net r) {phase : Phase}
    (hwhole : ∀ c, net.transport.getStatus c = true → config.getNetPackageSz ∣ r.taken c)
    (hnone : phase.engaged = none) : Reading config streams net { r with phase := phase } := by
  refine ⟨h.consecutive, h.untouched, fun c hc => Or.inr (hwhole c hc), ?_⟩
  intro id hid
  rw [show phase.engaged = some id from hid] at hnone
  cases hnone

/-- A thread that comes to a phase without a connection only changes its phase. -/
theorem enter_of_engaged_none (config : Config) (r : Reader) {phase : Phase}
    (hnone : phase.engaged = none) : r.enter config phase = { r with phase := phase } := by
  cases phase with
  | holding id => cases hnone
  | outside | closingOld _ | creating | disposing _ | closing _ => rfl

/-- **The worker's steps with the connections.** -/
theorem Reading.act {other : Phase} {a : Act} {phase : Phase}
    (h : Reading config streams net r)
    (hundisturbed : a = .exchange → r.rx.dataLeft = 0 ∨
      r.rx.dataLeft = config.getNetPackageSz ∨ TakesEffect net r.phase)
    (hact : act other net r.phase a = some (net', phase)) :
    Reading config streams net' (r.enter config phase) := by
  have hleave (hnone : phase.engaged = none) :
      Reading config streams net' (r.enter config phase) := by
    rw [enter_of_engaged_none config r hnone]
    refine (h.later (act_later hact)).leave (whole_of_act h.whole ?_ ?_ hact hnone) hnone
    · intro c hc
      rw [h.untouched c hc]
      exact Nat.dvd_zero _
    · -- a connection that was disposed is live only if no package was begun
      intro ha id hp
      obtain ⟨m, hm⟩ := h.partway id (by rw [hp]; rfl)
      rcases hundisturbed ha with hleft | hleft | heffect
      · exact Or.inl (hm.dvd_taken (Or.inl hleft))
      · exact Or.inl (hm.dvd_taken (Or.inr hleft))
      · exact Or.inr heffect
  rcases act_cases hact with ⟨id, hp, rfl, rfl⟩ | ⟨_, _, hnone, _⟩ |
    ⟨hp, hlater, hnone | ⟨id, rfl, hlive⟩⟩
  · -- the connection stays in hand
    have hengaged : r.phase.engaged = some id := by rw [hp]; rfl
    refine ⟨h.consecutive, h.untouched, ?_, ?_⟩
    · intro c hc
      show some id = some c ∨ _
      rw [← hengaged]
      exact h.whole c hc
    · intro id' hid'
      obtain ⟨m, hm⟩ := h.partway id' (hengaged.trans hid')
      exact ⟨m, hm.left_le, hm.taken, hm.cells_eq, hm.bytes_eq⟩
  · exact hleave hnone
  · exact hleave hnone
  · exact (h.later hlater).enter hp hlive

/-! ## Receiving -/

/-- What is stored is what `recv` returned, and the count goes down by it; at the end
of a good package the count starts again. -/
theorem received_cases (config : Config) (data : List UInt8) (s : TCPTransport.RxState)
    (hdata : data.length ≤ s.dataLeft) :
    (TCPTransport.received config data s).1.rxBuff =
        ByteMem.write s.rxBuff (config.getNetPackageSz - s.dataLeft) data ∧
      ((TCPTransport.received config data s).2 = .package ∧ data.length = s.dataLeft ∧
          (TCPTransport.received config data s).1.dataLeft = config.getNetPackageSz ∨
        (TCPTransport.received config data s).2 ≠ .package ∧
          (TCPTransport.received config data s).1.dataLeft = s.dataLeft - data.length) := by
  unfold TCPTransport.received
  dsimp only
  split
  · exact ⟨rfl, Or.inr ⟨nofun, rfl⟩⟩
  · split
    · exact ⟨rfl, Or.inr ⟨nofun, rfl⟩⟩
    · exact ⟨rfl, Or.inl ⟨rfl, by omega, rfl⟩⟩

/-- The package so far, with the bytes just received. -/
theorem Partway.store (h : Partway config streams id r m) (hk : k ≤ r.rx.dataLeft) :
    r.collected ++ cells id (streams id) (r.taken id) k =
        cells id (streams id) (m * config.getNetPackageSz)
          (config.getNetPackageSz - (r.rx.dataLeft - k)) ∧
      ByteMem.read (ByteMem.write r.rx.rxBuff (config.getNetPackageSz - r.rx.dataLeft)
          (ByteMem.read (streams id) (r.taken id) k)) 0
          (config.getNetPackageSz - (r.rx.dataLeft - k)) =
        ByteMem.read (streams id) (m * config.getNetPackageSz)
          (config.getNetPackageSz - (r.rx.dataLeft - k)) := by
  have hle := h.left_le
  have hsum : config.getNetPackageSz - (r.rx.dataLeft - k) =
      config.getNetPackageSz - r.rx.dataLeft + k := by omega
  refine ⟨?_, ?_⟩
  · rw [h.cells_eq, h.taken, cells_append, hsum]
  · have hread := ByteMem.read_write_append r.rx.rxBuff 0
      (config.getNetPackageSz - r.rx.dataLeft) (ByteMem.read (streams id) (r.taken id) k)
    rw [Nat.zero_add, ByteMem.length_read] at hread
    rw [hsum, hread, h.bytes_eq, h.taken, ← ByteMem.read_add]

/-- The package is still partway after a piece of it. -/
theorem Partway.received (h : Partway config streams id r m) (hk : k ≤ r.rx.dataLeft)
    {rx : TCPTransport.RxState}
    (hbuff : rx.rxBuff = ByteMem.write r.rx.rxBuff (config.getNetPackageSz - r.rx.dataLeft)
      (ByteMem.read (streams id) (r.taken id) k))
    (hleft : rx.dataLeft = r.rx.dataLeft - k) (phase : Phase) :
    Partway config streams id
      { r with
        phase := phase
        rx := rx
        taken := Function.update r.taken id (r.taken id + k)
        collected := r.collected ++ cells id (streams id) (r.taken id) k } m := by
  obtain ⟨hcells, hbytes⟩ := h.store hk
  have hle := h.left_le
  refine ⟨?_, ?_, ?_, ?_⟩
  · dsimp only
    omega
  · dsimp only
    rw [Function.update_self, h.taken, hleft]
    omega
  · dsimp only
    rw [hleft, hcells]
  · dsimp only
    rw [hleft, hbuff, hbytes]

/-- Behind the last piece the next package starts. -/
theorem Partway.completed (h : Partway config streams id r m) {rx : TCPTransport.RxState}
    (hleft : rx.dataLeft = config.getNetPackageSz) (delivered : List Delivery) :
    Partway config streams id
      { r with
        rx := rx
        taken := Function.update r.taken id (r.taken id + r.rx.dataLeft)
        collected := []
        delivered := delivered } (m + 1) := by
  have hle := h.left_le
  refine ⟨Nat.le_of_eq hleft, ?_, ?_, ?_⟩
  · dsimp only
    rw [Function.update_self, h.taken, hleft, Nat.sub_self, Nat.succ_mul]
    omega
  · dsimp only
    rw [hleft, Nat.sub_self]
    rfl
  · dsimp only
    rw [hleft, Nat.sub_self]
    rfl

/-- The other connections' streams do not move. -/
theorem Reading.others (h : Reading config streams net r) (hphase : r.phase = .holding id)
    (hown : net.named id = some id) (k : Nat) :
    (∀ c, net.transport.conns.length ≤ c →
        Function.update r.taken id (r.taken id + k) c = 0) ∧
      ∀ c, net.transport.getStatus c = true → some id = some c ∨
        config.getNetPackageSz ∣ Function.update r.taken id (r.taken id + k) c := by
  have hlt := lt_of_named hown
  refine ⟨?_, ?_⟩
  · intro c hc
    rw [Function.update_of_ne (by rintro rfl; exact absurd hlt (Nat.not_lt.mpr hc))]
    exact h.untouched c hc
  · intro c hc
    by_cases hci : c = id
    · exact Or.inl (congrArg some hci.symm)
    · rw [Function.update_of_ne hci]
      refine Or.inr ((h.whole c hc).resolve_left ?_)
      rw [hphase]
      exact fun heq => hci (Option.some.inj heq).symm

/-- **A `recv` on the connection's own socket.** -/
theorem Reading.receive {r' : Reader} (h : Reading config streams net r)
    (hphase : r.phase = .holding id) (hown : net.named id = some id)
    (hrecv : r.receive config streams net id k = some r') :
    Reading config streams net r' := by
  unfold Reader.receive at hrecv
  rw [hown] at hrecv
  dsimp only at hrecv
  split at hrecv
  · cases hrecv
  rename_i hk
  obtain ⟨m, hm⟩ := h.partway id (by rw [hphase]; rfl)
  obtain ⟨huntouched, hwhole⟩ := h.others hphase hown k
  have hdata : (ByteMem.read (streams id) (r.taken id) k).length ≤ r.rx.dataLeft := by
    rw [ByteMem.length_read]
    omega
  obtain ⟨hbuff, hresult⟩ := received_cases config _ r.rx hdata
  rw [ByteMem.length_read] at hresult
  rcases hresult with ⟨hpackage, hall, hleft⟩ | ⟨hpart, hleft⟩
  · -- the package is complete
    subst hall
    obtain ⟨hcells, hbytes⟩ := hm.store (Nat.le_refl _)
    rw [Nat.sub_self, Nat.sub_zero] at hcells hbytes
    rw [hpackage] at hrecv
    obtain rfl := Option.some.inj hrecv
    refine ⟨?_, huntouched, fun c hc => by rw [hphase]; exact hwhole c hc, ?_⟩
    · intro d hd
      rcases List.mem_append.mp hd with hold | hnew
      · exact h.consecutive d hold
      · obtain rfl := List.mem_singleton.mp hnew
        refine ⟨id, m, hcells, ?_⟩
        show ByteMem.read (TCPTransport.received config _ r.rx).1.rxBuff 0 _ = _
        rw [hbuff]
        exact hbytes
    · intro id' hid'
      rw [hphase] at hid'
      obtain rfl : id = id' := Option.some.inj hid'
      exact ⟨m + 1, hm.completed hleft _⟩
  · have hpartway := hm.received (by omega) hbuff hleft
    cases hgo : (TCPTransport.received config
        (ByteMem.read (streams id) (r.taken id) k) r.rx).2 with
    | package => exact absurd hgo hpart
    | goOn =>
      rw [hgo] at hrecv
      obtain rfl := Option.some.inj hrecv
      refine ⟨h.consecutive, huntouched, fun c hc => by rw [hphase]; exact hwhole c hc, ?_⟩
      intro id' hid'
      rw [hphase] at hid'
      obtain rfl : id = id' := Option.some.inj hid'
      exact ⟨m, hpartway r.phase⟩
    | disposed =>
      rw [hgo] at hrecv
      obtain rfl := Option.some.inj hrecv
      refine ⟨h.consecutive, huntouched, hwhole, ?_⟩
      intro id' hid'
      obtain rfl : id = id' := Option.some.inj hid'
      exact ⟨m, hpartway (.disposing id)⟩

/-! ## Runs -/

/-- A step of the sending thread leaves the worker alone. -/
theorem senderAct_reader {s t : World} {a : Act} (hstep : s.senderAct config a = some t) :
    Later s.net t.net ∧ t.reader = s.reader := by
  unfold World.senderAct at hstep
  obtain ⟨⟨net, phase⟩, hact, rfl⟩ := Option.map_eq_some_iff.mp hstep
  exact ⟨act_later hact, rfl⟩

/-- **One step.** -/
theorem Reading.step {s t : World} {e : Event} (h : Reading config streams s.net s.reader)
    (hundisturbed : Undisturbed config s e)
    (hstep : TcpThreads.step config streams s e = some t) :
    Reading config streams t.net t.reader := by
  cases e with
  | worker a =>
    unfold TcpThreads.step World.workerAct at hstep
    obtain ⟨⟨net, phase⟩, hact, rfl⟩ := Option.map_eq_some_iff.mp hstep
    refine h.act ?_ hact
    rintro rfl
    exact hundisturbed
  | recv k =>
    unfold TcpThreads.step at hstep
    dsimp only at hstep
    split at hstep
    · rename_i id hphase
      obtain ⟨reader, hrecv, rfl⟩ := Option.map_eq_some_iff.mp hstep
      refine h.receive hphase ?_ hrecv
      rw [Undisturbed, hphase] at hundisturbed
      exact hundisturbed
    · cases hstep
  | onSendPackage package =>
    obtain ⟨hnet, hreader⟩ := senderAct_reader hstep
    exact hreader ▸ h.later hnet
  | sender a =>
    cases a with
    | getConnection => cases hstep
    | close | create _ | fail | exchange =>
      obtain ⟨hnet, hreader⟩ := senderAct_reader hstep
      exact hreader ▸ h.later hnet
  | send k =>
    unfold TcpThreads.step at hstep
    dsimp only at hstep
    split at hstep
    · obtain ⟨sender, -, rfl⟩ := Option.map_eq_some_iff.mp hstep
      exact h
    · cases hstep

/-- **Reassembly.** When every `recv` reaches the socket it is meant for and every
`Dispose` in the middle of a package takes effect, the packages passed on are runs of
consecutive bytes of single connections. -/
theorem consecutive_of_undisturbed (config : Config) (streams : ConnId → Nat → UInt8)
    (es : List Event) (s : World)
    (run : exec (step config streams) World.init es = some s)
    (undisturbed : Along (step config streams) (Undisturbed config) World.init es) :
    ∀ d ∈ s.reader.delivered, Consecutive config streams d :=
  (exec_invariant_along (fun s => Reading config streams s.net s.reader)
    (fun _ _ _ hs hp hstep => hs.step hp hstep) (Reading.init config streams) undisturbed
    run).consecutive

/-! ## Examples -/

section Examples

/-- The packages of connection `c` carry the byte `c` and have no commands. -/
def numberedStreams (config : Config) (c : ConnId) (p : Nat) : UInt8 :=
  if p % config.getNetPackageSz < config.getNetPackageMetaSz then 0
  else if p % config.getNetPackageSz = config.getNetPackageMetaSz then
    Client.crc8 (List.replicate config.getNetPackageMetaSz 0)
  else UInt8.ofNat c

/-- A package is collected in two pieces, then sending fails and both threads go
through their `Dispose` before a package is collected from the next connection. -/
def reconnected : List Event :=
  let pkgSz := (Deployment.avrPro false).config.getNetPackageSz
  [.worker .getConnection, .worker (.create (.connected 0)), .recv 5, .recv (pkgSz - 5),
    .onSendPackage fun _ => 0, .sender .fail, .sender .exchange, .sender .close,
    .worker .fail, .worker .exchange,
    .worker .getConnection, .worker .close, .worker (.create (.connected 0)), .recv pkgSz]

def afterReconnected : World :=
  (exec (step (Deployment.avrPro false).config (numberedStreams (Deployment.avrPro false).config))
    World.init reconnected).getD World.init

/-- Two packages were passed on, one from each connection. -/
theorem consecutive_reconnected :
    afterReconnected.reader.delivered.length = 2 ∧
      ∀ d ∈ afterReconnected.reader.delivered,
        Consecutive (Deployment.avrPro false).config
          (numberedStreams (Deployment.avrPro false).config) d :=
  ⟨by decide +kernel,
    consecutive_of_undisturbed (Deployment.avrPro false).config
      (numberedStreams (Deployment.avrPro false).config) reconnected afterReconnected
      (exec_eq_some_getD (by decide +kernel)) (by decide +kernel)⟩

/-- After 20 bytes of a package the sending thread finds the connection broken,
disposes it and gets a new one, under the same descriptor. -/
def replacedInPackage : List Event :=
  let pkgSz := (Deployment.avrPro false).config.getNetPackageSz
  [.worker .getConnection, .worker (.create (.connected 0)), .recv 20,
    .onSendPackage fun _ => 0, .sender .fail, .sender .exchange, .sender .close,
    .onSendPackage fun _ => 0, .sender (.create (.connected 0)), .recv (pkgSz - 20)]

def afterReplacedInPackage : World :=
  (exec (step (Deployment.avrPro false).config (numberedStreams (Deployment.avrPro false).config))
    World.init replacedInPackage).getD World.init

/-- **The defect.** The package passed on begins with bytes of the old connection and
ends with bytes of the new one. -/
theorem package_across_connections :
    ¬ ∀ (config : Config) (streams : ConnId → Nat → UInt8) (es : List Event) (s : World),
      exec (step config streams) World.init es = some s →
        ∀ d ∈ s.reader.delivered, Consecutive config streams d := by
  intro h
  have hrun := h _ _ replacedInPackage afterReplacedInPackage
    (exec_eq_some_getD (by decide +kernel))
  -- all cells of a package as it should be come from one stream
  have hone : ∀ d ∈ afterReplacedInPackage.reader.delivered, ∃ c, ∀ cell ∈ d.cells,
      cell.src = c := by
    intro d hd
    obtain ⟨c, m, hcells, -⟩ := hrun d hd
    exact ⟨c, fun cell hcell => src_of_mem_cells (hcells ▸ hcell)⟩
  have hboth : ∃ d ∈ afterReplacedInPackage.reader.delivered,
      (∃ cell ∈ d.cells, cell.src = 0) ∧ ∃ cell ∈ d.cells, cell.src = 1 := by
    decide +kernel
  obtain ⟨d, hd, ⟨a, ha, hzero⟩, b, hb, hone'⟩ := hboth
  obtain ⟨c, hc⟩ := hone d hd
  have hac := hc a ha
  have hbc := hc b hb
  omega

end Examples

end UartBridge.ClientReassembly
