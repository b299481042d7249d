import UartBridge.Lib.Run
import UartBridge.System.PassLink

/-!
# Reassembly on the firmware

The TCP server collects a package in the receive buffer over several passes, and the
UDP server stores its datagrams in the same buffer. Only the event tells them apart:
while a package is partly read, the event says so, and the UDP server does not read.

The bytes of each connection are a stream of their own, cut into chunks in any way.

* `Reassembled` — what was reported on a connection is its stream, block by block;
* `Reassembled.turn` — one pass keeps it;
* `reassembled` — it holds after every run.
-/

namespace UartBridge.Reassembly

open Firmware EventRun

variable {size : Nat} {cfg : Configuration} {streams : Nat → Nat → UInt8}

/-- The firmware, and what a reader of the connections records: the number of
connections so far, and by connection the number of bytes read and the packages
reported. -/
structure State (size : Nat) where
  main : MainLoop size
  conn : Nat
  taken : Nat → Nat
  reported : Nat → List (List UInt8)

/-- The firmware right after `setup`. -/
def start (main : MainLoop size) : State size :=
  { main := main, conn := 0, taken := fun _ => 0, reported := fun _ => [] }

/-- The bytes that have arrived on the connection are the next ones of its stream, and
`read` returns at least one of them. -/
def Arrived (streams : Nat → Nat → UInt8) (s : State size) (input : LoopInput) : Prop :=
  s.main.tcpServer.connected = true →
    input.tcp.available =
        ByteMem.read (streams s.conn) (s.taken s.conn) input.tcp.available.length ∧
      (input.tcp.available ≠ [] → 0 < input.tcp.readSz)

instance (streams : Nat → Nat → UInt8) (s : State size) (input : LoopInput) :
    Decidable (Arrived streams s input) :=
  inferInstanceAs (Decidable (s.main.tcpServer.connected = true →
    input.tcp.available =
        ByteMem.read (streams s.conn) (s.taken s.conn) input.tcp.available.length ∧
      (input.tcp.available ≠ [] → 0 < input.tcp.readSz)))

/-- What a pass with this event of the TCP server adds to the record. -/
def record (cfg : Configuration) (event : ClientEvent) (p : Pass size) (s : State size) :
    State size :=
  match event with
  | .Connected _ => { s with main := p.state, conn := s.conn + 1 }
  | .NewRequest _ =>
    { s with
      main := p.state
      taken := Function.update s.taken s.conn (s.taken s.conn + p.consumed)
      reported := Function.update s.reported s.conn
        (s.reported s.conn ++ [ByteMem.read p.state.rxBuff 0 cfg.packageSize]) }
  | .NoEvent _ | .Disconnected _ =>
    { s with
      main := p.state
      taken := Function.update s.taken s.conn (s.taken s.conn + p.consumed) }

/-- One pass of the loop. -/
def step (cfg : Configuration) (streams : Nat → Nat → UInt8) (s : State size)
    (input : LoopInput) : Option (State size) :=
  if Arrived streams s input then
    (s.main.loop cfg input).map fun p => record cfg (tcpEvent cfg input s.main) p s
  else none

/-! ## The blocks of a stream -/

/-- Block `j` of a stream has a good checksum. -/
def Good (cfg : Configuration) (stream : Nat → UInt8) (j : Nat) : Prop :=
  Firmware.crc8 (ByteMem.read stream (j * cfg.packageSize) cfg.metaSz) =
    stream (j * cfg.packageSize + cfg.metaSz)

/-- The packages are the first blocks of the stream, byte for byte, all good. -/
structure Blocks (cfg : Configuration) (stream : Nat → UInt8) (packages : List (List UInt8)) :
    Prop where
  packages_eq : packages = (List.range packages.length).map fun j =>
    ByteMem.read stream (j * cfg.packageSize) cfg.packageSize
  good : ∀ j, j < packages.length → Good cfg stream j

/-- What is reported on each connection is its stream, block by block, up to the first
block with a bad checksum; what was read behind it is less than a block, or the bad
block, with which the connection ended; and on the connection that is up, the receive
buffer starts with what was read behind the last package. -/
structure Reassembled (cfg : Configuration) (streams : Nat → Nat → UInt8) (s : State size) :
    Prop where
  blocks : ∀ c, Blocks cfg (streams c) (s.reported c)
  taken : ∀ c, ∃ rest, s.taken c = (s.reported c).length * cfg.packageSize + rest ∧
    (rest < cfg.packageSize ∨ rest = cfg.packageSize ∧
      ¬ Good cfg (streams c) (s.reported c).length ∧
        (c ≠ s.conn ∨ s.main.tcpServer.connected = false))
  collected : s.main.tcpServer.connected = true →
    0 < s.main.tcpServer.pkgLeft ∧ s.main.tcpServer.pkgLeft ≤ cfg.packageSize ∧
      s.taken s.conn = (s.reported s.conn).length * cfg.packageSize +
        (cfg.packageSize - s.main.tcpServer.pkgLeft) ∧
      ByteMem.read s.main.rxBuff 0 (cfg.packageSize - s.main.tcpServer.pkgLeft) =
        ByteMem.read (streams s.conn) ((s.reported s.conn).length * cfg.packageSize)
          (cfg.packageSize - s.main.tcpServer.pkgLeft)
  later : ∀ c, s.conn < c → s.taken c = 0 ∧ s.reported c = []

theorem packageSize_pos (cfg : Configuration) : 0 < cfg.packageSize := by
  simp only [Configuration.packageSize, Configuration.metaCrcSz]
  omega

theorem metaSz_lt_packageSize (cfg : Configuration) : cfg.metaSz < cfg.packageSize := by
  simp only [Configuration.packageSize, Configuration.metaCrcSz]
  omega

theorem Blocks.nil (cfg : Configuration) (stream : Nat → UInt8) : Blocks cfg stream [] :=
  ⟨rfl, fun _ h => absurd h (Nat.not_lt_zero _)⟩

/-- The next block is reported. -/
theorem Blocks.report {stream : Nat → UInt8} {packages : List (List UInt8)}
    (h : Blocks cfg stream packages) (hgood : Good cfg stream packages.length)
    {package : List UInt8}
    (hpackage : package =
      ByteMem.read stream (packages.length * cfg.packageSize) cfg.packageSize) :
    Blocks cfg stream (packages ++ [package]) := by
  refine ⟨?_, ?_⟩
  · rw [List.length_append, List.length_singleton, List.range_succ, List.map_append,
      ← h.packages_eq, hpackage]
    rfl
  · intro j hj
    rw [List.length_append, List.length_singleton] at hj
    rcases Nat.eq_or_lt_of_le (Nat.le_of_lt_succ hj) with rfl | hlt
    · exact hgood
    · exact h.good j hlt

theorem Reassembled.start (cfg : Configuration) (streams : Nat → Nat → UInt8)
    {main : MainLoop size} (hoff : main.tcpServer.connected = false) :
    Reassembled cfg streams (start main) := by
  refine ⟨fun c => Blocks.nil cfg (streams c), ?_, ?_, fun _ _ => ⟨rfl, rfl⟩⟩
  · intro c
    exact ⟨0, (Nat.zero_mul _).symm, Or.inl (packageSize_pos cfg)⟩
  · intro hon
    rw [show main.tcpServer.connected = true from hon] at hoff
    cases hoff

/-! ## One pass -/

/-- The bytes that `read` returns are the next ones of the stream. -/
theorem readBytes_eq_read {input : TcpInput} {stream : Nat → UInt8} {off : Nat}
    (harrived : input.available = ByteMem.read stream off input.available.length)
    (pkgLeft : Nat) :
    let k := (TCPServer.readBytes input pkgLeft).length
    TCPServer.readBytes input pkgLeft = ByteMem.read stream off k ∧ k ≤ pkgLeft := by
  obtain ⟨htake, hle, hleft⟩ :=
    readBytes_eq_take (List.prefix_refl input.available) pkgLeft
  refine ⟨?_, hleft⟩
  obtain ⟨m, hm⟩ := Nat.exists_eq_add_of_le hle
  rw [harrived, hm, ByteMem.read_add, List.take_left' (ByteMem.length_read _ _ _)] at htake
  exact htake

/-- What is in the buffer after `read`: the block so far, with the bytes just read. -/
theorem Reassembled.stored {s : State size} {input : LoopInput} (h : Reassembled cfg streams s)
    (harrived : Arrived streams s input) (hon : s.main.tcpServer.connected = true) :
    let k := (TCPServer.readBytes input.tcp s.main.tcpServer.pkgLeft).length
    k ≤ s.main.tcpServer.pkgLeft ∧
      ByteMem.read (storedRx cfg input s.main) 0
          (cfg.packageSize - s.main.tcpServer.pkgLeft + k) =
        ByteMem.read (streams s.conn) ((s.reported s.conn).length * cfg.packageSize)
          (cfg.packageSize - s.main.tcpServer.pkgLeft + k) := by
  obtain ⟨-, -, htaken, hread⟩ := h.collected hon
  obtain ⟨hbytes, hle⟩ := readBytes_eq_read (harrived hon).1 s.main.tcpServer.pkgLeft
  refine ⟨hle, ?_⟩
  have happend := ByteMem.read_write_append s.main.rxBuff 0
    (cfg.packageSize - s.main.tcpServer.pkgLeft)
    (TCPServer.readBytes input.tcp s.main.tcpServer.pkgLeft)
  rw [Nat.zero_add] at happend
  rw [storedRx, happend, hread, ByteMem.read_add, ← htaken]
  exact congrArg _ hbytes

/-- The block is complete: it is what is in the buffer, and its last byte was read. -/
theorem Reassembled.stored_all {s : State size} {input : LoopInput} (h : Reassembled cfg streams s)
    (harrived : Arrived streams s input) (hon : s.main.tcpServer.connected = true)
    (hleft : s.main.tcpServer.pkgLeft ≤
      (TCPServer.readBytes input.tcp s.main.tcpServer.pkgLeft).length) :
    ByteMem.read (storedRx cfg input s.main) 0 cfg.packageSize =
        ByteMem.read (streams s.conn) ((s.reported s.conn).length * cfg.packageSize)
          cfg.packageSize ∧
      s.taken s.conn + (TCPServer.readBytes input.tcp s.main.tcpServer.pkgLeft).length =
        ((s.reported s.conn).length + 1) * cfg.packageSize := by
  obtain ⟨hpos, hle, htaken, -⟩ := h.collected hon
  obtain ⟨hk, hread⟩ := h.stored harrived hon
  have hall : cfg.packageSize - s.main.tcpServer.pkgLeft +
      (TCPServer.readBytes input.tcp s.main.tcpServer.pkgLeft).length = cfg.packageSize := by
    omega
  rw [hall] at hread
  refine ⟨hread, ?_⟩
  rw [Nat.succ_mul, htaken, Nat.add_assoc, hall]

/-- A block in the buffer is good when the firmware finds it good. -/
theorem good_iff {mem stream : Nat → UInt8} {j : Nat}
    (hread : ByteMem.read mem 0 cfg.packageSize =
      ByteMem.read stream (j * cfg.packageSize) cfg.packageSize) :
    Good cfg stream j ↔
      Firmware.crc8 (ByteMem.read mem 0 cfg.metaSz) = mem cfg.metaSz := by
  have hmeta := metaSz_lt_packageSize cfg
  have hcell : ∀ i, i < cfg.packageSize → mem i = stream (j * cfg.packageSize + i) := by
    intro i hi
    have hat := congrArg (fun xs => xs[i]?) hread
    simpa [ByteMem.read, hi] using hat
  have hmetadata : ByteMem.read mem 0 cfg.metaSz =
      ByteMem.read stream (j * cfg.packageSize) cfg.metaSz := by
    apply List.ext_getElem (by simp)
    intro i hi hi'
    rw [ByteMem.getElem_read, ByteMem.getElem_read, Nat.zero_add]
    rw [ByteMem.length_read] at hi
    exact hcell i (by omega)
  rw [Good, hmetadata, hcell cfg.metaSz hmeta]

/-- What was read on a connection that is not the current one. -/
theorem Reassembled.taken_apart {s : State size} (h : Reassembled cfg streams s) {c conn : Nat}
    {main : MainLoop size} (hc : c ≠ conn) :
    ∃ rest, s.taken c = (s.reported c).length * cfg.packageSize + rest ∧
      (rest < cfg.packageSize ∨ rest = cfg.packageSize ∧
        ¬ Good cfg (streams c) (s.reported c).length ∧
          (c ≠ conn ∨ main.tcpServer.connected = false)) := by
  obtain ⟨rest, hrest, hend⟩ := h.taken c
  refine ⟨rest, hrest, ?_⟩
  rcases hend with hlt | ⟨hall, hbad, -⟩
  · exact Or.inl hlt
  · exact Or.inr ⟨hall, hbad, Or.inl hc⟩

/-- A pass without a report: `k` bytes were read. -/
theorem Reassembled.moved {s : State size} (h : Reassembled cfg streams s)
    {main : MainLoop size} {k : Nat}
    (hrest : ∃ rest, s.taken s.conn + k = (s.reported s.conn).length * cfg.packageSize + rest ∧
      (rest < cfg.packageSize ∨ rest = cfg.packageSize ∧
        ¬ Good cfg (streams s.conn) (s.reported s.conn).length ∧ main.tcpServer.connected = false))
    (hcollected : main.tcpServer.connected = true →
      0 < main.tcpServer.pkgLeft ∧ main.tcpServer.pkgLeft ≤ cfg.packageSize ∧
        s.taken s.conn + k = (s.reported s.conn).length * cfg.packageSize +
          (cfg.packageSize - main.tcpServer.pkgLeft) ∧
        ByteMem.read main.rxBuff 0 (cfg.packageSize - main.tcpServer.pkgLeft) =
          ByteMem.read (streams s.conn) ((s.reported s.conn).length * cfg.packageSize)
            (cfg.packageSize - main.tcpServer.pkgLeft)) :
    Reassembled cfg streams
      { s with main := main, taken := Function.update s.taken s.conn (s.taken s.conn + k) } := by
  refine ⟨h.blocks, ?_, ?_, ?_⟩
  · intro c
    by_cases hc : c = s.conn
    · subst hc
      obtain ⟨rest, htaken, hend⟩ := hrest
      dsimp only
      rw [Function.update_self]
      refine ⟨rest, htaken, ?_⟩
      rcases hend with hlt | ⟨hall, hbad, hoff⟩
      · exact Or.inl hlt
      · exact Or.inr ⟨hall, hbad, Or.inr hoff⟩
    · dsimp only
      rw [Function.update_of_ne hc]
      exact h.taken_apart hc
  · intro hon
    dsimp only
    rw [Function.update_self]
    exact hcollected hon
  · intro c hc
    dsimp only at hc ⊢
    rw [Function.update_of_ne (Nat.ne_of_gt hc)]
    exact h.later c hc

/-- A package is reported, and the next block begins. -/
theorem Reassembled.report {s : State size} (h : Reassembled cfg streams s)
    {main : MainLoop size} {k : Nat} {package : List UInt8}
    (hgood : Good cfg (streams s.conn) (s.reported s.conn).length)
    (hpackage : package = ByteMem.read (streams s.conn)
      ((s.reported s.conn).length * cfg.packageSize) cfg.packageSize)
    (htaken : s.taken s.conn + k =
      ((s.reported s.conn).length + 1) * cfg.packageSize)
    (hserver : main.tcpServer = { connected := true, pkgLeft := cfg.packageSize }) :
    Reassembled cfg streams
      { s with
        main := main
        taken := Function.update s.taken s.conn (s.taken s.conn + k)
        reported := Function.update s.reported s.conn (s.reported s.conn ++ [package]) } := by
  refine ⟨?_, ?_, ?_, ?_⟩
  · intro c
    by_cases hc : c = s.conn
    · subst hc
      dsimp only
      rw [Function.update_self]
      exact (h.blocks s.conn).report hgood hpackage
    · dsimp only
      rw [Function.update_of_ne hc]
      exact h.blocks c
  · intro c
    by_cases hc : c = s.conn
    · subst hc
      refine ⟨0, ?_, Or.inl (packageSize_pos cfg)⟩
      dsimp only
      rw [Function.update_self, Function.update_self, List.length_append, List.length_singleton,
        htaken]
      rfl
    · dsimp only
      rw [Function.update_of_ne hc, Function.update_of_ne hc]
      exact h.taken_apart hc
  · intro _
    dsimp only
    rw [hserver, Function.update_self, Function.update_self, List.length_append,
      List.length_singleton, htaken, Nat.sub_self, Nat.add_zero]
    exact ⟨packageSize_pos cfg, Nat.le_refl _, rfl, rfl⟩
  · intro c hc
    dsimp only at hc ⊢
    rw [Function.update_of_ne (Nat.ne_of_gt hc), Function.update_of_ne (Nat.ne_of_gt hc)]
    exact h.later c hc

/-- A new connection begins with nothing read, whatever is in the buffer. -/
theorem Reassembled.accept {s : State size} (h : Reassembled cfg streams s)
    {main : MainLoop size}
    (hserver : main.tcpServer = { connected := true, pkgLeft := cfg.packageSize }) :
    Reassembled cfg streams { s with main := main, conn := s.conn + 1 } := by
  obtain ⟨htaken, hreported⟩ := h.later (s.conn + 1) (Nat.lt_succ_self _)
  refine ⟨h.blocks, ?_, ?_, fun c hc => h.later c (Nat.lt_of_succ_lt hc)⟩
  · intro c
    by_cases hc : c = s.conn + 1
    · subst hc
      refine ⟨0, ?_, Or.inl (packageSize_pos cfg)⟩
      dsimp only
      rw [htaken, hreported, List.length_nil, Nat.zero_mul]
    · exact h.taken_apart hc
  · intro _
    dsimp only
    rw [hserver, htaken, hreported, List.length_nil, Nat.zero_mul, Nat.sub_self]
    exact ⟨packageSize_pos cfg, Nat.le_refl _, rfl, rfl⟩

/-- **One pass.** -/
theorem Reassembled.turn {s : State size} {input : LoopInput} {p : Pass size}
    {event : ClientEvent} (h : Reassembled cfg streams s) (harrived : Arrived streams s input)
    (hturn : Turn cfg input s.main p.state event p.consumed) :
    Reassembled cfg streams (record cfg event p s) := by
  generalize hk : p.consumed = k at hturn
  unfold record
  rw [hk]
  cases hturn with
  | idle connected tcpServer client =>
    refine h.moved ?_ ?_
    · obtain ⟨rest, htaken, hend⟩ := h.taken s.conn
      refine ⟨rest, htaken, ?_⟩
      rcases hend with hlt | ⟨hall, hbad, -⟩
      · exact Or.inl hlt
      · exact Or.inr ⟨hall, hbad, by rw [tcpServer]; exact connected⟩
    · intro hon
      rw [tcpServer, connected] at hon
      cases hon
  | accepted addr connected tcpServer client => exact h.accept tcpServer
  | dropped connected tcpServer client =>
    obtain ⟨hpos, hle, htaken, -⟩ := h.collected connected
    refine h.moved ⟨_, htaken, Or.inl (by omega)⟩ ?_
    intro hon
    rw [tcpServer] at hon
    cases hon
  | nothing connected tcpServer client rxBuff =>
    obtain ⟨hpos, hle, htaken, hread⟩ := h.collected connected
    refine h.moved ⟨_, htaken, Or.inl (by omega)⟩ ?_
    intro _
    rw [tcpServer]
    refine ⟨hpos, hle, htaken, ?_⟩
    rcases Nat.eq_or_lt_of_le hle with hall | hlt
    · -- between packages nothing of the buffer is in use
      rw [hall, Nat.sub_self]
      rfl
    · rw [rxBuff hlt]
      exact hread
  | part connected left tcpServer client rxBuff =>
    obtain ⟨hpos, hle, htaken, -⟩ := h.collected connected
    obtain ⟨hk', hread⟩ := h.stored harrived connected
    have hsum : cfg.packageSize - (s.main.tcpServer.pkgLeft -
        (TCPServer.readBytes input.tcp s.main.tcpServer.pkgLeft).length) =
        cfg.packageSize - s.main.tcpServer.pkgLeft +
          (TCPServer.readBytes input.tcp s.main.tcpServer.pkgLeft).length := by omega
    refine h.moved ⟨_, by rw [htaken, Nat.add_assoc], Or.inl (by omega)⟩ ?_
    intro _
    rw [tcpServer]
    dsimp only
    rw [hsum, rxBuff]
    exact ⟨by omega, by omega, by omega, hread⟩
  | bad connected left crc tcpServer client =>
    obtain ⟨hread, htaken⟩ := h.stored_all harrived connected left
    rw [Nat.succ_mul] at htaken
    refine h.moved ⟨cfg.packageSize, htaken, Or.inr ⟨rfl, ?_, tcpServer⟩⟩ ?_
    · rw [good_iff hread]
      exact crc
    · intro hon
      rw [tcpServer] at hon
      cases hon
  | package port connected left crc tcpServer client rxBuff =>
    obtain ⟨hread, htaken⟩ := h.stored_all harrived connected left
    exact h.report ((good_iff hread).mpr crc) (by rw [rxBuff]; exact hread) htaken tcpServer

/-- **Reassembly.** After every run the packages reported on each connection are the
consecutive blocks of that connection's stream, up to the first with a bad checksum. -/
theorem reassembled (cfg : Configuration) (rxRingBuffs : List (DataBuffer UInt8 size))
    (millis micros : UInt32) (streams : Nat → Nat → UInt8) (inputs : List LoopInput)
    (s : State size)
    (run : exec (step cfg streams) (start (.setup cfg rxRingBuffs millis micros)) inputs =
      some s) : Reassembled cfg streams s := by
  refine exec_invariant (Reassembled cfg streams) ?_ (Reassembled.start cfg streams rfl) run
  intro s input t h hstep
  unfold step at hstep
  split at hstep
  · rename_i harrived
    obtain ⟨p, hp, rfl⟩ := Option.map_eq_some_iff.mp hstep
    exact h.turn harrived (loop_turn hp)
  · cases hstep

/-! ## Example -/

section Example

open Deployment (ring512)

/-- The first package opens the port and offers a port for UDP. -/
def opening : List UInt8 :=
  LoopInput.package .avrPro 49152 [0x02, 6, 4] (ByteMem.encode32 57600)

def data (bytes : List UInt8) : List UInt8 :=
  LoopInput.package .avrPro 49152 [0x08, 0, UInt8.ofNat bytes.length] bytes

/-- Two connections' streams. -/
def twoStreams : Nat → Nat → UInt8
  | 1, p => (opening ++ data [1, 2, 3] ++ data [4, 5, 6]).getD p 0
  | 2, p => (data [7, 8]).getD p 0
  | _, _ => 0

/-- A datagram waits in this pass. -/
def withDatagram (input : LoopInput) : LoopInput :=
  { input with
    udpPacket := some
      { bytes := LoopInput.package .avrPro 1 [0x08, 0, 1] [9], remotePort := 49152 } }

/-- The second package arrives in two parts, with a datagram waiting in between; the
datagram is read behind it; the third package is cut off when the connection ends, and
a package arrives on the next connection. -/
def interleaved : List LoopInput :=
  let quiet := LoopInput.quiet .avrPro 0 []
  [.accepts .avrPro, .stream .avrPro 0 opening,
    withDatagram (.stream .avrPro 0 ((data [1, 2, 3]).take 20)), withDatagram quiet,
    withDatagram (.stream .avrPro 0 ((data [1, 2, 3]).drop 20)), withDatagram quiet,
    .stream .avrPro 0 ((data [4, 5, 6]).take 7), { quiet with tcp.connected := false },
    .accepts .avrPro, withDatagram (.stream .avrPro 0 (data [7, 8]))]

def switchedOn : State 512 := start (.setup .avrPro [ring512] 0 0)

def afterInterleaved : State 512 :=
  (exec (step .avrPro twoStreams) switchedOn interleaved).getD switchedOn

/-- Three packages were reported. -/
theorem reassembled_interleaved :
    Reassembled .avrPro twoStreams afterInterleaved ∧
      afterInterleaved.reported 1 = [opening, data [1, 2, 3]] ∧
        afterInterleaved.reported 2 = [data [7, 8]] := by
  -- one evaluation of the run for all three
  have hthrough : (exec (step .avrPro twoStreams) switchedOn interleaved).isSome = true ∧
      afterInterleaved.reported 1 = [opening, data [1, 2, 3]] ∧
        afterInterleaved.reported 2 = [data [7, 8]] := by decide +kernel
  exact ⟨reassembled .avrPro [ring512] 0 0 twoStreams interleaved afterInterleaved
    (exec_eq_some_getD hthrough.1), hthrough.2⟩

end Example

end UartBridge.Reassembly
