import UartBridge.Lib.Wire
import UartBridge.Lib.Run
import UartBridge.Client.TCPTransport

/-!
# The threads that share the client's TCP connection

The worker thread reads from the current connection while the poll thread sends on
it; either may find it broken, dispose it and have `GetConnection` make the next
one. A connection object keeps the number of its descriptor for good, but the
number may be closed and given out again: `socket` returns the lowest free one, and
`recv` and `send` reach whatever the descriptor names at that moment.

A step is one system call with the code up to the next one. `GetConnection` holds
`remoteConnLock` over its steps, so a thread enters it only when the other is not
inside; `Dispose` takes no lock. Calls that the code just makes again (`EINTR`, and
`EAGAIN` of `recv`) change nothing and are left out.

* `act_cases` — what a thread can do with the connections;
* `Later` — what either thread's steps leave of the other's: no connection comes
  back to life.
-/

namespace UartBridge.TcpThreads

open Client EventRun Wire

/-! ## Connections and descriptors -/

/-- Where a thread stands. In `closingOld` and `creating` it is inside
`GetConnection`; in `holding` it uses the connection. -/
inductive Phase where
  | outside
  | closingOld (id : ConnId)
  | creating
  | holding (id : ConnId)
  | disposing (id : ConnId)
  | closing (id : ConnId)
  deriving DecidableEq, Repr

namespace Phase

/-- Whether the thread holds `remoteConnLock`. -/
def locked : Phase → Bool
  | .closingOld _ | .creating => true
  | .outside | .holding _ | .disposing _ | .closing _ => false

/-- The connection the thread has in hand, until its `Dispose` took effect or not. -/
def engaged : Phase → Option ConnId
  | .holding id | .disposing id => some id
  | .outside | .closingOld _ | .creating | .closing _ => none

end Phase

/-- The transport's connections, and the connection whose socket each of the
descriptors left to the transport names. -/
structure Net where
  transport : TCPTransport
  descriptors : List (Option ConnId)
  deriving DecidableEq, Repr

namespace Net

/-- The descriptor that `socket` returns. -/
def lowestFree (n : Net) : Nat := n.descriptors.findIdx (· == none)

/-- A new socket under a free descriptor. -/
def openSocket (fd : Nat) (id : ConnId) (n : Net) : List (Option ConnId) :=
  if fd < n.descriptors.length then n.descriptors.set fd (some id) else n.descriptors ++ [some id]

/-- `close(fd)` with the descriptor of a connection. -/
def closeSocket (id : ConnId) (n : Net) : Net :=
  match n.transport.conns[id]? with
  | some c => { n with descriptors := n.descriptors.set c.fd none }
  | none => n

/-- The connection whose socket a call with the descriptor of a connection reaches. -/
def named (id : ConnId) (n : Net) : Option ConnId :=
  match n.transport.conns[id]? with
  | some c => n.descriptors[c.fd]?.join
  | none => none

end Net

/-- A thread's steps apart from `recv` and `send`: `fail` is a `recv` or `send` that
failed for good, `exchange` is `Dispose` up to its `close`. -/
inductive Act where
  | getConnection | close | create (result : CreateResult) | fail | exchange
  deriving DecidableEq, Repr

/-- A step of a thread that stands in a phase, while the other thread stands in
`other`. -/
def act (other : Phase) (n : Net) : Phase → Act → Option (Net × Phase)
  | .outside, .getConnection =>
    if other.locked then none
    else
      match n.transport.remoteConn with
      | some id =>
        if n.transport.getStatus id then some (n, .holding id)
        else
          some ({ n with transport := (n.transport.dispose id).1 },
            if (n.transport.dispose id).2 then .closingOld id else .creating)
      | none => some (n, .creating)
  | .closingOld id, .close => some (n.closeSocket id, .creating)
  | .creating, .create (.connected fd) =>
    if fd = n.lowestFree then
      some ({ transport := (n.transport.createConnection (.connected fd)).1
              descriptors := n.openSocket fd n.transport.conns.length },
        .holding n.transport.conns.length)
    else none
  | .creating, .create result =>
    some ({ n with transport := (n.transport.createConnection result).1 }, .outside)
  | .holding id, .fail => some (n, .disposing id)
  | .disposing id, .exchange =>
    some ({ n with transport := (n.transport.dispose id).1 },
      if (n.transport.dispose id).2 then .closing id else .outside)
  | .closing id, .close => some (n.closeSocket id, .outside)
  | _, _ => none

/-- A call on the connection in use reaches that connection's own socket. -/
def OwnSocket (n : Net) : Phase → Prop
  | .holding id => n.named id = some id
  | .outside | .closingOld _ | .creating | .disposing _ | .closing _ => True

/-- The connection about to be disposed will not be live afterwards: the static
variable stands at false, or somebody disposed the connection before. -/
def TakesEffect (n : Net) : Phase → Prop
  | .disposing id => n.transport.falseVal = false ∨ n.transport.getStatus id = false
  | .outside | .closingOld _ | .creating | .holding _ | .closing _ => True

instance (n : Net) : ∀ p, Decidable (OwnSocket n p)
  | .holding id => inferInstanceAs (Decidable (n.named id = some id))
  | .outside | .closingOld _ | .creating | .disposing _ | .closing _ => isTrue trivial

instance (n : Net) : ∀ p, Decidable (TakesEffect n p)
  | .disposing id =>
    inferInstanceAs
      (Decidable (n.transport.falseVal = false ∨ n.transport.getStatus id = false))
  | .outside | .closingOld _ | .creating | .holding _ | .closing _ => isTrue trivial

/-- Every live connection was live before or is new. -/
structure Later (n n' : Net) : Prop where
  live : ∀ c, n'.transport.getStatus c = true →
    n.transport.getStatus c = true ∨ n.transport.conns.length ≤ c
  length_le : n.transport.conns.length ≤ n'.transport.conns.length

theorem Later.refl (n : Net) : Later n n := ⟨fun _ h => Or.inl h, Nat.le_refl _⟩

theorem Later.dispose (n : Net) (id : ConnId) :
    Later n { n with transport := (n.transport.dispose id).1 } :=
  ⟨fun _ hc => Or.inl (TCPTransport.getStatus_of_dispose hc),
    Nat.le_of_eq (TCPTransport.length_dispose id n.transport).symm⟩

/-- What took effect left the connection dead. -/
theorem TakesEffect.dead {n : Net} {id : ConnId} (h : TakesEffect n (.disposing id)) :
    (n.transport.dispose id).1.getStatus id = false := by
  rw [TCPTransport.getStatus_dispose]
  rcases h with hfalse | hdead
  · simp [hfalse]
  · rw [hdead, Bool.false_and]

/-- A connection with a socket under its descriptor is one of the transport's. -/
theorem lt_of_named {n : Net} {id c : ConnId} (h : n.named id = some c) :
    id < n.transport.conns.length := by
  unfold Net.named at h
  split at h
  · exact (List.getElem?_eq_some_iff.mp ‹_›).1
  · cases h

theorem Later.closeSocket (n : Net) (id : ConnId) : Later n (n.closeSocket id) := by
  unfold Net.closeSocket
  split
  · exact ⟨fun _ h => Or.inl h, Nat.le_refl _⟩
  · exact Later.refl n

theorem Later.create (n : Net) (result : CreateResult) (descriptors : List (Option ConnId)) :
    Later n { transport := (n.transport.createConnection result).1
              descriptors := descriptors } := by
  refine ⟨?_, ?_⟩
  · intro c hc
    rcases TCPTransport.getStatus_createConnection result c n.transport hc with hold | rfl
    · exact Or.inl hold
    · exact Or.inr (Nat.le_refl _)
  · unfold TCPTransport.createConnection
    cases result <;> simp

variable {other p p' : Phase} {n n' : Net} {a : Act}

/-- **What a thread can do with the connections.** It finds its connection broken;
or it disposes it; or it has none in hand, and if it gets one, that one is live. -/
theorem act_cases (h : act other n p a = some (n', p')) :
    (∃ id, p = .holding id ∧ p' = .disposing id ∧ n' = n) ∨
      (∃ id, p = .disposing id ∧ p'.engaged = none ∧ a = .exchange ∧
        n' = { n with transport := (n.transport.dispose id).1 }) ∨
      (p.engaged = none ∧ Later n n' ∧
        (p'.engaged = none ∨ ∃ id, p' = .holding id ∧ n'.transport.getStatus id = true)) := by
  unfold act at h
  split at h
  · -- `GetConnection` up to the first `close` or `socket`
    split at h
    · cases h
    · split at h
      · rename_i id hremote
        split at h
        · rename_i hlive
          obtain ⟨rfl, rfl⟩ := Prod.mk.inj (Option.some.inj h)
          exact Or.inr (Or.inr ⟨rfl, Later.refl n, Or.inr ⟨id, rfl, hlive⟩⟩)
        · obtain ⟨rfl, rfl⟩ := Prod.mk.inj (Option.some.inj h)
          refine Or.inr (Or.inr ⟨rfl, Later.dispose n id, Or.inl ?_⟩)
          split <;> rfl
      · obtain ⟨rfl, rfl⟩ := Prod.mk.inj (Option.some.inj h)
        exact Or.inr (Or.inr ⟨rfl, Later.refl n, Or.inl rfl⟩)
  · obtain ⟨rfl, rfl⟩ := Prod.mk.inj (Option.some.inj h)
    exact Or.inr (Or.inr ⟨rfl, Later.closeSocket n _, Or.inl rfl⟩)
  · split at h
    · rename_i fd _
      obtain ⟨rfl, rfl⟩ := Prod.mk.inj (Option.some.inj h)
      refine Or.inr (Or.inr ⟨rfl, Later.create n _ _, Or.inr ⟨_, rfl, ?_⟩⟩)
      simp [TCPTransport.createConnection, TCPTransport.getStatus, TCPConnection.create,
        Connection.create, Connection.getStatus]
    · cases h
  · obtain ⟨rfl, rfl⟩ := Prod.mk.inj (Option.some.inj h)
    exact Or.inr (Or.inr ⟨rfl, Later.create n _ _, Or.inl rfl⟩)
  · obtain ⟨rfl, rfl⟩ := Prod.mk.inj (Option.some.inj h)
    exact Or.inl ⟨_, rfl, rfl, rfl⟩
  · rename_i id
    obtain ⟨rfl, rfl⟩ := Prod.mk.inj (Option.some.inj h)
    refine Or.inr (Or.inl ⟨id, rfl, ?_, rfl, rfl⟩)
    split <;> rfl
  · obtain ⟨rfl, rfl⟩ := Prod.mk.inj (Option.some.inj h)
    exact Or.inr (Or.inr ⟨rfl, Later.closeSocket n _, Or.inl rfl⟩)
  · cases h

/-- Whatever a thread does, no connection comes back to life. -/
theorem act_later (h : act other n p a = some (n', p')) : Later n n' := by
  rcases act_cases h with ⟨_, _, _, rfl⟩ | ⟨id, _, _, _, rfl⟩ | ⟨_, hlater, _⟩
  · exact Later.refl n'
  · exact Later.dispose n id
  · exact hlater

/-- **What a thread leaves behind.** Say of a connection that it is whole when the thread
has left it between two packages. If new connections are whole, and every live one is
but the one in hand, and a connection that the thread disposes is whole or dead
afterwards, then every live one is whole once the thread has none in hand. -/
theorem whole_of_act {Whole : ConnId → Prop}
    (hwhole : ∀ c, n.transport.getStatus c = true → p.engaged = some c ∨ Whole c)
    (hnew : ∀ c, n.transport.conns.length ≤ c → Whole c)
    (hcut : a = .exchange → ∀ id, p = .disposing id → Whole id ∨ TakesEffect n p)
    (h : act other n p a = some (n', p')) (hnone : p'.engaged = none) :
    ∀ c, n'.transport.getStatus c = true → Whole c := by
  intro c hc
  rcases act_cases h with ⟨id, -, rfl, -⟩ | ⟨id, hp, -, hexchange, rfl⟩ | ⟨hp, hlater, -⟩
  · cases hnone
  · rcases hwhole c (TCPTransport.getStatus_of_dispose hc) with hid | hold
    · rw [hp] at hid
      obtain rfl : id = c := Option.some.inj hid
      refine (hcut hexchange id hp).resolve_right fun heffect => ?_
      rw [hp] at heffect
      exact Bool.false_ne_true (heffect.dead.symm.trans hc)
    · exact hold
  · rcases hlater.live c hc with hlive | hfresh
    · exact (hwhole c hlive).resolve_left (by rw [hp]; exact nofun)
    · exact hnew c hfresh

/-! ## The two threads -/

/-- A package passed on: what the message carries, and the bytes that were received
for it, by connection and place in its stream. -/
structure Delivery where
  bytes : List UInt8
  cells : List (Cell UInt8)
  deriving DecidableEq, Repr

/-- The worker thread; and for the record, how much was taken from each connection,
the bytes of the package being collected, and the packages passed on. -/
structure Reader where
  phase : Phase
  rx : TCPTransport.RxState
  taken : ConnId → Nat
  collected : List (Cell UInt8)
  delivered : List Delivery

/-- The sending thread; and for the record, the packages it sent so far by number,
and what was put on each connection. -/
structure Sender where
  phase : Phase
  txBuff : Nat → UInt8
  dataLeft : Nat
  number : Nat
  packages : Nat → Nat → UInt8
  wire : ConnId → List (Cell UInt8)

namespace Reader

def init : Reader :=
  { phase := .outside, rx := { rxBuff := fun _ => 0, dataLeft := 0 }, taken := fun _ => 0
    collected := [], delivered := [] }

/-- The worker thread comes to a phase; with a connection, it starts to collect. -/
def enter (config : Config) (r : Reader) : Phase → Reader
  | .holding id =>
    { r with
      phase := .holding id
      rx := { r.rx with dataLeft := config.getNetPackageSz }
      collected := [] }
  | phase => { r with phase := phase }

/-- `recv` returned `k` bytes of the socket that connection `id`'s descriptor names. -/
def receive (config : Config) (streams : ConnId → Nat → UInt8) (net : Net) (id : ConnId)
    (k : Nat) (r : Reader) : Option Reader :=
  match net.named id with
  | none => none
  | some c =>
    if k = 0 ∨ r.rx.dataLeft < k then none
    else
      let result := TCPTransport.received config (ByteMem.read (streams c) (r.taken c) k) r.rx
      let collected := r.collected ++ cells c (streams c) (r.taken c) k
      let r := { r with rx := result.1, taken := Function.update r.taken c (r.taken c + k) }
      match result.2 with
      | .goOn => some { r with collected := collected }
      | .disposed => some { r with collected := collected, phase := .disposing id }
      | .package =>
        some { r with
          collected := []
          delivered := r.delivered ++
            [{ bytes := ByteMem.read r.rx.rxBuff 0 config.getNetPackageSz, cells := collected }] }

end Reader

namespace Sender

def init : Sender :=
  { phase := .outside, txBuff := fun _ => 0, dataLeft := 0, number := 0
    packages := fun _ _ => 0, wire := fun _ => [] }

/-- The sending thread comes to a phase; with a connection, header and checksum go
into the package, which is the next one. -/
def enter (config : Config) (net : Net) (w : Sender) : Phase → Sender
  | .holding id =>
    match net.transport.conns[id]? with
    | none => { w with phase := .outside }
    | some c =>
      let txBuff := TCPTransport.stampPackage config c.udpTransportPort w.txBuff
      { w with
        phase := .holding id
        txBuff := txBuff
        dataLeft := config.getNetPackageSz
        number := w.number + 1
        packages := Function.update w.packages (w.number + 1) txBuff }
  | phase => { w with phase := phase }

/-- `send` took `k` bytes for the socket that connection `id`'s descriptor names. -/
def transmit (config : Config) (net : Net) (id : ConnId) (k : Nat) (w : Sender) :
    Option Sender :=
  match net.named id with
  | none => none
  | some c =>
    if k = 0 ∨ w.dataLeft < k then none
    else
      let piece := cells w.number w.txBuff (config.getNetPackageSz - w.dataLeft) k
      some { w with
        wire := Function.update w.wire c (w.wire c ++ piece)
        dataLeft := w.dataLeft - k
        phase := if w.dataLeft = k then .outside else .holding id }

end Sender

structure World where
  net : Net
  reader : Reader
  sender : Sender

def World.init : World :=
  { net := { transport := TCPTransport.create, descriptors := [] }
    reader := Reader.init, sender := Sender.init }

inductive Event where
  | worker (a : Act)
  | recv (k : Nat)
  | onSendPackage (package : Nat → UInt8)
  | sender (a : Act)
  | send (k : Nat)

/-- A step of the worker thread with the connections. -/
def World.workerAct (config : Config) (a : Act) (s : World) : Option World :=
  (act s.sender.phase s.net s.reader.phase a).map fun r =>
    { s with net := r.1, reader := s.reader.enter config r.2 }

/-- A step of the sending thread with the connections. -/
def World.senderAct (config : Config) (a : Act) (s : World) : Option World :=
  (act s.reader.phase s.net s.sender.phase a).map fun r =>
    { s with net := r.1, sender := s.sender.enter config r.1 r.2 }

/-- A step of one of the threads; `streams` is what the firmware sends on each
connection. -/
def step (config : Config) (streams : ConnId → Nat → UInt8) (s : World) : Event → Option World
  | .worker a => s.workerAct config a
  | .recv k =>
    match s.reader.phase with
    | .holding id =>
      (s.reader.receive config streams s.net id k).map fun reader => { s with reader := reader }
    | _ => none
  | .onSendPackage package =>
    World.senderAct config .getConnection { s with sender := { s.sender with txBuff := package } }
  | .sender .getConnection => none
  | .sender a => s.senderAct config a
  | .send k =>
    match s.sender.phase with
    | .holding id =>
      (s.sender.transmit config s.net id k).map fun sender => { s with sender := sender }
    | _ => none

end UartBridge.TcpThreads
