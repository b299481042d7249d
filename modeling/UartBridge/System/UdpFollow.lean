import UartBridge.Lib.Run
import UartBridge.Lib.Serial
import UartBridge.Client.UDPTransport

/-!
# The UDP transport and the TCP session

Three threads share a `UDPTransport`: the worker, the poll thread inside
`OnSendPackage`, and the TCP transport inside `OnConnected`. Each
mutex-protected section and each system call is one step; `GetConnection` tests
`udpPort` before it takes the lock, so a call is two steps.

A period lies between the return of one `OnConnected` and the begin of the next.
`Follows` says that a call begun in a period works on a connection made after
that `OnConnected`, to its port, and that every connection numbers its packages
consecutively.

* `followStep_inv` — what one step preserves, under `Safe`;
* `follows_of_safe` — the runs in which the disposal in `OnConnected` takes
  effect and no `OnConnected` slips into a `GetConnection` call.
-/

namespace UartBridge.UdpFollow

open SerialNumber EventRun Client

/-- The time after an `OnConnected` has returned, up to the next one: how many
have returned, and the port of the last. -/
structure Period where
  number : Nat
  port : UInt16
  deriving DecidableEq, Repr

/-- Where a thread stands around a `GetConnection` call; `period` is the one the
call began in. -/
inductive Call where
  | idle
  | locking (period : Option Period)
  | holding (period : Option Period) (id : ConnId)
  | disposing (id : ConnId)
  deriving DecidableEq, Repr

/-- A package sent. -/
structure Send where
  period : Option Period
  conn : ConnId
  seq : UInt16
  deriving DecidableEq, Repr

/-- A package accepted. -/
structure Accept where
  period : Option Period
  conn : ConnId
  deriving DecidableEq, Repr

structure State where
  transport : UDPTransport
  /-- For each connection, how many `OnConnected` calls had returned when it was made. -/
  createdIn : List Nat
  /-- How many `OnConnected` calls have returned. -/
  connects : Nat
  /-- The port of an `OnConnected` call that waits for the lock. -/
  connecting : Option UInt16
  period : Option Period
  sender : Call
  worker : Call
  rxBuff : Nat → UInt8
  sends : List Send
  accepts : List Accept

/-- The transport after its constructor ran. -/
def init (rxBuff : Nat → UInt8) : State :=
  { transport := UDPTransport.create, createdIn := [], connects := 0, connecting := none
    period := none, sender := .idle, worker := .idle, rxBuff := rxBuff, sends := [], accepts := [] }

inductive Event where
  | connectBegin (port : UInt16)
  | connectLocked
  /-- `OnSendPackage` without `useTCP` tests the port. -/
  | sendBegin
  | sendLocked (result : CreateResult)
  /-- The package is stamped and sent; `none` is a successful `send`. -/
  | send (txBuff : Nat → UInt8) (error : Option Errno)
  | sendDispose
  | recvBegin
  | recvLocked (result : CreateResult)
  /-- `recvmsg` returns a datagram, or -1; `errno` counts if nothing was read. -/
  | recv (datagram : Option (List UInt8)) (errno : Errno)
  | recvDispose

/-- `GetConnection` up to the lock. -/
def beginCall (config : Config) (s : State) : Call :=
  if s.transport.portKnown config then .locking s.period else .idle

/-- `GetConnection` under the lock: the connections it makes are of this moment. -/
def lockedCall (result : CreateResult) (s : State) : State × Option ConnId :=
  let r := s.transport.getConnection result
  ({ s with
      transport := r.1
      createdIn := s.createdIn ++
        List.replicate (r.1.conns.length - s.transport.conns.length) s.connects },
    r.2)

/-- How a call goes on with the connection it got. -/
def calledWith (period : Option Period) : Option ConnId → Call
  | some id => .holding period id
  | none => .idle

/-- `UDPTransport` with another state of one connection. -/
def setConn (id : ConnId) (c : UDPConnection) (t : UDPTransport) : UDPTransport :=
  { t with conns := t.conns.set id c }

/-- `errno` values after which `OnSendPackage` keeps the connection. -/
def sendRetries : Option Errno → Bool
  | none => true
  | some errno => errno = .EINTR

def step (config : Config) (s : State) : Event → Option State
  | .connectBegin port =>
    -- the TCP transport announces one connection after the other
    if s.connecting ≠ none then none
    else some { s with connecting := some port, period := none }
  | .connectLocked =>
    match s.connecting with
    | none => none
    | some port =>
      some { s with
        transport := s.transport.onConnected port
        connecting := none
        connects := s.connects + 1
        period := some { number := s.connects + 1, port := port } }
  | .sendBegin =>
    if s.sender ≠ .idle then none else some { s with sender := beginCall config s }
  | .sendLocked result =>
    match s.sender with
    | .locking period =>
      some { (lockedCall result s).1 with sender := calledWith period (lockedCall result s).2 }
    | _ => none
  | .send txBuff error =>
    match s.sender with
    | .holding period id =>
      match s.transport.conns[id]? with
      | none => none
      | some c =>
        some { s with
          transport := setConn id (c.stampPackage config txBuff).1 s.transport
          sends := s.sends ++ [{ period := period, conn := id, seq := c.txSeq }]
          sender := if sendRetries error then .idle else .disposing id }
    | _ => none
  | .sendDispose =>
    match s.sender with
    | .disposing id => some { s with transport := s.transport.dispose id, sender := .idle }
    | _ => none
  | .recvBegin =>
    if s.worker ≠ .idle then none else some { s with worker := beginCall config s }
  | .recvLocked result =>
    match s.worker with
    | .locking period =>
      some { (lockedCall result s).1 with worker := calledWith period (lockedCall result s).2 }
    | _ => none
  | .recv datagram errno =>
    match s.worker with
    | .holding period id =>
      match s.transport.conns[id]? with
      | none => none
      | some c =>
        let bytes := datagram.getD []
        -- `dr < 1`: an empty datagram is treated like an error
        if bytes = [] then
          some { s with
            worker := if errno = .EINTR ∨ errno = .EAGAIN then .idle else .disposing id }
        else
          let r := c.receivePackage config bytes s.rxBuff
          some { s with
            transport := setConn id r.1 s.transport
            rxBuff := r.2.1
            accepts := if r.2.2 then s.accepts ++ [{ period := period, conn := id }] else s.accepts
            worker := .idle }
    | _ => none
  | .recvDispose =>
    match s.worker with
    | .disposing id => some { s with transport := s.transport.dispose id, worker := .idle }
    | _ => none

/-- The numbers sent on a connection, oldest first. -/
def seqs (sends : List Send) (id : ConnId) : List UInt16 :=
  (sends.filter fun r => r.conn = id).map Send.seq

/-- A connection made after the period's `OnConnected`, to its port. -/
def MadeIn (s : State) (id : ConnId) (p : Period) : Prop :=
  ∃ (c : UDPConnection) (k : Nat), s.transport.conns[id]? = some c ∧ c.remotePort = p.port ∧
    s.createdIn[id]? = some k ∧ p.number ≤ k

/-- The transport follows the TCP session. -/
structure Follows (s : State) : Prop where
  sends : ∀ r ∈ s.sends, ∀ p, r.period = some p → MadeIn s r.conn p
  accepts : ∀ r ∈ s.accepts, ∀ p, r.period = some p → MadeIn s r.conn p
  numbers : ∀ id, seqs s.sends id =
    (List.range (seqs s.sends id).length).map fun i : Nat => numberOf 0xFFFF i

/-- When `OnConnected` takes the lock, the disposal of a live connection takes
effect, and no `GetConnection` call begun after an earlier `OnConnected` is
still waiting for the lock, unless the port stays the same. -/
def Safe (s : State) : Event → Prop
  | .connectLocked =>
    (∀ id, s.transport.remoteConn = some id → s.transport.getStatus id = true →
      s.transport.falseVal = false) ∧
    (∀ p, s.sender = .locking (some p) → s.connecting = some p.port) ∧
    (∀ p, s.worker = .locking (some p) → s.connecting = some p.port)
  | _ => True

/-! ## What the transport's operations keep -/

/-- Connections are never removed, keep their port and their send counter, and
are not revived; new ones start at `0xFFFF`. -/
structure Evolves (t t' : UDPTransport) : Prop where
  kept : ∀ (id : ConnId) (c : UDPConnection), t.conns[id]? = some c →
    ∃ c' : UDPConnection, t'.conns[id]? = some c' ∧ c'.remotePort = c.remotePort ∧
      c'.txSeq = c.txSeq ∧ (c'.getStatus = true → c.getStatus = true)
  fresh : ∀ (id : ConnId) (c' : UDPConnection), t'.conns[id]? = some c' →
    t.conns[id]? = none → c'.txSeq = 0xFFFF

theorem Evolves.refl (t : UDPTransport) : Evolves t t :=
  ⟨fun _ c hc => ⟨c, hc, rfl, rfl, fun h => h⟩,
    fun id c' hc hnone => by rw [hc] at hnone; cases hnone⟩

theorem Evolves.trans {t t' t'' : UDPTransport} (h : Evolves t t') (h' : Evolves t' t'') :
    Evolves t t'' := by
  refine ⟨?_, ?_⟩
  · intro id c hc
    obtain ⟨c', hc', hport, hseq, hlive⟩ := h.kept id c hc
    obtain ⟨c'', hc'', hport', hseq', hlive'⟩ := h'.kept id c' hc'
    exact ⟨c'', hc'', hport'.trans hport, hseq'.trans hseq, fun hs => hlive (hlive' hs)⟩
  · intro id c'' hc'' hnone
    cases hc' : t'.conns[id]? with
    | none => exact h'.fresh id c'' hc'' hc'
    | some c' =>
      obtain ⟨d, hd, -, hseq, -⟩ := h'.kept id c' hc'
      rw [hc'', Option.some.injEq] at hd
      rw [hd, hseq]
      exact h.fresh id c' hc' hnone

/-- Overwriting one connection by an equally numbered one that is no more alive. -/
theorem evolves_setConn {t : UDPTransport} {id : ConnId} {c d : UDPConnection}
    (hc : t.conns[id]? = some c) (hport : d.remotePort = c.remotePort) (hseq : d.txSeq = c.txSeq)
    (hlive : d.getStatus = true → c.getStatus = true) : Evolves t (setConn id d t) := by
  have hlt := (List.getElem?_eq_some_iff.mp hc).1
  refine ⟨?_, ?_⟩
  · intro j e he
    by_cases hj : id = j
    · subst hj
      rw [hc, Option.some.injEq] at he
      subst he
      exact ⟨d, List.getElem?_set_self hlt, hport, hseq, hlive⟩
    · exact ⟨e, (List.getElem?_set_ne hj).trans he, rfl, rfl, fun h => h⟩
  · intro j e he hnone
    have hj : id ≠ j := by
      rintro rfl
      rw [hc] at hnone
      cases hnone
    rw [setConn, List.getElem?_set_ne hj, hnone] at he
    cases he

/-- `Dispose` sets the flag or leaves the connection alone. -/
theorem dispose_spec (falseVal : Bool) (c : UDPConnection) :
    (c.dispose falseVal).1.remotePort = c.remotePort ∧
      (c.dispose falseVal).1.txSeq = c.txSeq ∧
      ((c.dispose falseVal).1.getStatus = true → c.getStatus = true) ∧
      (falseVal = false → (c.dispose falseVal).1.getStatus = false) := by
  refine ⟨rfl, rfl, ?_, ?_⟩
  · unfold UDPConnection.dispose Connection.dispose compareExchangeStrong Connection.getStatus
    cases c.isDisposed <;> cases falseVal <;> simp
  · rintro rfl
    unfold UDPConnection.dispose Connection.dispose compareExchangeStrong Connection.getStatus
    cases c.isDisposed <;> simp

theorem evolves_dispose (t : UDPTransport) (id : ConnId) : Evolves t (t.dispose id) := by
  unfold UDPTransport.dispose
  cases hc : t.conns[id]? with
  | none => exact Evolves.refl t
  | some c =>
    obtain ⟨hport, hseq, hlive, -⟩ := dispose_spec t.falseVal c
    have h := evolves_setConn hc hport hseq hlive
    exact ⟨h.kept, h.fresh⟩

@[simp] theorem dispose_remoteConn (t : UDPTransport) (id : ConnId) :
    (t.dispose id).remoteConn = t.remoteConn := by
  unfold UDPTransport.dispose
  split <;> rfl

@[simp] theorem dispose_udpPort (t : UDPTransport) (id : ConnId) :
    (t.dispose id).udpPort = t.udpPort := by
  unfold UDPTransport.dispose
  split <;> rfl

@[simp] theorem dispose_length (t : UDPTransport) (id : ConnId) :
    (t.dispose id).conns.length = t.conns.length := by
  unfold UDPTransport.dispose
  split <;> simp

/-- A live connection exists and is live. -/
theorem getStatus_eq_true {t : UDPTransport} {id : ConnId} (h : t.getStatus id = true) :
    ∃ c, t.conns[id]? = some c ∧ c.getStatus = true := by
  unfold UDPTransport.getStatus at h
  cases hc : t.conns[id]? with
  | none => rw [hc] at h; cases h
  | some c =>
    rw [hc] at h
    exact ⟨c, rfl, h⟩

/-- With the shared variable false, a disposed connection is not live. -/
theorem dispose_getStatus (t : UDPTransport) (id : ConnId) (hfalse : t.falseVal = false) :
    (t.dispose id).getStatus id = false := by
  unfold UDPTransport.dispose
  cases hc : t.conns[id]? with
  | none => simp [UDPTransport.getStatus, hc]
  | some c =>
    have hlt := (List.getElem?_eq_some_iff.mp hc).1
    simp only [UDPTransport.getStatus, List.getElem?_set_self hlt]
    exact (dispose_spec t.falseVal c).2.2.2 hfalse

/-- What `GetConnection` returns under the lock: the current connection, if it
is live, or a new one to the current port, or nothing. -/
inductive Got (t : UDPTransport) : UDPTransport → Option ConnId → Prop
  | current {id} : t.remoteConn = some id → t.getStatus id = true → Got t t (some id)
  | made {t' : UDPTransport} {c} : Evolves t t' → t'.udpPort = t.udpPort →
      t'.conns.length = t.conns.length + 1 → t'.remoteConn = some t.conns.length →
      t'.conns[t.conns.length]? = some c → c.remotePort = t.udpPort →
      Got t t' (some t.conns.length)
  | nothing {t' : UDPTransport} : Evolves t t' → t'.udpPort = t.udpPort →
      t'.conns.length = t.conns.length → t'.remoteConn = none → Got t t' none

theorem evolves_append (t : UDPTransport) (fd : Nat) :
    Evolves t { t with conns := t.conns ++ [UDPConnection.create fd t.udpPort]
                       remoteConn := some t.conns.length } := by
  refine ⟨fun id c hc => ⟨c, ?_, rfl, rfl, fun h => h⟩, ?_⟩
  · exact (List.getElem?_append_left (List.getElem?_eq_some_iff.mp hc).1).trans hc
  · intro id c' hc' hnone
    have hge : t.conns.length ≤ id := List.getElem?_eq_none_iff.mp hnone
    rw [List.getElem?_append_right hge] at hc'
    obtain ⟨_, hget⟩ := List.getElem?_eq_some_iff.mp hc'
    rw [List.getElem_singleton] at hget
    rw [← hget]
    rfl

theorem got_createConnection {t u : UDPTransport} (h : Evolves t u) (hport : u.udpPort = t.udpPort)
    (hlen : u.conns.length = t.conns.length) (result : CreateResult) :
    Got t (u.createConnection result).1 (u.createConnection result).2 := by
  have hkeep : Evolves t { u with remoteConn := none } := ⟨h.kept, h.fresh⟩
  cases result with
  | connected fd =>
    have hmade := h.trans (evolves_append u fd)
    simp only [UDPTransport.createConnection, hlen] at hmade ⊢
    refine Got.made (c := UDPConnection.create fd u.udpPort) hmade hport (by simp [hlen]) rfl ?_
      hport
    rw [← hlen]
    exact List.getElem?_concat_length
  | lookupFailed => exact Got.nothing hkeep hport hlen rfl
  | socketFailed => exact Got.nothing hkeep hport hlen rfl
  | connectFailed => exact Got.nothing hkeep hport hlen rfl

theorem getConnection_got (t : UDPTransport) (result : CreateResult) :
    Got t (t.getConnection result).1 (t.getConnection result).2 := by
  unfold UDPTransport.getConnection
  cases hremote : t.remoteConn with
  | none => exact got_createConnection (Evolves.refl t) rfl rfl result
  | some id =>
    dsimp only
    by_cases hlive : t.getStatus id = true
    · rw [if_pos hlive]
      exact Got.current hremote hlive
    · rw [if_neg hlive]
      exact got_createConnection (evolves_dispose t id) (dispose_udpPort t id)
        (dispose_length t id) result

/-! ## The invariant -/

/-- What is known of a call: one that waits for the lock knows the current port,
one that has a connection got it from its period. -/
def CallOk (s : State) : Call → Prop
  | .locking (some p) => p.number ≤ s.connects ∧ p.port = s.transport.udpPort
  | .holding (some p) id => MadeIn s id p
  | _ => True

/-- Every connection has sent consecutive numbers from `0xFFFF` on, and its
counter holds the next one. -/
structure NumbersOk (t : UDPTransport) (sends : List Send) : Prop where
  numbers : ∀ id, seqs sends id =
    (List.range (seqs sends id).length).map fun i : Nat => numberOf 0xFFFF i
  next : ∀ (id : ConnId) (c : UDPConnection), t.conns[id]? = some c →
    c.txSeq = numberOf 0xFFFF (seqs sends id).length
  unsent : ∀ id : ConnId, t.conns[id]? = none → seqs sends id = []

/-- The invariant of safe runs. -/
structure FollowInv (s : State) : Prop where
  length_eq : s.createdIn.length = s.transport.conns.length
  current : ∀ id, s.transport.remoteConn = some id → s.transport.getStatus id = true →
    MadeIn s id { number := s.connects, port := s.transport.udpPort }
  period : ∀ p, s.period = some p →
    s.connecting = none ∧ p.number ≤ s.connects ∧ p.port = s.transport.udpPort
  sender : CallOk s s.sender
  worker : CallOk s s.worker
  sends : ∀ r ∈ s.sends, ∀ p, r.period = some p → MadeIn s r.conn p
  accepts : ∀ r ∈ s.accepts, ∀ p, r.period = some p → MadeIn s r.conn p
  numbers : NumbersOk s.transport s.sends

variable {config : Config} {s t : State} {call : Call}

theorem Evolves.none {t t' : UDPTransport} (h : Evolves t t') {id : ConnId}
    (hnone : t'.conns[id]? = none) : t.conns[id]? = none := by
  cases hc : t.conns[id]? with
  | none => rfl
  | some c =>
    obtain ⟨c', hc', -⟩ := h.kept id c hc
    rw [hnone] at hc'
    cases hc'

/-- A connection that is live was live before, or is new. -/
theorem Evolves.getStatus {t t' : UDPTransport} (h : Evolves t t') {id : ConnId}
    (hold : id < t.conns.length) (hlive : t'.getStatus id = true) : t.getStatus id = true := by
  obtain ⟨c', hc', hs'⟩ := getStatus_eq_true hlive
  obtain ⟨d, hd, -, -, hback⟩ := h.kept id _ (List.getElem?_eq_getElem hold)
  rw [hc', Option.some.injEq] at hd
  subst hd
  simp only [UDPTransport.getStatus, List.getElem?_eq_getElem hold]
  exact hback hs'

theorem NumbersOk.evolves {t t' : UDPTransport} {sends : List Send} (h : NumbersOk t sends)
    (hev : Evolves t t') : NumbersOk t' sends := by
  refine ⟨h.numbers, ?_, fun id hnone => h.unsent id (hev.none hnone)⟩
  intro id c' hc'
  cases hc : t.conns[id]? with
  | none =>
    rw [hev.fresh id c' hc' hc, h.unsent id hc, List.length_nil, Int.natCast_zero, numberOf_zero]
  | some c =>
    obtain ⟨d, hd, -, hseq, -⟩ := hev.kept id c hc
    rw [hc', Option.some.injEq] at hd
    rw [hd, hseq]
    exact h.next id c hc

/-- A connection made earlier stays one made earlier. -/
theorem MadeIn.mono {id : ConnId} {p : Period} (hm : MadeIn s id p)
    (hports : ∀ c : UDPConnection, s.transport.conns[id]? = some c →
      ∃ c' : UDPConnection, t.transport.conns[id]? = some c' ∧ c'.remotePort = c.remotePort)
    (hcreated : s.createdIn <+: t.createdIn) : MadeIn t id p := by
  obtain ⟨c, k, hc, hport, hk, hle⟩ := hm
  obtain ⟨c', hc', hport'⟩ := hports c hc
  obtain ⟨more, hmore⟩ := hcreated
  refine ⟨c', k, hc', hport'.trans hport, ?_, hle⟩
  rw [← hmore, List.getElem?_append_left (List.getElem?_eq_some_iff.mp hk).1]
  exact hk

theorem MadeIn.evolves {id : ConnId} {p : Period} (hm : MadeIn s id p)
    (hev : Evolves s.transport t.transport) (hcreated : s.createdIn <+: t.createdIn) :
    MadeIn t id p :=
  hm.mono (fun c hc => by
    obtain ⟨c', hc', hport, -⟩ := hev.kept id c hc
    exact ⟨c', hc', hport⟩) hcreated

/-- What is known of a call stays known while the session stays the same. -/
theorem CallOk.mono (h : CallOk s call) (hmade : ∀ id p, MadeIn s id p → MadeIn t id p)
    (hconnects : t.connects = s.connects) (hport : t.transport.udpPort = s.transport.udpPort) :
    CallOk t call := by
  cases call with
  | idle => trivial
  | locking period =>
    cases period with
    | none => trivial
    | some p => exact ⟨hconnects ▸ h.1, hport ▸ h.2⟩
  | holding period id =>
    cases period with
    | none => trivial
    | some p => exact hmade id p h
  | disposing id => trivial

/-! ## One step -/

theorem FollowInv.setSender (h : FollowInv s) (hcall : CallOk s call) :
    FollowInv { s with sender := call } :=
  ⟨h.length_eq, h.current, h.period, hcall, h.worker, h.sends, h.accepts, h.numbers⟩

theorem FollowInv.setWorker (h : FollowInv s) (hcall : CallOk s call) :
    FollowInv { s with worker := call } :=
  ⟨h.length_eq, h.current, h.period, h.sender, hcall, h.sends, h.accepts, h.numbers⟩

/-- Operations that keep the current connection, the port and the number of
connections: a `Dispose`, or a change of a receive counter. -/
theorem FollowInv.setTransport (h : FollowInv s) {t' : UDPTransport}
    (hev : Evolves s.transport t') (hlen : t'.conns.length = s.transport.conns.length)
    (hremote : t'.remoteConn = s.transport.remoteConn)
    (hport : t'.udpPort = s.transport.udpPort) : FollowInv { s with transport := t' } := by
  have hmade : ∀ id p, MadeIn s id p → MadeIn { s with transport := t' } id p :=
    fun id p hm => hm.evolves hev (List.prefix_refl _)
  refine ⟨h.length_eq.trans hlen.symm, ?_, ?_,
    h.sender.mono hmade rfl hport, h.worker.mono hmade rfl hport,
    fun r hr p hp => hmade _ _ (h.sends r hr p hp),
    fun r hr p hp => hmade _ _ (h.accepts r hr p hp), h.numbers.evolves hev⟩
  · intro id hid hlive
    obtain ⟨c', hc', -⟩ := getStatus_eq_true hlive
    have hold : id < s.transport.conns.length := hlen ▸ (List.getElem?_eq_some_iff.mp hc').1
    simp only [hport]
    exact hmade id _ (h.current id (hremote ▸ hid) (hev.getStatus hold hlive))
  · intro p hp
    simp only [hport]
    exact h.period p hp

/-- The call that begins now is of the current period. -/
theorem FollowInv.beginCall (h : FollowInv s) : CallOk s (beginCall config s) := by
  unfold UdpFollow.beginCall
  split
  · cases hperiod : s.period with
    | none => trivial
    | some p => exact (h.period p hperiod).2
  · trivial

/-- A new state of the transport in which the current connection, if there is
one, was made just now or before. -/
theorem FollowInv.lockTransport (h : FollowInv s) {t' : UDPTransport} {created : List Nat}
    (hev : Evolves s.transport t') (hport : t'.udpPort = s.transport.udpPort)
    (hcreated : s.createdIn <+: created) (hlen : created.length = t'.conns.length)
    (hcurrent : ∀ id, t'.remoteConn = some id → t'.getStatus id = true →
      MadeIn { s with transport := t', createdIn := created } id
        { number := s.connects, port := s.transport.udpPort }) :
    FollowInv { s with transport := t', createdIn := created } := by
  have hmade : ∀ id p, MadeIn s id p →
      MadeIn { s with transport := t', createdIn := created } id p :=
    fun id p hm => hm.evolves hev hcreated
  refine ⟨hlen, ?_, ?_, h.sender.mono hmade rfl hport,
    h.worker.mono hmade rfl hport, fun r hr p hp => hmade _ _ (h.sends r hr p hp),
    fun r hr p hp => hmade _ _ (h.accepts r hr p hp), h.numbers.evolves hev⟩
  · intro id hid hlive
    simp only [hport]
    exact hcurrent id hid hlive
  · intro p hp
    simp only [hport]
    exact h.period p hp

/-- `GetConnection` under the lock keeps the invariant, and what it returns is a
connection of the present session. -/
theorem FollowInv.lockedCall (h : FollowInv s) (result : CreateResult) :
    FollowInv (lockedCall result s).1 ∧
      ∀ id, (UdpFollow.lockedCall result s).2 = some id →
        MadeIn (UdpFollow.lockedCall result s).1 id
          { number := s.connects, port := s.transport.udpPort } := by
  have hgot := getConnection_got s.transport result
  simp only [UdpFollow.lockedCall]
  generalize (s.transport.getConnection result).1 = t' at hgot ⊢
  generalize (s.transport.getConnection result).2 = got at hgot ⊢
  cases hgot with
  | @current id hremote hlive =>
    -- no connection is made, and the current one is known
    simp only [Nat.sub_self, List.replicate_zero, List.append_nil, Option.some.injEq]
    exact ⟨h, fun j hj => hj ▸ h.current id hremote hlive⟩
  | @made _ c hev hport hlen hremote hnew hcport =>
    have hmade : MadeIn { s with transport := t', createdIn := s.createdIn ++ [s.connects] }
        s.transport.conns.length { number := s.connects, port := s.transport.udpPort } := by
      refine ⟨c, s.connects, hnew, hcport, ?_, Nat.le_refl _⟩
      show (s.createdIn ++ [s.connects])[s.transport.conns.length]? = some s.connects
      rw [← h.length_eq]
      exact List.getElem?_concat_length
    simp only [hlen, Nat.add_sub_cancel_left, List.replicate_one, Option.some.injEq]
    refine ⟨h.lockTransport hev hport (List.prefix_append _ _) ?_ ?_,
      fun j hj => hj ▸ hmade⟩
    · rw [List.length_append, h.length_eq, hlen]
      rfl
    · intro id hid hlive
      rw [hremote, Option.some.injEq] at hid
      exact hid ▸ hmade
  | nothing hev hport hlen hremote =>
    simp only [hlen, Nat.sub_self, List.replicate_zero, List.append_nil]
    refine ⟨h.lockTransport hev hport (List.prefix_refl _) (h.length_eq.trans hlen.symm)
      ?_, fun id hid => by cases hid⟩
    intro id hid _
    rw [hremote] at hid
    cases hid

/-- A call that waited for the lock holds a connection of its period. -/
theorem FollowInv.calledWith (h : FollowInv s) (result : CreateResult) {period : Option Period}
    (hcall : CallOk s (.locking period)) :
    CallOk (UdpFollow.lockedCall result s).1
      (calledWith period (UdpFollow.lockedCall result s).2) := by
  have hmade := (h.lockedCall result).2
  cases hgot : (UdpFollow.lockedCall result s).2 with
  | none => trivial
  | some id =>
    cases period with
    | none => trivial
    | some p =>
      obtain ⟨c, k, hc, hport, hk, hle⟩ := hmade id hgot
      exact ⟨c, k, hc, hport.trans hcall.2.symm, hk, Nat.le_trans hcall.1 hle⟩

/-- Receiving a package changes the receive counter only. -/
theorem receivePackage_eq (config : Config) (bytes : List UInt8) (rxBuff : Nat → UInt8)
    (c : UDPConnection) :
    ∃ rxSeq, (c.receivePackage config bytes rxBuff).1 = { c with rxSeq := rxSeq } := by
  unfold UDPConnection.receivePackage
  dsimp only
  split
  · exact ⟨c.rxSeq, rfl⟩
  · split
    · exact ⟨c.rxSeq, rfl⟩
    · unfold UDPConnection.rxSeqCheckIncrement
      split
      · exact ⟨_, rfl⟩
      · exact ⟨c.rxSeq, rfl⟩

/-- `OnConnected` under the lock: the port changes, and the current connection
may be disposed. -/
theorem evolves_onConnected (t : UDPTransport) (port : UInt16) :
    Evolves t (t.onConnected port) ∧ (t.onConnected port).udpPort = port ∧
      (t.onConnected port).remoteConn = t.remoteConn ∧
      (t.onConnected port).conns.length = t.conns.length := by
  have hport : Evolves t { t with udpPort := port } :=
    ⟨(Evolves.refl t).kept, (Evolves.refl t).fresh⟩
  obtain ⟨conns, falseVal, remoteConn, udpPort⟩ := t
  cases remoteConn with
  | none => exact ⟨hport, rfl, rfl, rfl⟩
  | some id =>
    exact ⟨hport.trans (evolves_dispose _ id), dispose_udpPort _ id, dispose_remoteConn _ id,
      dispose_length _ id⟩

/-- After `OnConnected` no connection of an earlier session is current and live,
if the disposal takes effect. -/
theorem onConnected_not_live (t : UDPTransport) (port : UInt16)
    (effective : ∀ id, t.remoteConn = some id → t.getStatus id = true → t.falseVal = false)
    (id : ConnId) (hid : (t.onConnected port).remoteConn = some id) :
    (t.onConnected port).getStatus id = false := by
  obtain ⟨hev, -, hremote, hlen⟩ := evolves_onConnected t port
  rw [hremote] at hid
  by_contra hlive
  rw [Bool.not_eq_false] at hlive
  obtain ⟨c, hc, -⟩ := getStatus_eq_true hlive
  have hlive' := hev.getStatus (hlen ▸ (List.getElem?_eq_some_iff.mp hc).1) hlive
  have hdisposed : (t.onConnected port).getStatus id = false := by
    unfold UDPTransport.onConnected
    simp only [hid]
    exact dispose_getStatus _ id (effective id hid hlive')
  rw [hdisposed] at hlive
  cases hlive

theorem seqs_append (sends : List Send) (period : Option Period) (conn : ConnId) (seq : UInt16)
    (id : ConnId) :
    seqs (sends ++ [{ period := period, conn := conn, seq := seq }]) id =
      seqs sends id ++ if conn = id then [seq] else [] := by
  by_cases h : conn = id
  · simp [seqs, h]
  · simp [seqs, h]

/-- A send takes the connection's next number. -/
theorem NumbersOk.send {t' : UDPTransport} {sends : List Send} (h : NumbersOk t' sends)
    {id : ConnId} {c : UDPConnection} (hc : t'.conns[id]? = some c) (period : Option Period) :
    NumbersOk (setConn id { c with txSeq := c.txSeq + 1 } t')
      (sends ++ [{ period := period, conn := id, seq := c.txSeq }]) := by
  have hlt := (List.getElem?_eq_some_iff.mp hc).1
  refine ⟨?_, ?_, ?_⟩
  · intro j
    rw [seqs_append]
    by_cases hj : id = j
    · subst hj
      simp only [if_true, List.length_append, List.length_singleton, List.range_succ,
        List.map_append, List.map_singleton, h.next id c hc]
      rw [← h.numbers id]
    · rw [if_neg hj, List.append_nil]
      exact h.numbers j
  · intro j d hd
    rw [seqs_append]
    by_cases hj : id = j
    · subst hj
      rw [setConn, List.getElem?_set_self hlt, Option.some.injEq] at hd
      simp only [← hd, if_true, List.length_append, List.length_singleton, Int.natCast_add,
        Int.natCast_one, numberOf_succ, h.next id c hc]
    · rw [if_neg hj, List.append_nil]
      rw [setConn, List.getElem?_set_ne hj] at hd
      exact h.next j d hd
  · intro j hnone
    have hj : id ≠ j := by
      rintro rfl
      rw [setConn, List.getElem?_set_self hlt] at hnone
      cases hnone
    rw [setConn, List.getElem?_set_ne hj] at hnone
    rw [seqs_append, if_neg hj, List.append_nil]
    exact h.unsent j hnone

/-- A call that waits for the lock may go on waiting through an `OnConnected`
with the port it knows; one that has a connection keeps it. -/
theorem CallOk.connected {port : UInt16} (h : CallOk s call)
    (hmade : ∀ id p, MadeIn s id p → MadeIn t id p) (hconnects : t.connects = s.connects + 1)
    (hport : t.transport.udpPort = port)
    (same : ∀ p, call = .locking (some p) → p.port = port) : CallOk t call := by
  cases call with
  | idle => trivial
  | locking period =>
    cases period with
    | none => trivial
    | some p =>
      refine ⟨?_, (same p rfl).trans hport.symm⟩
      rw [hconnects]
      exact Nat.le_succ_of_le h.1
  | holding period id =>
    cases period with
    | none => trivial
    | some p => exact hmade id p h
  | disposing id => trivial

theorem FollowInv.connectLocked (h : FollowInv s) {port : UInt16}
    (hconnecting : s.connecting = some port) (safe : Safe s .connectLocked) :
    FollowInv { s with
      transport := s.transport.onConnected port
      connecting := none
      connects := s.connects + 1
      period := some { number := s.connects + 1, port := port } } := by
  obtain ⟨effective, hsender, hworker⟩ := safe
  obtain ⟨hev, hport, hremote, hlen⟩ := evolves_onConnected s.transport port
  have hmade : ∀ id p, MadeIn s id p → MadeIn { s with
      transport := s.transport.onConnected port
      connecting := none
      connects := s.connects + 1
      period := some { number := s.connects + 1, port := port } } id p :=
    fun id p hm => hm.evolves hev (List.prefix_refl _)
  refine ⟨h.length_eq.trans hlen.symm, ?_, ?_, ?_, ?_,
    fun r hr p hp => hmade _ _ (h.sends r hr p hp),
    fun r hr p hp => hmade _ _ (h.accepts r hr p hp), h.numbers.evolves hev⟩
  · -- nothing live is left of the session before
    intro id hid hlive
    have hdead := onConnected_not_live s.transport port effective id hid
    simp only [hdead, Bool.false_eq_true] at hlive
  · intro p hp
    simp only [Option.some.injEq] at hp
    rw [← hp]
    exact ⟨rfl, Nat.le_refl _, hport.symm⟩
  · refine h.sender.connected hmade rfl hport ?_
    intro p hp
    have := hsender p hp
    rw [hconnecting, Option.some.injEq] at this
    exact this.symm
  · refine h.worker.connected hmade rfl hport ?_
    intro p hp
    have := hworker p hp
    rw [hconnecting, Option.some.injEq] at this
    exact this.symm

/-- A package is sent on the connection its call got. -/
theorem FollowInv.send (h : FollowInv s) {period : Option Period} {id : ConnId}
    {c : UDPConnection} (hcall : s.sender = .holding period id)
    (hc : s.transport.conns[id]? = some c) (call : Call) (hidle : ∀ t : State, CallOk t call) :
    FollowInv { s with
      transport := setConn id { c with txSeq := c.txSeq + 1 } s.transport
      sends := s.sends ++ [{ period := period, conn := id, seq := c.txSeq }]
      sender := call } := by
  have hlt := (List.getElem?_eq_some_iff.mp hc).1
  have hports : ∀ (j : ConnId) (d : UDPConnection), s.transport.conns[j]? = some d →
      ∃ d' : UDPConnection, (setConn id { c with txSeq := c.txSeq + 1 } s.transport).conns[j]? =
        some d' ∧ d'.remotePort = d.remotePort ∧ d'.getStatus = d.getStatus := by
    intro j d hd
    by_cases hj : id = j
    · subst hj
      rw [hc, Option.some.injEq] at hd
      subst hd
      exact ⟨_, List.getElem?_set_self hlt, rfl, rfl⟩
    · exact ⟨d, (List.getElem?_set_ne hj).trans hd, rfl, rfl⟩
  have hmade : ∀ j p, MadeIn s j p → MadeIn { s with
      transport := setConn id { c with txSeq := c.txSeq + 1 } s.transport
      sends := s.sends ++ [{ period := period, conn := id, seq := c.txSeq }]
      sender := call } j p := by
    intro j p hm
    refine hm.mono ?_ (List.prefix_refl _)
    intro d hd
    obtain ⟨d', hd', hport, -⟩ := hports j d hd
    exact ⟨d', hd', hport⟩
  refine ⟨?_, ?_, h.period, hidle _, h.worker.mono hmade rfl rfl,
    ?_, fun r hr p hp => hmade _ _ (h.accepts r hr p hp),
    h.numbers.send hc period⟩
  · exact h.length_eq.trans (List.length_set ..).symm
  · -- a send does not revive a connection
    intro j hj hlive
    refine hmade j _ (h.current j hj ?_)
    obtain ⟨d', hd', hlive'⟩ := getStatus_eq_true hlive
    have hold : j < s.transport.conns.length := by
      have := (List.getElem?_eq_some_iff.mp hd').1
      rwa [setConn, List.length_set] at this
    obtain ⟨e, he, -, hstatus⟩ := hports j _ (List.getElem?_eq_getElem hold)
    rw [hd', Option.some.injEq] at he
    subst he
    simp only [UDPTransport.getStatus, List.getElem?_eq_getElem hold, ← hstatus]
    exact hlive'
  · intro r hr p hp
    rcases List.mem_append.mp hr with hold | hnew
    · exact hmade _ _ (h.sends r hold p hp)
    · rw [List.mem_singleton.mp hnew] at hp ⊢
      simp only at hp
      subst hp
      have hsender := h.sender
      rw [hcall] at hsender
      exact hmade id p hsender

/-- A package is received on the connection its call got. -/
theorem FollowInv.recv (h : FollowInv s) {period : Option Period} {id : ConnId}
    {c : UDPConnection} (hcall : s.worker = .holding period id)
    (hc : s.transport.conns[id]? = some c) (rxSeq : UInt16) (rxBuff : Nat → UInt8)
    (accepted : Bool) :
    FollowInv { s with
      transport := setConn id { c with rxSeq := rxSeq } s.transport
      rxBuff := rxBuff
      accepts := if accepted then s.accepts ++ [{ period := period, conn := id }] else s.accepts
      worker := .idle } := by
  have hev : Evolves s.transport (setConn id { c with rxSeq := rxSeq } s.transport) :=
    evolves_setConn hc rfl rfl (fun hs => hs)
  have hset := h.setTransport hev (List.length_set ..) rfl rfl
  refine ⟨hset.length_eq, hset.current, hset.period, hset.sender, trivial, hset.sends, ?_,
    hset.numbers⟩
  cases accepted with
  | false => exact hset.accepts
  | true =>
    intro r hr p hp
    rcases List.mem_append.mp hr with hold | hnew
    · exact hset.accepts r hold p hp
    · rw [List.mem_singleton.mp hnew] at hp ⊢
      simp only at hp
      subst hp
      have hworker := hset.worker
      simp only [hcall] at hworker
      exact hworker

theorem FollowInv.dispose (h : FollowInv s) (id : ConnId) :
    FollowInv { s with transport := s.transport.dispose id } :=
  h.setTransport (evolves_dispose _ id) (dispose_length _ id) (dispose_remoteConn _ id)
    (dispose_udpPort _ id)

/-- **One step of a safe run.** -/
theorem followStep_inv {e : Event} (h : FollowInv s) (safe : Safe s e)
    (hstep : step config s e = some t) : FollowInv t := by
  cases e with
  | connectBegin port =>
    simp only [step] at hstep
    split at hstep
    · cases hstep
    · rw [Option.some.injEq] at hstep
      subst hstep
      exact ⟨h.length_eq, h.current, fun p hp => (by cases hp), h.sender, h.worker, h.sends,
        h.accepts, h.numbers⟩
  | connectLocked =>
    simp only [step] at hstep
    cases hconnecting : s.connecting with
    | none => rw [hconnecting] at hstep; cases hstep
    | some port =>
      rw [hconnecting, Option.some.injEq] at hstep
      exact hstep ▸ h.connectLocked hconnecting safe
  | sendBegin =>
    simp only [step] at hstep
    split at hstep
    · cases hstep
    · rw [Option.some.injEq] at hstep
      exact hstep ▸ h.setSender h.beginCall
  | sendLocked result =>
    simp only [step] at hstep
    cases hcall : s.sender with
    | locking period =>
      rw [hcall, Option.some.injEq] at hstep
      have hsender := h.sender
      rw [hcall] at hsender
      exact hstep ▸ (h.lockedCall result).1.setSender (h.calledWith result hsender)
    | idle | holding | disposing => rw [hcall] at hstep; cases hstep
  | send txBuff error =>
    simp only [step] at hstep
    cases hcall : s.sender with
    | holding period id =>
      rw [hcall] at hstep
      cases hc : s.transport.conns[id]? with
      | none => simp only [hc] at hstep; cases hstep
      | some c =>
        simp only [hc, Option.some.injEq] at hstep
        refine hstep ▸ h.send hcall hc _ ?_
        intro t
        split <;> trivial
    | idle | locking | disposing => rw [hcall] at hstep; cases hstep
  | sendDispose =>
    simp only [step] at hstep
    cases hcall : s.sender with
    | disposing id =>
      rw [hcall, Option.some.injEq] at hstep
      exact hstep ▸ (h.dispose id).setSender trivial
    | idle | locking | holding => rw [hcall] at hstep; cases hstep
  | recvBegin =>
    simp only [step] at hstep
    split at hstep
    · cases hstep
    · rw [Option.some.injEq] at hstep
      exact hstep ▸ h.setWorker h.beginCall
  | recvLocked result =>
    simp only [step] at hstep
    cases hcall : s.worker with
    | locking period =>
      rw [hcall, Option.some.injEq] at hstep
      have hworker := h.worker
      rw [hcall] at hworker
      exact hstep ▸ (h.lockedCall result).1.setWorker (h.calledWith result hworker)
    | idle | holding | disposing => rw [hcall] at hstep; cases hstep
  | recv datagram errno =>
    simp only [step] at hstep
    cases hcall : s.worker with
    | holding period id =>
      rw [hcall] at hstep
      cases hc : s.transport.conns[id]? with
      | none => simp only [hc] at hstep; cases hstep
      | some c =>
        simp only [hc] at hstep
        split at hstep
        · rw [Option.some.injEq] at hstep
          refine hstep ▸ h.setWorker ?_
          split <;> trivial
        · obtain ⟨rxSeq, hconn⟩ := receivePackage_eq config (datagram.getD []) s.rxBuff c
          rw [Option.some.injEq, hconn] at hstep
          exact hstep ▸ h.recv hcall hc rxSeq _ _
    | idle | locking | disposing => rw [hcall] at hstep; cases hstep
  | recvDispose =>
    simp only [step] at hstep
    cases hcall : s.worker with
    | disposing id =>
      rw [hcall, Option.some.injEq] at hstep
      exact hstep ▸ (h.dispose id).setWorker trivial
    | idle | locking | holding => rw [hcall] at hstep; cases hstep

/-! ## Whole runs -/

theorem followInv_init (rxBuff : Nat → UInt8) : FollowInv (init rxBuff) where
  length_eq := rfl
  current := fun id hid => by cases hid
  period := fun p hp => by cases hp
  sender := trivial
  worker := trivial
  sends := fun r hr => absurd hr List.not_mem_nil
  accepts := fun r hr => absurd hr List.not_mem_nil
  numbers := ⟨fun _ => rfl, fun id c hc => (by cases hc), fun _ _ => rfl⟩

/-- **In safe runs the UDP transport follows the TCP session.** For every
interleaving of the three threads, with any socket errors and reconnects. -/
theorem follows_of_safe (config : Config) (rxBuff : Nat → UInt8) (es : List Event) (s : State)
    (safe : Along (step config) Safe (init rxBuff) es)
    (hrun : exec (step config) (init rxBuff) es = some s) : Follows s := by
  have h := exec_invariant_along FollowInv
    (fun _ _ _ hs hsafe hstep => followStep_inv hs hsafe hstep)
    (followInv_init rxBuff) safe hrun
  exact ⟨h.sends, h.accepts, h.numbers.numbers⟩

/-- A client with UDP enabled. -/
def udpConfig : Config :=
  { portCount := 1, portPLSize := 128, remoteRingBuffSize := 512, enableUDP := true
    remotePollInterval := 4096 }

/-- `OnConnected` with nothing in between. -/
def connect (port : UInt16) : List Event := [.connectBegin port, .connectLocked]

/-- `OnSendPackage` with nothing in between; `socket` would return `fd`. -/
def sendPackage (fd : Nat) : List Event :=
  [.sendBegin, .sendLocked (.connected fd), .send (fun _ => 0) none]

/-- Where a schedule leads from the start. -/
def run (es : List Event) : State :=
  (exec (step udpConfig) (init fun _ => 0) es).getD (init fun _ => 0)

def twoSessions : List Event :=
  connect 49152 ++ sendPackage 5 ++ connect 49153 ++ sendPackage 6

/-- Two sessions with a package in each: the second connection follows. -/
theorem follows_two_sessions : Follows (run twoSessions) := by
  refine follows_of_safe udpConfig (fun _ => 0) twoSessions _ ?_ rfl
  refine Along.cons trivial rfl (Along.cons ⟨?_, ?_, ?_⟩ rfl
    (Along.cons trivial rfl (Along.cons trivial rfl (Along.cons trivial rfl (Along.cons trivial rfl
      (Along.cons ⟨fun id hid hlive => rfl, ?_, ?_⟩ rfl
        (Along.cons trivial rfl (Along.cons trivial rfl (Along.cons trivial rfl trivial)))))))))
  · intro id hid
    cases hid
  · intro p hp
    cases hp
  · intro p hp
    cases hp
  · intro p hp
    cases hp
  · intro p hp
    cases hp

def threeSessions : List Event := twoSessions ++ connect 49154 ++ sendPackage 7

/-- The third session's package goes to the second session's port: `OnConnected`
and `GetConnection` both disposed the first connection, so that the disposal of
the second one in `OnConnected` had no effect. -/
theorem third_session_stale :
    ¬ ∀ (es : List Event) (s : State), exec (step udpConfig) (init fun _ => 0) es = some s →
      Follows s := by
  intro hall
  have hfollows := hall threeSessions (run threeSessions) rfl
  have hsent : { period := some ⟨3, 49154⟩, conn := 1, seq := 0 } ∈ (run threeSessions).sends := by
    decide
  obtain ⟨c, k, hc, hport, -⟩ := hfollows.sends _ hsent ⟨3, 49154⟩ rfl
  have hstale : ((run threeSessions).transport.conns[1]?).map (·.remotePort) = some 49153 := by
    decide
  simp only at hc
  rw [hc, Option.map_some, hport] at hstale
  exact absurd hstale (by decide)

end UartBridge.UdpFollow
