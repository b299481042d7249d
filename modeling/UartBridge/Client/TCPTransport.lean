import UartBridge.Crc8
import UartBridge.Client.Connection

/-!
# TCPTransport: the client's stream side

The transport keeps one current connection. `GetConnection`, called by the worker
thread and by `OnSendPackage`, makes a new one when the current one is disposed.
`OnSendPackage` writes header and checksum into the package and sends it piece by
piece; the worker thread collects a package in `rxBuff` piece by piece, checks it
and passes it on.

Connections live in `conns`, in the order of their construction, and are named
by their position.
-/

namespace UartBridge.Client

structure TCPTransport where
  conns : List TCPConnection
  /-- The static variable of `TCPConnection.cpp`. -/
  falseVal : Bool
  remoteConn : Option ConnId
  udpPort : UInt16
  deriving DecidableEq, Repr

namespace TCPTransport

/-! ## The connection -/

/-- The constructor. -/
def create : TCPTransport :=
  { conns := [], falseVal := false, remoteConn := none, udpPort := 49152 }

/-- `GetStatus` of a connection. -/
def getStatus (id : ConnId) (t : TCPTransport) : Bool :=
  match t.conns[id]? with
  | some c => c.getStatus
  | none => false

/-- `Dispose` of a connection up to `close`, and whether `close` is to be called. -/
def dispose (id : ConnId) (t : TCPTransport) : TCPTransport × Bool :=
  match t.conns[id]? with
  | some c =>
    ({ t with conns := t.conns.set id (c.dispose t.falseVal).1
              falseVal := (c.dispose t.falseVal).2.1 },
      (c.dispose t.falseVal).2.2)
  | none => (t, false)

/-- `udpPort++` and what follows it. -/
def nextUdpPort (udpPort : UInt16) : UInt16 :=
  if udpPort + 1 < 49152 then 49152 else udpPort + 1

/-- The end of `GetConnection`: a new connection, which offers the next port. -/
def createConnection (result : CreateResult) (t : TCPTransport) : TCPTransport × Option ConnId :=
  match result with
  | .lookupFailed | .socketFailed | .connectFailed => ({ t with remoteConn := none }, none)
  | .connected fd =>
    ({ t with conns := t.conns ++ [TCPConnection.create fd t.udpPort]
              remoteConn := some t.conns.length
              udpPort := nextUdpPort t.udpPort },
      some t.conns.length)

/-- After a `Dispose` call a connection is live only if it was, and only if the
exchange failed. -/
theorem getStatus_dispose (id c : ConnId) (t : TCPTransport) :
    (t.dispose id).1.getStatus c = (t.getStatus c && (decide (c ≠ id) || t.falseVal)) := by
  unfold dispose
  cases hid : t.conns[id]? with
  | none =>
    by_cases hc : c = id
    · subst hc
      simp [getStatus, hid]
    · simp [hc]
  | some conn =>
    have hlt := (List.getElem?_eq_some_iff.mp hid).1
    by_cases hc : c = id
    · subst hc
      simp only [getStatus, List.getElem?_set_self hlt, hid, ne_eq, not_true_eq_false,
        decide_false, Bool.false_or]
      unfold TCPConnection.dispose Connection.dispose compareExchangeStrong Connection.getStatus
      cases conn.isDisposed <;> cases t.falseVal <;> rfl
    · simp [getStatus, List.getElem?_set_ne (Ne.symm hc), hc]

/-- `Dispose` makes no connection live. -/
theorem getStatus_of_dispose {id c : ConnId} {t : TCPTransport}
    (h : (t.dispose id).1.getStatus c = true) : t.getStatus c = true := by
  rw [getStatus_dispose, Bool.and_eq_true] at h
  exact h.1

theorem length_dispose (id : ConnId) (t : TCPTransport) :
    (t.dispose id).1.conns.length = t.conns.length := by
  unfold dispose
  split
  · exact List.length_set
  · rfl

/-- A connection that is live was there. -/
theorem lt_of_getStatus {id : ConnId} {t : TCPTransport} (h : t.getStatus id = true) :
    id < t.conns.length := by
  unfold getStatus at h
  split at h
  · exact (List.getElem?_eq_some_iff.mp ‹_›).1
  · cases h

/-- Making a connection makes no other live. -/
theorem getStatus_createConnection (result : CreateResult) (c : ConnId) (t : TCPTransport)
    (h : (t.createConnection result).1.getStatus c = true) :
    t.getStatus c = true ∨ c = t.conns.length := by
  unfold createConnection at h
  cases result with
  | lookupFailed => exact Or.inl h
  | socketFailed => exact Or.inl h
  | connectFailed => exact Or.inl h
  | connected fd =>
    have hlt : c < t.conns.length + 1 := by simpa using lt_of_getStatus h
    by_cases hc : c = t.conns.length
    · exact Or.inr hc
    · refine Or.inl ?_
      unfold getStatus at h ⊢
      rwa [List.getElem?_append_left (Nat.lt_of_le_of_ne (Nat.le_of_lt_succ hlt) hc)] at h

/-! ## Packages -/

/-- What `send` returns; it takes at most the requested number of bytes, and at
least one unless it fails. -/
inductive SendResult where
  | sent (dw : Nat)
  | error (errno : Errno)
  deriving DecidableEq, Repr

/-- `OnSendPackage` between `GetConnection` and the first `send`. -/
def stampPackage (config : Config) (udpTransportPort : UInt16) (txBuff : Nat → UInt8) :
    Nat → UInt8 :=
  let txBuff := writeU16Value (if config.enableUDP then udpTransportPort else 0) 0 txBuff
  ByteMem.write txBuff config.getNetPackageMetaSz
    [Client.crc8 (ByteMem.read txBuff 0 config.getNetPackageMetaSz)]

/-- The loop over `send`: the bytes that went out and `dataLeft` at its end. It
ends early with the first failure but `EINTR`; then the connection is disposed. -/
def sendLoop (pkgSz : Nat) (txBuff : Nat → UInt8) : List SendResult → Nat → List UInt8 × Nat
  | [], dataLeft => ([], dataLeft)
  | result :: results, dataLeft =>
    if dataLeft = 0 then ([], 0)
    else
      match result with
      | .error errno =>
        if errno = .EINTR then sendLoop pkgSz txBuff results dataLeft else ([], dataLeft)
      | .sent dw =>
        let dw := min dw dataLeft
        let r := sendLoop pkgSz txBuff results (dataLeft - dw)
        (ByteMem.read txBuff (pkgSz - dataLeft) dw ++ r.1, r.2)

/-- **What goes out is the package**, as far as it goes. -/
theorem sendLoop_spec (pkgSz : Nat) (txBuff : Nat → UInt8) (results : List SendResult)
    (dataLeft : Nat) (hleft : dataLeft ≤ pkgSz) :
    (sendLoop pkgSz txBuff results dataLeft).2 ≤ dataLeft ∧
      (sendLoop pkgSz txBuff results dataLeft).1 =
        ByteMem.read txBuff (pkgSz - dataLeft)
          (dataLeft - (sendLoop pkgSz txBuff results dataLeft).2) := by
  induction results generalizing dataLeft with
  | nil => simp [sendLoop]
  | cons result results ih =>
    simp only [sendLoop]
    by_cases hzero : dataLeft = 0
    · rw [if_pos hzero]
      simp [hzero]
    · rw [if_neg hzero]
      cases result with
      | error errno =>
        dsimp only
        split
        · exact ih dataLeft hleft
        · simp
      | sent dw =>
        dsimp only
        obtain ⟨hle, hbytes⟩ := ih (dataLeft - min dw dataLeft) (by omega)
        refine ⟨by omega, ?_⟩
        rw [hbytes]
        have hoff : pkgSz - (dataLeft - min dw dataLeft) = pkgSz - dataLeft + min dw dataLeft := by
          omega
        rw [hoff, ← ByteMem.read_add]
        congr 1
        omega

/-- The worker thread's buffer, and how much of the package is missing. -/
structure RxState where
  rxBuff : Nat → UInt8
  dataLeft : Nat

/-- What becomes of the bytes that `recv` returned. -/
inductive RxResult where
  | goOn | package | disposed
  deriving DecidableEq, Repr

/-- The inner loop of `Worker` after `recv` returned `data`. -/
def received (config : Config) (data : List UInt8) (s : RxState) : RxState × RxResult :=
  let pkgSz := config.getNetPackageSz
  let rxBuff := ByteMem.write s.rxBuff (pkgSz - s.dataLeft) data
  let dataLeft := s.dataLeft - data.length
  if 0 < dataLeft then ({ rxBuff := rxBuff, dataLeft := dataLeft }, .goOn)
  else if rxBuff config.getNetPackageMetaSz ≠
      Client.crc8 (ByteMem.read rxBuff 0 config.getNetPackageMetaSz) then
    ({ rxBuff := rxBuff, dataLeft := dataLeft }, .disposed)
  else ({ rxBuff := rxBuff, dataLeft := pkgSz }, .package)

/-- What `recv` returns: the bytes it read, 0 after the peer has closed, or -1. -/
inductive RecvResult where
  | bytes (data : List UInt8)
  | closed
  | error (errno : Errno)
  deriving DecidableEq, Repr

/-- The worker thread inside `Worker`, with `errno`; only an error of `recv` sets it. -/
structure WorkerState where
  transport : TCPTransport
  rx : RxState
  errno : Errno

/-- `errno` values after which `Worker` tries again. -/
def retries (errno : Errno) : Bool := errno = .EINTR || errno = .EAGAIN

/-- The branch for `dr <= 0`; the flag says whether the inner loop goes on. -/
def receiveFailed (id : ConnId) (w : WorkerState) : WorkerState × Bool :=
  if retries w.errno then (w, true)
  else ({ w with transport := (w.transport.dispose id).1 }, false)

/-- A round of the inner loop of `Worker`, from `recv` on. -/
def workerRound (config : Config) (id : ConnId) (result : RecvResult) (w : WorkerState) :
    WorkerState × Bool :=
  match result with
  | .closed => receiveFailed id w
  | .error errno => receiveFailed id { w with errno := errno }
  | .bytes data =>
    let r := received config data w.rx
    match r.2 with
    | .goOn | .package => ({ w with rx := r.1 }, true)
    | .disposed => ({ w with rx := r.1, transport := (w.transport.dispose id).1 }, false)

end TCPTransport

end UartBridge.Client
