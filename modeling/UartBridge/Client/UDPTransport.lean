import UartBridge.Crc8
import UartBridge.Client.Connection

/-!
# UDPTransport: the client's datagram side

The transport keeps one current connection. `OnConnected` disposes it and sets
the port of the new TCP session; `GetConnection`, called by the worker thread
and by `OnSendPackage`, makes a new one when the current one is disposed.

Connections live in `conns`, in the order of their construction, and are named
by their position. Every function here is one mutex-protected section, one
system call with the code up to the next one, or one call of `Dispose`.
-/

namespace UartBridge.Client

structure UDPTransport where
  conns : List UDPConnection
  /-- The static variable of `UDPConnection.cpp`. -/
  falseVal : Bool
  remoteConn : Option ConnId
  udpPort : UInt16
  deriving DecidableEq, Repr

namespace UDPTransport

/-- The constructor. -/
def create : UDPTransport :=
  { conns := [], falseVal := false, remoteConn := none, udpPort := 0 }

/-- `GetStatus` of a connection. -/
def getStatus (id : ConnId) (t : UDPTransport) : Bool :=
  match t.conns[id]? with
  | some c => c.getStatus
  | none => false

/-- `Dispose` of a connection. -/
def dispose (id : ConnId) (t : UDPTransport) : UDPTransport :=
  match t.conns[id]? with
  | some c =>
    { t with conns := t.conns.set id (c.dispose t.falseVal).1
             falseVal := (c.dispose t.falseVal).2.1 }
  | none => t

/-- The end of `GetConnection`: a new connection to the current port. -/
def createConnection (result : CreateResult) (t : UDPTransport) : UDPTransport × Option ConnId :=
  match result with
  | .lookupFailed | .socketFailed | .connectFailed => ({ t with remoteConn := none }, none)
  | .connected fd =>
    ({ t with conns := t.conns ++ [UDPConnection.create fd t.udpPort]
              remoteConn := some t.conns.length },
      some t.conns.length)

/-- The test `GetConnection` makes before it takes the lock. -/
def portKnown (config : Config) (t : UDPTransport) : Bool := config.enableUDP && !(t.udpPort < 1)

/-- `GetConnection` under `remoteConnLock`. -/
def getConnection (result : CreateResult) (t : UDPTransport) : UDPTransport × Option ConnId :=
  match t.remoteConn with
  | some id =>
    if t.getStatus id then (t, some id) else (t.dispose id).createConnection result
  | none => t.createConnection result

/-- `OnConnected`: everything it does is under `remoteConnLock`. -/
def onConnected (udpPort : UInt16) (t : UDPTransport) : UDPTransport :=
  let t := { t with udpPort := udpPort }
  match t.remoteConn with
  | some id => t.dispose id
  | none => t

end UDPTransport

/-! ## Packages -/

namespace UDPConnection

/-- `OnSendPackage` between `GetConnection` and `send`: the sequence number and
the checksum go into `txBuff`. -/
def stampPackage (config : Config) (txBuff : Nat → UInt8) (c : UDPConnection) :
    UDPConnection × (Nat → UInt8) :=
  let (c, seq) := c.txSeqIncrement
  let txBuff := writeU16Value seq 0 txBuff
  (c, ByteMem.write txBuff config.getNetPackageMetaSz
    [Client.crc8 (ByteMem.read txBuff 0 config.getNetPackageMetaSz)])

/-- The bytes handed to `send`. -/
def packageBytes (config : Config) (txBuff : Nat → UInt8) : List UInt8 :=
  ByteMem.read txBuff 0 config.getNetPackageSz

/-- `Worker` after a successful `recvmsg`: the datagram is in `rxBuff` as far as
it fits, and the flag says whether the package is passed on. -/
def receivePackage (config : Config) (datagram : List UInt8) (rxBuff : Nat → UInt8)
    (c : UDPConnection) : UDPConnection × (Nat → UInt8) × Bool :=
  let rxBuff := ByteMem.write rxBuff 0 (datagram.take config.getNetPackageSz)
  if datagram.length ≠ config.getNetPackageSz then
    -- too short, or cut off and marked `MSG_TRUNC`
    (c, rxBuff, false)
  else if rxBuff config.getNetPackageMetaSz ≠
      Client.crc8 (ByteMem.read rxBuff 0 config.getNetPackageMetaSz) then (c, rxBuff, false)
  else
    let (c, accepted) := c.rxSeqCheckIncrement (ByteMem.decode16 (rxBuff 0) (rxBuff 1))
    (c, rxBuff, accepted)

end UDPConnection

/-- `Worker` after `recvmsg` returned a datagram on a connection: the flag says whether the
package is passed on. A datagram without bytes is taken for an error, and `errno`, which
`recvmsg` has not set, decides. -/
def UDPTransport.received (config : Config) (errno : Errno) (id : ConnId) (datagram : List UInt8)
    (rxBuff : Nat → UInt8) (t : UDPTransport) : UDPTransport × (Nat → UInt8) × Bool :=
  let dr := min datagram.length config.getNetPackageSz
  if dr < 1 then
    if errno = .EINTR ∨ errno = .EAGAIN then (t, rxBuff, false) else (t.dispose id, rxBuff, false)
  else
    match t.conns[id]? with
    | some c =>
      let r := c.receivePackage config datagram rxBuff
      ({ t with conns := t.conns.set id r.1 }, r.2)
    | none => (t, rxBuff, false)

end UartBridge.Client
