import UartBridge.Client.Config

/-!
# TCPConnection and UDPConnection

A connection owns a descriptor and a flag that `Dispose` sets. Both classes
implement `Dispose` as a `compare_exchange_strong` whose `expected` argument is
a static variable of the file, one for all connections of the kind; a failed
exchange overwrites it. The variable is an argument and a result here.
-/

namespace UartBridge.Client

/-- The identity of a `Connection` object. -/
abbrev ConnId := Nat

/-- `errno` values the client tells apart; `EWOULDBLOCK` is `EAGAIN` on Linux. -/
inductive Errno where
  | EINTR | EAGAIN | other (code : Nat)
  deriving DecidableEq, Repr

/-- What the system makes of the lookup, `socket` and `connect`. -/
inductive CreateResult where
  | lookupFailed | socketFailed | connectFailed
  | connected (fd : Nat)
  deriving DecidableEq, Repr

/-- `compare_exchange_strong`: the value and `expected` afterwards, and whether
the exchange took place. A failed exchange loads the value into `expected`. -/
def compareExchangeStrong (value expected desired : Bool) : Bool × Bool × Bool :=
  if value = expected then (desired, expected, true) else (value, value, false)

structure Connection where
  fd : Nat
  isDisposed : Bool
  deriving DecidableEq, Repr

namespace Connection

def create (fd : Nat) : Connection := { fd := fd, isDisposed := false }

/-- `GetStatus`. -/
def getStatus (c : Connection) : Bool := !c.isDisposed

/-- `Dispose`: the connection and `falseVal` afterwards, and whether `close(fd)`
was called. -/
def dispose (falseVal : Bool) (c : Connection) : Connection × Bool × Bool :=
  let (isDisposed, falseVal, exchanged) := compareExchangeStrong c.isDisposed falseVal true
  ({ c with isDisposed := isDisposed }, falseVal, exchanged)

end Connection

structure TCPConnection extends Connection where
  udpTransportPort : UInt16
  deriving DecidableEq, Repr

namespace TCPConnection

def create (fd : Nat) (udpPort : UInt16) : TCPConnection :=
  { Connection.create fd with udpTransportPort := udpPort }

/-- `Dispose`, with the `falseVal` of `TCPConnection.cpp`. -/
def dispose (falseVal : Bool) (c : TCPConnection) : TCPConnection × Bool × Bool :=
  let r := c.toConnection.dispose falseVal
  ({ c with toConnection := r.1 }, r.2)

end TCPConnection

structure UDPConnection extends Connection where
  remotePort : UInt16
  rxSeq : UInt16
  txSeq : UInt16
  deriving DecidableEq, Repr

namespace UDPConnection

/-- The constructor: both sequence counters start at `UINT16_MAX`. -/
def create (fd : Nat) (port : UInt16) : UDPConnection :=
  { Connection.create fd with remotePort := port, rxSeq := 0xFFFF, txSeq := 0xFFFF }

/-- `Dispose`, with the `falseVal` of `UDPConnection.cpp`. -/
def dispose (falseVal : Bool) (c : UDPConnection) : UDPConnection × Bool × Bool :=
  let r := c.toConnection.dispose falseVal
  ({ c with toConnection := r.1 }, r.2)

/-- `TXSeqIncrement`: the number for this package; the counter moves on. -/
def txSeqIncrement (c : UDPConnection) : UDPConnection × UInt16 :=
  ({ c with txSeq := c.txSeq + 1 }, c.txSeq)

/-- `RXSeqCheckIncrement`. -/
def rxSeqCheckIncrement (testSeq : UInt16) (c : UDPConnection) : UDPConnection × Bool :=
  if c.rxSeq - testSeq > testSeq - c.rxSeq then ({ c with rxSeq := testSeq }, true) else (c, false)

end UDPConnection

end UartBridge.Client
