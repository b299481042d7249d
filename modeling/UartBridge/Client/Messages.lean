import Mathlib.Data.Fintype.Sum
import Mathlib.Tactic.DeriveFintype
import UartBridge.Client.MessageBroker

/-!
# The messages of the client

`main` registers its workers with one message broker. This is who sends which message, who is
ready for which, and what each `OnMessage` does: the work on the state of the receiver and on
its sockets, between the messages that it sends itself.

The sections of a handler that send nothing are given by `Handlers`, one update of the shared
state each, with the answer that they find there.
-/

namespace UartBridge.Client

inductive MsgType where
  | shutdown
  | connected
  | incomingPackage
  | timer
  | sendPackage
  | portOpen
  deriving DecidableEq, Repr

/-- `IMessage` and its subclasses. The package of an `ISendPackageMessage` is the `txBuff` of the
data processor, which the transports write to: it is part of the shared state. -/
inductive Message (Conn : Type) where
  | shutdown (ec : Int)
  | connected (udpPort : UInt16)
  | incomingPackage (package : List UInt8)
  | timer (counter : UInt32)
  | sendPackage (useTCP : Bool)
  | portOpen (id : Nat) (connection : Conn)

def Message.msgType {Conn : Type} : Message Conn → MsgType
  | .shutdown _ => .shutdown
  | .connected _ => .connected
  | .incomingPackage _ => .incomingPackage
  | .timer _ => .timer
  | .sendPackage _ => .sendPackage
  | .portOpen _ _ => .portOpen

/-- What is passed as `this` to `SendMessage`. -/
inductive Source (portCount : Nat) where
  | tcpTransport
  | udpTransport
  | pollTimer
  | tcpListener (port : Fin portCount)
  | ptyListener (port : Fin portCount)
  | dataProcessor
  deriving DecidableEq, Repr, Fintype

/-- What `main` adds with `AddSubscriber`. -/
inductive Subscriber (portCount : Nat) where
  | shutdownHandler
  | tcpTransport
  | udpTransport
  | pollTimer
  | portWorker (port : Fin portCount)
  | dataProcessor
  deriving DecidableEq, Repr

/-- `ReadyForMessage` of each of them. -/
def Subscriber.readyForMessage {portCount : Nat} : Subscriber portCount → MsgType → Bool
  | .shutdownHandler, msgType => msgType == .shutdown
  | .tcpTransport, msgType => msgType == .sendPackage
  | .udpTransport, msgType => msgType == .sendPackage || msgType == .connected
  | .pollTimer, msgType => msgType == .connected
  | .portWorker _, msgType => msgType == .portOpen || msgType == .connected
  | .dataProcessor, msgType => msgType == .timer || msgType == .incomingPackage

/-! ## Connections -/

/-- How a section of `GetConnection` ends. -/
inductive Opening (Conn : Type) where
  /-- The connection that there is. -/
  | current (conn : Conn)
  /-- No address, no port or no answer. -/
  | unreachable
  /-- `socket` failed, or `close` after a failed `connect`. -/
  | failed (ec : Int)
  | opened (conn : Conn) (udpPort : UInt16)

/-- The transport's side of `GetConnection`, and what it sends with. -/
structure Transport (σ Conn : Type) where
  /-- What `GetConnection` does up to its message, or to its end. -/
  connect : σ → σ
  opening : σ → Opening Conn
  /-- `remoteConn=nullptr`. -/
  drop : σ → σ
  /-- The rest of `OnSendPackage`. -/
  send : Conn → σ → σ

/-- What the handlers do where they send nothing. -/
structure Handlers (portCount : Nat) (σ Conn : Type) where
  tcp : Transport σ Conn
  udp : Transport σ Conn
  udpEnabled : Bool
  /-- `OnConnected` of the UDP transport. -/
  resetUdp : UInt16 → σ → σ
  /-- `connectPending.store(false)` -/
  connectDone : σ → σ
  /-- `ProcessTX` of all ports: the package in `txBuff`. -/
  pollPorts : UInt32 → σ → σ
  /-- The `useTCP` that comes out of it. -/
  useTCP : UInt32 → σ → Bool
  /-- `ProcessRX` of all ports. -/
  pushPorts : List UInt8 → σ → σ
  openPort : Fin portCount → Nat → Conn → σ → σ
  connectedPort : Fin portCount → σ → σ
  /-- The first request stores its `ec` and raises the signal. -/
  shutDown : Int → σ → σ

namespace Handlers

variable {portCount : Nat} {σ Conn : Type} (H : Handlers portCount σ Conn)

/-- A handler that sends nothing. -/
def quiet (update : σ → σ) : Code σ (Source portCount) (Message Conn) :=
  .act update fun _ => .done

/-- `GetConnection` of the TCP transport. -/
def getTcpConnection (next : Option Conn → Code σ (Source portCount) (Message Conn)) :
    Code σ (Source portCount) (Message Conn) :=
  .act H.tcp.connect fun shared =>
    match H.tcp.opening shared with
    | .current conn => next (some conn)
    | .unreachable => next none
    | .failed ec => .send .tcpTransport (.shutdown ec) fun _ => .act H.tcp.drop fun _ => next none
    | .opened conn udpPort =>
      .send .tcpTransport (.connected udpPort) fun _ => next (some conn)

/-- `GetConnection` of the UDP transport: a new connection is not announced. -/
def getUdpConnection (next : Option Conn → Code σ (Source portCount) (Message Conn)) :
    Code σ (Source portCount) (Message Conn) :=
  if H.udpEnabled then
    .act H.udp.connect fun shared =>
      match H.udp.opening shared with
      | .current conn | .opened conn _ => next (some conn)
      | .unreachable => next none
      | .failed ec =>
        .send .udpTransport (.shutdown ec) fun _ => .act H.udp.drop fun _ => next none
  else next none

/-- The end of `OnSendPackage`. -/
def sendWith (transport : Transport σ Conn) :
    Option Conn → Code σ (Source portCount) (Message Conn)
  | none => .done
  | some conn => quiet (transport.send conn)

def tcpOnSendPackage (useTCP : Bool) : Code σ (Source portCount) (Message Conn) :=
  if useTCP then H.getTcpConnection (sendWith H.tcp) else .done

def udpOnSendPackage (useTCP : Bool) : Code σ (Source portCount) (Message Conn) :=
  if useTCP then .done
  else if H.udpEnabled then H.getUdpConnection (sendWith H.udp)
  else .done

def onPollEvent (counter : UInt32) : Code σ (Source portCount) (Message Conn) :=
  .act (H.pollPorts counter) fun shared =>
    .send .dataProcessor (.sendPackage (!H.udpEnabled || H.useTCP counter shared)) fun _ => .done

/-- `OnMessage` of each subscriber. None of them looks at the source. -/
def onMessage : Subscriber portCount → Source portCount → Message Conn →
    Code σ (Source portCount) (Message Conn)
  | .shutdownHandler, _, .shutdown ec => quiet (H.shutDown ec)
  | .tcpTransport, _, .sendPackage useTCP => H.tcpOnSendPackage useTCP
  | .udpTransport, _, .sendPackage useTCP => H.udpOnSendPackage useTCP
  | .udpTransport, _, .connected udpPort => quiet (H.resetUdp udpPort)
  | .pollTimer, _, _ => quiet H.connectDone
  | .portWorker port, _, .portOpen id connection => quiet (H.openPort port id connection)
  | .portWorker port, _, .connected _ => quiet (H.connectedPort port)
  | .dataProcessor, _, .timer counter => H.onPollEvent counter
  | .dataProcessor, _, .incomingPackage package => quiet (H.pushPorts package)
  | _, _, _ => .done

/-- The subscribers of the client, in the order of the set, which goes by their addresses. -/
def subscribers (order : List (Subscriber portCount)) :
    Subscribers σ (Source portCount) (Message Conn) (Subscriber portCount) where
  subscribers := order
  readyForMessage := fun subscriber message => subscriber.readyForMessage message.msgType
  onMessage := H.onMessage

end Handlers

/-- The messages that the client's threads send by themselves: the timer its ticks, a transport
what it received, and that it is connected or failed, a listener the port that was opened, or
that it failed. -/
def Source.sends {portCount : Nat} : Source portCount → MsgType → Bool
  | .pollTimer, msgType => msgType == .timer
  | .tcpTransport, msgType =>
    msgType == .connected || msgType == .incomingPackage || msgType == .shutdown
  | .udpTransport, msgType => msgType == .incomingPackage || msgType == .shutdown
  | .tcpListener _, msgType | .ptyListener _, msgType =>
    msgType == .portOpen || msgType == .shutdown
  | .dataProcessor, _ => false

end UartBridge.Client
