import UartBridge.Lib.LockOrder

/-!
# The client's threads and mutexes

Every function of the client that locks a mutex, or calls one that may, is here by
what it does with mutexes. A condition of the source is a choice, a loop over what
arrives runs any number of times, and waiting for anything but a mutex is left out:
`sleep`, `poll`, `recv`, `join`, and the condition variable, whose `wait` gives the
mutex back and locks it again.

`SendMessage` calls the subscribers in turn, in the sender's thread and with whatever
the sender has locked.

* `ordered_code` — every thread locks its mutexes in one order;
* `no_deadlock` — for any number of ports, and whichever thread goes next.
-/

namespace UartBridge.ClientLocks

open LockOrder EventRun

/-- The classes derived from `WorkerBase`; the listeners and the port workers by port. -/
inductive Worker where
  | pollTimer | tcpTransport | udpTransport
  | tcpListener (i : Nat) | ptyListener (i : Nat) | portWorker (i : Nat)
  deriving DecidableEq, Repr

inductive Thread where
  | main
  | worker (w : Worker)
  deriving DecidableEq, Repr

inductive Mutex where
  | workerLock (w : Worker)
  | pollLock | pushLock | tcpRemoteConnLock | udpRemoteConnLock
  | clientLock (i : Nat) | ringBuffLock (i : Nat)
  | opLock | stdioLock
  deriving DecidableEq, Repr

/-- The order in which mutexes are locked. -/
def rank : Mutex → Nat
  | .workerLock _ => 0
  | .pollLock => 1
  | .pushLock => 2
  | .tcpRemoteConnLock => 3
  | .udpRemoteConnLock => 4
  | .clientLock _ => 5
  | .ringBuffLock _ => 6
  | .opLock => 7
  | .stdioLock => 8

inductive MsgType where
  | MSG_SHUTDOWN | MSG_CONNECTED | MSG_INCOMING_PACKAGE | MSG_TIMER | MSG_SEND_PACKAGE
  | MSG_PORT_OPEN
  deriving DecidableEq, Repr

inductive Subscriber where
  | shutdownHandler | tcpTransport | udpTransport | pollTimer
  | portWorker (i : Nat) | dataProcessor
  deriving DecidableEq, Repr

/-- `ReadyForMessage`. -/
def Subscriber.readyForMessage : Subscriber → MsgType → Bool
  | .shutdownHandler, msgType => msgType = .MSG_SHUTDOWN
  | .tcpTransport, msgType => msgType = .MSG_SEND_PACKAGE
  | .udpTransport, msgType => msgType = .MSG_SEND_PACKAGE || msgType = .MSG_CONNECTED
  | .pollTimer, msgType => msgType = .MSG_CONNECTED
  | .portWorker _, msgType => msgType = .MSG_PORT_OPEN || msgType = .MSG_CONNECTED
  | .dataProcessor, msgType => msgType = .MSG_TIMER || msgType = .MSG_INCOMING_PACKAGE

/-- The number of ports, whether `NDEBUG` is missing, and the subscribers in the order
in which the broker's set has them. -/
structure Setup where
  portCount : Nat
  debug : Bool
  subscribers : List Subscriber
  deriving Repr

/-! ## Logger and broker -/

/-- A message to the log: the `LogWriter` lives to the end of the statement. -/
def log : Code Mutex := .locked .stdioLock .skip

/-- A statement that runs or not. -/
def perhaps (c : Code Mutex) : Code Mutex := .choice c .skip

/-- `MessageBroker::SendMessage`; `onMessage` is what the subscribers do with this
message. The debug build looks for recursion first, and gives up when it finds it. -/
def sendMessage (s : Setup) (msgType : MsgType) (onMessage : Subscriber → Code Mutex) :
    Code Mutex :=
  let dispatch := Code.all
    ((s.subscribers.filter fun subscriber => subscriber.readyForMessage msgType).map onMessage)
  if s.debug then
    .choice (.locked .opLock log)
      (.all [.locked .opLock .skip, dispatch, .locked .opLock .skip])
  else .all [.locked .opLock .skip, dispatch]

/-- `HandleError` of the transports and the listeners. `ShutdownHandler::OnMessage`
locks nothing. -/
def handleError (s : Setup) : Code Mutex :=
  .all [log, sendMessage s .MSG_SHUTDOWN fun _ => .skip]

/-- `TuneSocketBaseParams` and `SetSocketCustomTimeouts`. -/
def tuneSocket : Code Mutex := .loop log

/-! ## The transports -/

namespace UDPTransport

/-- `OnConnected`. -/
def onConnected : Code Mutex := .locked .udpRemoteConnLock (perhaps log)

/-- `OnShutdown`. -/
def onShutdown : Code Mutex := .locked .udpRemoteConnLock .skip

/-- `GetConnection`. -/
def getConnection (s : Setup) : Code Mutex :=
  .choice log <| .choice .skip <| .locked .udpRemoteConnLock <|
    -- the connection there is, no address, no socket, no connection, or a new one
    .choice .skip <| .choice .skip <| .choice (handleError s) <|
      .all [tuneSocket, .choice (perhaps (handleError s)) log]

/-- `OnSendPackage`. -/
def onSendPackage (s : Setup) : Code Mutex :=
  .choice .skip <| .choice log <| .all [getConnection s, perhaps (perhaps log)]

end UDPTransport

/-- What the subscribers do with a `ConnectedMessage`: `Timer` and `PortWorker` set a
flag. -/
def onConnected : Subscriber → Code Mutex
  | .udpTransport => UDPTransport.onConnected
  | _ => .skip

namespace TCPTransport

/-- `OnShutdown`. -/
def onShutdown : Code Mutex := .locked .tcpRemoteConnLock .skip

/-- `GetConnection`. -/
def getConnection (s : Setup) : Code Mutex :=
  .locked .tcpRemoteConnLock <|
    .choice .skip <| .choice .skip <| .choice (handleError s) <|
      .all [tuneSocket, .choice (perhaps (handleError s))
        (.all [log, sendMessage s .MSG_CONNECTED onConnected])]

/-- `OnSendPackage`. -/
def onSendPackage (s : Setup) : Code Mutex :=
  .choice .skip <| .all [getConnection s, .loop (perhaps log)]

end TCPTransport

/-- What the subscribers do with a `SendPackageMessage`. -/
def onSendPackage (s : Setup) : Subscriber → Code Mutex
  | .tcpTransport => TCPTransport.onSendPackage s
  | .udpTransport => UDPTransport.onSendPackage s
  | _ => .skip

/-! ## The ports -/

namespace PortWorker

/-- `OnPortOpen`; the message may be meant for another port. -/
def onPortOpen (i : Nat) : Code Mutex :=
  .choice .skip <| .locked (.clientLock i) <|
    .all [perhaps log, perhaps (.locked (.ringBuffLock i) log)]

/-- `ProcessTX`. -/
def processTX (i : Nat) : Code Mutex :=
  .choice .skip <| .choice log <| .locked (.clientLock i) <|
    .choice log <| .choice .skip <| perhaps log

/-- `ProcessRX`. -/
def processRX (i : Nat) : Code Mutex :=
  .all [.locked (.clientLock i) .skip,
    .choice .skip <| .all [perhaps log,
      .choice .skip (.locked (.ringBuffLock i) (perhaps log))]]

/-- `Worker`: it waits for data, looks up the client, writes and commits. -/
def run (i : Nat) : Code Mutex :=
  .all [log,
    .loop (.all [.locked (.ringBuffLock i) .skip, .loop (.locked (.ringBuffLock i) .skip),
      .choice .skip (.all [.locked (.clientLock i) .skip, perhaps log,
        .locked (.ringBuffLock i) .skip])]),
    log]

end PortWorker

namespace DataProcessor

/-- `OnPollEvent`. -/
def onPollEvent (s : Setup) : Code Mutex :=
  .locked .pollLock <|
    .all [.all ((List.range s.portCount).map PortWorker.processTX), perhaps log,
      sendMessage s .MSG_SEND_PACKAGE (onSendPackage s)]

/-- `OnIncomingPackageEvent`. -/
def onIncomingPackageEvent (s : Setup) : Code Mutex :=
  .locked .pushLock (.all ((List.range s.portCount).map PortWorker.processRX))

end DataProcessor

/-- What the subscribers do with an `IncomingPackageMessage`. -/
def onIncomingPackage (s : Setup) : Subscriber → Code Mutex
  | .dataProcessor => DataProcessor.onIncomingPackageEvent s
  | _ => .skip

/-- What the subscribers do with a `TimerMessage`. -/
def onTimer (s : Setup) : Subscriber → Code Mutex
  | .dataProcessor => DataProcessor.onPollEvent s
  | _ => .skip

/-- What the subscribers do with a `PortOpenMessage`. -/
def onPortOpen : Subscriber → Code Mutex
  | .portWorker i => PortWorker.onPortOpen i
  | _ => .skip

/-! ## The threads -/

/-- `TCPTransport::Worker`: it gets a connection and reads packages until it fails. -/
def TCPTransport.run (s : Setup) : Code Mutex :=
  .all [log,
    .loop (.all [TCPTransport.getConnection s,
      .loop (.all [perhaps log,
        .choice log (perhaps (sendMessage s .MSG_INCOMING_PACKAGE (onIncomingPackage s)))])]),
    log]

/-- `UDPTransport::Worker`. -/
def UDPTransport.run (s : Setup) : Code Mutex :=
  .choice log <|
    .all [log,
      .loop (.all [UDPTransport.getConnection s,
        .choice (perhaps log)
          (.all [perhaps log, sendMessage s .MSG_INCOMING_PACKAGE (onIncomingPackage s)])]),
      .locked .udpRemoteConnLock log]

/-- `Timer::Worker`. -/
def Timer.run (s : Setup) : Code Mutex :=
  .all [.loop (.all [sendMessage s .MSG_TIMER (onTimer s), perhaps log]), log]

/-- `TCPListener::Worker`. -/
def TCPListener.run (s : Setup) : Code Mutex :=
  .choice (handleError s) <|
    .all [log,
      .loop (.choice log (.all [tuneSocket, log, sendMessage s .MSG_PORT_OPEN onPortOpen])),
      .choice (handleError s) log]

/-- `PTYListener::Worker`. -/
def PTYListener.run (s : Setup) : Code Mutex :=
  .choice (handleError s) <|
    .all [log,
      .loop (.choice .skip
        (.choice (.all [log, sendMessage s .MSG_PORT_OPEN onPortOpen]) (perhaps log))),
      .choice (handleError s) log]

/-- `Worker` of each class. -/
def Worker.run (s : Setup) : Worker → Code Mutex
  | .pollTimer => Timer.run s
  | .tcpTransport => TCPTransport.run s
  | .udpTransport => UDPTransport.run s
  | .tcpListener _ => TCPListener.run s
  | .ptyListener _ => PTYListener.run s
  | .portWorker i => PortWorker.run i

/-- `OnShutdown` of each class. -/
def Worker.onShutdown : Worker → Code Mutex
  | .tcpTransport => TCPTransport.onShutdown
  | .udpTransport => UDPTransport.onShutdown
  | .pollTimer | .tcpListener _ | .ptyListener _ | .portWorker _ => .skip

/-- `Startup`; a `PTYListener` opens its terminal first. -/
def Worker.startup (s : Setup) (w : Worker) : Code Mutex :=
  match w with
  | .ptyListener _ =>
    .choice (handleError s) (.all [perhaps log, .locked (.workerLock w) .skip])
  | .pollTimer | .tcpTransport | .udpTransport | .tcpListener _ | .portWorker _ =>
    .locked (.workerLock w) .skip

/-- `RequestShutdown`. -/
def Worker.requestShutdown (w : Worker) : Code Mutex :=
  .locked (.workerLock w) (perhaps w.onShutdown)

/-- `Shutdown`: the thread is joined under `workerLock`. -/
def Worker.shutdown (w : Worker) : Code Mutex :=
  .locked (.workerLock w) (perhaps w.onShutdown)

def Setup.portWorkers (s : Setup) : List Worker := (List.range s.portCount).map .portWorker

/-- A port has a listener of one kind, or none; those it does not have are as good as
never started. -/
def Setup.listeners (s : Setup) : List Worker :=
  (List.range s.portCount).map .tcpListener ++ (List.range s.portCount).map .ptyListener

/-- The workers in the order in which `main` starts them. -/
def Setup.started (s : Setup) : List Worker :=
  s.portWorkers ++ [.tcpTransport, .udpTransport, .pollTimer] ++ s.listeners

/-- The workers in the order in which `main` shuts them down. -/
def Setup.stopped (s : Setup) : List Worker :=
  s.listeners ++ [.pollTimer, .udpTransport, .tcpTransport] ++ s.portWorkers

/-- `main`: it registers the subscribers, starts the workers, waits for a signal and
shuts the workers down. -/
def mainThread (s : Setup) : Code Mutex :=
  .all [.loop log, .all (s.subscribers.map fun _ => .locked .opLock .skip), .loop log,
    .all (s.started.map fun w => perhaps (w.startup s)), .loop log,
    .all (s.stopped.map fun w => perhaps w.requestShutdown),
    .all (s.stopped.map fun w => perhaps w.shutdown), log]

def code (s : Setup) : Thread → Code Mutex
  | .main => mainThread s
  | .worker w => w.run s

/-! ## The order -/

variable {b : Nat} {s : Setup}

theorem ordered_log (hb : b ≤ 8) : log.Ordered rank b := ⟨hb, trivial⟩

theorem ordered_perhaps {c : Code Mutex} (h : c.Ordered rank b) : (perhaps c).Ordered rank b :=
  ⟨h, trivial⟩

/-- A statement for each element of a list. -/
theorem ordered_forEach {α : Type} (xs : List α) {f : α → Code Mutex}
    (h : ∀ x, (f x).Ordered rank b) : (Code.all (xs.map f)).Ordered rank b := by
  refine Ordered.all ?_
  intro c hc
  obtain ⟨x, -, rfl⟩ := List.mem_map.mp hc
  exact h x

/-- Sending a message is in order when what the subscribers do is, and `opLock` may be
locked. -/
theorem ordered_sendMessage (hb : b ≤ 7) {msgType : MsgType} {onMessage : Subscriber → Code Mutex}
    (h : ∀ subscriber, (onMessage subscriber).Ordered rank b) :
    (sendMessage s msgType onMessage).Ordered rank b := by
  have hlock : (Code.locked Mutex.opLock .skip).Ordered rank b := ⟨hb, trivial⟩
  have hdispatch : (Code.all ((s.subscribers.filter fun subscriber =>
      subscriber.readyForMessage msgType).map onMessage)).Ordered rank b :=
    ordered_forEach _ h
  unfold sendMessage
  dsimp only
  split
  · exact ⟨⟨hb, ordered_log (Nat.le_refl 8)⟩, hlock, hdispatch, hlock, trivial⟩
  · exact ⟨hlock, hdispatch, trivial⟩

theorem ordered_handleError (hb : b ≤ 7) : (handleError s).Ordered rank b :=
  ⟨ordered_log (by omega), ordered_sendMessage hb fun _ => trivial, trivial⟩

theorem ordered_onConnected (hb : b ≤ 4) (subscriber : Subscriber) :
    (onConnected subscriber).Ordered rank b := by
  cases subscriber with
  | udpTransport => exact ⟨hb, ordered_perhaps (ordered_log (by decide))⟩
  | shutdownHandler | tcpTransport | pollTimer | portWorker _ | dataProcessor => trivial

theorem ordered_udpGetConnection (hb : b ≤ 4) :
    (UDPTransport.getConnection s).Ordered rank b :=
  have hlog : log.Ordered rank 5 := ordered_log (by decide)
  have herror : (handleError s).Ordered rank 5 := ordered_handleError (by decide)
  ⟨ordered_log (by omega), trivial, hb, trivial, trivial, herror, hlog,
    ⟨ordered_perhaps herror, hlog⟩, trivial⟩

theorem ordered_tcpGetConnection (hb : b ≤ 3) :
    (TCPTransport.getConnection s).Ordered rank b :=
  have hlog : log.Ordered rank 4 := ordered_log (by decide)
  have herror : (handleError s).Ordered rank 4 := ordered_handleError (by decide)
  -- the message goes out with `remoteConnLock` locked, and `UDPTransport` locks its own
  have hconnected : (sendMessage s .MSG_CONNECTED onConnected).Ordered rank 4 :=
    ordered_sendMessage (by decide) (ordered_onConnected (Nat.le_refl 4))
  ⟨hb, trivial, trivial, herror, hlog,
    ⟨ordered_perhaps herror, hlog, hconnected, trivial⟩, trivial⟩

theorem ordered_onSendPackage (hb : b ≤ 3) (subscriber : Subscriber) :
    (onSendPackage s subscriber).Ordered rank b := by
  have hlog : log.Ordered rank b := ordered_log (by omega)
  cases subscriber with
  | tcpTransport => exact ⟨trivial, ordered_tcpGetConnection hb, ordered_perhaps hlog, trivial⟩
  | udpTransport =>
    exact ⟨trivial, hlog, ordered_udpGetConnection (by omega),
      ordered_perhaps (ordered_perhaps hlog), trivial⟩
  | shutdownHandler | pollTimer | portWorker _ | dataProcessor => trivial

theorem ordered_processTX (hb : b ≤ 5) (i : Nat) : (PortWorker.processTX i).Ordered rank b :=
  have hlog : log.Ordered rank 6 := ordered_log (by decide)
  ⟨trivial, ordered_log (by omega), hb, hlog, trivial, ordered_perhaps hlog⟩

theorem ordered_processRX (hb : b ≤ 5) (i : Nat) : (PortWorker.processRX i).Ordered rank b :=
  ⟨⟨hb, trivial⟩,
    ⟨trivial, ordered_perhaps (ordered_log (by omega)),
      ⟨trivial, show b ≤ 6 by omega, ordered_perhaps (ordered_log (by decide : 7 ≤ 8))⟩,
      trivial⟩,
    trivial⟩

theorem ordered_onPortOpen (hb : b ≤ 5) (subscriber : Subscriber) :
    (onPortOpen subscriber).Ordered rank b := by
  cases subscriber with
  | portWorker i =>
    exact ⟨trivial, hb, ordered_perhaps (ordered_log (by decide : 6 ≤ 8)),
      ordered_perhaps ⟨Nat.le_refl 6, ordered_log (by decide : 7 ≤ 8)⟩, trivial⟩
  | shutdownHandler | tcpTransport | udpTransport | pollTimer | dataProcessor => trivial

theorem ordered_onTimer (hb : b ≤ 1) (subscriber : Subscriber) :
    (onTimer s subscriber).Ordered rank b := by
  cases subscriber with
  | dataProcessor =>
    exact ⟨hb, ordered_forEach _ (ordered_processTX (by decide)),
      ordered_perhaps (ordered_log (by decide)),
      ordered_sendMessage (by decide) (ordered_onSendPackage (by decide)), trivial⟩
  | shutdownHandler | tcpTransport | udpTransport | pollTimer | portWorker _ => trivial

theorem ordered_onIncomingPackage (hb : b ≤ 2) (subscriber : Subscriber) :
    (onIncomingPackage s subscriber).Ordered rank b := by
  cases subscriber with
  | dataProcessor => exact ⟨hb, ordered_forEach _ (ordered_processRX (by decide))⟩
  | shutdownHandler | tcpTransport | udpTransport | pollTimer | portWorker _ => trivial

/-- The worker threads start with nothing locked. -/
theorem ordered_run (s : Setup) (w : Worker) : (w.run s).Ordered rank 0 := by
  have hlog : log.Ordered rank 0 := ordered_log (by decide)
  have herror : (handleError s).Ordered rank 0 := ordered_handleError (by decide)
  have hpackage : (sendMessage s .MSG_INCOMING_PACKAGE (onIncomingPackage s)).Ordered rank 0 :=
    ordered_sendMessage (by decide) (ordered_onIncomingPackage (by decide))
  have hopen : (sendMessage s .MSG_PORT_OPEN onPortOpen).Ordered rank 0 :=
    ordered_sendMessage (by decide) (ordered_onPortOpen (by decide))
  cases w with
  | pollTimer =>
    exact ⟨⟨ordered_sendMessage (by decide) (ordered_onTimer (by decide)),
      ordered_perhaps hlog, trivial⟩, hlog, trivial⟩
  | tcpTransport =>
    exact ⟨hlog, ⟨ordered_tcpGetConnection (by decide),
      ⟨ordered_perhaps hlog, ⟨hlog, ordered_perhaps hpackage⟩, trivial⟩, trivial⟩, hlog, trivial⟩
  | udpTransport =>
    exact ⟨hlog, hlog, ⟨ordered_udpGetConnection (by decide),
      ⟨ordered_perhaps hlog, ordered_perhaps hlog, hpackage, trivial⟩, trivial⟩,
      ⟨Nat.zero_le _, ordered_log (by decide)⟩, trivial⟩
  | tcpListener i =>
    exact ⟨herror, hlog, ⟨hlog, hlog, hlog, hopen, trivial⟩, ⟨herror, hlog⟩, trivial⟩
  | ptyListener i =>
    exact ⟨herror, hlog, ⟨trivial, ⟨hlog, hopen, trivial⟩, ordered_perhaps hlog⟩,
      ⟨herror, hlog⟩, trivial⟩
  | portWorker i =>
    have hring : (Code.locked (Mutex.ringBuffLock i) .skip).Ordered rank 0 :=
      ⟨Nat.zero_le _, trivial⟩
    exact ⟨hlog, ⟨hring, hring, ⟨trivial, ⟨Nat.zero_le _, trivial⟩, ordered_perhaps hlog,
      hring, trivial⟩, trivial⟩, hlog, trivial⟩

/-- `OnShutdown` runs with `workerLock` locked. -/
theorem ordered_onShutdown (w : Worker) : w.onShutdown.Ordered rank 1 := by
  cases w with
  | tcpTransport | udpTransport => exact ⟨by decide, trivial⟩
  | pollTimer | tcpListener _ | ptyListener _ | portWorker _ => trivial

theorem ordered_startup (s : Setup) (w : Worker) : (w.startup s).Ordered rank 0 := by
  cases w with
  | ptyListener i =>
    exact ⟨ordered_handleError (by decide), ordered_perhaps (ordered_log (by decide)),
      ⟨Nat.zero_le _, trivial⟩, trivial⟩
  | pollTimer | tcpTransport | udpTransport | tcpListener _ | portWorker _ =>
    exact ⟨Nat.zero_le _, trivial⟩

/-- **Every thread locks its mutexes in the order of their ranks.** -/
theorem ordered_code (s : Setup) (t : Thread) : (code s t).Ordered rank 0 := by
  cases t with
  | worker w => exact ordered_run s w
  | main =>
    have hlog : log.Ordered rank 0 := ordered_log (by decide)
    have hstop (w : Worker) : (Code.locked (Mutex.workerLock w)
        (perhaps w.onShutdown)).Ordered rank 0 :=
      ⟨Nat.zero_le _, ordered_perhaps (ordered_onShutdown w)⟩
    exact ⟨hlog, ordered_forEach _ fun _ => ⟨Nat.zero_le _, trivial⟩, hlog,
      ordered_forEach _ fun w => ordered_perhaps (ordered_startup s w), hlog,
      ordered_forEach _ fun w => ordered_perhaps (hstop w),
      ordered_forEach _ fun w => ordered_perhaps (hstop w), hlog, trivial⟩

/-- **No deadlock in the client.** Whichever thread goes next, and for any number of
ports, no thread comes to lock a mutex it holds, and no threads wait for each other in
a circle. -/
theorem no_deadlock (s : Setup) (es : List (Thread × Bool)) (p : Pool Thread Mutex)
    (run : exec Pool.step (Pool.start (code s)) es = some p) : p.DeadlockFree :=
  deadlockFree_of_ordered (ordered_code s) run

/-! ## Example -/

section Example

/-- One port, and the subscribers in some order. -/
def onePort : Setup where
  portCount := 1
  debug := false
  subscribers :=
    [.dataProcessor, .tcpTransport, .udpTransport, .portWorker 0, .pollTimer, .shutdownHandler]

/-- A worker takes so many steps in a row, going left but where it is said. -/
def goes (w : Worker) (steps : Nat) (right : List Nat) : List (Thread × Bool) :=
  (List.range steps).map fun k => (.worker w, k ∉ right)

/-- The UDP worker is in `GetConnection`; the TCP worker announces its new connection;
the poll timer has a package to send. -/
def waiting : List (Thread × Bool) :=
  goes .udpTransport 11 [0, 8, 9] ++ goes .tcpTransport 26 [8, 9, 10, 12, 14] ++
    goes .pollTimer 27 [16, 25]

def afterWaiting : Pool Thread Mutex :=
  (exec Pool.step (Pool.start (code onePort)) waiting).getD (Pool.start (code onePort))

/-- The poll timer waits for the TCP worker, which waits for the UDP worker. -/
theorem no_deadlock_waiting : afterWaiting.DeadlockFree ∧
    afterWaiting.WaitsFor (.worker .pollTimer) (.worker .tcpTransport) ∧
      afterWaiting.WaitsFor (.worker .tcpTransport) (.worker .udpTransport) :=
  ⟨no_deadlock onePort waiting afterWaiting (exec_eq_some_getD (by decide +kernel)),
    ⟨.tcpRemoteConnLock, by decide +kernel, by decide +kernel⟩,
    ⟨.udpRemoteConnLock, by decide +kernel, by decide +kernel⟩⟩

end Example

end UartBridge.ClientLocks
