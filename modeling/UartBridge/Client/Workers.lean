import UartBridge.Client.Main

/-!
# The life of the client: its threads, the shutdown handler and `main`

`main` starts its workers, waits for a signal or for a request to shut down, tells each worker
to stop and collects the threads. This is `WorkerBase`, `ShutdownHandler` and that part of
`main`, as a system of threads that take steps in any order. What a thread does otherwise is
left open: it may send requests, and end, at any time.
-/

namespace UartBridge.Client

/-- The workers that `main` creates; those of a port have its number. -/
inductive WorkerName where
  | portWorker (i : Nat)
  | tcpTransport
  | udpTransport
  | pollTimer
  | tcpListener (i : Nat)
  | ptyListener (i : Nat)
  deriving DecidableEq, Repr

namespace WorkerName

def portWorkers (ports : List PortSetup) : List WorkerName :=
  (List.range ports.length).map portWorker

/-- The ports with a listener of this kind. -/
def portsWith (kind : ListenerKind) (ports : List PortSetup) : List Nat :=
  (List.range ports.length).filter fun i => ports[i]?.bind (·.listenerKind) = some kind

def tcpListeners (ports : List PortSetup) : List WorkerName :=
  (portsWith .tcp ports).map tcpListener

def ptyListeners (ports : List PortSetup) : List WorkerName :=
  (portsWith .pty ports).map ptyListener

/-- The order of `Startup`. -/
def starts (ports : List PortSetup) : List WorkerName :=
  portWorkers ports ++ ([tcpTransport, udpTransport, pollTimer] ++
    (tcpListeners ports ++ ptyListeners ports))

/-- The order of `RequestShutdown` and of `Shutdown`. -/
def stops (ports : List PortSetup) : List WorkerName :=
  tcpListeners ports ++ (ptyListeners ports ++ ([pollTimer, udpTransport, tcpTransport] ++
    portWorkers ports))

end WorkerName

/-! ## WorkerBase -/

/-- A `std::thread`: not created, in `Worker`, at its end, or collected. -/
inductive Thread where
  | absent | running | finished | joined
  deriving DecidableEq, Repr

/-- `told` counts the calls of `OnShutdown`; nothing reads it. -/
structure WorkerBase where
  workerStarted : Bool
  thread : Thread
  told : Nat
  deriving DecidableEq, Repr

namespace WorkerBase

def create : WorkerBase := { workerStarted := false, thread := .absent, told := 0 }

def startup (w : WorkerBase) : WorkerBase :=
  if w.workerStarted then w else { w with workerStarted := true, thread := .running }

def onShutdown (w : WorkerBase) : WorkerBase := { w with told := w.told + 1 }

def requestShutdown (w : WorkerBase) : WorkerBase :=
  if !w.workerStarted then w else w.onShutdown

/-- The end of `Shutdown`, after `join`. -/
def collected (w : WorkerBase) : WorkerBase := { w with workerStarted := false, thread := .joined }

/-- `Worker` returns. -/
def finish (w : WorkerBase) : WorkerBase := { w with thread := .finished }

end WorkerBase

/-! ## ShutdownHandler -/

structure ShutdownHandler where
  shutdownRequested : Bool
  ec : Int
  deriving DecidableEq, Repr

def ShutdownHandler.create : ShutdownHandler := { shutdownRequested := false, ec := 0 }

/-- The signals that `main` waits for; all threads block them. -/
inductive Signal where
  | SIGHUP | SIGUSR1 | SIGUSR2 | SIGPIPE | SIGTERM
  deriving DecidableEq, Repr

/-- Where the thread stands whose message was the first: before `ec.store`, or before `kill`. -/
inductive HandlerStage where
  | store (ec : Int)
  | kill
  deriving DecidableEq, Repr

/-! ## main -/

/-- Where `main` stands. `left` are the workers still to deal with; `joining`: `OnShutdown` was
called a second time, and `join` waits. -/
inductive MainPhase where
  | starting (left : List WorkerName)
  | waiting
  | checking
  | reading
  | requesting (left : List WorkerName)
  | stopping (left : List WorkerName)
  | joining (name : WorkerName) (left : List WorkerName)
  | returned
  deriving DecidableEq, Repr

/-- What `main` logs when it leaves its loop. -/
inductive Verdict where
  | signal (signal : Signal)
  | waitFailed
  | workerFailed
  | gracefully
  deriving DecidableEq, Repr

/-- What `sigtimedwait` returns: nothing in time or an interruption, another error, or a pending
signal. -/
inductive WaitResult where
  | nothing
  | failed
  | signal (signal : Signal)
  deriving DecidableEq, Repr

/-- `first` is the `ec` of the first message that reached the handler, and `kills` counts its
signals. `verdict` comes with their number at that time. -/
structure ClientRun where
  worker : WorkerName → WorkerBase
  handler : ShutdownHandler
  writer : Option (WorkerName × HandlerStage)
  pending : Signal → Bool
  main : MainPhase
  verdict : Option (Verdict × Nat)
  first : Option Int
  kills : Nat

namespace ClientRun

/-- `main` is about to start its workers. -/
def init (ports : List PortSetup) : ClientRun :=
  { worker := fun _ => .create, handler := .create, writer := none, pending := fun _ => false
    main := .starting (WorkerName.starts ports), verdict := none, first := none, kills := 0 }

inductive Event where
  /-- `Startup` of the next worker, or its failure, of which it sends a message. -/
  | startup (failure : Option Int)
  | wait (result : WaitResult)
  /-- `IsShutdownRequested`. -/
  | check
  /-- `GetEC`. -/
  | read
  /-- `RequestShutdown` of the next worker. -/
  | request
  /-- `Shutdown` of the next worker, up to `join`. -/
  | shutdown
  | join
  /-- The message of a thread reaches the handler. -/
  | send (name : WorkerName) (ec : Int)
  /-- The first thread goes on in the handler. -/
  | write
  /-- `Worker` returns. -/
  | finish (name : WorkerName)
  /-- A signal arrives from outside. -/
  | arrive (signal : Signal)

/-- The steps of the main thread. -/
def Event.byMain : Event → Bool
  | .startup _ | .wait _ | .check | .read | .request | .shutdown | .join => true
  | .send _ _ | .write | .finish _ | .arrive _ => false

def update (s : ClientRun) (name : WorkerName) (w : WorkerBase) : ClientRun :=
  { s with worker := fun other => if other = name then w else s.worker other }

def raise (s : ClientRun) (signal : Signal) : ClientRun :=
  { s with pending := fun other => if other = signal then true else s.pending other }

/-- `main` leaves its loop. -/
def leave (s : ClientRun) (ports : List PortSetup) (verdict : Verdict) : ClientRun :=
  { s with main := .requesting (WorkerName.stops ports), verdict := some (verdict, s.kills) }

/-- A message that `main` itself sends: nobody else reads `ec` meanwhile. -/
def sendFromMain (s : ClientRun) (ec : Int) : ClientRun :=
  if s.handler.shutdownRequested then s
  else
    { s.raise .SIGUSR2 with
      handler := { shutdownRequested := true, ec := ec }
      first := some ec, kills := s.kills + 1 }

/-- After `sigtimedwait`. -/
def woken (s : ClientRun) (ports : List PortSetup) : WaitResult → Option ClientRun
  | .nothing => some { s with main := .checking }
  | .failed => some (s.leave ports .waitFailed)
  | .signal signal =>
    if s.pending signal then
      let s := { s with pending := fun other => if other = signal then false else s.pending other }
      match signal with
      | .SIGUSR2 => some { s with main := .checking }
      | .SIGHUP | .SIGUSR1 | .SIGPIPE | .SIGTERM => some (s.leave ports (.signal signal))
    else none

/-- Only `PTYListener` has a `Startup` of its own, which can fail. -/
def canFail : WorkerName → Bool
  | .ptyListener _ => true
  | .portWorker _ | .tcpTransport | .udpTransport | .pollTimer | .tcpListener _ => false

def step (ports : List PortSetup) (s : ClientRun) : Event → Option ClientRun
  | .startup failure =>
    match s.main, failure with
    | .starting (name :: left), none =>
      some { s.update name (s.worker name).startup with main := .starting left }
    | .starting (name :: left), some ec =>
      if canFail name then some { s.sendFromMain ec with main := .starting left } else none
    | .starting [], none => some { s with main := .waiting }
    | _, _ => none
  | .wait result =>
    match s.main with
    | .waiting => s.woken ports result
    | _ => none
  | .check =>
    match s.main with
    | .checking =>
      some { s with main := if s.handler.shutdownRequested then .reading else .waiting }
    | _ => none
  | .read =>
    match s.main with
    | .reading => some (s.leave ports (if s.handler.ec ≠ 0 then .workerFailed else .gracefully))
    | _ => none
  | .request =>
    match s.main with
    | .requesting (name :: left) =>
      some { s.update name (s.worker name).requestShutdown with main := .requesting left }
    | .requesting [] => some { s with main := .stopping (WorkerName.stops ports) }
    | _ => none
  | .shutdown =>
    match s.main with
    | .stopping (name :: left) =>
      if (s.worker name).workerStarted then
        some { s.update name (s.worker name).onShutdown with main := .joining name left }
      else some { s with main := .stopping left }
    | .stopping [] => some { s with main := .returned }
    | _ => none
  | .join =>
    match s.main with
    | .joining name left =>
      if (s.worker name).thread = .finished then
        some { s.update name (s.worker name).collected with main := .stopping left }
      else none
    | _ => none
  | .send name ec =>
    if (s.worker name).thread = .running ∧ s.writer.map (·.1) ≠ some name then
      if s.handler.shutdownRequested then some s
      else
        some { s with
          handler := { s.handler with shutdownRequested := true }
          writer := some (name, .store ec), first := some ec }
    else none
  | .write =>
    match s.writer with
    | some (name, .store ec) =>
      some { s with handler := { s.handler with ec := ec }, writer := some (name, .kill) }
    | some (_, .kill) => some { s.raise .SIGUSR2 with writer := none, kills := s.kills + 1 }
    | none => none
  | .finish name =>
    if (s.worker name).thread = .running ∧ s.writer.map (·.1) ≠ some name then
      some (s.update name (s.worker name).finish)
    else none
  | .arrive signal => some (s.raise signal)

end ClientRun

end UartBridge.Client
