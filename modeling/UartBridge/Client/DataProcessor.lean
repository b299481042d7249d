import UartBridge.Client.PortWorker

/-!
# DataProcessor: from the port workers to a package, and back

A poll event asks one port worker after the other for a request; each worker has
its own locks, so that other threads get in between: `pollPort` is one round of
the loop. The buffer is the processor's own until the package was sent.
-/

namespace UartBridge.Client

/-- The local variables of `OnPollEvent`: the port to ask next is `port`. -/
structure PollState where
  counter : UInt32
  port : Nat
  useTCP : Bool
  openTriggered : Bool
  deriving DecidableEq, Repr

namespace DataProcessor

variable {size : Nat}

/-- The start of `OnPollEvent`. -/
def pollStart (counter : UInt32) : PollState :=
  { counter := counter, port := 0, useTCP := false, openTriggered := false }

/-- One round of the loop over the ports: the request and the bytes come from
`ProcessTX` of the port's worker. -/
def pollPort (config : Config) (request : Request) (data : List UInt8) (txBuff : Nat → UInt8)
    (poll : PollState) : (Nat → UInt8) × PollState :=
  let txBuff := ByteMem.write txBuff (config.getPortBuffOffset poll.port) data
  (request.write poll.port txBuff,
    { poll with
      port := poll.port + 1
      useTCP := poll.useTCP || request.type == .Open || request.type == .Close ||
        request.type == .Reset
      openTriggered := poll.openTriggered || request.type == .Open })

/-- What `OnPollEvent` writes as the package's counter. -/
def counterField (config : Config) (poll : PollState) : UInt32 :=
  if poll.openTriggered then config.remotePollInterval else poll.counter

/-- The end of `OnPollEvent`: the package, and whether it has to go over TCP. -/
def pollFinish (config : Config) (txBuff : Nat → UInt8) (poll : PollState) :
    (Nat → UInt8) × Bool :=
  (writeU32Value (counterField config poll) pkgCntOffset txBuff,
    poll.useTCP || !config.enableUDP)

/-- `OnIncomingPackageEvent`, when nothing comes between the two sections of the
port workers' `ProcessRX`. -/
def onIncomingPackage (config : Config) (package : Nat → UInt8)
    (portWorkers : List (PortWorker UInt8 size)) : List (PortWorker UInt8 size) :=
  portWorkers.mapIdx fun i w =>
    let response := Response.map i package
    w.processRX response (ByteMem.read package (config.getPortBuffOffset i) response.plSz.toNat)

end DataProcessor

end UartBridge.Client
