import Mathlib.Data.List.Basic

/-!
# Timer: the client's poll timer

`Worker` sends a tick each round, and tunes the time that it sleeps so that the ticks keep to
multiples of the interval. `steady_clock` counts nanoseconds, the interval is in microseconds, and
`duration_cast` rounds down. When the round is over and how long it took is the environment's
affair.
-/

namespace UartBridge.Client

/-- The members and local variables of `Worker`. -/
structure Timer where
  reqIntervalUsec : Nat
  startTime : Nat
  intervalUsec : Nat
  eventCounter : UInt32
  shutdownPending : Bool
  deriving DecidableEq, Repr

namespace Timer

def nsecPerUsec : Nat := 1000

/-- `reqInterval`, in nanoseconds. -/
def reqInterval (t : Timer) : Nat := t.reqIntervalUsec * nsecPerUsec

/-- `Worker` up to its loop, at `steady_clock::now() = now`. -/
def start (reqIntervalUsec now : Nat) : Timer :=
  { reqIntervalUsec := reqIntervalUsec, startTime := now, intervalUsec := reqIntervalUsec
    eventCounter := 0, shutdownPending := false }

/-- `OnShutdown`. -/
def onShutdown (t : Timer) : Timer := { t with shutdownPending := true }

/-- The counter of the next `TimerMessage`. -/
def nextCounter (t : Timer) : UInt32 := t.eventCounter + 1

/-- The end of a round, at `steady_clock::now() = now`. -/
def tune (now : Nat) (t : Timer) : Timer :=
  { t with
    eventCounter := t.nextCounter
    intervalUsec :=
      (t.reqInterval - (now - t.startTime) % t.reqInterval) / nsecPerUsec }

end Timer

end UartBridge.Client
