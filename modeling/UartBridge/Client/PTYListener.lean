import UartBridge.Client.Connection

/-!
# PTYListener: the pseudo-terminal of a local port

The listener's thread watches the slave end with inotify and counts the handles
that are open on it. It is told of a client by the count. Each round of the loop
begins with `poll`; what `poll` and the `read` calls return is an argument.
-/

namespace UartBridge.Client

/-- What the listener sends to the message broker. -/
inductive ListenerMessage where
  | portOpen (id : Nat)
  | shutdown (ec : Errno)
  deriving DecidableEq, Repr

/-- What `poll` returns on the inotify descriptor. With events to read, `read`
returns them one by one, by their masks, until it fails. -/
inductive WatchResult where
  | failed (errno : Errno)
  | hangup
  | timeout
  | readable (masks : List UInt32) (errno : Errno)
  deriving DecidableEq, Repr

/-- `IN_OPEN`. -/
def inOpen : UInt32 := 0x20

/-- `IN_CLOSE`, that is `IN_CLOSE_WRITE` and `IN_CLOSE_NOWRITE`. -/
def inClose : UInt32 := 0x18

/-- The local variables of `Worker`'s loop. -/
structure PTYListener where
  openCount : Int
  shutdownPending : Bool
  /-- The loop was left, with an error or after a signal. -/
  left : Bool
  deriving DecidableEq, Repr

namespace PTYListener

/-- Before the loop. -/
def start : PTYListener := { openCount := 0, shutdownPending := false, left := false }

/-- `OnShutdown`. -/
def onShutdown (s : PTYListener) : PTYListener := { s with shutdownPending := true }

/-- What an event does to the count. -/
def countEvent (openCount : Int) (mask : UInt32) : Int :=
  let openCount := if mask &&& inOpen ≠ 0 then openCount + 1 else openCount
  if mask &&& inClose ≠ 0 then openCount - 1 else openCount

/-- A round of the loop, for the port `portID`. -/
def round (portID : Nat) (result : WatchResult) (s : PTYListener) :
    PTYListener × List ListenerMessage :=
  match result with
  | .failed errno =>
    if errno = .EINTR then ({ s with left := true }, [])
    else ({ s with left := true }, [.shutdown errno])
  | .hangup => ({ s with left := true }, [.shutdown (.other 1)])
  | .timeout => (s, [])
  | .readable masks errno =>
    let s := { s with openCount := masks.foldl countEvent s.openCount }
    if errno ≠ .EAGAIN then ({ s with left := true }, [.shutdown errno])
    -- first client connected
    else if s.openCount = 1 then (s, [.portOpen portID])
    else (s, [])

end PTYListener

end UartBridge.Client
