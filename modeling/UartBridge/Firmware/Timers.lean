import Mathlib.Data.List.Basic

/-!
# AlarmTimer and IntervalTimer

The timers read `millis()` and `micros()`; the time is an argument here.
-/

namespace UartBridge.Firmware

structure AlarmTimer where
  startTime : UInt32
  interval : UInt32
  deriving DecidableEq, Repr

namespace AlarmTimer

def setAlarmDelay (intervalMS : UInt32) (t : AlarmTimer) : AlarmTimer :=
  { t with interval := intervalMS }

def alarmTriggered (millis : UInt32) (t : AlarmTimer) : Bool := t.interval < millis - t.startTime

def snoozeAlarm (millis : UInt32) (t : AlarmTimer) : AlarmTimer := { t with startTime := millis }

end AlarmTimer

structure IntervalTimer where
  checkPoint : UInt32
  interval : UInt32
  deriving DecidableEq, Repr

namespace IntervalTimer

def setInterval (intervalUsec micros : UInt32) (_t : IntervalTimer) : IntervalTimer :=
  { checkPoint := micros, interval := if 0 < intervalUsec then intervalUsec else 1 }

def update (micros : UInt32) (t : IntervalTimer) : Bool := t.interval ≤ micros - t.checkPoint

def next (t : IntervalTimer) : IntervalTimer := { t with checkPoint := t.checkPoint + t.interval }

end IntervalTimer

end UartBridge.Firmware
