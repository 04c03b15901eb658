import TraceRelay.MessageId
/-! The timer that moves the message ids to the next hour. It sleeps until just after the top of the hour;
a wakeup that comes too early changes nothing, and the timer sleeps again. -/
namespace TraceRelay.HourTimer

def millisPerHour : Int64 := 3600000

def hourAt (now : Int64) : Int64 := now / millisPerHour

/-- Milliseconds to sleep: one more than are left of the hour. -/
def untilNextHour (now : Int64) : Nat :=
  (millisPerHour.toInt - now.toInt % millisPerHour.toInt).toNat + 1

def wake (ids : MessageIds) (now : Int64) : Bool × MessageIds := ids.rollover (hourAt now)

end TraceRelay.HourTimer
