import Mailroom.Text.Duration
import Mailroom.Text.Record
import Mailroom.Timer.Wheel
/-! # The timer

A wheel with a clock beside it. The wheel advances one tick at a time; how far the clock has come
since the start, in whole ticks, is read outside, and each tick of it is applied once.
-/

namespace Mailroom

structure Timer where
  wheel : Timer.Wheel
  /-- The greatest reading of the clock so far. -/
  applied : Nat
  /-- The length of a tick in nanoseconds. -/
  tickLength : Nat

namespace Timer

/-- A timer without anything to deliver, at a tick. -/
def startingAt (now : UInt32) (tickLength : Nat) : Timer :=
  { wheel := .startingAt now, applied := 0, tickLength }

def now (timer : Timer) : UInt32 := timer.wheel.now

def pending (timer : Timer) : Nat := timer.wheel.pending

def add (timer : Timer) (target : Handle) (delay : UInt32) (session : Int32) : Timer :=
  { timer with wheel := timer.wheel.add target delay session }

def tick (timer : Timer) : List Node × Timer :=
  let (expired, wheel) := timer.wheel.tick
  (expired, { timer with wheel })

/-- The ticks by which a reading of the clock is ahead of all earlier ones. They count as applied
from now on, so the caller advances by as many. -/
def observe (timer : Timer) (reading : Nat) : Nat × Timer :=
  (reading - timer.applied, { timer with applied := max timer.applied reading })

/-- The record form of a timer. -/
def record (timer : Timer) : String :=
  Text.record "TimerWheel" [("time", toString timer.now), ("pending", toString timer.pending),
    ("tick", Text.duration timer.tickLength)]

end Timer

end Mailroom
