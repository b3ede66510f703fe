import Mailroom.Journal.Line
import Mailroom.Timer
/-! # A timer and who it delivers to

What is delivered may make its receiver ask for more, and a request without delay is delivered at
once, so a delivery can begin inside another one. The work at hand is therefore a list: what a
delivery asks for is done before whatever was waiting behind that delivery. Receivers may ask
without end, so the work takes fuel, one unit for each item.
-/

namespace Mailroom.Timer

/-- What happens at a timer. -/
inductive Event where
  | added (target : Handle) (session : Int32) (expire : UInt32)
  | expired (target : Handle) (session : Int32)
  | delivered (now : UInt32) (target : Handle) (session : Int32)
deriving DecidableEq, Repr

/-- The log line of an event; a delivery itself is not logged. -/
def Event.line? : Event → Option Line
  | added target session expire => some (.event .trace (some "timer added")
      [("handle", target.text), ("session", toString session), ("expire", toString expire)])
  | expired target session => some (.event .trace (some "timer expired")
      [("handle", target.text), ("session", toString session)])
  | delivered _ _ _ => none

/-- What somebody asks of a timer. -/
structure Request where
  target : Handle
  delay : UInt32
  session : Int32
deriving DecidableEq, Repr

/-- What is still to be done. -/
inductive Item where
  | ask (request : Request)
  | expiry (node : Node)

/-- What receivers ask for on a delivery, given all that has happened, newest first. -/
abbrev Receivers := List Event → List Request

/-- Receivers that answer the delivery of a session by one request of the target for another one. -/
def Receivers.rearming (next? : Int32 → Option (UInt32 × Int32)) : Receivers
  | .delivered _ target session :: _ =>
    (next? session).toList.map fun (delay, session) => { target, delay, session }
  | _ => []

/-- A timer with all that has happened at it, newest first. -/
structure Station where
  timer : Timer
  past : List Event

namespace Station

def note (station : Station) (event : Event) : Station :=
  { station with past := event :: station.past }

/-- Delivers, and returns what the receivers ask for because of it. -/
def deliver (receivers : Receivers) (station : Station) (target : Handle) (session : Int32) :
    Station × List Item :=
  let station := station.note (.delivered station.timer.now target session)
  (station, (receivers station.past).map .ask)

/-- Does one item of the work at hand. -/
def perform (receivers : Receivers) (station : Station) : Item → Station × List Item
  | .ask request =>
    if request.delay = 0 then station.deliver receivers request.target request.session
    else
      let expire := station.timer.wheel.expiry request.delay
      let timer := station.timer.add request.target request.delay request.session
      (Station.note { station with timer } (.added request.target request.session expire), [])
  | .expiry node =>
    (station.note (.expired node.target node.session)).deliver receivers node.target node.session

/-- Does all the work at hand; nothing if the fuel does not last. -/
def work? (receivers : Receivers) : Nat → Station → List Item → Option Station
  | _, station, [] => some station
  | 0, _, _ :: _ => none
  | fuel + 1, station, item :: rest =>
    let (station, more) := station.perform receivers item
    work? receivers fuel station (more ++ rest)

def timeout? (receivers : Receivers) (fuel : Nat) (station : Station) (request : Request) :
    Option Station :=
  work? receivers fuel station [.ask request]

/-- Advances by one tick and delivers what expires at it, in the order it was added. -/
def advance? (receivers : Receivers) (fuel : Nat) (station : Station) : Option Station :=
  let (expired, timer) := station.timer.tick
  work? receivers fuel { station with timer } (expired.map .expiry)

def advanceBy? (receivers : Receivers) (fuel : Nat) : Nat → Station → Option Station
  | 0, station => some station
  | count + 1, station => (station.advance? receivers fuel).bind (advanceBy? receivers fuel count)

/-- Catches up with a reading of the clock, in whole ticks, and returns the ticks it applied. -/
def update? (receivers : Receivers) (fuel : Nat) (station : Station) (reading : Nat) :
    Option (Nat × Station) :=
  let (ahead, timer) := station.timer.observe reading
  (advanceBy? receivers fuel ahead { station with timer }).map fun station => (ahead, station)

end Station

end Mailroom.Timer
