import Mailroom.DeadLetter
import Mailroom.Program
import Mailroom.Timer.Station
/-! # The journal

Everything that happens in an engine, as events. Most events are log lines too; those about the way
of a single message, and what actors report of themselves, are not.
-/

namespace Mailroom

/-- A turn in an actor's life. -/
inductive Turn where
  | launched (args : String)
  | initFailed (cause : String)
  | retired
  | destroyed
deriving DecidableEq, Repr

namespace Turn

def text : Turn → String
  | launched _ => "launched"
  | initFailed _ => "init failed"
  | retired => "retired"
  | destroyed => "destroyed"

def fields : Turn → Fields
  | launched args => [("args", args)]
  | initFailed cause => [("error", cause)]
  | retired => []
  | destroyed => []

end Turn

/-- What happens in an engine. Mailboxes are named by their numbers. -/
inductive Event where
  | moduleRegistered (name : String)
  | created (workers tickMilliseconds : Nat)
  | started (workers : Nat)
  | stopping
  | stopped
  | timer (event : Timer.Event)
  | commanded (caller : Handle) (keyword : String)
  | turned (handle : Handle) (module : String) (turn : Turn)
  /-- Work on behalf of an actor begins: its init, or its callback on a session. -/
  | entered (handle : Handle) (module : String) (session : Option Int32)
  /-- A mailbox accepted a message. -/
  | posted (box : Nat) (message : Message)
  /-- A message from a mailbox was passed to the callback of an actor. -/
  | invoked (box actor : Nat) (message : Message)
  /-- A message was not delivered; it may have come out of a mailbox. -/
  | dropped (origin : Option Nat) (letter : DeadLetter) (passage : Passage)
  /-- A mailbox was to be serviced whose actor is gone. -/
  | orphaned (handle : Handle) (count : Nat)
  | panicked (handle : Handle) (session : Int32) (text : String)
  | reported (handle : Handle) (report : Report)

/-- The log lines of an event. -/
def Event.lines : Event → List Line
  | moduleRegistered name => [.event .debug (some "module registered") [("module", name)]]
  | created workers milliseconds => [.event .info (some "actor system created")
      [("workers", toString workers), ("tick_ms", toString milliseconds)]]
  | started workers =>
    [.event .info (some "actor system started") [("workers", toString workers)]]
  | stopping => [.event .info (some "actor system shutting down") []]
  | stopped => [.event .info (some "actor system stopped") []]
  | timer event => event.line?.toList
  | commanded caller keyword =>
    [.event .debug (some "command") [("handle", caller.text), ("command", keyword)]]
  | turned handle module turn => [.lifecycle handle module turn.text turn.fields]
  | entered handle module session =>
    [.actor handle module (session.toList.map fun session => ("session", toString session))]
  | posted _ _ => []
  | invoked _ _ _ => []
  | dropped _ letter passage =>
    match passage with
    | .full => [letter.line, .event .debug (some "dead-letter channel full")
        [("destination", letter.destination)]]
    | .published => [letter.line]
    | .unobserved => [letter.line]
  | orphaned handle count => [.event .warn (some "queue of a retired actor")
      [("handle", handle.text), ("dropped", toString count)]]
  | panicked handle session text => [.event .error (some ("callback panicked: " ++ text))
      [("handle", handle.text), ("session", toString session)]]
  | reported _ _ => []

end Mailroom
