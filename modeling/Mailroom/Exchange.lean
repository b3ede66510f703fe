import Mailroom.Mailbox
import Mailroom.RunQueue
/-! # The exchange

Every mailbox there has ever been, by number, and the run queue over them. A mailbox's number is the
count of mailboxes before it and stays with it; the numbers in the run queue are numbers of
mailboxes.
-/

namespace Mailroom

structure Exchange where
  boxes : Array Mailbox
  runQueue : RunQueue

namespace Exchange

def ofRoom (room : Nat) : Exchange := { boxes := #[], runQueue := .ofRoom room }

def box? (exchange : Exchange) (box : Nat) : Option Mailbox := exchange.boxes[box]?

/-- The newest mailbox of a handle. -/
def newest? (exchange : Exchange) (handle : Handle) : Option Nat :=
  exchange.boxes.size.fold (fun box _ found =>
    if (exchange.box? box).any (·.handle = handle) then some box else found) none

/-- Adds a mailbox, which is held by its creator. -/
def add (exchange : Exchange) (handle : Handle) (capacity : Nat) : Exchange :=
  { exchange with boxes := exchange.boxes.push (.held handle capacity) }

/-- Puts a mailbox back, and into the run queue if it is runnable. -/
def settle (exchange : Exchange) (box : Nat) (settlement : Settlement) : Exchange where
  boxes := exchange.boxes.setIfInBounds box settlement.box
  runQueue := if settlement.runnable then exchange.runQueue.schedule box else exchange.runQueue

/-- Settles a mailbox by one of its operations. -/
def settleBy (operation : Mailbox → Settlement) (exchange : Exchange) (box : Nat) :
    List Message × Exchange :=
  match exchange.box? box with
  | none => ([], exchange)
  | some found =>
    let settlement := operation found
    (settlement.returned, exchange.settle box settlement)

/-- Appends a message to a mailbox unless that is released, and says whether it did. -/
def post (exchange : Exchange) (box : Nat) (message : Message) : Bool × Exchange :=
  match (exchange.box? box).bind (·.post? message) with
  | none => (false, exchange)
  | some settlement => (true, exchange.settle box settlement)

/-- Takes the oldest message of a mailbox, if there is one. -/
def take (exchange : Exchange) (box : Nat) : Option Message × Exchange :=
  match (exchange.box? box).bind (·.take?) with
  | none => (none, exchange)
  | some (message, rest) =>
    (some message, { exchange with boxes := exchange.boxes.setIfInBounds box rest })

/-- Lets go of a mailbox after servicing it, or after creating it. -/
def finish : Exchange → Nat → List Message × Exchange := settleBy Mailbox.finish

def markReleased : Exchange → Nat → List Message × Exchange := settleBy Mailbox.markReleased

def release : Exchange → Nat → List Message × Exchange := settleBy Mailbox.release

/-- Takes the mailbox at the head of the run queue; whoever takes it owns it. -/
def next? (exchange : Exchange) : Option (Nat × Exchange) :=
  exchange.runQueue.next?.map fun (box, runQueue) => (box, { exchange with runQueue })

/-- The handle that a mailbox belongs to. -/
def handleOf (exchange : Exchange) (box : Nat) : Handle :=
  ((exchange.box? box).map (·.handle)).getD default

end Exchange

end Mailroom
