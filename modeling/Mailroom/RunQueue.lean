import Mailroom.PowerOfTwo
import Mailroom.Queue
import Mailroom.Text.Record
import Mailroom.Wakeups
/-! # The run queue

The mailboxes that have messages and no owner but their place here, in the order in which they are
serviced. Whoever finds it empty may wait for a mailbox to arrive.
-/

namespace Mailroom

structure RunQueue where
  /-- The numbers of the mailboxes. -/
  entries : Queue Nat
  wakeups : Wakeups

namespace RunQueue

/-- An empty run queue with room for a power of two of entries that is not below `room`. -/
def ofRoom (room : Nat) : RunQueue :=
  { entries := .ofCapacity (twoPow (ceilLog2 room)), wakeups := .empty }

def length (queue : RunQueue) : Nat := queue.entries.length

def isEmpty (queue : RunQueue) : Bool := queue.entries.isEmpty

/-- Appends a mailbox and wakes one who waits for it. -/
def schedule (queue : RunQueue) (box : Nat) : RunQueue :=
  { entries := queue.entries.push box, wakeups := queue.wakeups.notify }

/-- Takes the mailbox that has waited longest. -/
def next? (queue : RunQueue) : Option (Nat × RunQueue) :=
  queue.entries.pop?.map fun (box, entries) => (box, { queue with entries })

/-- Waits for a mailbox. One that is here already ends the wait and uses up no notice. A waiter that
waits already gives up its earlier wait before the new one starts. -/
def wait (queue : RunQueue) (waiter : Int) : Waiting × RunQueue :=
  let wakeups := queue.wakeups.giveUp waiter
  if queue.isEmpty then
    let (waiting, wakeups) := wakeups.sleep waiter
    (waiting, { queue with wakeups })
  else (.ready, { queue with wakeups })

/-- Looks again at a wait that was pending. -/
def look? (queue : RunQueue) (waiter : Int) : Option (Waiting × RunQueue) :=
  (queue.wakeups.look? waiter).map fun (waiting, wakeups) => (waiting, { queue with wakeups })

def wakeAll (queue : RunQueue) : RunQueue := { queue with wakeups := queue.wakeups.notifyAll }

/-- The record form of a run queue. -/
def record (queue : RunQueue) : String :=
  Text.record "GlobalScheduler" [("len", toString queue.length)]

end RunQueue

end Mailroom
