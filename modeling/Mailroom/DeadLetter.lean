import Mailroom.Journal.Line
import Mailroom.Message
import Mailroom.Queue
import Mailroom.Text.Record
/-! # Dead letters

A message that was not delivered becomes a dead letter. The outlet passes letters on to subscribers
through one bounded buffer that they all take from. It keeps a letter only while somebody besides
itself can take from the buffer; every copy of the outlet counts as one who can. A letter that finds
the buffer full is not kept either.
-/

namespace Mailroom

/-- Why a message was not delivered. -/
inductive DropReason where
  /-- The name is not bound. -/
  | unknownName
  /-- No live actor has the handle. -/
  | unknownHandle
  /-- The actor was being destroyed when the message arrived. -/
  | released
  /-- The message still waited when its actor was destroyed. -/
  | retired
  /-- The actor has no callback. -/
  | noCallback
  /-- The actor's init failed. -/
  | initFailed
  /-- The runtime was shutting down. -/
  | shuttingDown
deriving DecidableEq, Repr

def DropReason.text : DropReason → String
  | unknownName => "unknown name"
  | unknownHandle => "unknown handle"
  | released => "actor released"
  | retired => "actor retired"
  | noCallback => "no callback"
  | initFailed => "init failed"
  | shuttingDown => "shutting down"

/-- A message that was not delivered, with its destination as the sender wrote it. -/
structure DeadLetter where
  destination : String
  source : Option Handle
  session : Int32
  payload : Payload
  reason : DropReason
deriving DecidableEq, Repr

namespace DeadLetter

def ofMessage (destination : String) (message : Message) (reason : DropReason) : DeadLetter where
  destination
  source := message.source
  session := message.session
  payload := message.payload
  reason

/-- The message that the letter was. -/
def message (letter : DeadLetter) : Message where
  source := letter.source
  session := letter.session
  payload := letter.payload

@[simp] theorem message_ofMessage (destination : String) (message : Message)
    (reason : DropReason) : (ofMessage destination message reason).message = message := rfl

def line (letter : DeadLetter) : Line :=
  .deadLetter letter.destination letter.reason.text
    [("source", letter.message.sourceRecord), ("session", toString letter.session),
      ("size", toString letter.message.size)]

end DeadLetter

/-- What the outlet did with a letter. -/
inductive Passage where
  | published
  | full
  | unobserved
deriving DecidableEq, Repr

structure Outlet where
  /-- The most letters that are kept, which may be none. -/
  capacity : Nat
  /-- The letters that nobody has taken. -/
  buffer : Queue DeadLetter
  /-- The subscribers, by a number that each chose for itself, the newest first. -/
  subscribers : List Int
  /-- The copies of the outlet. -/
  copies : Nat

namespace Outlet

def ofCapacity (capacity : Nat) : Outlet :=
  { capacity, buffer := .ofCapacity capacity, subscribers := [], copies := 0 }

/-- Those besides the outlet itself who can take from the buffer. -/
def observers (outlet : Outlet) : Nat := outlet.subscribers.length + outlet.copies

def record (outlet : Outlet) (letter : DeadLetter) : Passage × Outlet :=
  if outlet.observers = 0 then (.unobserved, outlet)
  else if outlet.buffer.length < outlet.capacity then
    (.published, { outlet with buffer := outlet.buffer.push letter })
  else (.full, outlet)

/-- Adds a subscriber, if it is not one already. -/
def subscribe (outlet : Outlet) (subscriber : Int) : Outlet :=
  if subscriber ∈ outlet.subscribers then outlet
  else { outlet with subscribers := subscriber :: outlet.subscribers }

def unsubscribe? (outlet : Outlet) (subscriber : Int) : Option Outlet :=
  if subscriber ∈ outlet.subscribers then
    some { outlet with subscribers := outlet.subscribers.erase subscriber }
  else none

def copy (outlet : Outlet) : Outlet := { outlet with copies := outlet.copies + 1 }

def dropCopy (outlet : Outlet) : Outlet := { outlet with copies := outlet.copies - 1 }

/-- A subscriber takes up to `count` letters, oldest first. -/
def receive? (outlet : Outlet) (subscriber : Int) (count : Nat) :
    Option (List DeadLetter × Outlet) :=
  if subscriber ∈ outlet.subscribers then
    let (letters, buffer) := outlet.buffer.popMany count
    some (letters, { outlet with buffer })
  else none

/-- The record form of an outlet. -/
def recordText (outlet : Outlet) : String :=
  Text.record "DeadLetterSink" [("queued", toString outlet.buffer.length),
    ("capacity", "Some(" ++ toString outlet.capacity ++ ")"),
    ("subscribers", toString outlet.observers)]

end Outlet

end Mailroom
