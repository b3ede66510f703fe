import Mailroom.Handle
/-! # Messages and sessions

A message has the handle of its sender, a session that pairs it with its answer, and a payload. A
message without a sender comes from the runtime itself. Sessions are allocated by counting up from
one, and from one again after the greatest 32-bit number.
-/

namespace Mailroom

abbrev Payload := List UInt8

/-- What travels from one actor to another. -/
structure Message where
  source : Option Handle
  session : Int32
  payload : Payload
deriving DecidableEq, Repr, Inhabited

namespace Message

/-- What a timer delivers when it expires. -/
def expiry (session : Int32) : Message := { source := none, session, payload := [] }

/-- Whether a message comes from the runtime and from no actor. -/
def isSystem (message : Message) : Bool := message.source.isNone

def size (message : Message) : Nat := message.payload.length

/-- The record form of a message's sender. -/
def sourceRecord (message : Message) : String :=
  match message.source with
  | none => "None"
  | some handle => "Some(" ++ handle.record ++ ")"

end Message

/-- The session allocated after `last`; it is positive whatever `last` was. -/
def nextSession (last : Int32) : Int32 :=
  if last < 0 ∨ last = Int32.maxValue then 1 else last + 1

end Mailroom
