import Mailroom.Handle
/-! # Log lines

What an observer of the log sees: events with a level, and spans, which enclose what follows them.
Both have fields, in the order in which they are written. Four kinds of line are shared by all who
log about actors, letters and schedulers; each takes the fields that its users add.
-/

namespace Mailroom

/-- Levels of the log, the most severe first. -/
inductive Level where
  | error
  | warn
  | info
  | debug
  | trace
deriving DecidableEq, Repr

/-- The labels and texts of a line's fields. -/
abbrev Fields := List (String × String)

inductive Line where
  | event (level : Level) (message : Option String) (fields : Fields)
  | span (name : String) (fields : Fields)
deriving DecidableEq, Repr

namespace Line

/-- The span of work on behalf of one actor. -/
def actor (handle : Handle) (module : String) (more : Fields) : Line :=
  span "actor" (("handle", handle.text) :: ("module", module) :: more)

/-- A turn in an actor's life. -/
def lifecycle (handle : Handle) (module turn : String) (more : Fields) : Line :=
  event .info none (("handle", handle.text) :: ("module", module) :: ("event", turn) :: more)

/-- A message that was not delivered. -/
def deadLetter (destination reason : String) (more : Fields) : Line :=
  event .warn (some "dead letter") (("destination", destination) :: ("reason", reason) :: more)

/-- Something that a scheduler or a worker did. -/
def scheduler (component turn : String) (more : Fields) : Line :=
  event .debug none (("component", component) :: ("event", turn) :: more)

end Line

end Mailroom
