import Mailroom.Engine
/-! # Delivery

The ways in which a message reaches a mailbox: sends, and timers that expire. Every message takes
the same last step, which either appends it to the mailbox of a live actor or makes it a dead
letter.
-/

namespace Mailroom.Engine

variable {κ : Type}

/-- Refuses a message: it becomes a dead letter and the sender is told why. -/
def refuse (engine : Engine κ) (destination : String) (message : Message) (reason : DropReason)
    (cause : SendError) : Except SendError Unit × Engine κ :=
  (.error cause, engine.mapRoster (·.drop none destination reason message))

/-- Appends a message to the mailbox of the live actor that has the handle. -/
def deliver (engine : Engine κ) (target : Handle) (message : Message) :
    Except SendError Unit × Engine κ :=
  if engine.stopping then engine.refuse target.text message .shuttingDown .shuttingDown
  else
    match engine.roster.find? target with
    | none => engine.refuse target.text message .unknownHandle (.unknownHandle target)
    | some actor =>
      match engine.overRoster (·.post actor message) with
      | (true, engine) => (.ok (), engine)
      | (false, engine) => engine.refuse target.text message .released (.released target)

/-- Sends a message whose session is decided, and returns the session. -/
def sendTo (engine : Engine κ) (destination : Address) (message : Message) :
    Except SendError Int32 × Engine κ :=
  let delivered :=
    match destination with
    | .handle target => engine.deliver target message
    | .name label =>
      match engine.findName? label with
      | some target => engine.deliver target message
      | none => engine.refuse destination.text message .unknownName (.unknownName label)
  (delivered.1.map fun _ => message.session, delivered.2)

/-- Allocates a session from the counter of an actor. -/
def allocateFor (engine : Engine κ) (actor : Nat) : Int32 × Engine κ :=
  engine.overRoster (·.allocate actor)

/-- Allocates a session for a send with the given source: from the source's counter if it is live,
otherwise from the engine's. -/
def allocate (engine : Engine κ) (source : Option Handle) : Int32 × Engine κ :=
  match source.bind engine.roster.find? with
  | some actor => engine.allocateFor actor
  | none =>
    let session := nextSession engine.lastSession
    (session, { engine with lastSession := session })

/-- Sends a message. A negative session asks for a new one. -/
def send (engine : Engine κ) (source : Option Handle) (destination : Address) (session : Int32)
    (payload : Payload) : Except SendError Int32 × Engine κ :=
  let (session, engine) := if session < 0 then engine.allocate source else (session, engine)
  engine.sendTo destination { source, session, payload }

/-- Sends a message on behalf of an actor that is at work. -/
def sendAs (engine : Engine κ) (actor : Nat) (destination : Address) (session : Int32)
    (payload : Payload) : Except SendError Int32 × Engine κ :=
  let (session, engine) := if session < 0 then engine.allocateFor actor else (session, engine)
  engine.sendTo destination { source := some (engine.roster.handleOf actor), session, payload }

/-- Asks for an empty message after a number of ticks, or at once if that is zero. -/
def timeout (engine : Engine κ) (target : Handle) (ticks : UInt32) (session : Int32) : Engine κ :=
  if ticks = 0 then (engine.deliver target (.expiry session)).2
  else
    let expire := engine.timer.wheel.expiry ticks
    { engine with timer := engine.timer.add target ticks session }.note
      (.timer (.added target session expire))

/-- Delivers what a timer that expired has to deliver. -/
def expire (engine : Engine κ) (node : Timer.Node) : Engine κ :=
  ((engine.note (.timer (.expired node.target node.session))).deliver node.target
    (.expiry node.session)).2

/-- Advances the timer by one tick. -/
def advance (engine : Engine κ) : Engine κ :=
  let (expired, timer) := engine.timer.tick
  expired.foldl expire { engine with timer }

def advanceBy : Nat → Engine κ → Engine κ
  | 0, engine => engine
  | count + 1, engine => advanceBy count engine.advance

/-- Catches up with a reading of the clock, and returns the ticks it applied. -/
def updateTime (engine : Engine κ) (reading : Nat) : Nat × Engine κ :=
  let (ahead, timer) := engine.timer.observe reading
  (ahead, advanceBy ahead { engine with timer })

end Mailroom.Engine
