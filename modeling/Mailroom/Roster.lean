import Mailroom.Directory
import Mailroom.Exchange
import Mailroom.Journal.Event
import Mailroom.Text.Quoted
/-! # The roster

Every actor there has ever been, by number, with its mailbox, the directory of those that are live,
the outlet for dead letters and the journal. An actor has the number of its mailbox.

The directory refers to an actor for as long as it is live, and whoever works with an actor refers
to it as a guest. The actor is destroyed when the last reference goes, which releases its mailbox.
Each actor carries a copy of the outlet until then.
-/

namespace Mailroom

structure Actor (κ : Type) where
  handle : Handle
  module : String
  args : String
  behaviour : Instance κ
  callback : Option κ
  /-- The session allocated last. -/
  lastSession : Int32
  /-- The references besides the directory's. -/
  guests : Nat

structure Roster (κ : Type) where
  directory : Directory Nat
  actors : Array (Actor κ)
  exchange : Exchange
  outlet : Outlet
  /-- What has happened, newest first. -/
  past : List Event

namespace Roster

variable {κ : Type}

def ofSizes (slots runQueueRoom deadLetterCapacity : Nat) : Roster κ where
  directory := .ofCount slots
  actors := #[]
  exchange := .ofRoom runQueueRoom
  outlet := .ofCapacity deadLetterCapacity
  past := []

def note (roster : Roster κ) (event : Event) : Roster κ :=
  { roster with past := event :: roster.past }

def actor? (roster : Roster κ) (actor : Nat) : Option (Actor κ) := roster.actors[actor]?

/-- The number of the live actor that has the handle. -/
def find? (roster : Roster κ) (handle : Handle) : Option Nat := roster.directory.find? handle

def handleOf (roster : Roster κ) (actor : Nat) : Handle :=
  ((roster.actor? actor).map (·.handle)).getD default

def moduleOf (roster : Roster κ) (actor : Nat) : String :=
  ((roster.actor? actor).map (·.module)).getD ""

def isLive (roster : Roster κ) (actor : Nat) : Bool :=
  roster.find? (roster.handleOf actor) = some actor

def modify (roster : Roster κ) (actor : Nat) (change : Actor κ → Actor κ) : Roster κ :=
  { roster with actors := roster.actors.modify actor change }

/-- Applies an operation to the directory. -/
def overDirectory {β : Type} (roster : Roster κ)
    (operation : Directory Nat → β × Directory Nat) : β × Roster κ :=
  let { directory, actors, exchange, outlet, past } := roster
  let (answer, directory) := operation directory
  (answer, { directory, actors, exchange, outlet, past })

/-- Applies an operation to the exchange. -/
def overExchange {β : Type} (roster : Roster κ) (operation : Exchange → β × Exchange) :
    β × Roster κ :=
  let { directory, actors, exchange, outlet, past } := roster
  let (answer, exchange) := operation exchange
  (answer, { directory, actors, exchange, outlet, past })

/-- Applies an operation to the outlet. -/
def overOutlet {β : Type} (roster : Roster κ) (operation : Outlet → β × Outlet) : β × Roster κ :=
  let { directory, actors, exchange, outlet, past } := roster
  let (answer, outlet) := operation outlet
  (answer, { directory, actors, exchange, outlet, past })

/-! ### Dead letters -/

/-- Turns a message into a dead letter; `origin` is the mailbox it came out of, if it did. -/
def drop (roster : Roster κ) (origin : Option Nat) (destination : String) (reason : DropReason)
    (message : Message) : Roster κ :=
  let letter := DeadLetter.ofMessage destination message reason
  let (passage, roster) := roster.overOutlet (·.record letter)
  roster.note (.dropped origin letter passage)

/-- Turns the messages that came out of a mailbox into dead letters, in order. -/
def dropAll (roster : Roster κ) (box : Nat) (handle : Handle) (reason : DropReason)
    (messages : List Message) : Roster κ :=
  messages.foldl (fun roster message => roster.drop (some box) handle.text reason message) roster

/-- Applies an operation of the exchange that may return messages, and drops those. -/
def settleBy (operation : Exchange → Nat → List Message × Exchange) (reason : DropReason)
    (roster : Roster κ) (box : Nat) (handle : Handle) : Roster κ :=
  let (returned, roster) := roster.overExchange (operation · box)
  roster.dropAll box handle reason returned

/-- Lets go of an actor's mailbox after servicing it, or after its init. -/
def finish (roster : Roster κ) (box : Nat) (handle : Handle) : Roster κ :=
  roster.settleBy Exchange.finish .retired box handle

/-- Releases a mailbox on behalf of its owner. -/
def release (roster : Roster κ) (box : Nat) (handle : Handle) (reason : DropReason) : Roster κ :=
  roster.settleBy Exchange.release reason box handle

/-! ### Lifetimes -/

/-- Destroys an actor, whose copy of the outlet goes last. -/
def destroy (roster : Roster κ) (actor : Nat) : Roster κ :=
  let handle := roster.handleOf actor
  let module := roster.moduleOf actor
  let released := roster.settleBy Exchange.markReleased .retired actor handle
  let noted := released.note (.turned handle module .destroyed)
  { noted with outlet := noted.outlet.dropCopy }

/-- Whether somebody refers to an actor. -/
def isHeld (roster : Roster κ) (actor : Nat) : Bool :=
  roster.isLive actor || (roster.actor? actor).any fun found => 0 < found.guests

def destroyUnlessHeld (roster : Roster κ) (actor : Nat) : Roster κ :=
  if roster.isHeld actor then roster else roster.destroy actor

/-- Refers to an actor as a guest. -/
def hold (roster : Roster κ) (actor : Nat) : Roster κ :=
  roster.modify actor fun found => { found with guests := found.guests + 1 }

/-- Gives up a guest's reference. -/
def letGo (roster : Roster κ) (actor : Nat) : Roster κ :=
  (roster.modify actor fun found => { found with guests := found.guests - 1 }).destroyUnlessHeld
    actor

/-- The references to an actor. -/
def references (roster : Roster κ) (actor : Nat) : Nat :=
  ((roster.actor? actor).map (·.guests)).getD 0 + if roster.isLive actor then 1 else 0

/-- Adds a live actor, with a mailbox that is held and one guest: whoever adds it. Returns its
number, unless every handle is in use. -/
def enroll (roster : Roster κ) (module args : String) (behaviour : Instance κ)
    (mailboxCapacity : Nat) : Option Nat × Roster κ :=
  let actor := roster.actors.size
  match roster.overDirectory (·.register actor) with
  | (none, roster) => (none, roster)
  | (some handle, roster) =>
    (some actor, { roster with
      actors := roster.actors.push
        { handle, module, args, behaviour, callback := none, lastSession := 0, guests := 1 }
      exchange := roster.exchange.add handle mailboxCapacity
      outlet := roster.outlet.copy })

/-- Adds live actors that nobody refers to as a guest, and returns their handles. -/
def enrollMany (module : String) (behaviour : Instance κ) (mailboxCapacity : Nat) :
    Nat → Roster κ → List Handle × Roster κ
  | 0, roster => ([], roster)
  | count + 1, roster =>
    match roster.enroll module "" behaviour mailboxCapacity with
    | (none, roster) => ([], roster)
    | (some actor, roster) =>
      let handle := roster.handleOf actor
      let (handles, grown) :=
        enrollMany module behaviour mailboxCapacity count (roster.letGo actor)
      (handle :: handles, grown)

/-- Takes a handle that is in use out of the directory, which gives up the directory's reference,
and says whether it was in use. -/
def unlist (roster : Roster κ) (handle : Handle) : Bool × Roster κ :=
  match roster.overDirectory (·.retire handle) with
  | (none, roster) => (false, roster)
  | (some actor, roster) => (true, roster.destroyUnlessHeld actor)

/-- Retires the live actor that has the handle, and says whether there was one. -/
def retire (roster : Roster κ) (handle : Handle) : Bool × Roster κ :=
  match roster.find? handle with
  | none => (false, roster)
  | some actor =>
    let module := roster.moduleOf actor
    let (_, unlisted) := (roster.hold actor).unlist handle
    (true, (unlisted.note (.turned handle module .retired)).letGo actor)

/-! ### What actors have of their own -/

/-- Registers an actor's callback, once. -/
def setCallback (roster : Roster κ) (actor : Nat) (key : κ) :
    Except CallbackError Unit × Roster κ :=
  match roster.actor? actor with
  | none => (.ok (), roster)
  | some found =>
    if found.callback.isSome then (.error (.alreadySet found.handle), roster)
    else (.ok (), roster.modify actor fun found => { found with callback := some key })

/-- Changes the key of an actor's callback, if it has one. -/
def become (roster : Roster κ) (actor : Nat) (key : κ) : Roster κ :=
  roster.modify actor fun found => { found with callback := found.callback.map fun _ => key }

/-- Allocates a session from an actor's counter. -/
def allocate (roster : Roster κ) (actor : Nat) : Int32 × Roster κ :=
  let session := nextSession (((roster.actor? actor).map (·.lastSession)).getD 0)
  (session, roster.modify actor fun found => { found with lastSession := session })

def allocateMany (actor : Nat) : Nat → Roster κ → List Int32 × Roster κ
  | 0, roster => ([], roster)
  | count + 1, roster =>
    let (session, roster) := roster.allocate actor
    let (sessions, roster) := allocateMany actor count roster
    (session :: sessions, roster)

/-- Appends a message to a mailbox unless that is released, and says whether it did. -/
def post (roster : Roster κ) (box : Nat) (message : Message) : Bool × Roster κ :=
  match roster.overExchange (·.post box message) with
  | (false, roster) => (false, roster)
  | (true, roster) => (true, roster.note (.posted box message))

/-- The record form of an actor. -/
def recordOf (roster : Roster κ) (actor : Nat) : Option String :=
  (roster.actor? actor).map fun found =>
    Text.record "ActorContext" [("handle", found.handle.record),
      ("module", Text.quoted found.module), ("has_behavior", toString found.callback.isSome)]

end Roster

end Mailroom
