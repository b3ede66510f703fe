import Mailroom.Catalog
import Mailroom.Config
import Mailroom.Roster
/-! # The engine

The whole state of a runtime: what it was configured with, its modules, its actors and its timer.
-/

namespace Mailroom

structure Engine (κ : Type) where
  config : Config
  catalog : Catalog (Module κ)
  roster : Roster κ
  timer : Timer
  /-- The session allocated last for a send that no live actor is charged with. -/
  lastSession : Int32
  /-- Shutdown has begun. -/
  stopping : Bool
  /-- Workers were started and have not been stopped. -/
  running : Bool
  /-- The callbacks that have come to an end. -/
  completed : Nat

/-- Counters of an engine. -/
structure Metrics where
  actors : Nat
  scheduledQueues : Nat
  pendingTimers : Nat
  now : UInt32
  workers : Nat
deriving DecidableEq, Repr

namespace Engine

variable {κ : Type}

/-- Registers modules in order; a name that is taken keeps its module. -/
def registerAll (modules : List (String × Module κ)) : Catalog (Module κ) × List Event :=
  modules.foldl (fun (catalog, past) (name, module) =>
    match catalog.register name module with
    | .ok (catalog, event) => (catalog, event :: past)
    | .error _ => (catalog, past)) (.empty, [])

/-- An engine without actors. -/
def create (config : Config) (modules : List (String × Module κ)) :
    Except EngineError (Engine κ) :=
  match config.validate with
  | .error cause => .error (.config cause)
  | .ok () =>
    let (catalog, past) := registerAll modules
    let roster :=
      Roster.ofSizes config.handleSlots config.runQueueRoom config.deadLetterCapacity
    .ok {
      config
      catalog
      roster := { roster with past }.note
        (.created config.workerThreads (config.tickLength / 1000000))
      timer := .startingAt 0 config.tickLength
      lastSession := 0
      stopping := false
      running := false
      completed := 0 }

def now (engine : Engine κ) : UInt32 := engine.timer.now

def findName? (engine : Engine κ) (name : String) : Option Handle :=
  engine.roster.directory.findName? name

/-- The number of worker threads at work. -/
def workers (engine : Engine κ) : Nat :=
  if engine.running then engine.config.workerThreads else 0

def metrics (engine : Engine κ) : Metrics where
  actors := engine.roster.directory.count
  scheduledQueues := engine.roster.exchange.runQueue.length
  pendingTimers := engine.timer.pending
  now := engine.now
  workers := engine.workers

/-- The live actor that has the handle. -/
def actor? (engine : Engine κ) (handle : Handle) : Option (Actor κ) := do
  let actor ← engine.roster.find? handle
  engine.roster.actor? actor

/-- The record form of an engine. -/
def record (engine : Engine κ) : String :=
  Text.record "ActorSystem" [("config", engine.config.record),
    ("core", Text.record "RuntimeCore" [("handles", engine.roster.directory.record),
      ("scheduler", engine.roster.exchange.runQueue.record), ("timer", engine.timer.record),
      ("shutting_down", toString engine.stopping)]),
    ("running", toString engine.running)]

/-- The record form of whoever services the mailboxes of an engine. -/
def dispatcherRecord (engine : Engine κ) : String :=
  Text.record "Dispatcher" [("max_messages_per_run", toString engine.config.messagesPerRun)]

/-! ### Parts of the state -/

/-- Applies an operation to the roster. -/
def overRoster {β : Type} (engine : Engine κ) (operation : Roster κ → β × Roster κ) :
    β × Engine κ :=
  let { config, catalog, roster, timer, lastSession, stopping, running, completed } := engine
  let (answer, roster) := operation roster
  (answer, { config, catalog, roster, timer, lastSession, stopping, running, completed })

def mapRoster (engine : Engine κ) (change : Roster κ → Roster κ) : Engine κ :=
  (engine.overRoster fun roster => ((), change roster)).2

def note (engine : Engine κ) (event : Event) : Engine κ := engine.mapRoster (·.note event)

end Engine

end Mailroom
