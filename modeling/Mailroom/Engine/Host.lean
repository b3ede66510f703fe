import Mailroom.Engine.Machine
/-! # What the host asks for

The operations of whoever owns an engine. Those that put actors to work take fuel and answer nothing
if it does not last. Shutting down needs none: it retires every actor, and what is still in the run
queue becomes dead letters.

Workers that were started are not simulated step by step. Nothing tells when they do their work,
only that they do it, and so it is done when somebody waits for it.
-/

namespace Mailroom

/-- What came of servicing one mailbox. -/
inductive DispatchOutcome where
  /-- No mailbox was in the run queue. -/
  | blocked
  /-- An actor received messages; so many callbacks were invoked. -/
  | dispatched (invoked : Nat)
  /-- The mailbox's actor was gone, and its messages became dead letters. -/
  | dropped
deriving DecidableEq, Repr

namespace Engine

variable {κ : Type}

/-- Launches an actor from a registered module. -/
def create? (fuel : Nat) (engine : Engine κ) (module args : String) :
    Option (Except LaunchError Handle × Engine κ) := do
  let done ← Machine.settle? fuel { engine, tasks := [.launch module args] }
  match done.tasks with
  | [.launched result] => return (result, done.engine)
  | _ => none

/-- Executes a command as if the caller had issued it. -/
def command? (fuel : Nat) (engine : Engine κ) (caller : Handle) (command : Command) :
    Option (Except CommandError Reply × Engine κ) :=
  let engine := engine.note (.commanded caller command.keyword)
  match command with
  | .launch module args => (engine.create? fuel module args).map fun (result, engine) =>
    ((result.map Reply.handle).mapError CommandError.launch, engine)
  | command => some (engine.obey caller command)

/-- Drops the messages of a mailbox taken from the run queue whose actor is gone. -/
def dropOrphan (engine : Engine κ) (box : Nat) (handle : Handle) : Engine κ :=
  engine.mapRoster fun roster =>
    let (returned, roster) := roster.overExchange (·.release box)
    (roster.note (.orphaned handle returned.length)).dropAll box handle .retired returned

/-- Services the mailbox at the head of the run queue. -/
def dispatchOnce? (fuel : Nat) (engine : Engine κ) : Option (DispatchOutcome × Engine κ) :=
  match engine.roster.exchange.next? with
  | none => some (.blocked, engine)
  | some (box, exchange) =>
    let handle := exchange.handleOf box
    let engine := engine.mapRoster ({ · with exchange })
    match engine.roster.find? handle with
    | none => some (.dropped, engine.dropOrphan box handle)
    | some actor => do
      let service := Task.service box actor engine.config.messagesPerRun 0
      let done ← Machine.settle? fuel
        { engine := engine.mapRoster (·.hold actor), tasks := [service] }
      match done.tasks with
      | [.serviced invoked] => return (.dispatched invoked, done.engine)
      | _ => none

/-- Services mailboxes until none is in the run queue, and returns the number of callbacks that were
invoked. The fuel bounds each of the services, and their number. -/
def runUntilIdle? (fuel : Nat) (engine : Engine κ) : Option (Nat × Engine κ) :=
  serviceMany fuel 0 engine
where
  serviceMany : Nat → Nat → Engine κ → Option (Nat × Engine κ)
    | 0, _, _ => none
    | services + 1, invoked, engine =>
      match engine.dispatchOnce? fuel with
      | none => none
      | some (.blocked, engine) => some (invoked, engine)
      | some (.dispatched more, engine) => serviceMany services (invoked + more) engine
      | some (.dropped, engine) => serviceMany services invoked engine

/-- Drops the messages of a mailbox that was in the run queue at shutdown. -/
def dropWaiting (engine : Engine κ) (box : Nat) : Engine κ :=
  let handle := engine.roster.exchange.handleOf box
  engine.mapRoster (·.release box handle .shuttingDown)

/-- Drops the messages of up to `count` mailboxes at the head of the run queue. -/
def drain : Nat → Engine κ → Engine κ
  | 0, engine => engine
  | count + 1, engine =>
    match engine.roster.exchange.next? with
    | none => engine
    | some (box, exchange) => drain count ((engine.mapRoster ({ · with exchange })).dropWaiting box)

/-- Stops the workers, retires every actor and empties the run queue. A second time nothing
happens. -/
def shutdown (engine : Engine κ) : Engine κ :=
  if engine.stopping then engine
  else
    let stopping := { engine with stopping := true }.note .stopping
    let retired := stopping.roster.directory.handles.foldl
      (fun engine handle => (engine.retire handle).2) stopping
    let drained := drain retired.roster.exchange.runQueue.length retired
    { drained with running := false }.note .stopped

/-- Starts the workers. -/
def start (engine : Engine κ) : Except EngineError (Engine κ) :=
  if engine.stopping then .error .shuttingDown
  else if engine.running then .error .alreadyRunning
  else .ok ({ engine with running := true }.note (.started engine.config.workerThreads))

/-- Lets the workers of a running engine work, tick by tick, until a condition holds. -/
def workUntil? (fuel : Nat) (met : Engine κ → Bool) (engine : Engine κ) : Option (Engine κ) :=
  if engine.running then tickUntil fuel engine else some engine
where
  tickUntil : Nat → Engine κ → Option (Engine κ)
    | 0, _ => none
    | ticks + 1, engine => do
      let (_, idle) ← engine.runUntilIdle? fuel
      if met idle then return idle else tickUntil ticks idle.advance

/-- Waits until a number of callbacks have come to an end, counted from the beginning. -/
def awaitCallbacks? (fuel : Nat) (engine : Engine κ) (count : Nat) : Option (Engine κ) :=
  engine.workUntil? fuel fun engine => count ≤ engine.completed

/-- Waits until a number of dead letters can be received. -/
def awaitLetters? (fuel : Nat) (engine : Engine κ) (count : Nat) : Option (Engine κ) :=
  engine.workUntil? fuel fun engine => count ≤ engine.roster.outlet.buffer.length

/-! ### Subscriptions -/

def withOutlet (engine : Engine κ) (outlet : Outlet) : Engine κ :=
  engine.mapRoster ({ · with outlet })

/-- The number of subscriptions to dead letters. -/
def subscriptions (engine : Engine κ) : Nat := engine.roster.outlet.subscribers.length

def subscribe (engine : Engine κ) : Engine κ :=
  engine.withOutlet (engine.roster.outlet.subscribe engine.subscriptions)

/-- Drops the newest subscription. -/
def unsubscribe? (engine : Engine κ) : Option (Engine κ) := do
  let newest ← engine.roster.outlet.subscribers.head?
  let outlet ← engine.roster.outlet.unsubscribe? newest
  return engine.withOutlet outlet

/-- Takes every dead letter that the newest subscription can receive. -/
def receiveAll? (engine : Engine κ) : Option (List DeadLetter × Engine κ) := do
  let outlet := engine.roster.outlet
  let newest ← outlet.subscribers.head?
  let (letters, outlet) ← outlet.receive? newest outlet.buffer.length
  return (letters, engine.withOutlet outlet)

end Engine

end Mailroom
