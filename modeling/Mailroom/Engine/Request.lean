import Mailroom.Engine.Host
/-! # Requests of the host

The operations of the host as data, with their answers, so that a history of an engine is a list of
requests. Performing a history stops where the fuel does not last.
-/

namespace Mailroom

/-- What the host asks of an engine. -/
inductive Request where
  | create (module args : String)
  | send (source : Option Handle) (destination : Address) (session : Int32) (payload : Payload)
  | command (caller : Handle) (command : Command)
  | timeout (target : Handle) (ticks : UInt32) (session : Int32)
  | advance
  /-- Catches up with a reading of the clock, in whole ticks. -/
  | updateTime (reading : Nat)
  | now
  | retire (handle : Handle)
  | findName (name : String)
  | bind (handle : Handle) (name : String)
  | dispatch
  | runUntilIdle
  | subscribe
  | unsubscribe
  /-- Takes every dead letter that the newest subscription can receive. -/
  | receive
  | metrics
  | isRunning
  | start
  | shutdown
  | awaitCallbacks (count : Nat)
  | awaitLetters (count : Nat)

/-- What the host is told. -/
inductive Answer where
  | done
  | launched (result : Except LaunchError Handle)
  | sent (result : Except SendError Int32)
  | replied (result : Except CommandError Reply)
  | bound (result : Except BindError Unit)
  | started (result : Except EngineError Unit)
  | found (handle : Option Handle)
  | yesNo (answer : Bool)
  | count (count : Nat)
  | dispatched (outcome : DispatchOutcome)
  /-- The letters that were received, if there is a subscription. -/
  | letters (letters : Option (List DeadLetter))
  | metrics (metrics : Metrics)

namespace Engine

variable {κ : Type}

/-- Changes the engine by an operation that may refuse, and leaves it alone otherwise. -/
def orElse {α : Type} (engine : Engine κ) (done? : Option (α × Engine κ)) :
    Option α × Engine κ :=
  match done? with
  | some (answer, engine) => (some answer, engine)
  | none => (none, engine)

/-- Performs a request; nothing if the fuel does not last. -/
def perform? (fuel : Nat) (engine : Engine κ) : Request → Option (Answer × Engine κ)
  | .create module args => (engine.create? fuel module args).map (Prod.map .launched id)
  | .send source destination session payload =>
    some (Prod.map .sent id (engine.send source destination session payload))
  | .command caller command => (engine.command? fuel caller command).map (Prod.map .replied id)
  | .timeout target ticks session => some (.done, engine.timeout target ticks session)
  | .advance => some (.done, engine.advance)
  | .updateTime reading => some (Prod.map .count id (engine.updateTime reading))
  | .now => some (.count engine.now.toNat, engine)
  | .retire handle => some (Prod.map .yesNo id (engine.retire handle))
  | .findName name => some (.found (engine.findName? name), engine)
  | .bind handle name => some (Prod.map .bound id (engine.bind handle name))
  | .dispatch => (engine.dispatchOnce? fuel).map (Prod.map .dispatched id)
  | .runUntilIdle => (engine.runUntilIdle? fuel).map (Prod.map .count id)
  | .subscribe => some (.count (engine.subscriptions + 1), engine.subscribe)
  | .unsubscribe =>
    match engine.unsubscribe? with
    | some unsubscribed => some (.yesNo true, unsubscribed)
    | none => some (.yesNo false, engine)
  | .receive => some (Prod.map .letters id (engine.orElse engine.receiveAll?))
  | .metrics => some (.metrics engine.metrics, engine)
  | .isRunning => some (.yesNo engine.running, engine)
  | .start =>
    match engine.start with
    | .ok started => some (.started (.ok ()), started)
    | .error cause => some (.started (.error cause), engine)
  | .shutdown => some (.done, engine.shutdown)
  | .awaitCallbacks count =>
    (engine.awaitCallbacks? fuel count).map fun engine => (.count engine.completed, engine)
  | .awaitLetters count => (engine.awaitLetters? fuel count).map fun engine => (.done, engine)

/-- Performs a history of requests, oldest first. -/
def performAll? (fuel : Nat) : List Request → Engine κ → Option (List Answer × Engine κ)
  | [], engine => some ([], engine)
  | request :: rest, engine => do
    let (answer, engine) ← engine.perform? fuel request
    let (answers, engine) ← performAll? fuel rest engine
    return (answer :: answers, engine)

end Engine

end Mailroom
