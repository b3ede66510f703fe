import Mailroom.Engine.Host
/-! # Observing an engine

Somebody who follows the journal and is told, from time to time, what is new: the reports of actors
and the log lines. Log lines are told at once. While workers run, reports are held back until
somebody has waited for the workers, and are then told actor by actor, because their order across
actors is up to the workers. What is left when the workers have stopped is told as it came.
-/

namespace Mailroom

/-- How many events of the journal have been told. -/
structure Observer where
  reports : Nat
  lines : Nat
deriving DecidableEq, Repr

/-- What is new to an observer. -/
structure News where
  reports : List (Handle × Report)
  lines : List Line

namespace Observer

def beginning : Observer := { reports := 0, lines := 0 }

/-- The events behind the first `known` ones, of a journal that has the newest first. -/
def since {α : Type} (past : List α) (known : Nat) : List α :=
  (past.take (past.length - known)).reverse

def reportsOf (events : List Event) : List (Handle × Report) :=
  events.filterMap fun
    | .reported handle report => some (handle, report)
    | _ => none

/-- Orders reports by actor and keeps the order of each actor's own. -/
def byActor (reports : List (Handle × Report)) : List (Handle × Report) :=
  reports.mergeSort fun left right => left.1.raw ≤ right.1.raw

/-- Tells what is new after a step; `waited` says whether the step waited for the workers. -/
def tell {κ : Type} (observer : Observer) (waited : Bool) (engine : Engine κ) :
    News × Observer :=
  let past := engine.roster.past
  let lines := (since past observer.lines).flatMap (·.lines)
  if engine.running && !waited then
    ({ reports := [], lines }, { observer with lines := past.length })
  else
    let reports := reportsOf (since past observer.reports)
    let reports := if engine.running then byActor reports else reports
    ({ reports, lines }, { reports := past.length, lines := past.length })

end Observer

end Mailroom
