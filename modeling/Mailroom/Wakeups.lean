/-! # Wakeups

Sleepers and what wakes them. A notice wakes the sleeper that went to sleep first; without a sleeper
one notice is kept, and the next who would sleep uses it up instead. Waking all keeps nothing.
-/

namespace Mailroom

/-- Who woke a sleeper: a notice for one, or a call to all. -/
inductive Waker where
  | notice
  | call
deriving DecidableEq, Repr

/-- The sleepers, by a number that each chose for itself. -/
structure Wakeups where
  /-- A notice is kept for the next who would sleep. -/
  kept : Bool
  /-- Sleepers that nothing has woken, the longest asleep first. -/
  asleep : List Int
  /-- Sleepers that were woken and have not looked yet. -/
  woken : List (Int × Waker)
deriving Repr

/-- What one who waits finds. -/
inductive Waiting where
  | ready
  | pending
deriving DecidableEq, Repr

namespace Wakeups

def empty : Wakeups := { kept := false, asleep := [], woken := [] }

/-- Wakes the sleeper that went to sleep first, or keeps the notice. -/
def notify (wakeups : Wakeups) : Wakeups :=
  match wakeups.asleep with
  | [] => { wakeups with kept := true }
  | sleeper :: asleep => { wakeups with asleep, woken := wakeups.woken ++ [(sleeper, .notice)] }

def notifyAll (wakeups : Wakeups) : Wakeups :=
  { wakeups with
    asleep := []
    woken := wakeups.woken ++ wakeups.asleep.map fun sleeper => (sleeper, .call) }

/-- Goes to sleep, or uses up the notice that was kept. -/
def sleep (wakeups : Wakeups) (sleeper : Int) : Waiting × Wakeups :=
  if wakeups.kept then (.ready, { wakeups with kept := false })
  else (.pending, { wakeups with asleep := wakeups.asleep ++ [sleeper] })

/-- Looks whether a sleeper was woken, which ends its wait; nothing if there is no such sleeper. -/
def look? (wakeups : Wakeups) (sleeper : Int) : Option (Waiting × Wakeups) :=
  if (wakeups.woken.lookup sleeper).isSome then
    some (.ready, { wakeups with woken := wakeups.woken.filter (·.1 ≠ sleeper) })
  else if sleeper ∈ wakeups.asleep then some (.pending, wakeups)
  else none

/-- Gives up the wait of a sleeper, if it waits. A notice that had woken it goes to another one. -/
def giveUp (wakeups : Wakeups) (sleeper : Int) : Wakeups :=
  let rest :=
    { wakeups with
      asleep := wakeups.asleep.erase sleeper
      woken := wakeups.woken.filter (·.1 ≠ sleeper) }
  if wakeups.woken.lookup sleeper = some .notice then rest.notify else rest

end Wakeups

end Mailroom
