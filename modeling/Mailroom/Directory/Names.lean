import Mailroom.Handle
/-! # Names

Names and the handles they are bound to, in ascending order of the names. A name is found by halving
the range it can be in.
-/

namespace Mailroom.Directory

structure Names where
  entries : Array (String × Handle)

namespace Names

def empty : Names := { entries := #[] }

/-- The first place from `low` to `high` whose name is not below `name`. -/
def search (entries : Array (String × Handle)) (name : String) (low high : Nat)
    (bound : high ≤ entries.size) : Nat :=
  if apart : low < high then
    have inside : (low + high) / 2 < entries.size := by omega
    if entries[(low + high) / 2].1 < name then
      search entries name ((low + high) / 2 + 1) high bound
    else search entries name low ((low + high) / 2) (by omega)
  else low
termination_by high - low

/-- The place at which a name is, or at which it belongs. -/
def position (names : Names) (name : String) : Nat :=
  search names.entries name 0 names.entries.size (Nat.le_refl _)

/-- The handle that a name is bound to. -/
def find? (names : Names) (name : String) : Option Handle :=
  match names.entries[names.position name]? with
  | some (bound, handle) => if bound = name then some handle else none
  | none => none

/-- Binds a name that is not bound. -/
def insert (names : Names) (name : String) (handle : Handle) : Names :=
  { entries := names.entries.insertIdxIfInBounds (names.position name) (name, handle) }

/-- Removes every name of a handle. -/
def forget (names : Names) (handle : Handle) : Names :=
  { entries := names.entries.filter fun (_, bound) => bound ≠ handle }

/-- The names of a handle, in ascending order. -/
def namesOf (names : Names) (handle : Handle) : List String :=
  (names.entries.toList.filter fun (_, bound) => bound = handle).map (·.1)

def count (names : Names) : Nat := names.entries.size

end Names

end Mailroom.Directory
