import Mailroom.Failure
import Mailroom.Journal.Event
import Mailroom.Text.Quoted
import Mailroom.Text.Record
/-! # The catalog

The modules that actors are launched from, by name. A name is registered once, and the names are in
ascending order.
-/

namespace Mailroom

structure Catalog (μ : Type) where
  entries : List (String × μ)

namespace Catalog

variable {μ : Type}

def empty : Catalog μ := { entries := [] }

def find? (catalog : Catalog μ) (name : String) : Option μ := catalog.entries.lookup name

def contains (catalog : Catalog μ) (name : String) : Bool := (catalog.find? name).isSome

def names (catalog : Catalog μ) : List String := catalog.entries.map (·.1)

/-- Puts an entry before the first one with a greater name. -/
def insert (entry : String × μ) : List (String × μ) → List (String × μ)
  | [] => [entry]
  | other :: rest =>
    if entry.1 < other.1 then entry :: other :: rest else other :: insert entry rest

/-- Adds a module under a name that is not taken. -/
def register (catalog : Catalog μ) (name : String) (module : μ) :
    Except LaunchError (Catalog μ × Event) :=
  if catalog.contains name then .error (.moduleExists name)
  else .ok ({ entries := insert (name, module) catalog.entries }, .moduleRegistered name)

/-- The record form of a catalog. -/
def record (catalog : Catalog μ) : String :=
  Text.record "ModuleRegistry" [("modules", Text.list (catalog.names.map Text.quoted))]

end Catalog

end Mailroom
