import Mailroom.Directory.Names
import Mailroom.Directory.Slots
import Mailroom.Failure
import Mailroom.Text.Record
/-! # The directory

The handles in use, with their occupants, and the names bound to them. A name is bound to a handle
in use, at most once, and goes when its handle does.
-/

namespace Mailroom

open Directory (Slots Names)

structure Directory (α : Type) where
  slots : Slots α
  names : Names

namespace Directory

variable {α : Type}

/-- An empty directory with at least `count` slots. -/
def ofCount (count : Nat) : Directory α := { slots := .ofCount count, names := .empty }

def find? (directory : Directory α) (handle : Handle) : Option α := directory.slots.find? handle

def contains (directory : Directory α) (handle : Handle) : Bool := (directory.find? handle).isSome

def findName? (directory : Directory α) (name : String) : Option Handle :=
  directory.names.find? name

def namesOf (directory : Directory α) (handle : Handle) : List String :=
  directory.names.namesOf handle

/-- The handles in use, in slot order. -/
def handles (directory : Directory α) : List Handle := directory.slots.entries.map (·.1)

def count (directory : Directory α) : Nat := directory.slots.count

def capacity (directory : Directory α) : Nat := directory.slots.capacity

/-- Issues a handle to an occupant, unless every handle is in use. -/
def register (directory : Directory α) (occupant : α) : Option Handle × Directory α :=
  let { slots, names } := directory
  let (handle?, slots) := slots.register occupant
  (handle?, { slots, names })

/-- Gives up a handle that is in use, and every name bound to it, and returns who had it. -/
def retire (directory : Directory α) (handle : Handle) : Option α × Directory α :=
  let { slots, names } := directory
  match slots.retire handle with
  | (none, slots) => (none, { slots, names })
  | (some occupant, slots) => (some occupant, { slots, names := names.forget handle })

/-- Binds a name to a handle in use. -/
def bind (directory : Directory α) (handle : Handle) (name : String) :
    Except BindError (Directory α) :=
  if name = "" then .error .empty
  else if !directory.contains handle then .error (.unknownHandle handle)
  else if (directory.findName? name).isSome then .error (.alreadyExists name)
  else .ok { directory with names := directory.names.insert name handle }

/-- Moves the cursor. -/
def seek (directory : Directory α) (cursor : UInt32) : Directory α :=
  { directory with slots := { directory.slots with cursor } }

/-- The record form of a directory. -/
def record (directory : Directory α) : String :=
  Text.record "HandleTable" [("slots", toString directory.capacity),
    ("names", toString directory.names.count), ("cursor", toString directory.slots.cursor)]

end Directory

end Mailroom
