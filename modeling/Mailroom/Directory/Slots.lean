import Mailroom.Handle
import Mailroom.PowerOfTwo
/-! # Slots

Who has which handle. An occupant sits in the slot that the low bits of its handle name, so a handle
says where to look and the handle stored there says whether it is still the same occupant. New
handles are tried in ascending order from a cursor behind the last one issued; zero is passed over,
and a handle that was given up is not issued again before the cursor has come around. Slots without
a free one double.
-/

namespace Mailroom.Directory

structure Slots (α : Type) where
  /-- The number of low bits that name a slot. -/
  bits : Nat
  cells : Vector (Option (Handle × α)) (twoPow bits)
  /-- The first handle to try next. -/
  cursor : UInt32

namespace Slots

variable {α : Type}

/-- Free slots, as many as the least power of two that is not below `count`. -/
def ofCount (count : Nat) : Slots α :=
  { bits := ceilLog2 count, cells := .replicate _ none, cursor := 1 }

def capacity (slots : Slots α) : Nat := twoPow slots.bits

/-- The slot that a handle names. -/
def slotOf (bits : Nat) (handle : Handle) : Fin (twoPow bits) :=
  ⟨handle.raw.toNat % twoPow bits, Nat.mod_lt _ (twoPow_pos bits)⟩

/-- The occupant that has the handle. -/
def find? (slots : Slots α) (handle : Handle) : Option α :=
  match slots.cells[slotOf slots.bits handle] with
  | some (holder, occupant) => if holder = handle then some occupant else none
  | none => none

/-- The handles in use and their occupants, in slot order. -/
def entries (slots : Slots α) : List (Handle × α) := slots.cells.toList.filterMap id

def count (slots : Slots α) : Nat := slots.entries.length

/-- The first handle with a free slot among `count` handles from a candidate on. -/
def probe (slots : Slots α) (candidate : UInt32) : Nat → Option Handle
  | 0 => none
  | count + 1 =>
    if candidate ≠ 0 ∧ slots.cells[slotOf slots.bits ⟨candidate⟩].isNone then some ⟨candidate⟩
    else slots.probe (candidate + 1) count

def vacant? (slots : Slots α) : Option Handle := slots.probe slots.cursor slots.capacity

/-- Puts an occupant into the slot that its handle names. -/
def seat {bits : Nat} (cells : Vector (Option (Handle × α)) (twoPow bits)) (entry : Handle × α) :
    Vector (Option (Handle × α)) (twoPow bits) :=
  cells.set (slotOf bits entry.1) (some entry)

/-- Doubles the slots and seats every occupant anew. -/
def grow (slots : Slots α) : Slots α where
  bits := slots.bits + 1
  cells := slots.entries.foldl seat (.replicate _ none)
  cursor := slots.cursor

/-- The next handle, and the slots after as many doublings as it takes to have a free one for it, up
to a number of doublings. -/
def vacateWithin : Nat → Slots α → Option Handle × Slots α
  | 0, slots => (slots.vacant?, slots)
  | doublings + 1, slots =>
    match slots.vacant? with
    | some handle => (some handle, slots)
    | none => vacateWithin doublings slots.grow

/-- The next handle, and the slots grown until it has a free one. There is none only if every handle
is in use: as many slots as there are handles leave a slot to each of them. -/
def vacate (slots : Slots α) : Option Handle × Slots α := slots.vacateWithin (32 - slots.bits)

/-- Where to begin after a handle was issued. -/
def cursorAfter (handle : Handle) : UInt32 :=
  if handle.raw + 1 = 0 then 1 else handle.raw + 1

/-- Issues a handle to an occupant. -/
def register (slots : Slots α) (occupant : α) : Option Handle × Slots α :=
  match slots.vacate with
  | (none, slots) => (none, slots)
  | (some handle, slots) =>
    (some handle, { slots with
      cells := seat slots.cells (handle, occupant)
      cursor := cursorAfter handle })

/-- Takes the occupant that has the handle, if there is one, out of its slot. -/
def retire (slots : Slots α) (handle : Handle) : Option α × Slots α :=
  match slots.find? handle with
  | none => (none, slots)
  | some occupant =>
    (some occupant, { slots with cells := slots.cells.set (slotOf slots.bits handle) none })

end Slots

end Mailroom.Directory
