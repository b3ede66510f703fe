import Mailroom.Message
import Mailroom.Queue
import Mailroom.Text.Record
/-! # Mailboxes

The messages that wait for one actor, and whether somebody owns the mailbox. A scheduled mailbox has
one owner: who created it and still holds it, one place of the run queue, or who services it. An
unscheduled mailbox has none and is empty. A released mailbox accepts no message and is not
scheduled again once its owner lets go of it.
-/

namespace Mailroom

structure Mailbox where
  handle : Handle
  messages : Queue Message
  scheduled : Bool
  released : Bool

instance : Inhabited Mailbox := ⟨⟨default, default, false, true⟩⟩

/-- What an operation leaves: the mailbox, the messages it returned, and whether the mailbox has to
enter the run queue. -/
structure Settlement where
  box : Mailbox
  returned : List Message
  runnable : Bool

namespace Mailbox

/-- A mailbox in the hands of its creator: it collects messages and nobody services it. -/
def held (handle : Handle) (capacity : Nat) : Mailbox where
  handle
  messages := .ofCapacity capacity
  scheduled := true
  released := false

/-- Appends a message. A released mailbox refuses it; an unscheduled one becomes runnable. -/
def post? (box : Mailbox) (message : Message) : Option Settlement :=
  if box.released then none
  else some {
    box := { box with messages := box.messages.push message, scheduled := true }
    returned := []
    runnable := !box.scheduled }

/-- Takes the oldest message and leaves the owner as it is. -/
def take? (box : Mailbox) : Option (Message × Mailbox) :=
  box.messages.pop?.map fun (message, messages) => (message, { box with messages })

/-- Returns every message, and leaves the mailbox as `scheduled` and `released` say. -/
def emptied (box : Mailbox) (scheduled released : Bool) : Settlement :=
  let (returned, messages) := box.messages.drain
  { box := { box with messages, scheduled, released }, returned, runnable := false }

/-- What becomes of a mailbox whose owner is done with it: a released one returns its messages, an
empty one becomes unscheduled, any other is runnable again. -/
def finish (box : Mailbox) : Settlement :=
  if box.released then box.emptied false true
  else if box.messages.isEmpty then
    { box := { box with scheduled := false }, returned := [], runnable := false }
  else { box, returned := [], runnable := true }

/-- Releases a mailbox without owning it. What an owner has in hands stays there until it is
done. -/
def markReleased (box : Mailbox) : Settlement :=
  if box.scheduled then
    { box := { box with released := true }, returned := [], runnable := false }
  else box.emptied false true

/-- Releases a mailbox on behalf of its owner, who lets go of it. -/
def release (box : Mailbox) : Settlement := box.emptied false true

/-! ### What the operations do to the messages -/

theorem post?_eq_none_iff {box : Mailbox} {message : Message} :
    box.post? message = none ↔ box.released = true := by
  cases released : box.released <;> simp [post?, released]

theorem toList_of_post? {box : Mailbox} {message : Message} {settlement : Settlement}
    (posted : box.post? message = some settlement) :
    settlement.box.messages.toList = box.messages.toList ++ [message] := by
  simp only [post?, Option.ite_none_left_eq_some, Option.some.injEq] at posted
  simp [← posted.2]

/-- A mailbox that accepts a message is not released, and stays whose it is. -/
theorem of_post? {box : Mailbox} {message : Message} {settlement : Settlement}
    (posted : box.post? message = some settlement) :
    settlement.box.handle = box.handle ∧ settlement.box.released = false ∧
      box.released = false := by
  simp only [post?, Option.ite_none_left_eq_some, Option.some.injEq, Bool.not_eq_true] at posted
  obtain ⟨accepting, rfl⟩ := posted
  exact ⟨rfl, accepting, accepting⟩

theorem of_take? {box rest : Mailbox} {message : Message}
    (taken : box.take? = some (message, rest)) :
    rest.handle = box.handle ∧ rest.released = box.released := by
  simp only [take?, Option.map_eq_some_iff, Prod.exists, Prod.mk.injEq] at taken
  obtain ⟨_, _, _, _, rfl⟩ := taken
  exact ⟨rfl, rfl⟩

/-- Taking gives out the oldest message, and nothing only if there is none. -/
theorem take?_spec (box : Mailbox) :
    match box.take? with
    | none => box.messages.toList = []
    | some (message, rest) => box.messages.toList = message :: rest.messages.toList := by
  have spec := box.messages.pop?_spec
  cases found : box.messages.pop? with
  | none => simpa [take?, found] using spec
  | some pair =>
    simp only [found] at spec
    simpa [take?, found] using spec.1

@[simp] theorem returned_emptied (box : Mailbox) (scheduled released : Bool) :
    (box.emptied scheduled released).returned = box.messages.toList := by
  simp [emptied]

@[simp] theorem toList_emptied (box : Mailbox) (scheduled released : Bool) :
    (box.emptied scheduled released).box.messages.toList = [] := by
  simp [emptied]

/-- Whatever its owner does with a mailbox at the end, no message is lost. -/
theorem returned_append_toList_finish (box : Mailbox) :
    box.finish.returned ++ box.finish.box.messages.toList = box.messages.toList := by
  unfold finish
  split
  · simp
  · split <;> rfl

theorem returned_append_toList_release (box : Mailbox) :
    box.release.returned ++ box.release.box.messages.toList = box.messages.toList := by
  simp [release]

theorem returned_append_toList_markReleased (box : Mailbox) :
    box.markReleased.returned ++ box.markReleased.box.messages.toList = box.messages.toList := by
  unfold markReleased
  split
  · rfl
  · simp

/-- Nothing enters the run queue that has no message, and all that has one does. -/
theorem runnable_finish (box : Mailbox) :
    box.finish.runnable = true ↔ box.finish.box.messages.toList ≠ [] := by
  unfold finish
  split
  · simp [emptied]
  · split
    · rename_i empty
      simpa using (Queue.isEmpty_iff _).1 empty
    · rename_i filled
      simpa [← Queue.isEmpty_iff] using filled

theorem runnable_markReleased (box : Mailbox) : box.markReleased.runnable = false := by
  unfold markReleased
  split <;> rfl

/-- An owner who is done leaves a mailbox scheduled if it is runnable, and only then. -/
theorem scheduled_finish {box : Mailbox} (scheduled : box.scheduled = true) :
    box.finish.box.scheduled = box.finish.runnable := by
  unfold finish
  split
  · rfl
  · split
    · rfl
    · exact scheduled

/-- The record form of a mailbox. -/
def record (box : Mailbox) : String :=
  Text.record "ActorQueue" [("handle", box.handle.record), ("len", toString box.messages.length),
    ("in_global", toString box.scheduled), ("released", toString box.released)]

end Mailbox

end Mailroom
