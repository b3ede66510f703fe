import Mailroom.Exchange
import Mathlib.Data.List.Basic
/-! # Who owns a mailbox

A mailbox is owned by one place of the run queue or is in somebody's hands: those of its creator, of
whoever services it, or of whoever is about to put it into the run queue. A scheduled mailbox has one
owner and any other has none. Each operation of the exchange passes an owner on or gives one up, and
no operation makes a second one.
-/

namespace Mailroom.Exchange

variable {exchange : Exchange} {hands : List Nat} {number other : Nat} {box old : Mailbox}

/-- The mailboxes in the run queue, the next one to be serviced in front. -/
def waiting (exchange : Exchange) : List Nat := exchange.runQueue.entries.toList

/-- The messages in a mailbox, oldest first. -/
def messages (exchange : Exchange) (number : Nat) : List Message :=
  ((exchange.box? number).map (·.messages.toList)).getD []

/-- Puts a mailbox back. -/
def put (exchange : Exchange) (number : Nat) (box : Mailbox) : Exchange :=
  { exchange with boxes := exchange.boxes.setIfInBounds number box }

/-- Puts a mailbox into the run queue. -/
def schedule (exchange : Exchange) (number : Nat) : Exchange :=
  { exchange with runQueue := exchange.runQueue.schedule number }

/-! ### Views of the operations -/

theorem settle_eq (exchange : Exchange) (number : Nat) (settlement : Settlement) :
    exchange.settle number settlement =
      if settlement.runnable then (exchange.put number settlement.box).schedule number
      else exchange.put number settlement.box := by
  unfold settle
  split <;> rfl

@[simp] theorem waiting_ofRoom (room : Nat) : (ofRoom room).waiting = [] := rfl

@[simp] theorem box?_ofRoom (room number : Nat) : (ofRoom room).box? number = none := rfl

@[simp] theorem waiting_put (exchange : Exchange) (number : Nat) (box : Mailbox) :
    (exchange.put number box).waiting = exchange.waiting := rfl

@[simp] theorem waiting_schedule (exchange : Exchange) (number : Nat) :
    (exchange.schedule number).waiting = exchange.waiting ++ [number] :=
  Queue.toList_push ..

@[simp] theorem waiting_add (exchange : Exchange) (handle : Handle) (capacity : Nat) :
    (exchange.add handle capacity).waiting = exchange.waiting := rfl

theorem box?_put_self (found : exchange.box? number = some old) (box : Mailbox) :
    (exchange.put number box).box? number = some box :=
  Array.getElem?_setIfInBounds_self_of_lt (Array.getElem?_eq_some_iff.1 found).1

theorem box?_put_of_ne (apart : other ≠ number) (box : Mailbox) :
    (exchange.put number box).box? other = exchange.box? other :=
  Array.getElem?_setIfInBounds_ne (Ne.symm apart)

theorem box?_add (exchange : Exchange) (handle : Handle) (capacity number : Nat) :
    (exchange.add handle capacity).box? number =
      if number = exchange.boxes.size then some (.held handle capacity)
      else exchange.box? number :=
  Array.getElem?_push

theorem box?_size (exchange : Exchange) : exchange.box? exchange.boxes.size = none :=
  Array.getElem?_eq_none (Nat.le_refl _)

theorem messages_eq (found : exchange.box? number = some box) :
    exchange.messages number = box.messages.toList := by
  rw [messages, found]; rfl

theorem messages_put_self (found : exchange.box? number = some old) (box : Mailbox) :
    (exchange.put number box).messages number = box.messages.toList :=
  messages_eq (box?_put_self found box)

theorem messages_put_of_ne (apart : other ≠ number) (box : Mailbox) :
    (exchange.put number box).messages other = exchange.messages other := by
  rw [messages, box?_put_of_ne apart, messages]

theorem messages_add (exchange : Exchange) (handle : Handle) (capacity number : Nat) :
    (exchange.add handle capacity).messages number = exchange.messages number := by
  rw [messages, box?_add, messages]
  split
  · rename_i fresh
    rw [fresh, box?_size]
    rfl
  · rfl

theorem next?_eq_some {rest : Exchange} (taken : exchange.next? = some (number, rest)) :
    exchange.waiting = number :: rest.waiting ∧ rest.boxes = exchange.boxes := by
  simp only [next?, RunQueue.next?, Option.map_map, Option.map_eq_some_iff, Prod.exists,
    Function.comp_apply, Prod.mk.injEq] at taken
  obtain ⟨_, entries, popped, rfl, rfl⟩ := taken
  have spec := exchange.runQueue.entries.pop?_spec
  rw [popped] at spec
  exact ⟨spec.1, rfl⟩

theorem box?_of_next? {rest : Exchange} (taken : exchange.next? = some (number, rest))
    (other : Nat) : rest.box? other = exchange.box? other := by
  rw [box?, (next?_eq_some taken).2, box?]

theorem messages_of_next? {rest : Exchange} (taken : exchange.next? = some (number, rest))
    (other : Nat) : rest.messages other = exchange.messages other := by
  rw [messages, box?_of_next? taken, messages]

theorem next?_eq_none_iff : exchange.next? = none ↔ exchange.waiting = [] := by
  have spec := exchange.runQueue.entries.pop?_spec
  simp only [next?, RunQueue.next?, Option.map_map, Option.map_eq_none_iff, waiting]
  cases popped : exchange.runQueue.entries.pop? with
  | none => simpa [popped] using spec
  | some taken =>
    rw [popped] at spec
    simp [spec.1]

/-! ### Owners -/

/-- Mailboxes and those who have them in hands are in step: a scheduled mailbox has one owner, an
unscheduled one has none and is empty, and what is in the run queue has messages. -/
structure Owned (exchange : Exchange) (hands : List Nat) : Prop where
  one {number : Nat} {box : Mailbox} (found : exchange.box? number = some box) :
    exchange.waiting.count number + hands.count number = if box.scheduled then 1 else 0
  known {number : Nat} (has : number ∈ exchange.waiting ∨ number ∈ hands) :
    ∃ box, exchange.box? number = some box
  idle {number : Nat} {box : Mailbox} (found : exchange.box? number = some box)
    (unscheduled : box.scheduled = false) : box.messages.toList = []
  filled {number : Nat} {box : Mailbox} (found : exchange.box? number = some box)
    (waits : number ∈ exchange.waiting) : box.messages.toList ≠ []

theorem owned_ofRoom (room : Nat) : (ofRoom room).Owned [] where
  one found := by simp at found
  known has := by simp at has
  idle found := by simp at found
  filled found := by simp at found

theorem Owned.perm {left : List Nat} (owned : exchange.Owned hands) (same : hands.Perm left) :
    exchange.Owned left where
  one found := same.count_eq _ ▸ owned.one found
  known has := owned.known (has.imp_right same.mem_iff.2)
  idle := owned.idle
  filled := owned.filled

/-- Who has a mailbox in hands is its only owner. -/
theorem Owned.not_waiting (owned : exchange.Owned hands) (held : number ∈ hands) :
    number ∉ exchange.waiting := by
  intro waits
  obtain ⟨box, found⟩ := owned.known (.inr held)
  have one := owned.one found
  have := List.count_pos_iff.2 held
  have := List.count_pos_iff.2 waits
  split at one <;> omega

/-- Nobody else has a mailbox that somebody has in hands. -/
theorem Owned.not_mem (owned : exchange.Owned (number :: hands)) : number ∉ hands := by
  intro held
  obtain ⟨box, found⟩ := owned.known (.inr List.mem_cons_self)
  have one := owned.one found
  rw [List.count_cons_self] at one
  have := List.count_pos_iff.2 held
  split at one <;> omega

theorem Owned.scheduled (owned : exchange.Owned hands) (found : exchange.box? number = some box)
    (has : number ∈ exchange.waiting ∨ number ∈ hands) : box.scheduled = true := by
  have one := owned.one found
  rw [← List.count_pos_iff, ← List.count_pos_iff] at has
  split at one
  · assumption
  · omega

/-- When nobody has a mailbox in hands, every message is in a mailbox of the run queue. -/
theorem Owned.waiting_eq_nil_iff (owned : exchange.Owned []) :
    exchange.waiting = [] ↔
      ∀ number box, exchange.box? number = some box → box.messages.toList = [] := by
  constructor
  · intro idle number box found
    apply owned.idle found
    have one := owned.one found
    rw [idle, List.count_nil] at one
    split at one
    · omega
    · simpa using ‹¬ box.scheduled = true›
  · intro empty
    rw [List.eq_nil_iff_forall_not_mem]
    intro number waits
    obtain ⟨box, found⟩ := owned.known (.inl waits)
    exact owned.filled found waits (empty number box found)

/-- A mailbox is put back as `box` by somebody who gains or loses it, or not, as it is scheduled. -/
theorem Owned.put {left : List Nat} (owned : exchange.Owned hands)
    (found : exchange.box? number = some old) (box : Mailbox)
    (others : ∀ other, other ≠ number → left.count other = hands.count other)
    (token : left.count number + (if old.scheduled then 1 else 0) =
      hands.count number + if box.scheduled then 1 else 0)
    (idle : box.scheduled = false → box.messages.toList = [])
    (filled : number ∈ exchange.waiting → box.messages.toList ≠ []) :
    (exchange.put number box).Owned left where
  one {other _} found' := by
    by_cases same : other = number
    · subst same
      rw [box?_put_self found, Option.some.injEq] at found'
      subst found'
      have one := owned.one found
      rw [waiting_put]
      omega
    · rw [box?_put_of_ne same] at found'
      rw [waiting_put, others other same]
      exact owned.one found'
  known {other} has := by
    by_cases same : other = number
    · exact ⟨box, same ▸ box?_put_self found box⟩
    · rw [box?_put_of_ne same]
      refine owned.known (has.imp_right fun member => ?_)
      rw [← List.count_pos_iff] at member ⊢
      exact others other same ▸ member
  idle {other _} found' unscheduled := by
    by_cases same : other = number
    · subst same
      rw [box?_put_self found, Option.some.injEq] at found'
      subst found'
      exact idle unscheduled
    · rw [box?_put_of_ne same] at found'
      exact owned.idle found' unscheduled
  filled {other _} found' waits := by
    by_cases same : other = number
    · subst same
      rw [box?_put_self found, Option.some.injEq] at found'
      subst found'
      exact filled waits
    · rw [box?_put_of_ne same] at found'
      exact owned.filled found' waits

/-- Who has a mailbox with messages in hands can put it into the run queue. -/
theorem Owned.schedule (owned : exchange.Owned (number :: hands))
    (filled : ∀ box, exchange.box? number = some box → box.messages.toList ≠ []) :
    (exchange.schedule number).Owned hands where
  one {other _} found := by
    have one := owned.one found
    simp only [waiting_schedule, List.count_append, List.count_cons, List.count_nil] at one ⊢
    omega
  known {other} has := by
    refine owned.known ?_
    simp only [waiting_schedule, List.mem_append, List.mem_cons] at has ⊢
    tauto
  idle := owned.idle
  filled {other box} found waits := by
    simp only [waiting_schedule, List.mem_append, List.mem_singleton] at waits
    obtain waits | rfl := waits
    · exact owned.filled found waits
    · exact filled box found

/-! ### Ownership through the operations -/

theorem Owned.add (owned : exchange.Owned hands) (handle : Handle) (capacity : Nat) :
    (exchange.add handle capacity).Owned (exchange.boxes.size :: hands) := by
  have fresh : exchange.boxes.size ∉ exchange.waiting ∧ exchange.boxes.size ∉ hands := by
    rw [← not_or]
    intro has
    obtain ⟨box, found⟩ := owned.known has
    simp [box?_size] at found
  constructor
  · intro other box found
    rw [box?_add] at found
    split at found
    · rename_i same
      subst same
      rw [Option.some.injEq] at found
      subst found
      rw [waiting_add, List.count_eq_zero.2 fresh.1, List.count_cons_self,
        List.count_eq_zero.2 fresh.2]
      rfl
    · rename_i apart
      rw [waiting_add, List.count_cons_of_ne (Ne.symm apart)]
      exact owned.one found
  · intro other has
    rw [box?_add]
    split
    · exact ⟨_, rfl⟩
    · rename_i apart
      exact owned.known (has.imp_right (List.mem_of_ne_of_mem apart))
  · intro other box found unscheduled
    rw [box?_add] at found
    split at found
    · rw [Option.some.injEq] at found
      subst found
      rfl
    · exact owned.idle found unscheduled
  · intro other box found waits
    rw [box?_add] at found
    split at found
    · rename_i same
      exact (fresh.1 (same ▸ waits)).elim
    · exact owned.filled found waits

/-- Whoever takes the head of the run queue has it in hands. -/
theorem Owned.next {rest : Exchange} (owned : exchange.Owned hands)
    (taken : exchange.next? = some (number, rest)) : rest.Owned (number :: hands) := by
  have head := (next?_eq_some taken).1
  have same := box?_of_next? taken
  constructor
  · intro other box found
    have one := owned.one ((same other).symm.trans found)
    rw [head, List.count_cons] at one
    rw [List.count_cons]
    omega
  · intro other has
    rw [same]
    refine owned.known ?_
    rw [head]
    simp only [List.mem_cons] at has ⊢
    tauto
  · intro other box found unscheduled
    exact owned.idle ((same other).symm.trans found) unscheduled
  · intro other box found waits
    exact owned.filled ((same other).symm.trans found) (head ▸ List.mem_cons_of_mem _ waits)

/-- Who appends to an unscheduled mailbox gets it in hands. -/
theorem Owned.put_post (owned : exchange.Owned hands) (found : exchange.box? number = some box)
    {message : Message} {settlement : Settlement} (posted : box.post? message = some settlement) :
    (exchange.put number settlement.box).Owned
      (if settlement.runnable then number :: hands else hands) := by
  simp only [Mailbox.post?, Option.ite_none_left_eq_some, Option.some.injEq] at posted
  obtain ⟨_, rfl⟩ := posted
  apply owned.put found
  · intro other apart
    split
    · rw [List.count_cons_of_ne (Ne.symm apart)]
    · rfl
  · cases box.scheduled <;> simp
  · simp
  · simp

theorem Owned.put_take (owned : exchange.Owned hands) (held : number ∈ hands)
    (found : exchange.box? number = some box) {message : Message} {rest : Mailbox}
    (taken : box.take? = some (message, rest)) : (exchange.put number rest).Owned hands := by
  simp only [Mailbox.take?, Option.map_eq_some_iff, Prod.exists, Prod.mk.injEq] at taken
  obtain ⟨_, messages, _, _, rfl⟩ := taken
  have scheduled := owned.scheduled found (.inr held)
  exact owned.put found _ (fun _ _ => rfl) rfl (by simp [scheduled])
    fun waits => (owned.not_waiting held waits).elim

/-- An owner who is done keeps a mailbox in hands only to put it into the run queue. -/
theorem Owned.put_finish (owned : exchange.Owned (number :: hands))
    (found : exchange.box? number = some box) :
    (exchange.put number box.finish.box).Owned
      (if box.finish.runnable then number :: hands else hands) := by
  have scheduled := owned.scheduled found (.inr List.mem_cons_self)
  have runnable := Mailbox.scheduled_finish scheduled
  apply owned.put found
  · intro other apart
    split
    · rfl
    · rw [List.count_cons_of_ne (Ne.symm apart)]
  · rw [runnable, scheduled]
    split <;> simp
  · intro unscheduled
    rw [runnable, ← Bool.not_eq_true, Mailbox.runnable_finish, not_not] at unscheduled
    exact unscheduled
  · exact fun waits => (owned.not_waiting List.mem_cons_self waits).elim

theorem Owned.put_release (owned : exchange.Owned (number :: hands))
    (found : exchange.box? number = some box) :
    (exchange.put number box.release.box).Owned hands := by
  have scheduled := owned.scheduled found (.inr List.mem_cons_self)
  apply owned.put found
  · intro other apart
    rw [List.count_cons_of_ne (Ne.symm apart)]
  · simp [Mailbox.release, Mailbox.emptied, scheduled]
  · intro _
    exact Mailbox.toList_emptied ..
  · exact fun waits => (owned.not_waiting List.mem_cons_self waits).elim

theorem Owned.put_markReleased (owned : exchange.Owned hands)
    (found : exchange.box? number = some box) :
    (exchange.put number box.markReleased.box).Owned hands := by
  unfold Mailbox.markReleased
  split
  · rename_i scheduled
    have filled : number ∈ exchange.waiting → box.messages.toList ≠ [] := owned.filled found
    exact owned.put found _ (fun _ _ => rfl) rfl (fun unscheduled => by simp_all) filled
  · rename_i unscheduled
    have absent : number ∉ exchange.waiting :=
      fun waits => unscheduled (owned.scheduled found (.inl waits))
    exact owned.put found _ (fun _ _ => rfl) (by simp [Mailbox.emptied, unscheduled])
      (fun _ => Mailbox.toList_emptied ..) fun waits => (absent waits).elim

/-- An operation on a mailbox that leaves it runnable only with messages, and then in hands, keeps
mailboxes and hands in step once the mailbox is in the run queue. -/
theorem Owned.settle {settlement : Settlement} (found : exchange.box? number = some box)
    (filled : settlement.runnable = true → settlement.box.messages.toList ≠ [])
    (owned : (exchange.put number settlement.box).Owned
      (if settlement.runnable then number :: hands else hands)) :
    (exchange.settle number settlement).Owned hands := by
  rw [settle_eq]
  split
  · rename_i runnable
    rw [if_pos runnable] at owned
    refine owned.schedule fun put found' => ?_
    rw [box?_put_self found, Option.some.injEq] at found'
    exact found' ▸ filled runnable
  · rename_i runnable
    rwa [if_neg runnable] at owned

/-! ### Released mailboxes -/

/-- A mailbox that is released and that nobody owns. -/
def Retired (exchange : Exchange) (number : Nat) : Prop :=
  ∃ box, exchange.box? number = some box ∧ box.released = true ∧ box.scheduled = false

theorem Owned.not_retired (owned : exchange.Owned hands) (held : number ∈ hands) :
    ¬ exchange.Retired number := by
  rintro ⟨box, found, _, unscheduled⟩
  have scheduled := owned.scheduled found (.inr held)
  simp [scheduled] at unscheduled

theorem Retired.add (retired : exchange.Retired number) (handle : Handle) (capacity : Nat) :
    (exchange.add handle capacity).Retired number := by
  obtain ⟨box, found, state⟩ := retired
  refine ⟨box, ?_, state⟩
  rw [box?_add, if_neg, found]
  rintro rfl
  simp [box?_size] at found

theorem Retired.put (retired : exchange.Retired number) (other : Nat) {box : Mailbox}
    (state : other = number → box.released = true ∧ box.scheduled = false) :
    (exchange.put other box).Retired number := by
  obtain ⟨old, found, old_state⟩ := retired
  by_cases same : number = other
  · subst same
    exact ⟨box, box?_put_self found box, state rfl⟩
  · exact ⟨old, (box?_put_of_ne same box).trans found, old_state⟩

theorem Retired.next (retired : exchange.Retired number) {rest : Exchange}
    (taken : exchange.next? = some (other, rest)) : rest.Retired number := by
  rwa [Retired, box?_of_next? taken]

end Mailroom.Exchange
