import Mailroom.Proofs.Exchange.Operations
/-! # Queues of other capacities

Two exchanges are alike if the same messages wait in the same order, whatever room their queues have
and whenever they grow. No operation tells one from the other, and what it leaves is alike again.
-/

namespace Mailroom

/-- Two results with one answer that leave what is alike. -/
structure Agree {α β : Type} (alike : β → β → Prop) (result twin : α × β) : Prop where
  answer : twin.1 = result.1
  alike : alike result.2 twin.2

section Results

variable {α β γ δ : Type} {alike : α → β → Prop} {same : γ → δ → Prop} {result : Option α}
  {twin : Option β}

theorem rel_map {first : α → γ} {second : β → δ} (rel : Option.Rel alike result twin)
    (each : ∀ left right, alike left right → same (first left) (second right)) :
    Option.Rel same (result.map first) (twin.map second) := by
  cases rel with
  | none => exact .none
  | some found => exact .some (each _ _ found)

theorem rel_bind {first : α → Option γ} {second : β → Option δ}
    (rel : Option.Rel alike result twin)
    (each : ∀ left right, alike left right → Option.Rel same (first left) (second right)) :
    Option.Rel same (result.bind first) (twin.bind second) := by
  cases rel with
  | none => exact .none
  | some found => exact each _ _ found

theorem rel_imp {weaker : α → β → Prop} (rel : Option.Rel alike result twin)
    (each : ∀ left right, alike left right → weaker left right) :
    Option.Rel weaker result twin := by
  cases rel with
  | none => exact .none
  | some found => exact .some (each _ _ found)

/-- Either there is no result, or there are two that are alike. -/
theorem cases_rel (rel : Option.Rel alike result twin) :
    (result = none ∧ twin = none) ∨
      ∃ left right, result = some left ∧ twin = some right ∧ alike left right := by
  cases rel with
  | none => exact .inl ⟨rfl, rfl⟩
  | some found => exact .inr ⟨_, _, rfl, rfl, found⟩

end Results

/-- Two results that agree have one answer. -/
theorem Agree.cases {α β : Type} {alike : β → β → Prop} {result twin : α × β}
    (agree : Agree alike result twin) :
    ∃ answer left right, result = (answer, left) ∧ twin = (answer, right) ∧ alike left right :=
  ⟨result.1, result.2, twin.2, rfl, Prod.ext agree.answer rfl, agree.alike⟩

/-- Results that agree still do when the same is made of their answers. -/
theorem Agree.map {α β γ : Type} {alike : β → β → Prop} {result twin : α × β}
    (agree : Agree alike result twin) (answer : α → γ) :
    Agree alike (Prod.map answer id result) (Prod.map answer id twin) :=
  ⟨congrArg answer agree.answer, agree.alike⟩

theorem Agree.cases_rel {α β : Type} {alike : β → β → Prop} {result twin : Option (α × β)}
    (rel : Option.Rel (Agree alike) result twin) :
    (result = none ∧ twin = none) ∨ ∃ answer left right,
      result = some (answer, left) ∧ twin = some (answer, right) ∧ alike left right := by
  obtain none | ⟨first, second, found, found', agree⟩ := Mailroom.cases_rel rel
  · exact .inl none
  · obtain ⟨answer, left, right, rfl, rfl, same⟩ := agree.cases
    exact .inr ⟨answer, left, right, found, found', same⟩

namespace Queue

variable {α : Type} {queue twin : Queue α}

/-- Two queues with the same items. -/
def Alike (queue twin : Queue α) : Prop := twin.toList = queue.toList

theorem Alike.push (alike : queue.Alike twin) (item : α) :
    (queue.push item).Alike (twin.push item) := by
  rw [Alike, toList_push, toList_push, alike]

theorem Alike.pop? (alike : queue.Alike twin) :
    Option.Rel (Agree Alike) queue.pop? twin.pop? := by
  cases items : queue.toList with
  | nil =>
    rw [pop?_of_toList_eq_nil items, pop?_of_toList_eq_nil (alike.trans items)]
    exact .none
  | cons item rest =>
    obtain ⟨left, popped, same, _⟩ := pop?_of_toList_eq_cons items
    obtain ⟨left', popped', same', _⟩ := pop?_of_toList_eq_cons (alike.trans items)
    rw [popped, popped']
    exact .some ⟨rfl, same'.trans same.symm⟩

theorem Alike.length_eq (alike : queue.Alike twin) : twin.length = queue.length := by
  rw [← length_toList, alike, length_toList]

theorem Alike.isEmpty_eq (alike : queue.Alike twin) : twin.isEmpty = queue.isEmpty := by
  rw [isEmpty, isEmpty, alike.length_eq]

end Queue

/-! ### Mailboxes -/

/-- Two mailboxes with the same messages and the same owner. -/
structure Mailbox.Alike (box twin : Mailbox) : Prop where
  handle : twin.handle = box.handle
  messages : box.messages.Alike twin.messages
  scheduled : twin.scheduled = box.scheduled
  released : twin.released = box.released

structure Settlement.Alike (settlement twin : Settlement) : Prop where
  box : settlement.box.Alike twin.box
  returned : twin.returned = settlement.returned
  runnable : twin.runnable = settlement.runnable

namespace Mailbox

variable {box twin : Mailbox}

theorem alike_held (handle : Handle) (capacity other : Nat) :
    (held handle capacity).Alike (held handle other) := ⟨rfl, rfl, rfl, rfl⟩

theorem Alike.post? (alike : box.Alike twin) (message : Message) :
    Option.Rel Settlement.Alike (box.post? message) (twin.post? message) := by
  unfold Mailbox.post?
  rw [alike.released, alike.scheduled]
  split
  · exact .none
  · exact .some ⟨⟨alike.handle, alike.messages.push message, rfl, rfl⟩, rfl, rfl⟩

theorem Alike.take? (alike : box.Alike twin) : Option.Rel (Agree Alike) box.take? twin.take? :=
  rel_map alike.messages.pop? fun _ _ popped =>
    ⟨popped.answer, alike.handle, popped.alike, alike.scheduled, alike.released⟩

theorem Alike.emptied (alike : box.Alike twin) (scheduled released : Bool) :
    (box.emptied scheduled released).Alike (twin.emptied scheduled released) where
  box := ⟨alike.handle, (twin.toList_emptied ..).trans (box.toList_emptied ..).symm, rfl, rfl⟩
  returned := by rw [returned_emptied, returned_emptied, alike.messages]
  runnable := rfl

theorem Alike.finish (alike : box.Alike twin) : box.finish.Alike twin.finish := by
  unfold Mailbox.finish
  rw [alike.released, alike.messages.isEmpty_eq]
  split
  · exact alike.emptied false true
  · split
    · exact ⟨⟨alike.handle, alike.messages, rfl, rfl⟩, rfl, rfl⟩
    · exact ⟨alike, rfl, rfl⟩

theorem Alike.markReleased (alike : box.Alike twin) :
    box.markReleased.Alike twin.markReleased := by
  unfold Mailbox.markReleased
  rw [alike.scheduled]
  split
  · exact ⟨⟨alike.handle, alike.messages, rfl, rfl⟩, rfl, rfl⟩
  · exact alike.emptied false true

theorem Alike.release (alike : box.Alike twin) : box.release.Alike twin.release :=
  alike.emptied false true

end Mailbox

/-! ### Exchanges -/

/-- Two run queues with the same mailboxes in the same order. -/
def RunQueue.Alike (queue twin : RunQueue) : Prop := queue.entries.Alike twin.entries

theorem RunQueue.Alike.next? {queue twin : RunQueue} (alike : queue.Alike twin) :
    Option.Rel (Agree Alike) queue.next? twin.next? :=
  rel_map (Queue.Alike.pop? alike) fun _ _ popped => ⟨popped.answer, popped.alike⟩

namespace Exchange

variable {exchange twin : Exchange} {number : Nat}

/-- Two exchanges with the same mailboxes, in the same order in the run queue. -/
structure Alike (exchange twin : Exchange) : Prop where
  size : twin.boxes.size = exchange.boxes.size
  boxes (number : Nat) : Option.Rel Mailbox.Alike (exchange.box? number) (twin.box? number)
  runQueue : exchange.runQueue.Alike twin.runQueue

theorem Alike.refl (exchange : Exchange) : exchange.Alike exchange where
  size := rfl
  boxes number := by
    cases exchange.box? number with
    | none => exact .none
    | some box => exact .some ⟨rfl, rfl, rfl, rfl⟩
  runQueue := rfl

theorem alike_ofRoom (room other : Nat) : (ofRoom room).Alike (ofRoom other) where
  size := rfl
  boxes _ := .none
  runQueue := rfl

theorem Alike.handleOf_eq (alike : exchange.Alike twin) (number : Nat) :
    twin.handleOf number = exchange.handleOf number := by
  rw [handleOf, handleOf]
  obtain ⟨none, none'⟩ | ⟨_, _, found, found', box⟩ := cases_rel (alike.boxes number)
  · rw [none, none']
  · rw [found, found', Option.map_some, Option.map_some, box.handle]

theorem Alike.messages_eq (alike : exchange.Alike twin) (number : Nat) :
    twin.messages number = exchange.messages number := by
  rw [messages, messages]
  obtain ⟨none, none'⟩ | ⟨_, _, found, found', box⟩ := cases_rel (alike.boxes number)
  · rw [none, none']
  · rw [found, found', Option.map_some, Option.map_some, box.messages]

theorem Alike.add (alike : exchange.Alike twin) (handle : Handle) (capacity other : Nat) :
    (exchange.add handle capacity).Alike (twin.add handle other) where
  size := by rw [Exchange.add, Exchange.add, Array.size_push, Array.size_push, alike.size]
  boxes number := by
    rw [box?_add, box?_add, alike.size]
    split
    · exact .some (Mailbox.alike_held handle capacity other)
    · exact alike.boxes number
  runQueue := alike.runQueue

theorem Alike.put (alike : exchange.Alike twin) {old old' box box' : Mailbox}
    (found : exchange.box? number = some old) (found' : twin.box? number = some old')
    (same : box.Alike box') : (exchange.put number box).Alike (twin.put number box') where
  size := Array.size_setIfInBounds.trans (alike.size.trans Array.size_setIfInBounds.symm)
  boxes other := by
    by_cases self : other = number
    · subst self
      rw [box?_put_self found, box?_put_self found']
      exact .some same
    · rw [box?_put_of_ne self, box?_put_of_ne self]
      exact alike.boxes other
  runQueue := alike.runQueue

theorem Alike.settle (alike : exchange.Alike twin) {old old' : Mailbox}
    {settlement settlement' : Settlement} (found : exchange.box? number = some old)
    (found' : twin.box? number = some old') (same : settlement.Alike settlement') :
    (exchange.settle number settlement).Alike (twin.settle number settlement') := by
  have put := alike.put found found' same.box
  rw [settle_eq, settle_eq, same.runnable]
  split
  · exact ⟨put.size, put.boxes, Queue.Alike.push put.runQueue number⟩
  · exact put

/-- An operation that does not tell two mailboxes apart settles them alike. -/
theorem Alike.settleBy (alike : exchange.Alike twin) {operation : Mailbox → Settlement}
    (same : ∀ box box', box.Alike box' → (operation box).Alike (operation box')) (number : Nat) :
    Agree Alike (settleBy operation exchange number) (settleBy operation twin number) := by
  obtain ⟨none, none'⟩ | ⟨_, _, found, found', box⟩ := cases_rel (alike.boxes number)
  · rw [settleBy_of_none none, settleBy_of_none none']
    exact ⟨rfl, alike⟩
  · rw [settleBy_eq found, settleBy_eq found']
    exact ⟨(same _ _ box).returned, alike.settle found found' (same _ _ box)⟩

theorem Alike.finish (alike : exchange.Alike twin) (number : Nat) :
    Agree Alike (exchange.finish number) (twin.finish number) :=
  alike.settleBy (fun _ _ => Mailbox.Alike.finish) number

theorem Alike.markReleased (alike : exchange.Alike twin) (number : Nat) :
    Agree Alike (exchange.markReleased number) (twin.markReleased number) :=
  alike.settleBy (fun _ _ => Mailbox.Alike.markReleased) number

theorem Alike.release (alike : exchange.Alike twin) (number : Nat) :
    Agree Alike (exchange.release number) (twin.release number) :=
  alike.settleBy (fun _ _ => Mailbox.Alike.release) number

theorem Alike.post (alike : exchange.Alike twin) (number : Nat) (message : Message) :
    Agree Alike (exchange.post number message) (twin.post number message) := by
  unfold Exchange.post
  obtain ⟨none, none'⟩ | ⟨_, _, found, found', box⟩ := cases_rel (alike.boxes number)
  · rw [none, none']
    exact ⟨rfl, alike⟩
  · rw [found, found', Option.bind_some, Option.bind_some]
    obtain ⟨none, none'⟩ | ⟨_, _, posted, posted', same⟩ := cases_rel (box.post? message)
    · rw [none, none']
      exact ⟨rfl, alike⟩
    · rw [posted, posted']
      exact ⟨rfl, alike.settle found found' same⟩

theorem Alike.take (alike : exchange.Alike twin) (number : Nat) :
    Agree Alike (exchange.take number) (twin.take number) := by
  unfold Exchange.take
  obtain ⟨none, none'⟩ | ⟨_, _, found, found', box⟩ := cases_rel (alike.boxes number)
  · rw [none, none']
    exact ⟨rfl, alike⟩
  · rw [found, found', Option.bind_some, Option.bind_some]
    obtain ⟨none, none'⟩ | ⟨⟨_, _⟩, ⟨_, _⟩, taken, taken', same⟩ := cases_rel box.take?
    · rw [none, none']
      exact ⟨rfl, alike⟩
    · rw [taken, taken']
      exact ⟨congrArg some same.answer, alike.put found found' same.alike⟩

theorem Alike.next? (alike : exchange.Alike twin) :
    Option.Rel (Agree Alike) exchange.next? twin.next? :=
  rel_map alike.runQueue.next? fun _ _ taken =>
    ⟨taken.answer, alike.size, alike.boxes, taken.alike⟩

end Exchange

end Mailroom
