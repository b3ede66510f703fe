import Mailroom.Proofs.Exchange.Ownership
/-! # Whole operations of an exchange

What each operation does to the messages and the owners of mailboxes, and to what is released. An
operation on one mailbox leaves the others alone, and none changes whom a mailbox belongs to.
-/

namespace Mailroom.Exchange

variable {exchange rest : Exchange} {hands : List Nat} {number other : Nat} {box : Mailbox}
  {message : Message} {operation : Mailbox → Settlement}

/-- Whom a mailbox belongs to. -/
def handle? (exchange : Exchange) (number : Nat) : Option Handle :=
  (exchange.box? number).map (·.handle)

def isReleased (exchange : Exchange) (number : Nat) : Bool :=
  (exchange.box? number).any (·.released)

/-- A mailbox in another state is still the mailbox of the same actor. -/
def SameOwner (exchange after : Exchange) : Prop :=
  after.boxes.size = exchange.boxes.size ∧ ∀ number, after.handle? number = exchange.handle? number

/-! ### Mailboxes that come and go -/

theorem handle?_add (exchange : Exchange) (handle : Handle) (capacity number : Nat) :
    (exchange.add handle capacity).handle? number =
      if number = exchange.boxes.size then some handle else exchange.handle? number := by
  rw [handle?, box?_add, handle?]
  split <;> rfl

theorem isReleased_add (exchange : Exchange) (handle : Handle) (capacity number : Nat) :
    (exchange.add handle capacity).isReleased number =
      if number = exchange.boxes.size then false else exchange.isReleased number := by
  rw [isReleased, box?_add, isReleased]
  split <;> rfl

theorem sameOwner_of_next? (taken : exchange.next? = some (number, rest)) :
    exchange.SameOwner rest := by
  refine ⟨by rw [(next?_eq_some taken).2], fun other => ?_⟩
  rw [handle?, box?_of_next? taken, handle?]

theorem isReleased_of_next? (taken : exchange.next? = some (number, rest)) (other : Nat) :
    rest.isReleased other = exchange.isReleased other := by
  rw [isReleased, box?_of_next? taken, isReleased]

/-! ### Settling -/

theorem box?_settle_self (found : exchange.box? number = some box) (settlement : Settlement) :
    (exchange.settle number settlement).box? number = some settlement.box :=
  box?_put_self found _

theorem box?_settle_of_ne (apart : other ≠ number) (settlement : Settlement) :
    (exchange.settle number settlement).box? other = exchange.box? other :=
  box?_put_of_ne apart _

private theorem sameOwner_settle (found : exchange.box? number = some box) (settlement : Settlement)
    (same : settlement.box.handle = box.handle) :
    exchange.SameOwner (exchange.settle number settlement) := by
  refine ⟨Array.size_setIfInBounds, fun other => ?_⟩
  by_cases self : other = number
  · subst self
    rw [handle?, box?_settle_self found, handle?, found, Option.map_some, Option.map_some, same]
  · rw [handle?, box?_settle_of_ne self, handle?]

private theorem isReleased_settle_of_ne (apart : other ≠ number) (settlement : Settlement) :
    (exchange.settle number settlement).isReleased other = exchange.isReleased other := by
  rw [isReleased, box?_settle_of_ne apart, isReleased]

/-! ### Operations that may return messages -/

theorem settleBy_eq (found : exchange.box? number = some box) :
    settleBy operation exchange number =
      ((operation box).returned, exchange.settle number (operation box)) := by
  rw [settleBy, found]

theorem settleBy_of_none (absent : exchange.box? number = none) :
    settleBy operation exchange number = ([], exchange) := by
  rw [settleBy, absent]

theorem box?_settleBy_of_ne (apart : other ≠ number) :
    (settleBy operation exchange number).2.box? other = exchange.box? other := by
  cases found : exchange.box? number with
  | none => rw [settleBy_of_none found]
  | some box => rw [settleBy_eq found, box?_settle_of_ne apart]

private theorem sameOwner_settleBy (same : ∀ box, (operation box).box.handle = box.handle) :
    exchange.SameOwner (settleBy operation exchange number).2 := by
  cases found : exchange.box? number with
  | none =>
    rw [settleBy_of_none found]
    exact ⟨rfl, fun _ => rfl⟩
  | some box =>
    rw [settleBy_eq found]
    exact sameOwner_settle found _ (same box)

theorem isReleased_settleBy_of_ne (apart : other ≠ number) :
    (settleBy operation exchange number).2.isReleased other = exchange.isReleased other := by
  rw [isReleased, box?_settleBy_of_ne apart, isReleased]

/-- No message is lost by an operation that loses none of a mailbox's. -/
theorem returned_append_messages_settleBy
    (kept : ∀ box, (operation box).returned ++ (operation box).box.messages.toList =
      box.messages.toList) :
    (settleBy operation exchange number).1 ++
      (settleBy operation exchange number).2.messages number = exchange.messages number := by
  cases found : exchange.box? number with
  | none =>
    rw [settleBy_of_none found]
    rfl
  | some box =>
    rw [settleBy_eq found, messages_eq (box?_settle_self found _), messages_eq found]
    exact kept box

theorem messages_settleBy_of_ne (apart : other ≠ number) :
    (settleBy operation exchange number).2.messages other = exchange.messages other := by
  rw [messages, box?_settleBy_of_ne apart, messages]

/-! ### Letting go -/

theorem sameOwner_finish (exchange : Exchange) (number : Nat) :
    exchange.SameOwner (exchange.finish number).2 := by
  refine sameOwner_settleBy fun box => ?_
  unfold Mailbox.finish
  split
  · rfl
  · split <;> rfl

theorem sameOwner_release (exchange : Exchange) (number : Nat) :
    exchange.SameOwner (exchange.release number).2 := sameOwner_settleBy fun _ => rfl

theorem sameOwner_markReleased (exchange : Exchange) (number : Nat) :
    exchange.SameOwner (exchange.markReleased number).2 := by
  refine sameOwner_settleBy fun box => ?_
  unfold Mailbox.markReleased
  split <;> rfl

/-- Who is done with a mailbox releases nothing. -/
theorem isReleased_finish (exchange : Exchange) (number other : Nat) :
    (exchange.finish number).2.isReleased other = exchange.isReleased other := by
  by_cases self : other = number
  · subst self
    cases found : exchange.box? other with
    | none => rw [finish, settleBy_of_none found]
    | some box =>
      have same : box.finish.box.released = box.released := by
        unfold Mailbox.finish
        split
        · exact Eq.symm ‹_›
        · split <;> rfl
      rw [finish, settleBy_eq found, isReleased, box?_settle_self found, isReleased, found,
        Option.any_some, Option.any_some, same]
  · exact isReleased_settleBy_of_ne self

private theorem Owned.settleBy (found : exchange.box? number = some box)
    (filled : (operation box).runnable = true → (operation box).box.messages.toList ≠ [])
    (owned : (exchange.put number (operation box).box).Owned
      (if (operation box).runnable then number :: hands else hands)) :
    (settleBy operation exchange number).2.Owned hands := by
  rw [settleBy_eq found]
  exact Owned.settle found filled owned

theorem Owned.finish (owned : exchange.Owned (number :: hands)) :
    (exchange.finish number).2.Owned hands := by
  obtain ⟨box, found⟩ := owned.known (.inr List.mem_cons_self)
  exact Owned.settleBy found (fun runnable => box.runnable_finish.1 runnable)
    (owned.put_finish found)

theorem Owned.release (owned : exchange.Owned (number :: hands)) :
    (exchange.release number).2.Owned hands := by
  obtain ⟨box, found⟩ := owned.known (.inr List.mem_cons_self)
  exact Owned.settleBy found nofun (owned.put_release found)

theorem Owned.markReleased (owned : exchange.Owned hands) (number : Nat) :
    (exchange.markReleased number).2.Owned hands := by
  cases found : exchange.box? number with
  | none =>
    rw [Exchange.markReleased, settleBy_of_none found]
    exact owned
  | some box =>
    refine Owned.settleBy found (fun runnable => ?_) ?_
    · exact nomatch runnable.symm.trans box.runnable_markReleased
    · rw [box.runnable_markReleased]
      exact owned.put_markReleased found

/-! ### Messages -/

theorem post_cases (exchange : Exchange) (number : Nat) (message : Message) :
    exchange.post number message = (false, exchange) ∨
    ∃ box settlement, exchange.box? number = some box ∧ box.post? message = some settlement ∧
      exchange.post number message = (true, exchange.settle number settlement) := by
  cases posted : (exchange.box? number).bind (·.post? message) with
  | none => exact .inl (by rw [post, posted])
  | some settlement =>
    obtain ⟨box, found, accepted⟩ := Option.bind_eq_some_iff.1 posted
    exact .inr ⟨box, settlement, found, accepted, by rw [post, posted]⟩

theorem take_cases (exchange : Exchange) (number : Nat) :
    exchange.take number = (none, exchange) ∨
    ∃ box message left, exchange.box? number = some box ∧ box.take? = some (message, left) ∧
      exchange.take number = (some message, exchange.put number left) := by
  cases taken : (exchange.box? number).bind (·.take?) with
  | none => exact .inl (by rw [take, taken])
  | some result =>
    obtain ⟨box, found, head⟩ := Option.bind_eq_some_iff.1 taken
    exact .inr ⟨box, result.1, result.2, found, head, by rw [take, taken, put]⟩

theorem sameOwner_post (exchange : Exchange) (number : Nat) (message : Message) :
    exchange.SameOwner (exchange.post number message).2 := by
  obtain same | ⟨box, settlement, found, posted, same⟩ := exchange.post_cases number message
  · rw [same]
    exact ⟨rfl, fun _ => rfl⟩
  · rw [same]
    exact sameOwner_settle found _ (Mailbox.of_post? posted).1

theorem isReleased_post (exchange : Exchange) (number other : Nat) (message : Message) :
    (exchange.post number message).2.isReleased other = exchange.isReleased other := by
  obtain same | ⟨box, settlement, found, posted, same⟩ := exchange.post_cases number message
  · rw [same]
  · rw [same]
    by_cases self : other = number
    · subst self
      rw [isReleased, box?_settle_self found, isReleased, found, Option.any_some, Option.any_some,
        (Mailbox.of_post? posted).2.1, (Mailbox.of_post? posted).2.2]
    · exact isReleased_settle_of_ne self _

theorem Owned.post (owned : exchange.Owned hands) (number : Nat) (message : Message) :
    (exchange.post number message).2.Owned hands := by
  obtain same | ⟨box, settlement, found, posted, same⟩ := exchange.post_cases number message
  · rw [same]
    exact owned
  · rw [same]
    refine Owned.settle found (fun _ => ?_) (owned.put_post found posted)
    simp [Mailbox.toList_of_post? posted]

theorem sameOwner_take (exchange : Exchange) (number : Nat) :
    exchange.SameOwner (exchange.take number).2 := by
  obtain same | ⟨box, message, left, found, taken, same⟩ := exchange.take_cases number
  · rw [same]
    exact ⟨rfl, fun _ => rfl⟩
  · rw [same]
    exact sameOwner_settle found ⟨left, [], false⟩ (Mailbox.of_take? taken).1

theorem isReleased_take (exchange : Exchange) (number other : Nat) :
    (exchange.take number).2.isReleased other = exchange.isReleased other := by
  obtain same | ⟨box, message, left, found, taken, same⟩ := exchange.take_cases number
  · rw [same]
  · rw [same]
    by_cases self : other = number
    · subst self
      rw [isReleased, box?_put_self found, isReleased, found, Option.any_some, Option.any_some,
        (Mailbox.of_take? taken).2]
    · rw [isReleased, box?_put_of_ne self, isReleased]

theorem Owned.take (owned : exchange.Owned hands) (held : number ∈ hands) :
    (exchange.take number).2.Owned hands := by
  obtain same | ⟨box, message, left, found, taken, same⟩ := exchange.take_cases number
  · rw [same]
    exact owned
  · rw [same]
    exact owned.put_take held found taken

theorem messages_post_self (accepted : exchange.post number message = (true, rest)) :
    rest.messages number = exchange.messages number ++ [message] := by
  obtain same | ⟨box, settlement, found, posted, same⟩ := exchange.post_cases number message
  · exact nomatch accepted.symm.trans same
  · obtain ⟨_, rfl⟩ := Prod.mk.inj (accepted.symm.trans same)
    rw [messages_eq (box?_settle_self found _), Mailbox.toList_of_post? posted, messages_eq found]

theorem messages_post_of_ne (apart : other ≠ number) (message : Message) :
    (exchange.post number message).2.messages other = exchange.messages other := by
  obtain same | ⟨box, settlement, found, posted, same⟩ := exchange.post_cases number message
  · rw [same]
  · rw [same]
    exact messages_put_of_ne apart _

theorem messages_take_self (taken : exchange.take number = (some message, rest)) :
    exchange.messages number = message :: rest.messages number := by
  obtain same | ⟨box, first, left, found, head, same⟩ := exchange.take_cases number
  · exact nomatch taken.symm.trans same
  · obtain ⟨given, rfl⟩ := Prod.mk.inj (taken.symm.trans same)
    obtain rfl := Option.some.inj given
    have view := box.take?_spec
    rw [head] at view
    rw [messages_put_self found, messages_eq found, view]

theorem messages_take_of_ne (apart : other ≠ number) :
    (exchange.take number).2.messages other = exchange.messages other := by
  obtain same | ⟨box, message, left, found, taken, same⟩ := exchange.take_cases number
  · rw [same]
  · rw [same]
    exact messages_put_of_ne apart _

end Mailroom.Exchange
