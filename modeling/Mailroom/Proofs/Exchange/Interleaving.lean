import Mailroom.Proofs.Exchange.Ownership
import Mathlib.Tactic.ByContra
/-! # Mailboxes under any interleaving

Any number of creators, dispatchers and producers work on one exchange. What each does at a time is
one locked section: a mailbox and the run queue have a lock each, so who settles a mailbox that is
runnable puts it into the run queue later. In every order of the sections a mailbox has at most one
owner, and its messages come out in the order in which they were accepted.
-/

namespace Mailroom

/-- Who works with a mailbox that is not in the run queue. -/
inductive Party where
  | creator
  | dispatcher (number : Nat)
deriving DecidableEq, Repr

/-- One locked section of an operation on an exchange. -/
inductive Act where
  | create (handle : Handle) (capacity : Nat)
  /-- Anybody posts a message. -/
  | post (box : Nat) (message : Message)
  /-- Who settled a runnable mailbox puts it into the run queue. -/
  | publish (box : Nat)
  | next (dispatcher : Nat)
  | take (dispatcher box : Nat)
  /-- A creator or a dispatcher is done with a mailbox. -/
  | finish (party : Party) (box : Nat)
  | release (party : Party) (box : Nat)
  /-- Anybody releases a mailbox. -/
  | markReleased (box : Nat)

/-- An exchange with those who work on it, and what went through its mailboxes. -/
structure Floor where
  exchange : Exchange
  /-- The mailboxes that are held, with who holds them. -/
  holders : List (Nat × Party)
  /-- The mailboxes that are on their way into the run queue. -/
  publishing : List Nat
  /-- The messages that were accepted, the first one in front. -/
  accepted : List (Nat × Message)
  /-- The messages that were taken or returned, the first one in front. -/
  removed : List (Nat × Message)

namespace Floor

def ofRoom (room : Nat) : Floor :=
  { exchange := .ofRoom room, holders := [], publishing := [], accepted := [], removed := [] }

/-- Puts a mailbox back after an operation, whose caller gets what the operation returns and has the
mailbox on its way into the run queue if it is runnable. -/
def settle (floor : Floor) (box : Nat) (settlement : Settlement) : Floor :=
  { floor with
    exchange := floor.exchange.put box settlement.box
    publishing := if settlement.runnable then box :: floor.publishing else floor.publishing
    removed := floor.removed ++ settlement.returned.map (box, ·) }

/-- Ends the hold of a party on a mailbox by an operation of the mailbox; nothing if the party does
not hold it. -/
def letGo? (floor : Floor) (party : Party) (box : Nat) (operation : Mailbox → Settlement) :
    Option Floor := do
  let found ← floor.exchange.box? box
  if (box, party) ∈ floor.holders then
    return { floor with holders := floor.holders.erase (box, party) }.settle box (operation found)
  else none

/-- Does one locked section; nothing if it is not the party's to do. -/
def act? (floor : Floor) : Act → Option Floor
  | .create handle capacity => some { floor with
      exchange := floor.exchange.add handle capacity
      holders := (floor.exchange.boxes.size, .creator) :: floor.holders }
  | .post box message => do
    let found ← floor.exchange.box? box
    match found.post? message with
    | none => return floor
    | some settlement =>
      return { floor with accepted := floor.accepted ++ [(box, message)] }.settle box settlement
  | .publish box =>
    if box ∈ floor.publishing then some { floor with
      exchange := floor.exchange.schedule box
      publishing := floor.publishing.erase box }
    else none
  | .next dispatcher =>
    match floor.exchange.next? with
    | none => some floor
    | some (box, exchange) =>
      some { floor with exchange, holders := (box, .dispatcher dispatcher) :: floor.holders }
  | .take dispatcher box => do
    let found ← floor.exchange.box? box
    if (box, .dispatcher dispatcher) ∈ floor.holders then
      match found.take? with
      | none => return floor
      | some (message, rest) => return { floor with
          exchange := floor.exchange.put box rest
          removed := floor.removed ++ [(box, message)] }
    else none
  | .finish party box => floor.letGo? party box Mailbox.finish
  | .release party box => floor.letGo? party box Mailbox.release
  | .markReleased box => do
    let found ← floor.exchange.box? box
    return floor.settle box found.markReleased

/-- Does sections in the order in which they happen. -/
def run? (floor : Floor) (acts : List Act) : Option Floor := acts.foldlM act? floor

/-- The owners of a mailbox: who holds it, its places in the run queue, and its places that are
being taken there. -/
def owners (floor : Floor) (box : Nat) : Nat :=
  (floor.holders.map (·.1)).count box + floor.exchange.waiting.count box +
    floor.publishing.count box

/-- The messages of a mailbox in a record. -/
def ofBox (box : Nat) (record : List (Nat × Message)) : List Message :=
  (record.filter (·.1 = box)).map (·.2)

/-- A floor on which every mailbox is owned as it should and no message is lost. -/
structure Sound (floor : Floor) : Prop where
  owned : floor.exchange.Owned (floor.holders.map (·.1) ++ floor.publishing)
  ready {box : Nat} (publishes : box ∈ floor.publishing) : floor.exchange.messages box ≠ []
  kept (box : Nat) : ofBox box floor.accepted =
    ofBox box floor.removed ++ floor.exchange.messages box

variable {floor after : Floor} {number other : Nat} {box : Mailbox} {message : Message}

private theorem sound_ofRoom (room : Nat) : (ofRoom room).Sound where
  owned := Exchange.owned_ofRoom room
  ready publishes := by simp [ofRoom] at publishes
  kept box := rfl

@[simp] theorem ofBox_append (box : Nat) (first second : List (Nat × Message)) :
    ofBox box (first ++ second) = ofBox box first ++ ofBox box second := by
  simp [ofBox]

private theorem ofBox_map_self (box : Nat) (messages : List Message) :
    ofBox box (messages.map (box, ·)) = messages := by
  simp [ofBox, List.filter_map, Function.comp_def]

private theorem ofBox_map_of_ne {box other : Nat} (apart : other ≠ box) (messages : List Message) :
    ofBox other (messages.map (box, ·)) = [] := by
  simp [ofBox, List.filter_map, Function.comp_def, Ne.symm apart]

/-- An operation on a mailbox keeps a floor sound if it keeps the owners in step, leaves no mailbox on
its way into the run queue empty and loses no message. -/
theorem Sound.settle (sound : floor.Sound) (found : floor.exchange.box? number = some box)
    (settlement : Settlement) (holders : List (Nat × Party)) (more : List Message)
    (owned : (floor.exchange.put number settlement.box).Owned (holders.map (·.1) ++
      if settlement.runnable then number :: floor.publishing else floor.publishing))
    (filled : number ∈ floor.publishing ∨ settlement.runnable = true →
      settlement.box.messages.toList ≠ [])
    (kept : box.messages.toList ++ more =
      settlement.returned ++ settlement.box.messages.toList) :
    (Floor.settle { floor with holders, accepted := floor.accepted ++ more.map (number, ·) }
      number settlement).Sound where
  owned := owned
  ready {other} publishes := by
    simp only [Floor.settle] at publishes ⊢
    by_cases same : other = number
    · subst same
      rw [Exchange.messages_put_self found]
      apply filled
      split at publishes
      · exact .inr ‹_›
      · exact .inl publishes
    · rw [Exchange.messages_put_of_ne same]
      apply sound.ready
      split at publishes
      · exact List.mem_of_ne_of_mem same publishes
      · exact publishes
  kept other := by
    simp only [Floor.settle, ofBox_append]
    by_cases same : other = number
    · subst same
      rw [ofBox_map_self, ofBox_map_self, Exchange.messages_put_self found, sound.kept,
        List.append_assoc, List.append_assoc, Exchange.messages_eq found, kept]
    · rw [ofBox_map_of_ne same, ofBox_map_of_ne same, Exchange.messages_put_of_ne same, sound.kept,
        List.append_nil, List.append_nil]

/-- Who gets a mailbox while somebody puts it back has it on its way into the run queue. -/
private theorem perm_publishing (runnable : Bool) (number : Nat) (holders publishing : List Nat) :
    (if runnable then number :: (holders ++ publishing) else holders ++ publishing).Perm
      (holders ++ if runnable then number :: publishing else publishing) := by
  split
  · exact List.perm_middle.symm
  · exact .refl _

private theorem Sound.post (sound : floor.Sound) (found : floor.exchange.box? number = some box)
    {settlement : Settlement} (posted : box.post? message = some settlement) :
    (Floor.settle { floor with accepted := floor.accepted ++ [(number, message)] } number
      settlement).Sound := by
  have view := Mailbox.toList_of_post? posted
  have returned : settlement.returned = [] := by
    simp only [Mailbox.post?, Option.ite_none_left_eq_some, Option.some.injEq] at posted
    exact posted.2 ▸ rfl
  refine sound.settle found settlement floor.holders [message] ?_ ?_ ?_
  · exact (sound.owned.put_post found posted).perm (perm_publishing ..)
  · simp [view]
  · simp [view, returned]

private theorem Sound.letGo {party : Party} (sound : floor.Sound)
    (found : floor.exchange.box? number = some box) (held : (number, party) ∈ floor.holders)
    {settlement : Settlement}
    (owned : floor.exchange.Owned
        (number :: ((floor.holders.erase (number, party)).map (·.1) ++ floor.publishing)) →
      (floor.exchange.put number settlement.box).Owned
        (if settlement.runnable then
          number :: ((floor.holders.erase (number, party)).map (·.1) ++ floor.publishing)
        else (floor.holders.erase (number, party)).map (·.1) ++ floor.publishing))
    (filled : settlement.runnable = true → settlement.box.messages.toList ≠ [])
    (kept : settlement.returned ++ settlement.box.messages.toList = box.messages.toList) :
    (Floor.settle { floor with holders := floor.holders.erase (number, party) } number
      settlement).Sound := by
  have hands : floor.exchange.Owned
      (number :: ((floor.holders.erase (number, party)).map (·.1) ++ floor.publishing)) :=
    sound.owned.perm (((List.perm_cons_erase held).map (·.1)).append_right _)
  have absent : number ∉ floor.publishing := fun publishes =>
    hands.not_mem (List.mem_append_right _ publishes)
  have settled := sound.settle found settlement (floor.holders.erase (number, party)) []
    ((owned hands).perm (perm_publishing ..)) (fun either => filled (either.resolve_left absent))
    (by rw [List.append_nil, kept])
  simpa only [List.map_nil, List.append_nil] using settled

private theorem Sound.publish (sound : floor.Sound) (publishes : number ∈ floor.publishing) :
    Sound { floor with
      exchange := floor.exchange.schedule number
      publishing := floor.publishing.erase number } where
  owned := by
    have hands : floor.exchange.Owned
        (number :: (floor.holders.map (·.1) ++ floor.publishing.erase number)) :=
      sound.owned.perm (((List.perm_cons_erase publishes).append_left _).trans List.perm_middle)
    refine hands.schedule fun box found => ?_
    rw [← Exchange.messages_eq found]
    exact sound.ready publishes
  ready publishes := sound.ready (List.mem_of_mem_erase publishes)
  kept := sound.kept

private theorem Sound.next (sound : floor.Sound) {rest : Exchange}
    (taken : floor.exchange.next? = some (number, rest)) (party : Party) :
    Sound { floor with exchange := rest, holders := (number, party) :: floor.holders } := by
  have same := Exchange.messages_of_next? taken
  exact {
    owned := sound.owned.next taken
    ready := fun publishes => (same _).symm ▸ sound.ready publishes
    kept := fun other => (same other).symm ▸ sound.kept other }

private theorem Sound.take {party : Party} (sound : floor.Sound)
    (found : floor.exchange.box? number = some box) (held : (number, party) ∈ floor.holders)
    {rest : Mailbox} (taken : box.take? = some (message, rest)) :
    Sound { floor with
      exchange := floor.exchange.put number rest
      removed := floor.removed ++ [(number, message)] } := by
  have hands : number ∈ floor.holders.map (·.1) := List.mem_map_of_mem held
  have absent : number ∉ floor.publishing := by
    have owned := sound.owned.perm ((List.perm_cons_erase hands).append_right _)
    exact fun publishes => owned.not_mem (List.mem_append_right _ publishes)
  have view := box.take?_spec
  rw [taken] at view
  have settled := sound.settle found ⟨rest, [message], false⟩ floor.holders []
    (sound.owned.put_take (List.mem_append_left _ hands) found taken)
    (fun either => (either.elim absent nofun).elim) (by rw [List.append_nil, view]; rfl)
  rw [List.map_nil, List.append_nil] at settled
  exact settled

private theorem Sound.markReleased (sound : floor.Sound)
    (found : floor.exchange.box? number = some box) :
    (floor.settle number box.markReleased).Sound := by
  have filled : number ∈ floor.publishing → box.markReleased.box.messages.toList ≠ [] := by
    intro publishes
    have scheduled := sound.owned.scheduled found (.inr (List.mem_append_right _ publishes))
    rw [Mailbox.markReleased, if_pos scheduled, ← Exchange.messages_eq found]
    exact sound.ready publishes
  have settled := sound.settle found box.markReleased floor.holders []
    (by rw [box.runnable_markReleased]; exact sound.owned.put_markReleased found)
    (fun either => filled (either.resolve_right (by simp [box.runnable_markReleased])))
    (by rw [List.append_nil, Mailbox.returned_append_toList_markReleased])
  simpa only [List.map_nil, List.append_nil] using settled

/-- Every locked section keeps a floor sound. -/
theorem Sound.act (sound : floor.Sound) {act : Act} (acted : floor.act? act = some after) :
    after.Sound := by
  cases act with
  | create handle capacity =>
    obtain rfl := Option.some.inj acted
    have same := floor.exchange.messages_add handle capacity
    exact {
      owned := sound.owned.add handle capacity
      ready := fun publishes => (same _).symm ▸ sound.ready publishes
      kept := fun box => (same box).symm ▸ sound.kept box }
  | post box message =>
    obtain ⟨found, holds, acted⟩ := Option.bind_eq_some_iff.1 acted
    split at acted
    · obtain rfl := Option.some.inj acted
      exact sound
    · rename_i settlement posted
      obtain rfl := Option.some.inj acted
      exact sound.post holds posted
  | publish box =>
    simp only [act?, Option.ite_none_right_eq_some, Option.some.injEq] at acted
    obtain ⟨publishes, rfl⟩ := acted
    exact sound.publish publishes
  | next dispatcher =>
    simp only [act?] at acted
    split at acted
    · obtain rfl := Option.some.inj acted
      exact sound
    · rename_i box exchange taken
      obtain rfl := Option.some.inj acted
      exact sound.next taken (.dispatcher dispatcher)
  | take dispatcher box =>
    obtain ⟨found, holds, acted⟩ := Option.bind_eq_some_iff.1 acted
    obtain ⟨held, acted⟩ := Option.ite_none_right_eq_some.1 acted
    split at acted
    · obtain rfl := Option.some.inj acted
      exact sound
    · rename_i message rest taken
      obtain rfl := Option.some.inj acted
      exact sound.take holds held taken
  | finish party box =>
    obtain ⟨found, holds, acted⟩ := Option.bind_eq_some_iff.1 acted
    obtain ⟨held, acted⟩ := Option.ite_none_right_eq_some.1 acted
    obtain rfl := Option.some.inj acted
    exact sound.letGo holds held (fun owned => owned.put_finish holds)
      found.runnable_finish.1 found.returned_append_toList_finish
  | release party box =>
    obtain ⟨found, holds, acted⟩ := Option.bind_eq_some_iff.1 acted
    obtain ⟨held, acted⟩ := Option.ite_none_right_eq_some.1 acted
    obtain rfl := Option.some.inj acted
    exact sound.letGo holds held (fun owned => owned.put_release holds) nofun
      found.returned_append_toList_release
  | markReleased box =>
    obtain ⟨found, holds, acted⟩ := Option.bind_eq_some_iff.1 acted
    obtain rfl := Option.some.inj acted
    exact sound.markReleased holds

theorem Sound.run (sound : floor.Sound) {acts : List Act} (ran : floor.run? acts = some after) :
    after.Sound := by
  induction acts generalizing floor with
  | nil =>
    obtain rfl := Option.some.inj ran
    exact sound
  | cons act acts ih =>
    obtain ⟨next, acted, ran⟩ := Option.bind_eq_some_iff.1 ran
    exact ih (sound.act acted) ran

private theorem Sound.owners_eq (sound : floor.Sound)
    (found : floor.exchange.box? number = some box) :
    floor.owners number = if box.scheduled then 1 else 0 := by
  rw [← sound.owned.one found, owners, List.count_append]
  omega

/-- Two parties do not hold one mailbox. -/
theorem Sound.holder_unique (sound : floor.Sound) {party other : Party}
    (held : (number, party) ∈ floor.holders) (held' : (number, other) ∈ floor.holders) :
    party = other := by
  have hands := sound.owned.perm
    (((List.perm_cons_erase held).map (·.1)).append_right floor.publishing)
  by_contra apart
  have remains : (number, other) ∈ floor.holders.erase (number, party) :=
    (List.mem_erase_of_ne (by simpa using Ne.symm apart)).2 held'
  exact hands.not_mem (List.mem_append_left _ (List.mem_map.2 ⟨_, remains, rfl⟩))

private theorem Sound.not_waiting (sound : floor.Sound) {party : Party}
    (held : (number, party) ∈ floor.holders) : number ∉ floor.exchange.waiting :=
  sound.owned.not_waiting (List.mem_append_left _ (List.mem_map_of_mem held))

/-- Nothing that happens to a retired mailbox brings it back. -/
theorem Sound.retired_act (sound : floor.Sound) (retired : floor.exchange.Retired number)
    {act : Act} (acted : floor.act? act = some after) : after.exchange.Retired number := by
  have not_held {party : Party} {box : Nat} (held : (box, party) ∈ floor.holders) :
      box ≠ number := by
    rintro rfl
    exact sound.owned.not_retired (List.mem_append_left _ (List.mem_map_of_mem held)) retired
  have letGo {party : Party} {box : Nat} {operation : Mailbox → Settlement}
      (let_go : floor.letGo? party box operation = some after) :
      after.exchange.Retired number := by
    obtain ⟨found, holds, acted⟩ := Option.bind_eq_some_iff.1 let_go
    obtain ⟨held, acted⟩ := Option.ite_none_right_eq_some.1 acted
    obtain rfl := Option.some.inj acted
    exact retired.put box fun same => (not_held held same).elim
  cases act with
  | create handle capacity =>
    obtain rfl := Option.some.inj acted
    exact retired.add handle capacity
  | post box message =>
    obtain ⟨found, holds, acted⟩ := Option.bind_eq_some_iff.1 acted
    split at acted
    · obtain rfl := Option.some.inj acted
      exact retired
    · rename_i settlement posted
      obtain rfl := Option.some.inj acted
      refine retired.put box ?_
      rintro rfl
      obtain ⟨old, found', released, _⟩ := retired
      obtain rfl := Option.some.inj (holds.symm.trans found')
      rw [Mailbox.post?_eq_none_iff.2 released] at posted
      exact nomatch posted
  | publish box =>
    simp only [act?, Option.ite_none_right_eq_some, Option.some.injEq] at acted
    obtain ⟨_, rfl⟩ := acted
    exact retired
  | next dispatcher =>
    simp only [act?] at acted
    split at acted
    · obtain rfl := Option.some.inj acted
      exact retired
    · rename_i box exchange taken
      obtain rfl := Option.some.inj acted
      exact retired.next taken
  | take dispatcher box =>
    obtain ⟨found, holds, acted⟩ := Option.bind_eq_some_iff.1 acted
    obtain ⟨held, acted⟩ := Option.ite_none_right_eq_some.1 acted
    split at acted
    · obtain rfl := Option.some.inj acted
      exact retired
    · obtain rfl := Option.some.inj acted
      exact retired.put box fun same => (not_held held same).elim
  | finish party box => exact letGo acted
  | release party box => exact letGo acted
  | markReleased box =>
    obtain ⟨found, holds, acted⟩ := Option.bind_eq_some_iff.1 acted
    obtain rfl := Option.some.inj acted
    refine retired.put box ?_
    rintro rfl
    obtain ⟨old, found', _, unscheduled⟩ := retired
    obtain rfl := Option.some.inj (holds.symm.trans found')
    rw [Mailbox.markReleased, if_neg (by simp [unscheduled])]
    exact ⟨rfl, rfl⟩

theorem Sound.retired_run (sound : floor.Sound) (retired : floor.exchange.Retired number)
    {acts : List Act} (ran : floor.run? acts = some after) : after.exchange.Retired number := by
  induction acts generalizing floor with
  | nil =>
    obtain rfl := Option.some.inj ran
    exact retired
  | cons act acts ih =>
    obtain ⟨next, acted, ran⟩ := Option.bind_eq_some_iff.1 ran
    exact ih (sound.act acted) (sound.retired_act retired acted) ran

/-- Settling a mailbox as one operation is settling it and then putting it into the run queue. -/
theorem exchange_settle_publish (floor : Floor) (number : Nat) (settlement : Settlement) :
    ((floor.settle number settlement).run?
        (if settlement.runnable then [.publish number] else [])).map (·.exchange) =
      some (floor.exchange.settle number settlement) := by
  rw [Exchange.settle_eq]
  cases runnable : settlement.runnable
  · simp [run?, settle]
  · simp [run?, act?, settle, runnable]

/-- In whatever order the locked sections happen, a mailbox has one owner if it is scheduled and none
otherwise, in which case it is empty; a mailbox that is held is held by one party and is not in the
run queue; its messages left it in the order in which it accepted them and the others are in it; and
once it is released and has no owner, it never gets one again. -/
theorem single_flight {room : Nat} {acts : List Act}
    (ran : (ofRoom room).run? acts = some floor) (found : floor.exchange.box? number = some box) :
    floor.owners number = (if box.scheduled then 1 else 0) ∧
    (floor.owners number = 0 → box.messages.toList = []) ∧
    (∀ party, (number, party) ∈ floor.holders → number ∉ floor.exchange.waiting ∧
      ∀ other, (number, other) ∈ floor.holders → party = other) ∧
    ofBox number floor.accepted = ofBox number floor.removed ++ box.messages.toList ∧
    (box.released = true → floor.owners number = 0 → ∀ more after, floor.run? more = some after →
      after.owners number = 0 ∧ after.exchange.Retired number) := by
  have sound := (sound_ofRoom room).run ran
  have owners := sound.owners_eq found
  have unscheduled (unowned : floor.owners number = 0) : box.scheduled = false := by
    rw [owners] at unowned
    split at unowned
    · omega
    · simpa using ‹¬ box.scheduled = true›
  refine ⟨owners, ?_, ?_, ?_, ?_⟩
  · exact fun unowned => sound.owned.idle found (unscheduled unowned)
  · exact fun party held =>
      ⟨sound.not_waiting held, fun other held' => sound.holder_unique held held'⟩
  · rw [sound.kept, Exchange.messages_eq found]
  · intro released unowned more after continued
    have retired := sound.retired_run ⟨box, found, released, unscheduled unowned⟩ continued
    obtain ⟨left, found', _, idle⟩ := id retired
    refine ⟨?_, retired⟩
    rw [(sound.run continued).owners_eq found', idle]
    rfl

/-- A mailbox gets a message while it is held and another one while it is serviced, and is released
before its dispatcher is done. -/
def releasedInService : List Act :=
  [.create ⟨7⟩ 1, .post 0 (.expiry 1), .finish .creator 0, .publish 0, .next 3, .take 3 0,
    .post 0 (.expiry 2), .markReleased 0, .finish (.dispatcher 3) 0]

theorem single_flight_releasedInService :
    ∃ floor, (ofRoom 1).run? releasedInService = some floor ∧
      ofBox 0 floor.accepted = [.expiry 1, .expiry 2] ∧
      ofBox 0 floor.removed = [.expiry 1, .expiry 2] ∧
      ∀ more after, floor.run? more = some after →
        after.owners 0 = 0 ∧ after.exchange.Retired 0 := by
  have ran : (ofRoom 1).run? releasedInService = some _ := rfl
  exact ⟨_, ran, rfl, rfl, (single_flight ran rfl).2.2.2.2 rfl rfl⟩

end Floor

end Mailroom
