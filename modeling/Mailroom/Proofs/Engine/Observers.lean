import Mailroom.Proofs.Engine.Entries
import Mailroom.Proofs.Engine.Guests
/-! # Who observes dead letters

The outlet keeps a letter as soon as anybody besides itself could take it, and every actor that has not
been destroyed carries a copy of it. So letters are kept without a subscriber for as long as there
is such an actor, and who subscribes later receives them.
-/

namespace Mailroom

variable {κ : Type}

/-- The letter that an event puts into the buffer of the outlet. -/
def Event.published? : Event → Option DeadLetter
  | dropped _ letter .published => some letter
  | _ => none

/-- The number of actors after an event, by their number before it. -/
def Event.recount : Event → Nat → Nat
  | entered _ _ none, actors => actors + 1
  | turned _ _ .destroyed, actors => actors - 1
  | _, actors => actors

/-- The actors that have come to be and have not been destroyed, by a journal. -/
def living (past : List Event) : Nat := past.foldr Event.recount 0

/-- What becomes of a letter that finds letters in the buffer and actors living, while nobody
subscribes. -/
def unsubscribedPassage (capacity buffered actors : Nat) : Passage :=
  if actors = 0 then .unobserved else if buffered < capacity then .published else .full

theorem Event.recount_of_isPlain {event : Event} (plain : event.isPlain = true) (actors : Nat) :
    event.recount actors = actors := by
  unfold recount
  split
  · exact nomatch plain
  · exact nomatch plain
  · rfl

private theorem living_of_isPlain {past : List Event}
    (plain : ∀ event ∈ past, event.isPlain = true) : living past = 0 := by
  induction past with
  | nil => rfl
  | cons event past ih =>
    obtain ⟨first, rest⟩ := List.forall_mem_cons.1 plain
    exact (Event.recount_of_isPlain first _).trans (ih rest)

/-- A letter that is published enters the buffer, and no other does. -/
theorem toList_record (outlet : Outlet) (origin : Option Nat) (letter : DeadLetter) :
    (outlet.record letter).2.buffer.toList = outlet.buffer.toList ++
      [Event.dropped origin letter (outlet.record letter).1].filterMap Event.published? := by
  unfold Outlet.record
  split
  · exact (List.append_nil _).symm
  · split
    · exact Queue.toList_push ..
    · exact (List.append_nil _).symm

/-- What a new part of the journal tells of an outlet that nobody subscribes to. -/
structure Unwatched (outlet : Outlet) (past new : List Event) (after : Outlet) : Prop where
  subscribers : after.subscribers = []
  capacity : after.capacity = outlet.capacity
  copies : after.copies = living (new ++ past)
  buffer : after.buffer.toList = outlet.buffer.toList ++ new.reverse.filterMap Event.published?
  passages {newer older : List Event} {origin : Option Nat} {letter : DeadLetter}
    {passage : Passage} (told : new = newer ++ .dropped origin letter passage :: older) :
    passage = unsubscribedPassage outlet.capacity
      (outlet.buffer.length + (older.filterMap Event.published?).length) (living (older ++ past))

namespace Unwatched

variable {outlet middle after : Outlet} {past new : List Event}

/-- An entry that is about no letter. -/
theorem entry (unwatched : Unwatched outlet past new middle) {event : Event}
    (subscribers : after.subscribers = middle.subscribers)
    (capacity : after.capacity = middle.capacity) (buffer : after.buffer = middle.buffer)
    (copies : after.copies = event.recount middle.copies)
    (quiet : ∀ origin letter passage, event ≠ .dropped origin letter passage) :
    Unwatched outlet past (event :: new) after where
  subscribers := subscribers.trans unwatched.subscribers
  capacity := capacity.trans unwatched.capacity
  copies := by
    rw [copies, unwatched.copies]
    rfl
  buffer := by
    have none : event.published? = none := by
      unfold Event.published?
      split
      · exact absurd rfl (quiet _ _ _)
      · rfl
    rw [buffer, unwatched.buffer, List.reverse_cons, List.filterMap_append,
      List.filterMap_cons_none none, List.filterMap_nil, List.append_nil]
  passages {newer older origin letter passage} told := by
    cases newer with
    | nil => exact absurd (List.cons.inj told).1 (quiet _ _ _)
    | cons first newer => exact unwatched.passages (List.cons.inj told).2

/-- A letter is kept if an actor is living and there is room for it. -/
theorem letter (unwatched : Unwatched outlet past new middle) (origin : Option Nat)
    (letter : DeadLetter) :
    Unwatched outlet past (.dropped origin letter (middle.record letter).1 :: new)
      (middle.record letter).2 := by
  have length : middle.buffer.length =
      outlet.buffer.length + (new.filterMap Event.published?).length := by
    rw [← Queue.length_toList, unwatched.buffer, List.length_append, Queue.length_toList,
      List.filterMap_reverse, List.length_reverse]
  have passage : (middle.record letter).1 = unsubscribedPassage outlet.capacity
      (outlet.buffer.length + (new.filterMap Event.published?).length) (living (new ++ past)) := by
    unfold Outlet.record unsubscribedPassage Outlet.observers
    rw [unwatched.subscribers, List.length_nil, Nat.zero_add, unwatched.copies, ← length,
      ← unwatched.capacity]
    split
    · rfl
    · split <;> rfl
  refine ⟨?_, ?_, ?_, ?_, fun {newer older _ _ _} told => ?_⟩
  · rw [Outlet.record_frame, unwatched.subscribers]
  · rw [Outlet.record_frame, unwatched.capacity]
  · exact (middle.copies_record letter).trans unwatched.copies
  · rw [toList_record middle origin, unwatched.buffer, List.reverse_cons, List.filterMap_append,
      List.append_assoc]
  · cases newer with
    | nil =>
      obtain ⟨same, rfl⟩ := List.cons.inj told
      obtain ⟨_, _, rfl⟩ := Event.dropped.inj same
      exact passage
    | cons first newer => exact unwatched.passages (List.cons.inj told).2

end Unwatched

/-- Entries of the journal tell what becomes of the letters while nobody subscribes. -/
theorem Roster.Entries.unwatched {roster after : Roster κ} (entries : Entries True roster after)
    (nobody : roster.outlet.subscribers = []) (copies : roster.outlet.copies = living roster.past) :
    ∃ new, after.past = new ++ roster.past ∧
      Unwatched roster.outlet roster.past new after.outlet := by
  have told (log : Outlet × List Event)
      (entries : Relation.ReflTransGen (Entry True) (roster.outlet, roster.past) log) :
      ∃ new, log.2 = new ++ roster.past ∧ Unwatched roster.outlet roster.past new log.1 := by
    induction entries with
    | refl =>
      refine ⟨[], rfl, nobody, rfl, copies, ?_, fun {newer _ _ _ _} told => ?_⟩
      · rw [List.reverse_nil, List.filterMap_nil, List.append_nil]
      · cases newer <;> exact nomatch told
    | @tail before log _ entry ih =>
      obtain ⟨outlet, past⟩ := before
      obtain ⟨new, added, unwatched⟩ := ih
      obtain rfl : past = new ++ roster.past := added
      cases entry with
      | plain event plain =>
        refine ⟨event :: new, rfl, unwatched.entry rfl rfl rfl ?_ ?_⟩
        · exact (event.recount_of_isPlain plain _).symm
        · rintro origin letter passage rfl
          exact nomatch plain
      | posted box message =>
        exact ⟨.posted box message :: new, rfl, unwatched.entry rfl rfl rfl rfl nofun⟩
      | invoked called box actor message =>
        exact ⟨.invoked box actor message :: new, rfl, unwatched.entry rfl rfl rfl rfl nofun⟩
      | dropped origin letter =>
        exact ⟨.dropped origin letter (outlet.record letter).1 :: new, rfl,
          unwatched.letter origin letter⟩
      | entered handle module =>
        exact ⟨.entered handle module none :: new, rfl, unwatched.entry rfl rfl rfl rfl nofun⟩
      | destroyed handle module =>
        exact ⟨.turned handle module .destroyed :: new, rfl,
          unwatched.entry rfl rfl rfl rfl nofun⟩
  exact told _ entries

/-! ### Runs -/

private theorem Entry.copies_eq_living {calls : Prop} {start stop : Outlet × List Event}
    (entries : Relation.ReflTransGen (Entry calls) start stop)
    (copies : start.1.copies = living start.2) : stop.1.copies = living stop.2 := by
  induction entries with
  | refl => exact copies
  | tail _ entry ih =>
    cases entry with
    | plain event plain => exact ih.trans (event.recount_of_isPlain plain _).symm
    | posted box message => exact ih
    | invoked called box actor message => exact ih
    | @dropped outlet past origin letter => exact (outlet.copies_record letter).trans ih
    | entered handle module => exact congrArg (· + 1) ih
    | destroyed handle module => exact congrArg (· - 1) ih

private theorem Entry.subscribers {calls : Prop} {start stop : Outlet × List Event}
    (entries : Relation.ReflTransGen (Entry calls) start stop) :
    stop.1.subscribers = start.1.subscribers := by
  induction entries with
  | refl => rfl
  | tail _ entry ih =>
    cases entry with
    | @dropped outlet past origin letter => rwa [Outlet.record_frame]
    | _ => exact ih

variable {may : Request → Prop} {start stop : Engine κ × List Claim}

/-- The outlet has as many copies as the journal has actors living. -/
theorem Course.copies_eq_living (course : Course .any may start stop)
    (copies : start.1.roster.outlet.copies = living start.1.roster.past) :
    stop.1.roster.outlet.copies = living stop.1.roster.past := by
  induction course with
  | refl => exact copies
  | @tail middle stop _ happens ih =>
    obtain entries | ⟨_, same, past⟩ := happens.entries
    · exact Entry.copies_eq_living entries ih
    · rw [same, past, ih]

/-- While nobody subscribes, all that happens is told by the journal. -/
theorem Course.entries (course : Course .any may start stop) (silent : ¬may .subscribe)
    (nobody : start.1.roster.outlet.subscribers = []) :
    Roster.Entries True start.1.roster stop.1.roster ∧
      stop.1.roster.outlet.subscribers = [] := by
  induction course with
  | refl => exact ⟨.of_eq rfl rfl, nobody⟩
  | tail _ happens ih =>
    obtain ⟨before, nobody⟩ := ih
    obtain entries | ⟨allowed | subscribed, _⟩ := happens.entries
    · exact ⟨before.trans entries, (Entry.subscribers entries).trans nobody⟩
    · exact absurd allowed silent
    · exact absurd nobody subscribed

namespace Reachable

variable {config : Config} {modules : List (String × Module κ)} {machine after : Machine κ}

private theorem copies_eq_living (reached : Reachable config modules machine) :
    machine.engine.roster.outlet.copies = living machine.engine.roster.past := by
  obtain ⟨engine, created, course⟩ := reached.course
  have begun : engine.roster.outlet.copies = living engine.roster.past := by
    rw [living_of_isPlain (Engine.plain_create created), Engine.roster_of_create created]
    rfl
  exact Course.copies_eq_living course begun

end Reachable

/-- The actors that somebody works with: those whose inits are not done, and those that receive
messages. -/
def Machine.guests (machine : Machine κ) : List Nat := machine.state.2.map Claim.guest

/-- A subscriber can take all that is in the buffer. -/
theorem Outlet.receive?_length {outlet : Outlet} {subscriber : Int}
    (subscribed : subscriber ∈ outlet.subscribers) :
    ∃ after, outlet.receive? subscriber outlet.buffer.length =
      some (outlet.buffer.toList, after) := by
  have letters : (outlet.buffer.popMany outlet.buffer.length).1 = outlet.buffer.toList :=
    outlet.buffer.drain_fst
  rw [Outlet.receive?, if_pos subscribed, ← letters]
  exact ⟨_, rfl⟩

/-- Who subscribes when nobody does receives all that is in the buffer. -/
theorem Engine.receive_of_subscribe (engine : Engine κ)
    (nobody : engine.roster.outlet.subscribers = []) (fuel : Nat) :
    ∃ after, engine.performAll? fuel [.subscribe, .receive] =
      some ([.count 1, .letters (some engine.roster.outlet.buffer.toList)], after) := by
  let watched := { engine.roster.outlet with subscribers := [Int.ofNat 0] }
  have count : engine.subscriptions = 0 := congrArg List.length nobody
  have subscribed : engine.subscribe = engine.withOutlet watched := by
    have absent : Int.ofNat 0 ∉ engine.roster.outlet.subscribers := by
      rw [nobody]
      exact List.not_mem_nil
    have added : engine.roster.outlet.subscribe (Int.ofNat 0) = watched := by
      rw [Outlet.subscribe, if_neg absent, nobody]
    rw [subscribe, count]
    exact congrArg engine.withOutlet added
  obtain ⟨outlet, taken⟩ := watched.receive?_length List.mem_cons_self
  let after := (engine.withOutlet watched).withOutlet outlet
  have received : (engine.withOutlet watched).receiveAll? =
      some (watched.buffer.toList, after) := by
    have head : (engine.withOutlet watched).roster.outlet.subscribers.head? =
        some (Int.ofNat 0) := rfl
    simp only [receiveAll?, head, Option.bind_eq_bind, Option.bind_some]
    rw [show (engine.withOutlet watched).roster.outlet = watched from rfl, taken]
    rfl
  have first : engine.perform? fuel .subscribe = some (.count 1, engine.withOutlet watched) := by
    rw [perform?, count, subscribed]
  have second : (engine.withOutlet watched).perform? fuel .receive =
      some (.letters (some watched.buffer.toList), after) := by
    rw [perform?, received]
    rfl
  refine ⟨after, ?_⟩
  simp only [performAll?, first, second, Option.bind_eq_bind, Option.bind_some]
  rfl

namespace Reachable

variable {config : Config} {modules : List (String × Module κ)} {machine after : Machine κ}

/-- While nobody subscribes, a letter is not kept just if no actor is living, which is one that is live
or that somebody works with. Whatever is kept is received by who subscribes later. -/
theorem letters_without_subscriber (reached : Reachable config modules machine)
    (nobody : machine.engine.roster.outlet.subscribers = [])
    (later : Later (· ≠ .subscribe) machine after) :
    (∃ new, after.engine.roster.past = new ++ machine.engine.roster.past ∧
      Unwatched machine.engine.roster.outlet machine.engine.roster.past new
        after.engine.roster.outlet) ∧
    living after.engine.roster.past =
      ((Finset.range after.engine.roster.actors.size).filter fun actor =>
        after.engine.roster.isLive actor = true ∨ actor ∈ after.guests).card ∧
    ∀ fuel, ∃ received, after.engine.performAll? fuel [.subscribe, .receive] =
      some ([.count 1, .letters (some after.engine.roster.outlet.buffer.toList)], received) := by
  have consistent := reached.consistent
  have course := later.course consistent
  obtain ⟨entries, stays⟩ := course.entries (fun differs => differs rfl) nobody
  have counted := Course.counted course reached.counted consistent
  have copies := Course.copies_eq_living course reached.copies_eq_living
  refine ⟨entries.unwatched nobody reached.copies_eq_living, ?_,
    after.engine.receive_of_subscribe stays⟩
  refine copies.symm.trans (counted.copies.trans (congrArg Finset.card ?_))
  ext actor
  rw [counted.hosts.mem_held_iff, Finset.mem_filter, Finset.mem_range]
  rfl

end Reachable

/-- A module whose actors do nothing. -/
def idler : Module Unit where
  create := .ok {
    init := fun _ _ => .finish (.ok ())
    receive := fun _ _ _ => .finish (.ok ()) }

/-- A message to a handle that nobody has, as a dead letter. -/
def strayLetter : DeadLetter where
  destination := ":00000009"
  source := none
  session := 1
  payload := [7]
  reason := .unknownHandle

/-- One idle actor keeps the letters of a runtime that nobody ever subscribed to. -/
theorem Reachable.letters_without_subscriber_of_idler :
    ∃ machine after, Reachable Config.standard [("idler", idler)] machine ∧
      machine.engine.roster.outlet.subscribers = [] ∧ Later (· ≠ .subscribe) machine after ∧
      living after.engine.roster.past = 1 ∧
      ∃ received, after.engine.performAll? 1 [.subscribe, .receive] =
        some ([.count 1, .letters (some [strayLetter])], received) := by
  have created : Engine.create Config.standard [("idler", idler)] = .ok _ := rfl
  have reached := (Reachable.created created).performAll (Option.some_get
    (by decide +kernel : (Engine.performAll? 9 [.create "idler" ""] _).isSome)).symm
  have sent (engine : Engine Unit) : Next (· ≠ .subscribe) { engine, tasks := [] }
      { engine := (engine.send none (.handle ⟨9⟩) 1 [7]).2, tasks := [] } :=
    @Next.performed _ _ _ _ 1 (.send none (.handle ⟨9⟩) 1 [7]) _ nofun rfl
  have unwatched := reached.letters_without_subscriber rfl (.single (sent _))
  exact ⟨_, _, reached, rfl, .single (sent _), by decide +kernel, unwatched.2.2 1⟩

/-- A letter from a time when nobody subscribed is received by who subscribes later. -/
theorem letter_received_though_unsubscribed :
    ∃ engine after : Engine Unit,
      Engine.create Config.standard [("idler", idler)] = .ok engine ∧
      engine.performAll? 9 [.create "idler" "", .send none (.handle ⟨9⟩) 1 [7], .subscribe,
          .receive] =
        some ([.launched (.ok ⟨1⟩), .sent (.error (.unknownHandle ⟨9⟩)), .count 1,
          .letters (some [strayLetter])], after) :=
  ⟨_, _, rfl, rfl⟩

end Mailroom
