import Mailroom.Proofs.Engine.Batches
import Mailroom.Proofs.Engine.Conservation
import Mailroom.Proofs.Engine.Entries
/-! # What is left of a retired actor

An actor that was retired stays so, and its mailbox accepts nothing more. Whoever services a mailbox
goes on until the batch is complete, so an actor that retires while it receives a message may receive
the rest of the batch. Whatever else is left in its mailbox becomes dead letters.
-/

namespace Mailroom

variable {κ : Type}

/-- Whether an event is that the callback of an actor is invoked. -/
def Event.invokes (actor : Nat) : Event → Bool
  | invoked _ other _ => other = actor
  | _ => false

namespace Roster

variable {roster after : Roster κ} {hands : List Nat} {start stop : Roster κ × List Nat}
  {number : Nat} {handle : Handle}

/-! ### Retired actors -/

/-- Nobody finds an actor again who was retired. -/
theorem Move.find?_ne (move : Move .any start stop) (sound : start.1.Sound start.2)
    (known : start.1.handle? number = some handle) (gone : start.1.find? handle ≠ some number) :
    stop.1.find? handle ≠ some number := by
  cases move with
  | note event silent => exact gone
  | refuse destination reason message => exact gone
  | post live message => rwa [post_frame]
  | finish box => rwa [Roster.finish, settleBy_frame]
  | release absent reason => rwa [Roster.release, settleBy_frame]
  | markReleased absent => rwa [settleBy_frame]
  | next allowed taken => exact gone
  | invoke taken belongs has => exact gone
  | skip taken => exact gone
  | @enroll roster hands module args behaviour capacity =>
    cases issued : (roster.directory.register roster.actors.size).1 with
    | none => rwa [sound.find?_exhaust module args behaviour capacity issued]
    | some fresh =>
      obtain ⟨_, finds⟩ := sound.find?_enroll module args behaviour capacity issued
      rw [finds]
      split
      · intro live
        obtain rfl := Option.some.inj live
        cases roster.handle?_size.symm.trans known
      · exact gone
  | @unlist roster hands other =>
    have finds := roster.directory.find?_retire other handle
    rw [show find? (roster.overDirectory (·.retire other)).2 handle = _ from finds]
    split
    · exact (Option.some_ne_none number).symm
    · exact gone
  | rename bound => exact gone
  | modify actor keeps counts serves => exact gone
  | outlet outlet => exact gone

private theorem accepted_of_past {events : List Event}
    (past : after.past = events.reverse ++ roster.past)
    (none : events.filterMap (Event.accepted? number) = []) :
    after.accepted number = roster.accepted number := by
  rw [accepted, accepted, past, List.reverse_append, List.reverse_reverse, List.filterMap_append,
    none, List.append_nil]

theorem accepted_of_past_cons {event : Event} (past : after.past = event :: roster.past)
    (none : event.accepted? number = none) : after.accepted number = roster.accepted number := by
  have past : after.past = [event].reverse ++ roster.past := past
  refine accepted_of_past past ?_
  rw [List.filterMap_cons_none none, List.filterMap_nil]

theorem accepted_settleBy (roster : Roster κ)
    (operation : Exchange → Nat → List Message × Exchange) (reason : DropReason) (box : Nat)
    (handle : Handle) (number : Nat) :
    (roster.settleBy operation reason box handle).accepted number = roster.accepted number := by
  obtain ⟨events, past, _, moved⟩ := past_dropAll
    { roster with exchange := (operation roster.exchange box).2 } box handle reason
    (operation roster.exchange box).1
  exact accepted_of_past past (moved number).1

/-- The mailbox of an actor that was retired accepts nothing. -/
theorem Move.accepted_eq (move : Move .any start stop) (sound : start.1.Sound start.2)
    (known : start.1.handle? number = some handle) (gone : start.1.find? handle ≠ some number) :
    stop.1.accepted number = start.1.accepted number := by
  cases move with
  | note event silent => exact accepted_of_past_cons rfl (Event.of_isSilent silent number).1
  | refuse destination reason message => exact accepted_of_past_cons rfl rfl
  | @post roster hands other box live message =>
    -- only who is live accepts messages
    have apart : box ≠ number := by
      rintro rfl
      obtain rfl := Option.some.inj (known.symm.trans (sound.listed live))
      exact gone live
    dsimp only
    unfold Roster.post overExchange
    split <;> rename_i result <;> obtain ⟨_, rfl⟩ := Prod.mk.inj result
    · rfl
    · exact accepted_of_past_cons rfl (if_neg apart)
  | finish box => exact accepted_settleBy ..
  | release absent reason => exact accepted_settleBy ..
  | markReleased absent => exact accepted_settleBy ..
  | next allowed taken => rfl
  | invoke taken belongs has => exact accepted_of_past_cons rfl rfl
  | skip taken => exact accepted_of_past_cons rfl rfl
  | @enroll roster hands module args behaviour capacity =>
    dsimp only
    rw [accepted, accepted, past_enroll]
  | unlist other => rfl
  | rename bound => rfl
  | modify actor keeps counts serves => rfl
  | outlet outlet => rfl

/-- An actor that was retired stays so, and its mailbox accepts nothing more. -/
theorem Moves.retired (moves : Moves .any start stop) (sound : start.1.Sound start.2)
    (known : start.1.handle? number = some handle) (gone : start.1.find? handle ≠ some number) :
    stop.1.find? handle ≠ some number ∧ stop.1.accepted number = start.1.accepted number := by
  induction moves with
  | refl => exact ⟨gone, rfl⟩
  | tail before move ih =>
    have sound := sound.moves before
    have known := Moves.handle?_eq_some before known
    exact ⟨move.find?_ne sound known ih.1, (move.accepted_eq sound known ih.1).trans ih.2⟩

/-! ### Invocations -/

/-- How often the callback of an actor was invoked. -/
def invocations (roster : Roster κ) (actor : Nat) : Nat := roster.past.countP (Event.invokes actor)

private theorem invocations_note_invoked (roster : Roster κ) (box guest : Nat) (message : Message)
    (actor : Nat) :
    (roster.note (.invoked box guest message)).invocations actor =
      roster.invocations actor + if guest = actor then 1 else 0 := by
  refine List.countP_cons.trans ?_
  simp only [Event.invokes, decide_eq_true_eq]
  rfl

/-- Entries of the journal that invoke no callback add nothing to a count of such events. -/
theorem Entries.countP_eq (entries : Entries False roster after) {counts : Event → Bool}
    (calls : ∀ event, counts event = true → ∃ box actor message, event = .invoked box actor message) :
    after.past.countP counts = roster.past.countP counts := by
  have kept (log : Outlet × List Event)
      (entries : Relation.ReflTransGen (Entry False) (roster.outlet, roster.past) log) :
      log.2.countP counts = roster.past.countP counts := by
    induction entries with
    | refl => rfl
    | tail _ entry ih =>
      -- an entry that counts is an invocation, and there is none
      cases entry with
      | invoked called box other message => exact called.elim
      | plain event plain =>
        refine (List.countP_cons_of_neg fun counted => ?_).trans ih
        obtain ⟨box, other, message, rfl⟩ := calls _ counted
        exact nomatch plain
      | _ =>
        refine (List.countP_cons_of_neg fun counted => ?_).trans ih
        obtain ⟨box, other, message, same⟩ := calls _ counted
        exact nomatch same
  exact kept _ entries

theorem Entries.invocations_eq (entries : Entries False roster after) (actor : Nat) :
    after.invocations actor = roster.invocations actor := by
  refine entries.countP_eq fun event invokes => ?_
  cases event with
  | invoked box other message => exact ⟨box, other, message, rfl⟩
  | _ => exact nomatch invokes

end Roster

/-! ### The journal grows -/

private theorem Entry.suffix {calls : Prop} {start stop : Outlet × List Event}
    (entries : Relation.ReflTransGen (Entry calls) start stop) : start.2 <:+ stop.2 := by
  induction entries with
  | refl => exact List.suffix_rfl
  | tail _ entry ih =>
    refine ih.trans ?_
    cases entry <;> exact List.suffix_cons ..

variable {may : Request → Prop} {start stop : Engine κ × List Claim} {actor : Nat} {handle : Handle}

theorem Course.suffix (course : Course .any may start stop) :
    start.1.roster.past <:+ stop.1.roster.past := by
  induction course with
  | refl => exact List.suffix_rfl
  | tail _ happens ih =>
    obtain entries | ⟨_, _, same⟩ := happens.entries
    · exact ih.trans (Entry.suffix entries)
    · exact same ▸ ih

/-! ### Batches -/

namespace Engine

variable (engine : Engine κ) (exchange : Exchange) (found : Actor κ) (box : Nat) (message : Message)

private theorem invocations_invoke (guest actor : Nat) :
    Roster.invocations (((engine.taking exchange).note
        (.entered found.handle found.module (some message.session))).note
          (.invoked box guest message)).roster actor =
      engine.roster.invocations actor + if guest = actor then 1 else 0 := by
  let entered := (engine.taking exchange).roster.note
    (.entered found.handle found.module (some message.session))
  have same : entered.invocations actor = engine.roster.invocations actor :=
    List.countP_cons_of_neg nofun
  rw [← same]
  exact entered.invocations_note_invoked box guest message actor

private theorem invocations_skip (actor : Nat) :
    Roster.invocations ((engine.taking exchange).mapRoster
        (·.drop (some box) found.handle.text .noCallback message)).roster actor =
      engine.roster.invocations actor := by
  have dropped : Roster.Entries False engine.roster
      ((engine.taking exchange).roster.drop (some box) found.handle.text .noCallback message) :=
    Roster.entries_drop { engine.roster with exchange } ..
  exact dropped.invocations_eq actor

end Engine

/-- Each invocation of an actor that was retired is one of those that are owed to it. -/
theorem Happens.invocations_add_owed_le (happens : Happens .any may start stop)
    (consistent : Consistent start) (known : start.1.roster.handle? actor = some handle)
    (gone : start.1.roster.find? handle ≠ some actor) :
    stop.1.roster.invocations actor + Claim.owed actor stop.2 ≤
      start.1.roster.invocations actor + Claim.owed actor start.2 := by
  cases happens with
  | work works =>
    rw [works.entries.invocations_eq]
    apply Nat.add_le_add_left
    cases works with
    | create module args behaviour issued => rw [Claim.owed_cons, Claim.owes, Nat.zero_add]
    | endLaunch guest outcome => rw [Claim.owed_cons, Claim.owes, Nat.zero_add]
    | endService box guest left =>
      rw [Claim.owed_cons]
      apply Nat.le_add_left
    | _ => exact Nat.le_refl _
  | @take engine box guest exchange allowed taken live =>
    -- a batch begins only for an actor that is live
    have other : guest ≠ actor := by
      rintro rfl
      obtain rfl := Option.some.inj (known.symm.trans (consistent.sound.listed live))
      exact gone live
    have none : Claim.owed actor (engine.servicing box guest exchange).state.2 = 0 := by
      apply Claim.owed_eq_zero
      intro member
      exact other (List.mem_singleton.1 member).symm
    have same : (engine.servicing box guest exchange).state.1.roster.invocations actor =
        engine.roster.invocations actor := rfl
    rw [none, same]
    apply Nat.le_add_right
  | @invoke engine claims box guest left message exchange found taken seen =>
    rw [Engine.invocations_invoke, Claim.owed_pass]
    dsimp only
    omega
  | @skip engine claims box guest left message exchange found taken seen =>
    rw [Engine.invocations_skip, Claim.owed_pass]
    dsimp only
    omega
  | @discard engine box exchange allowed taken gone reason =>
    have released : Roster.Entries False engine.roster
        ((engine.taking exchange).roster.release box (exchange.handleOf box) reason) :=
      Roster.entries_settleBy { engine.roster with exchange } ..
    have same : Roster.invocations ((engine.taking exchange).mapRoster
        (·.release box (exchange.handleOf box) reason)).roster actor =
        engine.roster.invocations actor := released.invocations_eq actor
    rw [same]
  | subscribe allowed => exact Nat.le_refl _
  | observe subscribed copies => exact Nat.le_refl _
  | stop allowed => exact Nat.le_refl _

theorem Course.invocations_add_owed_le (course : Course .any may start stop)
    (consistent : Consistent start) (known : start.1.roster.handle? actor = some handle)
    (gone : start.1.roster.find? handle ≠ some actor) :
    stop.1.roster.invocations actor + Claim.owed actor stop.2 ≤
      start.1.roster.invocations actor + Claim.owed actor start.2 := by
  induction course with
  | refl => exact Nat.le_refl _
  | tail before happens ih =>
    have moves := Course.moves before consistent
    have gone := (moves.retired consistent.sound known gone).1
    exact (happens.invocations_add_owed_le (Course.consistent before consistent)
      (moves.handle?_eq_some known) gone).trans ih

/-- The new invocations of an actor that was retired are all owed to it. -/
theorem Course.countP_invokes_le (course : Course .any may start stop)
    (consistent : Consistent start) (known : start.1.roster.handle? actor = some handle)
    (gone : start.1.roster.find? handle ≠ some actor) {new : List Event}
    (past : stop.1.roster.past = new ++ start.1.roster.past) :
    new.countP (Event.invokes actor) ≤ Claim.owed actor start.2 := by
  have bound := course.invocations_add_owed_le consistent known gone
  have counts : stop.1.roster.invocations actor =
      new.countP (Event.invokes actor) + start.1.roster.invocations actor := by
    rw [Roster.invocations, past, List.countP_append]
    rfl
  omega

/-! ### What is left in the mailbox -/

/-- What a new part of the journal tells of an actor that was retired and of its mailbox. -/
structure Retired (roster : Roster κ) (actor : Nat) (handle : Handle) (new : List Event)
    (after : Roster κ) : Prop where
  past : after.past = new ++ roster.past
  gone : after.isLive actor = false
  accepted : after.accepted actor = roster.accepted actor
  messages : roster.exchange.messages actor =
    new.reverse.filterMap (Event.left? actor) ++ after.exchange.messages actor
  /-- What leaves the mailbox becomes a dead letter, or goes to an actor that has the handle. -/
  fates {event : Event} {message : Message} (member : event ∈ new)
    (leaves : event.left? actor = some message) :
    (∃ letter passage, event = .dropped (some actor) letter passage ∧
      letter.message = message ∧ letter.destination = handle.text) ∨
    ∃ receiver, event = .invoked actor receiver message ∧ after.handle? receiver = some handle

private theorem Event.Fair.fate {roster : Roster κ} {event : Event} {message : Message}
    (fair : event.Fair roster) (known : roster.handle? actor = some handle)
    (leaves : event.left? actor = some message) :
    (∃ letter passage, event = .dropped (some actor) letter passage ∧
      letter.message = message ∧ letter.destination = handle.text) ∨
    ∃ receiver, event = .invoked actor receiver message ∧
      roster.handle? receiver = some handle := by
  unfold left? at leaves
  split at leaves
  · rename_i box receiver taken
    obtain ⟨rfl, same⟩ := Option.ite_none_right_eq_some.1 leaves
    obtain rfl := Option.some.inj same
    obtain ⟨other, belongs, has⟩ := fair
    obtain rfl := Option.some.inj (belongs.symm.trans known)
    exact .inr ⟨receiver, rfl, has⟩
  · rename_i box letter passage
    obtain ⟨rfl, own⟩ := Option.ite_none_right_eq_some.1 leaves
    obtain ⟨other, belongs, addressed⟩ := fair
    obtain rfl := Option.some.inj (belongs.symm.trans known)
    exact .inl ⟨letter, passage, rfl, Option.some.inj own, addressed⟩
  · exact nomatch leaves

theorem Roster.isLive_eq_false_iff {roster : Roster κ} (known : roster.handle? actor = some handle) :
    roster.isLive actor = false ↔ roster.find? handle ≠ some actor := by
  have own : roster.handleOf actor = handle := congrArg (·.getD default) known
  rw [isLive, own, decide_eq_false_iff_not]

/-- What is new in the journal tells which messages left a mailbox that accepted nothing. -/
theorem Roster.Recorded.messages_of_past {roster after : Roster κ} (recorded : roster.Recorded)
    (later : after.Recorded) {new : List Event} (past : after.past = new ++ roster.past)
    {box : Nat} (accepted : after.accepted box = roster.accepted box) :
    roster.exchange.messages box =
      new.reverse.filterMap (Event.left? box) ++ after.exchange.messages box := by
  have left : after.left box = roster.left box ++ new.reverse.filterMap (Event.left? box) := by
    rw [Roster.left, past, List.reverse_append, List.filterMap_append]
    rfl
  rw [recorded.kept, later.kept, left, List.append_assoc] at accepted
  exact (List.append_cancel_left accepted).symm

/-- The journal accounts for what happens to a mailbox that accepts nothing. -/
theorem Course.retired (course : Course .any may start stop) (consistent : Consistent start)
    (recorded : start.1.roster.Recorded) (known : start.1.roster.handle? actor = some handle)
    (dead : start.1.roster.isLive actor = false) :
    ∃ new, Retired start.1.roster actor handle new stop.1.roster := by
  have moves := course.moves consistent
  have kept := moves.handle?_eq_some known
  obtain ⟨gone, accepted⟩ := moves.retired consistent.sound known
    ((Roster.isLive_eq_false_iff known).1 dead)
  have after := recorded.moves consistent.sound moves
  obtain ⟨new, past⟩ := course.suffix
  refine ⟨new, past.symm, (Roster.isLive_eq_false_iff kept).2 gone, accepted,
    recorded.messages_of_past after past.symm accepted, ?_⟩
  intro event message member leaves
  exact (after.fair (past ▸ List.mem_append_left _ member)).fate kept leaves

namespace Reachable

variable {config : Config} {modules : List (String × Module κ)} {machine after : Machine κ}

/-- Once an actor was retired its callback is invoked at most for what is left of the batch in progress.
That is less than a batch, and nothing if the actor was retired at rest or in its init. Its mailbox
accepts nothing more, and what else leaves it becomes a dead letter of its handle, unless the handle
was issued twice. When nothing can be dispatched the mailbox is empty. -/
theorem retirement_ends_with_batch (reached : Reachable config modules machine) {found : Actor κ}
    (registered : machine.engine.roster.actor? actor = some found)
    (retired : machine.engine.roster.isLive actor = false)
    (later : Later (fun _ => True) machine after) :
    (∃ new, Retired machine.engine.roster actor found.handle new after.engine.roster ∧
      new.countP (Event.invokes actor) ≤ machine.owed actor ∧
      ((after.engine.roster.actors.toList.map (·.handle)).Nodup →
        ∀ receiver message, .invoked actor receiver message ∈ new → receiver = actor)) ∧
    machine.owed actor < config.messagesPerRun ∧
    (machine.tasks = [] ∨ actor ∈ machine.inits → machine.owed actor = 0) ∧
    (after.tasks = [] → ∀ fuel, (∃ stop, after.engine.dispatchOnce? fuel = some (.blocked, stop)) →
      after.engine.roster.exchange.messages actor = []) := by
  have consistent := reached.consistent
  have course := later.course consistent
  have stops := Course.consistent course consistent
  have known : machine.engine.roster.handle? actor = some found.handle := by
    rw [Roster.handle?, registered]
    rfl
  have gone := (Roster.isLive_eq_false_iff known).1 retired
  obtain ⟨new, fate⟩ := course.retired consistent reached.recorded known retired
  refine ⟨⟨new, fate, ?_, ?_⟩, reached.owed_lt retired, ?_, ?_⟩
  · exact course.countP_invokes_le consistent known gone fate.past
  · intro unique receiver message invoked
    rcases fate.fates invoked (if_pos rfl) with ⟨_, _, dropped, _⟩ | ⟨_, same, has⟩
    · cases dropped
    · obtain ⟨_, rfl, _⟩ := Event.invoked.inj same
      have kept := (Course.moves course consistent).handle?_eq_some known
      exact Roster.handle?_inj unique has kept
  · rintro (rests | begun)
    · rw [Machine.owed, Machine.state, rests]
      rfl
    · exact reached.owed_eq_zero_of_mem_inits begun
  · intro rests fuel blocked
    have owned : after.engine.roster.exchange.Owned [] := by
      have sound := stops.sound
      rw [← after.hands_eq, Machine.hands, rests] at sound
      exact sound.owned
    have idle := owned.waiting_eq_nil_iff.1 (Engine.dispatchOnce?_eq_blocked_iff.1 blocked)
    cases found : after.engine.roster.exchange.box? actor with
    | none => rw [Exchange.messages, found, Option.map_none, Option.getD_none]
    | some box => rw [Exchange.messages, found, Option.map_some, Option.getD_some, idle _ _ found]

end Reachable

/-- A module whose actors exit as soon as they receive a message. -/
def leaver : Module Unit where
  create := .ok {
    init := fun _ _ => .setCallback () fun _ => .finish (.ok ())
    receive := fun _ _ _ => .command .exit fun _ => .finish (.ok ()) }

/-- A configuration with batches of two messages. -/
def pairwise : Config := { Config.standard with messagesPerRun := 2 }

/-- Three messages to an actor that exits at the first one. -/
def farewell : List Request :=
  [.create "leaver" "", .send none (.handle ⟨1⟩) 1 [], .send none (.handle ⟨1⟩) 2 [],
    .send none (.handle ⟨1⟩) 3 []]

theorem Reachable.retirement_ends_with_batch_of_leaver :
    ∃ machine after, Reachable pairwise [("leaver", leaver)] machine ∧
      machine.engine.roster.isLive 0 = false ∧ Later (fun _ => True) machine after ∧
      machine.owed 0 = 1 ∧ (machine.engine.roster.exchange.messages 0).length = 2 ∧
      after.engine.roster.exchange.messages 0 = [] ∧
      ∃ new, Retired machine.engine.roster 0 ⟨1⟩ new after.engine.roster ∧
        new.countP (Event.invokes 0) ≤ 1 := by
  have created : Engine.create pairwise [("leaver", leaver)] = .ok _ := rfl
  have rested := (Reachable.created created).performAll (Option.some_get
    (by decide +kernel : (Engine.performAll? 9 farewell _).isSome)).symm
  have reached := (rested.servicing rfl rfl).stepped.stepped
  obtain ⟨⟨new, fate, bound, _⟩, _, _, idle⟩ :=
    @retirement_ends_with_batch _ 0 _ _ _ _ reached _ (Option.some_get (by decide +kernel)).symm
      (by decide +kernel) (.tail (Later.steps 5 _) (.serviced 2))
  exact ⟨_, _, reached, by decide +kernel, .tail (Later.steps 5 _) (.serviced 2),
    by decide +kernel, by decide +kernel, idle rfl 1 ⟨_, rfl⟩, new, fate, bound⟩

/-- An actor that retired while it received a message receives the next one of the batch. -/
theorem invoked_after_retirement :
    ∃ machine after, Reachable pairwise [("leaver", leaver)] machine ∧
      machine.engine.roster.isLive 0 = false ∧ Later (fun _ => True) machine after ∧
      machine.engine.roster.invocations 0 = 1 ∧ after.engine.roster.invocations 0 = 2 := by
  have created : Engine.create pairwise [("leaver", leaver)] = .ok _ := rfl
  have rested := (Reachable.created created).performAll (Option.some_get
    (by decide +kernel : (Engine.performAll? 9 farewell _).isSome)).symm
  have reached := (rested.servicing rfl rfl).stepped.stepped
  exact ⟨_, _, reached, by decide +kernel, Later.steps 2 _, by decide +kernel, by decide +kernel⟩

end Mailroom
