import Mailroom.Proofs.Engine.Scheduling
/-! # No message is lost

The journal says which messages a mailbox accepted and which left it, for a callback or as dead
letters. In every state of every run, what a mailbox accepted is what left it and then what is in it,
in this order.
-/

namespace Mailroom

variable {κ : Type}

namespace Event

/-- The message that an event puts into a mailbox. -/
def accepted? (box : Nat) : Event → Option Message
  | posted other message => if other = box then some message else none
  | _ => none

/-- The message that an event takes out of a mailbox. -/
def left? (box : Nat) : Event → Option Message
  | invoked other _ message => if other = box then some message else none
  | dropped (some other) letter _ => if other = box then some letter.message else none
  | _ => none

/-- What leaves a mailbox goes to an actor that has its handle, or is addressed to its handle. -/
def Fair (roster : Roster κ) : Event → Prop
  | invoked box actor _ =>
    ∃ handle, roster.handle? box = some handle ∧ roster.handle? actor = some handle
  | dropped (some box) letter _ =>
    ∃ handle, roster.handle? box = some handle ∧ letter.destination = handle.text
  | _ => True

theorem of_isSilent {event : Event} (silent : event.isSilent = true) (box : Nat) :
    event.accepted? box = none ∧ event.left? box = none := by
  cases event <;> first | exact ⟨rfl, rfl⟩ | exact nomatch silent

private theorem fair_of_isSilent {roster : Roster κ} {event : Event}
    (silent : event.isSilent = true) : event.Fair roster := by
  cases event <;> first | exact trivial | exact nomatch silent

theorem Fair.mono {roster after : Roster κ} {event : Event} (fair : event.Fair roster)
    (keeps : ∀ number handle, roster.handle? number = some handle →
      after.handle? number = some handle) : event.Fair after := by
  unfold Fair at fair ⊢
  split
  · obtain ⟨handle, belongs, has⟩ := fair
    exact ⟨handle, keeps _ _ belongs, keeps _ _ has⟩
  · obtain ⟨handle, belongs, addressed⟩ := fair
    exact ⟨handle, keeps _ _ belongs, addressed⟩
  · trivial

end Event

namespace Roster

variable {roster after : Roster κ} {hands : List Nat}

/-- The messages that a mailbox accepted, the first one in front. -/
def accepted (roster : Roster κ) (box : Nat) : List Message :=
  roster.past.reverse.filterMap (Event.accepted? box)

/-- The messages that left a mailbox, the first one in front. -/
def left (roster : Roster κ) (box : Nat) : List Message :=
  roster.past.reverse.filterMap (Event.left? box)

/-- The journal accounts for every message. -/
structure Recorded (roster : Roster κ) : Prop where
  kept (box : Nat) : roster.accepted box = roster.left box ++ roster.exchange.messages box
  fair {event : Event} (member : event ∈ roster.past) : event.Fair roster

/-- Events that account for how the messages in mailboxes change keep the journal complete. -/
theorem Recorded.happen (recorded : roster.Recorded) (events : List Event)
    (past : after.past = events.reverse ++ roster.past)
    (keeps : ∀ number handle, roster.handle? number = some handle →
      after.handle? number = some handle)
    (fair : ∀ event ∈ events, event.Fair after)
    (kept : ∀ box, roster.exchange.messages box ++ events.filterMap (Event.accepted? box) =
      events.filterMap (Event.left? box) ++ after.exchange.messages box) : after.Recorded where
  kept box := by
    rw [accepted, left, past, List.reverse_append, List.reverse_reverse, List.filterMap_append,
      List.filterMap_append, ← accepted, ← left, recorded.kept, List.append_assoc, kept,
      List.append_assoc]
  fair {event} member := by
    rw [past, List.mem_append, List.mem_reverse] at member
    obtain new | old := member
    · exact fair event new
    · exact (recorded.fair old).mono keeps

/-- Nothing happens to a message. -/
theorem Recorded.quiet (recorded : roster.Recorded) (past : after.past = roster.past)
    (keeps : ∀ number handle, roster.handle? number = some handle →
      after.handle? number = some handle)
    (kept : ∀ box, after.exchange.messages box = roster.exchange.messages box) : after.Recorded :=
  recorded.happen [] past keeps (fun _ member => nomatch member) fun box => by
    rw [kept, List.filterMap_nil, List.filterMap_nil, List.append_nil, List.nil_append]

/-- The messages that come out of a mailbox become dead letters of its handle, in order. -/
theorem past_dropAll (roster : Roster κ) (box : Nat) (handle : Handle) (reason : DropReason)
    (messages : List Message) :
    ∃ events : List Event,
      (roster.dropAll box handle reason messages).past = events.reverse ++ roster.past ∧
      (∀ event ∈ events, ∃ letter passage,
        event = .dropped (some box) letter passage ∧ letter.destination = handle.text) ∧
      ∀ other, events.filterMap (Event.accepted? other) = [] ∧
        events.filterMap (Event.left? other) = if box = other then messages else [] := by
  induction messages generalizing roster with
  | nil => exact ⟨[], rfl, fun _ member => (nomatch member), fun _ => ⟨rfl, by simp⟩⟩
  | cons message messages ih =>
    obtain ⟨events, past, addressed, moved⟩ :=
      ih (roster.drop (some box) handle.text reason message)
    let letter := DeadLetter.ofMessage handle.text message reason
    refine ⟨.dropped (some box) letter (roster.outlet.record letter).1 :: events, ?_, ?_, ?_⟩
    · rw [List.reverse_cons, List.append_assoc]
      exact past
    · exact List.forall_mem_cons.2 ⟨⟨letter, _, rfl, rfl⟩, addressed⟩
    · intro other
      rw [List.filterMap_cons_none rfl, List.filterMap_cons, (moved other).1, (moved other).2]
      by_cases same : box = other <;> simp [Event.left?, same, letter]

/-- An operation that returns messages of a mailbox turns just those into dead letters. -/
theorem Recorded.settleBy (recorded : roster.Recorded) (sound : roster.Sound hands)
    {operation : Mailbox → Settlement} (reason : DropReason) (number : Nat)
    (kept : ∀ box, (operation box).returned ++ (operation box).box.messages.toList =
      box.messages.toList) :
    (roster.settleBy (Exchange.settleBy operation) reason number
      (roster.handleOf number)).Recorded := by
  let settled := Exchange.settleBy operation roster.exchange number
  have frame := roster.settleBy_frame number (roster.handleOf number)
    (Exchange.settleBy operation) reason
  have messages (box : Nat) : (roster.settleBy (Exchange.settleBy operation) reason number
      (roster.handleOf number)).exchange.messages box = settled.2.messages box := by
    rw [frame]
  have handles (box : Nat) : (roster.settleBy (Exchange.settleBy operation) reason number
      (roster.handleOf number)).handle? box = roster.handle? box := by
    rw [frame]
    rfl
  obtain ⟨events, past, addressed, moved⟩ := past_dropAll { roster with exchange := settled.2 }
    number (roster.handleOf number) reason settled.1
  refine recorded.happen events past (fun box handle has => (handles box).trans has) ?_ ?_
  · intro event member
    obtain ⟨letter, passage, rfl, destination⟩ := addressed event member
    cases found : roster.exchange.box? number with
    | none =>
      -- nothing comes out of a mailbox that does not exist
      have empty : settled.1 = [] := congrArg Prod.fst (Exchange.settleBy_of_none found)
      have gone := (moved number).2
      rw [if_pos rfl, empty, List.filterMap_eq_nil_iff] at gone
      exact nomatch (gone _ member).symm.trans (if_pos rfl)
    | some box =>
      exact ⟨_, (handles number).trans (sound.handle?_eq_handleOf found), destination⟩
  · intro box
    rw [(moved box).1, (moved box).2, List.append_nil, messages]
    by_cases same : number = box
    · subst same
      rw [if_pos rfl]
      exact (Exchange.returned_append_messages_settleBy kept).symm
    · rw [if_neg same, Exchange.messages_settleBy_of_ne (Ne.symm same)]
      rfl

private theorem Recorded.post (recorded : roster.Recorded) (number : Nat) (message : Message) :
    (roster.post number message).2.Recorded := by
  obtain same | ⟨box, settlement, found, posted, same⟩ :=
    roster.exchange.post_cases number message
  · have refused : (roster.post number message).2 = roster := by
      simp only [Roster.post, overExchange, same]
    rwa [refused]
  · have accepted : (roster.post number message).2 =
        { roster with exchange := roster.exchange.settle number settlement }.note
          (.posted number message) := by
      simp only [Roster.post, overExchange, same]
    rw [accepted]
    refine recorded.happen [.posted number message] rfl (fun _ _ has => has) ?_ fun other => ?_
    · exact List.forall_mem_singleton.2 trivial
    · by_cases own : other = number
      · subst own
        have put : [Event.posted other message].filterMap (Event.accepted? other) = [message] := by
          simp [Event.accepted?]
        rw [put, ← Exchange.messages_post_self same]
        rfl
      · have put : [Event.posted number message].filterMap (Event.accepted? other) = [] := by
          simp [Event.accepted?, Ne.symm own]
        have kept : (roster.exchange.post number message).2.messages other = _ :=
          Exchange.messages_post_of_ne own message
        rw [same] at kept
        rw [put, List.append_nil, ← kept]
        rfl

/-- A message that leaves a mailbox on its own leaves it for an actor of its handle, or as a dead
letter of its handle. -/
theorem Recorded.take (recorded : roster.Recorded) {number : Nat} {message : Message}
    {exchange : Exchange} (taken : roster.exchange.take number = (some message, exchange))
    {event : Event} (past : after.past = event :: roster.past)
    (actors : after.actors = roster.actors) (rest : after.exchange = exchange)
    (fair : event.Fair roster) (outside : ∀ box, event.accepted? box = none)
    (leaves : ∀ box, event.left? box = if number = box then some message else none) :
    after.Recorded := by
  have keeps (box : Nat) (handle : Handle) (has : roster.handle? box = some handle) :
      after.handle? box = some handle := by
    rwa [handle?, actor?, actors]
  refine recorded.happen [event] past keeps ?_ fun other => ?_
  · exact List.forall_mem_singleton.2 (fair.mono keeps)
  · by_cases own : number = other
    · subst own
      simpa [outside, leaves, rest] using Exchange.messages_take_self taken
    · have kept : (roster.exchange.take number).2.messages other = _ :=
        Exchange.messages_take_of_ne (Ne.symm own)
      rw [taken] at kept
      simpa [outside, leaves, rest, own] using kept.symm

/-- Every move keeps the journal complete. -/
theorem Recorded.move {start stop : Roster κ × List Nat} (recorded : start.1.Recorded)
    (sound : start.1.Sound start.2) (move : Move .any start stop) : stop.1.Recorded := by
  have keeps (number : Nat) (handle : Handle) (has : start.1.handle? number = some handle) :
      stop.1.handle? number = some handle := move.handle?_eq_some has
  cases move with
  | note event silent =>
    refine recorded.happen [event] rfl keeps ?_ fun box => ?_
    · exact List.forall_mem_singleton.2 (Event.fair_of_isSilent silent)
    · simp [Event.of_isSilent silent, note]
  | refuse destination reason message =>
    refine recorded.happen [.dropped none _ _] rfl keeps ?_ fun box => ?_
    · exact List.forall_mem_singleton.2 trivial
    · exact List.append_nil _
  | post live message => exact recorded.post _ message
  | finish box =>
    exact recorded.settleBy sound .retired box Mailbox.returned_append_toList_finish
  | release gone reason =>
    exact recorded.settleBy sound reason _ Mailbox.returned_append_toList_release
  | markReleased gone =>
    exact recorded.settleBy sound .retired _ Mailbox.returned_append_toList_markReleased
  | next allowed taken => exact recorded.quiet rfl keeps (Exchange.messages_of_next? taken)
  | invoke taken belongs has =>
    exact recorded.take taken rfl rfl rfl ⟨_, belongs, has⟩ (fun _ => rfl) fun _ => rfl
  | @skip roster hands box message exchange taken =>
    obtain none | ⟨_, _, _, found, _⟩ := roster.exchange.take_cases box
    · exact nomatch taken.symm.trans none
    · have belongs := sound.handle?_eq_handleOf found
      exact recorded.take taken rfl rfl rfl ⟨_, belongs, rfl⟩ (fun _ => rfl) fun _ => rfl
  | @enroll roster hands module args behaviour capacity =>
    refine recorded.quiet (roster.past_enroll ..) keeps fun box => ?_
    rw [enroll_eq]
    dsimp only
    split
    · rfl
    · exact Exchange.messages_add ..
  | unlist handle => exact recorded.quiet rfl keeps fun _ => rfl
  | rename bound => exact recorded.quiet rfl keeps fun _ => rfl
  | modify actor same => exact recorded.quiet rfl keeps fun _ => rfl
  | outlet outlet => exact recorded.quiet rfl keeps fun _ => rfl

theorem Recorded.moves {start stop : Roster κ × List Nat} (recorded : start.1.Recorded)
    (sound : start.1.Sound start.2) (moves : Moves .any start stop) : stop.1.Recorded := by
  induction moves with
  | refl => exact recorded
  | tail before move ih => exact ih.move (sound.moves before) move

/-- Two actors have one handle only if the handle was issued twice. -/
theorem handle?_inj (unique : (roster.actors.toList.map (·.handle)).Nodup) {first second : Nat}
    {handle : Handle} (has : roster.handle? first = some handle)
    (has' : roster.handle? second = some handle) : first = second := by
  have view (number : Nat) :
      roster.handle? number = (roster.actors.toList.map (·.handle))[number]? := by
    rw [handle?, actor?, List.getElem?_map, Array.getElem?_toList]
  have known : first < (roster.actors.toList.map (·.handle)).length :=
    (List.getElem?_eq_some_iff.1 ((view first).symm.trans has)).1
  exact (List.getElem?_inj known unique).1 (by rw [← view, ← view, has, has'])

end Roster

theorem Engine.recorded_create {config : Config} {modules : List (String × Module κ)}
    {engine : Engine κ} (created : create config modules = .ok engine) :
    engine.roster.Recorded := by
  have silent (event : Event) (member : event ∈ engine.roster.past) : event.isSilent = true :=
    Event.isSilent_of_isPlain (plain_create created event member)
  have empty (box : Nat) : engine.roster.exchange.messages box = [] := by
    rw [roster_of_create created]
    rfl
  have past (box : Nat) : engine.roster.accepted box = [] ∧ engine.roster.left box = [] := by
    simp only [Roster.accepted, Roster.left, List.filterMap_eq_nil_iff, List.mem_reverse]
    exact ⟨fun event member => (Event.of_isSilent (silent event member) box).1,
      fun event member => (Event.of_isSilent (silent event member) box).2⟩
  exact {
    kept := fun box => by rw [(past box).1, (past box).2, empty]; rfl
    fair := fun member => Event.fair_of_isSilent (silent _ member) }

namespace Reachable

variable {config : Config} {modules : List (String × Module κ)} {machine : Machine κ}

theorem recorded (reached : Reachable config modules machine) :
    machine.engine.roster.Recorded := by
  obtain ⟨engine, created, course⟩ := reached.course
  have begun := Engine.consistent_create created
  exact (Engine.recorded_create created).moves begun.sound (Course.moves course begun)

end Reachable

end Mailroom
