import Mailroom.Proofs.Directory.Room
import Mailroom.Proofs.Engine.Runs
/-! # Retiring whoever is live

Retiring an actor that nobody works with takes no message out of its mailbox, it only marks the
mailbox. The journal tells of each one who retires and of nothing else.
-/

namespace Mailroom

variable {κ : Type}

/-! ### What the journal tells -/

namespace Event

/-- The dead letter that an event tells of, with the mailbox that the message came out of. -/
def letter? : Event → Option (Option Nat × DeadLetter)
  | dropped origin letter _ => some (origin, letter)
  | _ => none

/-- The handle of the actor that an event tells to be retired. -/
def retired? : Event → Option Handle
  | turned handle _ .retired => some handle
  | _ => none

/-- An event that tells of an init or of a callback. -/
def work? : Event → Option Event
  | entered handle module session => some (entered handle module session)
  | invoked box actor message => some (invoked box actor message)
  | _ => none

end Event

namespace Roster

variable {α : Type} {roster middle after : Roster κ} {hands : List Nat} {tells : Event → Option α}

/-- What the journal tells, oldest first. -/
def told (roster : Roster κ) (tells : Event → Option α) : List α :=
  roster.past.reverse.filterMap tells

/-- The dead letters there have been, each with the mailbox that its message came out of. -/
def letters (roster : Roster κ) : List (Option Nat × DeadLetter) := roster.told Event.letter?

/-- The handles of the actors that were retired. -/
def retirements (roster : Roster κ) : List Handle := roster.told Event.retired?

/-- The inits and callbacks that were begun. -/
def work (roster : Roster κ) : List Event := roster.told Event.work?

private theorem told_note (roster : Roster κ) (event : Event) :
    (roster.note event).told tells = roster.told tells ++ (tells event).toList := by
  rw [told, note, List.reverse_cons, List.filterMap_append, ← told, List.filterMap_cons,
    List.filterMap_nil]
  cases tells event <;> rfl

theorem told_note_of_none (roster : Roster κ) {event : Event} (silent : tells event = none) :
    (roster.note event).told tells = roster.told tells := by
  rw [told_note, silent, Option.toList_none, List.append_nil]

theorem told_drop (roster : Roster κ) (origin : Option Nat) (destination : String)
    (reason : DropReason) (message : Message) :
    (roster.drop origin destination reason message).told tells = roster.told tells ++
      (tells (.dropped origin (.ofMessage destination message reason)
        (roster.outlet.record (.ofMessage destination message reason)).1)).toList :=
  told_note { roster with
    outlet := (roster.outlet.record (.ofMessage destination message reason)).2 } _

theorem letters_dropAll (roster : Roster κ) (box : Nat) (handle : Handle) (reason : DropReason)
    (messages : List Message) :
    (roster.dropAll box handle reason messages).letters = roster.letters ++
      messages.map fun message => (some box, .ofMessage handle.text message reason) := by
  induction messages generalizing roster with
  | nil => exact (List.append_nil _).symm
  | cons message messages ih =>
    have dropped : (roster.drop (some box) handle.text reason message).letters =
        roster.letters ++ [(some box, .ofMessage handle.text message reason)] := told_drop ..
    rw [List.map_cons, List.append_cons, ← dropped]
    exact ih _

/-- Dead letters are all that is told of messages that come out of a mailbox. -/
theorem told_dropAll (roster : Roster κ)
    (silent : ∀ origin letter passage, tells (.dropped origin letter passage) = none) (box : Nat)
    (handle : Handle) (reason : DropReason) (messages : List Message) :
    (roster.dropAll box handle reason messages).told tells = roster.told tells := by
  induction messages generalizing roster with
  | nil => rfl
  | cons message messages ih =>
    have dropped : (roster.drop (some box) handle.text reason message).told tells =
        roster.told tells := by
      rw [told_drop, silent, Option.toList_none, List.append_nil]
    rw [← dropped]
    exact ih _

end Roster

/-! ### Retiring -/

namespace Exchange

variable {exchange middle after : Exchange} {hands : List Nat}

/-- Nothing happens to any message, nor to the order of the run queue. -/
structure Still (exchange after : Exchange) : Prop where
  waiting : after.waiting = exchange.waiting
  messages (number : Nat) : after.messages number = exchange.messages number
  handleOf (number : Nat) : after.handleOf number = exchange.handleOf number

theorem Still.refl (exchange : Exchange) : exchange.Still exchange :=
  ⟨rfl, fun _ => rfl, fun _ => rfl⟩

theorem Still.trans (first : exchange.Still middle) (second : middle.Still after) :
    exchange.Still after where
  waiting := second.waiting.trans first.waiting
  messages number := (second.messages number).trans (first.messages number)
  handleOf number := (second.handleOf number).trans (first.handleOf number)

theorem SameOwner.handleOf_eq (same : exchange.SameOwner after) (number : Nat) :
    after.handleOf number = exchange.handleOf number := congrArg (·.getD default) (same.2 number)

/-- When nobody has a mailbox in hands, what has messages waits. -/
theorem Owned.mem_waiting (owned : exchange.Owned []) {number : Nat}
    (filled : exchange.messages number ≠ []) : number ∈ exchange.waiting := by
  cases found : exchange.box? number with
  | none =>
    rw [Exchange.messages, found] at filled
    exact absurd rfl filled
  | some box =>
    rw [messages_eq found] at filled
    have one := owned.one found
    cases scheduled : box.scheduled with
    | false => exact absurd (owned.idle found scheduled) filled
    | true =>
      rw [scheduled, List.count_nil, if_pos rfl] at one
      exact List.count_pos_iff.1 (by omega)

theorem Owned.messages_eq_nil (owned : exchange.Owned []) (idle : exchange.waiting = [])
    (number : Nat) : exchange.messages number = [] := by
  by_contra filled
  have waits := owned.mem_waiting filled
  rw [idle] at waits
  exact nomatch waits

/-- Who marks a mailbox as released takes nothing out of it: if nobody owns it, it is empty. -/
theorem still_markReleased (owned : exchange.Owned hands) (number : Nat) :
    (exchange.markReleased number).1 = [] ∧ exchange.Still (exchange.markReleased number).2 := by
  have nothing : (exchange.markReleased number).1 = [] := by
    cases found : exchange.box? number with
    | none => rw [markReleased, settleBy_of_none found]
    | some box =>
      rw [markReleased, settleBy_eq found, Mailbox.markReleased]
      split
      · rfl
      · rename_i unscheduled
        rw [Mailbox.returned_emptied]
        exact owned.idle found (Bool.eq_false_iff.2 unscheduled)
  have waiting : (exchange.markReleased number).2.waiting = exchange.waiting := by
    cases found : exchange.box? number with
    | none => rw [markReleased, settleBy_of_none found]
    | some box =>
      rw [markReleased, settleBy_eq found, settle_eq, Mailbox.runnable_markReleased]
      rfl
  refine ⟨nothing, waiting, fun other => ?_, fun other => ?_⟩
  · by_cases self : other = number
    · subst self
      have kept : (exchange.markReleased other).1 ++ _ = exchange.messages other :=
        returned_append_messages_settleBy Mailbox.returned_append_toList_markReleased
      rwa [nothing] at kept
    · exact messages_settleBy_of_ne self
  · exact (exchange.sameOwner_markReleased number).handleOf_eq other

end Exchange

namespace Roster

variable {roster middle after : Roster κ} {hands : List Nat} {handle : Handle}
  {handles more : List Handle}

/-- Actors with these handles retire while nobody works with them. -/
structure Departs (roster after : Roster κ) (handles : List Handle) : Prop where
  still : roster.exchange.Still after.exchange
  letters : after.letters = roster.letters
  work : after.work = roster.work
  retirements : after.retirements = roster.retirements ++ handles

theorem Departs.of_eq (exchange : after.exchange = roster.exchange)
    (past : after.past = roster.past) : roster.Departs after [] where
  still := exchange ▸ .refl _
  letters := congrArg (·.reverse.filterMap Event.letter?) past
  work := congrArg (·.reverse.filterMap Event.work?) past
  retirements := (congrArg (·.reverse.filterMap Event.retired?) past).trans (List.append_nil _).symm

theorem Departs.trans (first : roster.Departs middle handles) (second : middle.Departs after more) :
    roster.Departs after (handles ++ more) where
  still := first.still.trans second.still
  letters := second.letters.trans first.letters
  work := second.work.trans first.work
  retirements := by rw [second.retirements, first.retirements, List.append_assoc]

private theorem departs_turned (roster : Roster κ) (handle : Handle) (module : String)
    (turn : Turn) :
    roster.Departs (roster.note (.turned handle module turn))
      (Event.retired? (.turned handle module turn)).toList where
  still := .refl _
  letters := (roster.told_note _).trans (List.append_nil _)
  work := (roster.told_note _).trans (List.append_nil _)
  retirements := roster.told_note _

private theorem Sound.departs_destroyUnlessHeld (sound : roster.Sound hands) (actor : Nat) :
    roster.Departs (roster.destroyUnlessHeld actor) [] := by
  unfold destroyUnlessHeld
  split
  · exact .of_eq rfl rfl
  · let handle := roster.handleOf actor
    obtain ⟨nothing, still⟩ := Exchange.still_markReleased sound.owned actor
    let marked := { roster with exchange := (roster.exchange.markReleased actor).2 }
    have same : roster.settleBy Exchange.markReleased .retired actor handle = marked := by
      have settled : roster.settleBy Exchange.markReleased .retired actor handle =
          marked.dropAll actor handle .retired (roster.exchange.markReleased actor).1 := rfl
      rw [settled, nothing]
      rfl
    have marks : roster.Departs marked [] :=
      ⟨still, rfl, rfl, (List.append_nil _).symm⟩
    let noted := marked.note (.turned handle (roster.moduleOf actor) .destroyed)
    have last : noted.Departs (roster.destroy actor) [] :=
      .of_eq (by rw [destroy, same]) (by rw [destroy, same])
    have destroyed := (marks.trans (marked.departs_turned handle _ .destroyed)).trans last
    exact destroyed

theorem Sound.departs_letGo (sound : roster.Sound hands) (actor : Nat) :
    roster.Departs (roster.letGo actor) [] := by
  let given := roster.modify actor fun found => { found with guests := found.guests - 1 }
  have sound : given.Sound hands := sound.modify actor fun _ => rfl
  have gives : roster.Departs given [] := .of_eq rfl rfl
  exact gives.trans (sound.departs_destroyUnlessHeld actor)

theorem Sound.departs_unlist (sound : roster.Sound hands) (handle : Handle) :
    roster.Departs (roster.unlist handle).2 [] := by
  have sound := sound.unlist handle
  have unlisted : roster.Departs (roster.overDirectory (·.retire handle)).2 [] := .of_eq rfl rfl
  unfold Roster.unlist
  split <;> rename_i result <;> rw [result] at sound unlisted
  · exact unlisted
  · exact unlisted.trans (sound.departs_destroyUnlessHeld _)

theorem Sound.departs_retire (sound : roster.Sound hands) {actor : Nat}
    (live : roster.find? handle = some actor) :
    roster.Departs (roster.retire handle).2 [handle] := by
  let unlisted := ((roster.hold actor).unlist handle).2
  have held : (roster.hold actor).Sound hands := sound.moves (roster.moves_hold actor hands)
  have without : unlisted.Sound hands := held.moves (moves_unlist _ handle hands)
  have begun : roster.Departs (roster.hold actor) [] := .of_eq rfl rfl
  have noted := (begun.trans (held.departs_unlist handle)).trans
    (unlisted.departs_turned handle (roster.moduleOf actor) .retired)
  have retired := without.frame unlisted.outlet
    (.turned handle (roster.moduleOf actor) .retired :: unlisted.past)
  simp only [Roster.retire, live]
  exact noted.trans (retired.departs_letGo actor)

end Roster

namespace Engine

variable {engine after : Engine κ} {box : Nat} {exchange : Exchange}

/-- Whoever is live retires, one after another. -/
theorem departs_foldl_retire {handles : List Handle} (sound : engine.roster.Sound [])
    (nodup : handles.Nodup)
    (live : ∀ handle ∈ handles, ∃ actor, engine.roster.find? handle = some actor) :
    engine.roster.Departs
      (handles.foldl (fun engine handle => (engine.retire handle).2) engine).roster handles := by
  induction handles generalizing engine with
  | nil => exact .of_eq rfl rfl
  | cons handle rest ih =>
    obtain ⟨fresh, nodup⟩ := List.nodup_cons.1 nodup
    obtain ⟨actor, found⟩ := live handle List.mem_cons_self
    have retired : engine.roster.Departs (engine.retire handle).2.roster [handle] :=
      sound.departs_retire found
    have after : (engine.retire handle).2.roster.Sound [] :=
      sound.moves (engine.roster.moves_retire handle [])
    refine retired.trans (ih after nodup fun other member => ?_)
    obtain ⟨number, found⟩ := live other (List.mem_cons_of_mem _ member)
    have apart : other ≠ handle := by
      rintro rfl
      exact fresh member
    exact ⟨number, ((engine.roster.find?_retire handle other).trans (if_neg apart)).trans found⟩

/-- Once all who are live have retired nobody is. -/
theorem find?_retireAll (placed : engine.roster.directory.slots.Placed) (handle : Handle) :
    (engine.roster.directory.handles.foldl (fun engine handle => (engine.retire handle).2)
      engine).roster.find? handle = none := by
  rw [find?_foldl_retire]
  split
  · rfl
  · rename_i absent
    have nobody := (Directory.mem_handles_iff engine.roster.directory handle placed).not.1 absent
    exact Option.eq_none_iff_forall_ne_some.2 (not_exists.1 nobody)

end Engine

end Mailroom
