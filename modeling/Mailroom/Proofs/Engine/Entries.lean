import Mailroom.Proofs.Engine.Runs
/-! # The entries of the journal

Whatever happens adds entries to the journal, and nothing is done to the outlet but by an entry: a dead
letter is recorded, an actor that comes to be takes a copy, and one that is destroyed gives its copy
back. The host alone changes who subscribes.
-/

namespace Mailroom

variable {κ : Type} {scope : Scope} {calls : Prop}

/-- One entry of the journal, with what it does to the outlet. A callback is invoked only if `calls`
holds. -/
inductive Entry (calls : Prop) : Outlet × List Event → Outlet × List Event → Prop where
  | plain {outlet past} (event : Event) (plain : event.isPlain = true) :
    Entry calls (outlet, past) (outlet, event :: past)
  | posted {outlet past} (box : Nat) (message : Message) :
    Entry calls (outlet, past) (outlet, .posted box message :: past)
  | invoked {outlet past} (called : calls) (box actor : Nat) (message : Message) :
    Entry calls (outlet, past) (outlet, .invoked box actor message :: past)
  | dropped {outlet past} (origin : Option Nat) (letter : DeadLetter) :
    Entry calls (outlet, past)
      ((outlet.record letter).2, .dropped origin letter (outlet.record letter).1 :: past)
  | entered {outlet past} (handle : Handle) (module : String) :
    Entry calls (outlet, past) (outlet.copy, .entered handle module none :: past)
  | destroyed {outlet past} (handle : Handle) (module : String) :
    Entry calls (outlet, past) (outlet.dropCopy, .turned handle module .destroyed :: past)

namespace Roster

/-- One roster gets to another by entries of the journal. -/
def Entries (calls : Prop) (roster after : Roster κ) : Prop :=
  Relation.ReflTransGen (Entry calls) (roster.outlet, roster.past) (after.outlet, after.past)

variable {roster middle after : Roster κ} {actor : Nat}

/-- What changes neither the outlet nor the journal needs no entry. -/
theorem Entries.of_eq (outlet : after.outlet = roster.outlet) (past : after.past = roster.past) :
    Entries calls roster after := by
  rw [Entries, outlet, past]

private theorem Entries.of_entry
    (entry : Entry calls (roster.outlet, roster.past) (after.outlet, after.past)) :
    Entries calls roster after := .single entry

theorem Entries.trans (first : Entries calls roster middle) (second : Entries calls middle after) :
    Entries calls roster after := Relation.ReflTransGen.trans first second

theorem entries_note (roster : Roster κ) (event : Event) (plain : event.isPlain = true) :
    Entries calls roster (roster.note event) := .of_entry (.plain event plain)

/-! ### Mailboxes -/

theorem entries_drop (roster : Roster κ) (origin : Option Nat) (destination : String)
    (reason : DropReason) (message : Message) :
    Entries calls roster (roster.drop origin destination reason message) :=
  .of_entry (.dropped origin (.ofMessage destination message reason))

private theorem entries_dropAll (roster : Roster κ) (box : Nat) (handle : Handle)
    (reason : DropReason) (messages : List Message) :
    Entries calls roster (roster.dropAll box handle reason messages) := by
  induction messages generalizing roster with
  | nil => exact .of_eq rfl rfl
  | cons message messages ih => exact (roster.entries_drop ..).trans (ih _)

theorem entries_settleBy (roster : Roster κ) (operation : Exchange → Nat → List Message × Exchange)
    (reason : DropReason) (box : Nat) (handle : Handle) :
    Entries calls roster (roster.settleBy operation reason box handle) := by
  have settled : Entries calls roster
      { roster with exchange := (operation roster.exchange box).2 } := .of_eq rfl rfl
  exact settled.trans (entries_dropAll ..)

private theorem entries_post (roster : Roster κ) (box : Nat) (message : Message) :
    Entries calls roster (roster.post box message).2 := by
  unfold post overExchange
  split <;> rename_i result <;> obtain ⟨_, rfl⟩ := Prod.mk.inj result
  · exact .of_eq rfl rfl
  · exact .of_entry (.posted box message)

/-! ### Lifetimes -/

private theorem entries_destroy (roster : Roster κ) (actor : Nat) :
    Entries calls roster (roster.destroy actor) := by
  let handle := roster.handleOf actor
  have released : Entries calls roster
      (roster.settleBy Exchange.markReleased .retired actor handle) := roster.entries_settleBy ..
  exact released.trans (.of_entry (.destroyed handle (roster.moduleOf actor)))

private theorem entries_destroyUnlessHeld (roster : Roster κ) (actor : Nat) :
    Entries calls roster (roster.destroyUnlessHeld actor) := by
  unfold destroyUnlessHeld
  split
  · exact .of_eq rfl rfl
  · exact roster.entries_destroy actor

private theorem entries_letGo (roster : Roster κ) (actor : Nat) :
    Entries calls roster (roster.letGo actor) := by
  have given : Entries calls roster
      (roster.modify actor fun found => { found with guests := found.guests - 1 }) :=
    .of_eq rfl rfl
  exact given.trans (entries_destroyUnlessHeld _ actor)

private theorem entries_unlist (roster : Roster κ) (handle : Handle) :
    Entries calls roster (roster.unlist handle).2 := by
  unfold unlist overDirectory
  split <;> rename_i result <;> obtain ⟨_, rfl⟩ := Prod.mk.inj result
  · exact .of_eq rfl rfl
  · have retired : Entries calls roster
        { roster with directory := (roster.directory.retire handle).2 } := .of_eq rfl rfl
    exact retired.trans (entries_destroyUnlessHeld ..)

private theorem entries_retire (roster : Roster κ) (handle : Handle) :
    Entries calls roster (roster.retire handle).2 := by
  unfold retire
  split
  · exact .of_eq rfl rfl
  · rename_i actor _
    have held : Entries calls roster (roster.hold actor) := .of_eq rfl rfl
    have unlisted := held.trans (entries_unlist _ handle)
    have noted := unlisted.trans
      (entries_note _ (.turned handle (roster.moduleOf actor) .retired) rfl)
    exact noted.trans (entries_letGo _ actor)

/-! ### Steady changes -/

private theorem Touch.entries (touch : Touch scope roster after) : Entries calls roster after := by
  cases touch with
  | note event plain => exact roster.entries_note event plain
  | refuse destination reason message => exact roster.entries_drop none destination reason message
  | post live message => exact roster.entries_post _ message
  | retire handle => exact roster.entries_retire handle
  | rename bound => exact .of_eq rfl rfl
  | modify actor keeps guests counts serves => exact .of_eq rfl rfl

private theorem Steady.entries (steady : Steady scope roster after) :
    Entries calls roster after := by
  induction steady with
  | refl => exact .of_eq rfl rfl
  | tail _ touch ih => exact ih.trans touch.entries

end Roster

namespace Engine

variable {engine : Engine κ}

private theorem entries_enrolling (module args : String) (behaviour : Instance κ)
    (issued : (engine.roster.directory.register engine.roster.actors.size).1 = none) :
    Roster.Entries calls engine.roster (engine.enrolling module args behaviour).roster := by
  simp only [enrolling, overRoster, Roster.enroll_eq, issued]
  exact .of_eq rfl rfl

private theorem entries_creating {handle : Handle} (module args : String) (behaviour : Instance κ)
    (issued : (engine.roster.directory.register engine.roster.actors.size).1 = some handle) :
    Roster.Entries calls engine.roster (engine.creating module args behaviour).roster := by
  simp only [creating, enrolling, overRoster, Roster.enroll_eq, issued]
  exact .of_entry (.entered _ module)

theorem entries_endLaunch (engine : Engine κ) (actor : Nat) (outcome : Except InitError Unit) :
    Roster.Entries calls engine.roster (engine.endLaunch actor outcome).2.roster := by
  let roster := engine.roster
  let handle := roster.handleOf actor
  cases outcome with
  | ok done =>
    have finished : Roster.Entries calls roster (roster.finish actor handle) :=
      roster.entries_settleBy ..
    have noted := finished.trans (Roster.entries_note _ (.turned handle (roster.moduleOf actor)
      (.launched (((roster.actor? actor).map (·.args)).getD ""))) rfl)
    exact noted.trans (Roster.entries_letGo _ actor)
  | error cause =>
    have unlisted : Roster.Entries calls roster (roster.unlist handle).2 :=
      roster.entries_unlist handle
    have released := unlisted.trans
      (Roster.entries_settleBy _ Exchange.release .initFailed actor handle)
    have noted := released.trans (Roster.entries_note _
      (.turned handle (roster.moduleOf actor) (.initFailed cause.message)) rfl)
    exact noted.trans (Roster.entries_letGo _ actor)

private theorem entries_endService (engine : Engine κ) (box actor : Nat) :
    Roster.Entries calls engine.roster (engine.endService box actor).roster := by
  have given : Roster.Entries calls engine.roster (engine.roster.letGo actor) :=
    engine.roster.entries_letGo actor
  exact given.trans
    (Roster.entries_settleBy _ Exchange.finish .retired box (engine.roster.handleOf actor))

end Engine

variable {may : Request → Prop} {start stop : Engine κ × List Claim}

/-- No callback is invoked by other work. -/
theorem Works.entries (works : Works scope start stop) :
    Roster.Entries calls start.1.roster stop.1.roster := by
  cases works with
  | steady steady => exact steady.roster.entries
  | exhaust module args behaviour issued =>
    exact Engine.entries_enrolling module args behaviour issued
  | create module args behaviour issued =>
    exact Engine.entries_creating module args behaviour issued
  | endLaunch actor outcome => exact Engine.entries_endLaunch _ actor outcome
  | endService box actor left => exact Engine.entries_endService _ box actor

/-- Whatever happens adds entries to the journal, unless it is the host who begins or goes on to
observe dead letters. -/
theorem Happens.entries (happens : Happens scope may start stop) :
    Roster.Entries True start.1.roster stop.1.roster ∨
      ((may .subscribe ∨ start.1.roster.outlet.subscribers ≠ []) ∧
        stop.1.roster.outlet.copies = start.1.roster.outlet.copies ∧
        stop.1.roster.past = start.1.roster.past) := by
  cases happens with
  | work works => exact .inl works.entries
  | take allowed taken live => exact .inl (.of_eq rfl rfl)
  | @invoke engine claims box actor left message exchange found taken seen =>
    have entered : Roster.Entries True engine.roster (engine.roster.note
        (.entered found.handle found.module (some message.session))) :=
      engine.roster.entries_note _ rfl
    exact .inl (entered.trans (.of_entry (.invoked trivial box actor message)))
  | @skip engine claims box actor left message exchange found taken seen =>
    have taken : Roster.Entries True engine.roster (engine.taking exchange).roster :=
      .of_eq rfl rfl
    exact .inl (taken.trans (Roster.entries_drop ..))
  | @discard engine box exchange allowed taken gone reason =>
    have taken : Roster.Entries True engine.roster (engine.taking exchange).roster :=
      .of_eq rfl rfl
    exact .inl (taken.trans (Roster.entries_settleBy ..))
  | subscribe allowed => exact .inr ⟨.inl allowed, Outlet.copies_subscribe .., rfl⟩
  | observe subscribed copies => exact .inr ⟨.inr subscribed, copies, rfl⟩
  | stop allowed => exact .inl (.of_eq rfl rfl)

end Mailroom
