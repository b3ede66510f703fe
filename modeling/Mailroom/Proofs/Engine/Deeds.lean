import Mailroom.Proofs.Engine.Sparing
/-! # What one step does

A step that passes one message on may invoke a callback, and only such a step ever takes a message
out of the mailbox of an actor that stays live. Other work does neither.
-/

namespace Mailroom

variable {κ : Type}

/-! ### Callbacks that were invoked -/

/-- Whether an event is that a callback is invoked. -/
def Event.isCall : Event → Bool
  | invoked _ _ _ => true
  | _ => false

/-- How many callbacks were invoked. -/
def Roster.calls (roster : Roster κ) : Nat := roster.past.countP Event.isCall

theorem Roster.Entries.calls_eq {roster after : Roster κ} (entries : Entries False roster after) :
    after.calls = roster.calls := by
  refine entries.countP_eq fun event call => ?_
  cases event with
  | invoked box actor message => exact ⟨box, actor, message, rfl⟩
  | _ => cases call

namespace Engine

variable (engine : Engine κ) (exchange : Exchange) (found : Actor κ) (box actor : Nat)
  (message : Message)

theorem calls_skip :
    Roster.calls ((engine.taking exchange).mapRoster
      (·.drop (some box) found.handle.text .noCallback message)).roster = engine.roster.calls := by
  have dropped : Roster.Entries False engine.roster
      ((engine.taking exchange).roster.drop (some box) found.handle.text .noCallback message) :=
    Roster.entries_drop { engine.roster with exchange } ..
  exact dropped.calls_eq

theorem calls_invoke :
    Roster.calls (((engine.taking exchange).note
      (.entered found.handle found.module (some message.session))).note
        (.invoked box actor message)).roster = engine.roster.calls + 1 := by
  let entered := (engine.taking exchange).roster.note
    (.entered found.handle found.module (some message.session))
  have same : entered.calls = engine.roster.calls := List.countP_cons_of_neg nofun
  exact same ▸ List.countP_cons_of_pos rfl

end Engine

namespace Machine

/-- The work in progress says how many callbacks its steps invoke. -/
theorem Deed.calls_eq {machine after : Machine κ} (deed : Deed .any machine after) :
    after.engine.roster.calls + machine.calls = machine.engine.roster.calls + after.calls := by
  cases deed with
  | work works same =>
    have entries : Roster.Entries False machine.engine.roster after.engine.roster := works.entries
    rw [entries.calls_eq, same]
  | @serve engine exchange rest found box actor left invoked message seen took =>
    unfold Machine.serve
    split
    · exact congrArg (· + _) (engine.calls_skip exchange found box message)
    · refine (congrArg (· + _) (engine.calls_invoke exchange found box actor message)).trans ?_
      simp only [Machine.calls, List.map_cons, List.sum_cons, Task.calls]
      omega

end Machine

/-! ### Messages stay -/

namespace Exchange

variable {exchange : Exchange} {number : Nat}

/-- Nothing comes out of a mailbox to which a message is appended. -/
theorem messages_post_prefix (exchange : Exchange) (number other : Nat) (message : Message) :
    exchange.messages other <+: (exchange.post number message).2.messages other := by
  by_cases same : other = number
  · subst same
    rcases posted : exchange.post other message with ⟨_ | _, rest⟩
    · obtain same | ⟨_, _, _, _, same⟩ := exchange.post_cases other message
      · obtain ⟨_, rfl⟩ := Prod.mk.inj (posted.symm.trans same)
        exact List.prefix_rfl
      · cases posted.symm.trans same
    · exact messages_post_self posted ▸ List.prefix_append ..
  · rw [messages_post_of_ne same]

/-- Who lets go of a mailbox that is not released takes nothing out of it. -/
theorem messages_finish (accepting : exchange.isReleased number = false) :
    (exchange.finish number).2.messages number = exchange.messages number := by
  cases found : exchange.box? number with
  | none => rw [finish, settleBy_of_none found]
  | some box =>
    rw [isReleased, found] at accepting
    rw [finish, settleBy_eq found, messages_eq (box?_settle_self found _), messages_eq found,
      Mailbox.finish, if_neg (Bool.not_eq_true _ ▸ accepting)]
    split <;> rfl

end Exchange

namespace Roster

variable {roster after : Roster κ} {hands : List Nat} {number : Nat}

private theorem Touch.retains (touch : Touch .any roster after) (sound : roster.Sound hands)
    (number : Nat) :
    roster.exchange.messages number <+: after.exchange.messages number := by
  cases touch with
  | note event plain => exact List.prefix_rfl
  | refuse destination reason message => exact List.prefix_rfl
  | post live message =>
    rw [post_frame]
    exact Exchange.messages_post_prefix ..
  | retire handle =>
    cases found : roster.find? handle with
    | none =>
      simp only [Roster.retire, found]
      exact List.prefix_rfl
    | some actor => rw [(sound.departs_retire found).still.messages]
  | rename bound => exact List.prefix_rfl
  | modify actor keeps guests counts serves => exact List.prefix_rfl

/-- No message is taken out of a mailbox by what happens whoever has it in hands. -/
theorem Steady.retains (steady : roster.Steady .any after) (sound : roster.Sound hands)
    (number : Nat) :
    roster.exchange.messages number <+: after.exchange.messages number := by
  induction steady with
  | refl => exact List.prefix_rfl
  | tail before touch ih =>
    exact ih.trans (touch.retains (sound.moves (Steady.moves before hands)) number)

private theorem isLive_letGo (roster : Roster κ) (actor number : Nat) :
    (roster.letGo actor).isLive number = roster.isLive number := by
  have handles : (roster.letGo actor).handleOf number = roster.handleOf number := by
    rw [letGo, destroyUnlessHeld_frame]
    refine congrArg (·.getD default) (roster.handle?_modify actor ?_ number)
    exact fun _ => rfl
  rw [isLive, handles, find?_letGo, isLive]

private theorem Sound.messages_letGo (sound : roster.Sound hands) (actor number : Nat) :
    (roster.letGo actor).exchange.messages number = roster.exchange.messages number :=
  (sound.departs_letGo actor).still.messages number

private theorem Sound.accepting_of_isLive (sound : roster.Sound hands)
    (live : roster.isLive number = true) : roster.exchange.isReleased number = false :=
  sound.accepting (of_decide_eq_true live)

/-- Who lets go of a mailbox takes nothing out of that of a live actor. -/
theorem Sound.messages_finish (sound : roster.Sound hands) (live : roster.isLive number = true)
    (box : Nat) (handle : Handle) :
    (roster.finish box handle).exchange.messages number = roster.exchange.messages number := by
  rw [Roster.finish, settleBy_frame]
  by_cases same : number = box
  · subst same
    exact Exchange.messages_finish (sound.accepting_of_isLive live)
  · exact Exchange.messages_settleBy_of_ne same

end Roster

namespace Engine

variable {engine after : Engine κ} {hands : List Nat} {number : Nat}

private theorem messages_endLaunch {actor : Nat} (sound : engine.roster.Sound (actor :: hands))
    (outcome : Except InitError Unit)
    (live : (engine.endLaunch actor outcome).2.roster.isLive number = true) :
    (engine.endLaunch actor outcome).2.roster.exchange.messages number =
      engine.roster.exchange.messages number := by
  let roster := engine.roster
  let handle := roster.handleOf actor
  -- a note on how it went, and then the creator lets go
  have lets {roster : Roster κ} (sound : roster.Sound hands) (turn : Turn) :
      ((roster.note (.turned handle (engine.roster.moduleOf actor) turn)).letGo
        actor).exchange.messages number = roster.exchange.messages number := by
    let event := Event.turned handle (engine.roster.moduleOf actor) turn
    have noted : Roster.Sound (roster.note event) hands :=
      sound.frame roster.outlet (event :: roster.past)
    exact noted.messages_letGo actor number
  cases outcome with
  | ok done =>
    let turn := Turn.launched (((roster.actor? actor).map (·.args)).getD "")
    have finished : Roster.Sound (roster.finish actor handle) hands := sound.move (.finish actor)
    have keeps : Roster.isLive (((roster.finish actor handle).note
        (.turned handle (roster.moduleOf actor) turn)).letGo actor) number =
          roster.isLive number := by
      rw [Roster.isLive_letGo, Roster.finish, Roster.settleBy_frame]
      rfl
    exact (lets finished turn).trans (sound.messages_finish (keeps.symm.trans live) actor handle)
  | error cause =>
    let unlisted := (roster.unlist handle).2
    let turn := Turn.initFailed cause.message
    have keeps : Roster.isLive (((unlisted.release actor handle .initFailed).note
        (.turned handle (roster.moduleOf actor) turn)).letGo actor) number =
          unlisted.isLive number := by
      rw [Roster.isLive_letGo, Roster.release, Roster.settleBy_frame]
      rfl
    have other : number ≠ actor := by
      rintro rfl
      cases (keeps.symm.trans live).symm.trans (roster.isLive_unlist_self number)
    have released : (unlisted.release actor handle .initFailed).exchange.messages number =
        unlisted.exchange.messages number := by
      rw [Roster.release, Roster.settleBy_frame]
      exact Exchange.messages_settleBy_of_ne other
    have unlists := (sound.departs_unlist handle).still.messages number
    exact (lets (sound.release_unlisted .initFailed) turn).trans (released.trans unlists)

/-- Who is done with servicing a mailbox takes nothing out of that of a live actor. -/
theorem messages_endService (sound : engine.roster.Sound hands) (box actor : Nat)
    (live : (engine.endService box actor).roster.isLive number = true) :
    (engine.endService box actor).roster.exchange.messages number =
      engine.roster.exchange.messages number := by
  let given := engine.roster.letGo actor
  have given_sound : given.Sound hands := sound.moves (engine.roster.moves_letGo actor hands)
  have keeps : Roster.isLive (given.finish box (engine.roster.handleOf actor)) number =
      given.isLive number := by
    rw [Roster.finish, Roster.settleBy_frame]
    rfl
  exact (given_sound.messages_finish (keeps.symm.trans live) ..).trans
    (sound.messages_letGo actor number)

end Engine

/-- Nothing is taken out of the mailbox of a live actor unless a message is passed on. -/
theorem Works.retains {start stop : Engine κ × List Claim} {number : Nat}
    (works : Works .any start stop) (sound : start.1.roster.Sound (start.2.map Claim.box))
    (live : stop.1.roster.isLive number = true) :
    start.1.roster.exchange.messages number <+: stop.1.roster.exchange.messages number := by
  cases works with
  | steady steady => exact steady.roster.retains sound number
  | exhaust module args behaviour issued =>
    simp only [Engine.enrolling, Engine.overRoster,
      Roster.enroll_of_none module args behaviour _ issued]
    exact List.prefix_rfl
  | create module args behaviour issued =>
    simp only [Engine.creating, Engine.enrolling, Engine.overRoster,
      Roster.enroll_of_issued module args behaviour _ issued]
    exact (Exchange.messages_add ..).symm ▸ List.prefix_rfl
  | @endLaunch engine claims actor outcome =>
    have sound : engine.roster.Sound (actor :: claims.map Claim.box) := sound
    exact (Engine.messages_endLaunch sound outcome live).symm ▸ List.prefix_rfl
  | endService box actor left =>
    exact (Engine.messages_endService sound box actor live).symm ▸ List.prefix_rfl

end Mailroom
