import Mailroom.Proofs.Engine.Departures
import Mailroom.Proofs.Engine.Retirement
/-! # While an init goes on

The mailbox of an actor whose init is not done collects messages. None of them leaves it before the
init is done, whatever the init does, and the callback of the actor is not invoked.
-/

namespace Mailroom

variable {κ : Type} {number : Nat}

/-- Whether a message leaves a mailbox or the callback of its actor is invoked. -/
def Event.disturbs (number : Nat) : Event → Bool
  | invoked box actor _ => box = number || actor = number
  | dropped (some box) _ _ => box = number
  | _ => false

/-- What happened to an actor or to its mailbox happened to one that there is. -/
theorem Event.Fair.disturbs_size {roster : Roster κ} {event : Event} (fair : event.Fair roster) :
    event.disturbs roster.actors.size = false := by
  have absent {other : Nat} {handle : Handle} (has : roster.handle? other = some handle) :
      other ≠ roster.actors.size := by
    rintro rfl
    exact nomatch roster.handle?_size.symm.trans has
  unfold disturbs
  split
  · obtain ⟨_, belongs, has⟩ := fair
    rw [decide_eq_false (absent belongs), decide_eq_false (absent has)]
    rfl
  · obtain ⟨_, belongs, _⟩ := fair
    exact decide_eq_false (absent belongs)
  · rfl

namespace Roster

variable {roster middle after : Roster κ} {hands : List Nat} {actor box : Nat} {handle : Handle}

/-- Nothing that is new in the journal disturbs an actor. -/
def Spares (number : Nat) (roster after : Roster κ) : Prop :=
  ∀ event ∈ after.past, event.disturbs number = true → event ∈ roster.past

theorem Spares.of_eq (past : after.past = roster.past) : Spares number roster after :=
  fun _ member _ => past ▸ member

theorem Spares.trans (first : Spares number roster middle) (second : Spares number middle after) :
    Spares number roster after :=
  fun event member disturbs => first event (second event member disturbs) disturbs

theorem Spares.of_cons {event : Event} (past : after.past = event :: roster.past)
    (spares : event.disturbs number = false) : Spares number roster after := by
  intro other member disturbs
  obtain rfl | old := List.mem_cons.1 (past ▸ member)
  · exact nomatch spares.symm.trans disturbs
  · exact old

private theorem spares_note (roster : Roster κ) (event : Event)
    (spares : event.disturbs number = false) :
    Spares number roster (roster.note event) := .of_cons rfl spares

private theorem spares_dropAll (roster : Roster κ) (other : box ≠ number) (handle : Handle)
    (reason : DropReason) (messages : List Message) :
    Spares number roster (roster.dropAll box handle reason messages) := by
  induction messages generalizing roster with
  | nil => exact .of_eq rfl
  | cons message messages ih =>
    have dropped : Spares number roster (roster.drop (some box) handle.text reason message) :=
      .of_cons rfl (decide_eq_false other)
    exact dropped.trans (ih _)

private theorem spares_settleBy (roster : Roster κ) (other : box ≠ number)
    (operation : Exchange → Nat → List Message × Exchange) (reason : DropReason)
    (handle : Handle) : Spares number roster (roster.settleBy operation reason box handle) := by
  have settled : Spares number roster
      { roster with exchange := (operation roster.exchange box).2 } := .of_eq rfl
  exact settled.trans (spares_dropAll _ other handle reason _)

/-! ### Lifetimes -/

/-- Who destroys an actor takes nothing out of any mailbox. -/
theorem Sound.spares_destroyUnlessHeld (sound : roster.Sound hands) (actor : Nat) :
    Spares number roster (roster.destroyUnlessHeld actor) := by
  unfold destroyUnlessHeld
  split
  · exact .of_eq rfl
  · have nothing := (Exchange.still_markReleased sound.owned actor).1
    have past : (roster.destroy actor).past =
        .turned (roster.handleOf actor) (roster.moduleOf actor) .destroyed :: roster.past := by
      dsimp only [destroy, Roster.settleBy, overExchange]
      rw [nothing]
      rfl
    exact .of_cons past rfl

private theorem Sound.spares_letGo (sound : roster.Sound hands) (actor : Nat) :
    Spares number roster (roster.letGo actor) := by
  let given := roster.modify actor fun found => { found with guests := found.guests - 1 }
  have sound : given.Sound hands := sound.modify actor fun _ => rfl
  have gives : Spares number roster given := .of_eq rfl
  exact gives.trans (sound.spares_destroyUnlessHeld actor)

private theorem Sound.spares_unlist (sound : roster.Sound hands) (handle : Handle) :
    Spares number roster (roster.unlist handle).2 := by
  have sound := sound.unlist handle
  have unlisted : Spares number roster (roster.overDirectory (·.retire handle)).2 := .of_eq rfl
  unfold Roster.unlist
  split <;> rename_i result <;> rw [result] at sound unlisted
  · exact unlisted
  · exact unlisted.trans (sound.spares_destroyUnlessHeld _)

private theorem Sound.spares_retire (sound : roster.Sound hands) (handle : Handle) :
    Spares number roster (roster.retire handle).2 := by
  unfold Roster.retire
  split
  · exact .of_eq rfl
  · rename_i actor live
    have held : (roster.hold actor).Sound hands := sound.moves (roster.moves_hold actor hands)
    have begun : Spares number roster (roster.hold actor) := .of_eq rfl
    let unlisted := ((roster.hold actor).unlist handle).2
    have without : unlisted.Sound hands := held.moves (moves_unlist _ handle hands)
    have noted := (begun.trans (held.spares_unlist handle)).trans
      (unlisted.spares_note (.turned handle (roster.moduleOf actor) .retired) rfl)
    have retired := without.frame unlisted.outlet
      (.turned handle (roster.moduleOf actor) .retired :: unlisted.past)
    exact noted.trans (retired.spares_letGo actor)

/-! ### Steady changes -/

private theorem Touch.spares (touch : Touch .any roster after) (sound : roster.Sound hands) :
    Spares number roster after := by
  cases touch with
  | note event plain =>
    refine roster.spares_note event ?_
    cases event <;> first | rfl | exact nomatch plain
  | refuse destination reason message => exact .of_cons rfl rfl
  | post live message =>
    unfold Roster.post overExchange
    split <;> rename_i result <;> obtain ⟨_, rfl⟩ := Prod.mk.inj result
    · exact .of_eq rfl
    · exact .of_cons rfl rfl
  | retire handle => exact sound.spares_retire handle
  | rename bound => exact .of_eq rfl
  | modify actor keeps guests counts serves => exact .of_eq rfl

private theorem Steady.spares (steady : roster.Steady .any after) (sound : roster.Sound hands) :
    Spares number roster after := by
  induction steady with
  | refl => exact .of_eq rfl
  | tail before touch ih =>
    exact ih.trans (touch.spares (sound.moves (Steady.moves before hands)))

/-- A creator who takes an actor out of the directory can release its mailbox. -/
theorem Sound.release_unlisted (sound : roster.Sound (actor :: hands)) (reason : DropReason) :
    ((roster.unlist (roster.handleOf actor)).2.release actor (roster.handleOf actor)
      reason).Sound hands := by
  let unlisted := (roster.unlist (roster.handleOf actor)).2
  have same : unlisted.handleOf actor = roster.handleOf actor := by
    dsimp only [unlisted]
    rw [unlist_frame]
    rfl
  have gone : unlisted.isLive actor = false := roster.isLive_unlist_self actor
  have sound : unlisted.Sound (actor :: hands) := sound.moves (roster.moves_unlist _ _)
  have released : Move .any (unlisted, actor :: hands)
      (unlisted.release actor (unlisted.handleOf actor) reason, hands) := .release gone reason
  rw [same] at released
  exact sound.move released

end Roster

namespace Engine

variable {engine : Engine κ} {actor box : Nat} {hands : List Nat}

theorem endLaunch_error (engine : Engine κ) (actor : Nat) (cause : InitError) :
    (engine.endLaunch actor (.error cause)).2 = { engine with
      roster := (((engine.roster.unlist (engine.roster.handleOf actor)).2.release actor
        (engine.roster.handleOf actor) .initFailed).note (.turned (engine.roster.handleOf actor)
          (engine.roster.moduleOf actor) (.initFailed cause.message))).letGo actor } := rfl

private theorem spares_endLaunch (sound : engine.roster.Sound (actor :: hands))
    (other : actor ≠ number) (outcome : Except InitError Unit) :
    Roster.Spares number engine.roster (engine.endLaunch actor outcome).2.roster := by
  let roster := engine.roster
  let handle := roster.handleOf actor
  -- a note on how it went, and then the creator lets go
  have lets {roster : Roster κ} (sound : roster.Sound hands) (turn : Turn) :
      Roster.Spares number roster
        ((roster.note (.turned handle (engine.roster.moduleOf actor) turn)).letGo actor) := by
    let event := Event.turned handle (engine.roster.moduleOf actor) turn
    have noted : Roster.Sound (roster.note event) hands :=
      sound.frame roster.outlet (event :: roster.past)
    exact (roster.spares_note event rfl).trans (noted.spares_letGo actor)
  cases outcome with
  | ok done =>
    have finished : Roster.Spares number roster (roster.finish actor handle) :=
      roster.spares_settleBy other Exchange.finish .retired handle
    have sound : Roster.Sound (roster.finish actor handle) hands := sound.move (.finish actor)
    exact finished.trans (lets sound _)
  | error cause =>
    have unlisted : Roster.Spares number roster (roster.unlist handle).2 :=
      sound.spares_unlist handle
    have released : Roster.Spares number roster
        ((roster.unlist handle).2.release actor handle .initFailed) :=
      unlisted.trans (Roster.spares_settleBy _ other Exchange.release .initFailed handle)
    rw [endLaunch_error]
    dsimp only
    exact released.trans (lets (sound.release_unlisted .initFailed) (.initFailed cause.message))

private theorem spares_endService (sound : engine.roster.Sound hands) (other : box ≠ number)
    (actor : Nat) : Roster.Spares number engine.roster (engine.endService box actor).roster := by
  have given : Roster.Spares number engine.roster (engine.roster.letGo actor) :=
    sound.spares_letGo actor
  exact given.trans
    (Roster.spares_settleBy _ other Exchange.finish .retired (engine.roster.handleOf actor))

end Engine

variable {may : Request → Prop} {start stop : Engine κ × List Claim}

/-- Nothing that happens disturbs an actor whose init was not done before and is not done after it. -/
theorem Happens.spares (happens : Happens .any may start stop) (consistent : Consistent start)
    (distinct : (start.2.map Claim.guest).Nodup) (before : .creation number ∈ start.2)
    (after : .creation number ∈ stop.2) : Roster.Spares number start.1.roster stop.1.roster := by
  have sound := consistent.sound
  -- another claim is on another mailbox and another actor
  have apart {claim : Claim} {claims : List Claim} (all : start.2 = claim :: claims)
      (below : .creation number ∈ claims) : claim.box ≠ number ∧ claim.guest ≠ number := by
    rw [all] at distinct sound
    constructor
    · intro same
      exact sound.owned.not_mem (same ▸ List.mem_map.2 ⟨_, below, rfl⟩)
    · intro same
      exact (List.nodup_cons.1 distinct).1 (same ▸ List.mem_map.2 ⟨_, below, rfl⟩)
  cases happens with
  | work works =>
    cases works with
    | steady steady => exact steady.roster.spares sound
    | exhaust module args behaviour issued => exact .of_eq (Roster.past_enroll ..)
    | create module args behaviour issued =>
      exact .of_cons (congrArg (_ :: ·) (Roster.past_enroll ..)) rfl
    | endLaunch actor outcome => exact Engine.spares_endLaunch sound (apart rfl after).1 outcome
    | endService box actor left => exact Engine.spares_endService sound (apart rfl after).1 actor
  | take allowed taken live => exact nomatch before
  | @invoke engine claims box actor left message exchange found taken seen =>
    have below : .creation number ∈ claims := by simpa using before
    obtain ⟨other, others⟩ := apart rfl below
    have entered : Roster.Spares number engine.roster ((engine.taking exchange).note
        (.entered found.handle found.module (some message.session))).roster := .of_cons rfl rfl
    refine entered.trans (.of_cons rfl ?_)
    exact Bool.or_eq_false_iff.2 ⟨decide_eq_false other, decide_eq_false others⟩
  | @skip engine claims box actor left message exchange found taken seen =>
    have below : .creation number ∈ claims := by simpa using before
    exact .of_cons rfl (decide_eq_false (apart rfl below).1)
  | discard allowed taken gone reason => exact nomatch before
  | subscribe allowed => exact nomatch before
  | observe subscribed copies => exact nomatch before
  | stop allowed => exact nomatch before

/-- No actor whose init is not done was disturbed. -/
def Undisturbed (state : Engine κ × List Claim) : Prop :=
  ∀ number, .creation number ∈ state.2 →
    ∀ event ∈ state.1.roster.past, event.disturbs number = false

private theorem Happens.undisturbed (happens : Happens .any may start stop)
    (undisturbed : Undisturbed start) (consistent : Consistent start)
    (distinct : (start.2.map Claim.guest).Nodup) (recorded : start.1.roster.Recorded) :
    Undisturbed stop := by
  intro number after event member
  by_cases before : .creation number ∈ start.2
  · by_contra disturbs
    rw [Bool.not_eq_false] at disturbs
    have old := happens.spares consistent distinct before after event member disturbs
    exact nomatch disturbs.symm.trans (undisturbed number before event old)
  · cases happens with
    | work works =>
      cases works with
      | @create engine claims handle module args behaviour issued =>
        obtain same | old := List.mem_cons.1 after
        · obtain rfl := Claim.creation.inj same
          obtain rfl | old := List.mem_cons.1 member
          · rfl
          · exact (recorded.fair (Roster.past_enroll .. ▸ old)).disturbs_size
        · exact absurd old before
      | endLaunch actor outcome => exact absurd (List.mem_cons_of_mem _ after) before
      | endService box actor left => exact absurd (List.mem_cons_of_mem _ after) before
      | _ => exact absurd after before
    | take allowed taken live => exact nomatch List.mem_singleton.1 after
    | invoke taken seen => exact absurd (by simpa using after) before
    | skip taken seen => exact absurd (by simpa using after) before
    | _ => exact absurd after before

private theorem Course.undisturbed (course : Course .any may start stop)
    (undisturbed : Undisturbed start)
    (consistent : Consistent start) (distinct : (start.2.map Claim.guest).Nodup)
    (counted : start.1.roster.Counted (start.2.map Claim.guest))
    (recorded : start.1.roster.Recorded) : Undisturbed stop := by
  induction course with
  | refl => exact undisturbed
  | tail before happens ih =>
    exact happens.undisturbed ih (Course.consistent before consistent)
      (Course.distinct before distinct counted consistent)
      (recorded.moves consistent.sound (Course.moves before consistent))

namespace Reachable

variable {config : Config} {modules : List (String × Module κ)} {machine : Machine κ}

theorem undisturbed (reached : Reachable config modules machine) : Undisturbed machine.state := by
  obtain ⟨engine, created, course⟩ := reached.course
  refine Course.undisturbed course (fun _ member => nomatch member)
    (Engine.consistent_create created) List.nodup_nil (Engine.counted_create created)
    (Engine.recorded_create created)

/-- Whatever the mailbox of an actor accepted is in it until its init is done. -/
theorem messages_eq_accepted (reached : Reachable config modules machine)
    (begun : .creation number ∈ machine.state.2) :
    machine.engine.roster.exchange.messages number = machine.engine.roster.accepted number := by
  have none : machine.engine.roster.left number = [] := by
    refine List.filterMap_eq_nil_iff.2 fun event member => ?_
    have spared := reached.undisturbed number begun event (List.mem_reverse.1 member)
    unfold Event.left?
    split
    · exact if_neg (of_decide_eq_false (Bool.or_eq_false_iff.1 spared).1)
    · exact if_neg (of_decide_eq_false spared)
    · rfl
  rw [reached.recorded.kept, none, List.nil_append]

/-- Nobody invokes the callback of an actor before its init is done. -/
theorem invocations_eq_zero (reached : Reachable config modules machine)
    (begun : .creation number ∈ machine.state.2) :
    machine.engine.roster.invocations number = 0 := by
  refine List.countP_eq_zero.2 fun event member invokes => ?_
  have spared := reached.undisturbed number begun event member
  unfold Event.invokes at invokes
  split at invokes
  · exact of_decide_eq_false (Bool.or_eq_false_iff.1 spared).2 (of_decide_eq_true invokes)
  · exact nomatch invokes

end Reachable

end Mailroom
