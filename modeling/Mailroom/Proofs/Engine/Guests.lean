import Mailroom.Proofs.Engine.Runs
import Mathlib.Data.Finset.Card
import Mathlib.Data.Finset.Range
/-! # Who refers to an actor

An actor has as many guests as there are claims on it, and the outlet has as many copies as there are
actors that somebody refers to. So nobody is destroyed while somebody works with it, and everybody is
as soon as the last reference goes.
-/

namespace Mailroom

variable {κ : Type}

namespace Roster

/-- The actors that are live or have a guest. -/
def held (roster : Roster κ) : Finset Nat :=
  (Finset.range roster.actors.size).filter fun actor => roster.isHeld actor

/-- The actors have the given guests. -/
structure Hosts (roster : Roster κ) (guests : List Nat) : Prop where
  counted {number : Nat} {found : Actor κ} (registered : roster.actor? number = some found) :
    found.guests = guests.count number
  registered {number : Nat} (member : number ∈ guests) : number < roster.actors.size

/-- The outlet has a copy for each of those who are live or have one of the given guests. -/
structure Counted (roster : Roster κ) (guests : List Nat) : Prop where
  hosts : roster.Hosts guests
  copies : roster.outlet.copies = roster.held.card

variable {roster after : Roster κ} {hands guests left : List Nat} {number actor : Nat}
  {handle : Handle}

theorem Sound.lt_of_find? (sound : roster.Sound hands) (live : roster.find? handle = some number) :
    number < roster.actors.size := by
  by_contra beyond
  have nobody : roster.handle? number = none := by
    rw [handle?, actor?, Array.getElem?_eq_none (Nat.le_of_not_lt beyond)]
    rfl
  cases nobody.symm.trans (sound.listed live)

theorem Sound.isLive_of_find? (sound : roster.Sound hands)
    (live : roster.find? handle = some number) : roster.isLive number = true := by
  have own : roster.handleOf number = handle := by
    rw [handleOf_eq, sound.listed live]
    rfl
  rw [isLive, own, live]
  exact decide_eq_true rfl

theorem Hosts.mem_held_iff (hosts : roster.Hosts guests) :
    number ∈ roster.held ↔
      number < roster.actors.size ∧ (roster.isLive number = true ∨ number ∈ guests) := by
  rw [held, Finset.mem_filter, Finset.mem_range]
  refine and_congr_right fun known => ?_
  have registered : roster.actor? number = some roster.actors[number] :=
    Array.getElem?_eq_getElem known
  rw [isHeld, registered, Option.any_some, hosts.counted registered, Bool.or_eq_true,
    decide_eq_true_iff, List.count_pos_iff]

/-- Who is held depends on who is live and on the actors. -/
theorem held_congr (finds : ∀ handle, after.find? handle = roster.find? handle)
    (actors : after.actors = roster.actors) : after.held = roster.held := by
  have handles (number : Nat) : after.handleOf number = roster.handleOf number := by
    rw [handleOf, handleOf, actor?, actor?, actors]
  have same (number : Nat) : after.isHeld number = roster.isHeld number := by
    simp only [isHeld, isLive, finds, handles, actor?, actors]
  simp only [held, actors, same]

theorem Hosts.congr (hosts : roster.Hosts guests) (actors : after.actors = roster.actors) :
    after.Hosts guests where
  counted registered := hosts.counted (by rwa [actor?, actors] at registered)
  registered member := actors ▸ hosts.registered member

private theorem Counted.frame (counted : roster.Counted guests)
    (finds : ∀ handle, after.find? handle = roster.find? handle)
    (actors : after.actors = roster.actors)
    (copies : after.outlet.copies = roster.outlet.copies) : after.Counted guests where
  hosts := counted.hosts.congr actors
  copies := by rw [copies, held_congr finds actors, counted.copies]

/-! ### Mailboxes -/

private theorem copies_dropAll (roster : Roster κ) (box : Nat) (handle : Handle)
    (reason : DropReason) (messages : List Message) :
    (roster.dropAll box handle reason messages).outlet.copies = roster.outlet.copies := by
  induction messages generalizing roster with
  | nil => rfl
  | cons message messages ih =>
    refine (ih (roster.drop (some box) handle.text reason message)).trans ?_
    exact roster.outlet.copies_record _

private theorem copies_settleBy (roster : Roster κ)
    (operation : Exchange → Nat → List Message × Exchange) (reason : DropReason) (box : Nat)
    (handle : Handle) :
    (roster.settleBy operation reason box handle).outlet.copies = roster.outlet.copies :=
  copies_dropAll { roster with exchange := (operation roster.exchange box).2 } ..

private theorem Counted.settleBy (counted : roster.Counted guests)
    (operation : Exchange → Nat → List Message × Exchange) (reason : DropReason) (box : Nat)
    (handle : Handle) : (roster.settleBy operation reason box handle).Counted guests := by
  refine counted.frame (fun other => ?_) ?_ (roster.copies_settleBy ..)
  · rw [settleBy_frame]
    rfl
  · rw [settleBy_frame]

/-! ### Lifetimes -/

/-- An actor that lost a reference is destroyed if nobody refers to it, and with it goes its copy. -/
theorem Hosts.destroyUnlessHeld (hosts : roster.Hosts guests) (known : actor < roster.actors.size)
    (copies : roster.outlet.copies = (insert actor roster.held).card) :
    (roster.destroyUnlessHeld actor).Counted guests := by
  unfold Roster.destroyUnlessHeld
  split
  · rename_i isHeld
    have member : actor ∈ roster.held := Finset.mem_filter.2 ⟨Finset.mem_range.2 known, isHeld⟩
    rw [Finset.insert_eq_of_mem member] at copies
    exact ⟨hosts, copies⟩
  · rename_i free
    have absent : actor ∉ roster.held := fun member => free (Finset.mem_filter.1 member).2
    rw [Finset.card_insert_of_notMem absent] at copies
    have given : (roster.destroy actor).outlet.copies = roster.outlet.copies - 1 := by
      have released := roster.copies_settleBy Exchange.markReleased .retired actor
        (roster.handleOf actor)
      exact congrArg (· - 1) released
    have actors : (roster.destroy actor).actors = roster.actors := by rw [destroy_frame]
    have finds (other : Handle) : (roster.destroy actor).find? other = roster.find? other := by
      rw [destroy_frame]
      rfl
    exact ⟨hosts.congr actors, by rw [given, copies, Nat.add_sub_cancel, held_congr finds actors]⟩

theorem isLive_modify {change : Actor κ → Actor κ}
    (keeps : ∀ found, (change found).handle = found.handle) (number : Nat) :
    (roster.modify actor change).isLive number = roster.isLive number := by
  rw [isLive, isLive, handleOf_eq, handleOf_eq, handle?_modify _ _ keeps]
  rfl

/-- A change to the guests of one actor. -/
theorem Hosts.modify (hosts : roster.Hosts guests) {change : Actor κ → Actor κ}
    (own : ∀ found, roster.actor? actor = some found → (change found).guests = left.count actor)
    (others : ∀ number, number ≠ actor → left.count number = guests.count number)
    (registered : ∀ number ∈ left, number < roster.actors.size) :
    (roster.modify actor change).Hosts left where
  counted {number found} has := by
    have has : (if actor = number then (roster.actor? number).map change
        else roster.actor? number) = some found := Array.getElem?_modify.symm.trans has
    split at has
    · rename_i same
      subst same
      obtain ⟨before, was, rfl⟩ := Option.map_eq_some_iff.1 has
      exact own before was
    · rename_i other
      rw [hosts.counted has, others number (Ne.symm other)]
  registered member := Array.size_modify.symm ▸ registered _ member

/-- Who gains one reference is held, and nobody else is who was not before. -/
theorem Hosts.held_eq_insert (hosts : roster.Hosts guests) (less : after.Hosts left)
    (size : after.actors.size = roster.actors.size) (known : actor < roster.actors.size)
    (refers : ∀ number, (roster.isLive number = true ∨ number ∈ guests) ↔
      number = actor ∨ after.isLive number = true ∨ number ∈ left) :
    roster.held = insert actor after.held := by
  ext number
  rw [Finset.mem_insert, hosts.mem_held_iff, less.mem_held_iff, size, refers]
  constructor
  · rintro ⟨bound, rfl | more⟩
    · exact .inl rfl
    · exact .inr ⟨bound, more⟩
  · rintro (rfl | ⟨bound, more⟩)
    · exact ⟨known, .inl rfl⟩
    · exact ⟨bound, .inr more⟩

private theorem Counted.letGo (counted : roster.Counted (actor :: guests)) :
    (roster.letGo actor).Counted guests := by
  let given := roster.modify actor fun found => { found with guests := found.guests - 1 }
  have known := counted.hosts.registered List.mem_cons_self
  have size : given.actors.size = roster.actors.size := Array.size_modify
  have hosts : given.Hosts guests := by
    refine counted.hosts.modify (fun found registered => ?_) (fun number other => ?_)
      fun number member => counted.hosts.registered (List.mem_cons_of_mem _ member)
    · have count := counted.hosts.counted registered
      rw [List.count_cons_self] at count
      exact Nat.sub_eq_of_eq_add count
    · rw [List.count_cons_of_ne (Ne.symm other)]
  have gained : roster.held = insert actor given.held := by
    refine counted.hosts.held_eq_insert hosts size known fun number => ?_
    have same : given.isLive number = roster.isLive number := by
      refine isLive_modify ?_ number
      exact fun _ => rfl
    rw [same, List.mem_cons, or_left_comm]
  exact hosts.destroyUnlessHeld (size.symm ▸ known)
    (counted.copies.trans (congrArg Finset.card gained))

private theorem Counted.hold (counted : roster.Counted guests) (known : actor < roster.actors.size)
    (live : roster.isLive actor = true) : (roster.hold actor).Counted (actor :: guests) := by
  have size : (roster.hold actor).actors.size = roster.actors.size := Array.size_modify
  have hosts : (roster.hold actor).Hosts (actor :: guests) := by
    refine counted.hosts.modify (fun found registered => ?_) (fun number other => ?_)
      fun number member => ?_
    · rw [List.count_cons_self, counted.hosts.counted registered]
    · rw [List.count_cons_of_ne (Ne.symm other)]
    · obtain rfl | old := List.mem_cons.1 member
      · exact known
      · exact counted.hosts.registered old
  have gained : (roster.hold actor).held = insert actor roster.held := by
    refine hosts.held_eq_insert counted.hosts size.symm (size.symm ▸ known) fun number => ?_
    have same : (roster.hold actor).isLive number = roster.isLive number := by
      refine isLive_modify ?_ number
      exact fun _ => rfl
    rw [same, List.mem_cons, or_left_comm]
  -- a live actor is held already
  have member : actor ∈ roster.held := counted.hosts.mem_held_iff.2 ⟨known, .inl live⟩
  rw [Finset.insert_eq_of_mem member] at gained
  exact ⟨hosts, counted.copies.trans (congrArg Finset.card gained.symm)⟩

private theorem Counted.unlist (counted : roster.Counted guests) (sound : roster.Sound hands)
    (handle : Handle) : (roster.unlist handle).2.Counted guests := by
  let unlisted := { roster with directory := (roster.directory.retire handle).2 }
  rw [unlist_eq]
  cases found : roster.find? handle with
  | none => exact counted
  | some actor =>
    have hosts : unlisted.Hosts guests := counted.hosts.congr rfl
    have known := sound.lt_of_find? found
    have lives (number : Nat) : roster.isLive number = true ↔
        number = actor ∨ unlisted.isLive number = true := by
      have finds : unlisted.find? (roster.handleOf number) = _ :=
        roster.directory.find?_retire handle (roster.handleOf number)
      rw [isLive, isLive, show unlisted.handleOf number = roster.handleOf number from rfl, finds,
        decide_eq_true_iff, decide_eq_true_iff]
      split
      · rename_i own
        rw [own, found, Option.some.injEq, eq_comm]
        exact (or_iff_left (Option.some_ne_none number).symm).symm
      · rename_i other
        refine (or_iff_right ?_).symm
        rintro rfl
        have own := sound.listed found
        rw [handleOf_eq, own] at other
        exact other rfl
    have gained : roster.held = insert actor unlisted.held := by
      refine counted.hosts.held_eq_insert hosts rfl known fun number => ?_
      rw [lives, or_assoc]
    exact hosts.destroyUnlessHeld known (counted.copies.trans (congrArg Finset.card gained))

private theorem Counted.retire (counted : roster.Counted guests) (sound : roster.Sound hands)
    (handle : Handle) : (roster.retire handle).2.Counted guests := by
  unfold Roster.retire
  split
  · exact counted
  · rename_i actor live
    have held := counted.hold (sound.lt_of_find? live) (sound.isLive_of_find? live)
    have unlisted := held.unlist (sound.moves (moves_hold roster actor hands)) handle
    have noted : Counted (note ((roster.hold actor).unlist handle).2
        (.turned handle (roster.moduleOf actor) .retired)) (actor :: guests) :=
      unlisted.frame (fun _ => rfl) rfl rfl
    exact noted.letGo

section Enrolling

variable (module args : String) (behaviour : Instance κ) (capacity : Nat)

theorem Sound.find?_enroll (sound : roster.Sound hands)
    (issued : (roster.directory.register roster.actors.size).1 = some handle) :
    roster.find? handle = none ∧ ∀ other,
      (roster.enroll module args behaviour capacity).2.find? other =
        if other = handle then some roster.actors.size else roster.find? other := by
  have registered := (sound.placed.register roster.actors.size).2
  rw [show (roster.directory.slots.register roster.actors.size).1 = some handle from issued]
    at registered
  rw [enroll_of_issued module args behaviour capacity issued]
  exact registered.2

theorem Sound.find?_exhaust (sound : roster.Sound hands)
    (issued : (roster.directory.register roster.actors.size).1 = none) (other : Handle) :
    (roster.enroll module args behaviour capacity).2.find? other = roster.find? other := by
  have finds := (sound.placed.register roster.actors.size).2
  rw [show (roster.directory.slots.register roster.actors.size).1 = none from issued] at finds
  rw [enroll_of_none module args behaviour capacity issued]
  exact finds other

/-- Nobody who was there before begins or ceases to be live when an actor is added. -/
theorem Sound.isLive_enroll (sound : roster.Sound hands)
    (issued : (roster.directory.register roster.actors.size).1 = some handle)
    (known : number < roster.actors.size) :
    (roster.enroll module args behaviour capacity).2.isLive number = roster.isLive number := by
  obtain ⟨free, finds⟩ := sound.find?_enroll module args behaviour capacity issued
  have same : (roster.enroll module args behaviour capacity).2.handleOf number =
      roster.handleOf number := by
    rw [enroll_of_issued module args behaviour capacity issued, handleOf_eq, handleOf_eq,
      handle?_enrolled roster rfl, if_neg (Nat.ne_of_lt known)]
  rw [isLive, isLive, same, finds]
  split
  · rename_i own
    rw [own, free]
    exact decide_eq_false fun equal => Nat.ne_of_gt known (Option.some.inj equal)
  · rfl

private theorem Hosts.enroll (hosts : roster.Hosts guests)
    (issued : (roster.directory.register roster.actors.size).1 = some handle) :
    (roster.enroll module args behaviour capacity).2.Hosts (roster.actors.size :: guests) := by
  rw [enroll_of_issued module args behaviour capacity issued]
  refine ⟨fun {number found} registered => ?_, fun {number} member => ?_⟩
  · rw [actor?, Array.getElem?_push] at registered
    split at registered
    · rename_i same
      have fresh : roster.actors.size ∉ guests :=
        fun member => Nat.lt_irrefl _ (hosts.registered member)
      obtain rfl := Option.some.inj registered
      rw [same, List.count_cons_self, List.count_eq_zero.2 fresh]
    · rename_i other
      rw [hosts.counted registered, List.count_cons_of_ne (Ne.symm other)]
  · rw [Array.size_push]
    obtain rfl | old := List.mem_cons.1 member
    · exact Nat.lt_succ_self _
    · exact Nat.lt_succ_of_lt (hosts.registered old)

/-- A new actor has its creator as a guest, and takes a copy of the outlet. -/
theorem Counted.enroll (counted : roster.Counted guests) (sound : roster.Sound hands)
    (issued : (roster.directory.register roster.actors.size).1 = some handle) :
    (roster.enroll module args behaviour capacity).2.Counted (roster.actors.size :: guests) := by
  let grown := (roster.enroll module args behaviour capacity).2
  have enrolled : grown = _ :=
    congrArg Prod.snd (enroll_of_issued module args behaviour capacity issued)
  have size : grown.actors.size = roster.actors.size + 1 := by rw [enrolled, Array.size_push]
  have hosts := counted.hosts.enroll module args behaviour capacity issued
  have gained : grown.held = insert roster.actors.size roster.held := by
    ext number
    rw [Finset.mem_insert, hosts.mem_held_iff, counted.hosts.mem_held_iff, size, List.mem_cons,
      Nat.lt_succ_iff_lt_or_eq]
    constructor
    · rintro ⟨known | rfl, more⟩
      · rw [sound.isLive_enroll module args behaviour capacity issued known] at more
        obtain live | rfl | guest := more
        · exact .inr ⟨known, .inl live⟩
        · exact .inl rfl
        · exact .inr ⟨known, .inr guest⟩
      · exact .inl rfl
    · rintro (rfl | ⟨known, more⟩)
      · exact ⟨.inr rfl, .inr (.inl rfl)⟩
      · rw [sound.isLive_enroll module args behaviour capacity issued known]
        exact ⟨.inl known, more.imp_right .inr⟩
  have absent : roster.actors.size ∉ roster.held :=
    fun member => Nat.lt_irrefl _ (counted.hosts.mem_held_iff.1 member).1
  have copies : grown.outlet.copies = roster.outlet.copies + 1 := by
    rw [enrolled]
    rfl
  exact ⟨hosts, by rw [copies, gained, Finset.card_insert_of_notMem absent, counted.copies]⟩

/-- Nobody comes to be if every handle is in use. -/
theorem Counted.exhaust (counted : roster.Counted guests) (sound : roster.Sound hands)
    (issued : (roster.directory.register roster.actors.size).1 = none) :
    (roster.enroll module args behaviour capacity).2.Counted guests := by
  have finds := sound.find?_exhaust module args behaviour capacity issued
  rw [enroll_of_none module args behaviour capacity issued] at finds ⊢
  exact counted.frame finds rfl rfl

end Enrolling

/-! ### Runs -/

private theorem Touch.counted (touch : Touch .any roster after) (counted : roster.Counted guests)
    (sound : roster.Sound hands) : after.Counted guests := by
  cases touch with
  | note event plain => exact counted.frame (fun _ => rfl) rfl rfl
  | refuse destination reason message =>
    exact counted.frame (fun _ => rfl) rfl (roster.outlet.copies_record _)
  | post live message =>
    rw [post_frame]
    exact counted.frame (fun _ => rfl) rfl rfl
  | retire handle => exact counted.retire sound handle
  | rename bound => exact counted.frame (fun _ => rfl) rfl rfl
  | @modify actor change keeps same counts serves =>
    have hosts : (roster.modify actor change).Hosts guests := by
      refine counted.hosts.modify (fun found registered => ?_) (fun _ _ => rfl)
        fun _ => counted.hosts.registered
      rw [same, counted.hosts.counted registered]
    have stays : (roster.modify actor change).held = roster.held := by
      ext number
      rw [hosts.mem_held_iff, counted.hosts.mem_held_iff, isLive_modify keeps, Roster.modify,
        Array.size_modify]
    exact ⟨hosts, counted.copies.trans (congrArg Finset.card stays.symm)⟩

private theorem Steady.counted (steady : Steady .any roster after) (counted : roster.Counted guests)
    (sound : roster.Sound hands) : after.Counted guests := by
  induction steady with
  | refl => exact counted
  | tail before touch ih => exact touch.counted ih (sound.moves (Steady.moves before hands))

end Roster

variable {may : Request → Prop} {start stop : Engine κ × List Claim}

namespace Engine

variable {engine : Engine κ} {actor : Nat} {hands guests : List Nat}

private theorem counted_endLaunch (counted : engine.roster.Counted (actor :: guests))
    (sound : engine.roster.Sound hands) (outcome : Except InitError Unit) :
    (engine.endLaunch actor outcome).2.roster.Counted guests := by
  let roster := engine.roster
  let handle := roster.handleOf actor
  cases outcome with
  | ok done =>
    have finished := counted.settleBy Exchange.finish .retired actor handle
    have noted : Roster.Counted (Roster.note (roster.finish actor handle)
        (.turned handle (roster.moduleOf actor)
          (.launched (((roster.actor? actor).map (·.args)).getD "")))) (actor :: guests) :=
      finished.frame (fun _ => rfl) rfl rfl
    exact noted.letGo
  | error cause =>
    have unlisted := counted.unlist sound handle
    have released := unlisted.settleBy Exchange.release .initFailed actor handle
    have noted : Roster.Counted
        (Roster.note ((roster.unlist handle).2.release actor handle .initFailed)
          (.turned handle (roster.moduleOf actor) (.initFailed cause.message)))
        (actor :: guests) :=
      released.frame (fun _ => rfl) rfl rfl
    exact noted.letGo

theorem counted_create {config : Config} {modules : List (String × Module κ)}
    (created : create config modules = .ok engine) : engine.roster.Counted [] := by
  rw [roster_of_create created]
  exact {
    hosts := ⟨fun registered => (nomatch registered), fun member => nomatch member⟩
    copies := rfl }

end Engine

/-- Whatever happens, each claim on an actor is a guest, and who is referred to has a copy. -/
theorem Happens.counted (happens : Happens .any may start stop)
    (counted : start.1.roster.Counted (start.2.map Claim.guest)) (consistent : Consistent start) :
    stop.1.roster.Counted (stop.2.map Claim.guest) := by
  have sound := consistent.sound
  cases happens with
  | work works =>
    cases works with
    | steady steady => exact steady.roster.counted counted sound
    | exhaust module args behaviour issued => exact counted.exhaust _ _ _ _ sound issued
    | create module args behaviour issued =>
      exact (counted.enroll _ _ _ _ sound issued).frame (fun _ => rfl) rfl rfl
    | endLaunch actor outcome => exact Engine.counted_endLaunch counted sound outcome
    | @endService engine claims box actor left =>
      exact (Roster.Counted.letGo counted).settleBy Exchange.finish .retired box
        (engine.roster.handleOf actor)
  | @take engine box actor exchange allowed taken live =>
    have begun : (engine.taking exchange).roster.Counted [] :=
      counted.frame (fun _ => rfl) rfl rfl
    exact begun.hold (sound.lt_of_find? live) (sound.isLive_of_find? live)
  | invoke taken seen => exact counted.frame (fun _ => rfl) rfl rfl
  | skip taken seen => exact counted.frame (fun _ => rfl) rfl (Outlet.copies_record ..)
  | @discard engine box exchange allowed taken gone reason =>
    have begun : (engine.taking exchange).roster.Counted [] :=
      counted.frame (fun _ => rfl) rfl rfl
    exact begun.settleBy Exchange.release reason box (exchange.handleOf box)
  | subscribe allowed => exact counted.frame (fun _ => rfl) rfl (Outlet.copies_subscribe ..)
  | observe subscribed copies => exact counted.frame (fun _ => rfl) rfl copies
  | stop allowed => exact counted

theorem Course.counted (course : Course .any may start stop)
    (counted : start.1.roster.Counted (start.2.map Claim.guest)) (consistent : Consistent start) :
    stop.1.roster.Counted (stop.2.map Claim.guest) := by
  induction course with
  | refl => exact counted
  | tail before happens ih => exact happens.counted ih (Course.consistent before consistent)

theorem Reachable.counted {config : Config} {modules : List (String × Module κ)}
    {machine : Machine κ} (reached : Reachable config modules machine) :
    machine.engine.roster.Counted (machine.state.2.map Claim.guest) := by
  obtain ⟨engine, created, course⟩ := reached.course
  exact Course.counted course (Engine.counted_create created) (Engine.consistent_create created)

end Mailroom
