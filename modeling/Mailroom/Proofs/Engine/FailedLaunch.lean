import Mailroom.Proofs.Engine.Shutdown
import Mailroom.Proofs.Engine.Sparing
/-! # Launches that fail

A launch that is refused changes nothing. An actor whose init fails leaves the directory, and all
that its mailbox accepted becomes dead letters. What the init did to others stays as it is.
-/

namespace Mailroom

variable {κ : Type}

/-- The failure that a program of an init ends with, if that is what it does next. -/
def Program.failure? : Program κ → Option InitError
  | .finish (.error cause) => some cause
  | .panic text => some (.failed ("init panicked: " ++ panicText text))
  | _ => none

/-! ### Steps -/

namespace Machine

variable {machine : Machine κ}

private theorem step_of_isSettled (settled : machine.isSettled = true) :
    machine.step = machine := by
  obtain ⟨engine, tasks⟩ := machine
  unfold step
  dsimp only
  split <;> first | rfl | exact nomatch settled

/-- Work that comes to its end after some steps is done by any fuel that lasts for them. -/
theorem settle?_of_iterate (count fuel : Nat)
    (settled : (step^[count] machine).isSettled = true) :
    settle? (count + fuel + 1) machine = some (step^[count] machine) := by
  induction count generalizing machine with
  | zero =>
    rw [settle?, if_pos]
    · rfl
    · exact settled
  | succ count ih =>
    rw [Function.iterate_succ_apply] at settled ⊢
    rw [Nat.succ_add, settle?]
    split
    · rename_i ended
      rw [step_of_isSettled ended] at settled ⊢
      rw [Function.iterate_fixed (step_of_isSettled ended)]
    · exact ih settled

private theorem step_of_failure (engine : Engine κ) (rest : List (Task κ)) (actor : Nat)
    {program : Program κ} {cause : InitError} (fails : program.failure? = some cause) :
    step { engine, tasks := .run actor .init program :: rest } =
      { engine := (engine.endLaunch actor (.error cause)).2
        tasks := .launched (.error (.initFailed (engine.roster.moduleOf actor) cause)) :: rest } := by
  cases program with
  | finish outcome =>
    cases outcome with
    | ok done => exact nomatch fails
    | error other =>
      obtain rfl := Option.some.inj fails
      rfl
  | panic text =>
    obtain rfl := Option.some.inj fails
    rfl
  | _ => exact nomatch fails

end Machine

private theorem Reachable.steps {config : Config} {modules : List (String × Module κ)}
    {machine : Machine κ} (reached : Reachable config modules machine) (count : Nat) :
    Reachable config modules (Machine.step^[count] machine) := by
  induction count generalizing machine with
  | zero => exact reached
  | succ count ih => exact ih reached.stepped

/-! ### An actor is taken back -/

private theorem Directory.cursor_retire (directory : Directory Nat) (handle : Handle) :
    (directory.retire handle).2.slots.cursor = directory.slots.cursor := by
  rw [slots_retire, Slots.retire]
  split
  · rfl
  · rfl

namespace Exchange

variable {exchange after : Exchange} {number : Nat} {hands : List Nat}

/-- One mailbox becomes empty for good, and nothing else changes. -/
structure Vacates (exchange after : Exchange) (number : Nat) : Prop where
  retired : after.Retired number
  empty : after.messages number = []
  others (other : Nat) (apart : other ≠ number) : after.box? other = exchange.box? other
  runQueue : after.runQueue = exchange.runQueue

private theorem vacates_release (owned : exchange.Owned (number :: hands)) :
    exchange.Vacates (exchange.release number).2 number := by
  obtain ⟨box, found⟩ := owned.known (.inr List.mem_cons_self)
  have put : (exchange.release number).2.box? number = some box.release.box := by
    rw [release, settleBy_eq found, box?_settle_self found]
  refine ⟨⟨_, put, rfl, rfl⟩, ?_, fun other apart => box?_settleBy_of_ne apart, ?_⟩
  · rw [messages_eq put, Mailbox.release, Mailbox.toList_emptied]
  · rw [release, settleBy_eq found]
    rfl

private theorem Vacates.markReleased (vacates : exchange.Vacates after number) :
    exchange.Vacates (after.markReleased number).2 number := by
  obtain ⟨box, found, released, unscheduled⟩ := vacates.retired
  have settled : box.markReleased = box.emptied false true := by
    rw [Mailbox.markReleased, unscheduled]
    rfl
  have result : (after.markReleased number).2 = after.settle number (box.emptied false true) := by
    rw [Exchange.markReleased, settleBy_eq found, settled]
  have put := box?_settle_self found (box.emptied false true)
  rw [result]
  refine ⟨⟨_, put, rfl, rfl⟩, ?_, fun other apart => ?_, vacates.runQueue⟩
  · rw [messages_eq put, Mailbox.toList_emptied]
  · rw [box?_settle_of_ne apart, vacates.others other apart]

end Exchange

namespace Roster

variable {roster : Roster κ} {hands guests : List Nat} {actor : Nat} {handle : Handle}

/-- An actor that has a guest stays when its handle is given up. -/
theorem Hosts.snd_unlist (hosts : roster.Hosts guests) (guest : actor ∈ guests)
    (own : ∀ number, roster.find? handle = some number → number = actor) :
    (roster.unlist handle).2 = { roster with directory := (roster.directory.retire handle).2 } := by
  rw [unlist_eq]
  cases found : roster.find? handle with
  | none =>
    dsimp only
    rw [roster.directory.retire_of_find?_eq_none handle found]
  | some number =>
    obtain rfl := own number found
    have bound := hosts.registered guest
    have known : roster.actor? number = some roster.actors[number] :=
      Array.getElem?_eq_getElem bound
    have guests : 0 < roster.actors[number].guests := by
      rw [hosts.counted known]
      exact List.count_pos_iff.2 guest
    refine if_pos (Bool.or_eq_true_iff.2 (.inr ?_))
    exact (congrArg (Option.any _) known).trans (decide_eq_true guests)

private theorem directory_letGo (roster : Roster κ) (actor : Nat) :
    (roster.letGo actor).directory = roster.directory := by
  rw [letGo, destroyUnlessHeld_frame]
  rfl

private theorem actor?_letGo_of_ne (roster : Roster κ) {number : Nat} (apart : number ≠ actor) :
    (roster.letGo actor).actor? number = roster.actor? number := by
  rw [letGo, destroyUnlessHeld_frame]
  exact Array.getElem?_modify.trans (if_neg (Ne.symm apart))

private theorem accepted_letGo (roster : Roster κ) (actor number : Nat) :
    (roster.letGo actor).accepted number = roster.accepted number := by
  unfold letGo destroyUnlessHeld
  split
  · rfl
  · let given := roster.modify actor fun found => { found with guests := found.guests - 1 }
    have released := given.accepted_settleBy Exchange.markReleased .retired actor
      (given.handleOf actor) number
    refine Eq.trans ?_ released
    exact accepted_of_past_cons rfl rfl

/-- Who is destroyed when its last guest goes leaves its mailbox as empty as that was. -/
theorem vacates_letGo {exchange : Exchange}
    (vacates : exchange.Vacates roster.exchange actor) :
    exchange.Vacates (roster.letGo actor).exchange actor := by
  unfold letGo destroyUnlessHeld
  split
  · exact vacates
  · rw [destroy_frame]
    exact vacates.markReleased

/-- The roster in which nobody has the handle. -/
def without (roster : Roster κ) (handle : Handle) : Roster κ :=
  { roster with directory := (roster.directory.retire handle).2 }

/-- The roster after the failed init of an actor has come to its end. -/
def takeBack (roster : Roster κ) (actor : Nat) (handle : Handle) (cause : InitError) : Roster κ :=
  (((roster.without handle).release actor handle .initFailed).note
    (.turned handle (roster.moduleOf actor) (.initFailed cause.message))).letGo actor

section TakeBack

variable (roster : Roster κ) (actor : Nat) (handle : Handle) (cause : InitError)

private theorem release_without : (roster.without handle).release actor handle .initFailed =
    { roster.without handle with
      exchange := (roster.exchange.release actor).2
      outlet := ((roster.without handle).release actor handle .initFailed).outlet
      past := ((roster.without handle).release actor handle .initFailed).past } :=
  (roster.without handle).settleBy_frame ..

private theorem directory_takeBack : (roster.takeBack actor handle cause).directory =
    (roster.directory.retire handle).2 := by
  rw [takeBack, directory_letGo]
  exact congrArg (·.directory) (roster.release_without actor handle)

private theorem actor?_takeBack_of_ne {number : Nat} (apart : number ≠ actor) :
    (roster.takeBack actor handle cause).actor? number = roster.actor? number := by
  rw [takeBack, actor?_letGo_of_ne _ apart]
  exact congrArg (·.actors[number]?) (roster.release_without actor handle)

private theorem vacates_takeBack (owned : roster.exchange.Owned (actor :: hands)) :
    roster.exchange.Vacates (roster.takeBack actor handle cause).exchange actor := by
  have released : ((roster.without handle).release actor handle .initFailed).exchange =
      (roster.exchange.release actor).2 :=
    congrArg (·.exchange) (roster.release_without actor handle)
  have vacates := Exchange.vacates_release owned
  rw [← released] at vacates
  exact vacates_letGo vacates

private theorem accepted_takeBack (number : Nat) :
    (roster.takeBack actor handle cause).accepted number = roster.accepted number := by
  rw [takeBack, accepted_letGo]
  exact (told_note_of_none _ rfl).trans ((roster.without handle).accepted_settleBy ..)

/-- What the mailbox has when its actor is taken back becomes dead letters, and nothing else does. -/
theorem letters_takeBack
    (sound : ((roster.without handle).release actor handle .initFailed).Sound hands) :
    (roster.takeBack actor handle cause).letters = roster.letters ++
      (roster.exchange.messages actor).map fun message =>
        (some actor, .ofMessage handle.text message .initFailed) := by
  have noted : (((roster.without handle).release actor handle .initFailed).note
      (.turned handle (roster.moduleOf actor) (.initFailed cause.message))).Sound hands :=
    sound.frame _ _
  have dropped : ((roster.without handle).release actor handle .initFailed).letters = _ :=
    letters_dropAll { roster.without handle with exchange := (roster.exchange.release actor).2 }
      actor handle .initFailed (roster.exchange.release actor).1
  rw [Exchange.fst_release] at dropped
  rw [takeBack, (noted.departs_letGo actor).letters]
  exact (told_note_of_none _ rfl).trans dropped

end TakeBack

end Roster

namespace Engine

private theorem endLaunch_eq_takeBack (engine : Engine κ) {actor : Nat} {handle : Handle}
    (cause : InitError) (own : engine.roster.handleOf actor = handle)
    (unlists : (engine.roster.unlist handle).2 = engine.roster.without handle) :
    (engine.endLaunch actor (.error cause)).2 =
      { engine with roster := engine.roster.takeBack actor handle cause } := by
  rw [endLaunch_error, own, unlists, Roster.takeBack]

/-- What is left of an actor whose init failed: nobody finds it, it has no names, its mailbox is empty
and released, and what that had accepted became dead letters. Everybody else is as before. -/
structure Undone (before after : Engine κ) (actor : Nat) (handle : Handle) : Prop where
  finds (other : Handle) : after.roster.find? other =
    if other = handle then none else before.roster.find? other
  names (name : String) (other : Handle) : after.findName? name = some other ↔
    before.findName? name = some other ∧ other ≠ handle
  cursor : after.roster.directory.slots.cursor = before.roster.directory.slots.cursor
  vacates : before.roster.exchange.Vacates after.roster.exchange actor
  unscheduled : actor ∉ after.roster.exchange.waiting
  letters : after.roster.letters = before.roster.letters ++
    (before.roster.accepted actor).map fun message =>
      (some actor, .ofMessage handle.text message .initFailed)
  once : (after.roster.letters.filter fun letter => letter.1 = some actor) =
    (after.roster.accepted actor).map fun message =>
      (some actor, .ofMessage handle.text message .initFailed)
  uninvoked : after.roster.invocations actor = 0
  others (number : Nat) (apart : number ≠ actor) :
    after.roster.actor? number = before.roster.actor? number
  rest : after = { before with roster := after.roster }

end Engine

namespace Reachable

variable {config : Config} {modules : List (String × Module κ)} {before : Engine κ}
  {rest : List (Task κ)} {actor : Nat} {program : Program κ} {handle : Handle}

/-- No dead letter came out of the mailbox of an actor whose init is not done. -/
theorem filter_letters_eq_nil {machine : Machine κ} (reached : Reachable config modules machine)
    (begun : .creation actor ∈ machine.state.2) :
    (machine.engine.roster.letters.filter fun letter => letter.1 = some actor) = [] := by
  refine List.filter_eq_nil_iff.2 fun letter member same => ?_
  obtain ⟨event, past, tells⟩ := List.mem_filterMap.1 member
  have spared := reached.undisturbed actor begun event (List.mem_reverse.1 past)
  unfold Event.letter? at tells
  split at tells
  · rename_i origin _ _
    obtain rfl := Option.some.inj tells
    obtain rfl : origin = some actor := of_decide_eq_true same
    exact of_decide_eq_false spared rfl
  · exact nomatch tells

/-- When an init fails its actor is taken back, if nobody else was issued its handle. -/
theorem undone (reached : Reachable config modules
      { engine := before, tasks := .run actor .init program :: rest })
    (known : before.roster.handle? actor = some handle)
    (own : ∀ number, before.roster.find? handle = some number → number = actor)
    (cause : InitError) :
    before.Undone (before.endLaunch actor (.error cause)).2 actor handle := by
  let after := (before.endLaunch actor (.error cause)).2
  have sound : before.roster.Sound (actor :: rest.filterMap Task.hand?) := reached.sound
  have named := reached.named
  have begun : Claim.creation actor ∈ Claim.creation actor :: rest.filterMap Task.claim? :=
    List.mem_cons_self
  have same : before.roster.handleOf actor = handle := congrArg (·.getD default) known
  have unlists : (before.roster.unlist handle).2 = before.roster.without handle :=
    reached.counted.hosts.snd_unlist List.mem_cons_self own
  have ended := before.endLaunch_eq_takeBack cause same unlists
  have result : after.roster = before.roster.takeBack actor handle cause :=
    congrArg (·.roster) ended
  have releases := sound.release_unlisted .initFailed
  rw [same, unlists] at releases
  have directory := before.roster.directory_takeBack actor handle cause
  have vacates := before.roster.vacates_takeBack actor handle cause sound.owned
  have letters := before.roster.letters_takeBack actor handle cause releases
  have accepted := before.roster.accepted_takeBack actor handle cause actor
  rw [← result] at directory vacates letters accepted
  rw [reached.messages_eq_accepted begun] at letters
  exact {
    finds := fun other => by
      rw [Roster.find?, directory]
      exact before.roster.directory.find?_retire handle other
    names := fun name other => by
      rw [Engine.findName?, directory, (named.retire handle).findName?_eq_some_iff,
        named.toList_retire, List.mem_filter, decide_eq_true_iff, Engine.findName?,
        named.findName?_eq_some_iff]
    cursor := by rw [directory, before.roster.directory.cursor_retire]
    vacates
    unscheduled := by
      rw [Exchange.waiting, vacates.runQueue]
      exact sound.owned.not_waiting List.mem_cons_self
    letters
    once := by
      rw [letters, List.filter_append, reached.filter_letters_eq_nil begun, accepted,
        List.nil_append, List.filter_eq_self]
      rintro _ member
      obtain ⟨_, _, rfl⟩ := List.mem_map.1 member
      exact decide_eq_true rfl
    uninvoked :=
      ((Engine.entries_endLaunch ..).invocations_eq actor).trans (reached.invocations_eq_zero begun)
    others := fun number apart => result ▸ before.roster.actor?_takeBack_of_ne actor handle cause apart
    rest := by rw [ended] }

end Reachable

/-! ### Launches that are refused -/

namespace Engine

variable {engine : Engine κ} {module args : String} {cause : LaunchError}

/-- Why a launch is refused. -/
inductive Refuses (engine : Engine κ) (module : String) : LaunchError → Prop where
  | stopping (stopping : engine.stopping = true) : Refuses engine module .shuttingDown
  | unknown (active : engine.stopping = false) (absent : engine.catalog.find? module = none) :
    Refuses engine module (.moduleNotFound module)
  | uncreated {found : Module κ} {cause : InitError} (active : engine.stopping = false)
    (registered : engine.catalog.find? module = some found) (fails : found.create = .error cause) :
    Refuses engine module (.createFailed module cause.message)

private theorem Refuses.instantiate_eq (refuses : engine.Refuses module cause) :
    engine.instantiate module = .error cause := by
  cases refuses with
  | stopping stopping =>
    rw [instantiate, stopping]
    rfl
  | unknown active absent =>
    rw [instantiate, active, absent]
    rfl
  | uncreated active registered fails =>
    rw [instantiate, active, registered]
    simp [fails]
    rfl

private theorem Refuses.step_eq (refuses : engine.Refuses module cause) (rest : List (Task κ)) :
    Machine.step { engine, tasks := .launch module args :: rest } =
      { engine, tasks := .launched (.error cause) :: rest } := by
  simp only [Machine.step, beginLaunch, refuses.instantiate_eq]

private theorem create_of_steps {after : Engine κ} {result : Except LaunchError Handle}
    (count fuel : Nat) (ended : Machine.step^[count] { engine, tasks := [.launch module args] } =
      { engine := after, tasks := [.launched result] }) :
    engine.create? (count + fuel + 1) module args = some (result, after) := by
  rw [create?, Machine.settle?_of_iterate count fuel (by rw [ended]; rfl), ended]
  rfl

/-! ### Launches that begin -/

private theorem step_of_beginLaunch {actor : Nat} {program : Program κ} {entered : Engine κ}
    {rest : List (Task κ)}
    (begun : engine.beginLaunch module args = (.ok (actor, program), entered)) :
    Machine.step { engine, tasks := .launch module args :: rest } =
      { engine := entered, tasks := .run actor .init program :: rest } := by
  simp only [Machine.step, begun]

/-- Whose init begins is found by its handle. -/
theorem of_beginLaunch {hands : List Nat} {actor : Nat} {program : Program κ} {entered : Engine κ}
    (sound : engine.roster.Sound hands)
    (begun : engine.beginLaunch module args = (.ok (actor, program), entered)) :
    ∃ handle, entered.roster.handle? actor = some handle ∧
      entered.roster.find? handle = some actor ∧
      ∀ number < actor, ∃ other, entered.roster.handle? number = some other := by
  cases begun ▸ engine.begins module args with
  | @created behaviour _ handle issued =>
    have finds := (sound.find?_enroll module args behaviour engine.config.mailboxCapacity issued).2
    have pushed : (engine.creating module args behaviour).roster.actors =
        engine.roster.actors.push ⟨handle, module, args, behaviour, none, 0, 1⟩ := by
      simp only [creating, enrolling, overRoster,
        Roster.enroll_of_issued module args behaviour _ issued]
      rfl
    have handles := Roster.handle?_enrolled engine.roster pushed
    refine ⟨handle, (handles _).trans (if_pos rfl), (finds _).trans (if_pos rfl),
      fun number below => ⟨engine.roster.actors[number].handle, ?_⟩⟩
    refine ((handles number).trans (if_neg (Nat.ne_of_lt below))).trans ?_
    exact congrArg (Option.map _) (Array.getElem?_eq_getElem below)

end Engine

namespace Reachable

variable {config : Config} {modules : List (String × Module κ)} {engine entered before : Engine κ}
  {rest : List (Task κ)} {module args : String} {actor count : Nat} {program last : Program κ}

private theorem entering
    (reached : Reachable config modules { engine, tasks := .launch module args :: rest })
    (begun : engine.beginLaunch module args = (.ok (actor, program), entered)) :
    Reachable config modules { engine := entered, tasks := .run actor .init program :: rest } := by
  rw [← Engine.step_of_beginLaunch begun]
  exact reached.stepped

/-- While an init goes on nobody else is found by the actor's handle, if nobody else was issued it. -/
theorem eq_of_find?
    (reached : Reachable config modules { engine, tasks := .launch module args :: rest })
    (begun : engine.beginLaunch module args = (.ok (actor, program), entered))
    (went : Machine.step^[count] { engine := entered, tasks := .run actor .init program :: rest } =
      { engine := before, tasks := .run actor .init last :: rest })
    (alone : ∀ number, actor < number →
      before.roster.handle? number ≠ some (entered.roster.handleOf actor)) :
    before.roster.handle? actor = some (entered.roster.handleOf actor) ∧
      ∀ number, before.roster.find? (entered.roster.handleOf actor) = some number →
        number = actor := by
  obtain ⟨handle, known, finds, earlier⟩ := Engine.of_beginLaunch reached.sound begun
  have consistent := (reached.entering begun).consistent
  have later : Later (fun _ => True) _ _ := Later.steps count
    { engine := entered, tasks := .run actor .init program :: rest }
  rw [went] at later
  have moves := Course.moves (later.course consistent) consistent
  have same : entered.roster.handleOf actor = handle := congrArg (·.getD default) known
  rw [same] at alone ⊢
  refine ⟨moves.handle?_eq_some known, fun number live => ?_⟩
  have has := (Course.consistent (later.course consistent) consistent).sound.listed live
  obtain below | rfl | above := Nat.lt_trichotomy number actor
  · -- the handle was free when the actor came to be, and who has lost it does not get it back
    obtain ⟨other, had⟩ := earlier number below
    obtain rfl := Option.some.inj ((moves.handle?_eq_some had).symm.trans has)
    have apart : entered.roster.find? other ≠ some number := by
      rw [finds]
      exact fun same => Nat.ne_of_gt below (Option.some.inj same)
    exact absurd live (moves.retired consistent.sound had apart).1
  · rfl
  · exact absurd has (alone number above)

/-- Who was taken back at the end of its init is not invoked later. -/
theorem invocations_later {after : Engine κ} {handle : Handle}
    {result : Except LaunchError Handle} {final : Machine κ}
    (reached : Reachable config modules
      { engine := before, tasks := .run actor .init last :: rest })
    (known : before.roster.handle? actor = some handle)
    (ended : Machine.step { engine := before, tasks := .run actor .init last :: rest } =
      { engine := after, tasks := .launched result :: rest })
    (undone : before.Undone after actor handle)
    (later : Later (fun _ => True) { engine := after, tasks := .launched result :: rest } final) :
    final.engine.roster.invocations actor = 0 := by
  have consistent := reached.stepped.consistent
  have step : Course .any (fun _ => True) _ _ :=
    Machine.course_step { engine := before, tasks := .run actor .init last :: rest }
  rw [ended] at consistent step
  have kept := (Course.moves step reached.consistent).handle?_eq_some known
  have gone : after.roster.find? handle ≠ some actor := by
    rw [undone.finds, if_pos rfl]
    exact nofun
  have bound : _ + _ ≤ after.roster.invocations actor +
      Claim.owed actor (rest.filterMap Task.claim?) :=
    (later.course consistent).invocations_add_owed_le consistent kept gone
  have owed : Claim.owed actor (rest.filterMap Task.claim?) = 0 :=
    Claim.owed_eq_zero (List.nodup_cons.1 reached.distinct).1
  rw [undone.uninvoked, owed] at bound
  exact Nat.eq_zero_of_le_zero ((Nat.le_add_right _ _).trans bound)

/-- A launch that is refused changes nothing. If an init fails, by an error or a panic and whatever it
did before, and nobody else was issued the handle meanwhile, the actor is taken back and all else is
as the init left it; its callback is never invoked, whatever happens later. -/
theorem failed_launch_leaves_no_trace
    (reached : Reachable config modules { engine, tasks := .launch module args :: rest }) :
    (∀ cause, engine.Refuses module cause →
      Machine.step { engine, tasks := .launch module args :: rest } =
        { engine, tasks := .launched (.error cause) :: rest } ∧
      ∀ fuel, engine.create? (fuel + 2) module args = some (.error cause, engine)) ∧
    ∀ actor program entered,
      engine.beginLaunch module args = (.ok (actor, program), entered) →
    ∀ count before last cause,
      Machine.step^[count] { engine := entered, tasks := .run actor .init program :: rest } =
        { engine := before, tasks := .run actor .init last :: rest } →
      last.failure? = some cause →
      (∀ number, actor < number →
        before.roster.handle? number ≠ some (entered.roster.handleOf actor)) →
      ∃ after result, result = .error (.initFailed (before.roster.moduleOf actor) cause) ∧
        Machine.step^[count + 2] { engine, tasks := .launch module args :: rest } =
          { engine := after, tasks := .launched result :: rest } ∧
        (rest = [] → ∀ fuel,
          engine.create? (count + 2 + fuel + 1) module args = some (result, after)) ∧
        before.Undone after actor (entered.roster.handleOf actor) ∧
        ∀ final, Later (fun _ => True) { engine := after, tasks := .launched result :: rest } final →
          final.engine.roster.invocations actor = 0 := by
  refine ⟨fun cause refuses => ⟨refuses.step_eq rest, fun fuel => ?_⟩, ?_⟩
  · have enough : fuel + 2 = 1 + fuel + 1 := by omega
    rw [enough]
    exact Engine.create_of_steps 1 fuel (refuses.step_eq [])
  · intro actor program entered begun count before last cause went fails alone
    have ongoing : Reachable config modules
        { engine := before, tasks := .run actor .init last :: rest } :=
      went ▸ (reached.entering begun).steps count
    obtain ⟨known, own⟩ := reached.eq_of_find? begun went alone
    have undone := ongoing.undone known own cause
    let after := (before.endLaunch actor (.error cause)).2
    let result : Except LaunchError Handle :=
      .error (.initFailed (before.roster.moduleOf actor) cause)
    have ended : Machine.step { engine := before, tasks := .run actor .init last :: rest } =
        { engine := after, tasks := .launched result :: rest } :=
      Machine.step_of_failure before rest actor fails
    have steps : Machine.step^[count + 2] { engine, tasks := .launch module args :: rest } =
        { engine := after, tasks := .launched result :: rest } := by
      rw [Function.iterate_succ_apply, Engine.step_of_beginLaunch begun,
        Function.iterate_succ_apply', went, ended]
    refine ⟨after, result, rfl, steps, fun nested fuel => ?_, undone, fun final later => ?_⟩
    · subst nested
      exact Engine.create_of_steps (count + 2) fuel steps
    · exact ongoing.invocations_later known ended undone later

end Reachable

/-- A module whose actors write to themselves, take a name, launch another actor and break off. -/
def clumsy : Module Unit where
  create := .ok {
    init := fun own _ =>
      .send (.handle own) 1 [] fun _ => .command (.reg (some "a")) fun _ =>
        .command (.timeout 0 2) fun _ => .command (.launch "leaver" "") fun _ => .panic none
    receive := fun _ _ _ => .finish (.ok ()) }

theorem Reachable.failed_launch_leaves_no_trace_of_clumsy :
    ∃ engine before after : Engine Unit,
      Reachable Config.standard [("clumsy", clumsy), ("leaver", leaver)]
        { engine, tasks := [.launch "clumsy" ""] } ∧
      (∀ fuel, engine.create? (fuel + 2) "other" "" =
        some (.error (.moduleNotFound "other"), engine)) ∧
      (before.roster.accepted 0).map (·.session) = [1, 2] ∧
      before.findName? "a" = some ⟨1⟩ ∧ before.roster.find? ⟨2⟩ = some 1 ∧
      before.Undone after 0 ⟨1⟩ := by
  have created : Engine.create Config.standard [("clumsy", clumsy), ("leaver", leaver)] = .ok _ :=
    rfl
  have rested := Reachable.created created
  have reached := rested.launching "clumsy" ""
  obtain ⟨_, begins⟩ := reached.failed_launch_leaves_no_trace
  obtain ⟨after, _, _, _, _, undone, _⟩ := begins 0 _ _ rfl 8 _ (.panic none) _ rfl rfl
    fun number above same => Nat.ne_of_gt above (Roster.handle?_inj (by decide +kernel) same rfl)
  obtain ⟨refuses, _⟩ := (rested.launching "other" "").failed_launch_leaves_no_trace
  exact ⟨_, _, after, reached, (refuses _ (.unknown rfl rfl)).2, by decide +kernel,
    by decide +kernel, by decide +kernel, undone⟩

end Mailroom
