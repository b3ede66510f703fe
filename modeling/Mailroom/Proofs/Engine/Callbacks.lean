import Mailroom.Proofs.Engine.Belongings
import Mailroom.Proofs.Engine.Idling
/-! # Messages for callbacks

An actor registers a callback once and keeps it, and nobody else can. So while mailboxes are serviced
and nobody retires, the messages that wait for live actors with callbacks are passed to these, and no
others are.
-/

namespace Mailroom

variable {κ : Type}

/-! ### Who has a callback -/

namespace Roster

variable {roster middle after : Roster κ} {actor number : Nat}

/-- Every actor that there is has a callback if it had one, and has none if it had none. -/
def Keeps (roster after : Roster κ) : Prop :=
  ∀ number answers, roster.answers? number = some answers → after.answers? number = some answers

theorem Keeps.trans (first : roster.Keeps middle) (second : middle.Keeps after) :
    roster.Keeps after :=
  fun number answers has => second number answers (first number answers has)

/-- Only the actor itself can register a callback, and only if it has none. -/
theorem answers?_setCallback (roster : Roster κ) (actor : Nat) (key : κ) {answers : Bool}
    (has : roster.answers? number = some answers) (may : number = actor → answers = true) :
    (roster.setCallback actor key).2.answers? number = some answers := by
  unfold setCallback
  split
  · exact has
  · rename_i found seen
    split
    · exact has
    · rename_i without
      dsimp only
      rw [answers?, actor?_modify, if_neg, ← answers?, has]
      rintro rfl
      obtain rfl := may rfl
      rw [answers?, seen] at has
      exact without (Option.some.inj has)

private theorem keeps_become (roster : Roster κ) (actor : Nat) (key : κ) :
    roster.Keeps (roster.become actor key) := by
  intro number answers has
  rw [answers?, become, actor?_modify]
  split
  · rw [Option.map_map, Function.comp_def]
    simp only [Option.isSome_map]
    exact has
  · exact has

end Roster

/-- Everything but that a callback is set or changed. -/
def Scope.unset : Scope := { Scope.any with sets := fun _ => False }

variable {engine : Engine κ} {rest : List (Task κ)} {actor number : Nat} {task : Task κ}

private theorem Course.keeps {may : Request → Prop} {start stop : Engine κ × List Claim}
    (course : Course .unset may start stop) (consistent : Consistent start) :
    start.1.roster.Keeps stop.1.roster :=
  fun _ _ has => Roster.Moves.answers?_eq_some (course.moves consistent) id has

/-- Since the engine was at rest every actor has kept its callback, and none has been at work that
had none. -/
structure Engine.Tended (engine : Engine κ) (machine : Machine κ) : Prop where
  keeps : engine.roster.Keeps machine.engine.roster
  workers {task : Task κ} {number : Nat} (member : task ∈ machine.tasks)
    (works : task.worker? = some number) : engine.roster.answers? number ≠ some false

namespace Engine

variable {now after : Engine κ} {machine : Machine κ}

/-- Nobody new is at work, and no callback is set. -/
theorem Tended.mono {later : Machine κ} (tended : engine.Tended machine)
    (course : Course .unset (fun _ => True) machine.state later.state)
    (consistent : Consistent machine.state)
    (workers : ∀ task ∈ later.tasks, task ∈ machine.tasks ∨ task.worker? = none) :
    engine.Tended later where
  keeps := tended.keeps.trans (course.keeps consistent)
  workers {task number} member works := by
    obtain old | idle := workers task member
    · exact tended.workers old works
    · cases idle.symm.trans works

private theorem Tended.keeps_step (tended : engine.Tended machine)
    (consistent : Consistent machine.state) :
    engine.roster.Keeps machine.step.engine.roster := by
  cases sets : machine.setter? with
  | none =>
    have course : Course .unset (fun _ => True) machine.state machine.step.state :=
      .single (machine.happens_step (fun _ _ => trivial)
        fun _ set => nomatch sets.symm.trans set)
    exact tended.keeps.trans (course.keeps consistent)
  | some actor =>
    obtain ⟨now, tasks⟩ := machine
    unfold Machine.setter? at sets
    split at sets
    · rename_i actor purpose key next rest same
      obtain rfl : tasks = _ := same
      -- who works had a callback already, or was not there
      intro number answers has
      refine now.roster.answers?_setCallback actor key (tended.keeps number answers has) ?_
      rintro rfl
      have works := tended.workers List.mem_cons_self rfl
      cases answers with
      | true => rfl
      | false => exact absurd has works
    · rename_i actor purpose key next rest same
      obtain rfl : tasks = _ := same
      exact tended.keeps.trans (now.roster.keeps_become actor key)
    · cases sets

theorem Tended.step (tended : engine.Tended machine) (consistent : Consistent machine.state) :
    engine.Tended machine.step where
  keeps := tended.keeps_step consistent
  workers {task number} member works without := by
    obtain ⟨before, old, worked⟩ | ⟨rfl, _⟩ | ⟨found, seen, called⟩ :=
      Machine.worker?_of_step member works
    · exact tended.workers old worked without
    · -- the actor that begins was not there
      have beyond := tended.keeps _ _ without
      rw [Roster.answers?, Roster.actor?_size] at beyond
      cases beyond
    · -- who is called has a callback, and so had one before
      have none := tended.keeps _ _ without
      rw [Roster.answers?, seen, Option.map_some, called] at none
      cases none

private theorem Serving.tended {config : Config} {modules : List (String × Module κ)}
    (reached : Reachable config modules { engine, tasks := [] })
    (serving : engine.Serving machine) : engine.Tended machine := by
  have begun : engine.Tended { engine, tasks := [] } := ⟨fun _ _ => id, nofun⟩
  refine serving.induction engine.Tended begun fun machine serving tended => ?_
  have consistent := serving.consistent reached
  obtain ⟨now, tasks⟩ := machine
  unfold Machine.proceed
  dsimp only
  split
  · split
    · exact tended
    · rename_i box exchange taken
      split
      · rename_i gone
        exact tended.mono (course_dropOrphan trivial taken gone) consistent fun _ => .inl
      · rename_i actor live
        refine tended.mono (.single (.take trivial taken live)) consistent fun task member => ?_
        obtain rfl := List.mem_singleton.1 member
        exact .inr rfl
  · exact tended.mono .refl consistent fun _ member => nomatch member
  · exact tended.step consistent

end Engine

/-! ### While nobody retires -/

/-- The live actors that have a callback. -/
def Roster.due (roster : Roster κ) : Finset Nat :=
  (Finset.range roster.actors.size).filter fun actor =>
    roster.isLive actor = true ∧ roster.answers? actor = some true

/-- The number of messages in the mailboxes of some actors. -/
def Exchange.queuedFor (exchange : Exchange) (actors : Finset Nat) : Nat :=
  ∑ actor ∈ actors, (exchange.messages actor).length

namespace Engine

/-- While one mailbox after another is serviced no two actors have one handle, and whoever was live
stays so. -/
structure Lasting (engine : Engine κ) : Prop where
  unique {machine : Machine κ} (serving : engine.Serving machine) :
    (machine.engine.roster.actors.toList.map (·.handle)).Nodup
  lasts {machine : Machine κ} (serving : engine.Serving machine) {actor : Nat}
    (live : engine.roster.isLive actor = true) : machine.engine.roster.isLive actor = true

section

variable {config : Config} {modules : List (String × Module κ)} {machine after : Machine κ}
  {now : Engine κ} {box : Nat} {exchange : Exchange}
  (reached : Reachable config modules { engine, tasks := [] }) (quiet : engine.Quiet)
  (lasting : engine.Lasting)

include reached quiet lasting

/-- A mailbox that is serviced is that of an actor that was live. -/
theorem Lasting.live_of_next? (serving : engine.Serving { engine := now, tasks := [] })
    (taken : now.roster.exchange.next? = some (box, exchange))
    (live : now.roster.find? (exchange.handleOf box) = some actor) :
    engine.roster.isLive actor = true := by
  have course : Course .any (fun _ => True) (engine, []) (now, []) := serving.course
  have consistent : Consistent (now, []) := serving.consistent reached
  have moves := course.moves reached.consistent
  have has := consistent.sound.listed live
  obtain rfl := Roster.handle?_inj (lasting.unique serving) (consistent.sound.of_next? taken).2 has
  -- only a mailbox that there was has messages
  have known : box < engine.roster.actors.size := by
    have older := quiet.messages_suffix reached (.rest engine) serving course box
    have filled := consistent.sound.owned.filled_of_next? taken
    rw [← reached.sound.sizes]
    refine Exchange.lt_of_messages fun empty => ?_
    rw [empty] at older
    exact filled (List.suffix_nil.1 older)
  have had : engine.roster.handle? box = some engine.roster.actors[box].handle :=
    congrArg (Option.map _) (Array.getElem?_eq_getElem known)
  have same := Option.some.inj ((moves.handle?_eq_some had).symm.trans has)
  by_contra dead
  rw [Bool.not_eq_true, Roster.isLive_eq_false_iff had] at dead
  exact (moves.retired reached.sound had dead).1 (same ▸ live)

private theorem Lasting.live_of_service (serving : engine.Serving machine) {left invoked : Nat}
    (member : .service box actor left invoked ∈ machine.tasks) :
    engine.roster.isLive actor = true := by
  refine serving.induction (fun machine => ∀ box actor left invoked,
    .service box actor left invoked ∈ machine.tasks → engine.roster.isLive actor = true)
    nofun ?_ box actor left invoked member
  intro machine serving lives box actor left invoked member
  obtain ⟨now, tasks⟩ := machine
  unfold Machine.proceed at member
  dsimp only at member
  split at member
  · split at member
    · exact lives box actor left invoked member
    · rename_i taken
      split at member
      · cases member
      · rename_i live
        obtain ⟨_, rfl, _⟩ := Task.service.inj (List.mem_singleton.1 member)
        exact lasting.live_of_next? reached quiet serving taken live
  · cases member
  · obtain below | ⟨before, ongoing⟩ := Machine.service_of_step member
    · exact lives box actor left invoked (List.mem_of_mem_tail below)
    · exact lives box actor (left + 1) before ongoing

/-- Whoever receives messages was due if the actor has a callback. -/
theorem Lasting.mem_due_iff (serving : engine.Serving machine) {left invoked : Nat}
    {found : Actor κ} (member : .service box actor left invoked ∈ machine.tasks)
    (seen : machine.engine.roster.actor? actor = some found) :
    actor ∈ engine.roster.due ↔ found.callback.isSome = true := by
  have live := lasting.live_of_service reached quiet serving member
  have known : actor < engine.roster.actors.size :=
    reached.sound.lt_of_find? (of_decide_eq_true live)
  have had : engine.roster.answers? actor = some engine.roster.actors[actor].callback.isSome :=
    congrArg (Option.map _) (Array.getElem?_eq_getElem known)
  have has : machine.engine.roster.answers? actor = some found.callback.isSome :=
    congrArg (Option.map _) seen
  have same := Option.some.inj (((serving.tended reached).keeps _ _ had).symm.trans has)
  rw [Roster.due, Finset.mem_filter, Finset.mem_range, had, same, Option.some.injEq]
  exact ⟨fun due => due.2.2, fun called => ⟨known, live, called⟩⟩

/-- A message that is passed to a callback is one of those that waited for the live actors that have
one, and no other message of these is taken out of a mailbox. -/
theorem Lasting.calls_of_deed (serving : engine.Serving machine) (next : engine.Serving after)
    (deed : Machine.Deed .any machine after) :
    after.engine.roster.calls + after.engine.roster.exchange.queuedFor engine.roster.due =
      machine.engine.roster.calls +
        machine.engine.roster.exchange.queuedFor engine.roster.due := by
  have consistent := serving.consistent reached
  have course : Course .any (fun _ => True) machine.state after.state := .single deed.happens
  cases deed with
  | work works _ =>
    have same : after.engine.roster.exchange.queuedFor engine.roster.due =
        machine.engine.roster.exchange.queuedFor engine.roster.due := by
      refine Finset.sum_congr rfl fun actor member => ?_
      have live := lasting.lasts next (Finset.mem_filter.1 member).2.1
      have more := (works.retains consistent.sound live).length_le
      have fewer := (quiet.messages_suffix reached serving next course actor).length_le
      exact Nat.le_antisymm fewer more
    have entries : Roster.Entries False machine.engine.roster after.engine.roster := works.entries
    rw [entries.calls_eq, same]
  | @serve now exchange rest found box actor left invoked message seen took =>
    obtain ⟨handle, belongs, has⟩ := consistent.fits _ List.mem_cons_self
    obtain rfl : box = actor := Roster.handle?_inj (lasting.unique serving) belongs has
    have due := lasting.mem_due_iff reached quiet serving List.mem_cons_self seen
    have head := Exchange.messages_take_self took
    have others (number : Nat) (apart : number ≠ box) :
        exchange.messages number = now.roster.exchange.messages number := by
      have kept : (now.roster.exchange.take box).2.messages number = _ :=
        Exchange.messages_take_of_ne apart
      rwa [took] at kept
    unfold Machine.serve
    split
    · rename_i uncalled
      have same : exchange.queuedFor engine.roster.due =
          now.roster.exchange.queuedFor engine.roster.due := by
        refine Finset.sum_congr rfl fun number member => ?_
        rw [others]
        rintro rfl
        rw [due, uncalled] at member
        cases member
      exact congrArg₂ (· + ·) (now.calls_skip exchange found box message) same
    · rename_i key called
      have waits : box ∈ engine.roster.due := due.2 (called ▸ rfl)
      have less : exchange.queuedFor engine.roster.due + 1 =
          now.roster.exchange.queuedFor engine.roster.due := by
        have rest : ∑ number ∈ engine.roster.due.erase box, (exchange.messages number).length =
            ∑ number ∈ engine.roster.due.erase box,
              (now.roster.exchange.messages number).length :=
          Finset.sum_congr rfl fun number member => by rw [others _ (Finset.ne_of_mem_erase member)]
        rw [Exchange.queuedFor, Exchange.queuedFor, ← Finset.add_sum_erase _ _ waits,
          ← Finset.add_sum_erase _ _ waits, rest, head, List.length_cons]
        omega
      refine (congrArg (· + _) (now.calls_invoke exchange found box box message)).trans ?_
      dsimp only
      rw [← less]
      exact Nat.add_right_comm ..

omit quiet in
/-- A mailbox that is dropped is not that of a live actor. -/
theorem Lasting.queuedFor_dropOrphan (serving : engine.Serving { engine := now, tasks := [] })
    (taken : now.roster.exchange.next? = some (box, exchange))
    (gone : now.roster.find? (exchange.handleOf box) = none) :
    ((now.taking exchange).dropOrphan box
        (exchange.handleOf box)).roster.exchange.queuedFor engine.roster.due =
      now.roster.exchange.queuedFor engine.roster.due := by
  have consistent : Consistent (now, []) := serving.consistent reached
  refine Finset.sum_congr rfl fun actor member => ?_
  have other : actor ≠ box := by
    rintro rfl
    have live := lasting.lasts serving (Finset.mem_filter.1 member).2.1
    have own : now.roster.handleOf actor = exchange.handleOf actor :=
      congrArg (·.getD default) (consistent.sound.of_next? taken).2
    rw [Roster.isLive, own, gone] at live
    cases live
  rw [dropOrphan_eq, Roster.release, Roster.settleBy_frame]
  dsimp only
  rw [Exchange.release, Exchange.messages_settleBy_of_ne other, Exchange.messages_of_next? taken]

/-- All the time, the callbacks that were invoked and the messages that wait for live actors with
callbacks make up the same number. -/
theorem Lasting.calls_add_queuedFor (serving : engine.Serving machine) :
    machine.engine.roster.calls + machine.engine.roster.exchange.queuedFor engine.roster.due =
      engine.roster.calls + engine.roster.exchange.queuedFor engine.roster.due := by
  refine serving.induction (fun machine => machine.engine.roster.calls +
    machine.engine.roster.exchange.queuedFor engine.roster.due = _) rfl fun machine serving ih => ?_
  refine Eq.trans ?_ ih
  obtain ⟨now, tasks⟩ := machine
  have next := serving.proceed
  revert next
  unfold Machine.proceed
  dsimp only
  split
  · split
    · exact fun _ => rfl
    · rename_i box exchange taken
      split
      · rename_i gone
        intro _
        rw [lasting.queuedFor_dropOrphan reached serving taken gone,
          (now.entries_dropOrphan exchange box _).calls_eq]
      · intro _
        have same : exchange.queuedFor engine.roster.due =
            now.roster.exchange.queuedFor engine.roster.due :=
          Finset.sum_congr rfl fun actor _ => by rw [Exchange.messages_of_next? taken]
        exact congrArg (_ + ·) same
  · exact fun _ => rfl
  · exact fun next => lasting.calls_of_deed reached quiet serving next
      (Machine.deed_step _ (fun _ _ => trivial) fun _ _ => trivial)

end

end Engine

/-- Let no message be accepted while one mailbox after another is serviced, and let each launch that a
callback asks for come to its end. Then every dispatch leaves fewer messages in the mailboxes, and
`runUntilIdle?` comes to its end after at most one dispatch for each message and one that finds
nothing. Then no mailbox waits and no mailbox has a message, and what is told is how many callbacks
were invoked. If no handle is issued twice and nobody who was live retires, these are as many as there
were messages for live actors with a callback. -/
theorem Reachable.run_until_idle_ends {config : Config} {modules : List (String × Module κ)}
    (reached : Reachable config modules { engine, tasks := [] }) (quiet : engine.Quiet) :
    (∀ {now after : Engine κ} {fuel : Nat} {outcome : DispatchOutcome},
      engine.Serving { engine := now, tasks := [] } →
      now.dispatchOnce? fuel = some (outcome, after) → outcome ≠ .blocked →
        after.roster.exchange.queued < now.roster.exchange.queued) ∧
    ∃ enough invoked after,
      (∀ fuel services, enough < fuel → engine.roster.exchange.queued < services →
        Engine.runUntilIdle?.serviceMany fuel services 0 engine = some (invoked, after)) ∧
      (∀ fuel, max enough engine.roster.exchange.queued < fuel →
        engine.runUntilIdle? fuel = some (invoked, after)) ∧
      after.roster.exchange.waiting = [] ∧
      (∀ box, after.roster.exchange.messages box = []) ∧
      after.roster.calls = engine.roster.calls + invoked ∧
      (engine.Lasting → invoked = engine.roster.exchange.queuedFor engine.roster.due) := by
  obtain ⟨enough, invoked, after, serving, idle, calls, services⟩ :=
    quiet.idles reached (.rest engine)
  have consistent : Consistent (after, []) := serving.consistent reached
  have empty := consistent.sound.owned.messages_eq_nil idle
  have ends (fuel count : Nat) (lasts : enough < fuel)
      (many : engine.roster.exchange.queued < count) :
      Engine.runUntilIdle?.serviceMany fuel count 0 engine = some (invoked, after) :=
    (services fuel count 0 lasts many).trans (by rw [Nat.zero_add])
  refine ⟨fun serving dispatched some => quiet.queued_lt reached serving dispatched some,
    enough, invoked, after, ends, fun fuel lasts => ?_, idle, empty, calls, fun lasting => ?_⟩
  · obtain ⟨lasts, many⟩ := max_lt_iff.1 lasts
    exact ends fuel fuel lasts many
  · have all := lasting.calls_add_queuedFor reached quiet serving
    have none : after.roster.exchange.queuedFor engine.roster.due = 0 :=
      Finset.sum_eq_zero fun actor _ => by rw [empty, List.length_nil]
    dsimp only at all
    omega

/-! ### Runs that can be checked -/

/-- The message that an event puts into a mailbox, with the number of the mailbox. -/
def Event.posted? : Event → Option (Nat × Message)
  | posted box message => some (box, message)
  | _ => none

private theorem Roster.accepted_eq_filterMap (roster : Roster κ) (box : Nat) :
    roster.accepted box = (roster.told Event.posted?).filterMap fun posted =>
      if posted.1 = box then some posted.2 else none := by
  rw [told, List.filterMap_filterMap]
  refine List.filterMap_congr fun event _ => ?_
  cases event <;> rfl

/-- Whether one state is as it has to be for an engine to be quiet and lasting. -/
def Machine.isCalm (fuel : Nat) (engine : Engine κ) (machine : Machine κ) : Bool :=
  let launches := match machine.tasks with
    | .launch module args :: _ => (machine.engine.create? fuel module args).isSome
    | _ => true
  machine.engine.roster.told Event.posted? = engine.roster.told Event.posted? && launches &&
    decide (machine.engine.roster.actors.toList.map (·.handle)).Nodup &&
    (List.range engine.roster.actors.size).all fun actor =>
      !engine.roster.isLive actor || machine.engine.roster.isLive actor

namespace Engine

/-- Once nothing waits nothing comes next. -/
theorem Serving.of_idle {machine : Machine κ} {bound : Nat} (serving : engine.Serving machine)
    (rests : (Machine.proceed^[bound] { engine, tasks := [] }).tasks.isEmpty = true)
    (idle : (Machine.proceed^[bound]
      { engine, tasks := [] }).engine.roster.exchange.next?.isNone = true) :
    ∃ count ≤ bound, Machine.proceed^[count] { engine, tasks := [] } = machine := by
  obtain ⟨count, rfl⟩ := serving
  obtain within | beyond := Nat.le_total count bound
  · exact ⟨count, within, rfl⟩
  · obtain ⟨more, rfl⟩ := Nat.exists_eq_add_of_le' beyond
    refine ⟨bound, Nat.le_refl bound, ?_⟩
    have fixed : (Machine.proceed^[bound] { engine, tasks := [] }).proceed =
        Machine.proceed^[bound] { engine, tasks := [] } := by
      rw [Machine.proceed, List.isEmpty_iff.1 rests, Option.isNone_iff_eq_none.1 idle]
    rw [Function.iterate_add_apply, Function.iterate_fixed fixed]

/-- An engine is quiet and lasting if all its states up to one in which nothing waits are calm. -/
theorem quiet_and_lasting_of_calm {config : Config} {modules : List (String × Module κ)}
    (reached : Reachable config modules { engine, tasks := [] }) (fuel bound : Nat)
    (rests : (Machine.proceed^[bound] { engine, tasks := [] }).tasks.isEmpty = true)
    (idle : (Machine.proceed^[bound]
      { engine, tasks := [] }).engine.roster.exchange.next?.isNone = true)
    (calm : ∀ count ≤ bound,
      (Machine.proceed^[count] { engine, tasks := [] }).isCalm fuel engine = true) :
    engine.Quiet ∧ engine.Lasting := by
  have calm {machine : Machine κ} (serving : engine.Serving machine) :
      machine.isCalm fuel engine = true := by
    obtain ⟨count, within, rfl⟩ := serving.of_idle rests idle
    exact calm count within
  simp only [Machine.isCalm, Bool.and_eq_true, decide_eq_true_eq] at calm
  refine ⟨⟨fun serving box => ?_, fun serving => ?_⟩, ⟨fun serving => ?_, fun serving actor live => ?_⟩⟩
  · rw [Roster.accepted_eq_filterMap, Roster.accepted_eq_filterMap, (calm serving).1.1.1]
  · exact ⟨fuel, (calm serving).1.1.2⟩
  · exact (calm serving).1.2
  · have known := reached.sound.lt_of_find? (of_decide_eq_true live)
    have lasts := List.all_eq_true.1 (calm serving).2 actor (List.mem_range.2 known)
    rwa [live, Bool.not_true, Bool.false_or] at lasts

end Engine

/-- A module whose actors, if they have arguments, launch another one on each message and bind a
name. -/
def clerk : Module Unit where
  create := .ok {
    init := fun _ args =>
      if args = "" then .finish (.ok ()) else .setCallback () fun _ => .finish (.ok ())
    receive := fun _ _ _ =>
      .command (.launch "clerk" "") fun _ => .command (.reg (some "desk")) fun _ =>
        .finish (.ok ()) }

theorem Reachable.run_until_idle_ends_of_clerk :
    ∃ engine enough after, Reachable pairwise [("clerk", clerk)] { engine, tasks := [] } ∧
      engine.roster.exchange.queued = 4 ∧
      engine.runUntilIdle? enough = some (3, after) ∧ after.roster.exchange.waiting = [] := by
  have created : Engine.create pairwise [("clerk", clerk)] = .ok _ := rfl
  have rested := (Reachable.created created).performAll (Option.some_get
    (by decide +kernel : (Engine.performAll? 9 [.create "clerk" "busy", .create "clerk" "",
      .send none (.handle ⟨1⟩) 1 [], .send none (.handle ⟨1⟩) 2 [], .send none (.handle ⟨1⟩) 3 [],
      .send none (.handle ⟨2⟩) 4 []] _).isSome)).symm
  obtain ⟨quiet, lasting⟩ := Engine.quiet_and_lasting_of_calm rested 9 60 (by decide +kernel)
    (by decide +kernel) (by decide +kernel)
  obtain ⟨_, enough, invoked, after, _, ends, idle, _, _, all⟩ := rested.run_until_idle_ends quiet
  have three := all lasting
  rw [show Exchange.queuedFor _ _ = 3 by decide +kernel] at three
  exact ⟨_, _, after, rested, by decide +kernel, three ▸ ends _ (Nat.lt_succ_self _), idle⟩

end Mailroom
