import Mailroom.Proofs.Engine.Deeds
import Mailroom.Proofs.Engine.Passages
import Mathlib.Algebra.BigOperators.Group.Finset.Basic
import Mathlib.Algebra.Order.BigOperators.Group.Finset
/-! # Until nothing waits

An engine that services one mailbox after another goes through one sequence of states. If no message
is accepted in any of them, each mailbox that is serviced has fewer messages afterwards, and so at last
nothing waits.
-/

namespace Mailroom

variable {κ : Type}

/-! ### Servicing one mailbox after another -/

namespace Machine

/-- What comes next while one mailbox after another is serviced. -/
def proceed (machine : Machine κ) : Machine κ :=
  match machine.tasks with
  | [] =>
    match machine.engine.roster.exchange.next? with
    | none => machine
    | some (box, exchange) =>
      let handle := exchange.handleOf box
      match machine.engine.roster.find? handle with
      | none => { engine := (machine.engine.taking exchange).dropOrphan box handle, tasks := [] }
      | some actor => machine.engine.servicing box actor exchange
  | [.serviced _] => { machine with tasks := [] }
  | _ => machine.step

private theorem proceed_of_busy {machine : Machine κ} (busy : machine.isSettled = false) :
    machine.proceed = machine.step := by
  obtain ⟨engine, tasks⟩ := machine
  unfold isSettled at busy
  dsimp only at busy
  split at busy <;> first | rfl | cases busy

private theorem course_proceed {may : Request → Prop} (machine : Machine κ) :
    Course .any may machine.state machine.proceed.state := by
  obtain ⟨engine, tasks⟩ := machine
  unfold proceed
  dsimp only
  split
  · split
    · exact .refl
    · rename_i box exchange taken
      split
      · rename_i gone
        exact Engine.course_dropOrphan trivial taken gone
      · rename_i actor live
        exact .single (.take trivial taken live)
  · exact .refl
  · exact course_step _

end Machine

namespace Engine

/-- The states that an engine at rest goes through while one mailbox after another is serviced. -/
def Serving (engine : Engine κ) (machine : Machine κ) : Prop :=
  ∃ count, Machine.proceed^[count] { engine, tasks := [] } = machine

variable {engine now after : Engine κ} {machine : Machine κ} {count : Nat}

theorem Serving.rest (engine : Engine κ) : engine.Serving { engine, tasks := [] } := ⟨0, rfl⟩

theorem Serving.proceed (serving : engine.Serving machine) : engine.Serving machine.proceed := by
  obtain ⟨count, rfl⟩ := serving
  exact ⟨count + 1, Function.iterate_succ_apply' ..⟩

/-- What holds at first, and next if it holds, holds in all these states. -/
theorem Serving.induction (serving : engine.Serving machine) (holds : Machine κ → Prop)
    (begun : holds { engine, tasks := [] })
    (next : ∀ machine, engine.Serving machine → holds machine → holds machine.proceed) :
    holds machine := by
  obtain ⟨count, rfl⟩ := serving
  induction count with
  | zero => exact begun
  | succ count ih =>
    rw [Function.iterate_succ_apply']
    exact next _ ⟨count, rfl⟩ ih

private theorem Serving.passes {later : Machine κ} (serving : engine.Serving machine)
    (passes : Machine.Passes count machine later) : engine.Serving later := by
  induction passes with
  | refl => exact serving
  | step busy _ ih => exact ih (Machine.proceed_of_busy busy ▸ serving.proceed)

theorem Serving.course {may : Request → Prop} (serving : engine.Serving machine) :
    Course .any may (engine, []) machine.state :=
  serving.induction (fun machine => Course .any may (engine, []) machine.state) .refl
    fun machine _ course => course.trans machine.course_proceed

private theorem Serving.config (serving : engine.Serving machine) :
    machine.engine.config = engine.config := by
  have course : Course .any (fun _ => True) (engine, []) machine.state := serving.course
  exact course.config

/-- No message is accepted in any of these states, and whatever launch is asked for comes to its
end. -/
structure Quiet (engine : Engine κ) : Prop where
  accepts {machine : Machine κ} (serving : engine.Serving machine) (box : Nat) :
    machine.engine.roster.accepted box = engine.roster.accepted box
  launches {now : Engine κ} {module args : String} {rest : List (Task κ)}
    (serving : engine.Serving { engine := now, tasks := .launch module args :: rest }) :
    ∃ fuel, (now.create? fuel module args).isSome = true

end Engine

/-- The callbacks that a dispatch says were invoked. -/
def DispatchOutcome.calls : DispatchOutcome → Nat
  | .dispatched invoked => invoked
  | _ => 0

/-! ### Messages that wait -/

namespace Exchange

variable {exchange after : Exchange} {number : Nat}

/-- The number of messages in all mailboxes. -/
def queued (exchange : Exchange) : Nat :=
  ∑ number ∈ Finset.range exchange.boxes.size, (exchange.messages number).length

theorem lt_of_messages (filled : exchange.messages number ≠ []) : number < exchange.boxes.size := by
  by_contra beyond
  have absent : exchange.box? number = none := Array.getElem?_eq_none (Nat.le_of_not_lt beyond)
  rw [messages, absent] at filled
  exact filled rfl

/-- Mailboxes that there are not have no messages. -/
theorem queued_eq_sum {bound : Nat} (bounds : exchange.boxes.size ≤ bound) :
    exchange.queued = ∑ number ∈ Finset.range bound, (exchange.messages number).length := by
  refine Finset.sum_subset (Finset.range_subset_range.2 bounds) fun number _ beyond => ?_
  by_contra filled
  have nonempty : exchange.messages number ≠ [] := by
    intro empty
    rw [empty] at filled
    exact filled rfl
  exact beyond (Finset.mem_range.2 (lt_of_messages nonempty))

private theorem messages_release (exchange : Exchange) (number : Nat) :
    (exchange.release number).2.messages number = [] := by
  cases found : exchange.box? number with
  | none =>
    rw [release, settleBy_of_none found, messages, found]
    rfl
  | some box =>
    rw [release, settleBy_eq found, messages_eq (box?_settle_self found _)]
    exact Mailbox.toList_emptied ..

/-- The mailbox at the head of the run queue has messages. -/
theorem Owned.filled_of_next? {hands : List Nat} (owned : exchange.Owned hands)
    (taken : exchange.next? = some (number, after)) : exchange.messages number ≠ [] := by
  have waits : number ∈ exchange.waiting := (next?_eq_some taken).1 ▸ List.mem_cons_self
  obtain ⟨box, found⟩ := owned.known (.inl waits)
  exact messages_eq found ▸ owned.filled found waits

/-- A mailbox with messages gives one out. -/
theorem take_of_filled (filled : exchange.messages number ≠ []) :
    ∃ message rest, exchange.take number = (some message, rest) := by
  cases found : exchange.box? number with
  | none =>
    rw [messages, found] at filled
    exact absurd rfl filled
  | some box =>
    rw [messages_eq found] at filled
    have spec := box.take?_spec
    cases taken : box.take? with
    | none =>
      rw [taken] at spec
      exact absurd spec filled
    | some head =>
      refine ⟨head.1, exchange.put number head.2, ?_⟩
      rw [take, found, Option.bind_some, taken, put]

/-- If no mailbox has more messages and one has fewer, there are fewer. -/
theorem queued_lt
    (fewer : ∀ number, (after.messages number).length ≤ (exchange.messages number).length)
    (less : (after.messages number).length < (exchange.messages number).length) :
    after.queued < exchange.queued := by
  let bound := max exchange.boxes.size after.boxes.size
  have filled : exchange.messages number ≠ [] := List.ne_nil_of_length_pos (by omega)
  have known := lt_of_messages filled
  rw [queued_eq_sum (le_max_left exchange.boxes.size after.boxes.size),
    queued_eq_sum (le_max_right exchange.boxes.size after.boxes.size)]
  refine Finset.sum_lt_sum (fun other _ => fewer other) ⟨number, ?_, less⟩
  exact Finset.mem_range.2 (known.trans_le (le_max_left ..))

end Exchange

namespace Machine

theorem Passes.course {may : Request → Prop} {machine after : Machine κ} {count : Nat}
    (passes : Passes count machine after) : Course .any may machine.state after.state := by
  induction passes with
  | refl => exact .refl
  | step _ _ ih => exact (course_step _).trans ih

private theorem Passes.calls_eq {machine after : Machine κ} {count : Nat}
    (passes : Passes count machine after) :
    after.engine.roster.calls + machine.calls = machine.engine.roster.calls + after.calls := by
  induction passes with
  | refl => rfl
  | @step count machine after busy passes ih =>
    have deed : Deed .any machine machine.step :=
      machine.deed_step (fun _ _ => trivial) fun _ _ => trivial
    have first := deed.calls_eq
    omega

/-- Work that is done to its end begins with a step. -/
theorem Passes.of_busy {machine after : Machine κ} {count : Nat} (passes : Passes count machine after)
    (busy : machine.isSettled = false) (settled : after.isSettled = true) :
    ∃ count, Passes count machine.step after := by
  cases passes with
  | refl => cases busy.symm.trans settled
  | step _ passes => exact ⟨_, passes⟩

/-- A message that is taken in service is gone from the mailbox. -/
theorem exchange_step_service {engine : Engine κ} {rest : List (Task κ)}
    {box actor left invoked : Nat} {found : Actor κ} {message : Message} {exchange : Exchange}
    (seen : engine.roster.actor? actor = some found)
    (took : engine.roster.exchange.take box = (some message, exchange)) :
    (step { engine, tasks := .service box actor (left + 1) invoked :: rest }).engine.roster.exchange =
      exchange := by
  simp only [step, seen, Engine.take, Engine.overRoster, Roster.overExchange, took, serve]
  split <;> rfl

/-- Servicing a mailbox comes to its end, or goes on after a message was dropped or passed to a
callback. -/
theorem step_service (engine : Engine κ) (rest : List (Task κ)) (box actor left invoked : Nat) :
    (∃ after, step { engine, tasks := .service box actor (left + 1) invoked :: rest } =
      { engine := after, tasks := .serviced invoked :: rest }) ∨
    (∃ after, step { engine, tasks := .service box actor (left + 1) invoked :: rest } =
      { engine := after, tasks := .service box actor left invoked :: rest }) ∨
    ∃ after session program,
      step { engine, tasks := .service box actor (left + 1) invoked :: rest } =
        { engine := after
          tasks := .run actor (.callback session) program ::
            .service box actor left (invoked + 1) :: rest } := by
  dsimp only [step]
  cases engine.roster.actor? actor with
  | none => exact .inl ⟨_, rfl⟩
  | some found =>
    rcases engine.take box with ⟨_ | message, taken⟩
    · exact .inl ⟨_, rfl⟩
    · right
      dsimp only [serve]
      cases found.callback with
      | none => exact .inl ⟨_, rfl⟩
      | some key => exact .inr ⟨_, _, _, rfl⟩

end Machine

namespace Engine

variable {engine now after : Engine κ} {rest : List (Task κ)}
  {box actor left invoked fuel : Nat} {exchange : Exchange}

/-! ### Servicing comes to its end -/

/-- Whatever a callback does, it comes to its end. -/
theorem Quiet.callback_ends (quiet : engine.Quiet) {session : Int32} {program : Program κ}
    (serving : engine.Serving
      { engine := now, tasks := .run actor (.callback session) program :: rest }) :
    ∃ count after, Machine.Passes count
      { engine := now, tasks := .run actor (.callback session) program :: rest }
      { engine := after, tasks := rest } := by
  obtain ⟨count, after, last, ends, runs⟩ | hangs :=
    Machine.runsOrHangs actor (.callback session) now program
  · have runs := runs id rest
    rw [Program.mapEnd_id, Program.mapEnd_id] at runs
    cases last with
    | finish outcome => exact ⟨_, _, runs.trans (.single rfl)⟩
    | panic text => exact ⟨_, _, runs.trans (.single rfl)⟩
    | _ => cases ends
  · obtain ⟨count, asking, module, args, below, passes, endless⟩ := hangs id rest
    rw [Program.mapEnd_id] at passes
    obtain ⟨fuel, launched⟩ := quiet.launches (serving.passes passes)
    rw [create?, endless.settle?] at launched
    cases launched

/-- Servicing a mailbox comes to its end. -/
theorem Quiet.service_ends (quiet : engine.Quiet)
    (serving : engine.Serving { engine := now, tasks := [.service box actor left invoked] }) :
    ∃ count after total, Machine.Passes count
      { engine := now, tasks := [.service box actor left invoked] }
      { engine := after, tasks := [.serviced total] } := by
  induction left generalizing now invoked with
  | zero => exact ⟨1, _, _, .single rfl⟩
  | succ left ih =>
    have first : Machine.Passes 1
        { engine := now, tasks := [.service box actor (left + 1) invoked] } _ := .single rfl
    obtain ⟨after, done⟩ | ⟨after, dropped⟩ | ⟨after, session, program, called⟩ :=
      Machine.step_service now [] box actor left invoked
    · exact ⟨1, after, invoked, done ▸ first⟩
    · rw [dropped] at first
      obtain ⟨count, last, total, passes⟩ := ih (serving.passes first)
      exact ⟨_, last, total, first.trans passes⟩
    · rw [called] at first
      obtain ⟨more, returned, returns⟩ := quiet.callback_ends (serving.passes first)
      have first := first.trans returns
      obtain ⟨count, last, total, passes⟩ := ih (serving.passes first)
      exact ⟨_, last, total, first.trans passes⟩

/-! ### Dispatching -/

/-- What comes of servicing the mailbox at the head of the run queue. -/
theorem dispatch_cases {outcome : DispatchOutcome}
    (dispatched : now.dispatchOnce? fuel = some (outcome, after)) (some : outcome ≠ .blocked) :
    ∃ box exchange, now.roster.exchange.next? = .some (box, exchange) ∧
      ((now.roster.find? (exchange.handleOf box) = none ∧ outcome = .dropped ∧
        after = (now.taking exchange).dropOrphan box (exchange.handleOf box)) ∨
      ∃ actor total count, now.roster.find? (exchange.handleOf box) = .some actor ∧
        outcome = .dispatched total ∧ Machine.Passes count (now.servicing box actor exchange)
          { engine := after, tasks := [.serviced total] }) := by
  unfold dispatchOnce? at dispatched
  split at dispatched
  · obtain ⟨rfl, _⟩ := Prod.mk.inj (Option.some.inj dispatched)
    exact absurd rfl some
  · rename_i box exchange taken
    refine ⟨box, exchange, taken, ?_⟩
    dsimp only at dispatched
    split at dispatched
    · rename_i gone
      obtain ⟨rfl, rfl⟩ := Prod.mk.inj (Option.some.inj dispatched)
      exact .inl ⟨gone, rfl, rfl⟩
    · rename_i actor live
      obtain ⟨⟨done, tasks⟩, settled, dispatched⟩ := Option.bind_eq_some_iff.1 dispatched
      obtain ⟨count, passes, _⟩ := Machine.passes_of_settle? settled
      split at dispatched
      · rename_i total result
        obtain ⟨rfl, rfl⟩ := Prod.mk.inj (Option.some.inj dispatched)
        dsimp only at result
        subst result
        exact .inr ⟨actor, total, count, live, rfl, passes⟩
      · cases dispatched

/-- Fuel that lasts for servicing a mailbox lasts for dispatching it. -/
theorem dispatchOnce?_of_passes (taken : now.roster.exchange.next? = some (box, exchange))
    (live : now.roster.find? (exchange.handleOf box) = some actor) {count total : Nat}
    (passes : Machine.Passes count (now.servicing box actor exchange)
      { engine := after, tasks := [.serviced total] }) (lasts : count < fuel) :
    now.dispatchOnce? fuel = some (.dispatched total, after) := by
  have settled : Machine.settle? fuel (now.servicing box actor exchange) =
      some { engine := after, tasks := [.serviced total] } := by
    obtain ⟨more, rfl⟩ := Nat.exists_eq_add_of_lt lasts
    rw [passes.settle?_eq, if_pos (by omega), show count + more + 1 - count = more + 1 by omega]
    rfl
  have live : (now.mapRoster ({ · with exchange })).roster.find? (exchange.handleOf box) =
      some actor := live
  simp only [dispatchOnce?, taken, live]
  exact Option.bind_eq_some_iff.2 ⟨_, settled, rfl⟩

private theorem Serving.servicing (serving : engine.Serving { engine := now, tasks := [] })
    (taken : now.roster.exchange.next? = some (box, exchange))
    (live : now.roster.find? (exchange.handleOf box) = some actor) :
    engine.Serving (now.servicing box actor exchange) := by
  have proceeds := serving.proceed
  simp only [Machine.proceed, taken, live] at proceeds
  exact proceeds

/-- As long as there is a mailbox to service it is dispatched. -/
theorem Quiet.dispatch_ends (quiet : engine.Quiet)
    (serving : engine.Serving { engine := now, tasks := [] })
    (taken : now.roster.exchange.next? = some (box, exchange)) :
    ∃ enough outcome after, outcome ≠ .blocked ∧
      ∀ fuel, enough < fuel → now.dispatchOnce? fuel = some (outcome, after) := by
  cases live : now.roster.find? (exchange.handleOf box) with
  | none =>
    refine ⟨0, .dropped, (now.taking exchange).dropOrphan box (exchange.handleOf box), by simp,
      fun fuel _ => ?_⟩
    have gone : (now.mapRoster ({ · with exchange })).roster.find? (exchange.handleOf box) = none :=
      live
    simp only [dispatchOnce?, taken, gone]
    rfl
  | some actor =>
    obtain ⟨count, after, total, passes⟩ := quiet.service_ends (serving.servicing taken live)
    exact ⟨count, .dispatched total, after, by simp,
      fun fuel lasts => dispatchOnce?_of_passes taken live passes lasts⟩

/-- After a dispatch the engine is at rest again and goes on. -/
theorem Serving.dispatched {outcome : DispatchOutcome}
    (serving : engine.Serving { engine := now, tasks := [] })
    (dispatched : now.dispatchOnce? fuel = some (outcome, after)) (some : outcome ≠ .blocked) :
    engine.Serving { engine := after, tasks := [] } := by
  obtain ⟨box, exchange, taken, ⟨gone, _, rfl⟩ | ⟨actor, total, count, live, _, passes⟩⟩ :=
    dispatch_cases dispatched some
  · have proceeds := serving.proceed
    simp only [Machine.proceed, taken, gone] at proceeds
    exact proceeds
  · exact ((serving.servicing taken live).passes passes).proceed

/-- An orphan's mailbox is released on behalf of the actor that is gone. -/
theorem dropOrphan_eq (engine : Engine κ) (exchange : Exchange) (box : Nat) (handle : Handle) :
    ((engine.taking exchange).dropOrphan box handle).roster =
      Roster.release { engine.roster.note (.orphaned handle (exchange.release box).1.length) with
        exchange } box handle .retired := rfl

theorem entries_dropOrphan (engine : Engine κ) (exchange : Exchange) (box : Nat) (handle : Handle) :
    Roster.Entries False engine.roster
      ((engine.taking exchange).dropOrphan box handle).roster := by
  have noted : Roster.Entries False engine.roster
      { engine.roster.note (.orphaned handle (exchange.release box).1.length) with exchange } :=
    engine.roster.entries_note _ rfl
  exact noted.trans (Roster.entries_settleBy _ Exchange.release .retired box handle)

/-- A dispatch says how many callbacks it invoked. -/
theorem calls_of_dispatch {outcome : DispatchOutcome}
    (dispatched : now.dispatchOnce? fuel = some (outcome, after)) (some : outcome ≠ .blocked) :
    after.roster.calls = now.roster.calls + outcome.calls := by
  obtain ⟨box, exchange, taken, ⟨gone, rfl, rfl⟩ | ⟨actor, total, count, live, rfl, passes⟩⟩ :=
    dispatch_cases dispatched some
  · exact (now.entries_dropOrphan exchange box _).calls_eq
  · exact passes.calls_eq

private theorem serviceMany_of_dispatch {outcome : DispatchOutcome}
    (dispatched : now.dispatchOnce? fuel = some (outcome, after)) (some : outcome ≠ .blocked)
    (services sofar : Nat) :
    runUntilIdle?.serviceMany fuel (services + 1) sofar now =
      runUntilIdle?.serviceMany fuel services (sofar + outcome.calls) after := by
  rw [runUntilIdle?.serviceMany, dispatched]
  cases outcome with
  | blocked => exact absurd rfl some
  | dispatched invoked => rfl
  | dropped => rfl

/-! ### Mailboxes get emptier -/

/-- Whoever services a mailbox begins with the message in front. -/
theorem first_message (consistent : Consistent (now, []))
    (taken : now.roster.exchange.next? = some (box, exchange))
    (live : now.roster.find? (exchange.handleOf box) = some actor)
    (positive : 0 < now.config.messagesPerRun) :
    ∃ message, now.roster.exchange.messages box =
      message :: (now.servicing box actor exchange).step.engine.roster.exchange.messages box := by
  have filled := consistent.sound.owned.filled_of_next? taken
  rw [← Exchange.messages_of_next? taken box] at filled ⊢
  obtain ⟨message, rest, took⟩ := Exchange.take_of_filled filled
  have listed : (now.taking exchange).roster.handle? actor = some (exchange.handleOf box) :=
    consistent.sound.listed live
  have known : ((now.taking exchange).roster.hold actor).handle? actor =
      some (exchange.handleOf box) := by
    rw [Roster.hold, Roster.handle?_modify]
    · exact listed
    · exact fun _ => rfl
  obtain ⟨found, seen, _⟩ := Option.map_eq_some_iff.1 known
  obtain ⟨left, batch⟩ := Nat.exists_eq_succ_of_ne_zero (Nat.ne_of_gt positive)
  refine ⟨message, ?_⟩
  rw [servicing, batch, Machine.exchange_step_service seen took]
  exact Exchange.messages_take_self took

section

variable {config : Config} {modules : List (String × Module κ)} {machine later : Machine κ}
  (reached : Reachable config modules { engine, tasks := [] })

include reached

theorem Serving.consistent (serving : engine.Serving machine) : Consistent machine.state := by
  have course : Course .any (fun _ => True) (engine, []) machine.state := serving.course
  exact course.consistent reached.consistent

theorem Serving.recorded (serving : engine.Serving machine) : machine.engine.roster.Recorded := by
  have course : Course .any (fun _ => True) (engine, []) machine.state := serving.course
  exact reached.recorded.moves reached.consistent.sound (course.moves reached.consistent)

/-- What is in a mailbox later was in it before. -/
theorem Quiet.messages_suffix (quiet : engine.Quiet) (serving : engine.Serving machine)
    (serving' : engine.Serving later)
    (course : Course .any (fun _ => True) machine.state later.state) (box : Nat) :
    later.engine.roster.exchange.messages box <:+ machine.engine.roster.exchange.messages box := by
  obtain ⟨new, past⟩ := course.suffix
  have accepted := (quiet.accepts serving' box).trans (quiet.accepts serving box).symm
  have messages := (serving.recorded reached).messages_of_past (serving'.recorded reached)
    past.symm accepted
  exact ⟨_, messages.symm⟩

/-- Every dispatch takes a message out of the mailbox that it services, and none comes into any. -/
theorem Quiet.queued_lt (quiet : engine.Quiet) {outcome : DispatchOutcome}
    (serving : engine.Serving { engine := now, tasks := [] })
    (dispatched : now.dispatchOnce? fuel = some (outcome, after)) (some : outcome ≠ .blocked) :
    after.roster.exchange.queued < now.roster.exchange.queued := by
  have ended := serving.dispatched dispatched some
  have consistent : Consistent (now, []) := serving.consistent reached
  obtain ⟨_, legs⟩ := exists_legs_dispatchOnce (fun _ => True) dispatched
  have course := legs.course consistent
  have fewer (box : Nat) := (quiet.messages_suffix reached serving ended course box).length_le
  obtain ⟨box, exchange, taken, done⟩ := dispatch_cases dispatched some
  have filled := consistent.sound.owned.filled_of_next? taken
  have less : (after.roster.exchange.messages box).length <
      (now.roster.exchange.messages box).length := by
    obtain ⟨gone, _, rfl⟩ | ⟨actor, total, count, live, _, passes⟩ := done
    · rw [dropOrphan_eq, Roster.release, Roster.settleBy_frame]
      dsimp only
      rw [Exchange.messages_release]
      exact List.length_pos_of_ne_nil filled
    · -- the first step takes a message, and none comes in afterwards
      have positive : 0 < now.config.messagesPerRun := by
        have batch := reached.messagesPerRun_pos
        rwa [← reached.config_eq, ← serving.config] at batch
      obtain ⟨message, head⟩ := first_message consistent taken live positive
      have serviced := (serving.servicing taken live).passes (.single rfl)
      obtain ⟨more, rest⟩ := passes.of_busy rfl rfl
      have shorter := quiet.messages_suffix reached serviced (serviced.passes rest) rest.course box
      have bound := shorter.length_le
      rw [head, List.length_cons]
      exact Nat.lt_succ_of_le bound
  exact Exchange.queued_lt fewer less

/-- Servicing one mailbox after another comes to its end, after at most one dispatch for each message
and one that finds nothing. -/
theorem Quiet.idles (quiet : engine.Quiet)
    (serving : engine.Serving { engine := now, tasks := [] }) :
    ∃ enough total after, engine.Serving { engine := after, tasks := [] } ∧
      after.roster.exchange.waiting = [] ∧ after.roster.calls = now.roster.calls + total ∧
      ∀ fuel services sofar, enough < fuel → now.roster.exchange.queued < services →
        runUntilIdle?.serviceMany fuel services sofar now = some (sofar + total, after) := by
  induction size : now.roster.exchange.queued using Nat.strong_induction_on generalizing now with
  | _ size ih =>
    subst size
    cases taken : now.roster.exchange.next? with
    | none =>
      refine ⟨0, 0, now, serving, Exchange.next?_eq_none_iff.1 taken, rfl,
        fun fuel services sofar _ enough => ?_⟩
      obtain ⟨services, rfl⟩ := Nat.exists_eq_add_of_lt enough
      simp only [runUntilIdle?.serviceMany, dispatchOnce?, taken, Nat.add_zero]
    | some head =>
      obtain ⟨lasts, outcome, after, some, dispatches⟩ := quiet.dispatch_ends serving taken
      have dispatched := dispatches (lasts + 1) (Nat.lt_succ_self lasts)
      have less := quiet.queued_lt reached serving dispatched some
      obtain ⟨enough, total, last, ends, idle, calls, services_enough⟩ :=
        ih _ less (serving.dispatched dispatched some) rfl
      refine ⟨max lasts enough, outcome.calls + total, last, ends, idle, ?_, ?_⟩
      · rw [calls, calls_of_dispatch dispatched some, Nat.add_assoc]
      · intro fuel services sofar lasting bound
        obtain ⟨services, rfl⟩ := Nat.exists_eq_succ_of_ne_zero (Nat.ne_of_gt (Nat.zero_lt_of_lt bound))
        rw [serviceMany_of_dispatch (dispatches fuel (by omega)) some, services_enough _ _ _
          (by omega) (by omega), Nat.add_assoc]

end

end Engine

end Mailroom
