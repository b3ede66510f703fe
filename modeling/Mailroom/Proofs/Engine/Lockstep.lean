import Mailroom.Proofs.Engine.Likeness
import Mailroom.Proofs.Engine.Steps
/-! # Engines in lockstep

Engines that are alike do the same work step by step, and whatever the host asks of them has the
same answer and leaves them alike. A queue may grow in one of them and not in the other at any step,
also while a callback or an init runs, and nothing shows of what they noted before.
-/

namespace Mailroom

variable {κ : Type}

namespace Machine

/-- Two machines with the same work in progress on engines that are alike. -/
structure Alike (kind : Likeness) (machine twin : Machine κ) : Prop where
  engine : machine.engine.Alike kind twin.engine
  tasks : twin.tasks = machine.tasks

variable {kind : Likeness} {engine twin : Engine κ} {rest : List (Task κ)} {actor : Nat}

/-! ### Steps -/

private theorem alike_endProgram (alike : engine.Alike kind twin) (rest : List (Task κ))
    (actor : Nat) (purpose : Purpose) (outcome : Except InitError Unit) :
    (endProgram engine rest actor purpose outcome).Alike kind
      (endProgram twin rest actor purpose outcome) := by
  cases purpose with
  | init =>
    obtain ⟨answer, left, right, result, result', ended⟩ := (alike.endLaunch actor outcome).cases
    dsimp only [endProgram]
    rw [result, result']
    exact ⟨ended, rfl⟩
  | callback session =>
    obtain ⟨same, roster⟩ := alike
    exact ⟨.intro same roster, rfl⟩

private theorem alike_breakOff (alike : engine.Alike kind twin) (rest : List (Task κ)) (actor : Nat)
    (purpose : Purpose) (text : Option String) :
    (breakOff engine rest actor purpose text).Alike kind
      (breakOff twin rest actor purpose text) := by
  cases purpose with
  | init => exact alike_endProgram alike rest actor .init (Engine.initPanicked text)
  | callback session =>
    dsimp only [breakOff]
    rw [alike.roster.handleOf_eq]
    exact alike_endProgram (alike.note _) rest actor _ _

private theorem alike_command (alike : engine.Alike kind twin) (rest : List (Task κ)) (actor : Nat)
    (purpose : Purpose) (command : Command) (next : Except CommandError Reply → Program κ) :
    (act engine rest actor purpose (.command command next)).Alike kind
      (act twin rest actor purpose (.command command next)) := by
  have noted := alike.note (.commanded (engine.roster.handleOf actor) command.keyword)
  obtain ⟨answer, left, right, result, result', obeyed⟩ :=
    (noted.obey (engine.roster.handleOf actor) command).cases
  have handle := alike.roster.handleOf_eq actor
  cases command with
  | launch module args =>
    simp only [act, handle]
    exact ⟨noted, rfl⟩
  | _ =>
    simp only [act, handle, result, result']
    exact ⟨obeyed, rfl⟩

private theorem alike_act (alike : engine.Alike kind twin) (rest : List (Task κ)) (actor : Nat)
    (purpose : Purpose) (program : Program κ) :
    (act engine rest actor purpose program).Alike kind (act twin rest actor purpose program) := by
  cases program with
  | finish outcome => exact alike_endProgram alike rest actor purpose outcome
  | panic text => exact alike_breakOff alike rest actor purpose text
  | send destination session payload next =>
    obtain ⟨answer, left, right, result, result', sent⟩ :=
      (alike.sendAs actor destination session payload).cases
    simp only [act, result, result']
    exact ⟨sent, rfl⟩
  | command command next => exact alike_command alike rest actor purpose command next
  | setCallback key next =>
    obtain ⟨answer, left, right, result, result', set⟩ :=
      (alike.overRoster (·.setCallback actor key) (·.setCallback actor key)
        (alike.roster.setCallback actor key)).cases
    simp only [act, result, result']
    exact ⟨set, rfl⟩
  | become key next =>
    exact ⟨alike.mapRoster (·.become actor key) (alike.roster.modify actor _), rfl⟩
  | report report next =>
    dsimp only [act]
    rw [alike.roster.handleOf_eq]
    exact ⟨alike.note _, rfl⟩

private theorem alike_serve (alike : engine.Alike kind twin) (rest : List (Task κ))
    (found : Actor κ) (box actor left invoked : Nat) (message : Message) :
    (serve engine rest found box actor left invoked message).Alike kind
      (serve twin rest found box actor left invoked message) := by
  unfold serve
  split
  · exact ⟨alike.mapRoster (·.drop (some box) found.handle.text .noCallback message)
      (alike.roster.drop ..), rfl⟩
  · exact ⟨(alike.note _).note _, rfl⟩

theorem Alike.step {machine twin : Machine κ} (alike : machine.Alike kind twin) :
    machine.step.Alike kind twin.step := by
  obtain ⟨engine, tasks⟩ := machine
  obtain ⟨twin, _⟩ := twin
  obtain ⟨alike, same⟩ := alike
  dsimp only at same alike
  subst same
  unfold Machine.step
  dsimp only
  split
  · rename_i module args rest
    obtain ⟨begun, left, right, result, result', launched⟩ := (alike.beginLaunch module args).cases
    rw [result, result']
    cases begun with
    | ok started => exact ⟨launched, rfl⟩
    | error cause => exact ⟨launched, rfl⟩
  · rename_i actor purpose program rest
    exact alike_act alike rest actor purpose program
  · exact ⟨alike, rfl⟩
  · rename_i box actor invoked rest
    exact ⟨alike.endService box actor, rfl⟩
  · rename_i box actor left invoked rest
    rw [alike.roster.actor?_eq]
    split
    · exact ⟨alike.endService box actor, rfl⟩
    · obtain ⟨taken, left, right, result, result', taking⟩ := (alike.take box).cases
      rw [result, result']
      cases taken with
      | none => exact ⟨taking.endService box actor, rfl⟩
      | some message => exact alike_serve taking ..
  · exact ⟨alike, rfl⟩

theorem Alike.settle? {machine twin : Machine κ} (alike : machine.Alike kind twin) (fuel : Nat) :
    Option.Rel (Alike kind) (settle? fuel machine) (settle? fuel twin) := by
  induction fuel generalizing machine twin with
  | zero => exact .none
  | succ fuel ih =>
    have settled : twin.isSettled = machine.isSettled := by
      rw [isSettled, isSettled, alike.tasks]
    rw [Machine.settle?, Machine.settle?, settled]
    split
    · exact .some alike
    · exact ih alike.step

end Machine

namespace Engine

variable {kind : Likeness} {engine twin : Engine κ}

namespace Alike

/-! ### What the host asks for -/

private theorem create? (alike : engine.Alike kind twin) (fuel : Nat) (module args : String) :
    Option.Rel (Agree (Alike kind)) (engine.create? fuel module args)
      (twin.create? fuel module args) := by
  have begun : Machine.Alike kind { engine, tasks := [.launch module args] }
      { engine := twin, tasks := [.launch module args] } := ⟨alike, rfl⟩
  refine rel_bind (begun.settle? fuel) fun done done' same => ?_
  rw [same.tasks]
  split
  · exact .some ⟨rfl, same.engine⟩
  · exact .none

private theorem command? (alike : engine.Alike kind twin) (fuel : Nat) (caller : Handle)
    (command : Command) :
    Option.Rel (Agree (Alike kind)) (engine.command? fuel caller command)
      (twin.command? fuel caller command) := by
  have noted := alike.note (.commanded caller command.keyword)
  have obeyed := noted.obey caller command
  cases command with
  | launch module args =>
    refine rel_map (noted.create? fuel module args) fun launched launched' same => ⟨?_, same.alike⟩
    dsimp only
    rw [same.answer]
  | _ => exact .some obeyed

private theorem taking (alike : engine.Alike kind twin) {exchange other : Exchange}
    (exchanges : kind.Exchanges exchange other) :
    (engine.taking exchange).Alike kind (twin.taking other) := by
  obtain ⟨same, ⟨_, journals⟩⟩ := alike
  exact .intro same (.intro exchanges journals)

private theorem dropOrphan (alike : engine.Alike kind twin) (box : Nat) (handle : Handle) :
    (engine.dropOrphan box handle).Alike kind (twin.dropOrphan box handle) := by
  obtain ⟨returned, left, right, result, result', released⟩ :=
    (alike.roster.overExchange fun _ _ exchanges => exchanges.release box).cases
  refine alike.mapRoster _ ?_
  rw [result, result']
  exact (released.note _).dropAll box handle .retired returned

theorem servicing (alike : engine.Alike kind twin) (box actor : Nat) {exchange other : Exchange}
    (exchanges : kind.Exchanges exchange other) :
    (engine.servicing box actor exchange).Alike kind (twin.servicing box actor other) where
  engine := (alike.taking exchanges).mapRoster (·.hold actor)
    ((alike.taking exchanges).roster.hold actor)
  tasks := by
    obtain ⟨_, _⟩ := alike
    rfl

private theorem dispatchOnce? (alike : engine.Alike kind twin) (fuel : Nat) :
    Option.Rel (Agree (Alike kind)) (engine.dispatchOnce? fuel) (twin.dispatchOnce? fuel) := by
  unfold Engine.dispatchOnce?
  obtain ⟨none, none'⟩ | ⟨box, left, right, found, found', exchanges⟩ :=
    Agree.cases_rel alike.roster.exchange.next?
  · rw [none, none']
    exact .some ⟨rfl, alike⟩
  · have taken := alike.taking exchanges
    have live : (twin.mapRoster ({ · with exchange := right })).roster.find? (left.handleOf box) =
        (engine.mapRoster ({ · with exchange := left })).roster.find? (left.handleOf box) :=
      taken.roster.find?_eq (left.handleOf box)
    rw [found, found']
    dsimp only
    rw [exchanges.alike.handleOf_eq, live]
    split
    · exact .some ⟨rfl, taken.dropOrphan box (left.handleOf box)⟩
    · rename_i actor _
      have settled := (alike.servicing box actor exchanges).settle? fuel
      refine rel_bind settled fun done done' same => ?_
      rw [same.tasks]
      split
      · exact .some ⟨rfl, same.engine⟩
      · exact .none

private theorem serviceMany (alike : engine.Alike kind twin) (fuel services invoked : Nat) :
    Option.Rel (Agree (Alike kind)) (runUntilIdle?.serviceMany fuel services invoked engine)
      (runUntilIdle?.serviceMany fuel services invoked twin) := by
  induction services generalizing engine twin invoked with
  | zero => exact .none
  | succ services ih =>
    rw [runUntilIdle?.serviceMany, runUntilIdle?.serviceMany]
    obtain ⟨none, none'⟩ | ⟨outcome, left, right, found, found', rest⟩ :=
      Agree.cases_rel (alike.dispatchOnce? fuel)
    · rw [none, none']
      exact .none
    · rw [found, found']
      cases outcome with
      | blocked => exact .some ⟨rfl, rest⟩
      | dispatched more => exact ih rest (invoked + more)
      | dropped => exact ih rest invoked

private theorem running_eq (alike : engine.Alike kind twin) : twin.running = engine.running := by
  obtain ⟨_, _⟩ := alike
  rfl

private theorem workUntil? (alike : engine.Alike kind twin) (fuel : Nat) (met : Engine κ → Bool)
    (same : ∀ engine twin : Engine κ, engine.Alike kind twin → met twin = met engine) :
    Option.Rel (Alike kind) (engine.workUntil? fuel met) (twin.workUntil? fuel met) := by
  have ticked (ticks : Nat) {engine twin : Engine κ} (alike : engine.Alike kind twin) :
      Option.Rel (Alike kind) (workUntil?.tickUntil fuel met ticks engine)
        (workUntil?.tickUntil fuel met ticks twin) := by
    induction ticks generalizing engine twin with
    | zero => exact .none
    | succ ticks ih =>
      refine rel_bind (alike.serviceMany fuel fuel 0) fun idle idle' rest => ?_
      dsimp only
      rw [same _ _ rest.alike]
      split
      · exact .some rest.alike
      · exact ih rest.alike.advance
  unfold Engine.workUntil?
  rw [alike.running_eq]
  split
  · exact ticked fuel alike
  · exact .some alike

/-! ### Starting and shutting down -/

private theorem withStopping (alike : engine.Alike kind twin) (stopping : Bool) :
    Alike kind { engine with stopping } { twin with stopping } := by
  obtain ⟨same, roster⟩ := alike
  exact .intro same roster

private theorem withRunning (alike : engine.Alike kind twin) (running : Bool) :
    Alike kind { engine with running } { twin with running } := by
  obtain ⟨same, roster⟩ := alike
  exact .intro same roster

private theorem dropWaiting (alike : engine.Alike kind twin) (box : Nat) :
    (engine.dropWaiting box).Alike kind (twin.dropWaiting box) := by
  unfold Engine.dropWaiting
  rw [alike.roster.exchange.alike.handleOf_eq]
  exact alike.mapRoster _ (alike.roster.release box _ .shuttingDown)

private theorem drain (alike : engine.Alike kind twin) (count : Nat) :
    (Engine.drain count engine).Alike kind (Engine.drain count twin) := by
  induction count generalizing engine twin with
  | zero => exact alike
  | succ count ih =>
    rw [Engine.drain, Engine.drain]
    obtain ⟨none, none'⟩ | ⟨box, left, right, found, found', exchanges⟩ :=
      Agree.cases_rel alike.roster.exchange.next?
    · rw [none, none']
      exact alike
    · rw [found, found']
      exact ih ((alike.taking exchanges).dropWaiting box)

private theorem waiting_eq (alike : engine.Alike kind twin) :
    twin.roster.exchange.runQueue.length = engine.roster.exchange.runQueue.length :=
  Queue.Alike.length_eq alike.roster.exchange.alike.runQueue

private theorem drainAll (alike : engine.Alike kind twin) :
    (Engine.drain engine.roster.exchange.runQueue.length engine).Alike kind
      (Engine.drain twin.roster.exchange.runQueue.length twin) := by
  rw [alike.waiting_eq]
  exact alike.drain _

private theorem retireAll (alike : engine.Alike kind twin) (handles : List Handle) :
    (handles.foldl (fun (engine : Engine κ) handle => (engine.retire handle).2) engine).Alike kind
      (handles.foldl (fun (engine : Engine κ) handle => (engine.retire handle).2) twin) := by
  induction handles generalizing engine twin with
  | nil => exact alike
  | cons handle rest ih => exact ih (alike.retire handle).alike

private theorem shutdown (alike : engine.Alike kind twin) :
    engine.shutdown.Alike kind twin.shutdown := by
  have begun := (alike.withStopping true).note .stopping
  unfold Engine.shutdown
  rw [alike.stopping_eq]
  split
  · exact alike
  · dsimp only
    rw [begun.directory_eq]
    exact ((begun.retireAll _).drainAll.withRunning false).note .stopped

private theorem start (alike : engine.Alike kind twin) :
    (∃ cause, engine.start = .error cause ∧ twin.start = .error cause) ∨
      ∃ left right, engine.start = .ok left ∧ twin.start = .ok right ∧ left.Alike kind right := by
  have started := (alike.withRunning true).note (.started engine.config.workerThreads)
  cases alike with
  | intro same roster =>
    unfold Engine.start
    dsimp only
    split
    · exact .inl ⟨_, rfl, rfl⟩
    · split
      · exact .inl ⟨_, rfl, rfl⟩
      · exact .inr ⟨_, _, rfl, rfl, started⟩

/-! ### Subscriptions -/

private theorem outlet_eq (alike : engine.Alike kind twin) :
    twin.roster.outlet = engine.roster.outlet := by
  obtain ⟨_, ⟨_, _⟩⟩ := alike
  rfl

private theorem withOutlet (alike : engine.Alike kind twin) (outlet : Outlet) :
    (engine.withOutlet outlet).Alike kind (twin.withOutlet outlet) :=
  alike.mapRoster ({ · with outlet }) (alike.roster.outlet fun _ => outlet)

private theorem subscribe (alike : engine.Alike kind twin) :
    engine.subscribe.Alike kind twin.subscribe := by
  unfold Engine.subscribe subscriptions
  rw [alike.outlet_eq]
  exact alike.withOutlet _

private theorem unsubscribe? (alike : engine.Alike kind twin) :
    Option.Rel (Alike kind) engine.unsubscribe? twin.unsubscribe? := by
  unfold Engine.unsubscribe?
  dsimp only [Option.bind_eq_bind]
  rw [alike.outlet_eq]
  cases engine.roster.outlet.subscribers.head? with
  | none => exact .none
  | some newest =>
    rw [Option.bind_some, Option.bind_some]
    cases engine.roster.outlet.unsubscribe? newest with
    | none => exact .none
    | some outlet => exact .some (alike.withOutlet outlet)

theorem receiveAll? (alike : engine.Alike kind twin) :
    Option.Rel (Agree (Alike kind)) engine.receiveAll? twin.receiveAll? := by
  unfold Engine.receiveAll?
  dsimp only [Option.bind_eq_bind]
  rw [alike.outlet_eq]
  cases engine.roster.outlet.subscribers.head? with
  | none => exact .none
  | some newest =>
    rw [Option.bind_some, Option.bind_some]
    cases engine.roster.outlet.receive? newest engine.roster.outlet.buffer.length with
    | none => exact .none
    | some received => exact .some ⟨rfl, alike.withOutlet received.2⟩

/-! ### Requests -/

theorem metrics_eq (alike : engine.Alike kind twin) : twin.metrics = engine.metrics := by
  have waiting := alike.waiting_eq
  obtain ⟨_, ⟨_, _⟩⟩ := alike
  unfold Engine.metrics
  rw [waiting]
  rfl

private theorem completed_eq (alike : engine.Alike kind twin) :
    twin.completed = engine.completed := by
  obtain ⟨_, _⟩ := alike
  rfl

/-- A request has the same answer and leaves engines alike that were alike. -/
theorem perform? (alike : engine.Alike kind twin) (fuel : Nat) (request : Request) :
    Option.Rel (Agree (Alike kind)) (engine.perform? fuel request)
      (twin.perform? fuel request) := by
  cases request with
  | create module args =>
    exact rel_map (alike.create? fuel module args) fun _ _ agree => agree.map Answer.launched
  | send source destination session payload =>
    exact .some ((alike.send source destination session payload).map Answer.sent)
  | command caller command =>
    exact rel_map (alike.command? fuel caller command) fun _ _ agree => agree.map Answer.replied
  | timeout target ticks session => exact .some ⟨rfl, alike.timeout target ticks session⟩
  | advance => exact .some ⟨rfl, alike.advance⟩
  | updateTime reading => exact .some ((alike.updateTime reading).map Answer.count)
  | now =>
    dsimp only [Engine.perform?, Engine.now]
    rw [alike.timer_eq]
    exact .some ⟨rfl, alike⟩
  | retire handle => exact .some ((alike.retire handle).map Answer.yesNo)
  | findName name =>
    dsimp only [Engine.perform?, findName?]
    rw [alike.directory_eq]
    exact .some ⟨rfl, alike⟩
  | bind handle name => exact .some ((alike.bind handle name).map Answer.bound)
  | dispatch =>
    exact rel_map (alike.dispatchOnce? fuel) fun _ _ agree => agree.map Answer.dispatched
  | runUntilIdle =>
    exact rel_map (alike.serviceMany fuel fuel 0) fun _ _ agree => agree.map Answer.count
  | subscribe =>
    dsimp only [Engine.perform?, subscriptions]
    rw [alike.outlet_eq]
    exact .some ⟨rfl, alike.subscribe⟩
  | unsubscribe =>
    dsimp only [Engine.perform?]
    obtain ⟨none, none'⟩ | ⟨left, right, found, found', rest⟩ := cases_rel alike.unsubscribe?
    · rw [none, none']
      exact .some ⟨rfl, alike⟩
    · rw [found, found']
      exact .some ⟨rfl, rest⟩
  | receive =>
    dsimp only [Engine.perform?, orElse]
    obtain ⟨none, none'⟩ | ⟨letters, left, right, found, found', rest⟩ :=
      Agree.cases_rel alike.receiveAll?
    · rw [none, none']
      exact .some ⟨rfl, alike⟩
    · rw [found, found']
      exact .some ⟨rfl, rest⟩
  | metrics =>
    dsimp only [Engine.perform?]
    rw [alike.metrics_eq]
    exact .some ⟨rfl, alike⟩
  | isRunning =>
    dsimp only [Engine.perform?]
    rw [alike.running_eq]
    exact .some ⟨rfl, alike⟩
  | start =>
    dsimp only [Engine.perform?]
    obtain ⟨cause, refused, refused'⟩ | ⟨left, right, started, started', rest⟩ := alike.start
    · rw [refused, refused']
      exact .some ⟨rfl, alike⟩
    · rw [started, started']
      exact .some ⟨rfl, rest⟩
  | shutdown => exact .some ⟨rfl, alike.shutdown⟩
  | awaitCallbacks count =>
    have worked := alike.workUntil? fuel (fun engine => count ≤ engine.completed)
      fun _ _ alike => by rw [alike.completed_eq]
    exact rel_map worked fun _ _ alike => ⟨congrArg Answer.count alike.completed_eq, alike⟩
  | awaitLetters count =>
    have worked := alike.workUntil? fuel
      (fun engine => count ≤ engine.roster.outlet.buffer.length)
      fun _ _ alike => by rw [alike.outlet_eq]
    exact rel_map worked fun _ _ alike => ⟨rfl, alike⟩

theorem performAll? (alike : engine.Alike kind twin) (fuel : Nat) (requests : List Request) :
    Option.Rel (Agree (Alike kind)) (engine.performAll? fuel requests)
      (twin.performAll? fuel requests) := by
  induction requests generalizing engine twin with
  | nil => exact .some ⟨rfl, alike⟩
  | cons request rest ih =>
    refine rel_bind (alike.perform? fuel request) fun first first' done => ?_
    refine rel_bind (ih done.alike) fun others others' later => ?_
    exact .some ⟨by rw [done.answer, later.answer], later.alike⟩

end Alike

end Engine

end Mailroom
