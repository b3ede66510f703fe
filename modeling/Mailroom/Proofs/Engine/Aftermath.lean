import Mailroom.Proofs.Engine.Closed
import Mailroom.Proofs.Engine.Scheduling
/-! # After shutdown

Once shutdown has begun it has ended, and an engine that has been shut down stays so throughout
every run: nothing that the host does brings back an actor, a name or a message. What comes of a
send then is told at the end.
-/

namespace Mailroom

variable {κ : Type}

/-! ### Whether shutdown has begun -/

section

variable {may : Request → Prop} {start stop : Engine κ × List Claim}

private theorem Happens.stopping (happens : Happens .any may start stop)
    (lasting : ¬ may .shutdown) : stop.1.stopping = start.1.stopping := by
  cases happens with
  | work works =>
    cases works with
    | steady steady => exact steady.stopping
    | endLaunch actor outcome => cases outcome <;> rfl
    | _ => rfl
  | stop allowed => exact absurd allowed lasting
  | _ => rfl

/-- Nothing but a shutdown begins one. -/
theorem Course.stopping (course : Course .any may start stop) (lasting : ¬ may .shutdown) :
    stop.1.stopping = start.1.stopping := by
  induction course with
  | refl => rfl
  | tail _ happens ih => exact (happens.stopping lasting).trans ih

end

/-! ### Runs after shutdown -/

/-- Nobody is at work, and a launch comes to nothing. -/
structure Machine.Closed (machine : Machine κ) : Prop where
  engine : machine.engine.Closed
  tasks : machine.tasks = [] ∨ (∃ module args, machine.tasks = [.launch module args]) ∨
    machine.tasks = [.launched (.error .shuttingDown)]

section

variable {may : Request → Prop} {machine after : Machine κ} {draws : List Draw}
  {served : List (Option Nat)}

theorem Machine.Closed.step (closed : machine.Closed) :
    machine.step.engine = machine.engine ∧ machine.step.Closed := by
  obtain ⟨engine, tasks⟩ := machine
  obtain ⟨closed, rfl | ⟨module, args, rfl⟩ | rfl⟩ := closed
  · exact ⟨rfl, closed, .inl rfl⟩
  · rw [Engine.Closed.step_launch closed]
    exact ⟨rfl, closed, .inr (.inr rfl)⟩
  · exact ⟨rfl, closed, .inr (.inr rfl)⟩

private theorem Leg.lingers (leg : Leg may machine draws served after) (closed : machine.Closed) :
    machine.engine.Lingers after.engine ∧ after.Closed := by
  have engine := closed.engine
  cases leg with
  | performed allowed direct performed =>
    have lingers := engine.lingers_does (Engine.does_perform direct performed)
    exact ⟨lingers, lingers.closed engine, .inl rfl⟩
  | ticked => exact ⟨engine.advance.1, engine.advance.1.closed engine, .inl rfl⟩
  | blocked idle => exact ⟨.refl _, closed⟩
  | dropped taken gone => cases (Exchange.next?_eq_none_iff.2 engine.waiting).symm.trans taken
  | servicing taken live => cases (Exchange.next?_eq_none_iff.2 engine.waiting).symm.trans taken
  | launching module args => exact ⟨.refl _, engine, .inr (.inl ⟨module, args, rfl⟩)⟩
  | @commanding resting caller module args =>
    have noted : resting.Lingers
        (resting.note (.commanded caller (Command.launch module args).keyword)) :=
      ⟨.single (.commanded ..), rfl, rfl⟩
    exact ⟨noted, noted.closed engine, .inr (.inl ⟨module, args, rfl⟩)⟩
  | stepped =>
    obtain ⟨same, stepped⟩ := closed.step
    exact ⟨same ▸ .refl _, stepped⟩
  | launched result => exact ⟨.refl _, engine, .inl rfl⟩
  | serviced invoked => exact ⟨.refl _, engine, .inl rfl⟩

private theorem Legs.lingers (legs : Legs may machine draws served after)
    (closed : machine.Closed) : machine.engine.Lingers after.engine ∧ after.Closed := by
  induction legs with
  | refl => exact ⟨.refl _, closed⟩
  | tail _ leg ih =>
    obtain ⟨lingers, closed⟩ := ih
    obtain ⟨more, closed⟩ := leg.lingers closed
    exact ⟨lingers.trans more, closed⟩

/-- Whatever the host asks for, an engine that has been shut down stays so. -/
theorem Later.lingers (later : Later may machine after) (closed : machine.Closed) :
    machine.engine.Lingers after.engine ∧ after.Closed := by
  obtain ⟨_, _, legs⟩ := later.exists_legs
  exact legs.lingers closed

end

private theorem Directory.handles_eq_nil {directory : Directory Nat}
    (placed : directory.slots.Placed)
    (vacant : ∀ handle, directory.find? handle = none) : directory.handles = [] := by
  rw [List.eq_nil_iff_forall_not_mem]
  intro handle member
  obtain ⟨actor, found⟩ := (directory.mem_handles_iff handle placed).1 member
  exact nomatch (vacant handle).symm.trans found

/-- What there is of an engine that has been shut down, at any time after that. -/
structure Engine.Aftermath (engine : Engine κ) (machine : Machine κ) : Prop where
  directory : machine.engine.roster.directory = engine.roster.directory
  handles : machine.engine.roster.directory.handles = []
  vacant (handle : Handle) : machine.engine.roster.find? handle = none
  unnamed (name : String) : machine.engine.findName? name = none
  waiting : machine.engine.roster.exchange.waiting = []
  messages (box : Nat) : machine.engine.roster.exchange.messages box = []
  work : machine.engine.roster.work = engine.roster.work
  /-- Each timer that expired since then was followed by its dead letter. -/
  answered : ∃ new, machine.engine.roster.past = new ++ engine.roster.past ∧ Answered new
  expires : machine.engine.advance.roster.letters = machine.engine.roster.letters ++
    machine.engine.timer.tick.1.map fun node =>
      (none, .ofMessage node.target.text (.expiry node.session) .shuttingDown)
  blocked (fuel : Nat) : machine.engine.dispatchOnce? fuel = some (.blocked, machine.engine)
  refuses (fuel : Nat) (module args : String) :
    machine.engine.create? (fuel + 2) module args = some (.error .shuttingDown, machine.engine)
  refused (result : Except LaunchError Handle) (told : machine.tasks = [.launched result]) :
    result = .error .shuttingDown
  idle (actor : Nat) (purpose : Purpose) (program : Program κ) :
    .run actor purpose program ∉ machine.tasks

namespace Reachable

variable {config : Config} {modules : List (String × Module κ)} {machine : Machine κ}
  {engine : Engine κ}

/-- Once shutdown has begun it has ended, and nothing is left. -/
theorem closed (reached : Reachable config modules machine)
    (stopping : machine.engine.stopping = true) : machine.Closed := by
  induction reached with
  | created created =>
    unfold Engine.create at created
    split at created
    · exact nomatch created
    · obtain rfl := Except.ok.inj created
      exact nomatch stopping
  | @performed engine after fuel request answer rested performed ih =>
    cases begun : engine.stopping with
    | true =>
      have later : Later (fun _ => True) { engine, tasks := [] } _ :=
        .single (.performed trivial performed)
      exact (later.lingers (ih begun)).2
    | false =>
      by_cases shuts : request = .shutdown
      · subst shuts
        obtain ⟨_, rfl⟩ := Prod.mk.inj (Option.some.inj performed)
        exact ⟨(Engine.closed_shutdown rested.sound rested.named begun).1, .inl rfl⟩
      · have next : Next (· ≠ .shutdown) { engine, tasks := [] } { engine := after, tasks := [] } :=
          .performed shuts performed
        have same : after.stopping = engine.stopping :=
          (next.course rested.consistent).stopping fun differs => differs rfl
        exact nomatch begun.symm.trans (same.symm.trans stopping)
  | launching _ module args ih =>
    exact ⟨(ih stopping).engine, .inr (.inl ⟨module, args, rfl⟩)⟩
  | @commanding engine _ caller module args ih =>
    have later : Later (fun _ => True) { engine, tasks := [] } _ :=
      .single (.commanding caller module args)
    exact (later.lingers (ih stopping)).2
  | @servicing engine box actor exchange _ taken live ih =>
    have later : Later (fun _ => True) { engine, tasks := [] } _ := .single (.servicing taken live)
    exact (later.lingers (ih stopping)).2
  | @stepped machine _ ih =>
    have course : Course .any (· ≠ .shutdown) machine.state machine.step.state :=
      machine.course_step
    have same : machine.step.engine.stopping = machine.engine.stopping :=
      Course.stopping course fun differs => differs rfl
    exact (ih (same.symm.trans stopping)).step.2

private theorem closed_shutdown (rested : Reachable config modules { engine, tasks := [] }) :
    engine.shutdown.Closed ∧ engine.Shuts engine.shutdown := by
  cases begun : engine.stopping with
  | false => exact Engine.closed_shutdown rested.sound rested.named begun
  | true =>
    have closed := (rested.closed begun).engine
    have handles := Directory.handles_eq_nil rested.sound.placed closed.vacant
    rw [closed.shutdown_eq]
    refine ⟨closed, ?_, rfl, ?_⟩
    · rw [closed.waiting, List.flatMap_nil, List.append_nil]
    · rw [handles, List.append_nil]

/-- A shutdown turns every message into a dead letter, mailbox by mailbox in the order of the run
queue, and retires whoever is live, and nothing that the host does afterwards brings back an actor,
a name or a message. -/
theorem shutdown_is_final (rested : Reachable config modules { engine, tasks := [] }) :
    engine.roster.exchange.waiting.Nodup ∧
    (∀ box, engine.roster.exchange.messages box ≠ [] → box ∈ engine.roster.exchange.waiting) ∧
    engine.Shuts engine.shutdown ∧
    ∀ machine, Later (fun _ => True) { engine := engine.shutdown, tasks := [] } machine →
      engine.shutdown.Aftermath machine := by
  have owned : engine.roster.exchange.Owned [] := rested.sound.owned
  obtain ⟨closed, shuts⟩ := rested.closed_shutdown
  have after : Reachable config modules { engine := engine.shutdown, tasks := [] } :=
    @Reachable.performed _ _ _ _ _ 0 .shutdown _ rested rfl
  refine ⟨owned.nodup_waiting, fun box => owned.mem_waiting, shuts, fun machine later => ?_⟩
  obtain ⟨lingers, later⟩ := later.lingers ⟨closed, .inl rfl⟩
  have frame := lingers.roster.frame
  have last := later.engine
  exact {
    directory := congrArg (·.directory) frame
    handles := by
      rw [frame]
      exact Directory.handles_eq_nil after.sound.placed closed.vacant
    vacant := last.vacant
    unnamed := last.unnamed
    waiting := last.waiting
    messages := fun box => by
      rw [frame]
      exact after.sound.owned.messages_eq_nil closed.waiting box
    work := lingers.roster.work
    answered := lingers.roster.answered
    expires := last.advance.2
    blocked := last.dispatchOnce_eq
    refuses := last.create_eq
    refused := fun result told => by
      obtain none | ⟨_, _, launch⟩ | same := later.tasks
      · exact nomatch told.symm.trans none
      · exact nomatch told.symm.trans launch
      · injection told.symm.trans same with head
        injection head
    idle := fun actor purpose program member => by
      obtain rests | ⟨_, _, launch⟩ | told := later.tasks
      · rw [rests] at member
        exact nomatch member
      · rw [launch] at member
        exact nomatch List.mem_singleton.1 member
      · rw [told] at member
        exact nomatch List.mem_singleton.1 member }

/-- Two actors have sent themselves a message, and one of them is retired. After the shutdown a
timer expires. -/
theorem shutdown_is_final_of_selfSender :
    ∃ engine machine, Reachable Config.standard [("self", selfSender)] { engine, tasks := [] } ∧
      engine.roster.exchange.waiting = [0, 1] ∧ engine.roster.directory.handles = [⟨2⟩] ∧
      engine.shutdown.roster.letters =
        [(some 0, ⟨":00000001", some ⟨1⟩, 1, [], .shuttingDown⟩),
          (some 1, ⟨":00000002", some ⟨2⟩, 1, [], .shuttingDown⟩)] ∧
      machine.engine.roster.letters = engine.shutdown.roster.letters ++
        [(none, ⟨":00000002", none, 7, [], .shuttingDown⟩)] ∧
      engine.shutdown.Aftermath machine := by
  have created : Engine.create Config.standard [("self", selfSender)] = .ok _ := rfl
  have rested := (Reachable.created created).performAll (Option.some_get (by decide +kernel :
    (Engine.performAll? 9 [.create "self" "", .create "self" "", .retire ⟨1⟩] _).isSome)).symm
  obtain ⟨_, _, shuts, final⟩ := rested.shutdown_is_final
  have last := final _ (Later.performAll .refl (fun _ _ => trivial) (Option.some_get
    (by decide +kernel : (Engine.performAll? 9 [.timeout ⟨2⟩ 1 7, .advance] _).isSome)).symm)
  exact ⟨_, _, rested, by decide +kernel, by decide +kernel,
    shuts.letters.trans (by decide +kernel), by decide +kernel, last⟩

end Reachable

/-! ### Sends after shutdown -/

/-- Why a send to an address is refused after shutdown, in the dead letter and to the sender. A name
is looked up first, and no name resolves any more. -/
def Address.refusal : Address → DropReason × SendError
  | .handle _ => (.shuttingDown, .shuttingDown)
  | .name label => (.unknownName, .unknownName label)

namespace Engine.Closed

variable {engine : Engine κ} (closed : engine.Closed)

include closed

private theorem sendTo_eq (destination : Address) (message : Message) :
    engine.sendTo destination message = (.error destination.refusal.2, engine.mapRoster
      (·.drop none destination.text destination.refusal.1 message)) := by
  cases destination with
  | handle target =>
    simp only [sendTo, closed.deliver_eq]
    rfl
  | name label =>
    rw [sendTo, closed.unnamed label]
    rfl

end Engine.Closed

namespace Reachable

variable {config : Config} {modules : List (String × Module κ)} {machine : Machine κ}
  {engine : Engine κ}

/-- After shutdown every send is refused and leaves one dead letter, and nothing else but the
counter of sessions changes. A send to a handle is refused because of the shutdown, one to a name
because the name is unknown. -/
theorem send_after_shutdown (rested : Reachable config modules { engine, tasks := [] })
    (later : Later (fun _ => True) { engine := engine.shutdown, tasks := [] } machine)
    (source : Option Handle) (destination : Address) (session : Int32) (payload : Payload) :
    let used := if session < 0 then nextSession machine.engine.lastSession else session
    let sent := machine.engine.send source destination session payload
    sent.1 = .error destination.refusal.2 ∧
    sent.2.roster.letters = machine.engine.roster.letters ++
      [(none, ⟨destination.text, source, used, payload, destination.refusal.1⟩)] ∧
    sent.2 = { machine.engine with
      roster := machine.engine.roster.drop none destination.text destination.refusal.1
        ⟨source, used, payload⟩
      lastSession := if session < 0 then used else machine.engine.lastSession } := by
  intro used sent
  obtain ⟨closed, _⟩ := rested.closed_shutdown
  have last := (later.lingers ⟨closed, .inl rfl⟩).2.engine
  have result : sent = (.error destination.refusal.2, { machine.engine with
      roster := machine.engine.roster.drop none destination.text destination.refusal.1
        ⟨source, used, payload⟩
      lastSession := if session < 0 then used else machine.engine.lastSession }) := by
    dsimp only [sent, used, Engine.send]
    split
    · rw [last.allocate_eq]
      have counted : Engine.Closed
          { machine.engine with lastSession := nextSession machine.engine.lastSession } :=
        ⟨last.stopping, last.running, last.vacant, last.unnamed, last.waiting⟩
      exact counted.sendTo_eq ..
    · exact last.sendTo_eq ..
  rw [result]
  exact ⟨rfl, machine.engine.roster.told_drop .., rfl⟩

theorem send_after_shutdown_to_handle :
    ∃ engine : Engine Unit, Reachable Config.standard [] { engine, tasks := [] } ∧
      (engine.shutdown.send none (.handle ⟨1⟩) (-1) []).1 = .error .shuttingDown ∧
      (engine.shutdown.send none (.handle ⟨1⟩) (-1) []).2.roster.letters =
        [(none, ⟨":00000001", none, 1, [], .shuttingDown⟩)] := by
  let modules : List (String × Module Unit) := []
  have created : Engine.create Config.standard modules = .ok _ := rfl
  have rested := Reachable.created created
  obtain ⟨refused, letters, _⟩ :=
    rested.send_after_shutdown .refl none (.handle ⟨1⟩) (-1) []
  exact ⟨_, rested, refused, letters.trans (by decide +kernel)⟩

/-- A send to a name after shutdown is not refused as a shutdown. -/
theorem name_unknown_after_shutdown :
    ∃ engine : Engine Unit, Reachable Config.standard [] { engine, tasks := [] } ∧
      (engine.shutdown.send none (.name "ghost") 1 []).1 = .error (.unknownName "ghost") ∧
      (engine.shutdown.send none (.name "ghost") 1 []).2.roster.letters =
        [(none, ⟨".ghost", none, 1, [], .unknownName⟩)] := by
  let modules : List (String × Module Unit) := []
  have created : Engine.create Config.standard modules = .ok _ := rfl
  exact ⟨_, .created created, rfl, by decide +kernel⟩

end Reachable

end Mailroom
