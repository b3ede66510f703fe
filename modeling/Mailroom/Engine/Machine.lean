import Mailroom.Engine.Delivery
/-! # Actors at work

An actor's program can launch another actor, whose init runs while the first program waits. Work in
progress is therefore a stack of tasks, and one step does one action of the program on top or goes
on with the task below it. Programs end, but actors may launch actors without end, so running the
stack until it is done takes fuel.
-/

namespace Mailroom

/-- Why a program runs: as an actor's init, or as its callback on a session. -/
inductive Purpose where
  | init
  | callback (session : Int32)
deriving DecidableEq, Repr

/-- Work in progress. -/
inductive Task (κ : Type) where
  /-- An actor has to be launched from a module. -/
  | launch (module args : String)
  /-- A program of an actor runs. -/
  | run (actor : Nat) (purpose : Purpose) (program : Program κ)
  /-- A program of an actor waits for a launch it asked for. -/
  | resume (actor : Nat) (purpose : Purpose) (next : Except CommandError Reply → Program κ)
  /-- A launch has come to its end. -/
  | launched (result : Except LaunchError Handle)
  /-- An actor receives at most `left` more messages of a mailbox; `invoked` callbacks were
  invoked. -/
  | service (box actor : Nat) (left invoked : Nat)
  /-- A mailbox has been serviced. -/
  | serviced (invoked : Nat)

/-- An engine and the work in progress, innermost first. -/
structure Machine (κ : Type) where
  engine : Engine κ
  tasks : List (Task κ)

namespace Engine

variable {κ : Type}

/-- Retires the actor that has the handle, if there is one. -/
def retire (engine : Engine κ) (handle : Handle) : Bool × Engine κ :=
  engine.overRoster (·.retire handle)

/-- Binds a name to a live actor. -/
def bind (engine : Engine κ) (handle : Handle) (name : String) :
    Except BindError Unit × Engine κ :=
  match engine.roster.directory.bind handle name with
  | .ok directory => (.ok (), engine.mapRoster ({ · with directory }))
  | .error cause => (.error cause, engine)

/-- Does what a command asks for, except for a launch. -/
def obey (engine : Engine κ) (caller : Handle) :
    Command → Except CommandError Reply × Engine κ
  | .reg none => (.ok (.handle caller), engine)
  | .reg (some name) =>
    match engine.bind caller name with
    | (.ok (), engine) => (.ok (.name name), engine)
    | (.error cause, engine) => (.error (.bind cause), engine)
  | .exit => (.ok .done, (engine.retire caller).2)
  | .now => (.ok (.now engine.now), engine)
  | .timeout ticks session => (.ok .done, engine.timeout caller ticks session)
  | .launch _ _ => (.ok .done, engine)

/-- An instance of a module, unless the engine stops. -/
def instantiate (engine : Engine κ) (module : String) : Except LaunchError (Instance κ) := do
  if engine.stopping then throw .shuttingDown
  let some found := engine.catalog.find? module | throw (.moduleNotFound module)
  match found.create with
  | .error cause => throw (.createFailed module cause.message)
  | .ok behaviour => return behaviour

/-- Begins a launch: creates an instance and adds an actor for it. Returns the actor's number and
the program of its init. -/
def beginLaunch (engine : Engine κ) (module args : String) :
    Except LaunchError (Nat × Program κ) × Engine κ :=
  match engine.instantiate module with
  | .error cause => (.error cause, engine)
  | .ok behaviour =>
    let capacity := engine.config.mailboxCapacity
    match engine.overRoster (·.enroll module args behaviour capacity) with
    | (none, engine) => (.error (.createFailed module "every handle is in use"), engine)
    | (some actor, engine) =>
      let handle := engine.roster.handleOf actor
      (.ok (actor, behaviour.init handle args), engine.note (.entered handle module none))

/-- Ends a launch by the outcome of the init. -/
def endLaunch (engine : Engine κ) (actor : Nat) (outcome : Except InitError Unit) :
    Except LaunchError Handle × Engine κ :=
  let handle := engine.roster.handleOf actor
  let module := engine.roster.moduleOf actor
  let args := ((engine.roster.actor? actor).map (·.args)).getD ""
  match outcome with
  | .ok () =>
    (.ok handle, engine.mapRoster fun roster =>
      ((roster.finish actor handle).note (.turned handle module (.launched args))).letGo actor)
  | .error cause =>
    (.error (.initFailed module cause), engine.mapRoster fun roster =>
      let (_, unlisted) := roster.unlist handle
      let released := unlisted.release actor handle .initFailed
      (released.note (.turned handle module (.initFailed cause.message))).letGo actor)

/-- The outcome of an init that broke off. -/
def initPanicked (text : Option String) : Except InitError Unit :=
  .error (.failed ("init panicked: " ++ panicText text))

/-- Ends the servicing of a mailbox, for which the actor was a guest. -/
def endService (engine : Engine κ) (box actor : Nat) : Engine κ :=
  let handle := engine.roster.handleOf actor
  engine.mapRoster fun roster => (roster.letGo actor).finish box handle

/-- Takes the oldest message of a mailbox, if there is one. -/
def take (engine : Engine κ) (box : Nat) : Option Message × Engine κ :=
  engine.overRoster (·.overExchange (·.take box))

end Engine

namespace Machine

variable {κ : Type}

/-- Ends a program by its outcome. -/
def endProgram (engine : Engine κ) (rest : List (Task κ)) (actor : Nat) :
    Purpose → Except InitError Unit → Machine κ
  | .init, outcome =>
    let (result, engine) := engine.endLaunch actor outcome
    { engine, tasks := .launched result :: rest }
  | .callback _, _ => { engine := { engine with completed := engine.completed + 1 }, tasks := rest }

/-- Ends a program that broke off. -/
def breakOff (engine : Engine κ) (rest : List (Task κ)) (actor : Nat) (purpose : Purpose)
    (text : Option String) : Machine κ :=
  match purpose with
  | .init => endProgram engine rest actor .init (Engine.initPanicked text)
  | .callback session =>
    let event := Event.panicked (engine.roster.handleOf actor) session (panicText text)
    endProgram (engine.note event) rest actor purpose (.ok ())

/-- Does one action of a program. -/
def act (engine : Engine κ) (rest : List (Task κ)) (actor : Nat) (purpose : Purpose) :
    Program κ → Machine κ
  | .finish outcome => endProgram engine rest actor purpose outcome
  | .panic text => breakOff engine rest actor purpose text
  | .send destination session payload next =>
    let (result, engine) := engine.sendAs actor destination session payload
    { engine, tasks := .run actor purpose (next result) :: rest }
  | .command command next =>
    let caller := engine.roster.handleOf actor
    let engine := engine.note (.commanded caller command.keyword)
    match command with
    | .launch module args =>
      { engine, tasks := .launch module args :: .resume actor purpose next :: rest }
    | command =>
      let (result, engine) := engine.obey caller command
      { engine, tasks := .run actor purpose (next result) :: rest }
  | .setCallback key next =>
    let (result, engine) := engine.overRoster (·.setCallback actor key)
    { engine, tasks := .run actor purpose (next result) :: rest }
  | .become key next =>
    { engine := engine.mapRoster (·.become actor key)
      tasks := .run actor purpose next :: rest }
  | .report report next =>
    { engine := engine.note (.reported (engine.roster.handleOf actor) report)
      tasks := .run actor purpose next :: rest }

/-- Passes one message of the mailbox in service to the actor's callback, or drops it if the actor
has none. -/
def serve (engine : Engine κ) (rest : List (Task κ)) (found : Actor κ)
    (box actor left invoked : Nat) (message : Message) : Machine κ :=
  match found.callback with
  | none =>
    { engine := engine.mapRoster (·.drop (some box) found.handle.text .noCallback message)
      tasks := .service box actor left invoked :: rest }
  | some key =>
    let entered := engine.note (.entered found.handle found.module (some message.session))
    { engine := entered.note (.invoked box actor message)
      tasks := .run actor (.callback message.session)
        (found.behaviour.receive key found.handle message) ::
          .service box actor left (invoked + 1) :: rest }

/-- Ends the servicing of a mailbox. -/
def endService (engine : Engine κ) (rest : List (Task κ)) (box actor invoked : Nat) : Machine κ :=
  { engine := engine.endService box actor, tasks := .serviced invoked :: rest }

/-- Whether the work in progress has come to its end: what is left is a result. -/
def isSettled (machine : Machine κ) : Bool :=
  match machine.tasks with
  | .launch _ _ :: _ => false
  | .run _ _ _ :: _ => false
  | .launched _ :: .resume _ _ _ :: _ => false
  | .service _ _ _ _ :: _ => false
  | _ => true

/-- One step of the work in progress, if there is any. -/
def step (machine : Machine κ) : Machine κ :=
  let { engine, tasks } := machine
  match tasks with
  | .launch module args :: rest =>
    match engine.beginLaunch module args with
    | (.ok (actor, program), engine) => { engine, tasks := .run actor .init program :: rest }
    | (.error cause, engine) => { engine, tasks := .launched (.error cause) :: rest }
  | .run actor purpose program :: rest => act engine rest actor purpose program
  | .launched result :: .resume actor purpose next :: rest =>
    let reply := (result.map Reply.handle).mapError CommandError.launch
    { engine, tasks := .run actor purpose (next reply) :: rest }
  | .service box actor 0 invoked :: rest => endService engine rest box actor invoked
  | .service box actor (left + 1) invoked :: rest =>
    match engine.roster.actor? actor with
    | none => endService engine rest box actor invoked
    | some found =>
      match engine.take box with
      | (none, engine) => endService engine rest box actor invoked
      | (some message, engine) => serve engine rest found box actor left invoked message
  | tasks => { engine, tasks }

/-- Does the work in progress to its end; nothing if the fuel does not last. -/
def settle? : Nat → Machine κ → Option (Machine κ)
  | 0, _ => none
  | fuel + 1, machine => if machine.isSettled then some machine else settle? fuel machine.step

end Machine

end Mailroom
