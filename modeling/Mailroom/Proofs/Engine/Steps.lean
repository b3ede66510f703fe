import Mailroom.Proofs.Engine.Soundness
import Mathlib.Algebra.Ring.Nat
/-! # Steps of actors at work

What happens to an engine next, and what those at work have in hands before and after it. A task
has a claim on an actor: to have its init done, or to have it receive messages of a mailbox. A step
passes one message on, or it does other work: a program does something, a launch begins or ends, or
a mailbox has been serviced. So each step is one happening, and each thing that the host does in
between is a few of them, and what every happening keeps is so throughout every run.
-/

namespace Mailroom

variable {κ : Type} {scope : Scope}

/-- What a task has in hands, and whose guest it is. -/
inductive Claim where
  /-- An actor whose init is not done, and its mailbox. -/
  | creation (actor : Nat)
  /-- A mailbox in service, and the actor that receives at most `left` more of its messages. -/
  | service (box actor left : Nat)

namespace Claim

def box : Claim → Nat
  | creation actor => actor
  | service box _ _ => box

def guest : Claim → Nat
  | creation actor => actor
  | service _ actor _ => actor

end Claim

/-- A session that a send has drawn. -/
structure Draw where
  /-- Whose counter gave it: that of an actor, or the engine's own. -/
  counter : Option Nat
  session : Int32
  /-- What the sender was told. -/
  told : Except SendError Int32

namespace Task

/-- The actor whose init a task is part of. -/
def init? : Task κ → Option Nat
  | .run actor .init _ => some actor
  | .resume actor .init _ => some actor
  | _ => none

/-- The mailbox that a task services, and the actor that receives its messages. -/
def service? : Task κ → Option (Nat × Nat)
  | .service box actor _ _ => some (box, actor)
  | _ => none

/-- The mailbox that somebody has in hands for as long as a task is not done. -/
def hand? (task : Task κ) : Option Nat := task.init?.or (task.service?.map (·.1))

def claim? : Task κ → Option Claim
  | .run actor .init _ => some (.creation actor)
  | .resume actor .init _ => some (.creation actor)
  | .service box actor left _ => some (.service box actor left)
  | _ => none

private theorem hand?_eq (task : Task κ) : task.hand? = task.claim?.map Claim.box := by
  cases task with
  | run actor purpose program => cases purpose <;> rfl
  | resume actor purpose next => cases purpose <;> rfl
  | _ => rfl

/-- The callbacks that a task says were invoked. -/
def calls : Task κ → Nat
  | .service _ _ _ invoked => invoked
  | .serviced invoked => invoked
  | _ => 0

end Task

namespace Machine

/-- The mailboxes in hands, the last one taken in front. -/
def hands (machine : Machine κ) : List Nat := machine.tasks.filterMap Task.hand?

/-- The mailboxes in service with the actors that receive their messages. -/
def services (machine : Machine κ) : List (Nat × Nat) := machine.tasks.filterMap Task.service?

/-- The engine of a machine with the claims of those at work. -/
def state (machine : Machine κ) : Engine κ × List Claim :=
  (machine.engine, machine.tasks.filterMap Task.claim?)

theorem hands_eq (machine : Machine κ) : machine.hands = machine.state.2.map Claim.box := by
  rw [hands, state, List.map_filterMap]
  exact List.filterMap_congr fun task _ => task.hand?_eq

/-- The callbacks that the work in progress says were invoked. -/
def calls (machine : Machine κ) : Nat := (machine.tasks.map Task.calls).sum

/-- What a step draws. -/
def draws (machine : Machine κ) : List Draw :=
  match machine.tasks with
  | .run actor _ (.send destination session payload _) :: _ =>
    if session < 0 then
      [{ counter := some actor
         session := (machine.engine.allocateFor actor).1
         told := (machine.engine.sendAs actor destination session payload).1 }]
    else []
  | _ => []

/-- The actor whose callback the next step may set or change. -/
def setter? (machine : Machine κ) : Option Nat :=
  match machine.tasks with
  | .run actor _ (.setCallback _ _) :: _ => some actor
  | .run actor _ (.become _ _) :: _ => some actor
  | _ => none

end Machine

namespace Engine

/-- Takes the mailbox at the head of the run queue. -/
def taking (engine : Engine κ) (exchange : Exchange) : Engine κ :=
  engine.mapRoster ({ · with exchange })

/-- The work of servicing a mailbox. -/
def servicing (engine : Engine κ) (box actor : Nat) (exchange : Exchange) : Machine κ where
  engine := (engine.taking exchange).mapRoster (·.hold actor)
  tasks := [.service box actor engine.config.messagesPerRun 0]

/-- Adds a live actor, if a handle is left. -/
def enrolling (engine : Engine κ) (module args : String) (behaviour : Instance κ) : Engine κ :=
  (engine.overRoster (·.enroll module args behaviour engine.config.mailboxCapacity)).2

/-- Adds a live actor whose init begins. -/
def creating (engine : Engine κ) (module args : String) (behaviour : Instance κ) : Engine κ :=
  let enrolled := engine.enrolling module args behaviour
  enrolled.note (.entered (enrolled.roster.handleOf engine.roster.actors.size) module none)

/-- What comes of beginning a launch. -/
inductive Begins (engine : Engine κ) (module args : String) :
    Except LaunchError (Nat × Program κ) × Engine κ → Prop where
  | refused (cause : LaunchError) : Begins engine module args (.error cause, engine)
  /-- Every handle is in use. -/
  | exhausted (behaviour : Instance κ) (cause : LaunchError)
    (issued : (engine.roster.directory.register engine.roster.actors.size).1 = none) :
    Begins engine module args (.error cause, engine.enrolling module args behaviour)
  | created (behaviour : Instance κ) (program : Program κ) {handle : Handle}
    (issued : (engine.roster.directory.register engine.roster.actors.size).1 = some handle) :
    Begins engine module args
      (.ok (engine.roster.actors.size, program), engine.creating module args behaviour)

theorem begins (engine : Engine κ) (module args : String) :
    engine.Begins module args (engine.beginLaunch module args) := by
  cases created : engine.instantiate module with
  | error cause =>
    rw [beginLaunch, created]
    exact .refused cause
  | ok behaviour =>
    cases issued : (engine.roster.directory.register engine.roster.actors.size).1 with
    | none =>
      have exhausted : engine.Begins module args _ :=
        .exhausted behaviour (.createFailed module "every handle is in use") issued
      simp only [enrolling, overRoster, Roster.enroll_of_none module args behaviour _ issued]
        at exhausted
      simp only [beginLaunch, created, overRoster,
        Roster.enroll_of_none module args behaviour _ issued]
      exact exhausted
    | some handle =>
      have entered (program : Program κ) : engine.Begins module args _ :=
        .created behaviour program issued
      simp only [creating, enrolling, overRoster,
        Roster.enroll_of_issued module args behaviour _ issued] at entered
      simp only [beginLaunch, created, overRoster,
        Roster.enroll_of_issued module args behaviour _ issued]
      exact entered _

end Engine

/-- Work that passes no message on, with the claims of those at work before and after it. -/
inductive Works (scope : Scope) : Engine κ × List Claim → Engine κ × List Claim → Prop where
  | steady {engine after claims} (steady : engine.Steady scope after) :
    Works scope (engine, claims) (after, claims)
  /-- Every handle is in use. -/
  | exhaust {engine claims} (module args : String) (behaviour : Instance κ)
    (issued : (engine.roster.directory.register engine.roster.actors.size).1 = none) :
    Works scope (engine, claims) (engine.enrolling module args behaviour, claims)
  | create {engine claims handle} (module args : String) (behaviour : Instance κ)
    (issued : (engine.roster.directory.register engine.roster.actors.size).1 = some handle) :
    Works scope (engine, claims) (engine.creating module args behaviour,
      .creation engine.roster.actors.size :: claims)
  | endLaunch {engine claims} (actor : Nat) (outcome : Except InitError Unit) :
    Works scope (engine, .creation actor :: claims) ((engine.endLaunch actor outcome).2, claims)
  | endService {engine claims} (box actor left : Nat) :
    Works scope (engine, .service box actor left :: claims) (engine.endService box actor, claims)

/-- One thing that happens to an engine within a scope, with the claims of those at work before and
after it. The host subscribes to dead letters and shuts the engine down only if it may. -/
inductive Happens (scope : Scope) (may : Request → Prop) :
    Engine κ × List Claim → Engine κ × List Claim → Prop where
  | work {start stop} (works : Works scope start stop) : Happens scope may start stop
  | take {engine box actor exchange} (allowed : scope.takes)
    (taken : engine.roster.exchange.next? = some (box, exchange))
    (live : engine.roster.find? (exchange.handleOf box) = some actor) :
    Happens scope may (engine, []) (engine.servicing box actor exchange).state
  | invoke {engine claims box actor left message exchange found}
    (taken : engine.roster.exchange.take box = (some message, exchange))
    (seen : engine.roster.actor? actor = some found) :
    Happens scope may (engine, .service box actor (left + 1) :: claims)
      (((engine.taking exchange).note
          (.entered found.handle found.module (some message.session))).note
            (.invoked box actor message), .service box actor left :: claims)
  /-- A message is taken for an actor without a callback. -/
  | skip {engine claims box actor left message exchange found}
    (taken : engine.roster.exchange.take box = (some message, exchange))
    (seen : engine.roster.actor? actor = some found) :
    Happens scope may (engine, .service box actor (left + 1) :: claims)
      ((engine.taking exchange).mapRoster
          (·.drop (some box) found.handle.text .noCallback message),
        .service box actor left :: claims)
  /-- A mailbox whose actor is gone is taken from the run queue and emptied. -/
  | discard {engine box exchange} (allowed : scope.takes)
    (taken : engine.roster.exchange.next? = some (box, exchange))
    (gone : engine.roster.find? (exchange.handleOf box) = none) (reason : DropReason) :
    Happens scope may (engine, [])
      ((engine.taking exchange).mapRoster (·.release box (exchange.handleOf box) reason), [])
  | subscribe {engine} (allowed : may .subscribe) :
    Happens scope may (engine, []) (engine.subscribe, [])
  /-- A subscriber takes letters or goes. -/
  | observe {engine outlet} (subscribed : engine.roster.outlet.subscribers ≠ [])
    (copies : outlet.copies = engine.roster.outlet.copies) :
    Happens scope may (engine, []) (engine.withOutlet outlet, [])
  | stop {engine} (allowed : may .shutdown) :
    Happens scope may (engine, []) ({ engine with stopping := true }, [])

/-- Any number of happenings. -/
abbrev Course (scope : Scope) (may : Request → Prop) :
    Engine κ × List Claim → Engine κ × List Claim → Prop :=
  Relation.ReflTransGen (Happens scope may)

variable {may : Request → Prop} {start stop : Engine κ × List Claim}

/-! ### What happens to the roster -/

/-- Mailboxes and those who have them in hands are in step, and messages are passed on from the
mailboxes of one handle to the actors of the same one. -/
structure Consistent (state : Engine κ × List Claim) : Prop where
  sound : state.1.roster.Sound (state.2.map Claim.box)
  fits : ∀ claim ∈ state.2, ∃ handle, state.1.roster.handle? claim.box = some handle ∧
    state.1.roster.handle? claim.guest = some handle

/-- The mailbox at the head of the run queue belongs to the actor of its number. -/
theorem Roster.Sound.of_next? {roster : Roster κ} {hands : List Nat} (sound : roster.Sound hands)
    {box : Nat} {exchange : Exchange} (taken : roster.exchange.next? = some (box, exchange)) :
    Sound { roster with exchange } (box :: hands) ∧
      roster.handle? box = some (exchange.handleOf box) := by
  have after := sound.move (.next trivial taken)
  refine ⟨after, ?_⟩
  obtain ⟨found, holds⟩ := after.owned.known (.inr List.mem_cons_self)
  have own : exchange.handle? box = some found.handle := by
    rw [Exchange.handle?, holds]
    rfl
  have same : exchange.handleOf box = found.handle := by
    rw [Exchange.handleOf, holds]
    rfl
  rw [same, ← own]
  exact (after.same box).symm

/-- Other work is a few moves of the roster. -/
theorem Works.moves (works : Works scope start stop) (consistent : Consistent start) :
    Roster.Moves scope (start.1.roster, start.2.map Claim.box)
      (stop.1.roster, stop.2.map Claim.box) := by
  cases works with
  | steady steady => exact steady.roster.moves _
  | @exhaust engine claims module args behaviour issued =>
    have enrolled : Roster.Move scope (engine.roster, claims.map Claim.box) _ :=
      .enroll module args behaviour engine.config.mailboxCapacity
    rw [Roster.enroll_of_none module args behaviour _ issued] at enrolled
    simp only [Engine.enrolling, Engine.overRoster,
      Roster.enroll_of_none module args behaviour _ issued]
    exact .single enrolled
  | @create engine claims handle module args behaviour issued =>
    have enrolled : Roster.Move scope (engine.roster, claims.map Claim.box) _ :=
      .enroll module args behaviour engine.config.mailboxCapacity
    have number : (engine.roster.enroll module args behaviour engine.config.mailboxCapacity).1 =
        some engine.roster.actors.size := by
      rw [Roster.enroll_of_issued module args behaviour _ issued]
    rw [number] at enrolled
    exact (Relation.ReflTransGen.single enrolled).tail (.note _ rfl)
  | endLaunch actor outcome => exact Engine.moves_endLaunch _ actor outcome _
  | endService box actor left =>
    obtain ⟨handle, belongs, has⟩ := consistent.fits _ List.mem_cons_self
    exact Engine.moves_endService _ belongs has _

namespace Happens

theorem steady {engine after : Engine κ} {claims : List Claim}
    (steady : engine.Steady scope after) : Happens scope may (engine, claims) (after, claims) :=
  .work (.steady steady)

/-- Whatever happens is a few moves of the roster. -/
theorem moves (happens : Happens scope may start stop) (consistent : Consistent start) :
    Roster.Moves scope (start.1.roster, start.2.map Claim.box)
      (stop.1.roster, stop.2.map Claim.box) := by
  obtain ⟨sound, fits⟩ := consistent
  cases happens with
  | work works => exact works.moves ⟨sound, fits⟩
  | take allowed taken live =>
    exact (Relation.ReflTransGen.single (.next allowed taken)).trans (Roster.moves_hold _ _ _)
  | @invoke engine claims box actor left message exchange found taken seen =>
    obtain ⟨handle, belongs, has⟩ := fits _ List.mem_cons_self
    have entered : Roster.Move scope (engine.roster, box :: claims.map Claim.box) _ :=
      .note (.entered found.handle found.module (some message.session)) rfl
    exact (Relation.ReflTransGen.single entered).tail (.invoke taken belongs has)
  | @skip engine claims box actor left message exchange found taken seen =>
    obtain ⟨handle, belongs, has⟩ := fits _ List.mem_cons_self
    have own : engine.roster.handleOf box = found.handle := by
      have named : engine.roster.handle? actor = some found.handle := by
        rw [Roster.handle?, seen]
        rfl
      obtain rfl := Option.some.inj (named.symm.trans has)
      exact congrArg (·.getD default) belongs
    rw [← own]
    exact .single (.skip taken)
  | @discard engine box exchange allowed taken gone reason =>
    obtain ⟨_, belongs⟩ := sound.of_next? taken
    have released : Roster.Move scope ((engine.taking exchange).roster, [box])
        ((engine.taking exchange).roster.release box (exchange.handleOf box) reason, []) :=
      (engine.taking exchange).roster.move_release belongs gone reason []
    exact (Relation.ReflTransGen.single (.next allowed taken)).tail released
  | subscribe allowed => exact .single (.outlet _)
  | observe subscribed copies => exact .single (.outlet _)
  | stop allowed => exact .refl

private theorem consistent (happens : Happens scope may start stop)
    (consistent : Consistent start) : Consistent stop := by
  have moves := happens.moves consistent
  have sound := consistent.sound.moves (Roster.Moves.widen moves)
  -- who has a handle keeps it, so only a claim that is new has to be looked at
  have kept (claim : Claim) (old : claim ∈ start.2) :
      ∃ handle, stop.1.roster.handle? claim.box = some handle ∧
        stop.1.roster.handle? claim.guest = some handle := by
    obtain ⟨handle, belongs, has⟩ := consistent.fits claim old
    exact ⟨handle, moves.handle?_eq_some belongs, moves.handle?_eq_some has⟩
  refine ⟨sound, ?_⟩
  cases happens with
  | work works =>
    cases works with
    | create module args behaviour issued =>
      refine List.forall_mem_cons.2 ⟨?_, kept⟩
      obtain ⟨box, found⟩ := sound.owned.known (.inr List.mem_cons_self)
      have has := sound.handle?_eq_handleOf found
      exact ⟨_, has, has⟩
    | endLaunch actor outcome =>
      exact fun claim member => kept claim (List.mem_cons_of_mem _ member)
    | endService box actor left =>
      exact fun claim member => kept claim (List.mem_cons_of_mem _ member)
    | _ => exact kept
  | take allowed taken live =>
    refine List.forall_mem_cons.2 ⟨?_, fun _ member => nomatch member⟩
    obtain ⟨_, belongs⟩ := consistent.sound.of_next? taken
    exact ⟨_, moves.handle?_eq_some belongs,
      moves.handle?_eq_some (consistent.sound.listed live)⟩
  | invoke taken seen =>
    obtain ⟨first, rest⟩ := List.forall_mem_cons.1 kept
    exact List.forall_mem_cons.2 ⟨first, rest⟩
  | skip taken seen =>
    obtain ⟨first, rest⟩ := List.forall_mem_cons.1 kept
    exact List.forall_mem_cons.2 ⟨first, rest⟩
  | _ => exact kept

end Happens

namespace Course

theorem consistent (course : Course scope may start stop) (consistent : Consistent start) :
    Consistent stop := by
  induction course with
  | refl => exact consistent
  | tail _ happens ih => exact happens.consistent ih

theorem moves (course : Course scope may start stop) (consistent : Consistent start) :
    Roster.Moves scope (start.1.roster, start.2.map Claim.box)
      (stop.1.roster, stop.2.map Claim.box) := by
  induction course with
  | refl => exact .refl
  | tail before happens ih => exact ih.trans (happens.moves (Course.consistent before consistent))

end Course

/-! ### Steps -/

namespace Machine

/-- What one step does. -/
inductive Deed (scope : Scope) : Machine κ → Machine κ → Prop where
  | serve {engine exchange rest found box actor left invoked message}
    (seen : engine.roster.actor? actor = some found)
    (took : engine.roster.exchange.take box = (some message, exchange)) :
    Deed scope { engine, tasks := .service box actor (left + 1) invoked :: rest }
      (serve (engine.taking exchange) rest found box actor left invoked message)
  | work {machine after} (works : Works scope machine.state after.state)
    (calls : after.calls = machine.calls) : Deed scope machine after

private theorem deed_endProgram (engine : Engine κ) (rest : List (Task κ)) (actor : Nat)
    (purpose : Purpose) (program : Program κ) (outcome : Except InitError Unit) :
    Deed scope { engine, tasks := .run actor purpose program :: rest }
      (endProgram engine rest actor purpose outcome) := by
  cases purpose with
  | init => exact .work (.endLaunch actor outcome) rfl
  | callback session =>
    exact .work (.steady ⟨.refl, rfl, rfl, .inr rfl⟩) (Nat.zero_add _).symm

/-- A program goes on, whatever it did to the roster. -/
theorem deed_of_steady {engine changed : Engine κ} (steady : engine.Steady scope changed)
    (rest : List (Task κ)) (actor : Nat) (purpose : Purpose) (program next : Program κ) :
    Deed scope { engine, tasks := .run actor purpose program :: rest }
      { engine := changed, tasks := .run actor purpose next :: rest } := by
  cases purpose with
  | init => exact .work (.steady steady) rfl
  | callback session => exact .work (.steady steady) rfl

private theorem deed_command (engine : Engine κ) (rest : List (Task κ)) (actor : Nat)
    (purpose : Purpose) (command : Command) (next : Except CommandError Reply → Program κ) :
    Deed scope { engine, tasks := .run actor purpose (.command command next) :: rest }
      (act engine rest actor purpose (.command command next)) := by
  let caller := engine.roster.handleOf actor
  have noted : engine.Steady scope (engine.note (.commanded caller command.keyword)) :=
    engine.steady_note _ rfl
  have obeyed := noted.trans (Engine.steady_obey _ caller command)
  cases command with
  | launch module args =>
    cases purpose with
    | init => exact .work (.steady noted) (Nat.zero_add _)
    | callback session => exact .work (.steady noted) (Nat.zero_add _)
  | _ => exact deed_of_steady obeyed ..

private theorem deed_act (engine : Engine κ) (rest : List (Task κ)) (actor : Nat)
    (purpose : Purpose) (program : Program κ)
    (counts : ∀ draw ∈ draws { engine, tasks := .run actor purpose program :: rest },
      scope.draws draw.counter)
    (serves : ∀ number, setter? { engine, tasks := .run actor purpose program :: rest } =
      some number → scope.sets number) :
    Deed scope { engine, tasks := .run actor purpose program :: rest }
      (act engine rest actor purpose program) := by
  cases program with
  | finish outcome => exact deed_endProgram ..
  | panic text =>
    cases purpose with
    | init => exact deed_endProgram engine rest actor .init _ (Engine.initPanicked text)
    | callback session =>
      let event := Event.panicked (engine.roster.handleOf actor) session (panicText text)
      have noted : engine.Steady scope (engine.note event) := engine.steady_note event rfl
      exact .work (.steady ⟨noted.roster, rfl, rfl, .inr rfl⟩) (Nat.zero_add _).symm
  | send destination session payload next =>
    refine deed_of_steady (engine.steady_sendAs destination payload fun asked => ?_) ..
    simp only [draws, if_pos asked] at counts
    exact counts _ List.mem_cons_self
  | command command next => exact deed_command ..
  | setCallback key next =>
    have set : engine.Steady scope (engine.overRoster (·.setCallback actor key)).2 :=
      ⟨engine.roster.steady_setCallback (serves actor rfl) key, rfl, rfl, .inr rfl⟩
    exact deed_of_steady set ..
  | become key next =>
    have became : engine.Steady scope (engine.mapRoster (·.become actor key)) :=
      ⟨engine.roster.steady_become (serves actor rfl) key, rfl, rfl, .inr rfl⟩
    exact deed_of_steady became ..
  | report report next => exact deed_of_steady (engine.steady_note _ rfl) ..

private theorem deed_beginLaunch (engine : Engine κ) (rest : List (Task κ)) (module args : String) :
    Deed scope { engine, tasks := .launch module args :: rest }
      (step { engine, tasks := .launch module args :: rest }) := by
  have begins := engine.begins module args
  dsimp only [step]
  generalize engine.beginLaunch module args = begun at begins
  cases begins with
  | refused cause => exact .work (.steady (.refl engine)) rfl
  | exhausted behaviour cause issued => exact .work (.exhaust module args behaviour issued) rfl
  | created behaviour program issued => exact .work (.create module args behaviour issued) rfl

private theorem deed_service (engine : Engine κ) (rest : List (Task κ))
    (box actor left invoked : Nat) :
    Deed scope { engine, tasks := .service box actor left invoked :: rest }
      (step { engine, tasks := .service box actor left invoked :: rest }) := by
  have ended : Deed scope { engine, tasks := .service box actor left invoked :: rest }
      (endService engine rest box actor invoked) := .work (.endService box actor left) rfl
  cases left with
  | zero => exact ended
  | succ left =>
    cases seen : engine.roster.actor? actor with
    | none =>
      simp only [step, seen]
      exact ended
    | some found =>
      rcases took : engine.roster.exchange.take box with ⟨_ | message, exchange⟩
      · obtain none | ⟨_, _, _, _, _, some⟩ := engine.roster.exchange.take_cases box
        · obtain rfl : engine.roster.exchange = exchange :=
            congrArg Prod.snd (none.symm.trans took)
          simp only [step, seen, Engine.take, Engine.overRoster, Roster.overExchange, took]
          exact ended
        · exact nomatch took.symm.trans some
      · simp only [step, seen, Engine.take, Engine.overRoster, Roster.overExchange, took]
        exact .serve seen took

/-- Every step passes one message on or does other work. -/
theorem deed_step (machine : Machine κ)
    (counts : ∀ draw ∈ machine.draws, scope.draws draw.counter)
    (serves : ∀ number, machine.setter? = some number → scope.sets number) :
    Deed scope machine machine.step := by
  obtain ⟨engine, tasks⟩ := machine
  unfold step
  dsimp only
  split
  · exact deed_beginLaunch ..
  · exact deed_act _ _ _ _ _ counts serves
  · rename_i result actor purpose next rest
    cases purpose with
    | init => exact .work (.steady (.refl engine)) (Nat.zero_add _).symm
    | callback session => exact .work (.steady (.refl engine)) (Nat.zero_add _).symm
  · exact deed_service ..
  · exact deed_service ..
  · exact .work (.steady (.refl engine)) rfl

theorem Deed.happens {machine after : Machine κ} (deed : Deed scope machine after) :
    Happens scope may machine.state after.state := by
  cases deed with
  | work works calls => exact .work works
  | serve seen took =>
    unfold Machine.serve
    split
    · exact .skip took seen
    · exact .invoke took seen

/-- Every step is one thing that happens. -/
theorem happens_step (machine : Machine κ)
    (counts : ∀ draw ∈ machine.draws, scope.draws draw.counter)
    (serves : ∀ number, machine.setter? = some number → scope.sets number) :
    Happens scope may machine.state machine.step.state := (machine.deed_step counts serves).happens

theorem course_step (machine : Machine κ) : Course .any may machine.state machine.step.state :=
  .single (machine.happens_step (fun _ _ => trivial) fun _ _ => trivial)

end Machine

end Mailroom
