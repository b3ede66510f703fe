import Mailroom.Proofs.Engine.Lockstep
import Mailroom.Proofs.Engine.Runs
/-! # Growth is not observed

Two engines whose configurations differ only in the room that queues begin with answer every history
of requests alike, and at every moment of a run they look the same. So whenever a queue grows,
nothing of it shows.
-/

namespace Mailroom

variable {κ : Type}

/-- Queues may have other room, and the journals are the same. -/
def Likeness.growth : Likeness := { rooms := True, began := ([], []) }

private theorem Likeness.journals_growth {past past' : List Event} :
    growth.Journals past past' ↔ past' = past := by
  simp [Journals, growth, eq_comm]

/-! ### Runs -/

section Runs

variable {kind : Likeness} {may : Request → Prop} {machine twin after : Machine κ}

/-- Whatever can come next of one machine has its like that can come next of the other. -/
theorem Machine.Alike.next (alike : machine.Alike kind twin) (next : Next may machine after) :
    ∃ after', Next may twin after' ∧ after.Alike kind after' := by
  obtain ⟨other, tasks⟩ := twin
  cases next with
  | performed allowed performed =>
    rename_i engine after fuel request answer
    obtain ⟨alike, rfl⟩ := alike
    obtain ⟨none, _⟩ | ⟨_, left, right, found, found', same⟩ :=
      Agree.cases_rel (alike.perform? fuel request)
    · exact nomatch none.symm.trans performed
    · obtain ⟨rfl, rfl⟩ := Prod.mk.inj (Option.some.inj (found.symm.trans performed))
      exact ⟨_, .performed allowed found', same, rfl⟩
  | launching module args =>
    obtain ⟨alike, rfl⟩ := alike
    exact ⟨_, .launching module args, alike, rfl⟩
  | commanding caller module args =>
    obtain ⟨alike, rfl⟩ := alike
    exact ⟨_, .commanding caller module args, alike.note _, rfl⟩
  | servicing taken live =>
    rename_i engine _ actor exchange
    obtain ⟨alike, rfl⟩ := alike
    obtain ⟨none, _⟩ | ⟨box, left, right, found, found', same⟩ :=
      Agree.cases_rel alike.roster.exchange.next?
    · exact nomatch none.symm.trans taken
    · obtain ⟨rfl, rfl⟩ := Prod.mk.inj (Option.some.inj (found.symm.trans taken))
      have live' : other.roster.find? (right.handleOf box) = some actor := by
        rw [same.alike.handleOf_eq, alike.roster.find?_eq, live]
      exact ⟨_, .servicing found' live', alike.servicing box actor same⟩
  | stepped => exact ⟨_, .stepped _, alike.step⟩
  | launched result =>
    obtain ⟨alike, rfl⟩ := alike
    exact ⟨_, .launched result, alike, rfl⟩
  | serviced invoked =>
    obtain ⟨alike, rfl⟩ := alike
    exact ⟨_, .serviced invoked, alike, rfl⟩

theorem Machine.Alike.later (alike : machine.Alike kind twin) (later : Later may machine after) :
    ∃ after', Later may twin after' ∧ after.Alike kind after' := by
  induction later with
  | refl => exact ⟨twin, .refl, alike⟩
  | tail _ next ih =>
    obtain ⟨between, later, same⟩ := ih
    obtain ⟨after', next', ended⟩ := same.next next
    exact ⟨after', later.tail next', ended⟩

end Runs

/-! ### Views -/

namespace Engine

/-- What there is to see of an engine apart from its configuration and the room of its queues. -/
structure View (κ : Type) where
  /-- What has happened, newest first: the callbacks that were invoked, what actors did and every
  dead letter among it. -/
  past : List Event
  /-- The dead letters that can be received, and by whom. -/
  outlet : Outlet
  catalog : Catalog (Module κ)
  directory : Directory Nat
  actors : Array (Actor κ)
  /-- The messages of each mailbox, oldest first. -/
  messages : Nat → List Message
  /-- The mailboxes in the run queue, in order. -/
  waiting : List Nat
  timer : Timer
  metrics : Metrics
  lastSession : Int32
  stopping : Bool
  running : Bool
  completed : Nat

def view (engine : Engine κ) : View κ where
  past := engine.roster.past
  outlet := engine.roster.outlet
  catalog := engine.catalog
  directory := engine.roster.directory
  actors := engine.roster.actors
  messages := engine.roster.exchange.messages
  waiting := engine.roster.exchange.waiting
  timer := engine.timer
  metrics := engine.metrics
  lastSession := engine.lastSession
  stopping := engine.stopping
  running := engine.running
  completed := engine.completed

variable {engine twin : Engine κ}

private theorem Alike.create {config : Config} {modules : List (String × Module κ)}
    {mailboxCapacity runQueueRoom : Nat} (created : Engine.create config modules = .ok engine)
    (created' : Engine.create { config with mailboxCapacity, runQueueRoom } modules = .ok twin) :
    engine.Alike .growth twin := by
  unfold Engine.create at created created'
  split at created
  · exact nomatch created
  · split at created'
    · exact nomatch created'
    · obtain rfl := Except.ok.inj created
      obtain rfl := Except.ok.inj created'
      exact .intro (.inl trivial)
        (.intro ⟨Exchange.alike_ofRoom _ _, .inl trivial⟩ (Likeness.journals_growth.mpr rfl))

private theorem Alike.view_eq (alike : engine.Alike .growth twin) : twin.view = engine.view := by
  have exchanges := alike.roster.exchange.alike
  have messages : twin.roster.exchange.messages = engine.roster.exchange.messages :=
    funext exchanges.messages_eq
  have waiting : twin.roster.exchange.waiting = engine.roster.exchange.waiting := exchanges.runQueue
  have metrics := alike.metrics_eq
  obtain ⟨_, ⟨_, journals⟩⟩ := alike
  obtain rfl := Likeness.journals_growth.mp journals
  unfold view
  rw [messages, waiting, metrics]

/-- Two engines with the same modules, whose configurations differ at most in the room that
mailboxes and the run queue begin with, give the same answers to every history of requests and look
the same after it; or the fuel does not last for either. Neither can a state be reached, with work
in progress or without, that the other does not have its like of. -/
theorem growth_unobserved {config : Config} {modules : List (String × Module κ)}
    {mailboxCapacity runQueueRoom : Nat} {engine twin : Engine κ}
    (created : create config modules = .ok engine)
    (created' : create { config with mailboxCapacity, runQueueRoom } modules = .ok twin) :
    (∀ fuel requests, (twin.performAll? fuel requests).map (Prod.map id view) =
      (engine.performAll? fuel requests).map (Prod.map id view)) ∧
    ∀ machine, Later (fun _ => True) { engine, tasks := [] } machine →
      ∃ other, Later (fun _ => True) { engine := twin, tasks := [] } other ∧
        other.tasks = machine.tasks ∧ other.engine.view = machine.engine.view := by
  have alike : engine.Alike .growth twin := .create created created'
  constructor
  · intro fuel requests
    obtain ⟨none, none'⟩ | ⟨answers, left, right, found, found', same⟩ :=
      Agree.cases_rel (alike.performAll? fuel requests)
    · rw [none, none']
    · rw [found, found', Option.map_some, Option.map_some, Prod.map_apply, Prod.map_apply,
        same.view_eq]
  · intro machine later
    have begun : Machine.Alike .growth { engine, tasks := [] } { engine := twin, tasks := [] } :=
      ⟨alike, rfl⟩
    obtain ⟨other, later', same⟩ := begun.later later
    exact ⟨other, later', same.tasks, same.engine.view_eq⟩

end Engine

/-- A module whose actors send themselves two messages at each of the first few, so that mailboxes
fill up while callbacks run. -/
def spreader : Module Unit where
  create := .ok {
    init := fun _ _ => .setCallback () fun _ => .finish (.ok ())
    receive := fun _ own message =>
      if message.session < 3 then
        .send (.handle own) (message.session + 1) [] fun _ =>
          .send (.handle own) (message.session + 1) [] fun _ => .finish (.ok ())
      else .finish (.ok ()) }

/-- Two such actors, each of which is sent a message. -/
def spreading : List Request :=
  [.create "spread" "", .create "spread" "", .send none (.handle ⟨1⟩) 1 [],
    .send none (.handle ⟨2⟩) 1 [], .runUntilIdle]

theorem Engine.growth_unobserved_of_spreader :
    ∃ engine twin : Engine Unit,
      create Config.standard [("spread", spreader)] = .ok engine ∧
      create { Config.standard with mailboxCapacity := 1, runQueueRoom := 1 }
        [("spread", spreader)] = .ok twin ∧
      (engine.performAll? 20 spreading).map (·.2.roster.exchange.boxes.map (·.messages.capacity)) =
        some #[64, 64] ∧
      (twin.performAll? 20 spreading).map (·.2.roster.exchange.boxes.map (·.messages.capacity)) =
        some #[4, 4] ∧
      (twin.performAll? 20 spreading).map (Prod.map id view) =
        (engine.performAll? 20 spreading).map (Prod.map id view) := by
  have created : create Config.standard [("spread", spreader)] = .ok _ := rfl
  have created' : create { Config.standard with mailboxCapacity := 1, runQueueRoom := 1 }
    [("spread", spreader)] = .ok _ := rfl
  exact ⟨_, _, created, created', by decide +kernel, by decide +kernel,
    (growth_unobserved created created').1 20 spreading⟩

end Mailroom
